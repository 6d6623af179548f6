import Checkup.Entries
import Checkup.Json.Value

/-!
# Decoding JSON

A decoder turns a value into a domain value, or refuses it. Records are read by the names of their fields:

* Members with other names are passed over, and a field given twice makes the record unreadable.
* A record may also be written as an array of its fields in order; fields missing at the end count as
  absent.
* What an absent field means is decided field by field (`required`, `optional`, `withDefault`).
-/

namespace Checkup.Json

/-- The number of members with a name. -/
def occurrences (name : String) (members : List (String × Json)) : Nat :=
  (members.filter (·.1 == name)).length

/-- The value of the first member with a name. -/
def member? (name : String) (members : List (String × Json)) : Option Json :=
  (members.find? (·.1 == name)).map (·.2)

/-- The fields of a record, by their names. -/
def fields? (names : List String) : Json → Option (List (Option Json))
  | object members =>
    if names.any fun name => 1 < occurrences name members then none
    else some (names.map (member? · members))
  | array items =>
    if names.length < items.length then none
    else some (items.map some ++ List.replicate (names.length - items.length) none)
  | _ => none

/-- The field with an index, absent if there is none. -/
def fieldAt (fields : List (Option Json)) (i : Nat) : Option Json :=
  (fields[i]?).join

/-- A field that has to be there. -/
def required (decode : Json → Option α) : Option Json → Option α
  | none => none
  | some value => decode value

/-- A field that may be absent or null. -/
def optional (decode : Json → Option α) : Option Json → Option (Option α)
  | none => some none
  | some null => some none
  | some value => (decode value).map some

/-- A field with a value for when it is absent; null is no value. -/
def withDefault (decode : Json → Option α) (default : α) : Option Json → Option α
  | none => some default
  | some value => decode value

/-- A boolean. -/
def bool? : Json → Option Bool
  | bool value => some value
  | _ => none

/-- A string. -/
def string? : Json → Option String
  | string text => some text
  | _ => none

/-- A natural number less than `limit`, written without point and exponent. -/
def natBelow? (limit : Nat) : Json → Option Nat
  | number literal => literal.nat? limit
  | _ => none

/-- A word of 64 bits. -/
def word? : Json → Option Nat :=
  natBelow? (Nat.pow 2 64)

/-- A word of 32 bits. -/
def word32? : Json → Option Nat :=
  natBelow? (Nat.pow 2 32)

/-- A double; whole numbers are doubles too. -/
def float? : Json → Option Float
  | number literal => literal.float?
  | _ => none

/-- A list. -/
def list? (decode : Json → Option α) : Json → Option (List α)
  | array items => items.mapM decode
  | _ => none

/-- The members of an object, the values decoded, in order of writing. -/
def entries? (decode : Json → Option α) : Json → Option (List (String × α))
  | object members => members.mapM fun (name, value) => (decode value).map (name, ·)
  | _ => none

/-- The entries of an object by ascending key, the last value of a repeated one. -/
def sortedEntries? (decode : Json → Option α) (value : Json) : Option (List (String × α)) :=
  (entries? decode value).map (Entries.sort ∘ Entries.merge)

/-- A value of an enumeration, by the names of its constants. A constant may also be written as the name of
an only member with value null. -/
def constant? (constants : List (String × α)) : Json → Option α
  | string name => constants.lookup name
  | object [(name, null)] => constants.lookup name
  | _ => none

mutual

/-- The value with the members of every object by ascending name, the last value of a repeated one. -/
def normalizeMembers : Json → Json
  | array items => array (normalizeItems items)
  | object members => object (Entries.sort (Entries.merge (normalizeEntries members)))
  | value => value

/-- The items with their members in order. -/
def normalizeItems : List Json → List Json
  | [] => []
  | item :: items => normalizeMembers item :: normalizeItems items

/-- The entries with the members of their values in order. -/
def normalizeEntries : List (String × Json) → List (String × Json)
  | [] => []
  | (name, value) :: members => (name, normalizeMembers value) :: normalizeEntries members

end

end Checkup.Json
