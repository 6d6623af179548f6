import Checkup.Config.Decode
import Checkup.Yaml.Node

/-!
# Decoding documents

What a scalar means depends on what is wanted there. Where a number is wanted, a plain scalar is read as one;
where a string is wanted, every scalar is one. Where several kinds can stand, a plain scalar is what it looks
like (`Meaning.ofPlain`) and any other a string, unless a tag says what it is.
-/

namespace Checkup.Yaml

/-! ### Numbers -/

/-- The value of digits to a base; there is at least one. -/
def digits? (base : Nat) (cs : List Char) : Option Nat :=
  if cs.isEmpty then none
  else cs.foldlM (fun n c => do
    let digit ← hexDigit? c
    guard (digit < base)
    return base * n + digit) 0

/-- Whether a scalar consists of digits, sign apart, with a zero in front that a number would not have. -/
def hasIdleZero (cs : List Char) : Bool :=
  let cs := match cs with
    | '-' :: rest | '+' :: rest => rest
    | rest => rest
  1 < cs.length && cs.head? = some '0' && cs.all Char.isDigit

/-- The value of digits after the sign of a number, with a mark for a base other than ten. -/
def natural? (cs : List Char) : Option Nat :=
  match cs with
  | '0' :: 'x' :: rest => digits? 16 rest
  | '0' :: 'o' :: rest => digits? 8 rest
  | '0' :: 'b' :: rest => digits? 2 rest
  | rest => if hasIdleZero rest then none else digits? 10 rest

/-- A whole number. -/
def integer? (cs : List Char) : Option Int :=
  match cs with
  | '-' :: rest => (natural? rest).map fun n => -(n : Int)
  | '+' :: rest => (natural? rest).map fun n => (n : Int)
  | rest => (natural? rest).map fun n => (n : Int)

/-- The double nearest to `digits · 10 ^ exponent`, if that is finite. -/
def nearestDouble? (digits : Nat) (exponent : Int) : Option Float :=
  let point := exponent + (Nat.toDigits 10 digits).length
  if digits = 0 || point < -400 then some 0
  else if 400 < point then none
  else
    let x := Float.ofScientific digits (exponent < 0) exponent.natAbs
    if x.isFinite then some x else none

/-- A decimal with an optional exponent, after its sign. -/
def unsignedDecimal? (cs : List Char) : Option Float := do
  let (whole, rest) := cs.span Char.isDigit
  let (fraction, rest) := match rest with
    | '.' :: rest => rest.span Char.isDigit
    | rest => ([], rest)
  guard (!(whole ++ fraction).isEmpty)
  let digits ← digits? 10 (whole ++ fraction)
  let exponent ← match rest with
    | [] => some (0 : Int)
    | mark :: rest =>
      if mark = 'e' || mark = 'E' then
        match rest with
        | '-' :: rest => (digits? 10 rest).map fun n => -(n : Int)
        | '+' :: rest => (digits? 10 rest).map fun n => (n : Int)
        | rest => (digits? 10 rest).map fun n => (n : Int)
      else none
  nearestDouble? digits (exponent - fraction.length)

/-- A number with or without point and exponent, or one of the names of the numbers that are not finite. -/
def double? (cs : List Char) : Option Float :=
  match cs with
  | ['.', 'i', 'n', 'f'] | ['.', 'I', 'n', 'f'] | ['.', 'I', 'N', 'F']
  | ['+', '.', 'i', 'n', 'f'] | ['+', '.', 'I', 'n', 'f'] | ['+', '.', 'I', 'N', 'F'] => some (1 / 0)
  | ['-', '.', 'i', 'n', 'f'] | ['-', '.', 'I', 'n', 'f'] | ['-', '.', 'I', 'N', 'F'] => some (-1 / 0)
  | ['.', 'n', 'a', 'n'] | ['.', 'N', 'a', 'N'] | ['.', 'N', 'A', 'N'] => some (0 / 0)
  | '-' :: rest => (unsignedDecimal? rest).map (-·)
  | '+' :: rest => unsignedDecimal? rest
  | rest => unsignedDecimal? rest

/-! ### Constants -/

/-- A truth value by its names. -/
def truth? (text : String) : Option Bool :=
  if ["true", "True", "TRUE"].contains text then some true
  else if ["false", "False", "FALSE"].contains text then some false
  else none

/-- Whether a text names the absence of a value. -/
def namesNull (text : String) : Bool :=
  ["null", "Null", "NULL", "~"].contains text

namespace Tag

def bool : String := "tag:yaml.org,2002:bool"
def int : String := "tag:yaml.org,2002:int"
def float : String := "tag:yaml.org,2002:float"
def null : String := "tag:yaml.org,2002:null"

/-- Whether a tag is one of the author's own. -/
def isLocal (tag : Option String) : Bool :=
  match tag.map String.toList with
  | some ('!' :: _ :: _) => true
  | _ => false

end Tag

/-! ### What a scalar looks like -/

/-- What a scalar is where anything may stand. -/
inductive Meaning where
  | null
  | bool (value : Bool)
  | integer (value : Int)
  | float (value : Float)
  | string (text : String)

/-- What a plain scalar looks like. -/
def Meaning.ofPlain (text : String) : Meaning :=
  let cs := text.toList
  if text = "" || namesNull text then .null
  else
    match truth? text with
    | some value => .bool value
    | none =>
      match integer? cs with
      | some value => if value.natAbs < Nat.pow 2 128 then .integer value else ofDouble text cs
      | none => ofDouble text cs
where
  /-- A double or, failing that, a string. -/
  ofDouble (text : String) (cs : List Char) : Meaning :=
    if hasIdleZero cs then .string text
    else
      match double? cs with
      | some value => .float value
      | none => .string text

/-- What a scalar is. A tag of the author's own says something that no value here is. -/
def Meaning.ofScalar? (tag : Option String) (text : String) (style : Style) : Option Meaning :=
  if Tag.isLocal tag then none
  else if tag = some Tag.bool then (truth? text).map .bool
  else if tag = some Tag.int then (integer? text.toList).map .integer
  else if tag = some Tag.float then (double? text.toList).map .float
  else if tag = some Tag.null then (if namesNull text then some .null else none)
  else if tag.isSome || style ≠ .plain then some (.string text)
  else some (.ofPlain text)

/-! ### Nodes -/

namespace Node

/-- Whether a node is an empty plain scalar, which is also an empty collection. -/
def isBlank : Node → Bool
  | scalar _ "" .plain => true
  | _ => false

/-- The text of a scalar that may be a value of the kind `tag` names: of a plain one, or of a literal block
with that tag. -/
def valueText? (tag : String) : Node → Option String
  | scalar _ text .plain => some text
  | scalar (some own) text .literal => if own = tag then some text else none
  | _ => none

/-- The text of a scalar. -/
def string? : Node → Option String
  | scalar _ text _ => some text
  | _ => none

/-- The name of a field: the text of a key, or its index among the names. -/
def fieldName? (names : List String) (key : Node) : Option String :=
  match key with
  | scalar tag text style =>
    match Meaning.ofScalar? tag text style with
    | some (.string text) => some text
    | some (.integer value) => if 0 ≤ value then some ((names[value.toNat]?).getD "") else none
    | _ => none
  | _ => none

/-- The values of fields among entries by name; a field is not given twice. -/
def pick? (names : List String) (entries : List (String × Node)) : Option (List (Option Node)) :=
  if names.any fun name => 1 < (entries.filter (·.1 == name)).length then none
  else some (names.map (List.lookup · entries))

/-- The fields of a record: a mapping, or a sequence of the fields in order. -/
def fields? (names : List String) : Node → Option (List (Option Node))
  | mapping _ entries => do
    pick? names (← entries.mapM fun (key, value) => key.string?.map (·, value))
  | sequence _ items =>
    if names.length < items.length then none
    else some (items.map some ++ List.replicate (names.length - items.length) none)
  | node => if node.isBlank then some (names.map fun _ => none) else none

/-- The fields of a record that has no tag of its own. -/
def namedFields? (names : List String) : Node → Option (List (Option Node))
  | mapping tag entries =>
    if Tag.isLocal tag then none
    else do pick? names (← entries.mapM fun (key, value) => (fieldName? names key).map (·, value))
  | _ => none

/-- The items of a sequence. -/
def items? : Node → Option (List Node)
  | sequence _ items => some items
  | node => if node.isBlank then some [] else none

/-- The entries of a mapping by ascending key, the last value of a repeated one. -/
def entries? : Node → Option (List (String × Node))
  | mapping _ entries => do
    let entries ← entries.mapM fun (key, value) => key.string?.map (·, value)
    return Entries.sort (Entries.merge entries)
  | node => if node.isBlank then some [] else none

/-- A natural number less than `limit`. -/
def natBelow? (limit : Nat) (node : Node) : Option Nat := do
  let value ← integer? (← node.valueText? Tag.int).toList
  guard (0 ≤ value && value.toNat < limit)
  return value.toNat

/-- A number where several kinds can stand. -/
def looseFloat? : Node → Option Float
  | scalar tag text style =>
    match Meaning.ofScalar? tag text style with
    | some (.float value) => some value
    | some (.integer value) =>
      if 0 ≤ value then
        if value.toNat < Nat.pow 2 64 then some (Float.ofNat value.toNat) else none
      else if value.natAbs ≤ Nat.pow 2 63 then some (-Float.ofNat value.natAbs) else none
    | _ => none
  | _ => none

/-- A value that may be left out by an empty plain scalar or a name of null. -/
def optional? : Node → Option (Option Node)
  | node@(scalar tag text .plain) =>
    if tag = some Tag.null then (if namesNull text then some none else none)
    else if tag.isNone && (text = "" || namesNull text) then some none
    else some (some node)
  | node => some (some node)

instance : Document Node where
  fields? := fields?
  namedFields? := namedFields?
  items? := items?
  entries? := entries?
  string? := string?
  bool? node := (node.valueText? Tag.bool).bind truth?
  nat? := natBelow?
  float? node := (node.valueText? Tag.float).bind (double? ·.toList)
  looseFloat? := looseFloat?
  optional? := optional?

end Node

end Checkup.Yaml
