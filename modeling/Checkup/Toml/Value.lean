/-!
# TOML values and tables

A document is a table. While it is read, a table remembers how it came about, because that decides whether it
may be added to: by a header, by the dots of a key, or only because a table inside it was named.
-/

namespace Checkup.Toml

/-- A value. Only strings, arrays and tables are told apart; all else is kept as it is written. -/
inductive Value where
  | string (text : String)
  /-- A number, a truth value, or a date or time. -/
  | scalar (text : String)
  | array (items : List Value)
  | table (entries : List (String × Value))
  deriving Inhabited

namespace Value

/-- The text of a string. -/
def string? : Value → Option String
  | string text => some text
  | _ => none

/-- The items of an array. -/
def array? : Value → Option (List Value)
  | array items => some items
  | _ => none

/-- The entries of a table. -/
def table? : Value → Option (List (String × Value))
  | table entries => some entries
  | _ => none

/-- The entry of a table under a key. -/
def get? (key : String) (value : Value) : Option Value :=
  value.table?.bind fun entries => entries.lookup key

end Value

/-- How a table came about. -/
inductive Origin where
  /-- By a header or as the document itself. -/
  | header
  /-- By the dots of a key. -/
  | dots
  /-- Because a table inside it was named in a header. -/
  | mention
  deriving DecidableEq

/-- What stands under a key while a document is read. -/
inductive Item where
  /-- A complete value, which nothing is added to. -/
  | value (value : Value)
  | table (origin : Origin) (entries : List (String × Item))
  /-- Tables that headers in doubled brackets made, the latest first. -/
  | tables (items : List (List (String × Item)))
  deriving Inhabited

/-- A table that is being read. -/
structure Table where
  origin : Origin
  entries : List (String × Item)

namespace Table

/-- The table with an entry set. -/
def set (t : Table) (key : String) (item : Item) : Table :=
  if t.entries.any (·.1 == key) then
    { t with entries := t.entries.map fun entry => if entry.1 == key then (key, item) else entry }
  else { t with entries := t.entries ++ [(key, item)] }

/-- Changes the table that a path leads to from here. Missing tables on the way are made; `dots` tells whether
the path is written with the dots of a key, which lead through no table that has a header. -/
def change (dots : Bool) (f : Table → Option Table) : (path : List String) → Table → Option Table
  | [], t => f t
  | key :: path, t =>
    match t.entries.lookup key with
    | none => do
      let inner ← change dots f path ⟨if dots then .dots else .mention, []⟩
      return t.set key (.table inner.origin inner.entries)
    | some (.table origin entries) =>
      if dots && origin = .header then none
      else do
        let inner ← change dots f path ⟨origin, entries⟩
        return t.set key (.table inner.origin inner.entries)
    | some (.tables (latest :: earlier)) => do
      let inner ← change dots f path ⟨.header, latest⟩
      return t.set key (.tables (inner.entries :: earlier))
    | some (.tables []) => none
    | some (.value _) => none

/-- Changes the table that was opened at a path. -/
def changeOpened (f : Table → Option Table) : (path : List String) → Table → Option Table
  | [], t => f t
  | key :: path, t =>
    match t.entries.lookup key with
    | some (.table origin entries) => do
      let inner ← changeOpened f path ⟨origin, entries⟩
      return t.set key (.table inner.origin inner.entries)
    | some (.tables (latest :: earlier)) => do
      let inner ← changeOpened f path ⟨.header, latest⟩
      return t.set key (.tables (inner.entries :: earlier))
    | _ => none

/-- Adds a value under a key, which is written behind the dots of `path`. -/
def add (path : List String) (key : String) (value : Value) (t : Table) : Option Table :=
  t.change true (fun t =>
    if (t.origin == .dots) == path.isEmpty || (t.entries.lookup key).isSome then none
    else some (t.set key (.value value))) path

/-- Opens the table of a header. -/
def openTable (path : List String) (key : String) (t : Table) : Option Table :=
  t.change false (fun parent =>
    match parent.entries.lookup key with
    | none => some (parent.set key (.table .header []))
    | some (.table .mention entries) => some (parent.set key (.table .header entries))
    | some _ => none) path

/-- Opens one more table of a header in doubled brackets. -/
def openTables (path : List String) (key : String) (t : Table) : Option Table :=
  t.change false (fun parent =>
    match parent.entries.lookup key with
    | none => some (parent.set key (.tables [[]]))
    | some (.tables items) => some (parent.set key (.tables ([] :: items)))
    | some _ => none) path

end Table

mutual

/-- The value that an item has become. -/
def Item.toValue : Item → Value
  | .value value => value
  | .table _ entries => .table (entriesToValues entries)
  | .tables items => .array (tablesToValues items).reverse

/-- The values of entries. -/
def entriesToValues : List (String × Item) → List (String × Value)
  | [] => []
  | (key, item) :: rest => (key, item.toValue) :: entriesToValues rest

/-- The values of tables. -/
def tablesToValues : List (List (String × Item)) → List Value
  | [] => []
  | entries :: rest => .table (entriesToValues entries) :: tablesToValues rest

end

end Checkup.Toml
