/-!
# Entries

Lists of keys with their values. `set` and `merge` make every key occur once, at the place where it came
first and with the value that came last; `sort` puts the keys in ascending order.
-/

namespace Checkup.Entries

/-- Sets the value under a key: at the place of the key if there is one, at the end otherwise. -/
def set (entries : List (String × α)) (key : String) (value : α) : List (String × α) :=
  match entries with
  | [] => [(key, value)]
  | (k, v) :: rest => if k == key then (k, value) :: rest else (k, v) :: set rest key value

/-- Entries with each key once: at its first place, with its last value. -/
def merge (entries : List (String × α)) : List (String × α) :=
  entries.foldl (fun merged (key, value) => set merged key value) []

/-- Entries in ascending order of their keys. -/
def sort (entries : List (String × α)) : List (String × α) :=
  entries.mergeSort fun a b => a.1 ≤ b.1

end Checkup.Entries
