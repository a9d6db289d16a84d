/-!
# Entries

* `Entries`: values by key, in the order in which the keys were first used;
* `Entries.get?`, `Entries.put`, `Entries.erase`: look up, set and remove.
-/

namespace StructuralAdapters

/-- Values by key, in the order in which the keys were first used. -/
abbrev Entries (κ α : Type) := List (κ × α)

namespace Entries

variable {κ α : Type} [DecidableEq κ]

/-- The value of a key. -/
def get? (key : κ) : Entries κ α → Option α
  | [] => none
  | (k, a) :: rest => if k = key then some a else get? key rest

/-- Give a key a value; a new key goes to the end. -/
def put (key : κ) (value : α) : Entries κ α → Entries κ α
  | [] => [(key, value)]
  | (k, a) :: rest => if k = key then (k, value) :: rest else (k, a) :: put key value rest

/-- Remove a key. -/
def erase (key : κ) (entries : Entries κ α) : Entries κ α :=
  entries.filter fun (k, _) => k ≠ key

end Entries

end StructuralAdapters
