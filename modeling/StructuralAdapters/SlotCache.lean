import StructuralAdapters.Entries

/-!
# A cache with slots

A cache that keeps at most one value for each key and makes a value when it is first asked for.

* `SlotCache`: a table of slots, each of which may still be empty;
* `SlotCache.lookup`, `SlotCache.contains`, `SlotCache.size`: what is published;
* `SlotCache.store`: publish a value, replacing what was there;
* `SlotCache.getOrGenerate`: the published value, or a new one.

A slot is made before it is known whether a value can be generated.  If that fails, the empty slot
is dropped again, so the next request for the key generates anew.
-/

namespace StructuralAdapters

/-- A table of slots. -/
structure SlotCache (κ α : Type) where
  slots : Entries κ (Option α) := []

namespace SlotCache

variable {κ α ε σ : Type} [DecidableEq κ]

/-- Make sure that the key has a slot. -/
def claim (cache : SlotCache κ α) (key : κ) : SlotCache κ α :=
  match Entries.get? key cache.slots with
  | some _ => cache
  | none => ⟨Entries.put key none cache.slots⟩

/-- Fill the slot of a key. -/
def publish (cache : SlotCache κ α) (key : κ) (value : α) : SlotCache κ α :=
  ⟨Entries.put key (some value) cache.slots⟩

/-- Drop the slot of a key if it is empty. -/
def discard (cache : SlotCache κ α) (key : κ) : SlotCache κ α :=
  match Entries.get? key cache.slots with
  | some none => ⟨Entries.erase key cache.slots⟩
  | _ => cache

/-- The value published for a key. -/
def lookup (cache : SlotCache κ α) (key : κ) : Option α :=
  (Entries.get? key cache.slots).join

/-- Whether a value is published for a key. -/
def contains (cache : SlotCache κ α) (key : κ) : Bool :=
  (cache.lookup key).isSome

/-- The number of published values. -/
def size (cache : SlotCache κ α) : Nat :=
  (cache.slots.filter fun (_, slot) => slot.isSome).length

/-- Whether nothing is published. -/
def isEmpty (cache : SlotCache κ α) : Bool :=
  cache.size == 0

/-- Publish a value for a key, replacing what was there. -/
def store (cache : SlotCache κ α) (key : κ) (value : α) : SlotCache κ α :=
  (cache.claim key).publish key value

/-- The value published for a key, or else the one that `generate` makes, which is published.
`generate` runs at most once, on the state `s`, and a failure publishes nothing. -/
def getOrGenerate (cache : SlotCache κ α) (key : κ) (generate : σ → Except ε α × σ) (s : σ) :
    Except ε α × SlotCache κ α × σ :=
  let claimed := cache.claim key
  match claimed.lookup key with
  | some value => (.ok value, claimed, s)
  | none =>
      match generate s with
      | (.ok value, s') => (.ok value, claimed.publish key value, s')
      | (.error e, s') => (.error e, claimed.discard key, s')

end SlotCache

end StructuralAdapters
