import Mathlib.Algebra.BigOperators.Group.Finset.Basic
import Mathlib.Algebra.Order.BigOperators.Group.Finset
import Mathlib.Data.Fintype.BigOperators
import Mathlib.Logic.Relation
import StructuralAdapters.SlotCache

/-!
# Concurrent callers of a cache

A cache is shared by any number of callers, each of which asks for a value, looks one up or counts what is
published.  They run in steps, in any order.

* `SharedCache.Slot` — a cell for one value, which outlives its place in the table;
* `SharedCache.Phase` — where a caller stands in its call, with the handles and the lock that it holds;
* `SharedCache.State` — table, slots, callers, and what has been made and answered so far;
* `SharedCache.Step`, `SharedCache.Run` — one step of one caller, and any number of steps;
* `SharedCache.State.handleCount` — how many handles to a slot there are.

## Locks and handles

Whoever reads the table does so under its lock, and what is done there is one step.  A caller takes a handle
to a slot in such a step and keeps it until its call ends, so that a slot which has left the table can still
be waited for.  Each slot has a lock of its own.  It is held while a value is generated, and only the holder
reads or fills the slot.

After a failure the slot is taken out of the table if there are two handles to it, that of the table and the
caller's own.
-/

namespace StructuralAdapters

namespace SharedCache

variable {ι κ α : Type}

/-! ### Callers -/

/-- A slot: the key that it was made for, and a number that no other slot has. -/
structure Slot (κ : Type) where
  key : κ
  number : Nat
  deriving DecidableEq

/-- Where a caller stands. -/
inductive Phase (κ α : Type) where
  /-- No call is in progress. -/
  | idle
  /-- It has a handle and waits for the lock, to find a value or to generate one. -/
  | waiting (s : Slot κ)
  /-- It has the lock and has not looked into the slot yet. -/
  | entered (s : Slot κ)
  /-- It is generating a value. -/
  | generating (s : Slot κ)
  /-- It has generated a value and not published it yet. -/
  | generated (s : Slot κ) (a : α)
  /-- It could not generate a value and has the lock still. -/
  | failed (s : Slot κ)
  /-- It has released the lock after a failure and looks at the table next. -/
  | discarding (s : Slot κ)
  /-- It has a handle and waits for the lock, to read what is published. -/
  | seeking (s : Slot κ)
  /-- It has the lock and reads what is published. -/
  | reading (s : Slot κ)
  /-- It knows its answer, if there is one, and drops its handle next. -/
  | leaving (s : Slot κ) (answer : Option α)
  /-- It counts, and has still to look into the slots `todo`. -/
  | counting (todo done : List (Slot κ)) (count : Nat)
  /-- It counts, and has the lock of one of the slots. -/
  | peeking (s : Slot κ) (todo done : List (Slot κ)) (count : Nat)
  /-- It has counted and drops its handles one by one. -/
  | parting (rest : List (Slot κ)) (count : Nat)

namespace Phase

/-- The handles that the caller has. -/
def handles : Phase κ α → List (Slot κ)
  | idle => []
  | waiting s | entered s | generating s | generated s _ | failed s | discarding s => [s]
  | seeking s | reading s | leaving s _ => [s]
  | counting todo done _ => todo ++ done
  | peeking s todo done _ => s :: (todo ++ done)
  | parting rest _ => rest

/-- The handles that a caller relies on: all but one that it drops without an answer. -/
def pinned : Phase κ α → List (Slot κ)
  | leaving _ none => []
  | p => p.handles

/-- The slot whose lock the caller has. -/
def lock? : Phase κ α → Option (Slot κ)
  | entered s | generating s | generated s _ | failed s | reading s | peeking s _ _ _ => some s
  | _ => none

/-- The slot that the caller has found empty and for which it is responsible. -/
def busy? : Phase κ α → Option (Slot κ)
  | generating s | generated s _ | failed s => some s
  | _ => none

variable {p : Phase κ α} {s : Slot κ}

theorem mem_handles_of_pinned (h : s ∈ p.pinned) : s ∈ p.handles := by
  cases p with
  | leaving s' answer =>
      cases answer with
      | none => exact absurd h List.not_mem_nil
      | some a => exact h
  | _ => exact h

theorem mem_pinned_of_lock (h : p.lock? = some s) : s ∈ p.pinned := by
  cases p <;> simp_all [lock?, pinned, handles]

theorem lock_of_busy (h : p.busy? = some s) : p.lock? = some s := by
  cases p <;> simp_all [busy?, lock?]

end Phase

/-! ### States -/

/-- The cache, its callers, and what has happened so far. -/
structure State (ι κ α : Type) where
  /-- The number of the slot that the table has for a key. -/
  table : κ → Option Nat := fun _ => none
  /-- What is published in a slot. -/
  value : Slot κ → Option α := fun _ => none
  caller : ι → Phase κ α := fun _ => .idle
  /-- The number of the next slot. -/
  next : Nat := 0
  /-- The values that were generated, with their keys; the latest stands first. -/
  made : List (κ × α) := []
  /-- The values that calls were answered with; the latest stands first. -/
  answers : List (κ × α) := []

namespace State

/-- The table has this slot for its key. -/
def InTable (st : State ι κ α) (s : Slot κ) : Prop := st.table s.key = some s.number

/-- The slot's lock is free. -/
def Free (st : State ι κ α) (s : Slot κ) : Prop := ∀ i, (st.caller i).lock? ≠ some s

/-- No call is in progress. -/
def Quiet (st : State ι κ α) : Prop := ∀ i, st.caller i = .idle

/-- What is published for a key. -/
def published (st : State ι κ α) (key : κ) : Option α :=
  (st.table key).bind fun number => st.value ⟨key, number⟩

/-- A caller goes on, and nothing else changes. -/
def set [DecidableEq ι] (st : State ι κ α) (i : ι) (p : Phase κ α) : State ι κ α :=
  { st with caller := Function.update st.caller i p }

@[simp] theorem set_caller [DecidableEq ι] (st : State ι κ α) (i : ι) (p : Phase κ α) :
    (st.set i p).caller = Function.update st.caller i p := rfl

/-- A value has been generated for the key. -/
def record (st : State ι κ α) (key : κ) (a : α) : State ι κ α :=
  { st with made := (key, a) :: st.made }

/-- A call has been answered, with a value if there is one. -/
def reply (st : State ι κ α) (key : κ) (answer : Option α) : State ι κ α :=
  { st with answers := answer.toList.map (key, ·) ++ st.answers }

variable [DecidableEq κ]

/-- A slot is made for the key, with nothing in it. -/
def claim (st : State ι κ α) (key : κ) : State ι κ α :=
  { st with
    table := Function.update st.table key (some st.next)
    value := Function.update st.value ⟨key, st.next⟩ none
    next := st.next + 1 }

/-- A value is published in the slot. -/
def fill (st : State ι κ α) (s : Slot κ) (a : α) : State ι κ α :=
  { st with value := Function.update st.value s (some a) }

/-- The slot of the key is taken out of the table. -/
def erase (st : State ι κ α) (key : κ) : State ι κ α :=
  { st with table := Function.update st.table key none }

/-- What was generated for a key. -/
def outputs (st : State ι κ α) (key : κ) : List α :=
  (st.made.filter fun entry => entry.1 = key).map Prod.snd

/-- How many handles to a slot there are: that of the table, and those of the callers. -/
def handleCount [Fintype ι] (st : State ι κ α) (s : Slot κ) : Nat :=
  (if st.table s.key = some s.number then 1 else 0) + ∑ i, (st.caller i).handles.count s

/-- Two callers with handles to a slot of the table make three handles. -/
theorem three_le_handleCount [Fintype ι] {st : State ι κ α} {s : Slot κ} {i j : ι} (hs : st.InTable s)
    (hi : s ∈ (st.caller i).handles) (hj : s ∈ (st.caller j).handles) (hne : i ≠ j) :
    3 ≤ st.handleCount s := by
  have hsum : (st.caller i).handles.count s + (st.caller j).handles.count s ≤
      ∑ k, (st.caller k).handles.count s :=
    Finset.add_le_sum (f := fun k => (st.caller k).handles.count s) (fun k _ => Nat.zero_le _)
      (Finset.mem_univ i) (Finset.mem_univ j) hne
  have hicount := List.count_pos_iff.mpr hi
  have hjcount := List.count_pos_iff.mpr hj
  rw [handleCount, if_pos (show st.table s.key = some s.number from hs)]
  omega

/-- Where the only handles are those of the table and of one caller, there are two. -/
theorem handleCount_eq_two [Fintype ι] {st : State ι κ α} {s : Slot κ} {i : ι} (hs : st.InTable s)
    (hi : (st.caller i).handles = [s]) (hothers : ∀ j, j ≠ i → s ∉ (st.caller j).handles) :
    st.handleCount s = 2 := by
  have hsum : ∑ j, (st.caller j).handles.count s = (st.caller i).handles.count s :=
    Finset.sum_eq_single i (fun j _ hji => List.count_eq_zero.mpr (hothers j hji))
      fun hi => absurd (Finset.mem_univ i) hi
  rw [handleCount, hsum, hi, if_pos (show st.table s.key = some s.number from hs)]
  simp

end State

variable [Fintype ι] [DecidableEq κ]

/-! ### Moves -/

/-- What a caller can do on its own account: what is shared may be looked at and stays as it is.  A look-up
of a key without a slot ends at once and is no step. -/
inductive Move (st : State ι κ α) : Phase κ α → Phase κ α → Prop
  /-- A handle to the slot that the table has for the key. -/
  | fetch (s : Slot κ) (hs : st.InTable s) : Move st .idle (.waiting s)
  | enter (s : Slot κ) (hfree : st.Free s) : Move st (.waiting s) (.entered s)
  | hit (s : Slot κ) (a : α) (ha : st.value s = some a) :
      Move st (.entered s) (.leaving s (some a))
  | start (s : Slot κ) (hempty : st.value s = none) : Move st (.entered s) (.generating s)
  | fail (s : Slot κ) : Move st (.generating s) (.failed s)
  | release (s : Slot κ) : Move st (.failed s) (.discarding s)
  /-- The slot stays: someone else has a handle to it, or it is found to be filled. -/
  | keep (s : Slot κ) (hkeep : st.handleCount s = 2 → st.Free s ∧ st.value s ≠ none) :
      Move st (.discarding s) (.leaving s none)
  /-- A handle for a look-up. -/
  | find (s : Slot κ) (hs : st.InTable s) : Move st .idle (.seeking s)
  | seize (s : Slot κ) (hfree : st.Free s) : Move st (.seeking s) (.reading s)
  | read (s : Slot κ) : Move st (.reading s) (.leaving s (st.value s))
  /-- Handles to all slots of the table. -/
  | snapshot (slots : List (Slot κ)) (hnodup : slots.Nodup) (hslots : ∀ s, s ∈ slots ↔ st.InTable s) :
      Move st .idle (.counting slots [] 0)
  | peek (s : Slot κ) (todo done : List (Slot κ)) (count : Nat) (hfree : st.Free s) :
      Move st (.counting (s :: todo) done count) (.peeking s todo done count)
  | tally (s : Slot κ) (todo done : List (Slot κ)) (count : Nat) :
      Move st (.peeking s todo done count)
        (.counting todo (s :: done) (count + (st.value s).toList.length))
  | part (done : List (Slot κ)) (count : Nat) : Move st (.counting [] done count) (.parting done count)
  | letGo (s : Slot κ) (rest : List (Slot κ)) (count : Nat) :
      Move st (.parting (s :: rest) count) (.parting rest count)
  | counted (count : Nat) : Move st (.parting [] count) .idle

namespace Move

variable {st : State ι κ α} {p q : Phase κ α} {s : Slot κ} {a : α}

/-- Handles are taken to slots of the table only. -/
theorem pinned (h : Move st p q) (hs : s ∈ q.pinned) : s ∈ p.pinned ∨ st.InTable s := by
  cases h with
  | fetch s' hs' | find s' hs' => exact .inr (List.mem_singleton.mp hs ▸ hs')
  | snapshot slots _ hslots => exact .inr ((hslots s).mp (by simpa [Phase.pinned, Phase.handles] using hs))
  | read s' => exact .inl (Phase.mem_handles_of_pinned hs)
  | keep | counted => exact absurd hs List.not_mem_nil
  | tally s' todo done =>
      refine .inl ?_
      simp only [Phase.pinned, Phase.handles, List.mem_append, List.mem_cons] at hs ⊢
      exact or_left_comm.mp hs
  | letGo s' rest => exact .inl (List.mem_cons_of_mem s' hs)
  | _ => exact .inl hs

/-- Only free locks are taken. -/
theorem lock (h : Move st p q) (hs : q.lock? = some s) : p.lock? = some s ∨ st.Free s := by
  cases h with
  | enter s' hfree | seize s' hfree | peek s' _ _ _ hfree => exact .inr (Option.some.inj hs ▸ hfree)
  | start | fail => exact .inl hs
  | _ => cases hs

/-- A caller becomes responsible for empty slots only. -/
theorem busy (h : Move st p q) (hs : q.busy? = some s) : p.busy? = some s ∨ st.value s = none := by
  cases h with
  | start s' hempty => exact .inr (Option.some.inj hs ▸ hempty)
  | fail => exact .inl hs
  | _ => cases hs

/-- An answer is what the slot holds. -/
theorem answer (h : Move st p (.leaving s (some a))) : st.value s = some a := by
  generalize hq : Phase.leaving s (some a) = q at h
  cases h with
  | hit s' a' ha => cases hq; exact ha
  | read s' =>
      obtain ⟨rfl, hvalue⟩ := Phase.leaving.inj hq
      exact hvalue.symm
  | _ => cases hq

/-- Generating ends with a step of its own. -/
theorem not_generated (h : Move st p q) : (∀ s a, p ≠ .generated s a) ∧ ∀ s a, q ≠ .generated s a := by
  cases h <;> exact ⟨nofun, nofun⟩

end Move

/-! ### Steps -/

variable [DecidableEq ι]

/-- One step of one caller. -/
inductive Step : State ι κ α → State ι κ α → Prop
  | move (st : State ι κ α) (i : ι) (p : Phase κ α) (h : Move st (st.caller i) p) : Step st (st.set i p)
  /-- A handle to a new slot, where the table has none for the key. -/
  | create (st : State ι κ α) (i : ι) (key : κ) (hi : st.caller i = .idle) (hkey : st.table key = none) :
      Step st ((st.claim key).set i (.waiting ⟨key, st.next⟩))
  | succeed (st : State ι κ α) (i : ι) (s : Slot κ) (a : α) (hi : st.caller i = .generating s) :
      Step st ((st.record s.key a).set i (.generated s a))
  /-- The value is published, and the lock released. -/
  | publish (st : State ι κ α) (i : ι) (s : Slot κ) (a : α) (hi : st.caller i = .generated s a) :
      Step st ((st.fill s a).set i (.leaving s (some a)))
  /-- The slot is empty, and there are no handles to it but that of the table and the caller's own. -/
  | remove (st : State ι κ α) (i : ι) (s : Slot κ) (hi : st.caller i = .discarding s)
      (hcount : st.handleCount s = 2) (hfree : st.Free s) (hempty : st.value s = none) :
      Step st ((st.erase s.key).set i (.leaving s none))
  /-- The handle is dropped, and the call ends. -/
  | drop (st : State ι κ α) (i : ι) (s : Slot κ) (answer : Option α)
      (hi : st.caller i = .leaving s answer) : Step st ((st.reply s.key answer).set i .idle)

/-- Any number of steps, of any callers in any order. -/
def Run : State ι κ α → State ι κ α → Prop := Relation.ReflTransGen Step

/-- The state can be reached from an empty cache that nobody has called yet. -/
def Reachable (st : State ι κ α) : Prop := Run {} st

/-- A step adds at most one slot to the table. -/
theorem Step.mem_of_inTable {st st' : State ι κ α} (hstep : Step st st') {slots : List (Slot κ)}
    (h : ∀ s, st.InTable s → s ∈ slots) : ∃ slots' : List (Slot κ), ∀ s, st'.InTable s → s ∈ slots' := by
  cases hstep with
  | move | succeed | publish | drop => exact ⟨slots, h⟩
  | create i key hi hkey =>
      refine ⟨⟨key, st.next⟩ :: slots, ?_⟩
      rintro ⟨key', number⟩ hs
      change Function.update st.table key (some st.next) key' = some number at hs
      rw [Function.update_apply] at hs
      split at hs
      · rename_i heq
        obtain rfl := Option.some.inj hs
        exact heq ▸ List.mem_cons_self
      · exact List.mem_cons_of_mem _ (h _ hs)
  | remove i s hi hcount hfree hempty =>
      refine ⟨slots, ?_⟩
      intro s' hs'
      change Function.update st.table s.key none s'.key = some s'.number at hs'
      rw [Function.update_apply] at hs'
      split at hs'
      · cases hs'
      · exact h s' hs'

/-- The table is finite, so a caller that counts can take a handle to each of its slots. -/
theorem Reachable.exists_snapshot {st : State ι κ α} (h : Reachable st) :
    ∃ slots : List (Slot κ), slots.Nodup ∧ ∀ s, s ∈ slots ↔ st.InTable s := by
  have hfinite : ∃ slots : List (Slot κ), ∀ s, st.InTable s → s ∈ slots := by
    induction h with
    | refl => exact ⟨[], nofun⟩
    | tail _ hstep ih =>
        obtain ⟨slots, hslots⟩ := ih
        exact hstep.mem_of_inTable hslots
  -- Some of the slots that were in the table once have left it.
  obtain ⟨slots, hslots⟩ := hfinite
  refine ⟨(slots.filter fun s => st.table s.key = some s.number).dedup, List.nodup_dedup _, ?_⟩
  intro s
  rw [List.mem_dedup, List.mem_filter, decide_eq_true_iff]
  exact ⟨fun hs => hs.2, fun hs => ⟨hslots s hs, hs⟩⟩

end SharedCache

end StructuralAdapters
