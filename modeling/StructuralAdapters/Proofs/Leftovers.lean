import StructuralAdapters.Proofs.SingleFlight

/-!
# Slots that failures leave behind

A caller that could not generate a value takes the empty slot out of the table, unless there are more handles to the
slot than that of the table and its own.  Such a handle may be that of a caller who waits and will look after the slot
in its turn.  But callers that look a value up, that count, or that have failed themselves have handles too, and none
of these comes back to the slot.

* `SharedCache.State.Vacant` — an empty slot of the table;
* `SharedCache.State.Unattended` — no caller is going to fill the slot or to look at it after a failure;
* `SharedCache.State.GivesUp` — a failed caller finds another handle, and is the last one to attend to the slot;
* `SharedCache.Step.leftover_or`, `SharedCache.Step.leftover` — how a slot comes to be left over, and stays so;
* `SharedCache.Reachable.left_behind_iff` — which empty slots there are when no call is in progress;
* `SharedCache.filled_iff_subsingleton` — one caller leaves none behind, and two may.
-/

namespace StructuralAdapters

namespace SharedCache

variable {ι κ α : Type}

/-! ### Attending to a slot -/

/-- The slot that a caller fills, or looks at after a failure, before its call ends. -/
def Phase.attended? : Phase κ α → Option (Slot κ)
  | waiting s | entered s | generating s | generated s _ | failed s | discarding s => some s
  | _ => none

namespace State

/-- The table has the slot, and there is nothing in it. -/
structure Vacant (st : State ι κ α) (s : Slot κ) : Prop where
  inTable : st.InTable s
  empty : st.value s = none

/-- No caller is going to fill the slot or to look at it after a failure. -/
def Unattended (st : State ι κ α) (s : Slot κ) : Prop := ∀ i, (st.caller i).attended? ≠ some s

/-- An empty slot of the table to which nobody attends. -/
structure Leftover (st : State ι κ α) (s : Slot κ) : Prop where
  vacant : st.Vacant s
  unattended : st.Unattended s

/-- A caller has failed.  Someone else has a handle to the slot, which is empty still, but nobody else attends to
it. -/
structure GivesUp (st : State ι κ α) (i : ι) (s : Slot κ) : Prop where
  discarding : st.caller i = .discarding s
  empty : st.value s = none
  held : ∃ j, j ≠ i ∧ s ∈ (st.caller j).handles
  unattended : ∀ j, j ≠ i → (st.caller j).attended? ≠ some s

variable {st : State ι κ α} {s s' : Slot κ} {i : ι} {key : κ} {a : α} {p q : Phase κ α}

/-- Between calls nobody attends to anything. -/
theorem Quiet.unattended (h : st.Quiet) (s : Slot κ) : st.Unattended s := by
  intro i hi
  rw [h i] at hi
  cases hi

section

variable [DecidableEq ι]

theorem unattended_set : (st.set i p).Unattended s ↔
    p.attended? ≠ some s ∧ ∀ j, j ≠ i → (st.caller j).attended? ≠ some s :=
  Function.forall_update_iff st.caller fun _ p => p.attended? ≠ some s

/-- Nobody attended to the slot if the caller who has gone on did not and nobody does now. -/
theorem Unattended.of_set (h : (st.set i p).Unattended s) (hi : st.caller i = q)
    (hq : q.attended? ≠ some s) : st.Unattended s := by
  intro j
  by_cases hji : j = i
  · rwa [hji, hi]
  · exact (unattended_set.mp h).2 j hji

/-- Then nobody attends to the slot any more. -/
theorem GivesUp.leftover (h : st.GivesUp i s) (hplaced : Placed st) :
    (st.set i (.leaving s none)).Leftover s where
  vacant := ⟨hplaced.current i s (h.discarding ▸ List.mem_singleton.mpr rfl), h.empty⟩
  unattended := unattended_set.mpr ⟨nofun, h.unattended⟩

end

variable [DecidableEq κ]

/-- A slot that is made for a key without one makes no difference to the others. -/
theorem vacant_claim (hne : s ≠ ⟨key, st.next⟩) (hkey : st.table key = none) :
    (st.claim key).Vacant s ↔ st.Vacant s := by
  have hvalue : (st.claim key).value s = st.value s := Function.update_of_ne hne ..
  have htable : (st.claim key).InTable s ↔ st.InTable s := by
    show Function.update st.table key (some st.next) s.key = some s.number ↔ st.table s.key = some s.number
    by_cases heq : s.key = key
    · have hnumber : st.next ≠ s.number := by
        intro hnext
        exact hne (by cases s; cases heq; cases hnext; rfl)
      rw [heq, Function.update_self, hkey]
      simp [hnumber]
    · rw [Function.update_of_ne heq]
  exact ⟨fun h => ⟨htable.mp h.inTable, hvalue ▸ h.empty⟩, fun h => ⟨htable.mpr h.inTable, hvalue.trans h.empty⟩⟩

theorem vacant_fill : (st.fill s' a).Vacant s ↔ s ≠ s' ∧ st.Vacant s := by
  by_cases hne : s = s'
  · subst hne
    refine iff_of_false ?_ fun h => h.1 rfl
    intro h
    have hempty : Function.update st.value s (some a) s = none := h.empty
    rw [Function.update_self] at hempty
    cases hempty
  · have hvalue : (st.fill s' a).value s = st.value s := Function.update_of_ne hne ..
    exact ⟨fun h => ⟨hne, h.inTable, hvalue ▸ h.empty⟩, fun ⟨_, h⟩ => ⟨h.inTable, hvalue.trans h.empty⟩⟩

theorem vacant_erase (hs' : st.InTable s') : (st.erase s'.key).Vacant s ↔ s ≠ s' ∧ st.Vacant s := by
  have htable : (st.erase s'.key).InTable s ↔ s ≠ s' ∧ st.InTable s := by
    show Function.update st.table s'.key none s.key = some s.number ↔ _
    by_cases hkey : s.key = s'.key
    · rw [hkey, Function.update_self]
      exact iff_of_false nofun fun h => h.1 (h.2.eq hs' hkey)
    · rw [Function.update_of_ne hkey]
      exact (and_iff_right fun heq => hkey (congrArg Slot.key heq)).symm
  constructor
  · intro h
    obtain ⟨hne, hs⟩ := htable.mp h.inTable
    exact ⟨hne, hs, h.empty⟩
  · rintro ⟨hne, h⟩
    exact ⟨htable.mpr ⟨hne, h.inTable⟩, h.empty⟩

end State

/-! ### Two callers -/

/-- Where two callers stand while all others are between calls. -/
structure Both (st : State ι κ α) (i j : ι) (p q : Phase κ α) : Prop where
  first : st.caller i = p
  second : st.caller j = q
  others : ∀ k, k ≠ i → k ≠ j → st.caller k = .idle

namespace Both

variable {st : State ι κ α} {i j : ι} {p q : Phase κ α}

theorem symm (h : Both st i j p q) : Both st j i q p :=
  ⟨h.second, h.first, fun k hkj hki => h.others k hki hkj⟩

theorem set [DecidableEq ι] (h : Both st i j p q) (hne : i ≠ j) (r : Phase κ α) : Both (st.set i r) i j r q where
  first := Function.update_self ..
  second := (Function.update_of_ne hne.symm ..).trans h.second
  others := fun k hki hkj => (Function.update_of_ne hki ..).trans (h.others k hki hkj)

theorem free (h : Both st i j p q) (hp : p.lock? = none) (hq : q.lock? = none) (s : Slot κ) : st.Free s := by
  intro k hk
  by_cases hki : k = i
  · rw [hki, h.first, hp] at hk
    cases hk
  · by_cases hkj : k = j
    · rw [hkj, h.second, hq] at hk
      cases hk
    · rw [h.others k hki hkj] at hk
      cases hk

theorem quiet (h : Both st i j .idle .idle) : st.Quiet := by
  intro k
  by_cases hki : k = i
  · exact hki ▸ h.first
  · by_cases hkj : k = j
    · exact hkj ▸ h.second
    · exact h.others k hki hkj

end Both

variable [Fintype ι] [DecidableEq κ]
variable {st st' : State ι κ α} {s : Slot κ} {i : ι} {p q : Phase κ α}

/-- Who attends to an empty slot goes on doing so, or finds another handle and lets the slot be. -/
theorem Move.attended (h : Move st p q) (hp : p.attended? = some s) (hempty : st.value s = none) :
    q.attended? = some s ∨ (p = .discarding s ∧ q = .leaving s none ∧ st.handleCount s ≠ 2) := by
  cases h with
  | enter | start | fail | release => exact .inl hp
  | hit s' a ha =>
      obtain rfl := Option.some.inj hp
      cases hempty.symm.trans ha
  | keep s' hkeep =>
      obtain rfl := Option.some.inj hp
      exact .inr ⟨rfl, rfl, fun hcount => (hkeep hcount).2 hempty⟩
  | _ => cases hp

variable [DecidableEq ι]

/-! ### Steps -/

/-- **A slot comes to be left over when a failed caller gives it up.** -/
theorem Step.leftover_or (hstep : Step st st') (hplaced : Placed st) (h : st'.Leftover s) :
    st.Leftover s ∨ ∃ i, st.GivesUp i s ∧ st' = st.set i (.leaving s none) := by
  obtain ⟨hvacant, hunattended⟩ := h
  cases hstep with
  | move i p hmove =>
      obtain ⟨hp, hothers⟩ := State.unattended_set.mp hunattended
      by_cases hi : (st.caller i).attended? = some s
      · rcases hmove.attended hi hvacant.empty with hattended | ⟨hdiscarding, rfl, hcount⟩
        · exact absurd hattended hp
        · refine .inr ⟨i, ⟨hdiscarding, hvacant.empty, ?_, hothers⟩, rfl⟩
          -- Without another handle there would be two, and the slot would not stay.
          by_contra hnone
          refine hcount (State.handleCount_eq_two hvacant.inTable (congrArg Phase.handles hdiscarding) ?_)
          exact fun j hji hj => hnone ⟨j, hji, hj⟩
      · exact .inl ⟨⟨hvacant.inTable, hvacant.empty⟩, hunattended.of_set rfl hi⟩
  | create i key hi hkey =>
      have hne : s ≠ ⟨key, st.next⟩ := fun heq => (State.unattended_set.mp hunattended).1 (heq ▸ rfl)
      have hclaim : (st.claim key).Vacant s := ⟨hvacant.inTable, hvacant.empty⟩
      have hbefore := hunattended.of_set hi nofun
      exact .inl ⟨(State.vacant_claim hne hkey).mp hclaim, hbefore⟩
  | succeed i s' a hi =>
      have hbefore := hunattended.of_set hi (State.unattended_set.mp hunattended).1
      exact .inl ⟨⟨hvacant.inTable, hvacant.empty⟩, hbefore⟩
  | publish i s' a hi =>
      have hfill : (st.fill s' a).Vacant s := ⟨hvacant.inTable, hvacant.empty⟩
      obtain ⟨hne, hvacant⟩ := State.vacant_fill.mp hfill
      have hbefore := hunattended.of_set hi fun heq => hne (Option.some.inj heq).symm
      exact .inl ⟨hvacant, hbefore⟩
  | remove i s' hi hcount hfree hempty =>
      have hs' : st.InTable s' := hplaced.current i s' (hi ▸ List.mem_singleton.mpr rfl)
      have herase : (st.erase s'.key).Vacant s := ⟨hvacant.inTable, hvacant.empty⟩
      obtain ⟨hne, hvacant⟩ := (State.vacant_erase hs').mp herase
      have hbefore := hunattended.of_set hi fun heq => hne (Option.some.inj heq).symm
      exact .inl ⟨hvacant, hbefore⟩
  | drop i s' answer hi =>
      have hbefore := hunattended.of_set hi nofun
      exact .inl ⟨⟨hvacant.inTable, hvacant.empty⟩, hbefore⟩

/-- A slot that is left over stays so until someone attends to it. -/
theorem Step.leftover (hstep : Step st st') (hplaced : Placed st) (h : st.Leftover s)
    (hunattended : st'.Unattended s) : st'.Leftover s := by
  obtain ⟨hvacant, hbefore⟩ := h
  refine ⟨?_, hunattended⟩
  cases hstep with
  | move | succeed | drop => exact ⟨hvacant.inTable, hvacant.empty⟩
  | create i key hi hkey =>
      have hne : s ≠ ⟨key, st.next⟩ := fun heq => (State.unattended_set.mp hunattended).1 (heq ▸ rfl)
      have hclaim := (State.vacant_claim hne hkey).mpr hvacant
      exact ⟨hclaim.inTable, hclaim.empty⟩
  | publish i s' a hi =>
      have hne : s ≠ s' := fun heq => hbefore i (hi ▸ heq ▸ rfl)
      have hfill : (st.fill s' a).Vacant s := State.vacant_fill.mpr ⟨hne, hvacant⟩
      exact ⟨hfill.inTable, hfill.empty⟩
  | remove i s' hi hcount hfree hempty =>
      have hs' : st.InTable s' := hplaced.current i s' (hi ▸ List.mem_singleton.mpr rfl)
      have hne : s ≠ s' := fun heq => hbefore i (hi ▸ heq ▸ rfl)
      have herase := (State.vacant_erase hs').mpr ⟨hne, hvacant⟩
      exact ⟨herase.inTable, herase.empty⟩

/-- The caller lets the slot be. -/
theorem State.GivesUp.step (h : st.GivesUp i s) (hplaced : Placed st) : Step st (st.set i (.leaving s none)) := by
  have hhandle : s ∈ (st.caller i).handles := h.discarding ▸ List.mem_singleton.mpr rfl
  have hs : st.InTable s := hplaced.current i s (h.discarding ▸ List.mem_singleton.mpr rfl)
  obtain ⟨j, hji, hj⟩ := h.held
  have hthree := three_le_handleCount hs hj hhandle hji
  refine .move st i _ (h.discarding ▸ .keep s ?_)
  omega

/-! ### Runs -/

/-- Any number of steps in which nobody attends to the slot. -/
def Neglects (s : Slot κ) : State ι κ α → State ι κ α → Prop :=
  Relation.ReflTransGen fun st st' => Step st st' ∧ st'.Unattended s

/-- A slot that is left over stays so while it is neglected. -/
theorem Neglects.leftover (hrun : Neglects s st st') (hplaced : Placed st) (h : st.Leftover s) :
    Placed st' ∧ st'.Leftover s := by
  induction hrun with
  | refl => exact ⟨hplaced, h⟩
  | tail _ hstep ih =>
      obtain ⟨hplaced, h⟩ := ih
      exact ⟨hstep.1.placed hplaced, hstep.1.leftover hplaced h hstep.2⟩

/-- **What is left over has been given up.**  A slot is left over if and only if a failed caller has given it up and
nobody has attended to it since. -/
theorem Reachable.leftover_iff (h : Reachable st) : st.Leftover s ↔
    ∃ st₁ i, Reachable st₁ ∧ st₁.GivesUp i s ∧ Neglects s (st₁.set i (.leaving s none)) st := by
  constructor
  · intro hleft
    induction h with
    | refl => cases hleft.vacant.inTable
    | tail hrun hstep ih =>
        rcases hstep.leftover_or (Reachable.placed hrun) hleft with hbefore | ⟨i, hgives, rfl⟩
        · obtain ⟨st₁, i, h₁, hgives, hneglects⟩ := ih hbefore
          exact ⟨st₁, i, h₁, hgives, hneglects.tail ⟨hstep, hleft.unattended⟩⟩
        · exact ⟨_, i, hrun, hgives, .refl⟩
  · rintro ⟨st₁, i, h₁, hgives, hneglects⟩
    have hplaced := (hgives.step h₁.placed).placed h₁.placed
    exact (hneglects.leftover hplaced (hgives.leftover h₁.placed)).2

/-- **Which empty slots there are between calls.**  The table has an empty slot if and only if a failed caller found
another handle to it when nobody else was going to look after it, and nobody has come back to it since. -/
theorem Reachable.left_behind_iff (h : Reachable st) (hquiet : st.Quiet) :
    st.InTable s ∧ st.value s = none ↔
      ∃ st₁ i, Reachable st₁ ∧ st₁.GivesUp i s ∧ Neglects s (st₁.set i (.leaving s none)) st := by
  rw [← h.leftover_iff]
  exact ⟨fun ⟨hs, hempty⟩ => ⟨⟨hs, hempty⟩, hquiet.unattended s⟩,
    fun hleft => ⟨hleft.vacant.inTable, hleft.vacant.empty⟩⟩

/-! ### Callers that see each other's handles -/

namespace Both

variable {j : ι} {r : Phase κ α}

/-- The first caller goes on. -/
theorem step (h : Both st i j p q) (hne : i ≠ j) (hmove : Move st p r) :
    Step st (st.set i r) ∧ Both (st.set i r) i j r q :=
  ⟨.move st i r (h.first.symm ▸ hmove), h.set hne r⟩

/-- The first caller finds the handle of the second one. -/
theorem keep (h : Both st i j (.discarding s) q) (hne : i ≠ j) (hhandle : s ∈ q.handles) (hs : st.InTable s) :
    Step st (st.set i (.leaving s none)) ∧ Both (st.set i (.leaving s none)) i j (.leaving s none) q := by
  refine h.step hne (.keep s ?_)
  intro hcount
  have hthree := State.three_le_handleCount hs (h.first ▸ List.mem_singleton.mpr rfl) (h.second ▸ hhandle) hne
  omega

/-- The first caller fails, and the slot stays. -/
theorem fail (h : Both st i j (.waiting s) q) (hne : i ≠ j) (hq : q.lock? = none) (hhandle : s ∈ q.handles)
    (hvacant : st.Vacant s) :
    ∃ st', Run st st' ∧ Both st' i j (.leaving s none) q ∧ st'.Vacant s := by
  obtain ⟨henter, h⟩ := h.step hne (.enter s (h.free rfl hq s))
  obtain ⟨hstart, h⟩ := h.step hne (.start s hvacant.empty)
  obtain ⟨hfail, h⟩ := h.step hne (.fail s)
  obtain ⟨hrelease, h⟩ := h.step hne (.release s)
  obtain ⟨hkeep, h⟩ := h.keep hne hhandle hvacant.inTable
  exact ⟨_, ((((Relation.ReflTransGen.single henter).tail hstart).tail hfail).tail hrelease).tail hkeep, h,
    hvacant.inTable, hvacant.empty⟩

/-- The first caller drops its handle without an answer. -/
theorem drop (h : Both st i j (.leaving s none) q) (hne : i ≠ j) (hvacant : st.Vacant s) :
    ∃ st', Step st st' ∧ Both st' i j .idle q ∧ st'.Vacant s := by
  have hreply : Both (st.reply s.key none) i j (.leaving s none) q := ⟨h.first, h.second, h.others⟩
  exact ⟨_, .drop st i s none h.first, hreply.set hne .idle, hvacant.inTable, hvacant.empty⟩

/-- Both callers drop their handles, and the slot is as it was. -/
theorem leave (h : Both st i j (.leaving s none) (.leaving s none)) (hne : i ≠ j) (hvacant : st.Vacant s) :
    ∃ st', Run st st' ∧ st'.Quiet ∧ st'.Vacant s := by
  obtain ⟨st₁, hfirst, h, hvacant⟩ := h.drop hne hvacant
  obtain ⟨st₂, hsecond, h, hvacant⟩ := h.symm.drop hne.symm hvacant
  exact ⟨st₂, (Relation.ReflTransGen.single hfirst).tail hsecond, h.quiet, hvacant⟩

/-- One of two callers has asked for a key, and there is a slot for it. -/
theorem exists_waiting (hne : i ≠ j) (key : κ) : ∃ st : State ι κ α, Reachable st ∧
    Both st i j (.waiting ⟨key, 0⟩) .idle ∧ st.Vacant ⟨key, 0⟩ := by
  have hstart : Both (State.claim ({} : State ι κ α) key) i j .idle .idle := ⟨rfl, rfl, fun _ _ _ => rfl⟩
  exact ⟨_, .single (.create {} i key rfl rfl), hstart.set hne _,
    Function.update_self .., Function.update_self ..⟩

end Both

/-- A call that fails while a value is looked up leaves an empty slot. -/
theorem exists_vacant_of_lookup {j : ι} (hne : i ≠ j) (key : κ) :
    ∃ st : State ι κ α, Reachable st ∧ st.Quiet ∧ st.Vacant ⟨key, 0⟩ := by
  obtain ⟨st₁, hrun₁, hboth, hvacant⟩ := Both.exists_waiting (α := α) hne key
  obtain ⟨hfind, hboth⟩ := hboth.symm.step hne.symm (.find ⟨key, 0⟩ hvacant.inTable)
  obtain ⟨st₂, hrun₂, hboth, hvacant⟩ := hboth.symm.fail hne rfl (List.mem_singleton.mpr rfl)
    ⟨hvacant.inTable, hvacant.empty⟩
  obtain ⟨hseize, hboth⟩ := hboth.symm.step hne.symm (.seize ⟨key, 0⟩ (hboth.free rfl rfl _))
  have hempty : (st₂.set j (.reading ⟨key, 0⟩)).value ⟨key, 0⟩ = none := hvacant.empty
  obtain ⟨hread, hboth⟩ := hboth.step hne.symm (hempty ▸ Move.read ⟨key, 0⟩)
  obtain ⟨st₃, hrun₃, hquiet, hvacant⟩ := hboth.leave hne.symm ⟨hvacant.inTable, hvacant.empty⟩
  exact ⟨st₃, ((((hrun₁.tail hfind).trans hrun₂).tail hseize).tail hread).trans hrun₃, hquiet, hvacant⟩

/-- **One caller leaves no empty slot behind, and two may.** -/
theorem filled_iff_subsingleton [Nonempty κ] :
    (∀ st : State ι κ α, Reachable st → st.Quiet → ∀ s, st.InTable s → st.value s ≠ none) ↔ Subsingleton ι := by
  constructor
  · intro hfilled
    by_contra hsubsingleton
    obtain ⟨i, j, hne⟩ := not_subsingleton_iff_nontrivial.mp hsubsingleton
    obtain ⟨key⟩ := ‹Nonempty κ›
    obtain ⟨st, hreachable, hquiet, hvacant⟩ := exists_vacant_of_lookup (α := α) hne key
    exact hfilled st hreachable hquiet _ hvacant.inTable hvacant.empty
  · intro hsubsingleton st hreachable hquiet s hs hempty
    have hleft : st.Leftover s := ⟨⟨hs, hempty⟩, hquiet.unattended s⟩
    obtain ⟨st₁, i, -, hgives, -⟩ := hreachable.leftover_iff.mp hleft
    obtain ⟨j, hji, -⟩ := hgives.held
    exact hji (Subsingleton.elim j i)

namespace TwoCallers

/-- The second caller finds the handle of the first one, which has failed too and has not dropped it yet. -/
theorem keep_second : Step (scene none [] [] (.leaving slot none) (.discarding slot))
    (scene none [] [] (.leaving slot none) (.leaving slot none)) := by
  refine second (.keep slot ?_)
  intro hcount
  have hs : (scene none [] [] (.leaving slot none) (.discarding slot)).InTable slot := inTable_slot
  have hthree := State.three_le_handleCount (i := false) (j := true) hs List.mem_cons_self
    List.mem_cons_self nofun
  omega

/-- Two calls have failed, and the empty slot is in the table still: the first caller kept it for the second one, and
the second one found the handle that the first one had not dropped yet. -/
theorem failures_leave_slot :
    Reachable (scene none [] [] .idle .idle) ∧ (scene none [] [] .idle .idle).Quiet ∧
      (scene none [] [] .idle .idle).InTable slot ∧ (scene none [] [] .idle .idle).value slot = none := by
  have hfirst : Reachable (scene none [] [] (.generating slot) .idle) :=
    ((Relation.ReflTransGen.single create).tail (first (.enter slot (free_slot rfl rfl)))).tail
      (first (.start slot value_slot))
  have hkept : Reachable (scene none [] [] (.leaving slot none) (.waiting slot)) :=
    (((hfirst.tail (second (.fetch slot inTable_slot))).tail (first (.fail slot))).tail
      (first (.release slot))).tail keep
  have hsecond : Reachable (scene none [] [] (.leaving slot none) (.discarding slot)) :=
    (((hkept.tail (second (.enter slot (free_slot rfl rfl)))).tail (second (.start slot value_slot))).tail
      (second (.fail slot))).tail (second (.release slot))
  have hend : Reachable (scene none [] [] .idle .idle) :=
    ((hsecond.tail keep_second).tail (drop_first none)).tail (drop_second none)
  refine ⟨hend, ?_, inTable_slot, value_slot⟩
  rintro (_ | _) <;> rfl

/-- A slot that a failed call and a look-up leave behind has been given up. -/
theorem slot_given_up : ∃ st : State Bool AdapterKey AdapterType, Reachable st ∧ st.Quiet ∧
    ∃ st₁ i, Reachable st₁ ∧ st₁.GivesUp i slot ∧ Neglects slot (st₁.set i (.leaving slot none)) st := by
  have hne : false ≠ true := nofun
  obtain ⟨st, hreachable, hquiet, hvacant⟩ := exists_vacant_of_lookup (α := AdapterType) hne cellKey
  exact ⟨st, hreachable, hquiet, (hreachable.left_behind_iff hquiet).mp ⟨hvacant.inTable, hvacant.empty⟩⟩

end TwoCallers

end SharedCache

end StructuralAdapters
