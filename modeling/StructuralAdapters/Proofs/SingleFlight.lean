import StructuralAdapters.Proofs.Forwarding
import StructuralAdapters.Proofs.SharedCache

/-!
# Single flight

However many callers share a cache, for each key one of them generates at a time, and one of them succeeds.

* `SharedCache.Placed` — callers rely on slots of the table only, and no lock has two holders;
* `SharedCache.Accounted` — each value that was generated is published or about to be, and it is the answer;
* `SharedCache.Step.placed`, `SharedCache.Step.accounted` — every step preserves them;
* `SharedCache.Run.published_eq` — what is published stays published;
* `SharedCache.Reachable.single_flight` — what holds in every reachable state.

## Why no one is left with a lost slot

A slot leaves the table when there are two handles to it.  The table has one of them and the caller that
takes the slot out has the other, so no one else has one, and no one else can have the lock.  Whoever has a
handle to a slot of the table therefore finds it there until it drops the handle.
-/

namespace StructuralAdapters

namespace SharedCache

variable {ι κ α : Type}

/-! ### Slots of the table -/

namespace State

variable {st : State ι κ α} {s s' : Slot κ} {a : α}

/-- The table has one slot for a key. -/
theorem InTable.eq (hs : st.InTable s) (hs' : st.InTable s') (hkey : s.key = s'.key) : s = s' := by
  obtain ⟨key, number⟩ := s
  obtain ⟨key', number'⟩ := s'
  obtain rfl : key = key' := hkey
  exact congrArg (Slot.mk key) (Option.some.inj (hs.symm.trans hs'))

end State

/-- Callers rely on slots of the table only, a lock has one holder, what is published is in the table, and a
slot that someone is about to fill is empty. -/
structure Placed (st : State ι κ α) : Prop where
  current : ∀ i, ∀ s ∈ (st.caller i).pinned, st.InTable s
  exclusive : ∀ i j s, (st.caller i).lock? = some s → (st.caller j).lock? = some s → i = j
  stored : ∀ s a, st.value s = some a → st.InTable s
  empty : ∀ i s, (st.caller i).busy? = some s → st.value s = none

/-- What is published, about to be published or the answer to a call is the one value that was generated for
the key. -/
structure Accounted [DecidableEq κ] (st : State ι κ α) : Prop where
  answering : ∀ i s a, st.caller i = .leaving s (some a) → st.value s = some a
  published : ∀ s a, st.value s = some a → st.outputs s.key = [a]
  generated : ∀ i s a, st.caller i = .generated s a → st.outputs s.key = [a]
  made : ∀ key, st.outputs key ≠ [] →
    (∃ s a, s.key = key ∧ st.value s = some a) ∨ ∃ i s a, s.key = key ∧ st.caller i = .generated s a
  answered : ∀ key a, (key, a) ∈ st.answers → ∃ s, s.key = key ∧ st.value s = some a

variable {st st' : State ι κ α} {s s' : Slot κ} {i j : ι} {key : κ} {a : α} {p : Phase κ α}

/-- What is published in a slot is published for its key. -/
theorem Placed.published_eq_some_iff (h : Placed st) :
    st.published key = some a ↔ ∃ s, s.key = key ∧ st.value s = some a := by
  rw [State.published, Option.bind_eq_some_iff]
  constructor
  · rintro ⟨number, -, hvalue⟩
    exact ⟨⟨key, number⟩, rfl, hvalue⟩
  · rintro ⟨s, rfl, hvalue⟩
    exact ⟨s.number, h.stored s a hvalue, hvalue⟩

/-! ### Callers and slots -/

theorem placed_initial : Placed ({} : State ι κ α) :=
  ⟨fun _ _ hs => absurd hs List.not_mem_nil, nofun, nofun, nofun⟩

namespace Placed

/-- A caller goes on.  It may come to rely on slots of the table, take a free lock, and become responsible
for an empty slot. -/
theorem set [DecidableEq ι] (h : Placed st)
    (hpinned : ∀ s ∈ p.pinned, s ∈ (st.caller i).pinned ∨ st.InTable s)
    (hlock : ∀ s, p.lock? = some s → (st.caller i).lock? = some s ∨ st.Free s)
    (hbusy : ∀ s, p.busy? = some s → (st.caller i).busy? = some s ∨ st.value s = none) :
    Placed (st.set i p) where
  current := (Function.forall_update_iff st.caller fun _ p => ∀ s ∈ p.pinned, st.InTable s).mpr
    ⟨fun s hs => (hpinned s hs).elim (h.current i s) id, fun j _ => h.current j⟩
  exclusive := by
    -- Whoever has a lock had it before, or it was free and `i` has taken it.
    have hholder : ∀ j s, ((st.set i p).caller j).lock? = some s →
        (st.caller j).lock? = some s ∨ (j = i ∧ st.Free s) := by
      intro j s hj
      by_cases hji : j = i
      · subst hji
        rw [State.set_caller, Function.update_self] at hj
        exact (hlock s hj).imp_right fun hfree => ⟨rfl, hfree⟩
      · rw [State.set_caller, Function.update_of_ne hji] at hj
        exact .inl hj
    intro j k s hj hk
    rcases hholder j s hj with hj | ⟨rfl, hfree⟩
    · rcases hholder k s hk with hk | ⟨-, hfree⟩
      · exact h.exclusive j k s hj hk
      · exact absurd hj (hfree j)
    · rcases hholder k s hk with hk | ⟨rfl, -⟩
      · exact absurd hk (hfree k)
      · rfl
  stored := h.stored
  empty := (Function.forall_update_iff st.caller fun _ p => ∀ s, p.busy? = some s → st.value s = none).mpr
    ⟨fun s hs => (hbusy s hs).elim (h.empty i s) id, fun j _ => h.empty j⟩

/-- A caller may let go of what it has. -/
theorem set_of_subset [DecidableEq ι] (h : Placed st) (hpinned : p.pinned ⊆ (st.caller i).pinned)
    (hlock : ∀ s, p.lock? = some s → (st.caller i).lock? = some s)
    (hbusy : ∀ s, p.busy? = some s → (st.caller i).busy? = some s) : Placed (st.set i p) :=
  h.set (fun _ hs => .inl (hpinned hs)) (fun s hs => .inl (hlock s hs)) fun s hs => .inl (hbusy s hs)

/-- The lock of a slot is held only while the slot is in the table. -/
theorem inTable_of_lock (h : Placed st) (hi : (st.caller i).lock? = some s) : st.InTable s :=
  h.current i s (Phase.mem_pinned_of_lock hi)

/-- For one key there is one lock, and one caller has it. -/
theorem eq_of_lock (h : Placed st) (hi : (st.caller i).lock? = some s)
    (hj : (st.caller j).lock? = some s') (hkey : s.key = s'.key) : i = j := by
  obtain rfl := (h.inTable_of_lock hi).eq (h.inTable_of_lock hj) hkey
  exact h.exclusive i j s hi hj

variable [DecidableEq κ]

/-- A slot that is made for a key without one leaves the others where they are. -/
theorem claim (h : Placed st) (hkey : st.table key = none) : Placed (st.claim key) := by
  have hne : ∀ s, st.InTable s → s.key ≠ key := by
    rintro s hs rfl
    cases hkey.symm.trans hs
  have hkeep : ∀ s, st.InTable s → (st.claim key).InTable s := fun s hs =>
    (Function.update_of_ne (hne s hs) ..).trans hs
  refine ⟨fun i s hs => hkeep s (h.current i s hs), h.exclusive, ?_, ?_⟩
  · intro s a hs
    apply hkeep s
    change Function.update st.value ⟨key, st.next⟩ none s = some a at hs
    rw [Function.update_apply] at hs
    split at hs
    · cases hs
    · exact h.stored s a hs
  · intro i s hs
    show Function.update st.value ⟨key, st.next⟩ none s = none
    rw [Function.update_apply]
    split
    · rfl
    · exact h.empty i s hs

/-- A slot of the table may be filled if nobody is responsible for it any more. -/
theorem fill (h : Placed st) (hs : st.InTable s) (hbusy : ∀ i, (st.caller i).busy? ≠ some s) (a : α) :
    Placed (st.fill s a) := by
  refine ⟨h.current, h.exclusive, ?_, ?_⟩
  · intro s' a' hs'
    change Function.update st.value s (some a) s' = some a' at hs'
    rw [Function.update_apply] at hs'
    split at hs'
    · rename_i heq
      exact heq ▸ hs
    · exact h.stored s' a' hs'
  · intro i s' hs'
    have hne : s' ≠ s := by
      rintro rfl
      exact hbusy i hs'
    exact (Function.update_of_ne hne ..).trans (h.empty i s' hs')

/-- An empty slot on which nobody relies may leave the table. -/
theorem erase (h : Placed st) (hs : st.InTable s) (hpinned : ∀ i, s ∉ (st.caller i).pinned)
    (hempty : st.value s = none) : Placed (st.erase s.key) := by
  have hkeep : ∀ s', st.InTable s' → s' ≠ s → (st.erase s.key).InTable s' := by
    intro s' hs' hne
    have hkey : s'.key ≠ s.key := fun hkey => hne (hs'.eq hs hkey)
    exact (Function.update_of_ne hkey ..).trans hs'
  refine ⟨?_, h.exclusive, ?_, h.empty⟩
  · intro i s' hs'
    exact hkeep s' (h.current i s' hs') fun heq => hpinned i (heq ▸ hs')
  · intro s' a hs'
    apply hkeep s' (h.stored s' a hs')
    rintro rfl
    cases hempty.symm.trans hs'

/-- A slot that is made was empty all along. -/
theorem value_claim (h : Placed st) (hkey : st.table key = none) :
    (st.claim key).value = st.value := by
  have hempty : st.value ⟨key, st.next⟩ = none := by
    rw [Option.eq_none_iff_forall_ne_some]
    intro a ha
    cases hkey.symm.trans (h.stored _ a ha)
  show Function.update st.value ⟨key, st.next⟩ none = st.value
  rw [← hempty, Function.update_eq_self]

end Placed

/-! ### Values -/

variable [DecidableEq κ]

theorem State.outputs_record (st : State ι κ α) (key' key : κ) (a : α) :
    (st.record key' a).outputs key = if key' = key then a :: st.outputs key else st.outputs key := by
  unfold outputs record
  rw [List.filter_cons]
  by_cases heq : key' = key <;> simp [heq]

namespace Accounted

/-- A caller goes on.  If it has a value in hand then that is published, and its answer is what is published
too. -/
theorem set [DecidableEq ι] (h : Accounted st)
    (hanswer : ∀ s a, p = .leaving s (some a) → st.value s = some a)
    (hgenerated : ∀ s a, p ≠ .generated s a)
    (hi : ∀ s a, st.caller i = .generated s a → st.value s = some a) : Accounted (st.set i p) where
  answering := (Function.forall_update_iff st.caller
    fun _ p => ∀ s a, p = .leaving s (some a) → st.value s = some a).mpr
      ⟨hanswer, fun j _ => h.answering j⟩
  published := h.published
  generated := (Function.forall_update_iff st.caller
    fun _ p => ∀ s a, p = .generated s a → st.outputs s.key = [a]).mpr
      ⟨fun s a hp => absurd hp (hgenerated s a), fun j _ => h.generated j⟩
  made := by
    intro key hkey
    rcases h.made key hkey with hpublished | ⟨j, s, a, rfl, hj⟩
    · exact .inl hpublished
    · by_cases hji : j = i
      · exact .inl ⟨s, a, rfl, hi s a (hji ▸ hj)⟩
      · exact .inr ⟨j, s, a, rfl, (Function.update_of_ne hji ..).trans hj⟩
  answered := h.answered

/-- The value that a caller has in hand is published. -/
theorem fill (h : Accounted st) (hi : st.caller i = .generated s a) (hempty : st.value s = none) :
    Accounted (st.fill s a) := by
  have hkeep : ∀ s' a', st.value s' = some a' → (st.fill s a).value s' = some a' := by
    intro s' a' hs'
    have hne : s' ≠ s := by
      rintro rfl
      cases hempty.symm.trans hs'
    exact (Function.update_of_ne hne ..).trans hs'
  refine ⟨fun j s' a' hj => hkeep s' a' (h.answering j s' a' hj), ?_, h.generated, ?_, ?_⟩
  · intro s' a' hs'
    change Function.update st.value s (some a) s' = some a' at hs'
    rw [Function.update_apply] at hs'
    split at hs'
    · rename_i heq
      obtain rfl := Option.some.inj hs'
      exact heq ▸ h.generated i s a hi
    · exact h.published s' a' hs'
  · intro key hkey
    refine (h.made key hkey).imp_left ?_
    rintro ⟨s', a', hs', hvalue⟩
    exact ⟨s', a', hs', hkeep s' a' hvalue⟩
  · intro key a' ha'
    obtain ⟨s', hs', hvalue⟩ := h.answered key a' ha'
    exact ⟨s', hs', hkeep s' a' hvalue⟩

/-- While someone generates for a key nothing has been generated for it before: it would be published, or
someone else would have the lock. -/
theorem outputs_eq_nil (h : Accounted st) (hplaced : Placed st) (hi : st.caller i = .generating s) :
    st.outputs s.key = [] := by
  by_contra hne
  rcases h.made s.key hne with ⟨s', a, hkey, hvalue⟩ | ⟨j, s', a, hkey, hj⟩
  · -- What is published is in the table, where the key has one slot, and that one is empty.
    have hs : st.InTable s := hplaced.inTable_of_lock (congrArg Phase.lock? hi)
    obtain rfl := (hplaced.stored s' a hvalue).eq hs hkey
    cases (hplaced.empty i s' (hi ▸ rfl)).symm.trans hvalue
  · obtain rfl := hplaced.eq_of_lock (congrArg Phase.lock? hj) (congrArg Phase.lock? hi) hkey
    cases hi.symm.trans hj

/-- The first value for a key is generated. -/
theorem succeed [DecidableEq ι] (h : Accounted st) (hi : st.caller i = .generating s)
    (hnone : st.outputs s.key = []) (a : α) : Accounted ((st.record s.key a).set i (.generated s a)) := by
  have hother : ∀ key, st.outputs key ≠ [] → (st.record s.key a).outputs key = st.outputs key := by
    intro key hkey
    rw [State.outputs_record, if_neg]
    rintro rfl
    exact hkey hnone
  have hthis : (st.record s.key a).outputs s.key = [a] := by
    rw [State.outputs_record, if_pos rfl, hnone]
  refine ⟨?_, ?_, ?_, ?_, h.answered⟩
  · exact (Function.forall_update_iff st.caller
      fun _ p => ∀ s a, p = .leaving s (some a) → st.value s = some a).mpr
        ⟨nofun, fun j _ => h.answering j⟩
  · intro s' a' hs'
    have hpublished := h.published s' a' hs'
    exact (hother s'.key (by simp [hpublished])).trans hpublished
  · refine (Function.forall_update_iff st.caller
      fun _ p => ∀ s' a', p = .generated s' a' → (st.record s.key a).outputs s'.key = [a']).mpr ⟨?_, ?_⟩
    · rintro s' a' hp
      obtain ⟨rfl, rfl⟩ := Phase.generated.inj hp
      exact hthis
    · intro j _ s' a' hj
      have hgenerated := h.generated j s' a' hj
      exact (hother s'.key (by simp [hgenerated])).trans hgenerated
  · intro key hkey
    by_cases heq : s.key = key
    · exact .inr ⟨i, s, a, heq, Function.update_self ..⟩
    · change (st.record s.key a).outputs key ≠ [] at hkey
      rw [State.outputs_record, if_neg heq] at hkey
      refine (h.made key hkey).imp_right ?_
      rintro ⟨j, s', a', hs', hj⟩
      have hji : j ≠ i := by
        rintro rfl
        cases hi.symm.trans hj
      exact ⟨j, s', a', hs', (Function.update_of_ne hji ..).trans hj⟩

end Accounted

theorem accounted_initial : Accounted ({} : State ι κ α) :=
  ⟨nofun, nofun, nofun, fun _ hkey => absurd rfl hkey, fun _ _ ha => absurd ha List.not_mem_nil⟩

/-! ### Steps -/

variable [Fintype ι] [DecidableEq ι]

/-- **A slot leaves the table when nobody else has a handle to it.** -/
theorem Placed.eq_of_handleCount (h : Placed st) (hi : st.caller i = .discarding s)
    (hcount : st.handleCount s = 2) (hj : s ∈ (st.caller j).handles) : j = i := by
  by_contra hne
  have hs : st.InTable s := h.current i s (hi ▸ List.mem_singleton.mpr rfl)
  have hthree := State.three_le_handleCount hs hj (hi ▸ List.mem_singleton.mpr rfl) hne
  omega

/-- Every step leaves the callers and the slots in order. -/
theorem Step.placed (hstep : Step st st') (h : Placed st) : Placed st' := by
  cases hstep with
  | move i p hmove => exact h.set (fun _ => hmove.pinned) (fun _ => hmove.lock) fun _ => hmove.busy
  | create i key hi hkey =>
      refine (h.claim hkey).set ?_ nofun nofun
      intro s hs
      exact .inr (List.mem_singleton.mp hs ▸ Function.update_self ..)
  | succeed i s a hi =>
      have hset : Placed (st.set i (.generated s a)) :=
        h.set_of_subset (hi ▸ List.Subset.refl [s]) (hi ▸ fun _ hs => hs) (hi ▸ fun _ hs => hs)
      exact ⟨hset.current, hset.exclusive, hset.stored, hset.empty⟩
  | publish i s a hi =>
      have hset : Placed (st.set i (.leaving s (some a))) :=
        h.set_of_subset (hi ▸ List.Subset.refl [s]) nofun nofun
      refine hset.fill (h.inTable_of_lock (congrArg Phase.lock? hi)) ?_ a
      -- Only the caller that publishes was responsible for the slot, since it had the lock.
      intro j hj
      rw [State.set_caller, Function.update_apply] at hj
      split at hj
      · cases hj
      · rename_i hne
        exact hne (h.exclusive j i s (Phase.lock_of_busy hj) (hi ▸ rfl))
  | remove i s hi hcount hfree hempty =>
      have hset : Placed (st.set i (.leaving s none)) :=
        h.set_of_subset (List.nil_subset _) nofun nofun
      refine hset.erase (h.current i s (hi ▸ List.mem_singleton.mpr rfl)) ?_ hempty
      intro j hj
      rw [State.set_caller, Function.update_apply] at hj
      split at hj
      · exact absurd hj List.not_mem_nil
      · rename_i hne
        exact hne (h.eq_of_handleCount hi hcount (Phase.mem_handles_of_pinned hj))
  | drop i s answer hi =>
      have hset : Placed (st.set i .idle) := h.set_of_subset (List.nil_subset _) nofun nofun
      exact ⟨hset.current, hset.exclusive, hset.stored, hset.empty⟩

/-- Every step keeps the account. -/
theorem Step.accounted (hstep : Step st st') (hplaced : Placed st) (h : Accounted st) :
    Accounted st' := by
  cases hstep with
  | move i p hmove =>
      obtain ⟨hi, hp⟩ := hmove.not_generated
      refine h.set ?_ hp fun s a hs => absurd hs (hi s a)
      rintro s a rfl
      exact hmove.answer
  | create i key hi hkey =>
      have hvalue := hplaced.value_claim hkey
      have hclaim : Accounted (st.claim key) :=
        { answering := hvalue ▸ h.answering
          published := hvalue ▸ h.published
          generated := h.generated
          made := hvalue ▸ h.made
          answered := hvalue ▸ h.answered }
      exact hclaim.set nofun nofun fun s a hs => by cases hi.symm.trans hs
  | succeed i s a hi => exact h.succeed hi (h.outputs_eq_nil hplaced hi) a
  | publish i s a hi =>
      refine (h.fill hi (hplaced.empty i s (hi ▸ rfl))).set ?_ nofun ?_
      · rintro s' a' hp
        cases hp
        exact Function.update_self ..
      · rintro s' a' hs'
        cases hi.symm.trans hs'
        exact Function.update_self ..
  | remove i s hi hcount hfree hempty =>
      have herase : Accounted (st.erase s.key) :=
        ⟨h.answering, h.published, h.generated, h.made, h.answered⟩
      exact herase.set nofun nofun fun s a hs => by cases hi.symm.trans hs
  | drop i s answer hi =>
      have hreply : Accounted (st.reply s.key answer) := by
        refine ⟨h.answering, h.published, h.generated, h.made, ?_⟩
        intro key a ha
        rcases List.mem_append.mp ha with ha | ha
        · obtain ⟨a', ha', heq⟩ := List.mem_map.mp ha
          cases heq
          obtain rfl := Option.mem_toList.mp ha'
          exact ⟨s, rfl, h.answering i s a hi⟩
        · exact h.answered key a ha
      exact hreply.set nofun nofun fun s a hs => by cases hi.symm.trans hs

/-- No step changes what is published in a slot. -/
theorem Step.value_eq (hstep : Step st st') (hplaced : Placed st) (hs : st.value s = some a) :
    st'.value s = some a := by
  cases hstep with
  | move | succeed | remove | drop => exact hs
  | create i key hi hkey => exact (congrFun (hplaced.value_claim hkey) s).trans hs
  | publish i s' a' hi =>
      have hne : s ≠ s' := by
        rintro rfl
        cases (hplaced.empty i s (hi ▸ rfl)).symm.trans hs
      exact (Function.update_of_ne hne ..).trans hs

/-! ### Runs -/

/-- Callers and slots are in order in every state of a run, and the account is kept. -/
theorem Run.placed (hrun : Run st st') (h : Placed st) : Placed st' := by
  induction hrun with
  | refl => exact h
  | tail _ hstep ih => exact hstep.placed ih

theorem Run.accounted (hrun : Run st st') (hplaced : Placed st) (h : Accounted st) : Accounted st' := by
  induction hrun with
  | refl => exact h
  | tail hrun hstep ih => exact hstep.accounted (Run.placed hrun hplaced) ih

theorem Reachable.placed (h : Reachable st) : Placed st := Run.placed h placed_initial

theorem Reachable.accounted (h : Reachable st) : Accounted st :=
  Run.accounted h placed_initial accounted_initial

/-- What is published for a key stays published. -/
theorem Run.published_eq (hrun : Run st st') (hplaced : Placed st) (h : st.published key = some a) :
    st'.published key = some a := by
  obtain ⟨s, hkey, hvalue⟩ := hplaced.published_eq_some_iff.mp h
  refine (Run.placed hrun hplaced).published_eq_some_iff.mpr ⟨s, hkey, ?_⟩
  induction hrun with
  | refl => exact hvalue
  | tail hrun hstep ih => exact hstep.value_eq (Run.placed hrun hplaced) ih

/-! ### What holds in every reachable state -/

/-- A discard that takes the slot's lock never waits for it: with two handles nobody else can have it. -/
theorem Reachable.free_of_discarding (h : Reachable st) (hi : st.caller i = .discarding s)
    (hcount : st.handleCount s = 2) : st.Free s := by
  intro j hj
  have hhandle := Phase.mem_handles_of_pinned (Phase.mem_pinned_of_lock hj)
  obtain rfl := h.placed.eq_of_handleCount hi hcount hhandle
  rw [hi] at hj
  cases hj

/-- **Single flight.**  In every reachable state and for every key: at most one caller is generating; at
most one value has been generated; every answer is that value, and it is published; what is published stays
published; and the slots on which callers rely are the one that the table has for the key. -/
theorem Reachable.single_flight (h : Reachable st) (key : κ) :
    (∀ i j s s', st.caller i = .generating s → st.caller j = .generating s' →
      s.key = key → s'.key = key → i = j) ∧
    (st.outputs key).length ≤ 1 ∧
    (∀ a, (key, a) ∈ st.answers → st.outputs key = [a] ∧ st.published key = some a) ∧
    (∀ a, st.published key = some a → ∀ st', Run st st' → st'.published key = some a) ∧
    ∀ i, ∀ s ∈ (st.caller i).pinned, s.key = key → st.table key = some s.number := by
  have hplaced := h.placed
  have haccounted := h.accounted
  refine ⟨?_, ?_, ?_, ?_, ?_⟩
  · intro i j s s' hi hj hs hs'
    exact hplaced.eq_of_lock (congrArg Phase.lock? hi) (congrArg Phase.lock? hj) (hs.trans hs'.symm)
  · by_cases hnone : st.outputs key = []
    · simp [hnone]
    · rcases haccounted.made key hnone with ⟨s, a, rfl, hvalue⟩ | ⟨i, s, a, rfl, hi⟩
      · simp [haccounted.published s a hvalue]
      · simp [haccounted.generated i s a hi]
  · intro a ha
    obtain ⟨s, rfl, hvalue⟩ := haccounted.answered key a ha
    exact ⟨haccounted.published s a hvalue, hplaced.published_eq_some_iff.mpr ⟨s, rfl, hvalue⟩⟩
  · intro a ha st' hrun
    exact hrun.published_eq hplaced ha
  · rintro i s hs rfl
    exact hplaced.current i s hs

/-! ### Two callers and one key -/

namespace TwoCallers

/-- The key that both callers ask for. -/
def cellKey : AdapterKey := .of Swapping.readable Swapping.cell

/-- The only slot that is made. -/
def slot : Slot AdapterKey := ⟨cellKey, 0⟩

/-- The cache with this slot, what is in it, and where the two callers stand. -/
def scene (value : Option AdapterType) (made answers : List (AdapterKey × AdapterType))
    (first second : Phase AdapterKey AdapterType) : State Bool AdapterKey AdapterType where
  table := Function.update (fun _ => none) cellKey (some 0)
  value := Function.update (fun _ => none) slot value
  caller
    | false => first
    | true => second
  next := 1
  made
  answers

variable {value : Option AdapterType} {made answers : List (AdapterKey × AdapterType)}
variable {p q r : Phase AdapterKey AdapterType}

theorem set_false : (scene value made answers p q).set false r = scene value made answers r q := by
  unfold State.set scene
  congr 1
  funext i
  cases i <;> rfl

theorem set_true : (scene value made answers p q).set true r = scene value made answers p r := by
  unfold State.set scene
  congr 1
  funext i
  cases i <;> rfl

theorem free_slot (hp : p.lock? = none) (hq : q.lock? = none) :
    (scene value made answers p q).Free slot := by
  intro i hi
  cases i with
  | false => cases hp.symm.trans hi
  | true => cases hq.symm.trans hi

theorem inTable_slot : (scene value made answers p q).InTable slot := by
  simp [State.InTable, scene, slot]

theorem value_slot : (scene value made answers p q).value slot = value := by simp [scene]

/-- The first caller goes on. -/
theorem first (h : Move (scene value made answers p q) p r) :
    Step (scene value made answers p q) (scene value made answers r q) := by
  have hstep := Step.move (scene value made answers p q) false r h
  rwa [set_false] at hstep

/-- The second caller goes on. -/
theorem second (h : Move (scene value made answers p q) q r) :
    Step (scene value made answers p q) (scene value made answers p r) := by
  have hstep := Step.move (scene value made answers p q) true r h
  rwa [set_true] at hstep

theorem succeed (a : AdapterType) :
    Step (scene value made answers p (.generating slot))
      (scene value ((cellKey, a) :: made) answers p (.generated slot a)) := by
  have hstep := Step.succeed (scene value made answers p (.generating slot)) true slot a rfl
  have hrecord : (scene value made answers p (.generating slot)).record slot.key a =
      scene value ((cellKey, a) :: made) answers p (.generating slot) := rfl
  rwa [hrecord, set_true] at hstep

theorem publish (a : AdapterType) :
    Step (scene value made answers p (.generated slot a))
      (scene (some a) made answers p (.leaving slot (some a))) := by
  have hstep := Step.publish (scene value made answers p (.generated slot a)) true slot a rfl
  have hfill : (scene value made answers p (.generated slot a)).fill slot a =
      scene (some a) made answers p (.generated slot a) := by
    unfold State.fill scene
    congr 1
    exact Function.update_idem ..
  rwa [hfill, set_true] at hstep

theorem drop_first (answer : Option AdapterType) :
    Step (scene value made answers (.leaving slot answer) q)
      (scene value made (answer.toList.map (cellKey, ·) ++ answers) .idle q) := by
  have hstep := Step.drop (scene value made answers (.leaving slot answer) q) false slot answer rfl
  have hreply : (scene value made answers (.leaving slot answer) q).reply slot.key answer =
      scene value made (answer.toList.map (cellKey, ·) ++ answers) (.leaving slot answer) q := rfl
  rwa [hreply, set_false] at hstep

theorem drop_second (answer : Option AdapterType) :
    Step (scene value made answers p (.leaving slot answer))
      (scene value made (answer.toList.map (cellKey, ·) ++ answers) p .idle) := by
  have hstep := Step.drop (scene value made answers p (.leaving slot answer)) true slot answer rfl
  have hreply : (scene value made answers p (.leaving slot answer)).reply slot.key answer =
      scene value made (answer.toList.map (cellKey, ·) ++ answers) p (.leaving slot answer) := rfl
  rwa [hreply, set_true] at hstep

theorem create :
    Step ({} : State Bool AdapterKey AdapterType) (scene none [] [] (.waiting slot) .idle) := by
  have hcreate := Step.create ({} : State Bool AdapterKey AdapterType) false cellKey rfl rfl
  have hscene : (State.claim {} cellKey).set false (.waiting ⟨cellKey, 0⟩) =
      scene none [] [] (.waiting slot) .idle := by
    unfold State.set State.claim scene
    congr 1
    funext i
    cases i <;> rfl
  exact hscene ▸ hcreate

/-- With both callers at the slot there are three handles, so it is kept. -/
theorem keep : Step (scene value made answers (.discarding slot) (.waiting slot))
    (scene value made answers (.leaving slot none) (.waiting slot)) := by
  refine first (.keep slot ?_)
  intro hcount
  have hs : (scene value made answers (.discarding slot) (.waiting slot)).InTable slot := inTable_slot
  have hthree := State.three_le_handleCount (i := false) (j := true) hs List.mem_cons_self
    List.mem_cons_self nofun
  omega

/-- The first caller fails while the second one waits, the second one succeeds, and the first one, which has
called again meanwhile, finds the value. -/
theorem reachable_end (a : AdapterType) :
    Reachable (scene (some a) [(cellKey, a)] [(cellKey, a), (cellKey, a)] .idle .idle) := by
  have hstart : Reachable (scene none [] [] (.waiting slot) .idle) := .single create
  have hgenerating : Reachable (scene none [] [] (.generating slot) (.waiting slot)) :=
    ((hstart.tail (first (.enter slot (free_slot rfl rfl)))).tail (first (.start slot value_slot))).tail
      (second (.fetch slot inTable_slot))
  have hdiscarding : Reachable (scene none [] [] (.discarding slot) (.waiting slot)) :=
    (hgenerating.tail (first (.fail slot))).tail (first (.release slot))
  have hfailed : Reachable (scene none [] [] .idle (.waiting slot)) :=
    (hdiscarding.tail keep).tail (drop_first none)
  have hretry : Reachable (scene none [] [] (.waiting slot) (.generating slot)) :=
    ((hfailed.tail (second (.enter slot (free_slot rfl rfl)))).tail
      (second (.start slot value_slot))).tail (first (.fetch slot inTable_slot))
  have hpublished : Reachable
      (scene (some a) [(cellKey, a)] [] (.waiting slot) (.leaving slot (some a))) :=
    (hretry.tail (succeed a)).tail (publish a)
  have hhit : Reachable
      (scene (some a) [(cellKey, a)] [] (.leaving slot (some a)) (.leaving slot (some a))) :=
    (hpublished.tail (first (.enter slot (free_slot rfl rfl)))).tail (first (.hit slot a value_slot))
  exact (hhit.tail (drop_first (some a))).tail (drop_second (some a))

/-- Both callers are answered with the one adapter type that was generated. -/
theorem answered_alike : ∃ st : State Bool AdapterKey AdapterType, Reachable st ∧
    st.answers = [(cellKey, Swapping.lower), (cellKey, Swapping.lower)] ∧
      st.outputs cellKey = [Swapping.lower] ∧ st.published cellKey = some Swapping.lower := by
  have hreachable := reachable_end Swapping.lower
  obtain ⟨-, -, hanswers, -, -⟩ := hreachable.single_flight cellKey
  exact ⟨_, hreachable, rfl, hanswers _ List.mem_cons_self⟩

end TwoCallers

end SharedCache

end StructuralAdapters
