import StructuralAdapters.Proofs.Caching
import StructuralAdapters.Proofs.SingleFlight

/-!
# Calls that run alone

A cache that is called by one caller at a time does what `SlotCache` says: the slots of the table and what is
published in them are those of the cache that the call leaves, and the call is answered alike.

* `SharedCache.State.Shows` — the table and the slots are those of a cache;
* `SharedCache.Alone` — one caller is in a call, and no one else;
* `SharedCache.State.Quiet.lookup_alone` — a look-up answers with what is published;
* `SharedCache.State.Quiet.getOrGenerate_alone` — a call runs through to the reply of `getOrGenerate`.

The slot of a failed call is taken out of the table again, since the caller finds no handles but its own and
that of the table.
-/

namespace StructuralAdapters

namespace SharedCache

variable {ι κ α ε σ : Type}
variable {st : State ι κ α} {cache : SlotCache κ α} {s : Slot κ} {i : ι} {key : κ} {a : α}
variable {p q : Phase κ α}

/-! ### One caller -/

/-- The caller `i` is in a call, at this place, and no one else is. -/
structure Alone (st : State ι κ α) (i : ι) (p : Phase κ α) : Prop where
  here : st.caller i = p
  others : ∀ j, j ≠ i → st.caller j = .idle

namespace Alone

theorem of_quiet (h : st.Quiet) (i : ι) : Alone st i .idle := ⟨h i, fun j _ => h j⟩

theorem set [DecidableEq ι] (h : Alone st i p) (q : Phase κ α) : Alone (st.set i q) i q :=
  ⟨Function.update_self .., fun j hj => (Function.update_of_ne hj ..).trans (h.others j hj)⟩

theorem quiet (h : Alone st i .idle) : st.Quiet := by
  intro j
  by_cases hji : j = i
  · exact hji ▸ h.here
  · exact h.others j hji

theorem free (h : Alone st i p) (hp : p.lock? = none) (s : Slot κ) : st.Free s := by
  intro j hj
  by_cases hji : j = i
  · rw [hji, h.here, hp] at hj
    cases hj
  · rw [h.others j hji] at hj
    cases hj

/-- There are two handles to a slot of the table that the caller has one handle to. -/
theorem handleCount [Fintype ι] [DecidableEq κ] (h : Alone st i p) (hs : st.InTable s)
    (hp : p.handles = [s]) : st.handleCount s = 2 := by
  refine State.handleCount_eq_two hs (h.here ▸ hp) ?_
  intro j hji
  rw [h.others j hji]
  exact List.not_mem_nil

/-- The caller goes on. -/
theorem step [Fintype ι] [DecidableEq ι] [DecidableEq κ] (h : Alone st i p) (hmove : Move st p q) :
    Step st (st.set i q) ∧ Alone (st.set i q) i q :=
  ⟨.move st i q (h.here.symm ▸ hmove), h.set q⟩

end Alone

/-! ### What a cache looks like from the side of its slots -/

variable [DecidableEq κ]

/-- The table and the slots are those of the cache. -/
def State.Shows (st : State ι κ α) (cache : SlotCache κ α) : Prop :=
  ∀ key, Entries.get? key cache.slots = (st.table key).map fun number => st.value ⟨key, number⟩

namespace State.Shows

theorem lookup (h : st.Shows cache) (key : κ) : cache.lookup key = st.published key := by
  rw [SlotCache.lookup, h key, published]
  cases st.table key <;> rfl

theorem value (h : st.Shows cache) (hs : st.InTable s) : cache.lookup s.key = st.value s := by
  rw [h.lookup, published, show st.table s.key = some s.number from hs]
  rfl

/-- The cache has a slot for the key already. -/
theorem claim_of_inTable (h : st.Shows cache) (hs : st.InTable s) : cache.claim s.key = cache := by
  have hslot := h s.key
  rw [show st.table s.key = some s.number from hs] at hslot
  rw [SlotCache.claim, hslot]
  rfl

/-- A new slot on both sides. -/
theorem claim (h : st.Shows cache) (hkey : st.table key = none) :
    (st.claim key).Shows (cache.claim key) := by
  have hslot := h key
  rw [hkey] at hslot
  intro key'
  rw [SlotCache.claim, hslot]
  show Entries.get? key' (Entries.put key none cache.slots) = _
  rw [Entries.get?_put]
  by_cases heq : key' = key
  · subst heq
    simp [State.claim]
  · have hne : ∀ number, (⟨key', number⟩ : Slot κ) ≠ ⟨key, st.next⟩ :=
      fun number hsame => heq (congrArg Slot.key hsame)
    simp [State.claim, heq, hne, h key']

/-- A value published on both sides. -/
theorem fill (h : st.Shows cache) (hs : st.InTable s) (a : α) :
    (st.fill s a).Shows (cache.publish s.key a) := by
  intro key'
  show Entries.get? key' (Entries.put s.key (some a) cache.slots) =
    (st.table key').map fun number => Function.update st.value s (some a) ⟨key', number⟩
  rw [Entries.get?_put]
  by_cases heq : key' = s.key
  · subst heq
    rw [if_pos rfl, show st.table s.key = some s.number from hs]
    simp
  · have hne : ∀ number, (⟨key', number⟩ : Slot κ) ≠ s :=
      fun number hsame => heq (congrArg Slot.key hsame)
    simp [heq, hne, h key']

/-- An empty slot dropped on both sides. -/
theorem erase (h : st.Shows cache) (hs : st.InTable s) (hempty : st.value s = none) :
    (st.erase s.key).Shows (cache.discard s.key) := by
  have hslot := h s.key
  rw [show st.table s.key = some s.number from hs] at hslot
  intro key'
  rw [SlotCache.discard, hslot, Option.map_some, show st.value ⟨s.key, s.number⟩ = none from hempty]
  show Entries.get? key' (Entries.erase s.key cache.slots) = _
  rw [Entries.get?_erase]
  by_cases heq : key' = s.key
  · subst heq
    simp [State.erase]
  · simp [State.erase, heq, h key']

end State.Shows

variable [Fintype ι] [DecidableEq ι]

/-! ### Calls -/

/-- Where there is a slot for the key, a look-up alone answers with what is published in it. -/
theorem State.Quiet.lookup_alone (hquiet : st.Quiet) (hshows : st.Shows cache) (i : ι)
    (hs : st.InTable s) :
    ∃ st', Run st st' ∧ st'.Quiet ∧ st'.Shows cache ∧
      st'.answers = (cache.lookup s.key).toList.map (s.key, ·) ++ st.answers := by
  obtain ⟨hfind, halone⟩ := (Alone.of_quiet hquiet i).step (.find s hs)
  obtain ⟨hseize, halone⟩ := halone.step (.seize s (halone.free rfl s))
  obtain ⟨hread, halone⟩ := halone.step (.read s)
  have hrun := ((Relation.ReflTransGen.single hfind).tail hseize).tail hread
  refine ⟨_, hrun.tail (.drop _ i s _ halone.here), (halone.set .idle).quiet, hshows, ?_⟩
  rw [hshows.value hs]
  rfl

/-- A caller alone gets a handle to the slot of the key, which is made if need be. -/
theorem State.Quiet.exists_waiting (hquiet : st.Quiet) (hshows : st.Shows cache) (i : ι) (key : κ) :
    ∃ st' s, Run st st' ∧ s.key = key ∧ Alone st' i (.waiting s) ∧ st'.InTable s ∧
      st'.Shows (cache.claim key) ∧ st'.answers = st.answers := by
  have halone := Alone.of_quiet hquiet i
  cases htable : st.table key with
  | some number =>
      have hs : st.InTable ⟨key, number⟩ := htable
      obtain ⟨hfetch, hwaiting⟩ := halone.step (.fetch ⟨key, number⟩ hs)
      have hclaimed : st.Shows (cache.claim key) := (hshows.claim_of_inTable hs).symm ▸ hshows
      exact ⟨_, ⟨key, number⟩, .single hfetch, rfl, hwaiting, hs, hclaimed, rfl⟩
  | none =>
      have hclaimed : Alone (st.claim key) i .idle := ⟨halone.here, halone.others⟩
      exact ⟨_, ⟨key, st.next⟩, .single (.create st i key halone.here htable), rfl, hclaimed.set _,
        Function.update_self .., hshows.claim htable, rfl⟩

namespace Alone

/-- The slot is filled. -/
theorem finish_hit (h : Alone st i (.waiting s)) (hshows : st.Shows cache) (hvalue : st.value s = some a) :
    ∃ st', Run st st' ∧ st'.Quiet ∧ st'.Shows cache ∧ st'.answers = (s.key, a) :: st.answers := by
  obtain ⟨henter, halone⟩ := h.step (.enter s (h.free rfl s))
  obtain ⟨hhit, halone⟩ := halone.step (.hit s a hvalue)
  exact ⟨_, ((Relation.ReflTransGen.single henter).tail hhit).tail (.drop _ i s _ halone.here),
    (halone.set .idle).quiet, hshows, rfl⟩

/-- The slot is empty, and the caller begins to generate. -/
theorem start (h : Alone st i (.waiting s)) (hempty : st.value s = none) :
    Run st ((st.set i (.entered s)).set i (.generating s)) ∧
      Alone ((st.set i (.entered s)).set i (.generating s)) i (.generating s) := by
  obtain ⟨henter, halone⟩ := h.step (.enter s (h.free rfl s))
  obtain ⟨hstart, halone⟩ := halone.step (.start s hempty)
  exact ⟨(Relation.ReflTransGen.single henter).tail hstart, halone⟩

/-- The value that is generated is published. -/
theorem finish_ok (h : Alone st i (.waiting s)) (hshows : st.Shows cache) (hs : st.InTable s)
    (hempty : st.value s = none) (a : α) :
    ∃ st', Run st st' ∧ st'.Quiet ∧ st'.Shows (cache.publish s.key a) ∧
      st'.answers = (s.key, a) :: st.answers := by
  obtain ⟨hrun, halone⟩ := h.start hempty
  have hsucceed := hrun.tail (.succeed _ i s a halone.here)
  have hpublish := hsucceed.tail (.publish _ i s a (Function.update_self ..))
  exact ⟨_, hpublish.tail (.drop _ i s (some a) (Function.update_self ..)),
    (((halone.set (.generated s a)).set (.leaving s (some a))).set .idle).quiet, hshows.fill hs a, rfl⟩

/-- After a failure the slot is gone. -/
theorem finish_error (h : Alone st i (.waiting s)) (hshows : st.Shows cache) (hs : st.InTable s)
    (hempty : st.value s = none) :
    ∃ st', Run st st' ∧ st'.Quiet ∧ st'.Shows (cache.discard s.key) ∧ st'.answers = st.answers := by
  obtain ⟨hrun, halone⟩ := h.start hempty
  obtain ⟨hfail, halone⟩ := halone.step (.fail s)
  obtain ⟨hrelease, halone⟩ := halone.step (.release s)
  -- The handles are that of the table and the caller's own, so the slot does not stay.
  have hremove := ((hrun.tail hfail).tail hrelease).tail
    (.remove _ i s halone.here (halone.handleCount hs rfl) (halone.free rfl s) hempty)
  exact ⟨_, hremove.tail (.drop _ i s none (Function.update_self ..)),
    ((halone.set (.leaving s none)).set .idle).quiet, hshows.erase hs hempty, rfl⟩

end Alone

/-- **A call alone is answered as `getOrGenerate` says**, and leaves what it says. -/
theorem State.Quiet.getOrGenerate_alone (hquiet : st.Quiet) (hshows : st.Shows cache) (i : ι) (key : κ)
    (generate : σ → Except ε α × σ) (x : σ) :
    ∃ st', Run st st' ∧ st'.Quiet ∧ st'.Shows (cache.getOrGenerate key generate x).2.1 ∧
      st'.answers =
        (cache.getOrGenerate key generate x).1.toOption.toList.map (key, ·) ++ st.answers := by
  obtain ⟨st₁, s, hrun, rfl, halone, hs, hclaimed, hanswers⟩ := hquiet.exists_waiting hshows i key
  unfold SlotCache.getOrGenerate
  rw [← hanswers]
  simp only [hclaimed.value hs]
  cases hvalue : st₁.value s with
  | some a =>
      obtain ⟨st', hrun', hquiet', hshows', hanswers'⟩ := halone.finish_hit hclaimed hvalue
      exact ⟨st', hrun.trans hrun', hquiet', hshows', hanswers'⟩
  | none =>
      rcases hgenerate : generate x with ⟨e | a, x'⟩
      · obtain ⟨st', hrun', hquiet', hshows', hanswers'⟩ := halone.finish_error hclaimed hs hvalue
        exact ⟨st', hrun.trans hrun', hquiet', hshows', hanswers'⟩
      · obtain ⟨st', hrun', hquiet', hshows', hanswers'⟩ := halone.finish_ok hclaimed hs hvalue a
        exact ⟨st', hrun.trans hrun', hquiet', hshows', hanswers'⟩

end SharedCache

end StructuralAdapters
