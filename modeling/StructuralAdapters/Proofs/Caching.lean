import StructuralAdapters.SlotCache

/-!
# What a cache answers

A cache makes a slot before it knows whether there will be a value to put into it.  Between requests none of
this shows: as long as no slot is empty, a request finds its value, or makes and publishes it, or leaves the
cache exactly as it was.

* `Entries.get?_put`, `Entries.get?_erase` — what is found after a change;
* `SlotCache.Filled` — every slot has a value;
* `SlotCache.getOrGenerate_of_lookup`, `SlotCache.getOrGenerate_of_ok`, `SlotCache.getOrGenerate_of_error` —
  the three ways in which a request ends.
-/

namespace StructuralAdapters

namespace Entries

variable {κ α : Type} [DecidableEq κ] {entries : Entries κ α} {key key' : κ}

theorem get?_put (value : α) :
    get? key' (put key value entries) = if key' = key then some value else get? key' entries := by
  induction entries with
  | nil => simp [put, get?, eq_comm]
  | cons entry rest ih =>
      obtain ⟨k, a⟩ := entry
      rw [put]
      by_cases hk : k = key
      · subst hk
        by_cases hkey : key' = k
        · simp [get?, hkey]
        · simp [get?, hkey, Ne.symm hkey]
      · rw [if_neg hk, get?, get?, ih]
        by_cases hkey : key' = key
        · simp [hkey, hk]
        · simp [hkey]

/-- What is found after removing a key. -/
theorem get?_erase (key key' : κ) (entries : Entries κ α) :
    get? key' (erase key entries) = if key' = key then none else get? key' entries := by
  induction entries with
  | nil => simp [erase, get?]
  | cons entry rest ih =>
      obtain ⟨k, a⟩ := entry
      unfold erase at ih ⊢
      by_cases hk : k = key
      · subst hk
        rw [List.filter_cons_of_neg (by simp), ih, get?]
        by_cases hkey : key' = k
        · rw [if_pos hkey, if_pos hkey]
        · rw [if_neg hkey, if_neg hkey, if_neg (Ne.symm hkey)]
      · rw [List.filter_cons_of_pos (by simpa using hk), get?, get?, ih]
        by_cases hkey : key' = key
        · rw [if_pos hkey, if_neg fun heq => hk (heq.trans hkey), if_pos hkey]
        · rw [if_neg hkey, if_neg hkey]

/-- What a key had is of no matter when it is removed. -/
theorem erase_put (value : α) : erase key (put key value entries) = erase key entries := by
  induction entries with
  | nil => simp [put, erase]
  | cons entry rest ih =>
      obtain ⟨k, a⟩ := entry
      unfold erase at ih ⊢
      by_cases hk : k = key
      · simp [put, hk]
      · rw [put, if_neg hk, List.filter_cons_of_pos (by simpa using hk),
          List.filter_cons_of_pos (by simpa using hk), ih]

/-- There is nothing to remove. -/
theorem erase_of_get?_eq_none (h : get? key entries = none) : erase key entries = entries := by
  induction entries with
  | nil => rfl
  | cons entry rest ih =>
      obtain ⟨k, a⟩ := entry
      have hk : k ≠ key := by
        rintro rfl
        simp [get?] at h
      rw [get?, if_neg hk] at h
      have hrest := ih h
      unfold erase at hrest ⊢
      rw [List.filter_cons_of_pos (by simpa using hk), hrest]

end Entries

namespace SlotCache

variable {κ α ε σ : Type} [DecidableEq κ] {cache : SlotCache κ α} {key key' : κ} {value : α}

/-! ### Slots and what is published -/

/-- Every slot has a value. -/
def Filled (cache : SlotCache κ α) : Prop :=
  ∀ key, Entries.get? key cache.slots ≠ some none

theorem filled_empty : ({} : SlotCache κ α).Filled := fun _ h => by cases h

/-- Making a slot publishes nothing. -/
theorem lookup_claim : (cache.claim key).lookup key' = cache.lookup key' := by
  unfold claim lookup
  cases h : Entries.get? key cache.slots with
  | some slot => rfl
  | none =>
      simp only [Entries.get?_put]
      by_cases hkey : key' = key
      · subst hkey
        rw [if_pos rfl, h]
        rfl
      · rw [if_neg hkey]

theorem lookup_publish :
    (cache.publish key value).lookup key' = if key' = key then some value else cache.lookup key' := by
  unfold publish lookup
  rw [Entries.get?_put]
  split <;> rfl

theorem lookup_store :
    (cache.store key value).lookup key' = if key' = key then some value else cache.lookup key' := by
  rw [store, lookup_publish, lookup_claim]

theorem Filled.store (h : cache.Filled) (key : κ) (value : α) : (cache.store key value).Filled := by
  intro key'
  unfold SlotCache.store publish claim
  rw [Entries.get?_put]
  by_cases hkey : key' = key
  · rw [if_pos hkey]
    exact fun heq => Option.some_ne_none value (Option.some.inj heq)
  · rw [if_neg hkey]
    cases Entries.get? key cache.slots with
    | some slot => exact h key'
    | none =>
        rw [Entries.get?_put, if_neg hkey]
        exact h key'

/-- Where no slot is empty, a key without a value has no slot. -/
theorem Filled.get?_eq_none (h : cache.Filled) (hmiss : cache.lookup key = none) :
    Entries.get? key cache.slots = none := by
  unfold lookup at hmiss
  cases hslot : Entries.get? key cache.slots with
  | none => rfl
  | some slot =>
      rw [hslot] at hmiss
      obtain rfl : slot = none := hmiss
      exact absurd hslot (h key)

/-- A slot that could not be filled is gone, whether or not it was there before. -/
theorem discard_claim (hmiss : cache.lookup key = none) :
    (cache.claim key).discard key = ⟨Entries.erase key cache.slots⟩ := by
  unfold lookup at hmiss
  unfold claim
  cases hslot : Entries.get? key cache.slots with
  | none =>
      simp only [discard, Entries.get?_put, if_pos]
      exact congrArg mk (Entries.erase_put none)
  | some slot =>
      rw [hslot] at hmiss
      obtain rfl : slot = none := hmiss
      simp only [discard, hslot]

/-- A slot that was made and could not be filled is gone again. -/
theorem Filled.discard_claim (h : cache.Filled) (hmiss : cache.lookup key = none) :
    (cache.claim key).discard key = cache :=
  (SlotCache.discard_claim hmiss).trans
    (congrArg mk (Entries.erase_of_get?_eq_none (h.get?_eq_none hmiss)))

/-! ### A request -/

variable {generate : σ → Except ε α × σ} {s s' : σ} {e : ε}

/-- A published value is the answer, and nothing is generated. -/
theorem getOrGenerate_of_lookup (h : cache.lookup key = some value) :
    cache.getOrGenerate key generate s = (.ok value, cache, s) := by
  have hclaim : cache.claim key = cache := by
    unfold claim
    cases hslot : Entries.get? key cache.slots with
    | some slot => rfl
    | none =>
        unfold lookup at h
        rw [hslot] at h
        cases h
  unfold getOrGenerate
  simp only [hclaim, h]

/-- A value that could be generated is published. -/
theorem getOrGenerate_of_ok (hmiss : cache.lookup key = none) (hok : generate s = (.ok value, s')) :
    cache.getOrGenerate key generate s = (.ok value, cache.store key value, s') := by
  unfold getOrGenerate
  simp only [lookup_claim, hmiss, hok]
  rfl

/-- After a failure the cache is as it was. -/
theorem getOrGenerate_of_error (hfilled : cache.Filled) (hmiss : cache.lookup key = none)
    (herror : generate s = (.error e, s')) :
    cache.getOrGenerate key generate s = (.error e, cache, s') := by
  unfold getOrGenerate
  simp only [lookup_claim, hmiss, herror, hfilled.discard_claim hmiss]

end SlotCache

end StructuralAdapters
