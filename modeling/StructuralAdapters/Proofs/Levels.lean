import Mathlib.Data.List.Forall2
import StructuralAdapters.Contract.Requirements

/-!
# First occurrences and levels

A contract's requirements are what is left of a long sequence of members when only the first one of
each structural key is kept.  The sequence is laid out in *levels*: what the contract declares itself,
then what its direct parents declare, and so on.

* `keepFirst` — keep the first element of each key;
* `Levels`, `Levels.visible` — a sequence in levels, and what is left of it;
* `Levels.Agree` — two sequences of which the same is left;
* `Levels.cons`, `Levels.merge`, `Levels.map` — the operations from which the levels of a contract are
  built, all of which respect `Agree`.

## Why levels

Breadth-first order interleaves the ancestors of different parents, so the flat sequence of a contract
is no function of the flat sequences of its parents.  Kept apart by level it is: level `k + 1` of a
contract is level `k` of its parents, one after the other.  Everything hidden inside a parent stays
hidden below the contract, which is what makes `Agree` a congruence.
-/

namespace StructuralAdapters

variable {α β κ : Type} [DecidableEq κ]

/-! ### Keeping the first of each key -/

/-- Keep the first element of each key that is not in `seen`. -/
def keepFirst (key : α → κ) (seen : List κ) : List α → List α
  | [] => []
  | a :: rest =>
      if key a ∈ seen then keepFirst key seen rest else a :: keepFirst key (key a :: seen) rest

/-- The requirements of a contract are kept in this way. -/
theorem firstOfEachKey_eq_keepFirst (seen : List SignatureKey) (rs : List Requirement) :
    Requirement.firstOfEachKey seen rs = keepFirst Requirement.key seen rs := by
  induction rs generalizing seen with
  | nil => rfl
  | cons r rest ih => simp only [Requirement.firstOfEachKey, keepFirst, ih]

variable {key : α → κ}

/-- Which keys have been seen counts, and not how often or in what order. -/
theorem keepFirst_congr {seen seen' : List κ} (h : ∀ k, k ∈ seen ↔ k ∈ seen') (l : List α) :
    keepFirst key seen l = keepFirst key seen' l := by
  induction l generalizing seen seen' with
  | nil => rfl
  | cons a rest ih =>
      have hcons : ∀ k, k ∈ key a :: seen ↔ k ∈ key a :: seen' := by
        intro k
        rw [List.mem_cons, List.mem_cons, h k]
      simp only [keepFirst, h (key a), ih h, ih hcons]

theorem keepFirst_append (seen : List κ) (l m : List α) :
    keepFirst key seen (l ++ m) = keepFirst key seen l ++ keepFirst key (l.map key ++ seen) m := by
  induction l generalizing seen with
  | nil => rfl
  | cons a rest ih =>
      rw [List.cons_append, keepFirst, keepFirst]
      split
      · rename_i hmem
        rw [ih]
        refine congrArg _ (keepFirst_congr ?_ m)
        intro k
        simp only [List.map_cons, List.cons_append, List.mem_cons, List.mem_append]
        constructor
        · exact fun hk => .inr hk
        · rintro (rfl | hk)
          · exact .inr hmem
          · exact hk
      · rw [ih, List.cons_append]
        refine congrArg _ (congrArg _ (keepFirst_congr ?_ m))
        intro k
        simp only [List.map_cons, List.cons_append, List.mem_cons, List.mem_append]
        exact or_left_comm

/-- Elements whose keys have all been seen can be left out. -/
theorem keepFirst_append_of_seen {seen : List κ} {l : List α} (h : ∀ a ∈ l, key a ∈ seen) (m : List α) :
    keepFirst key seen (l ++ m) = keepFirst key seen m := by
  induction l with
  | nil => rfl
  | cons a rest ih =>
      rw [List.cons_append, keepFirst, if_pos (h a List.mem_cons_self)]
      exact ih fun b hb => h b (List.mem_cons_of_mem a hb)

theorem mem_of_mem_keepFirst {seen : List κ} {l : List α} {a : α} (h : a ∈ keepFirst key seen l) :
    a ∈ l := by
  induction l generalizing seen with
  | nil => exact h
  | cons b rest ih =>
      rw [keepFirst] at h
      split at h
      · exact List.mem_cons_of_mem b (ih h)
      · rcases List.mem_cons.mp h with rfl | hrest
        · exact List.mem_cons_self
        · exact List.mem_cons_of_mem b (ih hrest)

/-- The keys that are left are those that occur and have not been seen. -/
theorem mem_map_keepFirst {seen : List κ} {l : List α} {k : κ} :
    k ∈ (keepFirst key seen l).map key ↔ k ∈ l.map key ∧ k ∉ seen := by
  induction l generalizing seen with
  | nil => simp [keepFirst]
  | cons a rest ih =>
      rw [keepFirst]
      split
      · rename_i hmem
        rw [ih, List.map_cons, List.mem_cons]
        constructor
        · exact fun ⟨hk, hseen⟩ => ⟨.inr hk, hseen⟩
        · rintro ⟨rfl | hk, hseen⟩
          · exact absurd hmem hseen
          · exact ⟨hk, hseen⟩
      · rename_i hmem
        simp only [List.map_cons, List.mem_cons, ih, not_or]
        constructor
        · rintro (rfl | ⟨hk, -, hseen⟩)
          · exact ⟨.inl rfl, hmem⟩
          · exact ⟨.inr hk, hseen⟩
        · rintro ⟨rfl | hk, hseen⟩
          · exact .inl rfl
          · by_cases heq : k = key a
            · exact .inl heq
            · exact .inr ⟨hk, heq, hseen⟩

/-- Dropping what fewer seen keys already hide changes nothing. -/
theorem keepFirst_keepFirst {seen seen' : List κ} (h : ∀ k ∈ seen, k ∈ seen') (l : List α) :
    keepFirst key seen' (keepFirst key seen l) = keepFirst key seen' l := by
  induction l generalizing seen seen' with
  | nil => rfl
  | cons a rest ih =>
      by_cases hmem : key a ∈ seen
      · rw [keepFirst, if_pos hmem, ih h, keepFirst, if_pos (h _ hmem)]
      · rw [keepFirst, if_neg hmem]
        by_cases hmem' : key a ∈ seen'
        · rw [keepFirst, if_pos hmem', keepFirst, if_pos hmem']
          apply ih
          intro k hk
          rcases List.mem_cons.mp hk with rfl | hk
          · exact hmem'
          · exact h k hk
        · rw [keepFirst, if_neg hmem', keepFirst, if_neg hmem']
          refine congrArg _ (ih ?_)
          intro k hk
          rcases List.mem_cons.mp hk with rfl | hk
          · exact List.mem_cons_self
          · exact List.mem_cons_of_mem _ (h k hk)

/-- A map that respects the keys may be applied before or after dropping repetitions, if they are
dropped in the end. -/
theorem keepFirst_map_keepFirst {f : α → α} {g : κ → κ} (hkey : ∀ a, key (f a) = g (key a))
    {seen seen' : List κ} (h : ∀ k ∈ seen, g k ∈ seen') (l : List α) :
    keepFirst key seen' ((keepFirst key seen l).map f) = keepFirst key seen' (l.map f) := by
  induction l generalizing seen seen' with
  | nil => rfl
  | cons a rest ih =>
      rw [List.map_cons]
      by_cases hmem : key a ∈ seen
      · rw [keepFirst, if_pos hmem, ih h, keepFirst, if_pos (by rw [hkey]; exact h _ hmem)]
      · rw [keepFirst, if_neg hmem, List.map_cons]
        -- A new key may have become one that has been seen.
        by_cases hmem' : key (f a) ∈ seen'
        · rw [keepFirst, if_pos hmem', keepFirst, if_pos hmem']
          apply ih
          intro k hk
          rcases List.mem_cons.mp hk with rfl | hk
          · exact hkey a ▸ hmem'
          · exact h k hk
        · rw [keepFirst, if_neg hmem', keepFirst, if_neg hmem']
          refine congrArg _ (ih ?_)
          intro k hk
          rcases List.mem_cons.mp hk with rfl | hk
          · exact hkey a ▸ List.mem_cons_self
          · exact List.mem_cons_of_mem _ (h k hk)

/-- A map that keeps the keys commutes with dropping repetitions. -/
theorem map_keepFirst {key' : β → κ} {f : α → β} (hkey : ∀ a, key' (f a) = key a) (seen : List κ)
    (l : List α) : (keepFirst key seen l).map f = keepFirst key' seen (l.map f) := by
  induction l generalizing seen with
  | nil => rfl
  | cons a rest ih =>
      rw [List.map_cons, keepFirst, keepFirst, hkey]
      split
      · exact ih seen
      · rw [List.map_cons, ih]

/-- A map that keeps different keys apart commutes with dropping repetitions. -/
theorem keepFirst_map_of_injOn {f : α → α} {g : κ → κ} (hkey : ∀ a, key (f a) = g (key a))
    {S : κ → Prop} (hinj : ∀ x y, S x → S y → g x = g y → x = y) {seen : List κ} {l : List α}
    (hseen : ∀ x ∈ seen, S x) (hl : ∀ a ∈ l, S (key a)) :
    keepFirst key (seen.map g) (l.map f) = (keepFirst key seen l).map f := by
  induction l generalizing seen with
  | nil => rfl
  | cons a rest ih =>
      have ha := hl a List.mem_cons_self
      have hrest : ∀ b ∈ rest, S (key b) := fun b hb => hl b (List.mem_cons_of_mem a hb)
      have hmem : key (f a) ∈ seen.map g ↔ key a ∈ seen := by
        rw [hkey, List.mem_map]
        constructor
        · rintro ⟨x, hx, heq⟩
          rwa [← hinj x (key a) (hseen x hx) ha heq]
        · exact fun h => ⟨key a, h, rfl⟩
      rw [List.map_cons, keepFirst, keepFirst]
      by_cases hin : key a ∈ seen
      · rw [if_pos (hmem.mpr hin), if_pos hin, ih hseen hrest]
      · rw [if_neg (mt hmem.mp hin), if_neg hin, List.map_cons, hkey, ← List.map_cons]
        refine congrArg _ (ih ?_ hrest)
        intro x hx
        rcases List.mem_cons.mp hx with rfl | hx
        · exact ha
        · exact hseen x hx

/-! ### Sequences in levels -/

/-- A sequence in levels. -/
abbrev Levels (α : Type) := Nat → List α

namespace Levels

/-- The keys above level `k`. -/
def keysAbove (key : α → κ) (L : Levels α) (k : Nat) : List κ :=
  (List.range k).flatMap fun j => (L j).map key

/-- What is left of each level if the first element of each key is kept. -/
def visible (key : α → κ) (L : Levels α) : Levels α :=
  fun k => keepFirst key (keysAbove key L k) (L k)

/-- The same is left of both. -/
def Agree (key : α → κ) (L M : Levels α) : Prop := visible key L = visible key M

omit [DecidableEq κ] in
theorem mem_keysAbove {L : Levels α} {k : Nat} {x : κ} :
    x ∈ keysAbove key L k ↔ ∃ j < k, x ∈ (L j).map key := by
  simp only [keysAbove, List.mem_flatMap, List.mem_range]

omit [DecidableEq κ] in
theorem keysAbove_mono {L : Levels α} {j k : Nat} (h : j ≤ k) {x : κ}
    (hx : x ∈ keysAbove key L j) : x ∈ keysAbove key L k := by
  obtain ⟨i, hi, hmem⟩ := mem_keysAbove.mp hx
  exact mem_keysAbove.mpr ⟨i, Nat.lt_of_lt_of_le hi h, hmem⟩

theorem mem_of_mem_visible {L : Levels α} {k : Nat} {a : α} (h : a ∈ visible key L k) : a ∈ L k :=
  mem_of_mem_keepFirst h

/-- Dropping repetitions loses no key. -/
theorem mem_keysAbove_visible {L : Levels α} {k : Nat} {x : κ} :
    x ∈ keysAbove key (visible key L) k ↔ x ∈ keysAbove key L k := by
  induction k with
  | zero => simp [keysAbove]
  | succ k ih =>
      rw [mem_keysAbove, mem_keysAbove]
      simp only [Nat.lt_succ_iff_lt_or_eq, or_and_right, exists_or, exists_eq_left]
      rw [← mem_keysAbove, ← mem_keysAbove, ih, visible, mem_map_keepFirst]
      tauto

/-- The criterion for agreement: the same keys above each level, and the same left of each level. -/
theorem agree_of_keepFirst {L M : Levels α}
    (hkeys : ∀ k x, x ∈ keysAbove key L k ↔ x ∈ keysAbove key M k)
    (hlevel : ∀ k, keepFirst key (keysAbove key L k) (L k) =
      keepFirst key (keysAbove key L k) (M k)) : Agree key L M := by
  funext k
  rw [visible, hlevel, keepFirst_congr (hkeys k)]
  rfl

theorem Agree.refl (L : Levels α) : Agree key L L := rfl

theorem Agree.symm {L M : Levels α} (h : Agree key L M) : Agree key M L := Eq.symm h

theorem Agree.trans {L M N : Levels α} (h : Agree key L M) (h' : Agree key M N) : Agree key L N :=
  Eq.trans h h'

/-- Agreeing sequences have the same keys above each level. -/
theorem Agree.mem_keysAbove_iff {L M : Levels α} (h : Agree key L M) (k : Nat) (x : κ) :
    x ∈ keysAbove key L k ↔ x ∈ keysAbove key M k := by
  rw [← mem_keysAbove_visible (L := L), ← mem_keysAbove_visible (L := M), h]

/-! ### Building blocks -/

/-- A new first level. -/
def cons (first : List α) (L : Levels α) : Levels α
  | 0 => first
  | k + 1 => L k

/-- Level by level, one sequence after the other. -/
def merge (Ls : List (Levels α)) : Levels α := fun k => Ls.flatMap fun L => L k

/-- `f` applied to every element. -/
def map (f : α → β) (L : Levels α) : Levels β := fun k => (L k).map f

theorem merge_singleton (L : Levels α) : merge [L] = L := by
  funext k
  simp [merge]

omit [DecidableEq κ] in
theorem mem_keysAbove_cons {first : List α} {L : Levels α} {k : Nat} {x : κ} :
    x ∈ keysAbove key (cons first L) (k + 1) ↔ x ∈ first.map key ∨ x ∈ keysAbove key L k := by
  rw [mem_keysAbove, mem_keysAbove]
  constructor
  · rintro ⟨_ | j, hj, hx⟩
    · exact .inl hx
    · exact .inr ⟨j, Nat.lt_of_succ_lt_succ hj, hx⟩
  · rintro (hx | ⟨j, hj, hx⟩)
    · exact ⟨0, Nat.zero_lt_succ k, hx⟩
    · exact ⟨j + 1, Nat.succ_lt_succ hj, hx⟩

omit [DecidableEq κ] in
theorem mem_keysAbove_merge {Ls : List (Levels α)} {k : Nat} {x : κ} :
    x ∈ keysAbove key (merge Ls) k ↔ ∃ L ∈ Ls, x ∈ keysAbove key L k := by
  simp only [mem_keysAbove, merge, List.map_flatMap, List.mem_flatMap]
  constructor
  · rintro ⟨j, hj, L, hL, hx⟩
    exact ⟨L, hL, j, hj, hx⟩
  · rintro ⟨L, hL, j, hj, hx⟩
    exact ⟨j, hj, L, hL, hx⟩

omit [DecidableEq κ] in
theorem mem_keysAbove_map {f : α → α} {g : κ → κ} (hkey : ∀ a, key (f a) = g (key a))
    {L : Levels α} {k : Nat} {x : κ} :
    x ∈ keysAbove key (map f L) k ↔ ∃ y ∈ keysAbove key L k, g y = x := by
  simp only [mem_keysAbove, map, List.map_map, List.mem_map, Function.comp_apply, hkey]
  constructor
  · rintro ⟨j, hj, a, ha, rfl⟩
    exact ⟨key a, ⟨j, hj, a, ha, rfl⟩, rfl⟩
  · rintro ⟨_, ⟨j, hj, a, ha, rfl⟩, rfl⟩
    exact ⟨j, hj, a, ha, rfl⟩

theorem agree_cons_visible (first : List α) (L : Levels α) :
    Agree key (cons first L) (cons first (visible key L)) := by
  apply agree_of_keepFirst
  · intro k x
    cases k with
    | zero => simp [keysAbove]
    | succ k => rw [mem_keysAbove_cons, mem_keysAbove_cons, mem_keysAbove_visible]
  · intro k
    cases k with
    | zero => rfl
    | succ k =>
        exact (keepFirst_keepFirst (fun x hx => mem_keysAbove_cons.mpr (.inr hx)) (L k)).symm

/-- What is hidden in one of several lists stays hidden when they are put together. -/
theorem keepFirst_flatMap_visible {seen : List κ} {k : Nat} (Ls : List (Levels α))
    (h : ∀ L ∈ Ls, ∀ x ∈ keysAbove key L k, x ∈ seen) :
    keepFirst key seen (Ls.flatMap fun L => L k) =
      keepFirst key seen (Ls.flatMap fun L => visible key L k) := by
  induction Ls generalizing seen with
  | nil => rfl
  | cons L Ls ih =>
      have hL := h L List.mem_cons_self
      -- The rest sees the keys of `L k` in either case, for hiding an element hides no key.
      rw [List.flatMap_cons, List.flatMap_cons, keepFirst_append, keepFirst_append]
      have hhead : keepFirst key seen (visible key L k) = keepFirst key seen (L k) :=
        keepFirst_keepFirst hL (L k)
      have hseen : ∀ x, x ∈ (visible key L k).map key ++ seen ↔ x ∈ (L k).map key ++ seen := by
        intro x
        rw [List.mem_append, List.mem_append, visible, mem_map_keepFirst]
        have := hL x
        tauto
      rw [hhead, keepFirst_congr hseen]
      refine congrArg _ (ih ?_)
      intro L' hL' x hx
      exact List.mem_append_right _ (h L' (List.mem_cons_of_mem L hL') x hx)

theorem agree_merge_visible (Ls : List (Levels α)) :
    Agree key (merge Ls) (merge (Ls.map (visible key))) := by
  apply agree_of_keepFirst
  · intro k x
    simp only [mem_keysAbove_merge, List.mem_map, exists_exists_and_eq_and, mem_keysAbove_visible]
  · intro k
    unfold merge
    rw [List.flatMap_map]
    exact keepFirst_flatMap_visible Ls fun L hL x hx => mem_keysAbove_merge.mpr ⟨L, hL, hx⟩

theorem agree_map_visible {f : α → α} {g : κ → κ} (hkey : ∀ a, key (f a) = g (key a))
    (L : Levels α) : Agree key (map f L) (map f (visible key L)) := by
  apply agree_of_keepFirst
  · intro k x
    simp only [mem_keysAbove_map hkey, mem_keysAbove_visible]
  · intro k
    exact (keepFirst_map_keepFirst hkey
      (fun x hx => (mem_keysAbove_map hkey).mpr ⟨x, hx, rfl⟩) (L k)).symm

/-! ### Agreement is a congruence -/

theorem Agree.cons {L M : Levels α} (first : List α) (h : Agree key L M) :
    Agree key (cons first L) (Levels.cons first M) := by
  have hM : Agree key (Levels.cons first M) (Levels.cons first (visible key M)) :=
    agree_cons_visible first M
  rw [← show visible key L = visible key M from h] at hM
  exact (agree_cons_visible first L).trans hM.symm

theorem Agree.map {f : α → α} {g : κ → κ} (hkey : ∀ a, key (f a) = g (key a)) {L M : Levels α}
    (h : Agree key L M) : Agree key (map f L) (Levels.map f M) := by
  have hM := agree_map_visible hkey M
  rw [← show visible key L = visible key M from h] at hM
  exact (agree_map_visible hkey L).trans hM.symm

theorem Agree.merge {Ls Ms : List (Levels α)} (h : List.Forall₂ (Agree key) Ls Ms) :
    Agree key (merge Ls) (Levels.merge Ms) := by
  have hmap : Ls.map (visible key) = Ms.map (visible key) := by
    induction h with
    | nil => rfl
    | cons hL _ ih => rw [List.map_cons, List.map_cons, ih, show visible key _ = visible key _ from hL]
  have hM : Agree key (Levels.merge Ms) (Levels.merge (Ms.map (visible key))) :=
    agree_merge_visible Ms
  rw [← hmap] at hM
  exact (agree_merge_visible Ls).trans hM.symm

/-! ### What is visible after building -/

theorem mem_or_of_mem_visible_cons {first : List α} {L : Levels α} {k : Nat} {a : α}
    (h : a ∈ visible key (cons first L) k) : a ∈ first ∨ ∃ j, a ∈ visible key L j := by
  rw [show visible key (cons first L) = _ from agree_cons_visible first L] at h
  have hmem := mem_of_mem_visible h
  cases k with
  | zero => exact .inl hmem
  | succ k => exact .inr ⟨k, hmem⟩

theorem exists_of_mem_visible_merge {Ls : List (Levels α)} {k : Nat} {a : α}
    (h : a ∈ visible key (merge Ls) k) : ∃ L ∈ Ls, a ∈ visible key L k := by
  rw [show visible key (merge Ls) = _ from agree_merge_visible Ls] at h
  obtain ⟨_, hL, hmem⟩ := List.mem_flatMap.mp (mem_of_mem_visible h)
  obtain ⟨L, hmemL, rfl⟩ := List.mem_map.mp hL
  exact ⟨L, hmemL, hmem⟩

theorem exists_of_mem_visible_map {f : α → α} {g : κ → κ} (hkey : ∀ a, key (f a) = g (key a))
    {L : Levels α} {k : Nat} {b : α} (h : b ∈ visible key (map f L) k) :
    ∃ a ∈ visible key L k, f a = b := by
  rw [show visible key (map f L) = _ from agree_map_visible hkey L] at h
  exact List.mem_map.mp (mem_of_mem_visible h)

/-- Maps that do the same to what is visible may replace each other. -/
theorem agree_map_of_visible {f f' : α → α} {g g' : κ → κ} (hkey : ∀ a, key (f a) = g (key a))
    (hkey' : ∀ a, key (f' a) = g' (key a)) {L : Levels α}
    (h : ∀ k, ∀ a ∈ visible key L k, f a = f' a) : Agree key (map f L) (map f' L) := by
  have hvisible : map f (visible key L) = map f' (visible key L) := by
    funext k
    exact List.map_congr_left (h k)
  have hf' := (agree_map_visible hkey' L).symm
  rw [← hvisible] at hf'
  exact (agree_map_visible hkey L).trans hf'

/-- Under a map that keeps different keys apart everything visible stays visible. -/
theorem mem_visible_map_of_injOn {f : α → α} {g : κ → κ} (hkey : ∀ a, key (f a) = g (key a))
    {S : κ → Prop} (hinj : ∀ x y, S x → S y → g x = g y → x = y) {L : Levels α}
    (hL : ∀ k, ∀ a ∈ L k, S (key a)) {k : Nat} {a : α} (ha : a ∈ visible key L k) :
    f a ∈ visible key (map f L) k := by
  have habove : ∀ x ∈ keysAbove key L k, S x := by
    intro x hx
    obtain ⟨j, -, hx⟩ := mem_keysAbove.mp hx
    obtain ⟨b, hb, rfl⟩ := List.mem_map.mp hx
    exact hL j b hb
  have hseen : ∀ x, x ∈ keysAbove key (map f L) k ↔ x ∈ (keysAbove key L k).map g := by
    intro x
    rw [mem_keysAbove_map hkey, List.mem_map]
  rw [visible, keepFirst_congr hseen, map, keepFirst_map_of_injOn hkey hinj habove (hL k)]
  exact List.mem_map_of_mem ha

/-- An empty first level hides nothing. -/
theorem visible_cons_nil (L : Levels α) (k : Nat) :
    visible key (cons [] L) (k + 1) = visible key L k := by
  refine keepFirst_congr ?_ (L k)
  intro x
  rw [mem_keysAbove_cons]
  simp

theorem map_map (f : α → β) (g : β → α) (L : Levels α) : map g (map f L) = map (g ∘ f) L := by
  funext k
  exact List.map_map

theorem map_id (L : Levels α) : map id L = L := by
  funext k
  exact List.map_id (L k)

/-! ### One list of all levels -/

/-- The first `n` levels, one after the other. -/
def flat (L : Levels α) (n : Nat) : List α := (List.range n).flatMap L

theorem flat_succ (L : Levels α) (n : Nat) : L.flat (n + 1) = L.flat n ++ L n := by
  simp [flat, List.range_succ]

theorem flat_cons (first : List α) (L : Levels α) (n : Nat) :
    (cons first L).flat (n + 1) = first ++ L.flat n := by
  simp [flat, List.range_succ_eq_map, List.flatMap_map, cons]

theorem map_flat (f : α → β) (L : Levels α) (n : Nat) : (L.flat n).map f = (L.map f).flat n := by
  simp only [flat, List.map_flatMap]
  rfl

theorem mem_flat {L : Levels α} {n : Nat} {a : α} : a ∈ L.flat n ↔ ∃ k < n, a ∈ L k := by
  simp only [flat, List.mem_flatMap, List.mem_range]

omit [DecidableEq κ] in
theorem map_key_flat (L : Levels α) (n : Nat) : (L.flat n).map key = keysAbove key L n := by
  rw [flat, List.map_flatMap, keysAbove]

/-- Keeping the first of each key in the whole list keeps what is visible in each level. -/
theorem keepFirst_flat (L : Levels α) (n : Nat) :
    keepFirst key [] (L.flat n) = (visible key L).flat n := by
  induction n with
  | zero => rfl
  | succ n ih => rw [flat_succ, flat_succ, keepFirst_append, ih, map_key_flat, List.append_nil, visible]

end Levels

end StructuralAdapters
