import Mathlib.Data.Set.Finite.Basic
import Mathlib.Data.Fintype.EquivFin
import StructuralAdapters.Proofs.Substitution

/-!
# Fresh names

Two different members can become one when type arguments are put in.  They stay apart if the arguments
are new names.

* `Shape.names`, `SignatureKey.names` — the nominal leaves that occur;
* `Shape.IsFresh`, `Shape.exists_isFresh` — fillings with new names;
* `SignatureKey.mapShapes_injOn` — putting in new names keeps different keys apart.
-/

namespace StructuralAdapters

namespace Shape

/-! ### Names -/

mutual

/-- The names of the nominal leaves of a shape. -/
def names : Shape → List String
  | named name => [name]
  | applied _ args => namesAll args
  | unit | typeParam _ | methodParam _ => []

/-- The names of the nominal leaves of several shapes. -/
def namesAll : List Shape → List String
  | [] => []
  | s :: rest => names s ++ namesAll rest

end

@[simp] theorem namesAll_eq_flatMap (shapes : List Shape) :
    namesAll shapes = shapes.flatMap names := by
  induction shapes with
  | nil => rfl
  | cons s rest ih => rw [namesAll, ih, List.flatMap_cons]

/-- A filling that leaves a placeholder alone or replaces it by a name outside `used`, different
placeholders by different names. -/
structure IsFresh (used : List String) (f : UInt16 → Shape) : Prop where
  injective : Function.Injective f
  fresh : ∀ i, f i = typeParam i ∨ ∃ name, f i = named name ∧ name ∉ used

variable {used : List String} {f : UInt16 → Shape}

/-- What a fresh filling puts in is no shape with used names only, unless it is a placeholder. -/
theorem IsFresh.eq_typeParam (h : IsFresh used f) {i : UInt16} {t : Shape} (ht : t.names ⊆ used)
    (heq : f i = t.bind f methodParam) : t = typeParam i := by
  cases t with
  | typeParam j => rw [h.injective heq]
  | named name =>
      rcases h.fresh i with hkeep | ⟨name', hfill, hnew⟩
      · cases hkeep.symm.trans heq
      · obtain rfl : name' = name := named.inj (hfill.symm.trans heq)
        exact absurd (ht List.mem_cons_self) hnew
  | unit | applied head args | methodParam j =>
      rcases h.fresh i with hkeep | ⟨_, hfill, -⟩
      · rw [hkeep, bind] at heq
        cases heq
      · rw [hfill, bind] at heq
        cases heq

/-- Lists with equal images are equal if the map keeps their elements apart. -/
private theorem eq_of_map_eq {α β : Type} {f : α → β} {l m : List α}
    (h : ∀ a ∈ l, ∀ b ∈ m, f a = f b → a = b) (heq : l.map f = m.map f) : l = m := by
  induction l generalizing m with
  | nil => exact (List.map_eq_nil_iff.mp heq.symm).symm
  | cons a l ih =>
      cases m with
      | nil => cases heq
      | cons b m =>
          obtain ⟨hhead, htail⟩ := List.cons.inj heq
          rw [h a List.mem_cons_self b List.mem_cons_self hhead,
            ih (fun x hx y hy => h x (List.mem_cons_of_mem a hx) y (List.mem_cons_of_mem b hy)) htail]

/-- **A fresh filling keeps different shapes apart.** -/
theorem IsFresh.bind_injOn (h : IsFresh used f) {s t : Shape} (hs : s.names ⊆ used)
    (ht : t.names ⊆ used) (heq : s.bind f methodParam = t.bind f methodParam) : s = t := by
  -- Where one side is a placeholder, so is the other: new names occur on neither side.
  induction s using inductionOn generalizing t with
  | typeParam i => exact (h.eq_typeParam ht heq).symm
  | unit =>
      cases t with
      | typeParam j => exact h.eq_typeParam hs heq.symm
      | _ => simp_all [bind]
  | named name =>
      cases t with
      | typeParam j => exact h.eq_typeParam hs heq.symm
      | _ => simp_all [bind]
  | methodParam i =>
      cases t with
      | typeParam j => exact h.eq_typeParam hs heq.symm
      | _ => simp_all [bind]
  | applied head args ih =>
      cases t with
      | typeParam j => exact h.eq_typeParam hs heq.symm
      | applied head' args' =>
          simp only [bind, bindAll_eq_map, applied.injEq] at heq
          simp only [names, namesAll_eq_flatMap] at hs ht
          rw [heq.1, eq_of_map_eq (fun a ha b hb => ih a ha ?_ ?_) heq.2]
          · intro x hx
            exact hs (List.mem_flatMap.mpr ⟨a, ha, hx⟩)
          · intro x hx
            exact ht (List.mem_flatMap.mpr ⟨b, hb, hx⟩)
      | _ => simp_all [bind]

/-- There is always a nominal leaf that is not among given shapes. -/
theorem exists_named_notMem (shapes : List Shape) : ∃ name, named name ∉ shapes := by
  have hinfinite : {name : String | name ∈ shapes.flatMap names}ᶜ.Infinite :=
    (shapes.flatMap names).finite_toSet.infinite_compl
  obtain ⟨name, hname⟩ := hinfinite.nonempty
  refine ⟨name, fun hmem => hname ?_⟩
  exact List.mem_flatMap.mpr ⟨named name, hmem, List.mem_cons_self⟩

/-- There are always new names for the first `n` placeholders. -/
theorem exists_isFresh (used : List String) (n : Nat) :
    ∃ f, IsFresh used f ∧ (∀ i : UInt16, i.toNat < n → ∃ name, f i = named name) ∧
      ∀ i : UInt16, n ≤ i.toNat → f i = typeParam i := by
  have hinfinite : {name : String | name ∈ used}ᶜ.Infinite := used.finite_toSet.infinite_compl
  let fresh := hinfinite.natEmbedding
  refine ⟨fun i => if i.toNat < n then named (fresh i.toNat) else typeParam i, ⟨?_, ?_⟩, ?_, ?_⟩
  · intro i j heq
    simp only at heq
    split at heq <;> split at heq
    · have hname : fresh i.toNat = fresh j.toNat := Subtype.ext (named.inj heq)
      exact UInt16.toNat_inj.mp (fresh.injective hname)
    · cases heq
    · cases heq
    · exact typeParam.inj heq
  · intro i
    by_cases hi : i.toNat < n
    · exact .inr ⟨fresh i.toNat, if_pos hi, (fresh i.toNat).2⟩
    · exact .inl (if_neg hi)
  · intro i hi
    exact ⟨fresh i.toNat, if_pos hi⟩
  · intro i hi
    exact if_neg (Nat.not_lt.mpr hi)

end Shape

/-! ### Keys -/

/-- The names of the nominal leaves in a key. -/
def SignatureKey.names (k : SignatureKey) : List String := k.params.flatMap fun p => p.2.names

/-- **Putting in new names keeps different keys apart.** -/
theorem SignatureKey.mapShapes_injOn {used : List String} {f : UInt16 → Shape}
    (h : Shape.IsFresh used f) {g : Shape → Shape} (hg : ∀ s, g s = s.bind f .methodParam)
    {k k' : SignatureKey} (hk : k.names ⊆ used) (hk' : k'.names ⊆ used)
    (heq : k.mapShapes g = k'.mapShapes g) : k = k' := by
  obtain ⟨name, arity, params⟩ := k
  obtain ⟨name', arity', params'⟩ := k'
  simp only [mapShapes, SignatureKey.mk.injEq] at heq
  obtain ⟨rfl, rfl, hparams⟩ := heq
  refine congrArg _ (Shape.eq_of_map_eq ?_ hparams)
  intro p hp q hq hpq
  obtain ⟨hflag, hshape⟩ := Prod.mk.inj hpq
  rw [hg, hg] at hshape
  refine Prod.ext hflag (h.bind_injOn ?_ ?_ hshape)
  · intro x hx
    exact hk (List.mem_flatMap.mpr ⟨p, hp, hx⟩)
  · intro x hx
    exact hk' (List.mem_flatMap.mpr ⟨q, hq, hx⟩)

end StructuralAdapters
