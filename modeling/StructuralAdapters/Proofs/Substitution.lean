import StructuralAdapters.Signature

/-!
# Placeholders and substitution

Instantiating a contract replaces the contract-level placeholders of its members.  This module says
which placeholders occur and what replacing them does.

* `Shape.Occurs`, `Signature.Mentions` — a shape stands somewhere inside a shape or a signature;
* `Shape.placeholders`, `Signature.placeholders` — the contract-level placeholders that occur;
* `Shape.bind_eq_bind_iff` — two replacements make the same of a shape exactly if they agree on the
  placeholders that occur;
* `Signature.substituteTypeParams_twice_iff` — when two replacements by position are one;
* `Signature.substituteTypeParams_substituteTypeParams` — they are, provided that the first one finds
  an argument for every placeholder;
* `Signature.key_substituteTypeParams` — members with one structural identity keep one.

The composition law needs a proviso.  A position without an argument stays a placeholder, so a second
replacement still finds it, whereas the composed list has nothing to offer there.
-/

namespace StructuralAdapters

namespace Shape

/-- Induction on shapes: the claim for a constructed shape may use it for each argument. -/
@[elab_as_elim]
theorem inductionOn {motive : Shape → Prop} (s : Shape) (unit : motive unit)
    (named : ∀ name, motive (named name))
    (applied : ∀ head args, (∀ t ∈ args, motive t) → motive (applied head args))
    (typeParam : ∀ i, motive (typeParam i)) (methodParam : ∀ i, motive (methodParam i)) :
    motive s :=
  match s with
  | .unit => unit
  | .named name => named name
  | .applied head args =>
      applied head args fun t _ => inductionOn t unit named applied typeParam methodParam
  | .typeParam i => typeParam i
  | .methodParam i => methodParam i

/-! ### Occurrence -/

/-- The shape `t` is the given one or stands somewhere inside it. -/
inductive Occurs (t : Shape) : Shape → Prop
  | self : Occurs t t
  | inside {head : String} {args : List Shape} {s : Shape} (mem : s ∈ args) (occurs : Occurs t s) :
      Occurs t (applied head args)

theorem occurs_iff {s t : Shape} :
    t.Occurs s ↔ t = s ∨ ∃ head args, s = applied head args ∧ ∃ u ∈ args, t.Occurs u := by
  constructor
  · rintro (_ | ⟨mem, occurs⟩)
    · exact .inl rfl
    · exact .inr ⟨_, _, rfl, _, mem, occurs⟩
  · rintro (rfl | ⟨head, args, rfl, u, mem, occurs⟩)
    · exact .self
    · exact .inside mem occurs

section

variable {t : Shape} {i : UInt16}

@[simp] theorem occurs_unit_iff : t.Occurs unit ↔ t = unit := by
  rw [occurs_iff]
  simp

@[simp] theorem occurs_named_iff {name : String} : t.Occurs (named name) ↔ t = named name := by
  rw [occurs_iff]
  simp

@[simp] theorem occurs_applied_iff {head : String} {args : List Shape} :
    t.Occurs (applied head args) ↔ t = applied head args ∨ ∃ u ∈ args, t.Occurs u := by
  rw [occurs_iff]
  simp [and_assoc]

@[simp] theorem occurs_typeParam_iff : t.Occurs (typeParam i) ↔ t = typeParam i := by
  rw [occurs_iff]
  simp

@[simp] theorem occurs_methodParam_iff : t.Occurs (methodParam i) ↔ t = methodParam i := by
  rw [occurs_iff]
  simp

end

/-! ### Occurring placeholders -/

mutual

/-- The contract-level placeholders of a shape, from left to right. -/
def placeholders : Shape → List UInt16
  | typeParam i => [i]
  | applied _ args => placeholdersAll args
  | unit | named _ | methodParam _ => []

/-- The contract-level placeholders of several shapes. -/
def placeholdersAll : List Shape → List UInt16
  | [] => []
  | s :: rest => placeholders s ++ placeholdersAll rest

end

@[simp] theorem placeholdersAll_eq_flatMap (shapes : List Shape) :
    placeholdersAll shapes = shapes.flatMap placeholders := by
  induction shapes with
  | nil => rfl
  | cons s rest ih => rw [placeholdersAll, ih, List.flatMap_cons]

/-- The list holds exactly the placeholders that occur. -/
theorem mem_placeholders_iff {s : Shape} {i : UInt16} :
    i ∈ s.placeholders ↔ (typeParam i).Occurs s := by
  induction s using inductionOn with
  | unit => simp [placeholders]
  | named name => simp [placeholders]
  | applied head args ih =>
      simp only [placeholders, placeholdersAll_eq_flatMap, List.mem_flatMap, occurs_applied_iff,
        reduceCtorEq, false_or]
      exact exists_congr fun t => and_congr_right fun ht => ih t ht
  | typeParam j => simp [placeholders]
  | methodParam j => simp [placeholders]

/-- The Boolean test finds exactly the shapes with a placeholder. -/
theorem hasTypeParams_iff (s : Shape) : s.hasTypeParams = true ↔ ∃ i, i ∈ s.placeholders := by
  induction s using inductionOn with
  | unit => simp [hasTypeParams, placeholders]
  | named name => simp [hasTypeParams, placeholders]
  | applied head args ih =>
      simp only [hasTypeParams, anyHasTypeParams_eq_any, List.any_eq_true, placeholders,
        placeholdersAll_eq_flatMap, List.mem_flatMap]
      constructor
      · rintro ⟨t, ht, has⟩
        obtain ⟨i, hi⟩ := (ih t ht).mp has
        exact ⟨i, t, ht, hi⟩
      · rintro ⟨i, t, ht, hi⟩
        exact ⟨t, ht, (ih t ht).mpr ⟨i, hi⟩⟩
  | typeParam i => simp [hasTypeParams, placeholders]
  | methodParam i => simp [hasTypeParams, placeholders]

/-! ### Simultaneous replacement -/

/-- **Replacement looks at the placeholders that occur and at nothing else.** -/
theorem bind_eq_bind_iff {f g f' g' : UInt16 → Shape} (s : Shape) :
    s.bind f g = s.bind f' g' ↔
      (∀ i, (typeParam i).Occurs s → f i = f' i) ∧ ∀ i, (methodParam i).Occurs s → g i = g' i := by
  induction s using inductionOn with
  | unit => simp [bind]
  | named name => simp [bind]
  | applied head args ih =>
      simp only [bind, bindAll_eq_map, applied.injEq, true_and, List.map_inj_left, occurs_applied_iff,
        reduceCtorEq, false_or]
      constructor
      · intro heq
        constructor
        · rintro i ⟨t, ht, hi⟩
          exact ((ih t ht).mp (heq t ht)).1 i hi
        · rintro i ⟨t, ht, hi⟩
          exact ((ih t ht).mp (heq t ht)).2 i hi
      · rintro ⟨htype, hmember⟩ t ht
        exact (ih t ht).mpr ⟨fun i hi => htype i ⟨t, ht, hi⟩, fun i hi => hmember i ⟨t, ht, hi⟩⟩
  | typeParam j => simp [bind]
  | methodParam j => simp [bind]

theorem bind_congr {f g : UInt16 → Shape} (s : Shape) (h : ∀ i ∈ s.placeholders, f i = g i) :
    s.bind f methodParam = s.bind g methodParam :=
  (bind_eq_bind_iff s).mpr ⟨fun i hi => h i (mem_placeholders_iff.mpr hi), fun _ _ => rfl⟩

/-- Replacing every placeholder by itself changes nothing. -/
theorem bind_typeParam (s : Shape) : s.bind typeParam methodParam = s := by
  induction s using inductionOn with
  | unit => rfl
  | named name => rfl
  | applied head args ih =>
      simp only [bind, bindAll_eq_map, applied.injEq, true_and]
      exact (List.map_congr_left ih).trans (List.map_id' args)
  | typeParam i => rfl
  | methodParam i => rfl

/-- Two replacements in a row are one. -/
theorem bind_bind (f g f' g' : UInt16 → Shape) (s : Shape) :
    (s.bind f g).bind f' g' = s.bind (fun i => (f i).bind f' g') fun i => (g i).bind f' g' := by
  induction s using inductionOn with
  | unit => rfl
  | named name => rfl
  | applied head args ih =>
      simp only [bind, bindAll_eq_map, List.map_map, applied.injEq, true_and]
      exact List.map_congr_left ih
  | typeParam i => rfl
  | methodParam i => rfl

/-- What occurs after a replacement occurs in a replaced placeholder's shape. -/
theorem mem_placeholders_bind (f : UInt16 → Shape) (s : Shape) (i : UInt16) :
    i ∈ (s.bind f methodParam).placeholders ↔ ∃ j ∈ s.placeholders, i ∈ (f j).placeholders := by
  induction s using inductionOn with
  | unit => simp [bind, placeholders]
  | named name => simp [bind, placeholders]
  | applied head args ih =>
      simp only [bind, bindAll_eq_map, placeholders, placeholdersAll_eq_flatMap, List.mem_flatMap,
        List.mem_map]
      constructor
      · rintro ⟨_, ⟨t, ht, rfl⟩, hi⟩
        obtain ⟨j, hj, hij⟩ := (ih t ht).mp hi
        exact ⟨j, ⟨t, ht, hj⟩, hij⟩
      · rintro ⟨j, ⟨t, ht, hj⟩, hij⟩
        exact ⟨_, ⟨t, ht, rfl⟩, (ih t ht).mpr ⟨j, hj, hij⟩⟩
  | typeParam j => simp [bind, placeholders]
  | methodParam j => simp [bind, placeholders]

/-! ### Replacement by position -/

/-- What a list of type arguments puts in the place of a placeholder. -/
def argument (args : List Shape) (i : UInt16) : Shape := pick args i (typeParam i)

theorem substituteTypeParams_eq_bind (args : List Shape) (s : Shape) :
    s.substituteTypeParams args = s.bind (argument args) methodParam := rfl

theorem argument_of_lt {args : List Shape} {i : UInt16} (h : i.toNat < args.length) :
    argument args i = args[i.toNat] := by
  simp [argument, pick, List.getElem?_eq_getElem h]

theorem argument_of_ge {args : List Shape} {i : UInt16} (h : args.length ≤ i.toNat) :
    argument args i = typeParam i := by
  simp [argument, pick, List.getElem?_eq_none h]

/-- An initial part of the arguments serves the positions that it covers. -/
theorem argument_take {args : List Shape} {i : UInt16} {n : Nat} (h : i.toNat < n) :
    argument (args.take n) i = argument args i := by
  simp [argument, pick, h]

theorem argument_map_of_lt {f : Shape → Shape} {args : List Shape} {i : UInt16}
    (h : i.toNat < args.length) : argument (args.map f) i = f (argument args i) := by
  rw [argument_of_lt h, argument_of_lt (by simpa using h), List.getElem_map]

/-- Only the arguments at occurring positions count. -/
theorem substituteTypeParams_congr {a b : List Shape} (s : Shape)
    (h : ∀ i ∈ s.placeholders, argument a i = argument b i) :
    s.substituteTypeParams a = s.substituteTypeParams b :=
  bind_congr s h

/-- A shape stays as it is if each of its placeholders is replaced by itself. -/
theorem substituteTypeParams_eq_self {args : List Shape} (s : Shape)
    (h : ∀ i ∈ s.placeholders, argument args i = typeParam i) :
    s.substituteTypeParams args = s :=
  (bind_congr s h).trans (bind_typeParam s)

/-- A composed argument does what two arguments in a row do, unless the first list ends before it and
the second one does not. -/
theorem argument_map_eq_iff (a b : List Shape) (i : UInt16) :
    (argument a i).substituteTypeParams b = argument (a.map (substituteTypeParams b)) i ↔
      (a.length ≤ i.toNat → argument b i = typeParam i) := by
  rcases Nat.lt_or_ge i.toNat a.length with hlt | hge
  · rw [argument_map_of_lt hlt]
    exact iff_of_true rfl fun hge => absurd hlt (Nat.not_lt.mpr hge)
  · rw [argument_of_ge hge, argument_of_ge (by simpa using hge), forall_prop_of_true hge]
    rfl

/-- Two replacements in a row are one exactly if the second one has nothing for the placeholders that
the first one keeps. -/
theorem substituteTypeParams_twice_iff (a b : List Shape) (s : Shape) :
    (s.substituteTypeParams a).substituteTypeParams b =
        s.substituteTypeParams (a.map (substituteTypeParams b)) ↔
      ∀ i, (typeParam i).Occurs s → a.length ≤ i.toNat → argument b i = typeParam i := by
  simp only [substituteTypeParams_eq_bind, bind_bind]
  rw [bind_eq_bind_iff]
  refine (and_iff_left fun _ _ => rfl).trans ?_
  exact forall₂_congr fun i _ => argument_map_eq_iff a b i

/-- What occurs after a replacement by position. -/
theorem mem_placeholders_substituteTypeParams (args : List Shape) (s : Shape) (i : UInt16) :
    i ∈ (s.substituteTypeParams args).placeholders ↔
      ∃ j ∈ s.placeholders, i ∈ (argument args j).placeholders :=
  mem_placeholders_bind (argument args) s i

end Shape

namespace SignatureKey

/-- Apply `f` to the shape of every parameter. -/
def mapShapes (f : Shape → Shape) (k : SignatureKey) : SignatureKey :=
  { k with params := k.params.map fun (byRef, shape) => (byRef, f shape) }

end SignatureKey

namespace Signature

/-! ### Signatures -/

/-- The shapes of a signature: those of its parameters, then the returned one. -/
def shapes (s : Signature) : List Shape := s.params.map (·.shape) ++ [s.returns]

/-- The shape `t` stands somewhere in a parameter or in what is returned. -/
def Mentions (s : Signature) (t : Shape) : Prop := ∃ u ∈ s.shapes, t.Occurs u

theorem forall_mentions_iff {s : Signature} {f : UInt16 → Shape} {P : UInt16 → Prop} :
    (∀ i, s.Mentions (f i) → P i) ↔ ∀ u ∈ s.shapes, ∀ i, (f i).Occurs u → P i := by
  constructor
  · intro h u hu i hi
    exact h i ⟨u, hu, hi⟩
  · rintro h i ⟨u, hu, hi⟩
    exact h u hu i hi

/-- The contract-level placeholders of a signature. -/
def placeholders (s : Signature) : List UInt16 := s.shapes.flatMap Shape.placeholders

theorem mem_placeholders_iff {s : Signature} {i : UInt16} :
    i ∈ s.placeholders ↔ s.Mentions (.typeParam i) := by
  simp only [placeholders, List.mem_flatMap, Shape.mem_placeholders_iff, Mentions]

/-- The Boolean test finds exactly the signatures with a placeholder. -/
theorem hasTypeParams_iff (s : Signature) :
    s.hasTypeParams = true ↔ ∃ i, i ∈ s.placeholders := by
  simp only [hasTypeParams, Bool.or_eq_true, List.any_eq_true, Shape.hasTypeParams_iff, placeholders,
    shapes, List.mem_flatMap, List.mem_append, List.mem_map, List.mem_singleton]
  constructor
  · rintro (⟨i, hi⟩ | ⟨p, hp, i, hi⟩)
    · exact ⟨i, s.returns, .inr rfl, hi⟩
    · exact ⟨i, p.shape, .inl ⟨p, hp, rfl⟩, hi⟩
  · rintro ⟨i, t, (⟨p, hp, rfl⟩ | rfl), hi⟩
    · exact .inr ⟨p, hp, i, hi⟩
    · exact .inl ⟨i, hi⟩

theorem mapShapes_congr {f g : Shape → Shape} (s : Signature) (h : ∀ t ∈ s.shapes, f t = g t) :
    s.mapShapes f = s.mapShapes g := by
  have hparams : s.params.map (Param.mapShape f) = s.params.map (Param.mapShape g) := by
    apply List.map_congr_left
    intro p hp
    unfold Param.mapShape
    rw [h p.shape (by simpa [shapes] using .inl ⟨p, hp, rfl⟩)]
  unfold mapShapes
  rw [hparams, h s.returns (by simp [shapes])]

theorem mapShapes_id (s : Signature) : s.mapShapes id = s := by
  have hparams : s.params.map (Param.mapShape id) = s.params := List.map_id s.params
  rw [mapShapes, hparams]
  rfl

theorem mapShapes_mapShapes (f g : Shape → Shape) (s : Signature) :
    (s.mapShapes f).mapShapes g = s.mapShapes (g ∘ f) := by
  simp [mapShapes, Param.mapShape]

theorem shapes_mapShapes (f : Shape → Shape) (s : Signature) :
    (s.mapShapes f).shapes = s.shapes.map f := by
  simp [shapes, mapShapes, Param.mapShape]

theorem mapShapes_eq_mapShapes_iff {f g : Shape → Shape} (s : Signature) :
    s.mapShapes f = s.mapShapes g ↔ ∀ t ∈ s.shapes, f t = g t := by
  constructor
  · intro heq
    have hshapes := congrArg shapes heq
    rwa [shapes_mapShapes, shapes_mapShapes, List.map_inj_left] at hshapes
  · exact mapShapes_congr s

/-- The key of a member whose shapes are changed can be computed from its key. -/
theorem key_mapShapes (f : Shape → Shape) (s : Signature) :
    (s.mapShapes f).key = s.key.mapShapes f := by
  simp [key, mapShapes, SignatureKey.mapShapes, Param.mapShape, genericArity]

/-- Members with one structural identity keep one under substitution. -/
theorem key_substituteTypeParams (args : List Shape) (s : Signature) :
    (s.substituteTypeParams args).key = s.key.mapShapes (Shape.substituteTypeParams args) :=
  key_mapShapes _ s

/-- Only the arguments at occurring positions count. -/
theorem substituteTypeParams_congr {a b : List Shape} (s : Signature)
    (h : ∀ i ∈ s.placeholders, Shape.argument a i = Shape.argument b i) :
    s.substituteTypeParams a = s.substituteTypeParams b :=
  mapShapes_congr s fun t ht =>
    Shape.substituteTypeParams_congr t fun i hi => h i (List.mem_flatMap.mpr ⟨t, ht, hi⟩)

/-- A signature stays as it is if each of its placeholders is replaced by itself. -/
theorem substituteTypeParams_eq_self {args : List Shape} (s : Signature)
    (h : ∀ i ∈ s.placeholders, Shape.argument args i = .typeParam i) :
    s.substituteTypeParams args = s :=
  (mapShapes_congr s fun t ht => Shape.substituteTypeParams_eq_self t fun i hi =>
    h i (List.mem_flatMap.mpr ⟨t, ht, hi⟩)).trans (mapShapes_id s)

/-- Two substitutions in a row are one exactly if the second one has nothing for the placeholders that
the first one keeps. -/
theorem substituteTypeParams_twice_iff (a b : List Shape) (s : Signature) :
    (s.substituteTypeParams a).substituteTypeParams b =
        s.substituteTypeParams (a.map (Shape.substituteTypeParams b)) ↔
      ∀ i, s.Mentions (.typeParam i) → a.length ≤ i.toNat → Shape.argument b i = .typeParam i := by
  unfold substituteTypeParams
  rw [mapShapes_mapShapes, mapShapes_eq_mapShapes_iff, forall_mentions_iff]
  exact forall₂_congr fun t _ => Shape.substituteTypeParams_twice_iff a b t

/-- **Composition.**  Two substitutions in a row are one, provided that the first one finds an argument
for every placeholder. -/
theorem substituteTypeParams_substituteTypeParams (a b : List Shape) (s : Signature)
    (h : ∀ i ∈ s.placeholders, i.toNat < a.length) :
    (s.substituteTypeParams a).substituteTypeParams b =
      s.substituteTypeParams (a.map (Shape.substituteTypeParams b)) := by
  refine (substituteTypeParams_twice_iff a b s).mpr ?_
  intro i hi hge
  exact absurd (h i (mem_placeholders_iff.mpr hi)) (Nat.not_lt.mpr hge)

/-- What occurs after a substitution. -/
theorem mem_placeholders_substituteTypeParams (args : List Shape) (s : Signature) (i : UInt16) :
    i ∈ (s.substituteTypeParams args).placeholders ↔
      ∃ j ∈ s.placeholders, i ∈ (Shape.argument args j).placeholders := by
  simp only [placeholders, substituteTypeParams, shapes_mapShapes, List.mem_flatMap, List.mem_map]
  constructor
  · rintro ⟨_, ⟨t, ht, rfl⟩, hi⟩
    obtain ⟨j, hj, hij⟩ := (Shape.mem_placeholders_substituteTypeParams args t i).mp hi
    exact ⟨j, ⟨t, ht, hj⟩, hij⟩
  · rintro ⟨j, ⟨t, ht, hj⟩, hij⟩
    exact ⟨_, ⟨t, ht, rfl⟩, (Shape.mem_placeholders_substituteTypeParams args t i).mpr ⟨j, hj, hij⟩⟩

end Signature

end StructuralAdapters
