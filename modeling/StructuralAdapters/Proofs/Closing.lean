import Mathlib.Logic.Basic
import StructuralAdapters.Proofs.Substitution

/-!
# Instantiating and closing

A signature holds two sorts of placeholder.  Instantiating a contract replaces the contract-level ones, and
closing a generic member for a call replaces the member-level ones.  This module says how the two get along.

* `Signature.hasTypeParams_substituteTypeParams_iff` — when an instantiated signature is still open;
* `Signature.close_substituteTypeParams_iff` — when instantiating and closing commute;
* `Signature.composes_iff`, `Signature.commutes_with_closings_iff`, `Signature.commutes_with_instantiations_iff` —
  the conditions on one list of arguments under which a law holds whatever the other list is;
* `Signature.substitution_laws` — composition, openness, commutation and identity in one place.

## Conditions

A replacement sees what an earlier one has put in, and it also sees the placeholders that the earlier one had no
argument for.  Composition is in danger from the latter alone, for the composed list replaces what was put in as
well.  Commutation is in danger from the former alone: a placeholder without an argument is of a sort that the other
replacement keeps.
-/

namespace StructuralAdapters

namespace Shape

/-! ### Both sorts by position -/

/-- What the type arguments of a call put in the place of a member-level placeholder. -/
def memberArgument (typeArgs : List Shape) (i : UInt16) : Shape := pick typeArgs i (methodParam i)

theorem substituteMethodParams_eq_bind (typeArgs : List Shape) (s : Shape) :
    s.substituteMethodParams typeArgs = s.bind typeParam (memberArgument typeArgs) := rfl

/-- What stands in the place of a placeholder is one of the arguments or the placeholder. -/
theorem pick_induction {motive : Shape → Prop} {args : List Shape} {i : UInt16} {fallback : Shape}
    (hargs : ∀ t ∈ args, motive t) (hfallback : motive fallback) : motive (pick args i fallback) := by
  unfold pick
  cases h : args[i.toNat]? with
  | none => exact hfallback
  | some t => exact hargs t (List.mem_of_getElem? h)

/-- The list that is just long enough to have `t` at a position. -/
theorem pick_replicate (i : UInt16) (t fallback : Shape) :
    pick (List.replicate (i.toNat + 1) t) i fallback = t := by
  simp [pick]

/-- A replacement leaves a shape alone exactly if it leaves alone what occurs in it. -/
theorem bind_eq_self_iff {f g : UInt16 → Shape} (s : Shape) :
    s.bind f g = s ↔
      (∀ i, (typeParam i).Occurs s → f i = typeParam i) ∧
        ∀ i, (methodParam i).Occurs s → g i = methodParam i := by
  rw [← bind_eq_bind_iff, bind_typeParam]

theorem substituteTypeParams_eq_self_iff (args : List Shape) (s : Shape) :
    s.substituteTypeParams args = s ↔ ∀ i, (typeParam i).Occurs s → argument args i = typeParam i := by
  rw [substituteTypeParams_eq_bind, bind_eq_self_iff]
  exact and_iff_left fun _ _ => rfl

theorem substituteMethodParams_eq_self_iff (typeArgs : List Shape) (s : Shape) :
    s.substituteMethodParams typeArgs = s ↔
      ∀ i, (methodParam i).Occurs s → memberArgument typeArgs i = methodParam i := by
  rw [substituteMethodParams_eq_bind, bind_eq_self_iff]
  exact and_iff_right fun _ _ => rfl

theorem substituteTypeParams_eq_self_of_closed {s : Shape} (h : ∀ j, ¬ (typeParam j).Occurs s)
    (args : List Shape) : s.substituteTypeParams args = s :=
  (substituteTypeParams_eq_self_iff args s).mpr fun j hj => absurd hj (h j)

theorem substituteMethodParams_eq_self_of_closed {s : Shape} (h : ∀ j, ¬ (methodParam j).Occurs s)
    (typeArgs : List Shape) : s.substituteMethodParams typeArgs = s :=
  (substituteMethodParams_eq_self_iff typeArgs s).mpr fun j hj => absurd hj (h j)

/-- What stands in the place of a placeholder is open if there is no argument for it or an open one. -/
theorem exists_typeParam_occurs_argument_iff (args : List Shape) (i : UInt16) :
    (∃ j, (typeParam j).Occurs (argument args i)) ↔
      args.length ≤ i.toNat ∨ ∃ t, args[i.toNat]? = some t ∧ ∃ j, (typeParam j).Occurs t := by
  rcases Nat.lt_or_ge i.toNat args.length with hlt | hge
  · simp [argument_of_lt hlt, List.getElem?_eq_getElem hlt, Nat.not_le.mpr hlt]
  · simp [argument_of_ge hge, hge]

/-- The two sorts may be replaced in either order exactly if each replacement leaves alone what the other one
puts in. -/
theorem substitute_comm_iff (a m : List Shape) (s : Shape) :
    (s.substituteTypeParams a).substituteMethodParams m =
        (s.substituteMethodParams m).substituteTypeParams a ↔
      (∀ i, (typeParam i).Occurs s → (argument a i).substituteMethodParams m = argument a i) ∧
        ∀ i, (methodParam i).Occurs s →
          (memberArgument m i).substituteTypeParams a = memberArgument m i := by
  simp only [substituteTypeParams_eq_bind, substituteMethodParams_eq_bind, bind_bind]
  rw [bind_eq_bind_iff]
  exact and_congr_right' (forall₂_congr fun _ _ => eq_comm)

end Shape

namespace Signature

/-! ### Instantiating -/

/-- An instantiation composes with every later one exactly if it has an argument for each placeholder. -/
theorem composes_iff (a : List Shape) (s : Signature) :
    (∀ b, (s.substituteTypeParams a).substituteTypeParams b =
        s.substituteTypeParams (a.map (Shape.substituteTypeParams b))) ↔
      ∀ i, s.Mentions (.typeParam i) → i.toNat < a.length := by
  constructor
  · intro hall i hi
    apply Nat.lt_of_not_ge
    intro hge
    have hkept := (substituteTypeParams_twice_iff a _ s).mp (hall (List.replicate (i.toNat + 1) .unit)) i hi hge
    rw [Shape.argument, Shape.pick_replicate] at hkept
    cases hkept
  · intro hcovered b
    refine (substituteTypeParams_twice_iff a b s).mpr ?_
    intro i hi hge
    exact absurd (hcovered i hi) (Nat.not_lt.mpr hge)

/-- **Openness.**  An instantiated signature has a placeholder exactly if the signature mentions one for which
there is no argument or an open one. -/
theorem hasTypeParams_substituteTypeParams_iff (a : List Shape) (s : Signature) :
    (s.substituteTypeParams a).hasTypeParams = true ↔
      ∃ i, s.Mentions (.typeParam i) ∧
        (a.length ≤ i.toNat ∨ ∃ t, a[i.toNat]? = some t ∧ ∃ j, (Shape.typeParam j).Occurs t) := by
  rw [hasTypeParams_iff]
  constructor
  · rintro ⟨j, hj⟩
    obtain ⟨i, hi, hij⟩ := (mem_placeholders_substituteTypeParams a s j).mp hj
    refine ⟨i, mem_placeholders_iff.mp hi, (Shape.exists_typeParam_occurs_argument_iff a i).mp ⟨j, ?_⟩⟩
    exact Shape.mem_placeholders_iff.mp hij
  · rintro ⟨i, hi, hopen⟩
    obtain ⟨j, hij⟩ := (Shape.exists_typeParam_occurs_argument_iff a i).mpr hopen
    refine ⟨j, (mem_placeholders_substituteTypeParams a s j).mpr ⟨i, mem_placeholders_iff.mpr hi, ?_⟩⟩
    exact Shape.mem_placeholders_iff.mpr hij

/-! ### Instantiating and closing -/

/-- **Commutation.**  A signature may be instantiated and closed in either order exactly if each of the two leaves
alone what the other one puts in. -/
theorem close_substituteTypeParams_iff (a m : List Shape) (s : Signature) :
    (s.substituteTypeParams a).close m = (s.close m).substituteTypeParams a ↔
      (∀ i, s.Mentions (.typeParam i) →
        (Shape.argument a i).substituteMethodParams m = Shape.argument a i) ∧
      ∀ i, s.Mentions (.methodParam i) →
        (Shape.memberArgument m i).substituteTypeParams a = Shape.memberArgument m i := by
  -- Both sides drop the generic parameters, and no shape depends on these.
  let u : Signature := { s with generics := [] }
  have hleft : (s.substituteTypeParams a).close m =
      u.mapShapes (Shape.substituteMethodParams m ∘ Shape.substituteTypeParams a) :=
    mapShapes_mapShapes _ _ u
  have hright : (s.close m).substituteTypeParams a =
      u.mapShapes (Shape.substituteTypeParams a ∘ Shape.substituteMethodParams m) :=
    mapShapes_mapShapes _ _ u
  have hshapes : u.shapes = s.shapes := rfl
  rw [hleft, hright, mapShapes_eq_mapShapes_iff, hshapes, forall_mentions_iff, forall_mentions_iff,
    ← forall₂_and]
  exact forall₂_congr fun t _ => Shape.substitute_comm_iff a m t

/-- An instantiation commutes with every closing by shapes without contract-level placeholders exactly if it puts
in no member-level ones. -/
theorem commutes_with_closings_iff (a : List Shape) (s : Signature) :
    (∀ m : List Shape, (∀ t ∈ m, ∀ i, ¬ (Shape.typeParam i).Occurs t) →
        (s.substituteTypeParams a).close m = (s.close m).substituteTypeParams a) ↔
      ∀ i, s.Mentions (.typeParam i) → ∀ j, ¬ (Shape.methodParam j).Occurs (Shape.argument a i) := by
  constructor
  · intro hall i hi j hj
    have hcommute := hall (List.replicate (j.toNat + 1) .unit) (by simp)
    have hkept := ((close_substituteTypeParams_iff _ _ s).mp hcommute).1 i hi
    have hfilled := (Shape.substituteMethodParams_eq_self_iff _ _).mp hkept j hj
    rw [Shape.memberArgument, Shape.pick_replicate] at hfilled
    cases hfilled
  · intro hfree m hm
    refine (close_substituteTypeParams_iff a m s).mpr ⟨?_, ?_⟩
    · intro i hi
      exact Shape.substituteMethodParams_eq_self_of_closed (hfree i hi) m
    · intro i _
      have hclosed : ∀ j, ¬ (Shape.typeParam j).Occurs (Shape.memberArgument m i) :=
        Shape.pick_induction hm (by simp)
      exact Shape.substituteTypeParams_eq_self_of_closed hclosed a

/-- A closing commutes with every instantiation by shapes without member-level placeholders exactly if it puts in
no contract-level ones. -/
theorem commutes_with_instantiations_iff (m : List Shape) (s : Signature) :
    (∀ a : List Shape, (∀ t ∈ a, ∀ i, ¬ (Shape.methodParam i).Occurs t) →
        (s.substituteTypeParams a).close m = (s.close m).substituteTypeParams a) ↔
      ∀ i, s.Mentions (.methodParam i) → ∀ j, ¬ (Shape.typeParam j).Occurs (Shape.memberArgument m i) := by
  constructor
  · intro hall i hi j hj
    have hcommute := hall (List.replicate (j.toNat + 1) .unit) (by simp)
    have hkept := ((close_substituteTypeParams_iff _ _ s).mp hcommute).2 i hi
    have hfilled := (Shape.substituteTypeParams_eq_self_iff _ _).mp hkept j hj
    rw [Shape.argument, Shape.pick_replicate] at hfilled
    cases hfilled
  · intro hfree a ha
    refine (close_substituteTypeParams_iff a m s).mpr ⟨?_, ?_⟩
    · intro i _
      have hclosed : ∀ j, ¬ (Shape.methodParam j).Occurs (Shape.argument a i) :=
        Shape.pick_induction ha (by simp)
      exact Shape.substituteMethodParams_eq_self_of_closed hclosed m
    · intro i hi
      exact Shape.substituteTypeParams_eq_self_of_closed (hfree i hi) a

/-! ### The laws together -/

/-- **The laws of substitution.**

* If there is an argument for each placeholder, instantiating twice is instantiating once, by composed arguments.
* What is instantiated still has a placeholder if and only if a mentioned one has no argument or an argument that
  mentions a placeholder itself.
* If no argument of the contract mentions a member-level placeholder and no argument of the call a contract-level
  one, instantiating and closing may be done in either order.
* Signatures with one structural identity keep one. -/
theorem substitution_laws (s : Signature) (a b m : List Shape) :
    ((∀ i, s.Mentions (.typeParam i) → i.toNat < a.length) →
      (s.substituteTypeParams a).substituteTypeParams b =
        s.substituteTypeParams (a.map (Shape.substituteTypeParams b))) ∧
    ((s.substituteTypeParams a).hasTypeParams = true ↔
      ∃ i, s.Mentions (.typeParam i) ∧
        (a.length ≤ i.toNat ∨ ∃ t, a[i.toNat]? = some t ∧ ∃ j, (Shape.typeParam j).Occurs t)) ∧
    ((∀ t ∈ a, ∀ i, ¬ (Shape.methodParam i).Occurs t) → (∀ t ∈ m, ∀ i, ¬ (Shape.typeParam i).Occurs t) →
      (s.substituteTypeParams a).close m = (s.close m).substituteTypeParams a) ∧
    ∀ t : Signature, s.key = t.key → (s.substituteTypeParams a).key = (t.substituteTypeParams a).key := by
  refine ⟨?composition, ?openness, ?commutation, ?identity⟩
  case composition =>
    intro hcovered
    exact (composes_iff a s).mpr hcovered b
  case openness => exact hasTypeParams_substituteTypeParams_iff a s
  case commutation =>
    intro ha hm
    refine (commutes_with_closings_iff a s).mpr ?_ m hm
    intro i _
    exact Shape.pick_induction ha (by simp)
  case identity =>
    intro t hkey
    rw [key_substituteTypeParams, key_substituteTypeParams, hkey]

end Signature

namespace Conversion

open Shape

/-- `Convert<U>(ref list<$T0>, fn<$T1, $M0>) -> map<$T0, $M0>`. -/
def convert : Signature where
  name := "Convert"
  params := [⟨list (typeParam 0), .ref⟩, ⟨func [typeParam 1] (methodParam 0), .value⟩]
  returns := applied "map" [typeParam 0, methodParam 0]
  generics := ["U"]
  kind := .method

/-- The same member with another name for its generic parameter and nothing returned. -/
def consume : Signature := { convert with returns := unit, generics := ["V"] }

theorem key_consume : convert.key = consume.key := rfl

theorem lt_two_of_mentions (i : UInt16) (h : convert.Mentions (typeParam i)) : i.toNat < 2 := by
  -- One occurrence for each of the parameters, and one in what is returned.
  have hoccurrences : i = 0 ∨ i = 1 ∨ i = 0 := by
    simpa [Signature.Mentions, Signature.shapes, convert, list, func] using h
  rcases hoccurrences with rfl | rfl | rfl <;> decide

/-- A partial instantiation, which puts in `list<$T0>`, meets the conditions of all four laws. -/
theorem convert_substitution :
    ((∀ i, convert.Mentions (typeParam i) → i.toNat < [list (typeParam 0), int].length) ∧
      (convert.substituteTypeParams [list (typeParam 0), int]).substituteTypeParams [string] =
        convert.substituteTypeParams [list string, int]) ∧
    (convert.substituteTypeParams [list (typeParam 0), int]).hasTypeParams = true ∧
    ((∀ t ∈ [list (typeParam 0), int], ∀ i, ¬ (methodParam i).Occurs t) ∧
      (∀ t ∈ [float], ∀ i, ¬ (typeParam i).Occurs t) ∧
      (convert.substituteTypeParams [list (typeParam 0), int]).close [float] =
        (convert.close [float]).substituteTypeParams [list (typeParam 0), int]) ∧
    (convert.key = consume.key ∧
      (convert.substituteTypeParams [list (typeParam 0), int]).key =
        (consume.substituteTypeParams [list (typeParam 0), int]).key) := by
  obtain ⟨hcomposition, hopenness, hcommutation, hidentity⟩ :=
    Signature.substitution_laws convert [list (typeParam 0), int] [string] [float]
  have hmono : ∀ t ∈ [list (typeParam 0), int], ∀ i, ¬ (methodParam i).Occurs t := by
    simp [list, int]
  have hclosed : ∀ t ∈ [float], ∀ i, ¬ (typeParam i).Occurs t := by
    simp [float]
  have hmentions : convert.Mentions (typeParam 0) :=
    ⟨list (typeParam 0), List.mem_cons_self, .inside List.mem_cons_self .self⟩
  refine ⟨⟨lt_two_of_mentions, hcomposition lt_two_of_mentions⟩, ?_, ⟨hmono, hclosed, hcommutation hmono hclosed⟩,
    key_consume, hidentity consume key_consume⟩
  exact hopenness.mpr ⟨0, hmentions, .inr ⟨_, rfl, 0, .inside List.mem_cons_self .self⟩⟩

end Conversion

end StructuralAdapters
