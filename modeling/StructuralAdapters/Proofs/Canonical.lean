import StructuralAdapters.Proofs.Substitution
import StructuralAdapters.Proofs.Rebuilding

/-!
# What an identity stands for

An identity is a serial and type arguments.  It stands for the members of the definition that took the
serial, with the arguments put in.  A contract is *canonical* if it requires what its identity stands
for, so that canonical contracts with one identity require the same.

* `Signature.Within`, `Levels.Within` — no placeholder beyond the first `n`;
* `Contract.Canonical` — the contract requires what its identity stands for;
* `Contract.Sound` — moreover its identity speaks for every placeholder of its definition;
* `Contract.signatures_eq_of_canonical` — canonical contracts with one identity require the same;
* `Contract.within_zero_of_untouched` — above sound contracts, what type arguments are said not to
  change they do not change.

## Why canonical is not enough

Putting arguments into a canonical contract and putting them into its identity are two things: the
former reaches all placeholders of the members, the latter only those that the identity's arguments
mention.  They agree if the definition has no placeholder beyond those for which the identity has
arguments, and this is what `Covers` adds.
-/

namespace StructuralAdapters

/-! ### Bounded placeholders -/

/-- Each contract-level placeholder of the signature is one of the first `n`. -/
def Signature.Within (n : Nat) (s : Signature) : Prop := ∀ i ∈ s.placeholders, i.toNat < n

theorem Signature.within_zero_iff {s : Signature} : s.Within 0 ↔ s.hasTypeParams = false := by
  rw [← Bool.not_eq_true, Signature.hasTypeParams_iff]
  constructor
  · rintro h ⟨i, hi⟩
    exact Nat.not_lt_zero _ (h i hi)
  · intro h i hi
    exact absurd ⟨i, hi⟩ h

namespace Levels

/-- Type arguments pushed through every signature. -/
def substitute (args : List Shape) (L : Levels Signature) : Levels Signature :=
  L.map (Signature.substituteTypeParams args)

/-- Each visible signature has only the first `n` placeholders. -/
def Within (n : Nat) (L : Levels Signature) : Prop :=
  ∀ k, ∀ s ∈ visible Signature.key L k, s.Within n

variable {L M : Levels Signature} {a b : List Shape} {n : Nat}

theorem Within.mono {m : Nat} (h : L.Within n) (hle : n ≤ m) : L.Within m :=
  fun k s hs i hi => Nat.lt_of_lt_of_le (h k s hs i hi) hle

theorem Within.of_agree (h : L.Within n) (hagree : Agree Signature.key L M) : M.Within n := by
  intro k s hs
  rw [← show visible Signature.key L = visible Signature.key M from hagree] at hs
  exact h k s hs

theorem Agree.substitute (h : Agree Signature.key L M) (args : List Shape) :
    Agree Signature.key (L.substitute args) (M.substitute args) :=
  Agree.map (Signature.key_substituteTypeParams args) h

theorem substitute_nil (L : Levels Signature) : L.substitute [] = L := by
  have hid : Signature.substituteTypeParams [] = id := by
    funext s
    exact Signature.substituteTypeParams_eq_self s fun i _ => Shape.argument_of_ge (Nat.zero_le _)
  rw [substitute, hid, map_id]

/-- Only the arguments for visible placeholders count. -/
theorem Within.agree_substitute (h : L.Within n)
    (hargs : ∀ i : UInt16, i.toNat < n → Shape.argument a i = Shape.argument b i) :
    Agree Signature.key (L.substitute a) (L.substitute b) := by
  refine agree_map_of_visible (Signature.key_substituteTypeParams a)
    (Signature.key_substituteTypeParams b) fun k s hs => ?_
  exact Signature.substituteTypeParams_congr s fun i hi => hargs i (h k s hs i hi)

/-- Arguments that put each visible placeholder in its own place change nothing. -/
theorem Within.agree_substitute_self (h : L.Within n)
    (hargs : ∀ i : UInt16, i.toNat < n → Shape.argument a i = .typeParam i) :
    Agree Signature.key (L.substitute a) L := by
  have hcongr := h.agree_substitute (b := []) fun i hi =>
    (hargs i hi).trans (Shape.argument_of_ge (Nat.zero_le _)).symm
  rwa [substitute_nil] at hcongr

/-- Two substitutions in a row are one, provided that the first one finds an argument for every visible
placeholder. -/
theorem Within.agree_substitute_substitute (h : L.Within a.length) (b : List Shape) :
    Agree Signature.key ((L.substitute a).substitute b)
      (L.substitute (a.map (Shape.substituteTypeParams b))) := by
  unfold substitute
  rw [map_map]
  refine agree_map_of_visible
    (g := SignatureKey.mapShapes (Shape.substituteTypeParams b) ∘
      SignatureKey.mapShapes (Shape.substituteTypeParams a))
    (fun s => ?_) (Signature.key_substituteTypeParams _) fun k s hs => ?_
  · show ((s.substituteTypeParams a).substituteTypeParams b).key = _
    rw [Signature.key_substituteTypeParams, Signature.key_substituteTypeParams]
    rfl
  · exact Signature.substituteTypeParams_substituteTypeParams a b s (h k s hs)

/-- Where every visible placeholder finds an argument, the placeholders of the result come from the
arguments. -/
theorem Within.substitute_closed (h : L.Within a.length)
    (hclosed : ∀ t ∈ a, t.hasTypeParams = false) : (L.substitute a).Within 0 := by
  intro k s hs
  obtain ⟨s₀, hs₀, rfl⟩ := exists_of_mem_visible_map (Signature.key_substituteTypeParams a) hs
  intro i hi
  obtain ⟨j, hj, hij⟩ := (Signature.mem_placeholders_substituteTypeParams a s₀ i).mp hi
  have hlt := h k s₀ hs₀ j hj
  rw [Shape.argument_of_lt hlt] at hij
  have hopen := (Shape.hasTypeParams_iff _).mpr ⟨i, hij⟩
  rw [hclosed _ (List.getElem_mem hlt)] at hopen
  cases hopen

end Levels

namespace Contract

/-! ### Lineages -/

/-- `P` holds of the contract and of everything that it extends. -/
def Lineage (P : Contract → Prop) (c : Contract) : Prop := ∀ a, c.Ancestor a → P a

variable {P Q : Contract → Prop} {c d : Contract}

theorem Lineage.self (h : c.Lineage P) : P c := h c (Ancestor.refl c)

theorem Lineage.ancestor {a : Contract} (h : c.Lineage P) (ha : c.Ancestor a) : a.Lineage P :=
  fun _ hb => h _ (ha.trans hb)

theorem Lineage.parent {p : Contract} (h : c.Lineage P) (hp : p ∈ c.parents) : p.Lineage P :=
  h.ancestor (Ancestor.parent hp)

theorem Lineage.mono (h : c.Lineage P) (hPQ : ∀ a, P a → Q a) : c.Lineage Q :=
  fun a ha => hPQ a (h a ha)

theorem lineage_iff : c.Lineage P ↔ P c ∧ ∀ p ∈ c.parents, p.Lineage P := by
  constructor
  · exact fun h => ⟨h.self, fun p hp => h.parent hp⟩
  · rintro ⟨hc, hparents⟩ a ha
    rcases ancestor_iff.mp ha with rfl | ⟨p, hp, ha⟩
    · exact hc
    · exact hparents p hp a ha

/-- Where `P` fails in a lineage, it fails of a contract that extends only contracts with `P`. -/
theorem exists_minimal (h : ¬ c.Lineage P) :
    ∃ x, c.Ancestor x ∧ ¬ P x ∧ ∀ p ∈ x.parents, p.Lineage P := by
  induction c using inductionOn with
  | step c ih =>
      by_cases hparents : ∀ p ∈ c.parents, p.Lineage P
      · exact ⟨c, Ancestor.refl c, fun hc => h (lineage_iff.mpr ⟨hc, hparents⟩), hparents⟩
      · -- Some parent's lineage fails: go down there.
        rw [not_forall] at hparents
        obtain ⟨p, hparents⟩ := hparents
        rw [Classical.not_imp] at hparents
        obtain ⟨x, hx, hPx, hbelow⟩ := ih p hparents.1 hparents.2
        exact ⟨x, (Ancestor.parent hparents.1).trans hx, hPx, hbelow⟩

/-! ### Identities and definitions -/

/-- What an identity stands for, given the definition that took each serial. -/
def standsFor (defs : Nat → Contract) (id : ContractId) : Levels Signature :=
  (defs id.origin).signatureLevels.substitute id.args

/-- The number of placeholders for which an identity speaks: those that it has arguments for, or the
definition's own. -/
def span (defs : Nat → Contract) (id : ContractId) : Nat :=
  if id.args = [] then (defs id.origin).arity else id.args.length

/-- The identity speaks for every placeholder of its definition. -/
def Covers (defs : Nat → Contract) (id : ContractId) : Prop :=
  (defs id.origin).signatureLevels.Within (span defs id)

/-- The contract requires what its identity stands for. -/
structure Canonical (defs : Nat → Contract) (c : Contract) : Prop where
  typeParams_eq : c.typeParams = (defs c.id.origin).typeParams
  agree : Levels.Agree Signature.key c.signatureLevels (standsFor defs c.id)

/-- A canonical contract whose identity speaks for every placeholder. -/
structure Sound (defs : Nat → Contract) (c : Contract) : Prop extends Canonical defs c where
  covers : Covers defs c.id

variable {defs : Nat → Contract} {args : List Shape}

theorem standsFor_of_args_nil {id : ContractId} (h : id.args = []) :
    standsFor defs id = (defs id.origin).signatureLevels := by
  rw [standsFor, h, Levels.substitute_nil]

theorem span_of_args_nil {id : ContractId} (h : id.args = []) :
    span defs id = (defs id.origin).arity := if_pos h

theorem span_of_args_ne_nil {id : ContractId} (h : id.args ≠ []) :
    span defs id = id.args.length := if_neg h

theorem Canonical.arity_eq (h : c.Canonical defs) : c.arity = (defs c.id.origin).arity := by
  unfold arity
  rw [h.typeParams_eq]

/-- A canonical lineage is coherent. -/
theorem coherent_of_canonical (h : c.Lineage (Canonical defs)) : c.Coherent := by
  refine coherent_of_agree fun a b ha hb hid => (h a ha).agree.trans ?_
  rw [hid]
  exact (h b hb).agree.symm

/-- **Canonical contracts with one identity require the same**, in the same order. -/
theorem signatures_eq_of_canonical (hc : c.Lineage (Canonical defs))
    (hd : d.Lineage (Canonical defs)) (hid : c.id = d.id) : c.signatures = d.signatures := by
  refine signatures_eq_of_agree (coherent_of_canonical hc) (coherent_of_canonical hd) ?_
  have hagree := hc.self.agree
  rw [hid] at hagree
  exact hagree.trans hd.self.agree.symm

/-! ### Contracts that type arguments cannot change -/

/-- A contract that is not open requires no placeholder. -/
theorem Sound.within_zero_of_not_open (h : c.Sound defs) (hopen : c.isOpen = false) :
    c.signatureLevels.Within 0 := by
  rw [isOpen, Bool.or_eq_false_iff, List.any_eq_false] at hopen
  obtain ⟨hbare, hclosed⟩ := hopen
  -- Its identity speaks for all of its placeholders, and either there are none or the arguments have
  -- filled them.
  refine Levels.Within.of_agree ?_ h.agree.symm
  have hcovers := h.covers
  by_cases hargs : c.id.args = []
  · have htypeParams : c.typeParams = [] := by simpa [hargs] using hbare
    rw [Covers, span_of_args_nil hargs, ← h.arity_eq, arity, htypeParams] at hcovers
    rw [standsFor_of_args_nil hargs]
    exact hcovers
  · rw [Covers, span_of_args_ne_nil hargs] at hcovers
    exact hcovers.substitute_closed fun t ht => by simpa using hclosed t ht

/-- A contract that type arguments cannot change requires no placeholder. -/
theorem within_zero_of_untouched (hparents : ∀ p ∈ c.parents, p.Sound defs)
    (htouched : c.isTouched = false) : c.signatureLevels.Within 0 := by
  rw [isTouched, Bool.or_eq_false_iff, Bool.or_eq_false_iff] at htouched
  obtain ⟨⟨-, hmembers⟩, hopen⟩ := htouched
  intro k s hs
  rw [signatureLevels_eq] at hs
  rcases Levels.mem_or_of_mem_visible_cons hs with hmem | ⟨j, hmem⟩
  · rw [Signature.within_zero_iff]
    simpa using List.any_eq_false.mp hmembers s hmem
  · obtain ⟨_, hL, hmem⟩ := Levels.exists_of_mem_visible_merge hmem
    obtain ⟨p, hp, rfl⟩ := List.mem_map.mp hL
    have hclosed : p.isOpen = false := by simpa using List.any_eq_false.mp hopen p hp
    exact (hparents p hp).within_zero_of_not_open hclosed j s hmem

end Contract

end StructuralAdapters
