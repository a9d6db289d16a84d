import StructuralAdapters.Proofs.Entailment
import StructuralAdapters.Proofs.Forwarding
import StructuralAdapters.Proofs.Invoking

/-!
# Upcasting adapters

An adapter instance declares the contract that its type was generated for, and no other.  It can be coerced
to whatever that contract extends, and no second adapter is put around it.

* `Wrapping.satisfies_of_entails` — an adapter type satisfies what its contract entails;
* `Wrapping.implements_iff` — an adapter type implements what its contract extends;
* `Wrapping.exists_targetOf` — a call of a required key runs a member of the object inside;
* `Synthesizer.coerce_of_implements` — the native path is taken where the type satisfies the contract;
* `Wrapping.coerce_ancestor` — an adapter instance is coerced to itself, and behaves as before.

## Why one member is found

The requirements of a contract have different keys, and the adapter type has one member for each of them.
So whatever is matched against that table finds at most one member.  It finds one if the contract requires
a matching signature, which is what entailment says.
-/

namespace StructuralAdapters

/-! ### The table of an adapter type -/

namespace Wrapping

variable {a : AdapterType} {b : Contract} {x o : Object} {strict : Bool}

/-- An adapter type has a member for each required signature, and declares its contract. -/
theorem descriptor_eq (h : Wrapping a x o) :
    a.descriptor.members.map Member.signature = a.contract.signatures ∧
      a.descriptor.contracts = [a.contract] := by
  obtain ⟨name, key, strict, bound, ha, hmap, -⟩ := h.exists_bound
  rw [ha]
  refine ⟨?_, rfl⟩
  rw [Contract.signatures, show (AdapterType.ofBound name key a.contract x.type bound).contract =
    a.contract from rfl, ← hmap]
  simp only [AdapterType.ofBound, List.map_map]
  rfl

theorem nodup_keys (h : Wrapping a x o) : (a.descriptor.members.map Member.key).Nodup := by
  have hkeys : a.descriptor.members.map Member.key = a.contract.signatures.map Signature.key := by
    rw [← h.descriptor_eq.1, List.map_map]
    rfl
  rw [hkeys]
  exact a.contract.nodup_keys_signatures

/-- **An adapter type satisfies what its contract entails.** -/
theorem satisfies_of_entails (h : Wrapping a x o) (hb : a.contract.Entails strict b) :
    a.descriptor.Satisfies strict b := by
  intro s hs
  obtain ⟨s', hs', haccepts⟩ := hb s hs
  rw [← h.descriptor_eq.1] at hs'
  obtain ⟨m, hm, rfl⟩ := List.mem_map.mp hs'
  exact ⟨m, TypeDescriptor.candidates_of_nodup h.nodup_keys hm (Signature.accepts_symm haccepts)⟩

/-- An adapter type implements what its contract extends. -/
theorem implements_iff (h : Wrapping a x o) (hc : a.contract.Unambiguous) {i : ContractId} :
    a.descriptor.implements i = true ↔ ∃ d, a.contract.Ancestor d ∧ d.id = i := by
  rw [TypeDescriptor.implements, h.descriptor_eq.2, List.any_cons, List.any_nil, Bool.or_false]
  exact Contract.isOrExtends_iff hc

/-- A call of a required key runs a member of the object inside. -/
theorem exists_targetOf (h : Wrapping a x o) {sig : Signature}
    (hkey : sig.key ∈ a.contract.requirements.map Requirement.key) :
    ∃ m ∈ x.type.members, m.key = sig.key ∧ o.targetOf sig = m.target x.receiver := by
  obtain ⟨identity, rfl⟩ := h.exists_eq_adapter
  obtain ⟨name, key, strict, bound, ha, hmap, hcandidates⟩ := h.exists_bound
  obtain ⟨r, hr, hrkey⟩ := List.mem_map.mp hkey
  obtain ⟨p, hp, rfl⟩ := List.mem_map.mp (hmap ▸ hr)
  obtain ⟨hmem, haccepts⟩ := TypeDescriptor.accepts_of_candidates (hcandidates p hp)
  refine ⟨p.2, hmem, (Signature.key_eq_of_accepts haccepts).trans hrkey, ?_⟩
  rw [ha]
  exact Synthesizer.targetOf_adapter hmap hp identity hrkey

end Wrapping

/-! ### Coercion -/

/-- Where the type implements the contract and satisfies it, an object is coerced to itself, and the pair is
all that is remembered. -/
theorem Synthesizer.coerce_of_implements {s : Synthesizer} {c : Contract} {o : Object}
    (himplements : o.type.implements c.id = true)
    (hsatisfies : o.type.Satisfies s.settings.strictReturns c) (supply : Supply) :
    ∃ verified, s.coerce c o supply = ⟨.ok ⟨c, o⟩, { s with verified }, supply⟩ := by
  rw [coerce, if_pos himplements, verifyNative]
  by_cases hknown : AdapterKey.of c o.type ∈ s.verified
  · -- The pair was verified before, and the table is not looked at again.
    rw [if_pos hknown]
    exact ⟨s.verified, rfl⟩
  · obtain ⟨bound, hbound⟩ := (TypeDescriptor.satisfies_iff _).mp hsatisfies
    rw [if_neg hknown, hbound]
    exact ⟨_, rfl⟩

/-- Values with one object answer a call alike if both contracts require its key. -/
theorem Contracted.target_congr {c d : Contract} {o : Object} {sig : Signature}
    (hc : Requires ⟨c, o⟩ sig) (hd : Requires ⟨d, o⟩ sig) (inv : Invocation) :
    target ⟨c, o⟩ sig inv = target ⟨d, o⟩ sig inv := by
  have hcheck : check ⟨c, o⟩ sig inv = check ⟨d, o⟩ sig inv := by
    simp [check, requires_iff.mp hc, requires_iff.mp hd]
  rw [target, target, hcheck]

namespace Contract

theorem Entails.refl (strict : Bool) (c : Contract) : c.Entails strict c :=
  fun s hs => ⟨s, hs, s.accepts_refl strict⟩

/-- Without strict mode a contract entails what it extends, and in either mode it entails itself. -/
theorem entails_ancestor {c b : Contract} {strict : Bool} (hc : c.Unambiguous) (hfew : c.FewGenerics)
    (hb : c.Ancestor b) (hmode : strict = false ∨ b = c) : c.Entails strict b := by
  rcases hmode with rfl | rfl
  · exact (entails_ancestor_iff hc hfew hb).mpr nofun
  · exact Entails.refl strict b

end Contract

/-- **Adapters upcast.**  An adapter instance is coerced to itself for each contract that its own contract
extends, unless returned shapes are compared, and for its own contract in any case.  No adapter type is
looked up or generated.  A call of a required member then runs a member of the object inside, the same that
it runs through the adapter's own contract. -/
theorem Wrapping.coerce_ancestor {a : AdapterType} {x o : Object} (h : Wrapping a x o)
    (hc : a.contract.Unambiguous) (hfew : a.contract.FewGenerics) {b : Contract}
    (hb : a.contract.Ancestor b) (s : Synthesizer)
    (hmode : s.settings.strictReturns = false ∨ b = a.contract) (supply : Supply) :
    (∃ verified, s.coerce b o supply = ⟨.ok ⟨b, o⟩, { s with verified }, supply⟩) ∧
      ∀ sig, Contracted.Requires ⟨b, o⟩ sig →
        (∃ m ∈ x.type.members, m.key = sig.key ∧ o.targetOf sig = m.target x.receiver) ∧
          ∀ inv, Contracted.target ⟨b, o⟩ sig inv = Contracted.target ⟨a.contract, o⟩ sig inv ∧
            ∀ w, Contracted.invoke ⟨b, o⟩ sig inv w = Contracted.invoke ⟨a.contract, o⟩ sig inv w := by
  have htype : o.type = a.descriptor := by
    obtain ⟨identity, rfl⟩ := h.exists_eq_adapter
    rfl
  refine ⟨?_, ?_⟩
  · apply Synthesizer.coerce_of_implements
    · rw [htype]
      exact (h.implements_iff hc).mpr ⟨b, hb, rfl⟩
    · rw [htype]
      exact h.satisfies_of_entails (Contract.entails_ancestor hc hfew hb hmode)
  · intro sig hrequires
    obtain ⟨r, hr, hkey⟩ := hrequires
    have hmem : sig.key ∈ a.contract.requirements.map Requirement.key :=
      Contract.keys_requirements_subset hc hb (hkey ▸ List.mem_map_of_mem hr)
    have hown : Contracted.Requires ⟨a.contract, o⟩ sig := List.mem_map.mp hmem
    refine ⟨h.exists_targetOf hmem, ?_⟩
    intro inv
    have htarget : Contracted.target ⟨b, o⟩ sig inv = Contracted.target ⟨a.contract, o⟩ sig inv :=
      Contracted.target_congr ⟨r, hr, hkey⟩ hown inv
    refine ⟨htarget, ?_⟩
    intro w
    rw [Contracted.invoke_eq_ofTarget, Contracted.invoke_eq_ofTarget, htarget]

namespace Swapping

/-- A cell that was wrapped for the extending contract is coerced to the extended one as it is, and the
generic member is called on the cell inside. -/
theorem coerce_wrapped_cell : ∃ o, Wrapping lower (.source 0 cell) o ∧ readable.Unambiguous ∧
    readable.FewGenerics ∧ readable.Ancestor exchange ∧
    (∃ verified, ({} : Synthesizer).coerce exchange o {} = ⟨.ok ⟨exchange, o⟩, { verified }, {}⟩) ∧
    ∃ m ∈ cell.members, m.key = swap.key ∧ o.targetOf swap = m.target (.part 0 cell.key) := by
  obtain ⟨o, hwrapping⟩ := exists_wrapping (o := .source 0 cell) (a := lower)
    (show AdapterType.generate {} readable cell (Supply.typeKey ⟨3, 1⟩) = _ from generate_lower)
  have hc : readable.Unambiguous := by decide +kernel
  have hfew : readable.FewGenerics := by decide +kernel
  have hb : readable.Ancestor exchange := .parent List.mem_cons_self
  obtain ⟨hcoerce, hcalls⟩ := hwrapping.coerce_ancestor hc hfew hb {} (.inl rfl) {}
  have hrequires : Contracted.Requires ⟨exchange, o⟩ swap :=
    ⟨⟨"Exchange", swap⟩, requirements_exchange ▸ List.mem_cons_self, rfl⟩
  exact ⟨o, hwrapping, hc, hfew, hb, hcoerce, (hcalls swap hrequires).1⟩

end Swapping

end StructuralAdapters
