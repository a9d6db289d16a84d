import StructuralAdapters.Proofs.Binding
import StructuralAdapters.Proofs.Requests
import StructuralAdapters.Proofs.Targets

/-!
# Source types and wrapping

* `TypeDescriptor.Declared` — source types, made of declarations over declared base types;
* `Synthesizer.wrap_fresh` — with an empty cache an instance of a new adapter type is put around the object;
* `Wrapping` — a wrap whose adapter was generated for exactly the contract and the type in question.

A synthesizer that has been asked before may answer with an adapter that was generated for another contract
with the same identity, so `Wrapping` says which contract it was.
-/

namespace StructuralAdapters

/-! ### Source types -/

/-- A type that was declared, by steps in any order, over base types that were. -/
inductive TypeDescriptor.Declared : TypeDescriptor → Prop
  | build (d : Description) (key : TypeKey) (hbases : ∀ base ∈ d.draft.bases, base.Declared) :
      (d.build key).Declared

/-- A draft over declared base types declares a type. -/
theorem TypeDescriptor.Declared.of_draft (draft : TypeDraft) (key : TypeKey)
    (hbases : ∀ base ∈ draft.bases, base.Declared) : (draft.build key).Declared := by
  rw [← draft.build_description]
  refine .build _ key ?_
  rw [draft.draft_description]
  exact hbases

/-- Every member of a declared type runs a behaviour on the instance that it is called on, the inherited
ones on its base part. -/
theorem TypeDescriptor.Declared.exists_arrives {t : TypeDescriptor} (h : t.Declared) {m : Member}
    (hm : m ∈ t.members) (identity : Nat) :
    ∃ behaviour part, m.body.Arrives (.part identity t.key) ⟨behaviour, identity, part⟩ := by
  induction h generalizing m with
  | build d key hbases ih =>
      rcases List.mem_append.mp hm with hinherited | hown
      · have hmem := (List.mem_filter.mp hinherited).1
        obtain ⟨base, hbase, hmem⟩ := List.mem_flatMap.mp hmem
        obtain ⟨inner, hinner, rfl⟩ := List.mem_map.mp hmem
        obtain ⟨behaviour, part, harrives⟩ := ih base hbase hinner
        exact ⟨behaviour, part, .inherited key harrives⟩
      · obtain ⟨⟨signature, behaviour⟩, -, rfl⟩ := List.mem_map.mp hown
        exact ⟨behaviour, key, .own key behaviour identity⟩

/-- A contract that a type declares is implemented. -/
theorem TypeDescriptor.implements_of_mem {t : TypeDescriptor} {c : Contract} (hc : c ∈ t.contracts) :
    t.implements c.id = true := by
  have hself : c.isOrExtends c.id = true := by
    rw [Contract.isOrExtends, Contract.reaches, if_pos rfl]
  exact List.any_eq_true.mpr ⟨c, hc, hself⟩

/-! ### The first request -/

namespace Synthesizer

variable {s : Synthesizer} {c : Contract}

/-- Wrapping with an empty cache puts an instance of the generated adapter around the object. -/
theorem wrap_fresh (hcache : s.cache = {}) {o : Object} {supply : Supply} {a : AdapterType}
    (h : AdapterType.generate s.settings c o.type supply.typeKey = .ok a) :
    ∃ identity, (s.wrap c o supply).result = .ok ⟨c, a.instantiate identity o⟩ := by
  obtain ⟨hopen, -⟩ := AdapterType.generate_eq_ok_iff.mp h
  have hmiss : s.cache.lookup (.of c o.type) = none := by
    rw [hcache]
    rfl
  rw [wrap, adapterFor_of_ok hopen hmiss h]
  exact ⟨_, rfl⟩

end Synthesizer

/-! ### One layer -/

/-- `above` was made by wrapping `below`, with an adapter that was generated for exactly the contract and
the type in question. -/
structure Wrapping (a : AdapterType) (below above : Object) : Prop where
  wrapped : ∃ (s : Synthesizer) (supply : Supply),
    (s.adapterFor a.contract below.type supply).result = .ok a ∧
      (s.wrap a.contract below supply).result = .ok ⟨a.contract, above⟩
  generated : ∃ settings key, AdapterType.generate settings a.contract below.type key = .ok a

/-- The adapter instance of a layer holds the object below. -/
theorem Wrapping.exists_eq_adapter {a : AdapterType} {below above : Object} (h : Wrapping a below above) :
    ∃ identity, above = .adapter identity a.descriptor below := by
  obtain ⟨s, supply, hadapter, hwrap⟩ := h.wrapped
  rw [Synthesizer.wrap] at hwrap
  rcases hreply : s.adapterFor a.contract below.type supply with ⟨result, s', supply'⟩
  rw [hreply] at hadapter hwrap
  obtain rfl : result = .ok a := hadapter
  have hobject := congrArg Contracted.object (Except.ok.inj hwrap)
  exact ⟨supply'.object, hobject.symm⟩

/-- What the adapter of a layer is made of. -/
theorem Wrapping.exists_bound {a : AdapterType} {below above : Object} (h : Wrapping a below above) :
    ∃ name key strict bound, a = AdapterType.ofBound name key a.contract below.type bound ∧
      bound.map (·.1) = a.contract.requirements ∧
        ∀ p ∈ bound, below.type.candidates strict p.1.signature = [p.2] := by
  obtain ⟨settings, key, hgenerate⟩ := h.generated
  obtain ⟨-, bound, hbound, heq⟩ := AdapterType.generate_eq_ok_iff.mp hgenerate
  obtain ⟨hmap, hcandidates⟩ := TypeDescriptor.resolveAll_eq_ok_iff.mp hbound
  exact ⟨_, key, settings.strictReturns, bound, heq, hmap, hcandidates⟩

/-- The first request to a synthesizer is such a wrap. -/
theorem exists_wrapping {settings : Settings} {o : Object} {supply : Supply} {a : AdapterType}
    (h : AdapterType.generate settings a.contract o.type supply.typeKey = .ok a) :
    ∃ above, Wrapping a o above := by
  let s : Synthesizer := { settings }
  have hcache : s.cache = {} := rfl
  obtain ⟨hopen, -⟩ := AdapterType.generate_eq_ok_iff.mp h
  obtain ⟨identity, hwrap⟩ := s.wrap_fresh hcache h
  refine ⟨_, ⟨s, supply, ?_, hwrap⟩, ⟨settings, supply.typeKey, h⟩⟩
  rw [Synthesizer.adapterFor_of_ok hopen rfl h]

end StructuralAdapters
