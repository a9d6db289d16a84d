import StructuralAdapters.Proofs.Caching
import StructuralAdapters.Synthesizer

/-!
# Requests to a synthesizer

A synthesizer is asked for adapter types, for checks of native implementations, and for objects seen through a
contract.  However different these requests are, there are seven things that can happen to one.

* `Request`, `Granted` — what is asked, and what is answered on success;
* `Synthesizer.serve` — the reply to a request;
* `Request.NeedsAdapter` — the request cannot be answered without an adapter type;
* `Served` — what a reply can be, guards included;
* `Synthesizer.serve_served` — every reply is one of these;
* `Served.cache_cases`, `Served.verified_cases`, `Served.value_cases` — what a reply leaves in the cache and among
  the verified pairs, and where its value comes from.

## Two halves

Requests that need an adapter type are refused for an open contract, and otherwise are answered from the cache or
run the generator.  The others, a check and the native path of a coercion, never touch the cache: what they
remember is which pairs of contract and type have been verified.
-/

namespace StructuralAdapters

/-! ### Requests and what they are granted -/

/-- What a synthesizer is asked for. -/
inductive Request where
  /-- The adapter type for a contract and a source type. -/
  | adapter (contract : Contract) (source : TypeDescriptor)
  /-- A check that a source type which declares a contract satisfies it. -/
  | verify (contract : Contract) (source : TypeDescriptor)
  /-- An adapter instance around an object. -/
  | wrap (contract : Contract) (object : Object)
  /-- An object seen through a contract: itself where its type declares the contract. -/
  | coerce (contract : Contract) (object : Object)

/-- What a request is answered with when it succeeds. -/
inductive Granted where
  | adapter (a : AdapterType)
  | verified
  | value (k : Contracted)

namespace Request

/-- The contract in question. -/
def contract : Request → Contract
  | adapter c _ | verify c _ | wrap c _ | coerce c _ => c

/-- The source type in question: that of the object, if there is one. -/
def source : Request → TypeDescriptor
  | adapter _ t | verify _ t => t
  | wrap _ o | coerce _ o => o.type

/-- The object in question, if there is one. -/
def object? : Request → Option Object
  | adapter _ _ | verify _ _ => none
  | wrap _ o | coerce _ o => some o

theorem source_eq {q : Request} {o : Object} (h : q.object? = some o) : q.source = o.type := by
  cases q <;> cases h <;> rfl

/-- The key of the contract and the source type in question. -/
def key (q : Request) : AdapterKey := .of q.contract q.source

/-- The request cannot be answered without an adapter type. -/
def NeedsAdapter : Request → Prop
  | adapter _ _ | wrap _ _ => True
  | verify _ _ => False
  | coerce c o => o.type.implements c.id = false

instance (q : Request) : Decidable q.NeedsAdapter := by
  cases q <;> unfold NeedsAdapter <;> infer_instance

@[simp] theorem needsAdapter_wrap (c : Contract) (o : Object) : (wrap c o).NeedsAdapter := trivial

/-- The response made with an adapter type, and the numbers that are left afterwards. -/
def fulfil (a : AdapterType) (supply : Supply) : Request → Granted × Supply
  | adapter _ _ | verify _ _ => (.adapter a, supply)
  | wrap c o | coerce c o => (.value ⟨c, a.instantiate supply.object o⟩, supply.afterObject)

theorem fulfil_type (q : Request) (a : AdapterType) (supply : Supply) :
    (q.fulfil a supply).2.type = supply.type := by
  cases q <;> rfl

/-- The response made without an adapter type. -/
def grant : Request → Granted
  | adapter _ _ | verify _ _ => .verified
  | wrap c o | coerce c o => .value ⟨c, o⟩

variable {q : Request} {k : Contracted}

/-- A value made with an adapter type is an instance of it around the object in question. -/
theorem fulfil_eq_value {a : AdapterType} {supply : Supply} (h : (q.fulfil a supply).1 = .value k) :
    k.contract = q.contract ∧
      ∃ o, q.object? = some o ∧ ∃ identity, k.object = a.instantiate identity o := by
  cases q with
  | adapter | verify => cases h
  | wrap c o | coerce c o => cases h; exact ⟨rfl, o, rfl, _, rfl⟩

/-- A value made without an adapter type is the object in question. -/
theorem grant_eq_value (h : q.grant = .value k) :
    k.contract = q.contract ∧ q.object? = some k.object := by
  cases q with
  | adapter | verify => cases h
  | wrap c o | coerce c o => cases h; exact ⟨rfl, rfl⟩

end Request

/-- A reply with what it answers changed. -/
def Reply.map {α β : Type} (f : α → β) (reply : Reply α) : Reply β :=
  ⟨reply.result.map f, reply.synthesizer, reply.supply⟩

/-- The reply to a request. -/
def Synthesizer.serve (s : Synthesizer) (supply : Supply) : Request → Reply Granted
  | .adapter c t => (s.adapterFor c t supply).map .adapter
  | .verify c t =>
      let (result, s') := s.verifyNative c t
      ⟨result.map fun _ => .verified, s', supply⟩
  | .wrap c o => (s.wrap c o supply).map .value
  | .coerce c o => (s.coerce c o supply).map .value

/-! ### What can happen -/

/-- The possible replies to a request.  The first four are those to requests that need an adapter type. -/
inductive Served (s : Synthesizer) (supply : Supply) (q : Request) : Reply Granted → Prop
  /-- No adapter is made for an open contract. -/
  | refused (hneeds : q.NeedsAdapter) (hopen : q.contract.isOpen = true) :
      Served s supply q ⟨.error (.openContract q.contract.displayName), s, supply⟩
  /-- The adapter type was in the cache. -/
  | found (hneeds : q.NeedsAdapter) (hopen : q.contract.isOpen = false) (a : AdapterType)
      (hfound : s.cache.lookup q.key = some a) :
      Served s supply q ⟨.ok (q.fulfil a supply).1, s, (q.fulfil a supply).2⟩
  /-- The adapter type was generated and is in the cache now. -/
  | generated (hneeds : q.NeedsAdapter) (hopen : q.contract.isOpen = false)
      (hmiss : s.cache.lookup q.key = none) (a : AdapterType)
      (hgenerate : AdapterType.generate s.settings q.contract q.source supply.typeKey = .ok a) :
      Served s supply q ⟨.ok (q.fulfil a supply.afterType).1,
        { s with cache := s.cache.store q.key a, generations := s.generations + 1 },
        (q.fulfil a supply.afterType).2⟩
  /-- The generator ran and failed. -/
  | failed (hneeds : q.NeedsAdapter) (hopen : q.contract.isOpen = false)
      (hmiss : s.cache.lookup q.key = none) (e : SynthesisError)
      (hgenerate : AdapterType.generate s.settings q.contract q.source supply.typeKey = .error e) :
      Served s supply q ⟨.error e, { s with generations := s.generations + 1 }, supply⟩
  /-- The pair had been verified before. -/
  | trusted (hneeds : ¬ q.NeedsAdapter) (hknown : q.key ∈ s.verified) :
      Served s supply q ⟨.ok q.grant, s, supply⟩
  /-- The pair has been verified now. -/
  | verified (hneeds : ¬ q.NeedsAdapter) (hnew : q.key ∉ s.verified)
      (bound : List (Requirement × Member))
      (hbound : q.source.resolveAll s.settings q.contract.requirements = .ok bound) :
      Served s supply q ⟨.ok q.grant, { s with verified := q.key :: s.verified }, supply⟩
  /-- The type does not satisfy the contract that it declares. -/
  | rejected (hneeds : ¬ q.NeedsAdapter) (hnew : q.key ∉ s.verified) (e : SynthesisError)
      (hbound : q.source.resolveAll s.settings q.contract.requirements = .error e) :
      Served s supply q ⟨.error e, s, supply⟩

namespace Synthesizer

variable {s : Synthesizer} {c : Contract} {source : TypeDescriptor} {supply : Supply} {q : Request}

/-! ### Adapter types -/

theorem adapterFor_of_open (hopen : c.isOpen = true) :
    s.adapterFor c source supply = ⟨.error (.openContract c.displayName), s, supply⟩ :=
  if_pos hopen

theorem adapterFor_of_lookup (hopen : c.isOpen = false) {a : AdapterType}
    (hfound : s.cache.lookup (.of c source) = some a) :
    s.adapterFor c source supply = ⟨.ok a, s, supply⟩ := by
  unfold adapterFor
  simp only [hopen, SlotCache.getOrGenerate_of_lookup hfound]
  rfl

theorem adapterFor_of_ok (hopen : c.isOpen = false) (hmiss : s.cache.lookup (.of c source) = none)
    {a : AdapterType} (hgenerate : AdapterType.generate s.settings c source supply.typeKey = .ok a) :
    s.adapterFor c source supply =
      ⟨.ok a, { s with cache := s.cache.store (.of c source) a, generations := s.generations + 1 },
        supply.afterType⟩ := by
  have hsupply : Supply.generate s.settings c source supply = (.ok a, supply.afterType) := by
    unfold Supply.generate
    rw [hgenerate]
  unfold adapterFor
  simp only [hopen, Bool.false_eq_true, if_false]
  rw [SlotCache.getOrGenerate_of_ok hmiss
    (by simp only [hsupply] : _ = (Except.ok a, s.generations + 1, supply.afterType))]

theorem adapterFor_of_error (hfilled : s.cache.Filled) (hopen : c.isOpen = false)
    (hmiss : s.cache.lookup (.of c source) = none) {e : SynthesisError}
    (hgenerate : AdapterType.generate s.settings c source supply.typeKey = .error e) :
    s.adapterFor c source supply =
      ⟨.error e, { s with generations := s.generations + 1 }, supply⟩ := by
  have hsupply : Supply.generate s.settings c source supply = (.error e, supply) := by
    unfold Supply.generate
    rw [hgenerate]
  unfold adapterFor
  simp only [hopen, Bool.false_eq_true, if_false]
  rw [SlotCache.getOrGenerate_of_error hfilled hmiss
    (by simp only [hsupply] : _ = (Except.error e, s.generations + 1, supply))]

/-! ### Every reply -/

theorem wrap_map_value (c : Contract) (o : Object) :
    (s.wrap c o supply).map Granted.value =
      match s.adapterFor c o.type supply with
      | ⟨.ok a, s', supply'⟩ =>
          ⟨.ok (.value ⟨c, a.instantiate supply'.object o⟩), s', supply'.afterObject⟩
      | ⟨.error e, s', supply'⟩ => ⟨.error e, s', supply'⟩ := by
  unfold wrap
  rcases s.adapterFor c o.type supply with ⟨e | a, s', supply'⟩ <;> rfl

/-- A request that needs an adapter type is answered with what is made of it. -/
theorem serve_of_needsAdapter (hneeds : q.NeedsAdapter) :
    s.serve supply q =
      match s.adapterFor q.contract q.source supply with
      | ⟨.ok a, s', supply'⟩ => ⟨.ok (q.fulfil a supply').1, s', (q.fulfil a supply').2⟩
      | ⟨.error e, s', supply'⟩ => ⟨.error e, s', supply'⟩ := by
  cases q with
  | adapter c t =>
      show (s.adapterFor c t supply).map Granted.adapter = _
      dsimp only [Request.contract, Request.source]
      rcases s.adapterFor c t supply with ⟨e | a, s', supply'⟩ <;> rfl
  | verify c t => exact absurd hneeds not_false
  | wrap c o => exact wrap_map_value c o
  | coerce c o =>
      show (s.coerce c o supply).map Granted.value = _
      rw [coerce, if_neg (Bool.eq_false_iff.mp hneeds)]
      exact wrap_map_value c o

/-- A cached adapter type is the answer. -/
theorem serve_of_lookup (hneeds : q.NeedsAdapter) (hopen : q.contract.isOpen = false) {a : AdapterType}
    (hfound : s.cache.lookup q.key = some a) :
    s.serve supply q = ⟨.ok (q.fulfil a supply).1, s, (q.fulfil a supply).2⟩ := by
  rw [serve_of_needsAdapter hneeds, adapterFor_of_lookup hopen hfound]

/-- Any other request is answered once the pair has been verified. -/
theorem serve_of_not_needsAdapter (hneeds : ¬ q.NeedsAdapter) :
    s.serve supply q =
      match s.verifyNative q.contract q.source with
      | (.ok _, s') => ⟨.ok q.grant, s', supply⟩
      | (.error e, s') => ⟨.error e, s', supply⟩ := by
  cases q with
  | adapter c t => exact absurd trivial hneeds
  | verify c t =>
      dsimp only [serve, Request.contract, Request.source]
      rcases s.verifyNative c t with ⟨e | _, s'⟩ <;> rfl
  | wrap c o => exact absurd trivial hneeds
  | coerce c o =>
      have hnative : o.type.implements c.id = true := by
        simpa [Request.NeedsAdapter] using hneeds
      show (s.coerce c o supply).map Granted.value = _
      dsimp only [Request.contract, Request.source]
      rw [coerce, if_pos hnative]
      rcases s.verifyNative c o.type with ⟨e | _, s'⟩ <;> rfl

/-- A pair that was verified is not verified again. -/
theorem serve_of_mem_verified (hneeds : ¬ q.NeedsAdapter) (hknown : q.key ∈ s.verified) :
    s.serve supply q = ⟨.ok q.grant, s, supply⟩ := by
  rw [serve_of_not_needsAdapter hneeds, verifyNative,
    if_pos (show AdapterKey.of q.contract q.source ∈ s.verified from hknown)]

/-- **What can happen to a request.** -/
theorem serve_served (hfilled : s.cache.Filled) (supply : Supply) (q : Request) :
    Served s supply q (s.serve supply q) := by
  by_cases hneeds : q.NeedsAdapter
  · rw [serve_of_needsAdapter hneeds]
    cases hopen : q.contract.isOpen with
    | true =>
        rw [adapterFor_of_open hopen]
        exact .refused hneeds hopen
    | false =>
        cases hfound : s.cache.lookup q.key with
        | some a =>
            rw [adapterFor_of_lookup hopen hfound]
            exact .found hneeds hopen a hfound
        | none =>
            cases hgenerate : AdapterType.generate s.settings q.contract q.source supply.typeKey with
            | ok a =>
                rw [adapterFor_of_ok hopen hfound hgenerate]
                exact .generated hneeds hopen hfound a hgenerate
            | error e =>
                rw [adapterFor_of_error hfilled hopen hfound hgenerate]
                exact .failed hneeds hopen hfound e hgenerate
  · by_cases hknown : q.key ∈ s.verified
    · rw [serve_of_mem_verified hneeds hknown]
      exact .trusted hneeds hknown
    · rw [serve_of_not_needsAdapter hneeds, verifyNative,
        if_neg (show AdapterKey.of q.contract q.source ∉ s.verified from hknown)]
      cases hbound : q.source.resolveAll s.settings q.contract.requirements with
      | ok bound => exact .verified hneeds hknown bound hbound
      | error e => exact .rejected hneeds hknown e hbound

end Synthesizer

/-! ### What a reply leaves behind -/

namespace Served

variable {s : Synthesizer} {supply : Supply} {q : Request} {reply : Reply Granted}

theorem settings_eq (h : Served s supply q reply) : reply.synthesizer.settings = s.settings := by
  cases h <;> rfl

/-- The cache and the type numbers change together, when an adapter type is generated. -/
theorem cache_cases (h : Served s supply q reply) :
    (reply.synthesizer.cache = s.cache ∧ reply.supply.type = supply.type) ∨
      ∃ a, AdapterType.generate s.settings q.contract q.source supply.typeKey = .ok a ∧
        reply.synthesizer.cache = s.cache.store q.key a ∧ reply.supply.type = supply.type + 1 := by
  cases h with
  | refused | failed | trusted | verified | rejected => exact .inl ⟨rfl, rfl⟩
  | found _ _ a _ => exact .inl ⟨rfl, q.fulfil_type a supply⟩
  | generated _ _ _ a hgenerate => exact .inr ⟨a, hgenerate, rfl, q.fulfil_type a supply.afterType⟩

theorem filled (h : Served s supply q reply) (hfilled : s.cache.Filled) :
    reply.synthesizer.cache.Filled := by
  rcases h.cache_cases with ⟨hcache, -⟩ | ⟨a, -, hcache, -⟩
  · rwa [hcache]
  · rw [hcache]
    exact hfilled.store q.key a

/-- A pair is taken for verified only when every requirement was bound. -/
theorem verified_cases (h : Served s supply q reply) {key : AdapterKey}
    (hkey : key ∈ reply.synthesizer.verified) :
    key ∈ s.verified ∨
      (key = q.key ∧ ∃ bound, q.source.resolveAll s.settings q.contract.requirements = .ok bound) := by
  cases h with
  | refused | found | generated | failed | trusted | rejected => exact .inl hkey
  | verified _ _ bound hbound =>
      rcases List.mem_cons.mp hkey with rfl | hkey
      · exact .inr ⟨rfl, bound, hbound⟩
      · exact .inl hkey

/-- A value is an instance of the cached adapter type that holds the object in question, or that object
itself, of a verified type. -/
theorem value_cases (h : Served s supply q reply) {k : Contracted}
    (hk : reply.result = .ok (.value k)) :
    k.contract = q.contract ∧ ∃ o, q.object? = some o ∧
      ((q.NeedsAdapter ∧ ∃ a identity, reply.synthesizer.cache.lookup q.key = some a ∧
          k.object = a.instantiate identity o) ∨
        (¬ q.NeedsAdapter ∧ q.key ∈ reply.synthesizer.verified ∧ k.object = o)) := by
  cases h with
  | refused | failed | rejected => cases hk
  | found hneeds _ a hfound =>
      obtain ⟨hcontract, o, ho, identity, hobject⟩ := Request.fulfil_eq_value (Except.ok.inj hk)
      exact ⟨hcontract, o, ho, .inl ⟨hneeds, a, identity, hfound, hobject⟩⟩
  | generated hneeds _ _ a _ =>
      obtain ⟨hcontract, o, ho, identity, hobject⟩ := Request.fulfil_eq_value (Except.ok.inj hk)
      refine ⟨hcontract, o, ho, .inl ⟨hneeds, a, identity, ?_, hobject⟩⟩
      rw [SlotCache.lookup_store, if_pos rfl]
  | trusted hneeds hknown =>
      obtain ⟨hcontract, ho⟩ := Request.grant_eq_value (Except.ok.inj hk)
      exact ⟨hcontract, _, ho, .inr ⟨hneeds, hknown, rfl⟩⟩
  | verified hneeds _ _ _ =>
      obtain ⟨hcontract, ho⟩ := Request.grant_eq_value (Except.ok.inj hk)
      exact ⟨hcontract, _, ho, .inr ⟨hneeds, List.mem_cons_self, rfl⟩⟩

/-- Where the requirements can be bound, a request that needs no adapter type is granted, and the pair is taken
for verified. -/
theorem granted_of_resolved (h : Served s supply q reply) (hneeds : ¬ q.NeedsAdapter)
    {bound : List (Requirement × Member)}
    (hbound : q.source.resolveAll s.settings q.contract.requirements = .ok bound) :
    reply.result = .ok q.grant ∧ q.key ∈ reply.synthesizer.verified := by
  cases h with
  | refused hneeds' | found hneeds' | generated hneeds' | failed hneeds' => exact absurd hneeds' hneeds
  | trusted _ hknown => exact ⟨rfl, hknown⟩
  | verified => exact ⟨rfl, List.mem_cons_self⟩
  | rejected _ _ e he => cases he.symm.trans hbound

end Served

end StructuralAdapters
