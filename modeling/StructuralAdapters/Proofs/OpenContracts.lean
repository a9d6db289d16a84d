import StructuralAdapters.Proofs.Identity
import StructuralAdapters.Proofs.Program

/-!
# Values for open contracts

An adapter type is never generated for an open contract.  A value can be handed out for one all the same, and for
a contract that is not open but shows placeholders.

* `Contract.Closed` — neither open nor showing a placeholder;
* `Contract.Demands` — satisfied only by types that mention a placeholder themselves;
* `Program.HandsOutClosed` — whatever a program does, values for the contract are handed out only if it is closed;
* `Program.handsOutClosed_iff` — the contracts for which this holds;
* `ContractPool.closed_of_not_open` — where definitions are scoped, what is not open is closed;
* `Crate.open_contract_handed_out` — a value for an open contract.

## Two gaps

A type that declares a contract is checked against its requirements, and no one asks whether the contract is open.
And the returned shape of a requirement is not looked at without strict mode, so a placeholder in it goes unnoticed
on either path.
-/

namespace StructuralAdapters

/-! ### Placeholders that matching can see -/

namespace Signature

variable {strict : Bool} {s required candidate : Signature}

/-- Whether a placeholder occurs in what matching compares. -/
def comparesTypeParams (strict : Bool) (s : Signature) : Bool :=
  s.params.any (·.shape.hasTypeParams) || (strict && s.returns.hasTypeParams)

/-- The signature with nothing returned, unless returned shapes are compared. -/
def offered (strict : Bool) (s : Signature) : Signature :=
  { s with returns := if strict then s.returns else .unit }

theorem accepts_offered (strict : Bool) (s : Signature) : s.accepts strict (s.offered strict) = true := by
  refine accepts_iff.mpr ⟨rfl, rfl, rfl, ?_⟩
  rintro rfl
  rfl

/-- What is offered mentions only the placeholders that matching can see. -/
theorem hasTypeParams_offered (h : s.comparesTypeParams strict = false) :
    (s.offered strict).hasTypeParams = false := by
  obtain ⟨hparams, hreturns⟩ := Bool.or_eq_false_iff.mp h
  refine Bool.or_eq_false_iff.mpr ⟨?_, hparams⟩
  cases strict with
  | false => rfl
  | true => exact hreturns

theorem any_hasTypeParams_eq (s : Signature) :
    (s.params.any fun p => p.shape.hasTypeParams) = s.key.params.any fun p => p.2.hasTypeParams := by
  rw [key, List.any_map]
  rfl

/-- A placeholder that matching can see also occurs in each candidate. -/
theorem hasTypeParams_of_accepts (haccepts : required.accepts strict candidate = true)
    (h : required.comparesTypeParams strict = true) : candidate.hasTypeParams = true := by
  obtain ⟨-, -, hparams, hreturns⟩ := accepts_iff.mp haccepts
  rw [hasTypeParams, Bool.or_eq_true]
  rcases Bool.or_eq_true_iff.mp h with hseen | hseen
  · rw [any_hasTypeParams_eq] at hseen
    rw [any_hasTypeParams_eq, hparams]
    exact .inr hseen
  · obtain ⟨hstrict, hseen⟩ := Bool.and_eq_true_iff.mp hseen
    rw [hreturns hstrict]
    exact .inl hseen

end Signature

/-- No member of the type mentions a contract-level placeholder. -/
def TypeDescriptor.Plain (t : TypeDescriptor) : Prop := ∀ m ∈ t.members, m.signature.hasTypeParams = false

namespace Contract

variable {c : Contract} {strict : Bool}

/-- The contract is not open, and nothing that it requires mentions a placeholder. -/
def Closed (c : Contract) : Prop := c.isOpen = false ∧ ∀ s ∈ c.signatures, s.hasTypeParams = false

/-- Some requirement shows a placeholder to matching. -/
def Demands (strict : Bool) (c : Contract) : Prop := ∃ s ∈ c.signatures, s.comparesTypeParams strict = true

/-- A type that satisfies such a contract mentions a placeholder. -/
theorem Demands.not_plain {settings : Settings} (h : c.Demands settings.strictReturns) {t : TypeDescriptor}
    {bound : List (Requirement × Member)} (hbound : t.resolveAll settings c.requirements = .ok bound) :
    ¬ t.Plain := by
  obtain ⟨s, hs, hseen⟩ := h
  obtain ⟨r, hr, rfl⟩ := List.mem_map.mp hs
  obtain ⟨hmap, hcandidates⟩ := TypeDescriptor.resolveAll_eq_ok_iff.mp hbound
  obtain ⟨b, hb, rfl⟩ := List.mem_map.mp (hmap ▸ hr)
  obtain ⟨hm, haccepts⟩ := TypeDescriptor.accepts_of_candidates (hcandidates b hb)
  intro hplain
  have hmentions := Signature.hasTypeParams_of_accepts haccepts hseen
  rw [hplain b.2 hm] at hmentions
  cases hmentions

/-! ### A type for any contract -/

/-- A source type that declares the contract, with a member for each requirement. -/
def offer (strict : Bool) (c : Contract) : TypeDraft :=
  { name := c.name, contracts := [c]
    members := c.requirements.map fun r => .method (r.signature.offered strict) [] }

/-- The member for a requirement. -/
def offeredMember (strict : Bool) (c : Contract) (key : TypeKey) (r : Requirement) : Member :=
  ⟨r.signature.offered strict, .own key (.script []), c.name⟩

theorem members_offer (strict : Bool) (c : Contract) (key : TypeKey) :
    ((c.offer strict).build key).members = c.requirements.map (c.offeredMember strict key) := by
  have hown : (c.offer strict).ownMembers key = c.requirements.map (c.offeredMember strict key) := by
    unfold TypeDraft.ownMembers offer
    rw [List.flatMap_map, List.map_flatMap]
    exact List.map_eq_flatMap.symm
  show (List.filter _ []) ++ (c.offer strict).ownMembers key = _
  rw [hown]
  rfl

theorem plain_offer (h : ¬ c.Demands strict) (key : TypeKey) : ((c.offer strict).build key).Plain := by
  intro m hm
  rw [members_offer] at hm
  obtain ⟨r, hr, rfl⟩ := List.mem_map.mp hm
  apply Signature.hasTypeParams_offered
  by_contra hseen
  exact h ⟨r.signature, List.mem_map.mpr ⟨r, hr, rfl⟩, Bool.not_eq_false _ ▸ hseen⟩

/-- The type satisfies the contract: keys are not repeated, so each requirement has its own member. -/
theorem resolveAll_offer (settings : Settings) (c : Contract) (key : TypeKey) :
    ((c.offer settings.strictReturns).build key).resolveAll settings c.requirements =
      .ok (c.requirements.map fun r => (r, c.offeredMember settings.strictReturns key r)) := by
  refine TypeDescriptor.resolveAll_eq_ok_iff.mpr ⟨?_, ?_⟩
  · rw [List.map_map]
    exact List.map_id _
  · intro b hb
    obtain ⟨r, hr, rfl⟩ := List.mem_map.mp hb
    unfold TypeDescriptor.candidates
    rw [members_offer]
    have hkeys : ((c.requirements.map (c.offeredMember settings.strictReturns key)).map
        Member.key).Nodup := by
      rw [List.map_map]
      exact c.nodup_keys_requirements
    refine filter_of_nodup hkeys (List.mem_map.mpr ⟨r, hr, rfl⟩) ?_
    intro m hm
    obtain ⟨r', hr', rfl⟩ := List.mem_map.mp hm
    constructor
    · intro haccepts
      exact (Signature.key_eq_of_accepts haccepts : _ = r.signature.key)
    · intro hkey
      obtain rfl : r' = r := List.inj_on_of_nodup_map c.nodup_keys_requirements hr' hr hkey
      exact Signature.accepts_offered _ _

end Contract

/-! ### Which contracts values are handed out for -/

namespace Program

/-- Whatever a program does, a value that a synthesizer with these settings hands out for the contract, for an
object of a plain type, is handed out for a closed contract. -/
def HandsOutClosed (known : Contract → Prop) (settings : Settings) (c : Contract) : Prop :=
  ∀ (all : Nat → Settings) (p : Program), Reachable known (fun _ _ => False) all p →
    ∀ i, all i = settings → ∀ o ∈ p.objects, o.type.Plain → ∀ k : Contracted,
      ((p.reply i (.wrap c o)).result = .ok (.value k) ∨
        (p.reply i (.coerce c o)).result = .ok (.value k)) → c.Closed

variable {known : Contract → Prop} {all : Nat → Settings} {p : Program} {c d : Contract}

/-- A value is handed out only if the type satisfies some contract with the identity in question. -/
theorem Sound.exists_resolved (h : p.Sound known (fun _ _ => False) all) {i : Nat} {q : Request}
    (hq : p.CanAsk known q) {k : Contracted} (hk : (p.reply i q).result = .ok (.value k)) :
    ∃ d, known d ∧ d.id = q.contract.id ∧
      ∃ bound, q.source.resolveAll (all i) d.requirements = .ok bound := by
  have hafter := h.ask (i := i) hq
  have hsource := h.source_mem_ask (i := i) hq
  obtain ⟨-, o, -, -, ⟨a, -, ha, -⟩ | ⟨hkey, -⟩⟩ := h.value_cases hq hk
  · obtain ⟨hknown, hid, n, hgenerate⟩ :=
      hafter.generated_of_lookup (fun _ _ => not_false) hsource ha
    obtain ⟨-, bound, hbound, -⟩ := AdapterType.generate_eq_ok_iff.mp hgenerate
    exact ⟨a.contract, hknown, hid, bound, hbound⟩
  · exact hafter.resolved_of_verified hsource hkey

/-- An object whose type declares the contract and satisfies it. -/
def offered (settings : Settings) (d : Contract) : Object :=
  .source 0 ((d.offer settings.strictReturns).build ⟨1⟩)

/-- A program that begins with such an object. -/
def offering (settings : Settings) (d : Contract) : Program :=
  ((initial fun _ => settings).declare (d.offer settings.strictReturns).description).create
    ((d.offer settings.strictReturns).build ⟨1⟩)

theorem offered_mem (settings : Settings) (d : Contract) :
    offered settings d ∈ (offering settings d).objects :=
  List.mem_cons_self

theorem reachable_offering (settings : Settings) (d : Contract) :
    Reachable known (fun _ _ => False) (fun _ => settings) (offering settings d) :=
  .of_draft rfl

theorem implements_offered (settings : Settings) (d : Contract) :
    (offered settings d).type.implements d.id = true :=
  TypeDescriptor.implements_of_mem List.mem_cons_self

/-- A contract with the identity of one that the object's type declares needs no adapter type. -/
theorem not_needsAdapter_offered (settings : Settings) (hid : d.id = c.id) :
    ¬ (Request.coerce c (offered settings d)).NeedsAdapter := by
  intro hneeds
  rw [Request.NeedsAdapter, ← hid, implements_offered] at hneeds
  cases hneeds

/-- When the object has been coerced to the contract, the pair is taken for verified. -/
theorem verified_offered (settings : Settings) (d : Contract) :
    AdapterKey.of d (offered settings d).type ∈
      (((offering settings d).ask 0 (.coerce d (offered settings d))).synthesizers 0).verified := by
  have hsound := (reachable_offering settings d : Reachable (· = d) _ _ _).sound
  exact ((hsound.served 0 _).granted_of_resolved (not_needsAdapter_offered settings rfl)
    (Contract.resolveAll_offer settings d _)).2

/-- A type that declares a contract and satisfies it gets a program values for every contract with the same
identity. -/
theorem exists_handed_out (hd : known d) (hid : d.id = c.id) {settings : Settings}
    (hdemands : ¬ d.Demands settings.strictReturns) :
    ∃ p, Reachable known (fun _ _ => False) (fun _ => settings) p ∧ ∃ o ∈ p.objects, o.type.Plain ∧
      ∃ k, (p.reply 0 (.coerce c o)).result = .ok (.value k) := by
  have hasked : (offering settings d).CanAsk known (.coerce d (offered settings d)) :=
    ⟨hd, offered_mem settings d⟩
  have hkey : (Request.coerce c (offered settings d)).key = AdapterKey.of d (offered settings d).type := by
    exact congrArg (AdapterKey.mk · (offered settings d).type.key) hid.symm
  refine ⟨(offering settings d).ask 0 (.coerce d (offered settings d)),
    (reachable_offering settings d).tail (.ask _ 0 _ hasked), offered settings d,
    List.mem_append_right _ (offered_mem settings d), Contract.plain_offer hdemands _,
    ⟨c, offered settings d⟩, ?_⟩
  unfold reply
  rw [Synthesizer.serve_of_mem_verified (not_needsAdapter_offered settings hid)
    (hkey ▸ verified_offered settings d)]
  rfl

/-- **Which contracts values are handed out for.**  Programs hand out values only for closed contracts, among those
that are known, if and only if each known contract is closed or no plain type satisfies any known contract with
its identity, for every one of them shows a placeholder to matching. -/
theorem handsOutClosed_iff (known : Contract → Prop) (settings : Settings) :
    (∀ c, known c → HandsOutClosed known settings c) ↔
      ∀ c, known c → c.Closed ∨ ∀ d, known d → d.id = c.id → d.Demands settings.strictReturns := by
  constructor
  · intro hsafe c hc
    by_contra hnot
    obtain ⟨hopen, hsome⟩ := not_or.mp hnot
    push Not at hsome
    obtain ⟨d, hd, hid, hdemands⟩ := hsome
    obtain ⟨p, hp, o, ho, hplain, k, hk⟩ := exists_handed_out hd hid hdemands
    exact hopen (hsafe c hc _ p hp 0 rfl o ho hplain k (.inr hk))
  · intro hall c hc all p hp i hsettings o ho hplain k hk
    rcases hall c hc with hclosed | hdemands
    · exact hclosed
    · have hresolved : ∃ d, known d ∧ d.id = c.id ∧
          ∃ bound, o.type.resolveAll (all i) d.requirements = .ok bound := by
        rcases hk with hk | hk
        · exact hp.sound.exists_resolved (show p.CanAsk known (.wrap c o) from ⟨hc, ho⟩) hk
        · exact hp.sound.exists_resolved (show p.CanAsk known (.coerce c o) from ⟨hc, ho⟩) hk
      obtain ⟨d, hd, hid, bound, hbound⟩ := hresolved
      rw [hsettings] at hbound
      exact absurd hplain ((hdemands d hd hid).not_plain hbound)

end Program

/-! ### Scoped definitions -/

/-- Where every definition is scoped, a contract that is not open is closed, so an adapter type is generated only
for closed contracts. -/
theorem ContractPool.closed_of_not_open {pool : ContractPool} (h : pool.Reachable)
    (hbuilt : ∀ c ∈ pool.built, c.Scoped) {c : Contract} (hc : c ∈ pool.contracts)
    (hopen : c.isOpen = false) : c.Closed := by
  obtain ⟨defs, hconsistent⟩ := h.exists_consistent hbuilt .refl
  have hlineage := hconsistent c hc
  have hcoherent : c.Coherent :=
    Contract.coherent_of_canonical (hlineage.mono fun _ ha => ha.toCanonical)
  refine ⟨hopen, ?_⟩
  intro s hs
  rw [← Signature.within_zero_iff]
  exact (Contract.within_iff hcoherent).mpr (hlineage.self.sound.within_zero_of_not_open hopen) s hs

/-! ### A value for an open contract -/

namespace Crate

open Program

/-- A generic contract that nobody has instantiated. -/
def box : Contract :=
  { handle := 0, id := ⟨1, []⟩, name := "Box", typeParams := ["T"], parents := []
    members := [{ Signature.method "get" with returns := .typeParam 0 }] }

/-- The contracts of the program. -/
def contracts : ContractPool :=
  (ContractPool.initial {}).build
    { name := "Box", typeParams := ["T"]
      members := [.method { Signature.method "get" with returns := .typeParam 0 }] }

theorem reachable_contracts : contracts.Reachable :=
  ⟨{}, .single (.build _ _ (fun _ hp => absurd hp List.not_mem_nil) trivial)⟩

/-- A source type that declares the open contract. -/
def description : Description :=
  ⟨"Crate", [.implement box, .declare (.method { Signature.method "get" with returns := .int } [])]⟩

def type : TypeDescriptor := description.build ⟨1⟩

def crate : Object := .source 0 type

def ready : Program := ((Program.initial fun _ => {}).declare description).create type

theorem reachable_ready :
    Reachable (· ∈ contracts.contracts) (fun _ _ => False) (fun _ => {}) ready :=
  .of_description rfl

theorem plain_type : type.Plain := by
  intro m hm
  obtain rfl := List.mem_singleton.mp hm
  rfl

theorem resolveAll_box : type.resolveAll {} box.requirements =
    .ok [(⟨"Box<T>", { Signature.method "get" with returns := .typeParam 0 }⟩,
      ⟨{ Signature.method "get" with returns := .int }, .own ⟨1⟩ (.script []), "Crate"⟩)] := by
  have hrequirements : box.requirements =
      [⟨"Box<T>", { Signature.method "get" with returns := .typeParam 0 }⟩] :=
    Contract.requirements_of_root rfl (List.nodup_singleton _)
  rw [hrequirements]
  rfl

theorem reply_ready : (ready.reply 0 (.coerce box crate)).result = .ok (.value ⟨box, crate⟩) := by
  have himplements : type.implements box.id = true :=
    TypeDescriptor.implements_of_mem List.mem_cons_self
  have hneeds : ¬ (Request.coerce box crate).NeedsAdapter := fun hneeds => by
    cases himplements.symm.trans hneeds
  exact ((reachable_ready.sound.served 0 _).granted_of_resolved hneeds resolveAll_box).1

/-- A program can be handed a value for a contract that is open. -/
theorem open_contract_handed_out : ¬ ∀ pool : ContractPool, pool.Reachable →
    ∀ settings, ∀ c ∈ pool.contracts, HandsOutClosed (· ∈ pool.contracts) settings c := by
  intro hall
  have hclosed := hall contracts reachable_contracts {} box List.mem_cons_self (fun _ => {}) ready
    reachable_ready 0 rfl crate List.mem_cons_self plain_type ⟨box, crate⟩ (.inr reply_ready)
  have hopen : box.isOpen = true := rfl
  cases hopen.symm.trans hclosed.1

end Crate

end StructuralAdapters
