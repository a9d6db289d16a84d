import StructuralAdapters.Proofs.Pool
import StructuralAdapters.Proofs.Program

/-!
# What a synthesizer answers does not depend on its past

A synthesizer keeps adapter types, counts its generations and remembers what it has verified.  All of this can be
read off the calls that were made, and none of it shows in what a request comes down to.

* `Call.Missed`, `Call.Generated` — calls that ran the generator, and with what result;
* `Program.Logged` — cache and counter are those that the log accounts for;
* `Request.verdict` — what a request comes down to: an error, or what the requirements are bound to;
* `Request.Alike` — replies with the same error, the same object or adapter types with the same bindings;
* `Program.Reachable.history` — cache and counter are exact, failures and native verifications change neither
  cache nor numbers, and every reply is like that of a synthesizer that was never asked before.

## Contracts that share an identity

An adapter type is cached under the identity of a contract, so a request may be answered with one that was
generated for a different contract.  The theorem is about contracts for which equal identities mean equal
requirements; that they are open together follows from how contracts are made.
-/

namespace StructuralAdapters

/-! ### Calls that ran the generator -/

namespace Call

/-- The call needed an adapter type for a contract that is not open, and found none in the cache. -/
def Missed (call : Call) : Prop :=
  call.request.NeedsAdapter ∧ call.request.contract.isOpen = false ∧
    call.before.cache.lookup call.request.key = none

instance (call : Call) : Decidable call.Missed := by
  unfold Missed
  cases call.before.cache.lookup call.request.key <;> infer_instance

/-- What the generator makes of the call. -/
def generate (call : Call) : Except SynthesisError AdapterType :=
  AdapterType.generate call.before.settings call.request.contract call.request.source call.supply.typeKey

/-- The call generated the adapter type `a` for the pair with this key. -/
structure Generated (call : Call) (key : AdapterKey) (a : AdapterType) : Prop where
  missed : call.Missed
  key_eq : key = call.request.key
  generate_eq : call.generate = .ok a

variable {call : Call} {reply : Reply Granted}

/-- The generator runs where the cache was missed, and what it makes is cached. -/
theorem served_cases (h : Served call.before call.supply call.request reply) :
    (¬ call.Missed ∧ reply.synthesizer.cache = call.before.cache ∧
        reply.synthesizer.generations = call.before.generations) ∨
      (call.Missed ∧ (∃ e, call.generate = .error e) ∧
        reply.synthesizer.cache = call.before.cache ∧
        reply.synthesizer.generations = call.before.generations + 1) ∨
      (call.Missed ∧ ∃ a, call.generate = .ok a ∧
        reply.synthesizer.cache = call.before.cache.store call.request.key a ∧
        reply.synthesizer.generations = call.before.generations + 1) := by
  cases h with
  | refused _ hopen => exact .inl ⟨fun hmissed => by simp [hmissed.2.1] at hopen, rfl, rfl⟩
  | found _ _ a hfound => exact .inl ⟨fun hmissed => by simp [hmissed.2.2] at hfound, rfl, rfl⟩
  | generated hneeds hopen hmiss a hgenerate =>
      exact .inr (.inr ⟨⟨hneeds, hopen, hmiss⟩, a, hgenerate, rfl, rfl⟩)
  | failed hneeds hopen hmiss e hgenerate =>
      exact .inr (.inl ⟨⟨hneeds, hopen, hmiss⟩, ⟨e, hgenerate⟩, rfl, rfl⟩)
  | trusted hneeds | verified hneeds | rejected hneeds =>
      exact .inl ⟨fun hmissed => hneeds hmissed.1, rfl, rfl⟩

/-- After a call the cache holds what it held before and what the call has generated. -/
theorem lookup_iff (h : Served call.before call.supply call.request reply) {key : AdapterKey}
    {a : AdapterType} :
    reply.synthesizer.cache.lookup key = some a ↔
      call.Generated key a ∨ call.before.cache.lookup key = some a := by
  rcases served_cases h with ⟨hmissed, hcache, -⟩ | ⟨-, ⟨e, he⟩, hcache, -⟩ | ⟨hmissed, b, hb, hcache, -⟩
  · rw [hcache, or_iff_right fun hgenerated => hmissed hgenerated.missed]
  · rw [hcache, or_iff_right]
    intro hgenerated
    cases he.symm.trans hgenerated.generate_eq
  · rw [hcache, SlotCache.lookup_store]
    by_cases hkey : key = call.request.key
    · subst hkey
      rw [if_pos rfl, hmissed.2.2]
      constructor
      · rintro ⟨⟩
        exact .inl ⟨hmissed, rfl, hb⟩
      · rintro (hgenerated | hfound)
        · exact congrArg some (Except.ok.inj (hb.symm.trans hgenerated.generate_eq))
        · cases hfound
    · rw [if_neg hkey, or_iff_right fun hgenerated => hkey hgenerated.key_eq]

/-- A call counts as one generation if it missed the cache. -/
theorem generations_eq (h : Served call.before call.supply call.request reply) :
    reply.synthesizer.generations = call.before.generations + if call.Missed then 1 else 0 := by
  rcases served_cases h with ⟨hmissed, -, hcount⟩ | ⟨hmissed, -, -, hcount⟩ | ⟨hmissed, -, -, -, hcount⟩
  · rw [if_neg hmissed]
    exact hcount
  · rw [if_pos hmissed]
    exact hcount
  · rw [if_pos hmissed]
    exact hcount

end Call

/-! ### Cache and counter are those of the log -/

namespace Program

/-- The cache holds what was generated by the logged calls, and the counter counts those that ran the
generator. -/
structure Logged (p : Program) (i : Nat) : Prop where
  lookup_iff : ∀ key a, (p.synthesizers i).cache.lookup key = some a ↔
    ∃ call ∈ p.calls, call.target = i ∧ call.Generated key a
  generations_eq : (p.synthesizers i).generations =
    p.calls.countP fun call => call.target = i ∧ call.Missed

variable {known : Contract → Prop} {storable : AdapterKey → AdapterType → Prop}
  {settings : Nat → Settings} {p p' : Program}

theorem Logged.ask {i : Nat} (h : p.Logged i) {j : Nat} {q : Request}
    (hserved : Served (p.synthesizers j) p.supply q (p.reply j q)) : (p.ask j q).Logged i := by
  let call : Call := ⟨j, q, p.synthesizers j, p.supply⟩
  have hcall : Served call.before call.supply call.request (p.reply j q) := hserved
  by_cases hi : i = j
  · subst hi
    constructor
    · intro key a
      rw [synthesizers_ask_self, Call.lookup_iff hcall]
      show _ ↔ ∃ call' ∈ call :: p.calls, _
      simp only [List.mem_cons, exists_eq_or_imp]
      exact or_congr (by simp [call]) (h.lookup_iff key a)
    · rw [synthesizers_ask_self, Call.generations_eq hcall]
      show _ = List.countP _ (call :: p.calls)
      rw [List.countP_cons, ← h.generations_eq]
      simp [call]
  · have hother : ¬ call.target = i := fun hj => hi hj.symm
    constructor
    · intro key a
      rw [synthesizers_ask_of_ne p hi, h.lookup_iff key a]
      show _ ↔ ∃ call' ∈ call :: p.calls, _
      simp only [List.mem_cons, exists_eq_or_imp]
      exact (or_iff_right fun hcall => hother hcall.1).symm
    · rw [synthesizers_ask_of_ne p hi, h.generations_eq]
      show _ = List.countP _ (call :: p.calls)
      rw [List.countP_cons]
      simp [hother]

/-- Where nothing is put into caches by hand, the log accounts for every cache and every counter. -/
theorem Reachable.logged (hnone : ∀ key a, ¬ storable key a) (h : Reachable known storable settings p)
    (i : Nat) : p.Logged i := by
  induction h with
  | refl =>
      constructor
      · intro key a
        constructor
        · intro hfound
          cases hfound
        · rintro ⟨call, hcall, -⟩
          exact absurd hcall List.not_mem_nil
      · rfl
  | tail hbefore hstep ih =>
      cases hstep with
      | declare draft _ => exact ⟨ih.lookup_iff, ih.generations_eq⟩
      | create t _ => exact ⟨ih.lookup_iff, ih.generations_eq⟩
      | ask j q _ => exact ih.ask ((Reachable.sound hbefore).served j q)
      | generate _ _ _ _ _ a _ => exact ⟨ih.lookup_iff, ih.generations_eq⟩
      | store _ key a _ hstorable => exact absurd hstorable (hnone key a)

end Program

/-! ### What a request comes down to -/

/-- The bindings of an adapter type, for what the requirements are bound to. -/
def bindingsOf (bound : List (Requirement × Member)) : List Binding :=
  bound.map fun (r, m) =>
    { required := r.signature, bound := m.signature, declaredOn := m.declaredOn, owner := r.owner }

/-- For a closed contract the generator fails where the requirements cannot be bound, with the same error. -/
theorem AdapterType.generate_eq_error_iff {settings : Settings} {c : Contract} {t : TypeDescriptor}
    (hopen : c.isOpen = false) {key : TypeKey} {e : SynthesisError} :
    generate settings c t key = .error e ↔ t.resolveAll settings c.requirements = .error e := by
  rw [generate, if_neg (Bool.eq_false_iff.mp hopen)]
  cases t.resolveAll settings c.requirements with
  | ok bound => simp
  | error e' => simp

namespace Request

/-- What a request comes down to under the settings: it is refused, or the requirements cannot be bound, or
they are bound in this way. -/
def verdict (settings : Settings) (q : Request) :
    Except SynthesisError (List (Requirement × Member)) :=
  if q.NeedsAdapter ∧ q.contract.isOpen = true then .error (.openContract q.contract.displayName)
  else q.source.resolveAll settings q.contract.requirements

/-- The reply is the error of the verdict, or what is granted without an adapter type, or it is made with a
cached adapter type whose bindings are those of the verdict. -/
inductive Agrees (q : Request) (reply : Reply Granted) :
    Except SynthesisError (List (Requirement × Member)) → Prop
  | failed (e : SynthesisError) (hresult : reply.result = .error e) : Agrees q reply (.error e)
  | native (bound : List (Requirement × Member)) (hneeds : ¬ q.NeedsAdapter)
      (hresult : reply.result = .ok q.grant) : Agrees q reply (.ok bound)
  | adapter (bound : List (Requirement × Member)) (hneeds : q.NeedsAdapter) (a : AdapterType)
      (supply : Supply) (hused : reply.synthesizer.cache.lookup q.key = some a)
      (hresult : reply.result = .ok (q.fulfil a supply).1) (hbindings : a.bindings = bindingsOf bound) :
      Agrees q reply (.ok bound)

/-- Two replies to a request have the same error, or grant the same without an adapter type, or are made with
adapter types that have the same bindings. -/
inductive Alike (q : Request) (reply reply' : Reply Granted) : Prop
  | failed (e : SynthesisError) (hresult : reply.result = .error e) (hresult' : reply'.result = .error e)
  | native (hneeds : ¬ q.NeedsAdapter) (hresult : reply.result = .ok q.grant)
      (hresult' : reply'.result = .ok q.grant)
  | adapter (hneeds : q.NeedsAdapter) (a a' : AdapterType) (hbindings : a.bindings = a'.bindings)
      (supply supply' : Supply)
      (hused : reply.synthesizer.cache.lookup q.key = some a)
      (hresult : reply.result = .ok (q.fulfil a supply).1)
      (hused' : reply'.synthesizer.cache.lookup q.key = some a')
      (hresult' : reply'.result = .ok (q.fulfil a' supply').1)

variable {q : Request} {reply reply' : Reply Granted}

/-- Replies that agree with one verdict are alike. -/
theorem Agrees.alike {verdict : Except SynthesisError (List (Requirement × Member))}
    (h : q.Agrees reply verdict) (h' : q.Agrees reply' verdict) : q.Alike reply reply' := by
  cases h with
  | failed e hresult =>
      cases h' with
      | failed _ hresult' => exact .failed e hresult hresult'
  | native bound hneeds hresult =>
      cases h' with
      | native _ _ hresult' => exact .native hneeds hresult hresult'
      | adapter _ hneeds' => exact absurd hneeds' hneeds
  | adapter bound hneeds a supply hused hresult hbindings =>
      cases h' with
      | native _ hneeds' => exact absurd hneeds hneeds'
      | adapter _ _ a' supply' hused' hresult' hbindings' =>
          exact .adapter hneeds a a' (hbindings.trans hbindings'.symm) supply supply' hused hresult
            hused' hresult'

end Request

namespace Served

variable {s : Synthesizer} {supply : Supply} {q : Request} {reply : Reply Granted}

/-- A request that fails or needs no adapter type leaves the cached adapter types and the numbers alone. -/
theorem unchanged (h : Served s supply q reply)
    (hcase : ¬ q.NeedsAdapter ∨ ∃ e, reply.result = .error e) :
    reply.synthesizer.cache = s.cache ∧ reply.supply = supply := by
  cases h with
  | refused | failed | trusted | verified | rejected => exact ⟨rfl, rfl⟩
  | found hneeds | generated hneeds =>
      rcases hcase with hneeds' | ⟨e, he⟩
      · exact absurd hneeds hneeds'
      · cases he

/-- Where what is cached and what is taken for verified is right, the reply agrees with the verdict. -/
theorem agrees (h : Served s supply q reply)
    (hcached : ∀ a, s.cache.lookup q.key = some a → ∃ bound,
      q.source.resolveAll s.settings q.contract.requirements = .ok bound ∧
        a.bindings = bindingsOf bound)
    (hverified : q.key ∈ s.verified → ∃ bound,
      q.source.resolveAll s.settings q.contract.requirements = .ok bound) :
    q.Agrees reply (q.verdict s.settings) := by
  have hadapter : q.contract.isOpen = false → q.verdict s.settings =
      q.source.resolveAll s.settings q.contract.requirements :=
    fun hopen => if_neg fun hrefused => by simp [hopen] at hrefused
  have hnative : ¬ q.NeedsAdapter → q.verdict s.settings =
      q.source.resolveAll s.settings q.contract.requirements :=
    fun hneeds => if_neg fun hrefused => hneeds hrefused.1
  cases h with
  | refused hneeds hopen =>
      rw [Request.verdict, if_pos ⟨hneeds, hopen⟩]
      exact .failed _ rfl
  | found hneeds hopen a hfound =>
      obtain ⟨bound, hbound, hbindings⟩ := hcached a hfound
      rw [hadapter hopen, hbound]
      exact .adapter bound hneeds a supply hfound rfl hbindings
  | generated hneeds hopen hmiss a hgenerate =>
      obtain ⟨-, bound, hbound, rfl⟩ := AdapterType.generate_eq_ok_iff.mp hgenerate
      rw [hadapter hopen, hbound]
      refine .adapter bound hneeds _ supply.afterType ?_ rfl rfl
      rw [SlotCache.lookup_store, if_pos rfl]
  | failed hneeds hopen hmiss e hgenerate =>
      rw [hadapter hopen, (AdapterType.generate_eq_error_iff hopen).mp hgenerate]
      exact .failed e rfl
  | trusted hneeds hknown =>
      obtain ⟨bound, hbound⟩ := hverified hknown
      rw [hnative hneeds, hbound]
      exact .native bound hneeds rfl
  | verified hneeds _ bound hbound =>
      rw [hnative hneeds, hbound]
      exact .native bound hneeds rfl
  | rejected hneeds _ e hbound =>
      rw [hnative hneeds, hbound]
      exact .failed e rfl

/-- The reply of a synthesizer that was never asked before agrees with the verdict. -/
theorem agrees_fresh {settings : Settings} (h : Served { settings } supply q reply) :
    q.Agrees reply (q.verdict settings) :=
  h.agrees (fun a hfound => by cases hfound) fun hknown => absurd hknown List.not_mem_nil

end Served

/-! ### A whole run -/

namespace Program

variable {known : Contract → Prop} {storable : AdapterKey → AdapterType → Prop}
  {settings : Nat → Settings} {p : Program}

/-- Where equal identities mean equal requirements, every reply agrees with the verdict. -/
theorem Sound.agrees (h : p.Sound known storable settings) (hnone : ∀ key a, ¬ storable key a)
    (hlaw : ∀ c d, known c → known d → c.id = d.id → c.requirements = d.requirements)
    (i : Nat) {q : Request} (hq : p.CanAsk known q) :
    q.Agrees (p.reply i q) (q.verdict (settings i)) := by
  have hc : known q.contract := hq.known_contract
  have hsource : q.source ∈ p.types := h.source_mem_types hq
  rw [← (h.kept i).settings_eq]
  refine (h.served i q).agrees ?_ ?_
  · intro a hfound
    obtain ⟨hcontract, hid, n, hgenerate⟩ := h.generated_of_lookup hnone hsource hfound
    obtain ⟨-, bound, hbound, ha⟩ := AdapterType.generate_eq_ok_iff.mp hgenerate
    rw [(h.kept i).settings_eq, hlaw _ _ hc hcontract hid.symm]
    exact ⟨bound, hbound, by rw [ha]; rfl⟩
  · intro hknown
    obtain ⟨d, hd, hid, bound, hbound⟩ := h.resolved_of_verified hsource hknown
    rw [(h.kept i).settings_eq, hlaw _ _ hc hd hid.symm]
    exact ⟨bound, hbound⟩

/-- **The whole run of a synthesizer.**  A program uses contracts from a pool, among which equal identities
mean equal requirements, and puts nothing into caches with its own hands.  Whatever it has done, the cache of
each synthesizer holds exactly what was generated by earlier calls, and its counter is the number of the calls
that missed the cache.  Whatever it asks next, a cached adapter type is the answer; a request that fails or needs
no adapter type changes neither cache nor numbers; and the reply is like that of a synthesizer with the same
settings that was never asked before. -/
theorem Reachable.history {pool : ContractPool} (hpool : pool.Reachable)
    (hknown : ∀ c, known c → c ∈ pool.contracts)
    (hlaw : ∀ c d, known c → known d → c.id = d.id → c.requirements = d.requirements)
    (h : Reachable known (fun _ _ => False) settings p) (i : Nat) :
    (∀ key a, (p.synthesizers i).cache.lookup key = some a ↔
        ∃ call ∈ p.calls, call.target = i ∧ call.Generated key a) ∧
      (p.synthesizers i).generations = p.calls.countP (fun call => call.target = i ∧ call.Missed) ∧
      ∀ q, p.CanAsk known q →
        (q.NeedsAdapter → ∀ a, (p.synthesizers i).cache.lookup q.key = some a →
          p.reply i q = ⟨.ok (q.fulfil a p.supply).1, p.synthesizers i, (q.fulfil a p.supply).2⟩) ∧
        ((¬ q.NeedsAdapter ∨ ∃ e, (p.reply i q).result = .error e) →
          (p.reply i q).synthesizer.cache = (p.synthesizers i).cache ∧
            (p.reply i q).supply = p.supply) ∧
        ∀ supply, q.Alike (p.reply i q) (Synthesizer.serve { settings := settings i } supply q) := by
  have hnone : ∀ (key : AdapterKey) (a : AdapterType), ¬ False := fun _ _ => not_false
  have hsound := h.sound
  have hlogged := h.logged hnone i
  refine ⟨hlogged.lookup_iff, hlogged.generations_eq, ?_⟩
  intro q hq
  have hserved := hsound.served i q
  refine ⟨?_, hserved.unchanged, ?_⟩
  · intro hneeds a hfound
    -- The adapter type was generated, so the contract in question is no more open than the one it is for.
    obtain ⟨hcontract, hid, n, hgenerate⟩ :=
      hsound.generated_of_lookup hnone (hsound.source_mem_types hq) hfound
    have hopen : q.contract.isOpen = false := by
      rw [hpool.isOpen_eq (hknown _ hq.known_contract) (hknown _ hcontract) hid.symm]
      exact (AdapterType.generate_eq_ok_iff.mp hgenerate).1
    exact Synthesizer.serve_of_lookup hneeds hopen hfound
  · intro supply
    exact (hsound.agrees hnone hlaw i hq).alike
      (Synthesizer.serve_served SlotCache.filled_empty supply q).agrees_fresh

end Program

/-! ### A program that wraps a clock twice -/

namespace Clock

open Program

/-- The request that is made twice. -/
def question : Request := .wrap ticking clock

/-- The program wraps the clock twice. -/
def twice : Program := (ready.ask 0 question).ask 0 question

theorem reachable_twice : Reachable (· = ticking) (fun _ _ => False) (fun _ => {}) twice := by
  have hready : Reachable (· = ticking) (fun _ _ => False) (fun _ => {}) ready := reachable_ready
  have hfirst := hready.tail (.ask _ 0 question ⟨rfl, List.mem_cons_self⟩)
  refine hfirst.tail (.ask _ 0 question ⟨rfl, ?_⟩)
  exact List.mem_append_right _ List.mem_cons_self

/-- The contracts of the program. -/
def contracts : ContractPool :=
  (ContractPool.initial {}).build { name := "Ticking", members := [.method (Signature.method "tick")] }

theorem reachable_contracts : contracts.Reachable :=
  ⟨{}, .single (.build _ _ (fun _ hp => absurd hp List.not_mem_nil) trivial)⟩

/-- The first call has left an adapter type in the cache, and a third one would be answered with it. -/
theorem reply_twice :
    (twice.synthesizers 0).cache.lookup question.key = some (ticker ⟨2⟩) ∧
      twice.reply 0 question =
        ⟨.ok (question.fulfil (ticker ⟨2⟩) twice.supply).1, twice.synthesizers 0,
          (question.fulfil (ticker ⟨2⟩) twice.supply).2⟩ := by
  have hhistory := Reachable.history reachable_contracts
    (fun c (hc : c = ticking) => hc ▸ List.mem_cons_self)
    (fun c d (hc : c = ticking) (hd : d = ticking) _ => by rw [hc, hd]) reachable_twice 0
  have hfound : (twice.synthesizers 0).cache.lookup question.key = some (ticker ⟨2⟩) :=
    (hhistory.1 question.key _).mpr
      ⟨_, List.mem_cons_of_mem _ List.mem_cons_self, rfl,
        ⟨⟨trivial, rfl, rfl⟩, rfl, generate_ticker ⟨2⟩⟩⟩
  have hasked : twice.CanAsk (· = ticking) question :=
    ⟨rfl, List.mem_append_right _ (List.mem_append_right _ List.mem_cons_self)⟩
  exact ⟨hfound, (hhistory.2.2 question hasked).1 trivial _ hfound⟩

end Clock

end StructuralAdapters
