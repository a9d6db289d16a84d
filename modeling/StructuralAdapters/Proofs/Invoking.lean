import StructuralAdapters.Proofs.Flattening
import StructuralAdapters.Proofs.NativePath
import StructuralAdapters.Proofs.Program

/-!
# Calls on the values that a synthesizer hands out

A value that was handed out answers every call that its contract allows.  What can be wrong with a call is wrong
with the call itself, and is found before anything runs.

* `Contracted.Admits`, `Contracted.Refuses` — the calls that pass the checks, and the first check that the others
  fail;
* `Contracted.target` — what a call runs, with `Contracted.check_eq_ok_iff` and `Contracted.check_eq_error_iff`;
* `Object.Callable` — every member of the object's type leads to a member of the source object behind it;
* `Program.Reachable.target_iff` — on a value that was handed out a call runs a member exactly if it is admitted;
* `Clock.unbound_after_store` — an adapter type that was stored under the key of another contract spoils this.

## Two tables

The checks read the requirements of the contract, and the call is looked up in the table of the object's type.
An adapter type's table was made from the requirements of the contract that it was generated for, and the table of
a source type was checked against those of the contract that it was verified for.  In both cases it is enough that
the contract in question has the same identity, if equal identities mean equal requirements.
-/

namespace StructuralAdapters

/-! ### The checks before a call -/

namespace Contracted

variable {k : Contracted} {s : Signature} {inv : Invocation} {e : CallError}

/-- The contract requires a member with the structural key of `s`. -/
def Requires (k : Contracted) (s : Signature) : Prop := ∃ r ∈ k.contract.requirements, r.key = s.key

/-- Each of the first `n` arguments is passed as its parameter says. -/
def AgreeBelow (n : Nat) (params : List Param) (args : List Arg) : Prop :=
  ∀ i < n, ∀ p a, params[i]? = some p → args[i]? = some a → a.isByRef = p.mode.isByRef

/-- The call is one that the contract allows. -/
structure Admits (k : Contracted) (s : Signature) (inv : Invocation) : Prop where
  requires : k.Requires s
  count : inv.args.length = s.params.length
  modes : AgreeBelow s.params.length s.params inv.args
  generics : inv.typeArgs.length = s.genericArity

/-- The call fails a check, and `e` is the error of the first that it fails. -/
inductive Refuses (k : Contracted) (s : Signature) (inv : Invocation) : CallError → Prop
  | member (hrequires : ¬ k.Requires s) :
      Refuses k s inv (.noSuchMember k.contract.displayName s.display)
  | count (hrequires : k.Requires s) (hcount : inv.args.length ≠ s.params.length) :
      Refuses k s inv (.arityMismatch s.display s.params.length inv.args.length)
  | mode (hrequires : k.Requires s) (hcount : inv.args.length = s.params.length) (i : Nat)
      (hbelow : AgreeBelow i s.params inv.args) (p : Param) (a : Arg) (hp : s.params[i]? = some p)
      (ha : inv.args[i]? = some a) (hmode : a.isByRef ≠ p.mode.isByRef) :
      Refuses k s inv (.passModeMismatch s.display i p.mode)
  | generics (hrequires : k.Requires s) (hcount : inv.args.length = s.params.length)
      (hmodes : AgreeBelow s.params.length s.params inv.args)
      (hgenerics : inv.typeArgs.length ≠ s.genericArity) :
      Refuses k s inv (.genericArityMismatch s.display s.genericArity inv.typeArgs.length)

theorem requires_iff :
    k.Requires s ↔ (k.contract.requirements.any fun r => r.key = s.key) = true := by
  simp [Requires, List.any_eq_true]

theorem agreeBelow_cons {n : Nat} {p : Param} {a : Arg} {params : List Param} {args : List Arg} :
    AgreeBelow (n + 1) (p :: params) (a :: args) ↔
      a.isByRef = p.mode.isByRef ∧ AgreeBelow n params args := by
  constructor
  · intro h
    exact ⟨h 0 (Nat.succ_pos n) p a rfl rfl,
      fun i hi q b hq hb => h (i + 1) (Nat.succ_lt_succ hi) q b hq hb⟩
  · rintro ⟨hhead, htail⟩ i hi q b hq hb
    cases i with
    | zero =>
        cases hq
        cases hb
        exact hhead
    | succ i => exact htail i (Nat.lt_of_succ_lt_succ hi) q b hq hb

/-- Arguments that are all passed as they should be pass the check. -/
theorem checkModes_of_agree {member : String} {params : List Param} {args : List Arg}
    (h : AgreeBelow params.length params args) (index : Nat) :
    checkModes member index params args = .ok () := by
  induction params generalizing args index with
  | nil => rfl
  | cons p params ih =>
      cases args with
      | nil => rfl
      | cons a args =>
          obtain ⟨hhead, htail⟩ := agreeBelow_cons.mp h
          rw [checkModes, if_pos hhead]
          exact ih htail (index + 1)

/-- The first argument that is not passed as it should be is the one that is reported. -/
theorem checkModes_of_first {member : String} {params : List Param} {args : List Arg} {i : Nat}
    (hbelow : AgreeBelow i params args) {p : Param} {a : Arg} (hp : params[i]? = some p)
    (ha : args[i]? = some a) (hmode : a.isByRef ≠ p.mode.isByRef) (index : Nat) :
    checkModes member index params args = .error (.passModeMismatch member (index + i) p.mode) := by
  induction i generalizing params args index with
  | zero =>
      cases params with
      | nil => cases hp
      | cons q params =>
          cases args with
          | nil => cases ha
          | cons b args =>
              cases hp
              cases ha
              rw [checkModes, if_neg hmode]
              rfl
  | succ i ih =>
      cases params with
      | nil => cases hp
      | cons q params =>
          cases args with
          | nil => cases ha
          | cons b args =>
              obtain ⟨hhead, htail⟩ := agreeBelow_cons.mp hbelow
              rw [checkModes, if_pos hhead, ih htail hp ha (index + 1), Nat.add_assoc, Nat.add_comm 1]

theorem agree_or_first (params : List Param) (args : List Arg) :
    AgreeBelow params.length params args ∨
      ∃ i p a, AgreeBelow i params args ∧ params[i]? = some p ∧ args[i]? = some a ∧
        a.isByRef ≠ p.mode.isByRef := by
  induction params generalizing args with
  | nil => exact .inl fun i hi => absurd hi (Nat.not_lt_zero i)
  | cons p params ih =>
      cases args with
      | nil => exact .inl fun i _ q b _ hb => by cases hb
      | cons a args =>
          by_cases hhead : a.isByRef = p.mode.isByRef
          · rcases ih args with htail | ⟨i, q, b, hbelow, hq, hb, hmode⟩
            · exact .inl (agreeBelow_cons.mpr ⟨hhead, htail⟩)
            · exact .inr ⟨i + 1, q, b, agreeBelow_cons.mpr ⟨hhead, hbelow⟩, hq, hb, hmode⟩
          · exact .inr ⟨0, p, a, fun i hi => absurd hi (Nat.not_lt_zero i), rfl, rfl, hhead⟩

/-- Every call is admitted or fails a first check. -/
theorem admits_or_refuses (k : Contracted) (s : Signature) (inv : Invocation) :
    k.Admits s inv ∨ ∃ e, k.Refuses s inv e := by
  by_cases hrequires : k.Requires s
  · by_cases hcount : inv.args.length = s.params.length
    · rcases agree_or_first s.params inv.args with hmodes | ⟨i, p, a, hbelow, hp, ha, hmode⟩
      · by_cases hgenerics : inv.typeArgs.length = s.genericArity
        · exact .inl ⟨hrequires, hcount, hmodes, hgenerics⟩
        · exact .inr ⟨_, .generics hrequires hcount hmodes hgenerics⟩
      · exact .inr ⟨_, .mode hrequires hcount i hbelow p a hp ha hmode⟩
    · exact .inr ⟨_, .count hrequires hcount⟩
  · exact .inr ⟨_, .member hrequires⟩

/-- Where the contract has the member and the number of arguments is right, a wrong mode is reported. -/
theorem check_of_modes_eq_error (hrequires : k.Requires s) (hcount : inv.args.length = s.params.length)
    (hmodes : checkModes s.display 0 s.params inv.args = .error e) : k.check s inv = .error e := by
  simp [check, requires_iff.mp hrequires, hcount, hmodes]

/-- If the modes are right too, only the number of type arguments is left. -/
theorem check_of_modes_eq_ok (hrequires : k.Requires s) (hcount : inv.args.length = s.params.length)
    (hmodes : checkModes s.display 0 s.params inv.args = .ok ()) :
    k.check s inv =
      if inv.typeArgs.length ≠ s.genericArity then
        .error (.genericArityMismatch s.display s.genericArity inv.typeArgs.length)
      else .ok () := by
  simp [check, requires_iff.mp hrequires, hcount, hmodes]

theorem Admits.check_eq (h : k.Admits s inv) : k.check s inv = .ok () := by
  rw [check_of_modes_eq_ok h.requires h.count (checkModes_of_agree h.modes 0)]
  exact if_neg (not_not.mpr h.generics)

theorem Refuses.check_eq (h : k.Refuses s inv e) : k.check s inv = .error e := by
  cases h with
  | member hrequires =>
      have hany := Bool.eq_false_iff.mpr (mt requires_iff.mpr hrequires)
      simp [check, hany]
  | count hrequires hcount =>
      simp [check, requires_iff.mp hrequires, hcount]
  | mode hrequires hcount i hbelow p a hp ha hmode =>
      refine check_of_modes_eq_error hrequires hcount ?_
      rw [checkModes_of_first hbelow hp ha hmode, Nat.zero_add]
  | generics hrequires hcount hmodes hgenerics =>
      rw [check_of_modes_eq_ok hrequires hcount (checkModes_of_agree hmodes 0)]
      exact if_pos hgenerics

/-- A call passes the checks exactly if the contract allows it. -/
theorem check_eq_ok_iff : k.check s inv = .ok () ↔ k.Admits s inv := by
  constructor
  · intro hok
    rcases admits_or_refuses k s inv with hadmits | ⟨e, hrefuses⟩
    · exact hadmits
    · cases hrefuses.check_eq.symm.trans hok
  · exact Admits.check_eq

/-- The error is that of the first check that the call fails. -/
theorem check_eq_error_iff : k.check s inv = .error e ↔ k.Refuses s inv e := by
  constructor
  · intro herror
    rcases admits_or_refuses k s inv with hadmits | ⟨e', hrefuses⟩
    · cases hadmits.check_eq.symm.trans herror
    · obtain rfl := Except.error.inj (hrefuses.check_eq.symm.trans herror)
      exact hrefuses
  · exact Refuses.check_eq

/-! ### What a call runs -/

/-- What a call of the contract's member with exactly this signature runs. -/
def target (k : Contracted) (s : Signature) (inv : Invocation) : Except CallError Target :=
  match k.check s inv with
  | .ok () => k.object.targetOf s
  | .error e => .error e

/-- A call finds its target and then runs it. -/
theorem invoke_eq_ofTarget (w : World) : k.invoke s inv w = .ofTarget (k.target s inv) inv w := by
  unfold invoke target
  cases k.check s inv <;> rfl

theorem Admits.target_eq (h : k.Admits s inv) : k.target s inv = k.object.targetOf s := by
  rw [target, h.check_eq]

theorem target_eq_ok_iff {t : Target} :
    k.target s inv = .ok t ↔ k.Admits s inv ∧ k.object.targetOf s = .ok t := by
  rcases k.admits_or_refuses s inv with hadmits | ⟨e, hrefuses⟩
  · rw [hadmits.target_eq, and_iff_right hadmits]
  · have hcheck := hrefuses.check_eq
    rw [← check_eq_ok_iff, target, hcheck]
    simp

theorem target_eq_error_iff :
    k.target s inv = .error e ↔
      k.Refuses s inv e ∨ (k.Admits s inv ∧ k.object.targetOf s = .error e) := by
  rw [← check_eq_ok_iff, ← check_eq_error_iff, target]
  cases k.check s inv <;> simp

end Contracted

/-! ### Callable objects -/

namespace Object

/-- The source object behind any number of adapters. -/
def bottom : Object → Object
  | source identity type => source identity type
  | adapter _ _ real => real.bottom

/-- The target is that of a member of the source object behind the object. -/
def Runs (o : Object) (t : Target) : Prop :=
  ∃ m ∈ o.bottom.type.members, m.target o.bottom.receiver = .ok t

/-- Every member of the object's type leads to a member of the source object behind it. -/
def Callable (o : Object) : Prop :=
  ∀ m ∈ o.type.members, ∃ t, m.target o.receiver = .ok t ∧ o.Runs t

variable {o : Object}

/-- Instances of declared types are callable. -/
theorem callable_source {t : TypeDescriptor} (ht : t.Declared) (identity : Nat) :
    (source identity t).Callable := by
  intro m hm
  obtain ⟨behaviour, part, harrives⟩ := ht.exists_arrives hm identity
  have htarget : m.target (source identity t).receiver = .ok ⟨behaviour, identity, part⟩ :=
    Member.target_of_arrives harrives
  exact ⟨_, htarget, m, hm, htarget⟩

/-- An adapter instance around a callable object is callable: its members forward to members that are. -/
theorem Callable.instantiate (ho : o.Callable) {settings : Settings} {c : Contract} {key : TypeKey}
    {a : AdapterType} (hgenerate : AdapterType.generate settings c o.type key = .ok a) (identity : Nat) :
    (a.instantiate identity o).Callable := by
  obtain ⟨-, bound, hbound, rfl⟩ := AdapterType.generate_eq_ok_iff.mp hgenerate
  obtain ⟨-, hcandidates⟩ := TypeDescriptor.resolveAll_eq_ok_iff.mp hbound
  intro m hm
  obtain ⟨b, hb, rfl⟩ := List.mem_map.mp hm
  exact ho b.2 (TypeDescriptor.accepts_of_candidates (hcandidates b hb)).1

/-- On a callable object each key of its table finds something to run. -/
theorem Callable.exists_targetOf (ho : o.Callable) {m : Member} (hm : m ∈ o.type.members) {s : Signature}
    (hkey : m.key = s.key) : ∃ t, o.targetOf s = .ok t ∧ o.Runs t := by
  obtain ⟨m', hm', -, hfound⟩ := TypeDescriptor.exists_member?_eq hm
  rw [hkey] at hfound
  rw [targetOf, hfound]
  exact ho m' hm'

end Object

/-! ### Values that were handed out -/

/-- The key is that of the contract and the source type that the adapter type was generated for. -/
def AdapterType.Fits (key : AdapterKey) (a : AdapterType) : Prop := key = .of a.contract a.source

/-- Contracts that require the same signatures require the same keys. -/
theorem Contract.exists_key_eq {c d : Contract} (h : c.signatures = d.signatures) {r : Requirement}
    (hr : r ∈ c.requirements) : ∃ r' ∈ d.requirements, r'.key = r.key := by
  have hmem : r.signature ∈ d.signatures := h ▸ List.mem_map.mpr ⟨r, hr, rfl⟩
  obtain ⟨r', hr', heq⟩ := List.mem_map.mp hmem
  exact ⟨r', hr', congrArg Signature.key heq⟩

/-- A type that satisfies a contract has a member with the key of each requirement. -/
theorem TypeDescriptor.exists_member_of_resolveAll {t : TypeDescriptor} {settings : Settings}
    {rs : List Requirement} {bound : List (Requirement × Member)}
    (h : t.resolveAll settings rs = .ok bound) {r : Requirement} (hr : r ∈ rs) :
    ∃ m ∈ t.members, m.key = r.key := by
  obtain ⟨hmap, hcandidates⟩ := resolveAll_eq_ok_iff.mp h
  obtain ⟨b, hb, rfl⟩ := List.mem_map.mp (hmap ▸ hr)
  obtain ⟨hm, haccepts⟩ := accepts_of_candidates (hcandidates b hb)
  exact ⟨b.2, hm, Signature.key_eq_of_accepts haccepts⟩

/-- An adapter type has a member with the key of each requirement of its contract. -/
theorem AdapterType.exists_member_of_generate {settings : Settings} {c : Contract} {t : TypeDescriptor}
    {key : TypeKey} {a : AdapterType} (h : generate settings c t key = .ok a) {r : Requirement}
    (hr : r ∈ c.requirements) : ∃ m ∈ a.descriptor.members, m.key = r.key := by
  obtain ⟨-, bound, hbound, rfl⟩ := generate_eq_ok_iff.mp h
  obtain ⟨hmap, -⟩ := TypeDescriptor.resolveAll_eq_ok_iff.mp hbound
  obtain ⟨b, hb, rfl⟩ := List.mem_map.mp (hmap ▸ hr)
  exact ⟨_, List.mem_map.mpr ⟨b, hb, rfl⟩, rfl⟩

namespace Program

variable {known : Contract → Prop} {settings : Nat → Settings} {p p' : Program}

/-- What was made with a cached adapter type is an instance of one that was generated for the type in question,
and for a contract with the identity in question. -/
theorem Sound.fitting_of_lookup (h : p.Sound known AdapterType.Fits settings) {i : Nat} {c : Contract}
    {t : TypeDescriptor} (ht : t ∈ p.types) {a : AdapterType}
    (hfound : (p.synthesizers i).cache.lookup (.of c t) = some a) :
    known a.contract ∧ a.contract.id = c.id ∧
      ∃ settings key, AdapterType.generate settings a.contract t key = .ok a := by
  obtain ⟨ha, hplaced⟩ := (h.kept i).cached _ a hfound
  have hkey : AdapterKey.of c t = .of a.contract a.source := by
    rcases hplaced with hfits | ⟨hkey, -⟩
    · exact hfits
    · exact hkey
  obtain ⟨hid, rfl⟩ := h.eq_of_key_eq ha ht hkey
  exact ⟨(h.genuine a ha).1, hid, (h.genuine a ha).2.2⟩

/-- **Every object of a program is callable**, if adapter types are stored only under keys that they fit. -/
theorem Reachable.callable (h : Reachable known AdapterType.Fits settings p) :
    ∀ o ∈ p.objects, o.Callable := by
  induction h with
  | refl =>
      intro o ho
      exact absurd ho List.not_mem_nil
  | @tail p _ hbefore hstep ih =>
      have hsound : p.Sound known AdapterType.Fits settings := Reachable.sound hbefore
      cases hstep with
      | declare | generate | store => exact ih
      | create t ht =>
          intro o ho
          rcases List.mem_cons.mp ho with rfl | ho
          · exact Object.callable_source (hsound.declared t ht) _
          · exact ih o ho
      | ask i q hq =>
          intro o ho
          rcases List.mem_append.mp ho with ho | ho
          · obtain ⟨k, hk, rfl⟩ := Reply.mem_objects ho
            have hafter := hsound.ask (i := i) hq
            obtain ⟨-, o, ho, htype, ⟨a, identity, ha, hobject⟩ | ⟨-, rfl⟩⟩ := hsound.value_cases hq hk
            · obtain ⟨-, -, _, _, hgenerate⟩ :=
                hafter.fitting_of_lookup (hsound.source_mem_ask hq) ha
              rw [hobject]
              exact (ih o ho).instantiate (htype ▸ hgenerate) identity
            · exact ih _ ho
          · exact ih o ho

/-- The type of an object that was handed out has a member for each requirement. -/
theorem Reachable.exists_member (hlaw : ∀ c d, known c → known d → c.id = d.id → c.signatures = d.signatures)
    (h : Reachable known AdapterType.Fits settings p) {i : Nat} {q : Request} (hq : p.CanAsk known q)
    {k : Contracted} (hk : (p.reply i q).result = .ok (.value k)) {r : Requirement}
    (hr : r ∈ k.contract.requirements) : ∃ m ∈ k.object.type.members, m.key = r.key := by
  have hafter := h.sound.ask (i := i) hq
  have hsource := h.sound.source_mem_ask (i := i) hq
  obtain ⟨hcontract, o, ho, htype, ⟨a, identity, ha, hobject⟩ | ⟨hkey, hobject⟩⟩ :=
    h.sound.value_cases hq hk
  · obtain ⟨hknown, hid, _, _, hgenerate⟩ := hafter.fitting_of_lookup hsource ha
    have hsame := hlaw _ _ hq.known_contract hknown hid.symm
    obtain ⟨r', hr', hkey⟩ := Contract.exists_key_eq hsame (hcontract ▸ hr)
    rw [hobject, ← hkey]
    exact AdapterType.exists_member_of_generate hgenerate hr'
  · obtain ⟨d, hknown, hid, bound, hbound⟩ := hafter.resolved_of_verified hsource hkey
    have hsame := hlaw _ _ hq.known_contract hknown hid.symm
    obtain ⟨r', hr', hkey⟩ := Contract.exists_key_eq hsame (hcontract ▸ hr)
    rw [hobject, htype, ← hkey]
    exact TypeDescriptor.exists_member_of_resolveAll hbound hr'

/-- **What is wrong with a call is found before anything runs.**  A program stores adapter types only under keys
that they fit, and among the contracts that it knows equal identities mean equal requirements.  On every value
that is handed out to it a call has something to run exactly if the contract allows the call; it runs one member
of the source object behind the value, once, and the outcome is that of the member.  Any other call is refused
with the error of the first check that it fails, which is never that a member is unbound, and changes nothing. -/
theorem Reachable.target_iff
    (hlaw : ∀ c d, known c → known d → c.id = d.id → c.signatures = d.signatures)
    (h : Reachable known AdapterType.Fits settings p) {i : Nat} {q : Request} (hq : p.CanAsk known q)
    {k : Contracted} (hk : (p.reply i q).result = .ok (.value k)) (s : Signature) (inv : Invocation) :
    ((∃ t, k.target s inv = .ok t) ↔ k.Admits s inv) ∧
      (∀ t, k.target s inv = .ok t →
        k.object.Runs t ∧ ∀ w, t.RunsOnce inv w (k.invoke s inv w)) ∧
      (∀ e, k.target s inv = .error e ↔ k.Refuses s inv e) ∧
      (∀ type member, k.target s inv ≠ .error (.unbound type member)) ∧
      ∀ w, k.invoke s inv w =
        match k.target s inv with
        | .ok t => t.run inv w
        | .error e => ⟨.error (.misuse e), inv.args, w⟩ := by
  have hafter : Reachable known AdapterType.Fits settings (p.ask i q) := h.tail (.ask p i q hq)
  have hcallable : k.object.Callable := by
    refine hafter.callable _ (List.mem_append_left _ ?_)
    unfold Reply.objects
    rw [hk]
    exact List.mem_singleton_self _
  have hfound : k.Admits s inv → ∃ t, k.object.targetOf s = .ok t ∧ k.object.Runs t := by
    intro hadmits
    obtain ⟨r, hr, hkey⟩ := hadmits.requires
    obtain ⟨m, hm, hmkey⟩ := h.exists_member hlaw hq hk hr
    exact hcallable.exists_targetOf hm (hmkey.trans hkey)
  have herror : ∀ e, k.target s inv = .error e ↔ k.Refuses s inv e := by
    intro e
    rw [Contracted.target_eq_error_iff, or_iff_left]
    rintro ⟨hadmits, he⟩
    obtain ⟨t, ht, -⟩ := hfound hadmits
    cases he.symm.trans ht
  refine ⟨⟨?_, ?_⟩, ?_, herror, ?_, ?_⟩
  · rintro ⟨t, ht⟩
    exact (Contracted.target_eq_ok_iff.mp ht).1
  · intro hadmits
    obtain ⟨t, ht, -⟩ := hfound hadmits
    exact ⟨t, Contracted.target_eq_ok_iff.mpr ⟨hadmits, ht⟩⟩
  · intro t ht
    refine ⟨?_, ?_⟩
    · obtain ⟨hadmits, ht⟩ := Contracted.target_eq_ok_iff.mp ht
      obtain ⟨t', ht', hruns⟩ := hfound hadmits
      obtain rfl := Except.ok.inj (ht.symm.trans ht')
      exact hruns
    · intro w
      rw [Contracted.invoke_eq_ofTarget]
      exact Outcome.runsOnce_ofTarget ht inv w
  · intro type member hunbound
    cases (herror _).mp hunbound
  · intro w
    rw [Contracted.invoke_eq_ofTarget]
    cases k.target s inv <;> rfl

end Program

/-! ### Clocks -/

namespace Clock

open Program

/-- The contracts of the clock programs. -/
def Known (c : Contract) : Prop := c = ticking ∨ c = ringing

theorem eq_of_id_eq {c d : Contract} (hc : Known c) (hd : Known d) (hid : c.id = d.id) : c = d := by
  rcases hc with rfl | rfl
  · rcases hd with rfl | rfl
    · rfl
    · cases hid
  · rcases hd with rfl | rfl
    · cases hid
    · rfl

/-- A call of the only member that is required. -/
theorem admits_requiring (handle : Nat) (name member : String) (o : Object) :
    (Contracted.mk (requiring handle name member) o).Admits (Signature.method member) ⟨[], []⟩ where
  requires := by
    refine ⟨⟨name, Signature.method member⟩, ?_, rfl⟩
    rw [requirements_requiring]
    exact List.mem_singleton_self _
  count := rfl
  modes := fun i hi => absurd hi (Nat.not_lt_zero i)
  generics := rfl

/-- What wrapping the clock as a ticking one hands out. -/
def wrapped : Contracted := ⟨ticking, (ticker ⟨2⟩).instantiate 1 clock⟩

theorem reply_ready : (ready.reply 0 (.wrap ticking clock)).result = .ok (.value wrapped) := by
  unfold reply
  rw [Synthesizer.serve_of_needsAdapter (Request.needsAdapter_wrap _ _),
    Synthesizer.adapterFor_of_ok rfl rfl (generate_ticker ⟨2⟩)]
  rfl

/-- The wrapped clock ticks, once. -/
theorem target_wrapped : ∃ t, wrapped.target (Signature.method "tick") ⟨[], []⟩ = .ok t ∧
    wrapped.object.Runs t ∧
      ∀ w, t.RunsOnce ⟨[], []⟩ w (wrapped.invoke (Signature.method "tick") ⟨[], []⟩ w) := by
  have hasked : ready.CanAsk Known (.wrap ticking clock) := ⟨.inl rfl, List.mem_cons_self⟩
  obtain ⟨hiff, hruns, -⟩ := Reachable.target_iff
    (fun c d hc hd hid => congrArg Contract.signatures (eq_of_id_eq hc hd hid))
    reachable_ready hasked reply_ready (Signature.method "tick") ⟨[], []⟩
  obtain ⟨t, ht⟩ := hiff.mpr (admits_requiring 0 "Ticking" "tick" _)
  exact ⟨t, ht, hruns t ht⟩

/-- The program stores the adapter type for ticking clocks under the key of ringing ones. -/
def misplaced : Program :=
  (ready.generate (ticker ⟨2⟩)).store 0 (.of ringing type) (ticker ⟨2⟩)

theorem reachable_misplaced : Reachable Known (fun _ _ => True) (fun _ => {}) misplaced := by
  have hready : Reachable Known (fun _ _ => True) (fun _ => {}) ready := reachable_ready
  have hgenerated := hready.tail (.generate _ {} ticking (.inl rfl) type List.mem_cons_self _
    (generate_ticker ⟨2⟩))
  exact hgenerated.tail (.store _ 0 _ _ List.mem_cons_self trivial)

/-- What wrapping the clock as a ringing one hands out then. -/
def mute : Contracted := ⟨ringing, (ticker ⟨2⟩).instantiate 1 clock⟩

theorem reply_misplaced : (misplaced.reply 0 (.wrap ringing clock)).result = .ok (.value mute) := by
  have hfound : (misplaced.synthesizers 0).cache.lookup (.of ringing type) = some (ticker ⟨2⟩) := by
    show (SlotCache.store _ _ _).lookup _ = _
    rw [SlotCache.lookup_store, if_pos rfl]
  unfold reply
  rw [Synthesizer.serve_of_lookup (Request.needsAdapter_wrap _ _) rfl hfound]
  rfl

theorem targetOf_mute : mute.object.targetOf (Signature.method "ring") =
    .error (.unbound (ticker ⟨2⟩).descriptor.name (Signature.method "ring").display) := rfl

theorem genericArity_of_known {c : Contract} (hc : Known c) {r : Requirement}
    (hr : r ∈ c.requirements) : r.signature.genericArity = 0 := by
  have hrequiring : ∃ handle name member, c = requiring handle name member := by
    rcases hc with rfl | rfl
    · exact ⟨_, _, _, rfl⟩
    · exact ⟨_, _, _, rfl⟩
  obtain ⟨_, _, _, rfl⟩ := hrequiring
  rw [requirements_requiring] at hr
  obtain rfl := List.mem_singleton.mp hr
  rfl

theorem genericArity_misplaced : ∀ t ∈ misplaced.types, ∀ m ∈ t.members,
    m.signature.genericArity = 0 := by
  decide

/-- If adapter types may be stored under any key, a call that the contract allows can find nothing to run. -/
theorem unbound_after_store : ¬ ∀ (known : Contract → Prop) (settings : Nat → Settings) (p : Program),
    (∀ c d, known c → known d → c.id = d.id → c.requirements = d.requirements) →
    (∀ c, known c → ∀ r ∈ c.requirements, r.signature.genericArity < 65536) →
    (∀ t ∈ p.types, ∀ m ∈ t.members, m.signature.genericArity < 65536) →
    Reachable known (fun _ _ => True) settings p →
      ∀ i q (k : Contracted), p.CanAsk known q → (p.reply i q).result = .ok (.value k) →
        ∀ s inv, s.genericArity < 65536 → k.Admits s inv → ∃ t, k.target s inv = .ok t := by
  intro hall
  obtain ⟨t, ht⟩ := hall Known (fun _ => {}) misplaced
    (fun c d hc hd hid => congrArg Contract.requirements (eq_of_id_eq hc hd hid))
    (fun c hc r hr => by rw [genericArity_of_known hc hr]; exact Nat.succ_pos _)
    (fun t ht m hm => by rw [genericArity_misplaced t ht m hm]; exact Nat.succ_pos _)
    reachable_misplaced 0 (.wrap ringing clock) mute ⟨.inr rfl, List.mem_cons_self⟩ reply_misplaced
    (Signature.method "ring") ⟨[], []⟩ (Nat.succ_pos _) (admits_requiring 1 "Ringing" "ring" _)
  obtain ⟨-, ht⟩ := Contracted.target_eq_ok_iff.mp ht
  cases targetOf_mute.symm.trans ht

end Clock

end StructuralAdapters
