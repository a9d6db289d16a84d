import StructuralAdapters.Proofs.Keys
import StructuralAdapters.Proofs.Wrapping

/-!
# The native path and the adapter path

An object whose type declares a contract is not wrapped but used as it is.  Wrapped all the same, it would
be called through an adapter.

* `Object.FindsBound` — calling a requirement by its structural key runs the member to which the
  requirement is bound;
* `Synthesizer.native_agrees_iff_findsBound` — both paths run the same exactly if this is so;
* `Object.findsBound_of_nodup`, `Object.findsBound_of_not_strict` — where it is always so;
* `Synthesizer.native_path_differs` — where it is not.

## Two ways to find a member

An adapter is bound by matching, which in strict mode looks at the returned shape.  A call without an
adapter looks for the structural key, which leaves the returned shape out, and of several members with one
key it takes the last.
-/

namespace StructuralAdapters

/-- Calling a requirement by its structural key runs the member to which it is bound: the same behaviour, on
the same part of the same instance. -/
def Object.FindsBound (o : Object) (strict : Bool) (c : Contract) : Prop :=
  ∀ r ∈ c.requirements, ∀ m, o.type.resolve strict r = .ok m →
    o.targetOf r.signature = m.target o.receiver

/-! ### Where the two ways meet -/

/-- In a table without repeated keys a call finds the bound member. -/
theorem Object.findsBound_of_nodup {o : Object} (h : (o.type.members.map Member.key).Nodup)
    (strict : Bool) (c : Contract) : o.FindsBound strict c := by
  intro r _ m hm
  obtain ⟨hmem, haccepts⟩ :=
    TypeDescriptor.accepts_of_candidates (TypeDescriptor.resolve_eq_ok_iff.mp hm)
  have hkey : m.key = r.signature.key := Signature.key_eq_of_accepts haccepts
  rw [Object.targetOf, ← hkey, TypeDescriptor.member?_of_nodup h hmem]

/-- Without strict mode a call finds the bound member, as long as no member has so many generic parameters
that their number is cut off in its key. -/
theorem Object.findsBound_of_not_strict {o : Object} {c : Contract}
    (hmembers : ∀ m ∈ o.type.members, m.signature.genericArity < 65536)
    (hrequired : ∀ r ∈ c.requirements, r.signature.genericArity < 65536) : o.FindsBound false c := by
  intro r hr m hm
  have hcandidates := TypeDescriptor.resolve_eq_ok_iff.mp hm
  obtain ⟨hmem, haccepts⟩ := TypeDescriptor.accepts_of_candidates hcandidates
  have hkey : m.key = r.signature.key := Signature.key_eq_of_accepts haccepts
  -- Every member with the key is a candidate, so the bound one is the only one.
  have honly : ∀ m' ∈ o.type.members, r.signature.key = m'.key → m' = m := by
    intro m' hm' hkey'
    have harity : r.signature.genericArity = m'.signature.genericArity :=
      Signature.genericArity_eq_of_key_eq (hrequired r hr) (hmembers m' hm') hkey'
    have hmem' : m' ∈ o.type.candidates false r.signature :=
      List.mem_filter.mpr ⟨hm', Signature.accepts_false_iff.mpr ⟨hkey', harity⟩⟩
    rw [hcandidates] at hmem'
    exact List.mem_singleton.mp hmem'
  obtain ⟨m', hm', hkey', hfound⟩ := TypeDescriptor.exists_member?_eq hmem
  rw [honly m' hm' (hkey'.trans hkey).symm, hkey] at hfound
  rw [Object.targetOf, hfound]

namespace Synthesizer

variable {s : Synthesizer} {o : Object} {c : Contract}

/-! ### Comparing the paths -/

/-- The native path is taken only where every requirement can be bound. -/
theorem exists_bound_of_coerce (hverified : s.verified = []) (hnative : o.type.implements c.id = true)
    {supply : Supply} {k : Contracted} (hcoerce : (s.coerce c o supply).result = .ok k) :
    ∃ bound, o.type.resolveAll s.settings c.requirements = .ok bound := by
  rw [coerce, if_pos hnative, verifyNative, hverified, if_neg List.not_mem_nil] at hcoerce
  cases hbound : o.type.resolveAll s.settings c.requirements with
  | error e =>
      rw [hbound] at hcoerce
      cases hcoerce
  | ok bound => exact ⟨bound, rfl⟩

/-- On the adapter around an object a call by a required key runs the member that is bound. -/
theorem targetOf_adapter {name : String} {key : TypeKey} {bound : List (Requirement × Member)}
    (hmap : bound.map (·.1) = c.requirements) {p : Requirement × Member} (hp : p ∈ bound)
    (identity : Nat) {sig : Signature} (hkey : p.1.key = sig.key) :
    ((AdapterType.ofBound name key c o.type bound).instantiate identity o).targetOf sig =
      p.2.target o.receiver := by
  have hfound : (AdapterType.ofBound name key c o.type bound).descriptor.member? p.1.key = _ :=
    AdapterType.member?_ofBound hmap hp
  rw [hkey] at hfound
  rw [Object.targetOf, show ((AdapterType.ofBound name key c o.type bound).instantiate identity
    o).type.member? sig.key = _ from hfound]
  rfl

/-- On the object itself a call by a required key runs what the requirement's own signature runs. -/
theorem targetOf_of_key {strict : Bool} {r : Requirement} {m : Member}
    (hm : o.type.candidates strict r.signature = [m]) {sig : Signature} (hkey : r.key = sig.key) :
    o.targetOf sig = o.targetOf r.signature := by
  obtain ⟨hmem, haccepts⟩ := List.mem_filter.mp
    (hm ▸ List.mem_cons_self : m ∈ o.type.candidates strict r.signature)
  have hmkey : m.key = r.signature.key := Signature.key_eq_of_accepts haccepts
  obtain ⟨m', -, -, hfound⟩ := TypeDescriptor.exists_member?_eq hmem
  rw [hmkey] at hfound
  unfold Object.targetOf
  rw [← hkey, Requirement.key, hfound]

/-- Values typed as one contract whose objects run the same for each required key behave the same. -/
theorem invoke_congr {o o' : Object} {c : Contract}
    (h : ∀ sig : Signature, (∃ r ∈ c.requirements, r.key = sig.key) → o.targetOf sig = o'.targetOf sig)
    (sig : Signature) (inv : Invocation) (w : World) :
    Contracted.invoke ⟨c, o⟩ sig inv w = Contracted.invoke ⟨c, o'⟩ sig inv w := by
  have hcheck : Contracted.check ⟨c, o⟩ sig inv = Contracted.check ⟨c, o'⟩ sig inv := rfl
  unfold Contracted.invoke
  rw [hcheck]
  cases hresult : Contracted.check ⟨c, o'⟩ sig inv with
  | error e => rfl
  | ok _ =>
      -- A call that passes the checks is one of a required key.
      have hrequired : ∃ r ∈ c.requirements, r.key = sig.key := by
        by_contra hnone
        have hany : c.requirements.any (fun r => r.key = sig.key) = false := by
          rw [List.any_eq_false]
          intro r hr heq
          exact hnone ⟨r, hr, of_decide_eq_true heq⟩
        rw [Contracted.check] at hresult
        simp only [hany] at hresult
        cases hresult
      show Object.dispatch o sig inv w = Object.dispatch o' sig inv w
      unfold Object.dispatch
      rw [h sig hrequired]

/-- Where every requirement can be bound, the object can be wrapped, and the wrapped object runs the bound
members on the object inside. -/
theorem exists_wrapped (hcache : s.cache = {}) (hopen : c.isOpen = false)
    {bound : List (Requirement × Member)}
    (hbound : o.type.resolveAll s.settings c.requirements = .ok bound) (supply : Supply) :
    ∃ wrapped : Object, (s.wrap c o supply).result = .ok ⟨c, wrapped⟩ ∧
      ∀ p ∈ bound, ∀ sig : Signature, p.1.key = sig.key →
        wrapped.targetOf sig = p.2.target o.receiver := by
  have hgenerate : AdapterType.generate s.settings c o.type supply.typeKey =
      .ok (.ofBound (AdapterType.nameFor s.settings c o.type) supply.typeKey c o.type bound) :=
    AdapterType.generate_eq_ok_iff.mpr ⟨hopen, bound, hbound, rfl⟩
  obtain ⟨identity, hwrap⟩ := wrap_fresh hcache hgenerate
  obtain ⟨hmap, -⟩ := TypeDescriptor.resolveAll_eq_ok_iff.mp hbound
  exact ⟨_, hwrap, fun p hp sig hkey => targetOf_adapter hmap hp identity hkey⟩

/-- **The native path agrees with the adapter path exactly where calls find the bound members.**  If an
object is used as it is, then it can be wrapped as well.  The two run the same for every required key, and
no call by signature can tell them apart, if and only if each requirement is found as it is bound. -/
theorem native_agrees_iff_findsBound (hverified : s.verified = []) (hopen : c.isOpen = false)
    (hnative : o.type.implements c.id = true) {supply : Supply}
    (hcoerce : (s.coerce c o supply).result = .ok ⟨c, o⟩) {t : Synthesizer}
    (hsettings : t.settings = s.settings) (hcache : t.cache = {}) (supply' : Supply) :
    ∃ wrapped : Object, (t.wrap c o supply').result = .ok ⟨c, wrapped⟩ ∧
      (o.FindsBound s.settings.strictReturns c ↔
        (∀ sig : Signature, (∃ r ∈ c.requirements, r.key = sig.key) →
          o.targetOf sig = wrapped.targetOf sig) ∧
        ∀ sig inv w,
          Contracted.invoke ⟨c, o⟩ sig inv w = Contracted.invoke ⟨c, wrapped⟩ sig inv w) := by
  obtain ⟨bound, hbound⟩ := exists_bound_of_coerce hverified hnative hcoerce
  obtain ⟨hmap, hcandidates⟩ := TypeDescriptor.resolveAll_eq_ok_iff.mp hbound
  obtain ⟨wrapped, hwrap, htarget⟩ := exists_wrapped hcache hopen (hsettings ▸ hbound) supply'
  refine ⟨wrapped, hwrap, ?_, ?_⟩
  · intro hfinds
    have hsame : ∀ sig : Signature, (∃ r ∈ c.requirements, r.key = sig.key) →
        o.targetOf sig = wrapped.targetOf sig := by
      rintro sig ⟨r, hr, hkey⟩
      obtain ⟨p, hp, rfl⟩ := List.mem_map.mp (hmap ▸ hr)
      rw [targetOf_of_key (hcandidates p hp) hkey, htarget p hp sig hkey]
      exact hfinds p.1 hr p.2 (TypeDescriptor.resolve_eq_ok_iff.mpr (hcandidates p hp))
    exact ⟨hsame, invoke_congr hsame⟩
  · rintro ⟨hsame, -⟩ r hr m hm
    obtain ⟨p, hp, rfl⟩ := List.mem_map.mp (hmap ▸ hr)
    obtain rfl : p.2 = m := by
      have hcandidate := TypeDescriptor.resolve_eq_ok_iff.mp hm
      rw [hcandidates p hp] at hcandidate
      exact (List.cons.inj hcandidate).1
    rw [hsame p.1.signature ⟨p.1, hr, rfl⟩, htarget p hp p.1.signature rfl]

end Synthesizer

/-! ### Overloads that differ in what they return -/

namespace Overloads

/-- `Parse(string)` with the given returned shape. -/
def parse (returns : Shape) : Signature :=
  { Signature.method "Parse" with params := [⟨.string, .value⟩], returns }

/-- A contract that requires the overload with a whole number. -/
def numeric : Contract :=
  { handle := 0, id := ⟨1, []⟩, name := "Numeric", typeParams := [], parents := []
    members := [parse .int] }

/-- A source type with both overloads, which declares the contract.  The one with a whole number stands
first. -/
def reader : TypeDescriptor :=
  TypeDraft.build
    { name := "Reader", contracts := [numeric]
      members :=
        [.method (parse .int) [.produce (.int 1)], .method (parse .float) [.produce (.int 2)]] } ⟨1⟩

theorem requirements_numeric : numeric.requirements = [⟨"Numeric", parse .int⟩] :=
  Contract.requirements_of_root rfl (List.nodup_singleton _)

theorem resolve_parse : reader.resolve true ⟨"Numeric", parse .int⟩ =
    .ok ⟨parse .int, .own ⟨1⟩ (.script [.produce (.int 1)]), "Reader"⟩ := rfl

theorem implements_numeric : reader.implements numeric.id = true :=
  TypeDescriptor.implements_of_mem List.mem_cons_self

theorem declared_reader : reader.Declared :=
  .of_draft _ _ nofun

/-- A synthesizer in strict mode that has not been asked before. -/
def strict : Synthesizer := { settings := { strictReturns := true } }

/-- In strict mode the requirement is bound to the overload with a whole number. -/
theorem resolveAll_numeric : reader.resolveAll strict.settings numeric.requirements =
    .ok [(⟨"Numeric", parse .int⟩,
      ⟨parse .int, .own ⟨1⟩ (.script [.produce (.int 1)]), "Reader"⟩)] := by
  rw [requirements_numeric]
  rfl

theorem coerce_reader (identity : Nat) (supply : Supply) :
    (strict.coerce numeric (.source identity reader) supply).result =
      .ok ⟨numeric, .source identity reader⟩ := by
  have hnative : (Object.source identity reader).type.implements numeric.id = true :=
    implements_numeric
  have hbound : (Object.source identity reader).type.resolveAll strict.settings
      numeric.requirements = _ := resolveAll_numeric
  rw [Synthesizer.coerce, if_pos hnative, Synthesizer.verifyNative,
    if_neg (show _ ∉ strict.verified from List.not_mem_nil), hbound]

/-- A call by the structural key runs the overload that stands last. -/
theorem targetOf_reader (identity : Nat) : (Object.source identity reader).targetOf (parse .int) =
    .ok ⟨.script [.produce (.int 2)], identity, reader.key⟩ := rfl

/-- The requirement is not found as it is bound. -/
theorem not_findsBound_reader : ¬ (Object.source 0 reader).FindsBound true numeric := by
  intro hfinds
  have hsame := hfinds ⟨"Numeric", parse .int⟩ (requirements_numeric ▸ List.mem_cons_self) _
    resolve_parse
  rw [show (Object.source 0 reader).targetOf _ = _ from targetOf_reader 0] at hsame
  have hbehaviour := congrArg Target.behaviour (Except.ok.inj hsame)
  simp at hbehaviour

/-- The two paths differ for the reader. -/
theorem paths_differ_reader : ∃ wrapped : Object,
    (strict.wrap numeric (.source 0 reader) {}).result = .ok ⟨numeric, wrapped⟩ ∧
      ¬ ((∀ sig : Signature, (∃ r ∈ numeric.requirements, r.key = sig.key) →
          (Object.source 0 reader).targetOf sig = wrapped.targetOf sig) ∧
        ∀ sig inv w, Contracted.invoke ⟨numeric, .source 0 reader⟩ sig inv w =
          Contracted.invoke ⟨numeric, wrapped⟩ sig inv w) := by
  have hnative : (Object.source 0 reader).type.implements numeric.id = true := implements_numeric
  obtain ⟨wrapped, hwrap, hiff⟩ := Synthesizer.native_agrees_iff_findsBound (s := strict)
    (t := strict) rfl rfl hnative (coerce_reader 0 {}) rfl rfl {}
  exact ⟨wrapped, hwrap, fun hagree => not_findsBound_reader (hiff.mpr hagree)⟩

/-- **The native path is no substitute for the adapter in strict mode**: here the one returns 2 and the
other 1. -/
theorem native_path_differs : ¬ ∀ (s : Synthesizer) (type : TypeDescriptor) (identity : Nat)
    (c : Contract) (supply supply' : Supply), s.cache = {} → s.verified = [] → type.Declared →
    c.isOpen = false → type.implements c.id = true →
    (s.coerce c (.source identity type) supply).result = .ok ⟨c, .source identity type⟩ →
      ∃ k : Contracted, (s.wrap c (.source identity type) supply').result = .ok k ∧
        ∀ sig inv w, Contracted.invoke ⟨c, .source identity type⟩ sig inv w = k.invoke sig inv w := by
  intro hclaim
  obtain ⟨k, hk, hsame⟩ := hclaim strict reader 0 numeric {} {} rfl rfl declared_reader rfl
    implements_numeric (coerce_reader 0 {})
  have hbound : (Object.source 0 reader).type.resolveAll strict.settings numeric.requirements = _ :=
    resolveAll_numeric
  obtain ⟨wrapped, hwrap, htarget⟩ := Synthesizer.exists_wrapped (s := strict) rfl rfl hbound {}
  obtain rfl : k = ⟨numeric, wrapped⟩ := Except.ok.inj (hk.symm.trans hwrap)
  let inv : Invocation := ⟨[], [.byValue (.text "1")]⟩
  have hcheck : ∀ o, Contracted.check ⟨numeric, o⟩ (parse .int) inv = .ok () := by
    intro o
    rw [Contracted.check, requirements_numeric]
    rfl
  have hinvoke := hsame (parse .int) inv {}
  unfold Contracted.invoke at hinvoke
  rw [hcheck, hcheck] at hinvoke
  have hnative : (Object.source 0 reader).targetOf (parse .int) = _ := targetOf_reader 0
  have hadapter := htarget _ List.mem_cons_self (parse .int) rfl
  have hresult : (Except.ok (.int 2) : Except Failure Value) = .ok (.int 1) := by
    have hrun := congrArg Outcome.result hinvoke
    unfold Object.dispatch at hrun
    rw [hnative, hadapter] at hrun
    exact hrun
  simp at hresult

end Overloads

end StructuralAdapters
