import Mathlib.Data.List.Nodup
import StructuralAdapters.Adapter
import StructuralAdapters.Proofs.Levels

/-!
# How requirements are bound

* `Signature.accepts_iff` — a candidate satisfies a required signature if both have one name, one generic
  arity and the same parameters, up to modes that share a flag;
* `Contract.nodup_keys_requirements` — a contract requires no structural key twice;
* `TypeDescriptor.resolveAll_eq_ok_iff` — binding succeeds if each requirement has a single candidate;
* `AdapterType.generate_eq_ok_iff` — what an adapter type consists of;
* `AdapterType.member?_ofBound` — which member of an adapter a call finds.
-/

namespace StructuralAdapters

/-! ### Accepted candidates -/

namespace Signature

variable {strict : Bool} {required candidate : Signature}

/-- In either mode the generic arities have to be equal. -/
theorem arityFits_iff :
    (MatchMode.of required).arityFits required candidate = true ↔
      candidate.genericArity = required.genericArity := by
  unfold MatchMode.of
  by_cases hgeneric : required.isGeneric = true
  · rw [if_pos hgeneric]
    simp [MatchMode.arityFits]
  · rw [if_neg hgeneric]
    have hrequired : required.generics = [] := by simpa [isGeneric] using hgeneric
    simp [MatchMode.arityFits, isGeneric, genericArity, hrequired]

/-- Parameters agree one by one if the keys list the same parameters. -/
theorem agrees_iff {ps qs : List Param} :
    (qs.length = ps.length ∧ (ps.zip qs).all (fun (p, q) => p.agrees q) = true) ↔
      qs.map (fun p => (p.mode.isByRef, p.shape)) = ps.map fun p => (p.mode.isByRef, p.shape) := by
  induction ps generalizing qs with
  | nil => simp
  | cons p ps ih =>
      cases qs with
      | nil => simp
      | cons q qs =>
          rw [List.map_cons, List.map_cons, List.cons.injEq, ← ih]
          simp only [List.length_cons, List.zip_cons_cons, List.all_cons, Bool.and_eq_true,
            Param.agrees, beq_iff_eq, Prod.mk.injEq, Nat.add_right_cancel_iff]
          constructor
          · rintro ⟨hlength, ⟨hflag, hshape⟩, hall⟩
            exact ⟨⟨hflag.symm, hshape.symm⟩, hlength, hall⟩
          · rintro ⟨⟨hflag, hshape⟩, hlength, hall⟩
            exact ⟨hlength, ⟨hflag.symm, hshape.symm⟩, hall⟩

/-- **When a candidate is accepted.** -/
theorem accepts_iff : required.accepts strict candidate = true ↔
    candidate.name = required.name ∧ candidate.genericArity = required.genericArity ∧
      candidate.key.params = required.key.params ∧
      (strict = true → candidate.returns = required.returns) := by
  simp only [accepts, Bool.and_eq_true, beq_iff_eq, arityFits_iff, Bool.or_eq_true,
    Bool.not_eq_true', key, ← agrees_iff]
  constructor
  · rintro ⟨⟨⟨⟨hname, hlength⟩, harity⟩, hall⟩, hreturns⟩
    refine ⟨hname, harity, ⟨hlength, hall⟩, ?_⟩
    intro hstrict
    exact (hreturns.resolve_left (by simp [hstrict])).symm
  · rintro ⟨hname, harity, ⟨hlength, hall⟩, hreturns⟩
    refine ⟨⟨⟨⟨hname, hlength⟩, harity⟩, hall⟩, ?_⟩
    cases strict with
    | false => exact .inl rfl
    | true => exact .inr (hreturns rfl).symm

/-- An accepted candidate has the structural identity of the requirement. -/
theorem key_eq_of_accepts (h : required.accepts strict candidate = true) :
    candidate.key = required.key := by
  obtain ⟨hname, harity, hparams, -⟩ := accepts_iff.mp h
  have hkey : candidate.key.arity = required.key.arity := congrArg UInt16.ofNat harity
  cases hc : candidate.key with
  | mk name arity params =>
      cases hr : required.key with
      | mk name' arity' params' =>
          rw [hc, hr] at hkey hparams
          have hname' : name = name' := by
            rw [show name = candidate.key.name from (congrArg SignatureKey.name hc).symm,
              show name' = required.key.name from (congrArg SignatureKey.name hr).symm]
            exact hname
          rw [hname', show arity = arity' from hkey, show params = params' from hparams]

end Signature

/-! ### Look-ups without repetition -/

/-- Where no key is repeated an element is the first one with its key. -/
theorem find?_of_nodup {α κ : Type} [DecidableEq κ] {key : α → κ} {l : List α}
    (h : (l.map key).Nodup) {a : α} (ha : a ∈ l) : l.find? (fun b => key b = key a) = some a := by
  cases hfound : l.find? fun b => key b = key a with
  | none =>
      rw [List.find?_eq_none] at hfound
      exact absurd (decide_eq_true rfl) (hfound a ha)
  | some b =>
      have hkey : key b = key a := by simpa using List.find?_some hfound
      rw [List.inj_on_of_nodup_map h (List.mem_of_find?_eq_some hfound) ha hkey]

/-- Where keys are not repeated, a filter that goes by key leaves one element. -/
theorem filter_of_nodup {α κ : Type} {key : α → κ} {l : List α} (h : (l.map key).Nodup) {a : α}
    (ha : a ∈ l) {p : α → Bool} (hp : ∀ b ∈ l, p b = true ↔ key b = key a) : l.filter p = [a] := by
  induction l with
  | nil => exact absurd ha List.not_mem_nil
  | cons b l ih =>
      obtain ⟨hb, hl⟩ := List.nodup_cons.mp h
      have hhead := hp b List.mem_cons_self
      have htail : ∀ b' ∈ l, p b' = true ↔ key b' = key a :=
        fun b' hb' => hp b' (List.mem_cons_of_mem _ hb')
      rcases List.mem_cons.mp ha with rfl | ha
      · rw [List.filter_cons_of_pos (hhead.mpr rfl), List.cons.injEq, List.filter_eq_nil_iff]
        refine ⟨rfl, ?_⟩
        intro b' hb' hp'
        exact hb (List.mem_map.mpr ⟨b', hb', (htail b' hb').mp hp'⟩)
      · rw [List.filter_cons_of_neg]
        · exact ih hl ha htail
        · intro hp'
          exact hb (List.mem_map.mpr ⟨a, ha, (hhead.mp hp').symm⟩)

/-! ### Requirements -/

/-- What is kept has different keys. -/
theorem nodup_map_keepFirst {α κ : Type} [DecidableEq κ] (key : α → κ) (seen : List κ) (l : List α) :
    ((keepFirst key seen l).map key).Nodup := by
  induction l generalizing seen with
  | nil => exact List.nodup_nil
  | cons a rest ih =>
      rw [keepFirst]
      split
      · exact ih seen
      · rw [List.map_cons, List.nodup_cons]
        refine ⟨?_, ih _⟩
        intro hmem
        exact (mem_map_keepFirst.mp hmem).2 List.mem_cons_self

/-- Where keys are not repeated, everything is kept. -/
theorem keepFirst_eq_self {α κ : Type} [DecidableEq κ] {key : α → κ} {seen : List κ} {l : List α}
    (hkeys : (l.map key).Nodup) (hnew : ∀ a ∈ l, key a ∉ seen) : keepFirst key seen l = l := by
  induction l generalizing seen with
  | nil => rfl
  | cons a rest ih =>
      obtain ⟨ha, hrest⟩ := List.nodup_cons.mp hkeys
      rw [keepFirst, if_neg (hnew a List.mem_cons_self), ih hrest]
      intro b hb hseen
      rcases List.mem_cons.mp hseen with heq | hseen
      · exact ha (List.mem_map.mpr ⟨b, hb, heq⟩)
      · exact hnew b (List.mem_cons_of_mem a hb) hseen

/-- A contract that extends nothing and declares no structural key twice requires what it declares. -/
theorem Contract.requirements_of_root {c : Contract} (hparents : c.parents = [])
    (hkeys : (c.members.map Signature.key).Nodup) : c.requirements = c.declared := by
  have hexpanded : breadthFirst [] [c] = [c] := by
    rw [breadthFirst, if_neg List.not_mem_nil, hparents, List.append_nil, breadthFirst]
  have hdeclared : (c.declared.map Requirement.key).Nodup := by
    rw [declared, List.map_map]
    exact hkeys
  rw [requirements, hexpanded, List.flatMap_singleton, firstOfEachKey_eq_keepFirst]
  exact keepFirst_eq_self hdeclared fun _ _ => List.not_mem_nil

/-- A contract requires no structural key twice. -/
theorem Contract.nodup_keys_requirements (c : Contract) :
    (c.requirements.map Requirement.key).Nodup := by
  rw [Contract.requirements, firstOfEachKey_eq_keepFirst]
  exact nodup_map_keepFirst _ _ _

/-! ### Binding -/

namespace TypeDescriptor

variable {source : TypeDescriptor} {strict : Bool}

/-- A requirement's only candidate is a member that matches it. -/
theorem accepts_of_candidates {required : Signature} {m : Member}
    (h : source.candidates strict required = [m]) :
    m ∈ source.members ∧ required.accepts strict m.signature = true :=
  List.mem_filter.mp (h ▸ List.mem_cons_self : m ∈ source.candidates strict required)

/-- A requirement is bound to its only candidate. -/
theorem resolve_eq_ok_iff {r : Requirement} {m : Member} :
    source.resolve strict r = .ok m ↔ source.candidates strict r.signature = [m] := by
  unfold resolve
  cases hc : source.candidates strict r.signature with
  | nil => simp
  | cons m' rest =>
      cases rest with
      | nil => simp
      | cons m'' rest => simp

theorem resolveEach_eq_iff {rs : List Requirement} {bound : List (Requirement × Member)} :
    source.resolveEach strict rs = (bound, []) ↔
      bound.map (·.1) = rs ∧ ∀ p ∈ bound, source.candidates strict p.1.signature = [p.2] := by
  induction rs generalizing bound with
  | nil =>
      simp only [resolveEach, Prod.mk.injEq, and_true, List.map_eq_nil_iff]
      constructor
      · rintro rfl
        exact ⟨rfl, fun p hp => absurd hp List.not_mem_nil⟩
      · intro h
        exact h.1.symm
  | cons r rs ih =>
      rw [resolveEach]
      rcases hrest : source.resolveEach strict rs with ⟨others, failures⟩
      cases hr : source.resolve strict r with
      | error e =>
          simp only [Prod.mk.injEq, reduceCtorEq, and_false, false_iff]
          rintro ⟨hmap, hbound⟩
          cases bound with
          | nil => cases hmap
          | cons p bound =>
              obtain ⟨rfl, -⟩ := List.cons.inj hmap
              have hok := resolve_eq_ok_iff.mpr (hbound p List.mem_cons_self)
              cases hr.symm.trans hok
      | ok m =>
          simp only [Prod.mk.injEq]
          constructor
          · rintro ⟨rfl, rfl⟩
            obtain ⟨hmap, hbound⟩ := ih.mp hrest
            refine ⟨by rw [List.map_cons, hmap], List.forall_mem_cons.mpr ⟨?_, hbound⟩⟩
            exact resolve_eq_ok_iff.mp hr
          · rintro ⟨hmap, hbound⟩
            cases bound with
            | nil => cases hmap
            | cons p bound =>
                obtain ⟨hhead, htail⟩ := List.cons.inj hmap
                obtain ⟨hp, hbound⟩ := List.forall_mem_cons.mp hbound
                have hsame := hrest.symm.trans (ih.mpr ⟨htail, hbound⟩)
                obtain ⟨rfl, rfl⟩ := Prod.mk.inj hsame
                rw [← resolve_eq_ok_iff, show p.1 = r from hhead, hr] at hp
                obtain ⟨p₁, p₂⟩ := p
                exact ⟨by rw [Except.ok.inj hp, show p₁ = r from hhead], rfl⟩

/-- **Binding succeeds if each requirement has a single candidate**, and then binds each to it. -/
theorem resolveAll_eq_ok_iff {settings : Settings} {rs : List Requirement}
    {bound : List (Requirement × Member)} :
    source.resolveAll settings rs = .ok bound ↔
      bound.map (·.1) = rs ∧
        ∀ p ∈ bound, source.candidates settings.strictReturns p.1.signature = [p.2] := by
  rw [← resolveEach_eq_iff, resolveAll]
  rcases source.resolveEach settings.strictReturns rs with ⟨bound', failures⟩
  cases failures with
  | nil => simp
  | cons e failures => simp

/-- In a table without repeated keys a member is found by its key. -/
theorem member?_of_nodup {t : TypeDescriptor} (h : (t.members.map Member.key).Nodup) {m : Member}
    (hm : m ∈ t.members) : t.member? m.key = some m := by
  have hreverse : (t.members.reverse.map Member.key).Nodup := by
    rw [List.map_reverse]
    exact List.nodup_reverse.mpr h
  exact find?_of_nodup hreverse (List.mem_reverse.mpr hm)

/-- A key that some member has is found, at a member that has it. -/
theorem exists_member?_eq {t : TypeDescriptor} {m : Member} (hm : m ∈ t.members) :
    ∃ m' ∈ t.members, m'.key = m.key ∧ t.member? m.key = some m' := by
  cases hfound : t.member? m.key with
  | some m' =>
      have hkey : m'.key = m.key := by simpa using List.find?_some hfound
      exact ⟨m', List.mem_reverse.mp (List.mem_of_find?_eq_some hfound), hkey, rfl⟩
  | none =>
      unfold member? at hfound
      rw [List.find?_eq_none] at hfound
      exact absurd (decide_eq_true rfl) (hfound m (List.mem_reverse.mpr hm))

/-- A requirement's only candidate is the only member with its signature. -/
theorem filter_signature_of_candidates {required : Signature} {m : Member}
    (h : source.candidates strict required = [m]) :
    source.members.filter (fun m' => m'.signature = m.signature) = [m] := by
  have haccepts : required.accepts strict m.signature = true := (accepts_of_candidates h).2
  have hfilter : source.members.filter (fun m' => m'.signature = m.signature) =
      (source.candidates strict required).filter fun m' => m'.signature = m.signature := by
    rw [candidates, List.filter_filter]
    apply List.filter_congr
    intro m' _
    by_cases heq : m'.signature = m.signature
    · simp [heq, haccepts]
    · simp [heq]
  rw [hfilter, h]
  simp

end TypeDescriptor

namespace AdapterType

/-- **What an adapter type is generated from**: a single candidate for each requirement. -/
theorem generate_eq_ok_iff {settings : Settings} {c : Contract} {source : TypeDescriptor}
    {key : TypeKey} {a : AdapterType} :
    generate settings c source key = .ok a ↔
      c.isOpen = false ∧ ∃ bound, source.resolveAll settings c.requirements = .ok bound ∧
        a = ofBound (nameFor settings c source) key c source bound := by
  unfold generate
  cases hopen : c.isOpen with
  | true => simp
  | false =>
      cases source.resolveAll settings c.requirements with
      | error e => simp
      | ok bound => simp [eq_comm]

/-- What a generated adapter type knows about itself. -/
theorem of_generate_eq_ok {settings : Settings} {c : Contract} {source : TypeDescriptor}
    {key : TypeKey} {a : AdapterType} (h : generate settings c source key = .ok a) :
    a.contract = c ∧ a.source = source ∧ a.descriptor.key = key := by
  obtain ⟨-, bound, -, rfl⟩ := generate_eq_ok_iff.mp h
  exact ⟨rfl, rfl, rfl⟩

/-- **Which member a call finds.**  An adapter has one member for each requirement, which forwards to
what the requirement was bound to. -/
theorem member?_ofBound {name : String} {key : TypeKey} {c : Contract} {source : TypeDescriptor}
    {bound : List (Requirement × Member)} (hbound : bound.map (·.1) = c.requirements)
    {p : Requirement × Member} (hp : p ∈ bound) :
    (ofBound name key c source bound).descriptor.member? p.1.key =
      some ⟨p.1.signature, .forward p.2.body, name⟩ := by
  have hkeys : (ofBound name key c source bound).descriptor.members.map Member.key =
      c.requirements.map Requirement.key := by
    rw [← hbound]
    simp only [ofBound, List.map_map]
    rfl
  have hnodup := c.nodup_keys_requirements
  rw [← hkeys] at hnodup
  exact TypeDescriptor.member?_of_nodup hnodup (List.mem_map.mpr ⟨p, hp, rfl⟩)

end AdapterType

end StructuralAdapters
