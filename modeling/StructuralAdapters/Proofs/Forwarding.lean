import StructuralAdapters.Proofs.Wrapping

/-!
# Calls through stacks of adapters

Adapters can be wrapped in their turn.  A call on the uppermost object of a stack runs one member of the
source type at the bottom, and nothing of the layers in between can be seen in the outcome.

* `Stack` — any number of layers over an object;
* `reached` — the signature to which the bindings of the layers lead;
* `Stack.dispatch_eq_call` — dispatching a requirement on the stack is calling the member that is reached.

## What an adapter's member knows

A member of an adapter holds the body of the member that it was bound to.  It does not look that member up
again when it is called, so each layer adds one `forward` in front of a body and changes nothing else.
-/

namespace StructuralAdapters

/-! ### Layers -/

/-- `o` is what repeated wrapping has made of `x`; the adapters stand with the uppermost first. -/
inductive Stack (x : Object) : List AdapterType → Object → Prop
  | bottom : Stack x [] x
  | layer {a : AdapterType} {layers : List AdapterType} {below above : Object}
      (hbelow : Stack x layers below) (hwrapping : Wrapping a below above) :
      Stack x (a :: layers) above

/-- The signature to which the recorded bindings lead, from the uppermost adapter down. -/
def reached : List AdapterType → Signature → Option Signature
  | [], s => some s
  | a :: layers, s =>
      (a.bindings.find? fun b => b.required = s).bind fun b => reached layers b.bound

/-- The binding of a requirement is the one that was recorded under its signature. -/
theorem find?_bindings {name : String} {key : TypeKey} {c : Contract} {source : TypeDescriptor}
    {bound : List (Requirement × Member)} (hbound : bound.map (·.1) = c.requirements)
    {p : Requirement × Member} (hp : p ∈ bound) :
    (AdapterType.ofBound name key c source bound).bindings.find?
        (fun b => b.required = p.1.signature) =
      some ⟨p.1.signature, p.2.signature, p.2.declaredOn, p.1.owner⟩ := by
  have hnodup : ((AdapterType.ofBound name key c source bound).bindings.map Binding.required).Nodup := by
    have hkeys := c.nodup_keys_requirements
    rw [← hbound] at hkeys
    apply List.Nodup.of_map Signature.key
    simp only [AdapterType.ofBound, List.map_map] at hkeys ⊢
    exact hkeys
  exact find?_of_nodup hnodup (List.mem_map.mpr ⟨p, hp, rfl⟩)

/-! ### What a stack runs -/

/-- **One member below.**  Each member of the uppermost type stands for one member of the type at the
bottom, the one to which the bindings lead, and runs what that one runs.  Where there is a layer, it is the
only member with its signature. -/
theorem Stack.exists_member {x o : Object} {layers : List AdapterType} (h : Stack x layers o)
    {m' : Member} (hm' : m' ∈ o.type.members)
    (hunique : layers = [] → o.type.members.filter (fun m => m.signature = m'.signature) = [m']) :
    ∃ m ∈ x.type.members, x.type.members.filter (fun n => n.signature = m.signature) = [m] ∧
      reached layers m'.signature = some m.signature ∧
        m'.body.target o.receiver = m.body.target x.receiver := by
  induction h generalizing m' with
  | bottom => exact ⟨m', hm', hunique rfl, rfl, rfl⟩
  | @layer a layers below above hbelow hwrapping ih =>
      obtain ⟨identity, rfl⟩ := hwrapping.exists_eq_adapter
      obtain ⟨name, key, strict, bound, ha, hmap, hcandidates⟩ := hwrapping.exists_bound
      generalize a.contract = c at ha hmap
      subst ha
      obtain ⟨p, hp, rfl⟩ := List.mem_map.mp hm'
      -- The binding records the member whose body the adapter's member holds.
      have hcandidate := hcandidates p hp
      have hbound : p.2 ∈ below.type.members :=
        (List.mem_filter.mp (hcandidate ▸ List.mem_cons_self :
          p.2 ∈ below.type.candidates strict p.1.signature)).1
      obtain ⟨m, hm, honly, hreached, htarget⟩ :=
        ih hbound fun _ => TypeDescriptor.filter_signature_of_candidates hcandidate
      refine ⟨m, hm, honly, ?_, ?_⟩
      · show (List.find? _ _).bind _ = _
        rw [find?_bindings hmap hp]
        exact hreached
      · show Body.target (.forward p.2.body) (.holder below) = _
        rw [Body.target, htarget]

/-- A requirement of the uppermost contract is found in the uppermost type. -/
theorem Stack.exists_member?_eq {x o : Object} {a : AdapterType} {layers : List AdapterType}
    (h : Stack x (a :: layers) o) {r : Requirement} (hr : r ∈ a.contract.requirements) :
    ∃ m' ∈ o.type.members, m'.signature = r.signature ∧ o.type.member? r.key = some m' := by
  cases h with
  | layer hbelow hwrapping =>
      obtain ⟨identity, rfl⟩ := hwrapping.exists_eq_adapter
      obtain ⟨name, key, strict, bound, ha, hmap, -⟩ := hwrapping.exists_bound
      generalize a.contract = c at ha hmap hr
      subst ha
      obtain ⟨p, hp, rfl⟩ := List.mem_map.mp (hmap ▸ hr)
      exact ⟨_, List.mem_map.mpr ⟨p, hp, rfl⟩, rfl, AdapterType.member?_ofBound hmap hp⟩

/-- **Transparent forwarding.**  Dispatching a requirement of the uppermost contract on a stack of
adapters over an instance of a declared type runs, once and with the same invocation, the one member to
which the recorded bindings lead, on that instance: result, arguments and world afterwards are those of
calling the member directly. -/
theorem Stack.dispatch_eq_call {identity : Nat} {type : TypeDescriptor} (htype : type.Declared)
    {a : AdapterType} {layers : List AdapterType} {o : Object}
    (h : Stack (.source identity type) (a :: layers) o) {r : Requirement}
    (hr : r ∈ a.contract.requirements) :
    ∃ m behaviour part,
      type.members.filter (fun n => n.signature = m.signature) = [m] ∧
      reached (a :: layers) r.signature = some m.signature ∧
      m.target (.part identity type.key) = .ok ⟨behaviour, identity, part⟩ ∧
      ∀ inv w,
        o.dispatch r.signature inv w = m.call (.source identity type) inv w ∧
        m.call (.source identity type) inv w = Target.run ⟨behaviour, identity, part⟩ inv w ∧
        Target.RunsOnce ⟨behaviour, identity, part⟩ inv w (o.dispatch r.signature inv w) := by
  -- The call finds a member of the uppermost type, which stands for one of the source type.
  obtain ⟨m', hm', hsignature, hfound⟩ := h.exists_member?_eq hr
  obtain ⟨m, hm, honly, hreached, htarget⟩ :=
    h.exists_member hm' fun hnil => absurd hnil (List.cons_ne_nil a layers)
  obtain ⟨behaviour, part, harrives⟩ := htype.exists_arrives hm identity
  have hown : m.target (.part identity type.key) = .ok ⟨behaviour, identity, part⟩ :=
    Member.target_of_arrives harrives
  have hdispatch : o.targetOf r.signature = m.target (.part identity type.key) := by
    rw [Object.targetOf, show o.type.member? r.signature.key = some m' from hfound]
    show (m'.body.target o.receiver).mapError _ = _
    rw [htarget]
    rfl
  refine ⟨m, behaviour, part, honly, hsignature ▸ hreached, hown, fun inv w => ⟨?_, ?_, ?_⟩⟩
  · rw [Object.dispatch, hdispatch]
    rfl
  · rw [Member.call, show m.target (Object.source identity type).receiver = _ from hown]
    rfl
  · exact Outcome.runsOnce_ofTarget (hdispatch.trans hown) inv w

/-! ### Two layers over an inherited generic member -/

namespace Swapping

/-- `Swap<T>(ref $M0, ref $M0) -> ()`. -/
def swap : Signature :=
  { Signature.method "Swap" with
    params := [⟨.methodParam 0, .ref⟩, ⟨.methodParam 0, .ref⟩], generics := ["T"] }

/-- A source type with the generic member. -/
def store : TypeDescriptor :=
  TypeDraft.build { name := "Store", members := [.method swap [.swap 0 1]] } ⟨1⟩

/-- A source type that inherits it and has a property of its own. -/
def cell : TypeDescriptor :=
  TypeDraft.build { name := "Cell", bases := [store], members := [.getter "value" .int "value"] } ⟨2⟩

/-- A contract that requires the generic member. -/
def exchange : Contract :=
  { handle := 0, id := ⟨1, []⟩, name := "Exchange", typeParams := [], parents := []
    members := [swap] }

/-- A contract that extends it and requires the property. -/
def readable : Contract :=
  { handle := 1, id := ⟨2, []⟩, name := "Readable", typeParams := [], parents := [exchange]
    members := [.getter "value" .int] }

/-- How the members of the cell satisfy the extending contract. -/
def lowerBound : List (Requirement × Member) :=
  [(⟨"Readable", .getter "value" .int⟩,
      ⟨.getter "value" .int, .own ⟨2⟩ (.readField "value"), "Cell"⟩),
    (⟨"Exchange", swap⟩, ⟨swap, .inherited ⟨2⟩ ⟨1⟩ (.own ⟨1⟩ (.script [.swap 0 1])), "Store"⟩)]

/-- The adapter of the lower layer. -/
def lower : AdapterType :=
  .ofBound (AdapterType.nameFor {} readable cell) ⟨3⟩ readable cell lowerBound

/-- The adapter of the upper layer, in strict mode, whose source type is the lower adapter type. -/
def upper : AdapterType :=
  .ofBound (AdapterType.nameFor { strictReturns := true } exchange lower.descriptor) ⟨4⟩ exchange
    lower.descriptor
    [(⟨"Exchange", swap⟩,
      ⟨swap, .forward (.inherited ⟨2⟩ ⟨1⟩ (.own ⟨1⟩ (.script [.swap 0 1]))), lower.name⟩)]

theorem requirements_exchange : exchange.requirements = [⟨"Exchange", swap⟩] :=
  Contract.requirements_of_root rfl (List.nodup_singleton _)

theorem requirements_readable :
    readable.requirements = [⟨"Readable", .getter "value" .int⟩, ⟨"Exchange", swap⟩] := by
  have hkey : (Signature.getter "value" .int).key ≠ swap.key := by decide
  simp [readable, exchange, Contract.requirements, Contract.breadthFirst, Contract.declared,
    Contract.displayName, Requirement.firstOfEachKey, Requirement.key, hkey.symm]

theorem generate_lower : AdapterType.generate {} readable cell ⟨3⟩ = .ok lower := by
  refine AdapterType.generate_eq_ok_iff.mpr ⟨rfl, lowerBound, ?_, rfl⟩
  rw [TypeDescriptor.resolveAll_eq_ok_iff, requirements_readable]
  refine ⟨rfl, List.forall_mem_cons.mpr ⟨rfl, List.forall_mem_cons.mpr ⟨rfl, ?_⟩⟩⟩
  exact fun p hp => absurd hp List.not_mem_nil

theorem generate_upper :
    AdapterType.generate { strictReturns := true } exchange lower.descriptor ⟨4⟩ = .ok upper := by
  refine AdapterType.generate_eq_ok_iff.mpr ⟨rfl, _, ?_, rfl⟩
  rw [TypeDescriptor.resolveAll_eq_ok_iff, requirements_exchange]
  refine ⟨rfl, List.forall_mem_cons.mpr ⟨rfl, ?_⟩⟩
  exact fun p hp => absurd hp List.not_mem_nil

theorem declared_cell : cell.Declared := by
  refine .of_draft _ _ ?_
  intro base hbase
  rw [List.mem_singleton.mp hbase]
  exact .of_draft _ _ nofun

/-- Both layers can be put around a cell. -/
theorem exists_stack : ∃ o, Stack (.source 0 cell) [upper, lower] o := by
  obtain ⟨below, hlower⟩ := exists_wrapping (o := .source 0 cell) (a := lower)
    (show AdapterType.generate {} readable cell (Supply.typeKey ⟨3, 1⟩) = _ from generate_lower)
  obtain ⟨identity, rfl⟩ := hlower.exists_eq_adapter
  obtain ⟨above, hupper⟩ := exists_wrapping (a := upper)
    (o := .adapter identity lower.descriptor (.source 0 cell))
    (show AdapterType.generate { strictReturns := true } exchange lower.descriptor
      (Supply.typeKey ⟨4, 2⟩) = _ from generate_upper)
  exact ⟨above, .layer (.layer .bottom hlower) hupper⟩

/-- Dispatching the generic member on both layers runs a member of the cell on the cell. -/
theorem dispatch_swap : ∃ o, Stack (.source 0 cell) [upper, lower] o ∧
    ⟨"Exchange", swap⟩ ∈ upper.contract.requirements ∧ ∃ m behaviour part,
      cell.members.filter (fun n => n.signature = m.signature) = [m] ∧
      reached [upper, lower] swap = some m.signature ∧
      m.target (.part 0 cell.key) = .ok ⟨behaviour, 0, part⟩ ∧
      ∀ inv w, o.dispatch swap inv w = m.call (.source 0 cell) inv w ∧
        m.call (.source 0 cell) inv w = Target.run ⟨behaviour, 0, part⟩ inv w ∧
        Target.RunsOnce ⟨behaviour, 0, part⟩ inv w (o.dispatch swap inv w) := by
  obtain ⟨o, hstack⟩ := exists_stack
  have hmem : ⟨"Exchange", swap⟩ ∈ upper.contract.requirements := by
    show ⟨"Exchange", swap⟩ ∈ exchange.requirements
    rw [requirements_exchange]
    exact List.mem_cons_self
  exact ⟨o, hstack, hmem, Stack.dispatch_eq_call declared_cell hstack hmem⟩

end Swapping

end StructuralAdapters
