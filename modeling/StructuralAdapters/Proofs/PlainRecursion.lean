import StructuralAdapters.Proofs.Images
import StructuralAdapters.Proofs.Progress
import StructuralAdapters.Proofs.Traversal

/-!
# Instantiating without remembering

What an instantiation remembers spares it work.  The same recursion that remembers nothing rebuilds a
contract once for each extension path that leads to it, so that stacked diamonds take exponentially many
steps.

* `Contract.instantiatePlainly` — the instantiation that remembers nothing;
* `Contract.unnumbered` — a contract without the handles, which say which values were built separately;
* `Contract.Unambiguous.weight_eq`, `Contract.Unambiguous.acyclic` — contracts that share an identity in an
  unambiguous lineage agree in whatever does not depend on handles, and none extends its own identity;
* `Contract.unnumbered_instantiate` — both instantiations build the same, handles apart.
-/

namespace StructuralAdapters

namespace Contract

/-! ### The plain recursion -/

mutual

/-- Push type arguments through a contract that is extended.  `next` is the handle that the next contract
takes. -/
def substitutePlainly (args : List Shape) : Contract → Nat → Contract × Nat
  | ⟨handle, id, name, typeParams, parents, members⟩, next =>
      let c : Contract := ⟨handle, id, name, typeParams, parents, members⟩
      if c.isTouched then
        let (parents', after) := substituteAllPlainly args parents next
        (c.rebuild args after parents', after + 1)
      else (c, next)

/-- Push type arguments through several contracts, one after the other. -/
def substituteAllPlainly (args : List Shape) : List Contract → Nat → List Contract × Nat
  | [], next => ([], next)
  | c :: rest, next =>
      let (c', after) := c.substitutePlainly args next
      let (rest', after') := substituteAllPlainly args rest after
      (c' :: rest', after')

end

/-- Instantiate a generic definition with type arguments, remembering nothing. -/
def instantiatePlainly (c : Contract) (args : List Shape) (numbers : ContractNumbers) :
    Except InstantiationError (Contract × ContractNumbers) :=
  if c.typeParams.isEmpty || !c.id.args.isEmpty then
    .error (.notGeneric c.displayName)
  else if args.length ≠ c.arity then
    .error (.arityMismatch c.displayName c.arity args.length)
  else
    let (parents, after) := substituteAllPlainly args c.parents numbers.handle
    .ok
      ({ c with
         handle := after
         id := ⟨c.id.origin, args⟩
         parents
         members := c.members.map (Signature.substituteTypeParams args) },
       { numbers with handle := after + 1 })

variable {args : List Shape} {a b c d : Contract}

theorem substitutePlainly_of_untouched (h : c.isTouched = false) (next : Nat) :
    c.substitutePlainly args next = (c, next) := by
  cases c
  rw [substitutePlainly]
  simp only [h]
  rfl

theorem substitutePlainly_of_touched (h : c.isTouched = true) (next : Nat) :
    c.substitutePlainly args next =
      let parents := substituteAllPlainly args c.parents next
      (c.rebuild args parents.2 parents.1, parents.2 + 1) := by
  cases c
  rw [substitutePlainly]
  simp only [h]
  rfl

theorem substituteAllPlainly_cons (c : Contract) (cs : List Contract) (next : Nat) :
    substituteAllPlainly args (c :: cs) next =
      let first := c.substitutePlainly args next
      let rest := substituteAllPlainly args cs first.2
      (first.1 :: rest.1, rest.2) := by
  rw [substituteAllPlainly]

/-- Instantiating plainly is one more rebuilding. -/
theorem instantiatePlainly_eq_rebuild (hargs : c.id.args = []) (hparams : c.typeParams ≠ [])
    (hlength : args.length = c.arity) (numbers : ContractNumbers) :
    c.instantiatePlainly args numbers =
      let walked := substituteAllPlainly args c.parents numbers.handle
      .ok (c.rebuild args walked.2 walked.1, { numbers with handle := walked.2 + 1 }) := by
  have hpushed := pushedArgs_of_length_eq hargs hparams hlength
  simp only [instantiatePlainly, rebuild, hpushed, hargs, hlength]
  simp [hparams]

/-! ### Contracts without handles -/

mutual

/-- The contract with the handle 0 everywhere. -/
def unnumbered : Contract → Contract
  | ⟨_, id, name, typeParams, parents, members⟩ =>
      ⟨0, id, name, typeParams, unnumberedAll parents, members⟩

def unnumberedAll : List Contract → List Contract
  | [] => []
  | c :: rest => c.unnumbered :: unnumberedAll rest

end

theorem unnumberedAll_eq_map (cs : List Contract) : unnumberedAll cs = cs.map unnumbered := by
  induction cs with
  | nil => rfl
  | cons c cs ih => rw [unnumberedAll, ih, List.map_cons]

theorem unnumbered_eq (c : Contract) :
    c.unnumbered = { c with handle := 0, parents := c.parents.map unnumbered } := by
  cases c
  rw [unnumbered, unnumberedAll_eq_map]

theorem unnumbered_rebuild (c : Contract) (handle : Nat) (parents : List Contract) :
    (c.rebuild args handle parents).unnumbered = c.rebuild args 0 (parents.map unnumbered) := by
  rw [unnumbered_eq]
  rfl

/-- Contracts that share an identity and say the same of themselves are rebuilt in the same way. -/
theorem SameNode.rebuild_eq (h : a.SameNode b) (hid : a.id = b.id) (handle : Nat)
    (parents : List Contract) : a.rebuild args handle parents = b.rebuild args handle parents := by
  simp only [rebuild, pushedArgs, arity, hid, h.name, h.typeParams, h.members]

theorem weightAll_map_unnumbered {cs : List Contract} (h : ∀ c ∈ cs, c.unnumbered.weight = c.weight) :
    weightAll (cs.map unnumbered) = weightAll cs := by
  induction cs with
  | nil => rfl
  | cons c cs ih =>
      rw [List.map_cons, weightAll, weightAll, h c List.mem_cons_self,
        ih fun d hd => h d (List.mem_cons_of_mem c hd)]

theorem weight_unnumbered (c : Contract) : c.unnumbered.weight = c.weight := by
  induction c using inductionOn with
  | step c ih => rw [unnumbered_eq, weight_eq, weight_eq, weightAll_map_unnumbered ih]

theorem Ancestor.weight_le (h : c.Ancestor a) : a.weight ≤ c.weight := by
  induction h with
  | refl => exact Nat.le_refl _
  | @tail b p _ hp ih =>
      have hle := weight_le_weightAll hp
      have hlt := weightAll_parents_lt b
      omega

namespace Unambiguous

/-- Contracts that share an identity differ in handles only, at every depth. -/
theorem unnumbered_eq (h : c.Unambiguous) (ha : c.Ancestor a) (hb : c.Ancestor b) (hid : a.id = b.id) :
    a.unnumbered = b.unnumbered := by
  induction a using inductionOn generalizing b with
  | step a ih =>
      have hsame := h a b ha hb hid
      have hparents : a.parents.map unnumbered = b.parents.map unnumbered :=
        map_eq_of_map_id_eq hsame.parents fun p hp q hq hpq => ih p hp (ha.tail hp) (hb.tail hq) hpq
      rw [Contract.unnumbered_eq, Contract.unnumbered_eq b]
      simp only [hid, hsame.name, hsame.typeParams, hsame.members, hparents]

theorem weight_eq (h : c.Unambiguous) (ha : c.Ancestor a) (hb : c.Ancestor b) (hid : a.id = b.id) :
    a.weight = b.weight := by
  rw [← weight_unnumbered a, h.unnumbered_eq ha hb hid, weight_unnumbered]

/-- No contract of the lineage extends its own identity. -/
theorem acyclic (h : c.Unambiguous) : c.Acyclic := by
  intro a ha p hp x hx hid
  have hweight : x.weight = a.weight := h.weight_eq ((ha.tail hp).trans hx) ha hid
  have hpath := hx.weight_le
  have hle := weight_le_weightAll hp
  have hlt := weightAll_parents_lt a
  omega

/-- Arguments change both of two contracts that share an identity, or none. -/
theorem isTouched_eq (h : c.Unambiguous) (ha : c.Ancestor a) (hb : c.Ancestor b) (hid : a.id = b.id) :
    a.isTouched = b.isTouched := by
  have hsame := h a b ha hb hid
  have hparents : a.parents.map isOpen = b.parents.map isOpen := by
    refine map_eq_of_map_id_eq hsame.parents fun p hp q hq hpq => ?_
    rw [isOpen, isOpen, (h p q (ha.tail hp) (hb.tail hq) hpq).typeParams, hpq]
  have hany : a.parents.any isOpen = b.parents.any isOpen := by
    have hmap := congrArg (fun opens => opens.any fun isOpen => isOpen) hparents
    simpa only [List.any_map, Function.comp_def] using hmap
  rw [isTouched, isTouched, hid, hsame.members, hany]

end Unambiguous

/-! ### Both build the same -/

/-- Whatever contract of the lineage has the identity: the plain recursion makes of it what `d` is, handles
apart. -/
def PlainImage (args : List Shape) (c : Contract) (id : ContractId) (d : Contract) : Prop :=
  ∀ a, c.Ancestor a → a.id = id → ∀ next, (a.substitutePlainly args next).1.unnumbered = d.unnumbered

theorem map_unnumbered_of_plainImages {as cs ds : List Contract}
    (himages : List.Forall₂ (fun p d => PlainImage args c p.id d) cs ds)
    (hids : as.map Contract.id = cs.map Contract.id) (has : ∀ a ∈ as, c.Ancestor a) (next : Nat) :
    (substituteAllPlainly args as next).1.map unnumbered = ds.map unnumbered := by
  induction himages generalizing as next with
  | nil =>
      rw [List.map_eq_nil_iff.mp hids, substituteAllPlainly]
  | cons himage _ ih =>
      cases as with
      | nil => cases hids
      | cons a as =>
          obtain ⟨hid, hids⟩ := List.cons.inj hids
          rw [substituteAllPlainly_cons, List.map_cons, List.map_cons,
            himage a (has a List.mem_cons_self) hid,
            ih hids fun b hb => has b (List.mem_cons_of_mem a hb)]

/-- The walk that remembers makes of each contract what the plain recursion makes of it. -/
theorem plainImages_of_parents (h : c.Unambiguous) (handle : Nat) :
    List.Forall₂ (fun p d => PlainImage args c p.id d) c.parents
      (substituteAll args c.parents ⟨[], handle⟩).1 := by
  refine (substituteAll_image (U := c.Ancestor) (K := fun _ => True) (R := PlainImage args c)
    (fun a ha p hp => ha.tail hp) ?_ ?_ (fun p hp => .parent hp) fun _ _ => trivial).1
  · intro x hx huntouched a ha hid next
    have htouched : a.isTouched = false := (h.isTouched_eq ha hx hid).trans huntouched
    rw [substitutePlainly_of_untouched htouched]
    exact h.unnumbered_eq ha hx hid
  · intro x handle parents hx _ htouched himages a ha hid next
    have hsame := h a x ha hx hid
    have hparents := map_unnumbered_of_plainImages himages hsame.parents (fun p hp => ha.tail hp) next
    rw [substitutePlainly_of_touched ((h.isTouched_eq ha hx hid).trans htouched), unnumbered_rebuild,
      unnumbered_rebuild, hparents, hsame.rebuild_eq hid]

/-- **Remembering changes nothing but handles.**  Both instantiations succeed together, and then they
build the same at every depth. -/
theorem unnumbered_instantiate (h : c.Unambiguous) (hargs : c.id.args = []) (hparams : c.typeParams ≠ [])
    (hlength : args.length = c.arity) (numbers : ContractNumbers) :
    ∃ c' numbers' plain numbers'',
      c.instantiate args numbers = .ok (c', numbers') ∧
        c.instantiatePlainly args numbers = .ok (plain, numbers'') ∧
          c'.unnumbered = plain.unnumbered := by
  refine ⟨_, _, _, _, instantiate_eq_rebuild hargs hparams hlength numbers,
    instantiatePlainly_eq_rebuild hargs hparams hlength numbers, ?_⟩
  rw [unnumbered_rebuild, unnumbered_rebuild,
    map_unnumbered_of_plainImages (plainImages_of_parents h numbers.handle) rfl
      (fun p hp => .parent hp)]

end Contract

end StructuralAdapters
