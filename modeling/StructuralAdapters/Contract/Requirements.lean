import StructuralAdapters.Contract.Basic

/-!
# The requirements of a contract

A contract requires its own members and those of everything it extends.

* `Contract.breadthFirst`: the contracts that a traversal expands, nearest first;
* `Requirement`: a required member and the contract that declared it;
* `Contract.requirements`: the complete member set, each structural key once;
* `Contract.isOrExtends`: whether a contract is, or extends, the one with a given identity.

## Repetition

A contract that is reached along several paths is expanded once, and of several members with one
structural key the first is kept.  "Several paths" is judged by identity, so of two contracts that
share one only the first to be reached counts.
-/

namespace StructuralAdapters

/-- One member that a contract requires. -/
structure Requirement where
  /-- The display name of the contract that declared it. -/
  owner : String
  signature : Signature
  deriving DecidableEq

namespace Requirement

/-- The structural identity of the required member. -/
def key (r : Requirement) : SignatureKey := r.signature.key

/-- Keep the first requirement of each key that is not in `seen`. -/
def firstOfEachKey (seen : List SignatureKey) : List Requirement → List Requirement
  | [] => []
  | r :: rest =>
      if r.key ∈ seen then firstOfEachKey seen rest
      else r :: firstOfEachKey (r.key :: seen) rest

end Requirement

namespace Contract

/-- The contracts that a breadth-first traversal expands: the pending ones in order, then what they
extend, each identity once. -/
def breadthFirst (visited : List ContractId) : List Contract → List Contract
  | [] => []
  | c :: pending =>
      if c.id ∈ visited then breadthFirst visited pending
      else c :: breadthFirst (c.id :: visited) (pending ++ c.parents)
termination_by pending => weightAll pending
decreasing_by
  · have := weight_pos c
    simp only [weightAll]
    omega
  · have := weightAll_parents_lt c
    simp only [weightAll, weightAll_append]
    omega

/-- The members that the contract declares itself, as requirements. -/
def declared (c : Contract) : List Requirement :=
  c.members.map fun signature => { owner := c.displayName, signature }

/-- Every member that the contract requires, its own first and then those of the contracts it
extends, level by level in the order of declaration. -/
def requirements (c : Contract) : List Requirement :=
  Requirement.firstOfEachKey [] ((breadthFirst [] [c]).flatMap declared)

/-- Whether the contract with identity `id` is found from the pending contracts, the last parent of
each being followed first. -/
def reaches (id : ContractId) (visited : List ContractId) : List Contract → Bool
  | [] => false
  | c :: pending =>
      if c.id = id then true
      else if c.id ∈ visited then reaches id visited pending
      else reaches id (c.id :: visited) (c.parents.reverse ++ pending)
termination_by pending => weightAll pending
decreasing_by
  · have := weight_pos c
    simp only [weightAll]
    omega
  · have := weightAll_parents_lt c
    simp only [weightAll, weightAll_append, weightAll_reverse, List.unattach_reverse,
      List.unattach_attach]
    omega

/-- Whether the contract is the one with identity `id` or extends it, directly or not. -/
def isOrExtends (c : Contract) (id : ContractId) : Bool :=
  reaches id [] [c]

end Contract

end StructuralAdapters
