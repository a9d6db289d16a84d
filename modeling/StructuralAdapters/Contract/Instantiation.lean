import StructuralAdapters.Contract.Basic

/-!
# Instantiating generic contracts

Type arguments given to a generic definition reach its own members and every contract that it
extends.

* `InstantiationError`: why a contract cannot be instantiated;
* `Contract.isTouched`: whether type arguments can change a contract that is extended;
* `Contract.substitute`: the arguments pushed through a contract that is extended;
* `Contract.instantiate`: an instantiation of a generic definition.

## Sharing

A contract may be reached along many extension paths, and stacked diamonds have exponentially many
of them.  `Rebuilding` remembers what the current instantiation has already rebuilt, by identity,
so that a shared ancestor is rebuilt once and stays shared in the result.
-/

namespace StructuralAdapters

/-- Why a contract cannot be instantiated. -/
inductive InstantiationError where
  /-- It has no type parameters, or has its arguments already. -/
  | notGeneric (contract : String)
  /-- The number of arguments differs from the number of parameters. -/
  | arityMismatch (contract : String) (expected found : Nat)
  deriving DecidableEq

/-- The message of the error. -/
def InstantiationError.message : InstantiationError → String
  | .notGeneric contract => "contract `" ++ contract ++ "` is not a generic definition"
  | .arityMismatch contract expected found =>
      "contract `" ++ contract ++ "` takes " ++ expected.repr ++ " type argument(s), got "
        ++ found.repr

/-- What one instantiation has rebuilt so far, and the handle that the next contract takes. -/
structure Rebuilding where
  /-- Rebuilt contracts by the identity they had before; the latest stands first. -/
  done : List (ContractId × Contract)
  handle : Nat

namespace Contract

/-- Whether type arguments can change a contract that is extended.  Only its own arguments, its own
members and the openness of its direct parents are looked at. -/
def isTouched (c : Contract) : Bool :=
  c.id.args.any Shape.hasTypeParams || c.members.any Signature.hasTypeParams
    || c.parents.any isOpen

/-- The type arguments of a contract that is extended, once `args` are pushed through it.  A bare
generic definition takes them by position, as many as it has parameters. -/
def pushedArgs (args : List Shape) (c : Contract) : List Shape :=
  if c.id.args.isEmpty && !c.typeParams.isEmpty then args.take c.arity
  else c.id.args.map (Shape.substituteTypeParams args)

/-- The contract with `args` pushed through its identity and its own members. -/
def rebuild (args : List Shape) (handle : Nat) (parents : List Contract) (c : Contract) :
    Contract :=
  { c with
    handle
    id := ⟨c.id.origin, c.pushedArgs args⟩
    parents
    members := c.members.map (Signature.substituteTypeParams args) }

mutual

/-- Push type arguments through a contract that is extended. -/
def substitute (args : List Shape) : Contract → Rebuilding → Contract × Rebuilding
  | ⟨handle, id, name, typeParams, parents, members⟩, rebuilding =>
      let c : Contract := ⟨handle, id, name, typeParams, parents, members⟩
      match rebuilding.done.lookup id with
      | some done => (done, rebuilding)
      | none =>
          if c.isTouched then
            let (parents', after) := substituteAll args parents rebuilding
            let rebuilt := c.rebuild args after.handle parents'
            (rebuilt, { done := (id, rebuilt) :: after.done, handle := after.handle + 1 })
          else (c, rebuilding)

/-- Push type arguments through several contracts, one after the other. -/
def substituteAll (args : List Shape) :
    List Contract → Rebuilding → List Contract × Rebuilding
  | [], rebuilding => ([], rebuilding)
  | c :: rest, rebuilding =>
      let (c', after) := c.substitute args rebuilding
      let (rest', after') := substituteAll args rest after
      (c' :: rest', after')

end

/-- Instantiate a generic definition with type arguments. -/
def instantiate (c : Contract) (args : List Shape) (numbers : ContractNumbers) :
    Except InstantiationError (Contract × ContractNumbers) :=
  if c.typeParams.isEmpty || !c.id.args.isEmpty then
    .error (.notGeneric c.displayName)
  else if args.length ≠ c.arity then
    .error (.arityMismatch c.displayName c.arity args.length)
  else
    let (parents, after) := substituteAll args c.parents ⟨[], numbers.handle⟩
    .ok
      ({ c with
         handle := after.handle
         id := ⟨c.id.origin, args⟩
         parents
         members := c.members.map (Signature.substituteTypeParams args) },
       { numbers with handle := after.handle + 1 })

end Contract

end StructuralAdapters
