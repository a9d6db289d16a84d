import StructuralAdapters.Contract.Requirements
import StructuralAdapters.Dispatch

/-!
# Values typed as a contract

* `Contracted`: an object seen through a contract;
* `Contracted.check`: what is checked before a member of the contract is called;
* `Contracted.invoke`, `Contracted.call`: calls by signature and by name;
* `Contracted.get`, `Contracted.set`, `Contracted.subscribe`, `Contracted.unsubscribe`: calls of
  the accessors of properties and events.

Only members of the contract's complete member set can be called.  The checks come in a fixed order:
is the member required, is the number of arguments right, is each argument passed as its parameter
says, is the number of type arguments right.
-/

namespace StructuralAdapters

/-- An object seen through a contract: an adapter instance, or the real object itself where its type
implements the contract natively. -/
structure Contracted where
  contract : Contract
  object : Object

namespace Contracted

/-- Whether calls go through a generated adapter. -/
def isAdapter (k : Contracted) : Bool := k.object.isAdapter

/-- The first argument that is not passed as its parameter says. -/
def checkModes (member : String) : (index : Nat) → List Param → List Arg → Except CallError Unit
  | index, p :: params, a :: args =>
      if a.isByRef = p.mode.isByRef then checkModes member (index + 1) params args
      else .error (.passModeMismatch member index p.mode)
  | _, _, _ => .ok ()

/-- The checks before a call of the member with this signature. -/
def check (k : Contracted) (s : Signature) (inv : Invocation) : Except CallError Unit :=
  if !k.contract.requirements.any (fun r => r.key = s.key) then
    .error (.noSuchMember k.contract.displayName s.display)
  else if inv.args.length ≠ s.params.length then
    .error (.arityMismatch s.display s.params.length inv.args.length)
  else
    match checkModes s.display 0 s.params inv.args with
    | .error e => .error e
    | .ok () =>
        if inv.typeArgs.length ≠ s.genericArity then
          .error (.genericArityMismatch s.display s.genericArity inv.typeArgs.length)
        else .ok ()

/-- Call the contract's member with exactly this signature. -/
def invoke (k : Contracted) (s : Signature) (inv : Invocation) (w : World) : Outcome :=
  match k.check s inv with
  | .ok () => k.object.dispatch s inv w
  | .error e => .refused e inv.args w

/-- Call a member of the contract by name. -/
def call (k : Contracted) (name : String) (inv : Invocation) (w : World) : Outcome :=
  match selectOverload k.contract.displayName (k.contract.requirements.map (·.signature)) name
      inv.form with
  | .ok s => k.invoke s inv w
  | .error e => .refused e inv.args w

/-- Call a member with arguments by value and no type arguments. -/
def callWith (k : Contracted) (name : String) (args : List Value) (w : World) : Outcome :=
  k.call name ⟨[], args.map .byValue⟩ w

/-- Read a property. -/
def get (k : Contracted) (property : String) : World → Outcome :=
  k.callWith ("get_" ++ property) []

/-- Write a property. -/
def set (k : Contracted) (property : String) (v : Value) : World → Outcome :=
  k.callWith ("set_" ++ property) [v]

/-- Register a handler of an event. -/
def subscribe (k : Contracted) (event : String) (handler : Callback) : World → Outcome :=
  k.callWith ("add_" ++ event) [.func handler]

/-- Remove a handler of an event. -/
def unsubscribe (k : Contracted) (event : String) (handler : Callback) : World → Outcome :=
  k.callWith ("remove_" ++ event) [.func handler]

end Contracted

end StructuralAdapters
