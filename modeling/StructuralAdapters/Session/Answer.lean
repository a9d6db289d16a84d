import StructuralAdapters.Contract.Instantiation
import StructuralAdapters.Session.Term
import StructuralAdapters.Synthesizer

/-!
# What a session answers

* `Fault`: why a step failed;
* `Shown`: a value as it is answered, objects and callbacks by the names they were given first;
* `View`, `Relation`, `Crowd`: parts of answers;
* `Answer`: the result of a step;
* `Response`: result, arguments by reference, and what was logged.
-/

namespace StructuralAdapters

/-- Why a step failed. -/
inductive Fault where
  /-- Nothing has this name. -/
  | undefined (name : String)
  | instantiation (error : InstantiationError)
  | synthesis (error : SynthesisError)
  | call (failure : Failure)

/-- The message of the fault. -/
def Fault.message : Fault → String
  | undefined name => name
  | instantiation error => error.message
  | synthesis error => error.message
  | call failure => failure.message

/-- A value as it is answered.  An object or callback that was never named stands without a name. -/
abbrev Shown := Term (Option String)

/-- A value typed as a contract, as it is answered. -/
structure View where
  isAdapter : Bool
  contract : String
  type : String
  /-- The name of the object. -/
  object : Option String

/-- How two contracts are related. -/
structure Relation where
  sameIdentity : Bool
  /-- Whether they are one contract, and not two that were built alike. -/
  shared : Bool
  leftExtends : Bool
  rightExtends : Bool

/-- What came of wrapping one object several times at once. -/
structure Crowd where
  /-- How often an adapter type was generated. -/
  generated : Nat
  /-- How many callers got a wrapped object. -/
  wrapped : Nat
  /-- Whether all wrapped objects have one type. -/
  oneType : Bool
  /-- How many adapter types are cached afterwards. -/
  cached : Nat

/-- The result of a step. -/
inductive Answer where
  | nothing
  | flag (b : Bool)
  /-- The name of an object, if there is one and it has a name. -/
  | name (name? : Option String)
  | contract (c : Contract)
  | identity (id : ContractId)
  /-- The contract on top of a tower. -/
  | tower (top : Contract)
  /-- A contract found along an extension path. -/
  | ancestor (c : Contract)
  | relation (r : Relation)
  | type (t : TypeDescriptor)
  | members (ms : List Member)
  | member (m? : Option Member)
  | made (o : Object)
  | sameness (object type descriptor : Bool)
  | state (fields : List (String × Shown)) (handlers : List (String × List Shown))
  | value (v : Shown)
  | values (vs : List Shown)
  /-- Whether two values are equal, and the values. -/
  | equality (equal : Bool) (left right : Value)
  | settings (s : Settings)
  | view (v : View)
  | adapter (a : AdapterType)
  | resolved (bound : List (Requirement × Member))
  | counts (generations adapters : Nat) (empty : Bool)
  /-- Whether an adapter type is cached, and its name. -/
  | cached (contains : Bool) (name? : Option String)
  /-- How often the generator ran, and the name of the adapter type. -/
  | generated (runs : Nat) (adapter : String)
  | crowd (c : Crowd)

/-- One entry of the log, as it is answered. -/
inductive ShownEntry where
  | line (text : String)
  | called (name : String) (args : List Shown)

/-- What a step answers. -/
structure Response where
  result : Except Fault Answer
  /-- The arguments by reference of the step's call, afterwards. -/
  refs : List Shown
  log : List ShownEntry

end StructuralAdapters
