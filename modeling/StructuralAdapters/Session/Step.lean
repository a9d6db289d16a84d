import StructuralAdapters.Session.Term
import StructuralAdapters.Settings

/-!
# The steps of a session

A **session** declares contracts and types, makes objects and sees them through contracts, and calls
their members.  Its steps refer to what earlier steps made by the names they gave to it.

* `TableName`: how a step refers to a member table;
* `Callee`: what a step calls, a value typed as a contract or an object as its own type;
* `Passed`, `CallTerms`: the arguments of a call;
* `CallbackTerm`: what a callback is to do;
* `Step`: one step.
-/

namespace StructuralAdapters

/-- How a step refers to a member table. -/
inductive TableName where
  /-- The table of a declared type. -/
  | type (name : String)
  /-- The table of an adapter type itself. -/
  | adapter (name : String)
  /-- The table of an object's type. -/
  | object (name : String)

/-- What a step calls. -/
inductive Callee where
  /-- A value typed as a contract. -/
  | wrapped (name : String)
  /-- An object, as its own type. -/
  | object (name : String)

/-- One argument of a call. -/
structure Passed where
  byRef : Bool
  term : Term String

/-- The type arguments and the arguments of a call. -/
structure CallTerms where
  typeArgs : List Shape
  args : List Passed

/-- What a callback is to do. -/
inductive CallbackTerm where
  | echo
  | constant (value : Term String)
  | double
  | decimal
  | fail (message : String)
  /-- Write the arguments to the log, under the name of the callback. -/
  | record
  | member (object name : String)

/-- One step of a session.  What a step makes is bound to `made`, where there is such a name. -/
inductive Step where
  /-- Build a contract. -/
  | contract (made : Option String) (name : String) (typeParams parents : List String)
      (members : List MemberDeclaration) (quiet : Bool)
  /-- Instantiate a contract. -/
  | instantiate (made : Option String) (definition : String) (args : List Shape) (quiet : Bool)
  /-- Stack levels on top of a contract, each a single contract or a diamond of three. -/
  | tower (made : Option String) (base : String) (levels : Nat) (diamond : Bool)
      (typeParams : List String)
  /-- Follow extensions by position. -/
  | extended (made : Option String) (contract : String) (path : List Nat)
  | contractInfo (contract : String)
  /-- Compare two contracts. -/
  | relate (left right : String)
  /-- Declare a source type. -/
  | type (made : Option String) (name : String) (contracts bases : List String)
      (members : List MemberDefinition)
  | typeInfo (table : TableName)
  | implements (table : TableName) (contract : String)
  | membersNamed (table : TableName) (name : String)
  /-- The member with the structural key of a signature. -/
  | member (table : TableName) (signature : Signature)
  /-- Make an instance of a source type. -/
  | new (made : Option String) (type : String) (fields : List (String × Term String))
  /-- Compare two objects. -/
  | same (left right : String)
  /-- Whether an object is itself an instance of a type. -/
  | isInstance (type object : String)
  /-- The state of an instance. -/
  | state (object : String)
  /-- Call the handlers of an event. -/
  | fire (object event : String) (args : List (Term String))
  | callback (made : Option String) (behaviour : CallbackTerm)
  /-- Compare two values. -/
  | equal (left right : Term String)
  | synthesizer (made : Option String) (settings : Settings)
  | wrap (made : Option String) (contract object synthesizer : String)
  | coerce (made : Option String) (contract object synthesizer : String)
  | contracted (wrapped : String)
  | verify (table : TableName) (contract synthesizer : String)
  /-- The real object of an adapter instance. -/
  | unwrap (object : String)
  /-- The instance of a type behind any number of adapters. -/
  | revert (type : String) (start : Callee)
  /-- Whether an instance of a type that nothing has is behind an object. -/
  | revertUnrelated (object : String)
  /-- The adapter type that a synthesizer has for a contract and a type. -/
  | adapter (made : Option String) (table : TableName) (contract synthesizer : String)
  /-- A new adapter type, made without a synthesizer. -/
  | generate (made : Option String) (table : TableName) (contract : String)
      (settings : Settings)
  /-- The member of a type that a requirement is bound to. -/
  | resolve (table : TableName) (requirement : Requirement) (strict : Bool)
  /-- The members of a type that the requirements of a contract are bound to. -/
  | resolveAll (table : TableName) (contract : String) (settings : Settings)
  /-- Whether two adapter types are one. -/
  | sameAdapter (left right : String)
  | counts (synthesizer : String)
  /-- Look into the cache of a synthesizer. -/
  | cached (table : TableName) (contract synthesizer : String)
  /-- Put an adapter type into the cache of a synthesizer. -/
  | store (stored : String) (table : TableName) (contract synthesizer : String)
  /-- Ask the cache of a synthesizer for an adapter type; the generator may refuse to make one. -/
  | getOrGenerate (table : TableName) (contract synthesizer : String) (refuse : Bool)
  /-- Wrap an object several times at once. -/
  | concurrent (contract object synthesizer : String) (callers : Nat)
  /-- Call a member by name. -/
  | call (callee : Callee) (name : String) (args : CallTerms)
  /-- Call the member with a signature. -/
  | invoke (callee : Callee) (signature : Signature) (args : CallTerms)
  /-- Call a member of a table on an object as its receiver. -/
  | memberCall (table : TableName) (signature : Signature) (receiver : String) (args : CallTerms)
  | get (wrapped property : String)
  | set (wrapped property : String) (value : Term String)
  | subscribe (wrapped event handler : String)
  | unsubscribe (wrapped event handler : String)

end StructuralAdapters
