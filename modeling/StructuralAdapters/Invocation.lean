import StructuralAdapters.Value

/-!
# Invocations

What is handed to a member, and how a call can be wrong.

* `CallError`: misuse of a member at call time, and its message;
* `Arg`: one argument; an argument by reference carries the caller's own storage;
* `Invocation`: type arguments and arguments of one call, with typed access by position.

A forwarding member hands on the invocation that it was given, so a write to an argument by
reference lands in the caller's storage whatever stands between.
-/

namespace StructuralAdapters

/-- Misuse of a member at call time.  What a member raises itself never has this type. -/
inductive CallError where
  /-- No member of that name takes these arguments. -/
  | noSuchMember (contract member : String)
  /-- Several members of that name take these arguments. -/
  | ambiguousCall (contract member : String) (candidates : List String)
  | arityMismatch (member : String) (expected found : Nat)
  | passModeMismatch (member : String) (index : Nat) (expected : PassMode)
  | genericArityMismatch (member : String) (expected found : Nat)
  | missingArgument (index : Nat)
  | missingTypeArgument (index : Nat)
  | notByRef (index : Nat)
  | argumentType (index : Nat) (expected found : String)
  /-- The type has no member with the signature's structural key. -/
  | unbound (type member : String)
  | receiverMismatch (expected : ReceiverMismatch)
  deriving DecidableEq

/-- How an argument for a parameter with this mode is passed, in words. -/
def PassMode.phrase (mode : PassMode) : String :=
  if mode.isByRef then "by reference" else "by value"

/-- What the receiver should have been, in words. -/
def ReceiverMismatch.phrase : ReceiverMismatch → String
  | .sourceType => "<source type>"
  | .adapterInstance => "adapter instance"

/-- The message of the error. -/
def CallError.message : CallError → String
  | noSuchMember contract member =>
      "`" ++ contract ++ "` has no member `" ++ member ++ "` callable with these arguments"
  | ambiguousCall contract member candidates =>
      "call to `" ++ member ++ "` on `" ++ contract ++ "` is ambiguous between: "
        ++ ", ".intercalate candidates
  | arityMismatch member expected found =>
      "`" ++ member ++ "` takes " ++ expected.repr ++ " argument(s), got " ++ found.repr
  | passModeMismatch member index expected =>
      "argument " ++ index.repr ++ " of `" ++ member ++ "` must be passed " ++ expected.phrase
  | genericArityMismatch member expected found =>
      "`" ++ member ++ "` takes " ++ expected.repr ++ " type argument(s), got " ++ found.repr
  | missingArgument index => "missing argument " ++ index.repr
  | missingTypeArgument index => "missing type argument " ++ index.repr
  | notByRef index => "argument " ++ index.repr ++ " is not passed by reference"
  | argumentType index expected found =>
      "argument " ++ index.repr ++ ": expected " ++ expected ++ ", found " ++ found
  | unbound type member => "type `" ++ type ++ "` has no bound member `" ++ member ++ "`"
  | receiverMismatch expected => "receiver is not a `" ++ expected.phrase ++ "`"

/-- One argument of a call. -/
inductive Arg where
  | byValue (v : Value)
  /-- The caller's storage, with what it holds now. -/
  | byRef (v : Value)

namespace Arg

/-- The argument's value now. -/
def value : Arg → Value
  | byValue v | byRef v => v

/-- Whether the argument carries the caller's storage. -/
def isByRef : Arg → Bool
  | byValue _ => false
  | byRef _ => true

end Arg

/-- Type arguments and arguments of one call. -/
structure Invocation where
  typeArgs : List Shape
  args : List Arg

namespace Invocation

/-- The type argument at a position. -/
def typeArg (inv : Invocation) (i : Nat) : Except CallError Shape :=
  match inv.typeArgs[i]? with
  | some shape => .ok shape
  | none => .error (.missingTypeArgument i)

/-- The value of the argument at a position. -/
def value (inv : Invocation) (i : Nat) : Except CallError Value :=
  match inv.args[i]? with
  | some arg => .ok arg.value
  | none => .error (.missingArgument i)

/-- What the caller's storage behind an argument by reference holds. -/
def slot (inv : Invocation) (i : Nat) : Except CallError Value :=
  match inv.args[i]? with
  | some (.byRef v) => .ok v
  | some (.byValue _) => .error (.notByRef i)
  | none => .error (.missingArgument i)

/-- Write to the caller's storage behind an argument by reference. -/
def write (inv : Invocation) (i : Nat) (v : Value) : Except CallError Invocation :=
  match inv.slot i with
  | .ok _ => .ok { inv with args := inv.args.set i (.byRef v) }
  | .error e => .error e

/-- The argument at a position, if `view` accepts it; `expected` names the kind it accepts. -/
def typed {α : Type} (view : Value → Option α) (expected : String) (inv : Invocation) (i : Nat) :
    Except CallError α :=
  match inv.value i with
  | .ok v =>
      match view v with
      | some a => .ok a
      | none => .error (.argumentType i expected v.kind)
  | .error e => .error e

/-- The argument at a position, if it is a whole number. -/
def int : Invocation → Nat → Except CallError Int64 := typed Value.int? "int"

/-- The argument at a position, if it is a truth value. -/
def bool : Invocation → Nat → Except CallError Bool := typed Value.bool? "bool"

/-- The argument at a position, if it is a text. -/
def text : Invocation → Nat → Except CallError String := typed Value.text? "string"

/-- The argument at a position, if it is a callback. -/
def func : Invocation → Nat → Except CallError Callback := typed Value.func? "fn"

/-- The argument at a position, if it is an object. -/
def object : Invocation → Nat → Except CallError Object := typed Value.object? "object"

end Invocation

end StructuralAdapters
