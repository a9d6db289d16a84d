import StructuralAdapters.Invocation
import StructuralAdapters.World

/-!
# Running a behaviour

* `Failure`: why a call failed, its misuse or what a member raised;
* `Outcome`: result, arguments and world after a call;
* `Effect`: a computation on the arguments of a call and the world, whose changes stay when it
  fails;
* `Reach`: what the arguments of a call give access to;
* `Target.runWith`: one behaviour on one instance.

## Depth

A body can call its arguments: a callback, or a member of an object.  It passes them whole numbers
or literals only, so what is called in this way has nothing to call in its turn.  `Reach` says what
can be called, and two layers of it are enough.
-/

namespace StructuralAdapters

/-- Why a call failed. -/
inductive Failure where
  /-- The member was misused. -/
  | misuse (error : CallError)
  /-- A member or a callback raised an error with this text. -/
  | raised (message : String)
  deriving DecidableEq

/-- The message of the failure. -/
def Failure.message : Failure → String
  | misuse error => error.message
  | raised message => message

/-- What a call leaves behind. -/
structure Outcome where
  result : Except Failure Value
  /-- The arguments, those by reference with what was written to them. -/
  args : List Arg
  world : World

/-- A call that could not be started changes nothing. -/
def Outcome.refused (error : CallError) (args : List Arg) (world : World) : Outcome :=
  ⟨.error (.misuse error), args, world⟩

/-- What the arguments by reference hold afterwards. -/
def Outcome.refs (outcome : Outcome) : List Value :=
  (outcome.args.filter Arg.isByRef).map Arg.value

/-- A call with plain arguments: its result and the world afterwards. -/
abbrev PlainCall := World → Except Failure Value × World

/-- What the arguments of a call give access to. -/
structure Reach where
  /-- Call a value with arguments, if it can be called. -/
  func? : Value → Option (List Value → PlainCall)
  /-- Call a member of a value by name, if it has members that can be called. -/
  object? : Value → Option (String → List Value → PlainCall)

/-- Plain arguments, whole numbers and literals, give access to nothing. -/
def Reach.nothing : Reach := ⟨fun _ => none, fun _ => none⟩

/-- What a body computes on. -/
structure Frame where
  invocation : Invocation
  world : World

/-- A computation of a body.  Its writes stay when it fails. -/
abbrev Effect := ExceptT Failure (StateM Frame)

namespace Effect

/-- Read something from the invocation; misuse ends the body. -/
def ofInvocation {α : Type} (f : Invocation → Except CallError α) : Effect α := do
  match f (← get).invocation with
  | .ok a => return a
  | .error e => throw (.misuse e)

/-- Write to the caller's storage behind an argument by reference. -/
def writeSlot (i : Nat) (v : Value) : Effect Unit := do
  let inv ← ofInvocation fun inv => inv.write i v
  modify fun frame => { frame with invocation := inv }

/-- The state of the instance that is called. -/
def state (identity : Nat) : Effect InstanceState :=
  return (← get).world.state identity

/-- Change the state of the instance that is called. -/
def mapState (identity : Nat) (f : InstanceState → InstanceState) : Effect Unit :=
  modify fun frame => { frame with world := frame.world.mapState identity f }

/-- Make a call with plain arguments. -/
def plain (call : PlainCall) : Effect Value := do
  let frame ← get
  let (result, world) := call frame.world
  set { frame with world }
  MonadExcept.ofExcept result

end Effect

open Effect

/-- One statement of a body, on the instance `identity`. -/
def Statement.run (reach : Reach) (identity : Nat) : Statement → Effect Value
  | produce value => return value.value
  | argument i => ofInvocation (·.value i)
  | int i => return .int (← ofInvocation (·.int i))
  | bool i => return .bool (← ofInvocation (·.bool i))
  | text i => return .text (← ofInvocation (·.text i))
  | func i => return .func (← ofInvocation (·.func i))
  | object i => return .object (← ofInvocation (·.object i))
  | typeArgument i => return .text (← ofInvocation (·.typeArg i)).display
  | typeArgumentCount => return .int (.ofNat (← get).invocation.typeArgs.length)
  | argumentCount => return .int (.ofNat (← get).invocation.args.length)
  | defaultOf i => do
      let shape ← ofInvocation (·.typeArg i)
      match Value.defaultOf shape with
      | some v => return v
      | none => throw (.raised ("`" ++ shape.display ++ "` has no default value"))
  | sameTypes i j => do
      let a ← ofInvocation (·.typeArg i)
      let b ← ofInvocation (·.typeArg j)
      return .bool (a = b)
  | isType i shape => return .bool ((← ofInvocation (·.typeArg i)) = shape)
  | sameArguments i j => do
      let a ← ofInvocation (·.value i)
      let b ← ofInvocation (·.value j)
      return .bool (a.same b)
  | getField field => return (← state identity).field field
  | setField field i => do
      let v ← ofInvocation (·.value i)
      mapState identity (·.setField field v)
      return .unit
  | putField field value => do
      mapState identity (·.setField field value.value)
      return .unit
  | addToField field i => do
      let n ← ofInvocation (·.int i)
      let sum := n + ((← state identity).field field).int?.getD 0
      mapState identity (·.setField field (.int sum))
      return .int sum
  | store i value => do
      writeSlot i value.value
      return .unit
  | bump i amount => do
      let n ← ofInvocation (·.int i)
      writeSlot i (.int (n + amount))
      return .unit
  | clamp i low high => do
      let n ← ofInvocation (·.int i)
      let clamped := if n < low then low else if high < n then high else n
      writeSlot i (.int clamped)
      return .bool (clamped != n)
  | copy i j => do
      let v ← ofInvocation (·.value i)
      writeSlot j v
      return .unit
  | swap i j => do
      let a ← ofInvocation (·.value i)
      let b ← ofInvocation (·.value j)
      writeSlot i b
      writeSlot j a
      return .unit
  | concat i before after => do
      let s ← ofInvocation (·.text i)
      return .text (before ++ s ++ after)
  | byteLength i => return .int (.ofNat (← ofInvocation (·.text i)).utf8ByteSize)
  | inRange i low high => do
      let n ← ofInvocation (·.int i)
      if low ≤ n ∧ n ≤ high then return .int n
      else throw (.raised ("target " ++ n.toInt.repr ++ " out of range"))
  | fail message => throw (.raised message)
  | repeatCall i times => do
      let call ← ofInvocation (Invocation.typed reach.func? "fn" · i)
      let results ← (List.range times).mapM fun k => plain (call [.int (.ofNat k)])
      return .list results
  | callMember i name args => do
      let call ← ofInvocation (Invocation.typed reach.object? "object" · i)
      plain (call name (Literal.values args))
  | log line => do
      modify fun frame => { frame with world := frame.world.append (.line line) }
      return .unit

/-- The statements of a body in order; the last one's result, or the unit value if there is none. -/
def Statement.runAll (reach : Reach) (identity : Nat) : List Statement → Effect Value
  | [] => return .unit
  | [last] => last.run reach identity
  | first :: rest => do
      let _ ← first.run reach identity
      runAll reach identity rest

/-- A behaviour, on the instance `identity`. -/
def Behaviour.run (reach : Reach) (identity : Nat) : Behaviour → Effect Value
  | script body => Statement.runAll reach identity body
  | readField field => return (← state identity).field field
  | writeField field expected => do
      let v ← ofInvocation (·.value 0)
      match expected with
      | some kind =>
          if v.kind ≠ kind then throw (.raised ("expected " ++ kind ++ ", found " ++ v.kind))
      | none => pure ()
      mapState identity (·.setField field v)
      return .unit
  | addHandler event => do
      let handler ← ofInvocation (·.func 0)
      mapState identity (·.mapHandlers event (· ++ [handler]))
      return .unit
  | removeHandler event => do
      let handler ← ofInvocation (·.func 0)
      mapState identity (·.mapHandlers event (·.filter (· ≠ handler)))
      return .unit

/-- Run one behaviour on one instance. -/
def Target.runWith (reach : Reach) (t : Target) (inv : Invocation) (world : World) : Outcome :=
  let (result, frame) := (t.behaviour.run reach t.identity).run ⟨inv, world⟩
  ⟨result, frame.invocation.args, frame.world⟩

/-- What a callback does with its arguments; `callMember` calls a member of an object by name. -/
def CallbackBehaviour.run (callMember : Object → String → List Value → PlainCall)
    (args : List Value) : CallbackBehaviour → PlainCall
  | echo => fun w => (.ok (args.head?.getD .unit), w)
  | constant value => fun w => (.ok value, w)
  | double => fun w =>
      let n := (args.head?.bind Value.int?).getD 0
      (.ok (.int (n + n)), w)
  | decimal => fun w => (.ok (.text ((args.head?.bind Value.int?).getD 0).toInt.repr), w)
  | fail message => fun w => (.error (.raised message), w)
  | record name => fun w => (.ok .unit, w.append (.called name args))
  | member object name => callMember object name args

/-- Call a callback.  One that the world does not know does nothing. -/
def Callback.callWith (callMember : Object → String → List Value → PlainCall) (c : Callback)
    (args : List Value) : PlainCall := fun w =>
  match Entries.get? c w.callbacks with
  | some behaviour => behaviour.run callMember args w
  | none => (.ok .unit, w)

end StructuralAdapters
