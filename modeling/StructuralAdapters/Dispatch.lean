import StructuralAdapters.Script.Run

/-!
# Calling members

* `Object.targetOf`: what a call of the member with a signature's structural key runs;
* `selectOverload`: the one signature that fits a name and the form of the arguments;
* `Object.dispatch`, `Object.call`, `Member.call`, `Callback.call`: calls that run.

A call first finds its target and then runs it.  Finding the target depends on the signature and the
receiver alone; if it fails, the call is refused and neither an argument nor the world changes.
-/

namespace StructuralAdapters

/-! ### Finding the target -/

/-- What calling the member on a receiver runs. -/
def Member.target (m : Member) (receiver : Receiver) : Except CallError Target :=
  (m.body.target receiver).mapError .receiverMismatch

/-- What calling the member with exactly this structural signature runs. -/
def Object.targetOf (o : Object) (s : Signature) : Except CallError Target :=
  match o.type.member? s.key with
  | some m => m.target o.receiver
  | none => .error (.unbound o.type.name s.display)

/-- The form of a call by name: how many type arguments it has, and which of its arguments are by
reference. -/
structure CallForm where
  typeArgs : Nat
  byRef : List Bool
  deriving DecidableEq

/-- The form of a call with this invocation. -/
def Invocation.form (inv : Invocation) : CallForm :=
  ⟨inv.typeArgs.length, inv.args.map Arg.isByRef⟩

/-- Whether a signature has the name and takes calls of the form. -/
def Signature.fits (name : String) (form : CallForm) (s : Signature) : Bool :=
  s.name == name && s.genericArity == form.typeArgs && s.byRefFlags == form.byRef

/-- The single candidate that fits; `owner` names whose members the candidates are. -/
def selectOverload (owner : String) (candidates : List Signature) (name : String)
    (form : CallForm) : Except CallError Signature :=
  match candidates.filter (·.fits name form) with
  | [single] => .ok single
  | [] => .error (.noSuchMember owner name)
  | several => .error (.ambiguousCall owner name (several.map Signature.display))

/-- What calling a member by name runs. -/
def Object.targetNamed (o : Object) (name : String) (form : CallForm) :
    Except CallError Target := do
  let s ← selectOverload o.type.name (o.type.members.map Member.signature) name form
  o.targetOf s

/-! ### Running it -/

/-- Call a member by name with arguments that give access to nothing. -/
def Object.callPlain (o : Object) (name : String) (args : List Value) : PlainCall := fun w =>
  let inv : Invocation := ⟨[], args.map .byValue⟩
  match o.targetNamed name inv.form with
  | .ok t =>
      let outcome := t.runWith .nothing inv w
      (outcome.result, outcome.world)
  | .error e => (.error (.misuse e), w)

/-- A callback can be called and an object has members. -/
def Reach.values : Reach where
  func? v := v.func?.map (·.callWith Object.callPlain)
  object? v := v.object?.map Object.callPlain

/-- Run a target with arguments of any kind. -/
def Target.run (t : Target) (inv : Invocation) (w : World) : Outcome :=
  t.runWith .values inv w

/-- Run the target of a call, if it has one. -/
def Outcome.ofTarget (target : Except CallError Target) (inv : Invocation) (w : World) : Outcome :=
  match target with
  | .ok t => t.run inv w
  | .error e => .refused e inv.args w

/-- Call a member on an object as its receiver. -/
def Member.call (m : Member) (receiver : Object) (inv : Invocation) (w : World) : Outcome :=
  .ofTarget (m.target receiver.receiver) inv w

/-- Call the member with exactly this structural signature. -/
def Object.dispatch (o : Object) (s : Signature) (inv : Invocation) (w : World) : Outcome :=
  .ofTarget (o.targetOf s) inv w

/-- Call a member of the object's own type by name. -/
def Object.call (o : Object) (name : String) (inv : Invocation) (w : World) : Outcome :=
  .ofTarget (o.targetNamed name inv.form) inv w

/-- Call a callback with arguments of any kind. -/
def Callback.call (c : Callback) (args : List Value) : PlainCall :=
  c.callWith (fun o name args w =>
    let outcome := o.call name ⟨[], args.map .byValue⟩ w
    (outcome.result, outcome.world)) args

end StructuralAdapters
