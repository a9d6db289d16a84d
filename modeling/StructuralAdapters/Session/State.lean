import StructuralAdapters.Session.Answer
import StructuralAdapters.Session.Names
import StructuralAdapters.Session.Step

/-!
# The state of a session

* `Session`: what the names of a session stand for, and what its steps share;
* `Session.nameOfObject`, `Session.shown`: objects, callbacks and values as they are answered;
* `Session.Run`: a computation of a step, and the look-ups that it makes.

## Which binding counts

Objects and values typed as a contract share their names: wrapping an object binds both.  An object
is found by the first binding of its name, so a name keeps meaning the object that it meant before,
and everything else by the latest binding.
-/

namespace StructuralAdapters

/-- The state of a session. -/
structure Session where
  contracts : Names Contract := []
  types : Names TypeDescriptor := []
  callbacks : Names Callback := []
  adapters : Names AdapterType := []
  objects : Names Object := []
  wrapped : Names Contracted := []
  /-- The synthesizers; two of them are there from the start. -/
  synthesizers : Entries String Synthesizer := [("main", {}), ("global", {})]
  /-- The numbers that the next contracts take. -/
  numbers : ContractNumbers := {}
  /-- The numbers that the next types and objects take. -/
  supply : Supply := {}
  world : World := {}
  /-- The arguments by reference of the current step's call, afterwards. -/
  refs : List Value := []

namespace Session

/-! ### Showing -/

/-- The name that an instance was given first. -/
def nameOfObject (s : Session) (o : Object) : Option String :=
  s.objects.nameOf? o.same

/-- The name that a callback was given first. -/
def nameOfCallback (s : Session) (c : Callback) : Option String :=
  s.callbacks.nameOf? (· == c)

/-- A value as it is answered. -/
def shown (s : Session) : Value → Shown :=
  Term.ofValue s.nameOfObject s.nameOfCallback

/-- An entry of the log as it is answered. -/
def shownEntry (s : Session) : LogEntry → ShownEntry
  | .line text => .line text
  | .called name args => .called name (args.map s.shown)

/-- A value typed as a contract as it is answered. -/
def view (s : Session) (k : Contracted) : View :=
  { isAdapter := k.isAdapter
    contract := k.contract.displayName
    type := k.object.type.name
    object := s.nameOfObject k.object }

/-! ### Looking up -/

/-- A computation of a step.  Its changes stay when it fails. -/
abbrev Run := ExceptT Fault (StateM Session)

namespace Run

/-- What a name stands for, by a look-up in one space of names. -/
def resolved {α : Type} (find : String → Option α) (name : String) : Except Fault α :=
  (find name).elim (.error (.undefined name)) .ok

/-- What a name stands for; `find` looks it up. -/
def lookup {α : Type} (find : Session → String → Option α) (name : String) : Run α := do
  MonadExcept.ofExcept (resolved (find (← get)) name)

/-- The contract with a name. -/
def contract : String → Run Contract := lookup fun s => s.contracts.latest?

/-- The declared type with a name. -/
def type : String → Run TypeDescriptor := lookup fun s => s.types.latest?

/-- The adapter type with a name. -/
def adapter : String → Run AdapterType := lookup fun s => s.adapters.latest?

/-- The callback with a name. -/
def callback : String → Run Callback := lookup fun s => s.callbacks.latest?

/-- The object with a name. -/
def object : String → Run Object := lookup fun s => s.objects.first?

/-- The value typed as a contract with a name. -/
def wrapped : String → Run Contracted := lookup fun s => s.wrapped.latest?

/-- The synthesizer with a name. -/
def synthesizer : String → Run Synthesizer :=
  lookup fun s name => Entries.get? name s.synthesizers

/-- The member table that is meant. -/
def table : TableName → Run TypeDescriptor
  | .type name => type name
  | .adapter name => return (← adapter name).descriptor
  | .object name => return (← object name).type

/-- The value of a term. -/
def value (t : Term String) : Run Value := do
  let s ← get
  MonadExcept.ofExcept (t.evaluate (resolved s.objects.first?) (resolved s.callbacks.latest?))

/-- The invocation with these arguments. -/
def invocation (terms : CallTerms) : Run Invocation := do
  let args ← terms.args.mapM fun (a : Passed) => do
    let v ← value a.term
    return if a.byRef then Arg.byRef v else Arg.byValue v
  return ⟨terms.typeArgs, args⟩

end Run

end Session

end StructuralAdapters
