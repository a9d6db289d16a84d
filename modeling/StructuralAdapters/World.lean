import StructuralAdapters.Entries
import StructuralAdapters.Value

/-!
# The mutable world

What calls read and change: the state of the instances, what callbacks do, and the log.

* `InstanceState`: fields and event handlers of one instance, shared by all of its parts;
* `CallbackBehaviour`: what a callback does when it is called;
* `World`: all of this together.
-/

namespace StructuralAdapters

/-- The state of one instance.  Its parts share the fields and the handlers, so what belongs to one part
only needs a name that no other part uses. -/
structure InstanceState where
  fields : Entries String Value := []
  handlers : Entries String (List Callback) := []

namespace InstanceState

/-- A field that was never set holds the unit value. -/
def field (s : InstanceState) (name : String) : Value :=
  (Entries.get? name s.fields).getD .unit

/-- Set a field. -/
def setField (s : InstanceState) (name : String) (v : Value) : InstanceState :=
  { s with fields := Entries.put name v s.fields }

/-- The handlers of an event, in the order in which they were added. -/
def handlersOf (s : InstanceState) (event : String) : List Callback :=
  (Entries.get? event s.handlers).getD []

/-- Change the handlers of an event. -/
def mapHandlers (s : InstanceState) (event : String) (f : List Callback → List Callback) :
    InstanceState :=
  { s with handlers := Entries.put event (f (s.handlersOf event)) s.handlers }

end InstanceState

/-- What a callback does when it is called. -/
inductive CallbackBehaviour where
  /-- Give back the first argument. -/
  | echo
  /-- Give back a fixed value. -/
  | constant (value : Value)
  /-- Double the first argument. -/
  | double
  /-- Write the first argument out in decimal. -/
  | decimal
  /-- Raise an error. -/
  | fail (message : String)
  /-- Write the arguments to the log, under a name. -/
  | record (name : String)
  /-- Call a member of an object by name. -/
  | member (object : Object) (name : String)

/-- One entry of the log. -/
inductive LogEntry where
  | line (text : String)
  | called (name : String) (args : List Value)

/-- Everything that calls can read and change. -/
structure World where
  /-- The state of the source instances, by identity. -/
  instances : Entries Nat InstanceState := []
  /-- What each callback does. -/
  callbacks : Entries Callback CallbackBehaviour := []
  /-- The log, latest entry first. -/
  log : List LogEntry := []

namespace World

/-- The state of an instance. -/
def state (w : World) (identity : Nat) : InstanceState :=
  (Entries.get? identity w.instances).getD {}

/-- Change the state of an instance. -/
def mapState (w : World) (identity : Nat) (f : InstanceState → InstanceState) : World :=
  { w with instances := Entries.put identity (f (w.state identity)) w.instances }

/-- Append an entry to the log. -/
def append (w : World) (entry : LogEntry) : World :=
  { w with log := entry :: w.log }

end World

end StructuralAdapters
