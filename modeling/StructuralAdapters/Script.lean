import StructuralAdapters.Binary64
import StructuralAdapters.Shape
import StructuralAdapters.Timestamp

/-!
# The language of member bodies

What a source type's member does is written in a small statement language.

* `Literal`: a value that is written down, so it holds no object and no callback;
* `Statement`: one statement of a body; most of them read or write the arguments of the call, or
  the fields of the instance that is called;
* `Behaviour`: what a member does, a list of statements or one of the accessors of a field or event.

Arguments and type arguments are named by position.
-/

namespace StructuralAdapters

/-- A value that is written down. -/
inductive Literal where
  | unit
  | bool (b : Bool)
  | int (n : Int64)
  | float (x : Binary64)
  | text (s : String)
  | timestamp (t : Timestamp)
  | list (items : List Literal)

/-- One statement of a member's body. -/
inductive Statement where
  /-- The literal. -/
  | produce (value : Literal)
  /-- The argument, of any kind. -/
  | argument (i : Nat)
  /-- The argument, if it is a whole number. -/
  | int (i : Nat)
  /-- The argument, if it is a truth value. -/
  | bool (i : Nat)
  /-- The argument, if it is a text. -/
  | text (i : Nat)
  /-- The argument, if it is a callback. -/
  | func (i : Nat)
  /-- The argument, if it is an object. -/
  | object (i : Nat)
  /-- The written form of the type argument. -/
  | typeArgument (i : Nat)
  /-- How many type arguments there are. -/
  | typeArgumentCount
  /-- How many arguments there are. -/
  | argumentCount
  /-- The default value of the type argument. -/
  | defaultOf (i : Nat)
  /-- Whether two type arguments are equal. -/
  | sameTypes (i j : Nat)
  /-- Whether the type argument is this shape. -/
  | isType (i : Nat) (shape : Shape)
  /-- Whether two arguments are equal. -/
  | sameArguments (i j : Nat)
  /-- The field. -/
  | getField (field : String)
  /-- Store the argument in the field. -/
  | setField (field : String) (i : Nat)
  /-- Store the literal in the field. -/
  | putField (field : String) (value : Literal)
  /-- Add the argument to the field; the sum is the result. -/
  | addToField (field : String) (i : Nat)
  /-- Write the literal to the argument's storage. -/
  | store (i : Nat) (value : Literal)
  /-- Add a number to the argument in its storage. -/
  | bump (i : Nat) (amount : Int64)
  /-- Bring the argument into a range, in its storage; whether it had to move. -/
  | clamp (i : Nat) (low high : Int64)
  /-- Write the argument `i` to the storage of `j`. -/
  | copy (i j : Nat)
  /-- Exchange two arguments in their storage. -/
  | swap (i j : Nat)
  /-- The argument between two texts. -/
  | concat (i : Nat) (before after : String)
  /-- The size of the argument's text in bytes. -/
  | byteLength (i : Nat)
  /-- The argument, if it lies in the range. -/
  | inRange (i : Nat) (low high : Int64)
  /-- Raise an error. -/
  | fail (message : String)
  /-- Call the argument with 0, 1 and so on; the list of results. -/
  | repeatCall (i times : Nat)
  /-- Call a member of the argument by name. -/
  | callMember (i : Nat) (name : String) (args : List Literal)
  /-- Write a line to the log. -/
  | log (line : String)

/-- What a member of a source type does. -/
inductive Behaviour where
  /-- Run the statements; the result is the last one's. -/
  | script (body : List Statement)
  /-- Read the field. -/
  | readField (field : String)
  /-- Write the field, if the value has the expected kind. -/
  | writeField (field : String) (expected : Option String)
  /-- Register the argument as a handler of the event. -/
  | addHandler (event : String)
  /-- Remove the argument from the handlers of the event. -/
  | removeHandler (event : String)

end StructuralAdapters
