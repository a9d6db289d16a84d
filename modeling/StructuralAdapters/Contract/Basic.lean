import StructuralAdapters.Signature

/-!
# Contracts

A **contract** is a named set of required members: the structural interface that an adapter makes
an object satisfy.  Contracts may extend each other and may be generic.

* `ContractId`: the identity of a contract, a build serial with type arguments;
* `Contract`: a definition or an instantiation, with the contracts it extends;
* `Contract.isOpen`: some type parameter has no argument yet;
* `ContractDraft`, `ContractDraft.build`: contracts made from declared members.

## Identity is never the name

Two contracts may share a name and still be different.  An identity is the serial of the
definition and the type arguments it was instantiated with, so all instantiations of one definition
share its serial.  Apart from its identity a contract has a *handle*, the number of the value that
was built: instantiating twice with the same arguments gives two handles and one identity.
-/

namespace StructuralAdapters

/-- Identity of a (possibly instantiated) contract. -/
structure ContractId where
  /-- The serial of the definition. -/
  origin : Nat
  /-- The type arguments it was instantiated with. -/
  args : List Shape
  deriving DecidableEq

/-- The written form, such as `#3<int>`. -/
def ContractId.display (id : ContractId) : String :=
  "#" ++ id.origin.repr
    ++ (if id.args.isEmpty then "" else "<" ++ Shape.displayList id.args ++ ">")

/-- A contract definition or an instantiation of one. -/
structure Contract where
  /-- Tells apart values that were built separately. -/
  handle : Nat
  id : ContractId
  name : String
  /-- Names of the type parameters; an instantiation keeps its definition's. -/
  typeParams : List String
  /-- The contracts it extends directly, in the order of declaration. -/
  parents : List Contract
  /-- The members it declares itself. -/
  members : List Signature

namespace Contract

/-- The number of its type parameters. -/
def arity (c : Contract) : Nat := c.typeParams.length

/-- The name with the type arguments, or with the parameters' names for a definition. -/
def displayName (c : Contract) : String :=
  if c.typeParams.isEmpty then c.name
  else c.name ++ "<" ++ ", ".intercalate
    (if c.id.args.isEmpty then c.typeParams else c.id.args.map Shape.display) ++ ">"

/-- A generic definition that is not instantiated, or an instantiation whose arguments still
mention contract-level placeholders. -/
def isOpen (c : Contract) : Bool :=
  (!c.typeParams.isEmpty && c.id.args.isEmpty) || c.id.args.any Shape.hasTypeParams

mutual

/-- The number of extension paths that leave a contract, the empty one included. -/
def weight : Contract → Nat
  | ⟨_, _, _, _, parents, _⟩ => weightAll parents + 1

/-- The weights of several contracts together. -/
def weightAll : List Contract → Nat
  | [] => 0
  | c :: rest => c.weight + weightAll rest

end

theorem weight_eq (c : Contract) : c.weight = weightAll c.parents + 1 := by
  cases c; rfl

@[simp] theorem weightAll_append (cs ds : List Contract) :
    weightAll (cs ++ ds) = weightAll cs + weightAll ds := by
  induction cs with
  | nil => simp [weightAll]
  | cons c cs ih => simp [weightAll, ih, Nat.add_assoc]

@[simp] theorem weightAll_reverse (cs : List Contract) :
    weightAll cs.reverse = weightAll cs := by
  induction cs with
  | nil => rfl
  | cons c cs ih => simp [weightAll, ih, Nat.add_comm]

/-- Following one extension leaves fewer paths. -/
theorem weightAll_parents_lt (c : Contract) : weightAll c.parents < c.weight := by
  rw [weight_eq]; exact Nat.lt_succ_self _

theorem weight_pos (c : Contract) : 0 < c.weight := by
  rw [weight_eq]; exact Nat.succ_pos _

end Contract

/-! ### Building -/

/-- The numbers that the next contracts take. -/
structure ContractNumbers where
  /-- The serial of the next definition. -/
  origin : Nat := 1
  /-- The handle of the next contract. -/
  handle : Nat := 0

/-- Which accessors a property requires. -/
inductive PropertyAccess where
  | read
  | write
  | readWrite
  deriving DecidableEq

/-- A member as a contract declares it. -/
inductive MemberDeclaration where
  | method (signature : Signature)
  | property (name : String) (shape : Shape) (access : PropertyAccess)
  | event (name : String) (handler : Shape)

/-- Properties and events are made of accessors, so that only plain signatures remain. -/
def MemberDeclaration.signatures : MemberDeclaration → List Signature
  | .method signature => [signature]
  | .property name shape .read => [.getter name shape]
  | .property name shape .write => [.setter name shape]
  | .property name shape .readWrite => [.getter name shape, .setter name shape]
  | .event name handler => [.adder name handler, .remover name handler]

/-- A contract that is not built yet. -/
structure ContractDraft where
  name : String
  typeParams : List String := []
  parents : List Contract := []
  members : List MemberDeclaration := []

/-- Build a contract: it takes the next serial and has no type arguments. -/
def ContractDraft.build (draft : ContractDraft) (numbers : ContractNumbers) :
    Contract × ContractNumbers :=
  ({ handle := numbers.handle
     id := ⟨numbers.origin, []⟩
     name := draft.name
     typeParams := draft.typeParams
     parents := draft.parents
     members := draft.members.flatMap MemberDeclaration.signatures },
   { origin := numbers.origin + 1, handle := numbers.handle + 1 })

end StructuralAdapters
