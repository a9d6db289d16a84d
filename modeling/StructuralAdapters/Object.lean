import StructuralAdapters.Contract.Requirements
import StructuralAdapters.Script

/-!
# Types, members and objects

Objects have types, and a type has a table of members.  Generated adapter types have tables of the
same form, which is what lets an adapter be called exactly like a real object.

* `Body`, `Body.target`: how a member finds the behaviour that it runs, and the part of which instance it
  runs on;
* `Member`, `TypeDescriptor`: a callable member and the member table of a type;
* `TypeDescriptor.member?`: the member with a structural key;
* `Object`: an instance of a source type, or an adapter instance that holds a real object;
* `TypeDraft.build`: the table of a source type, with what it inherits;
* `Description.build`: the same for a source type that is described step by step.

## Bodies are chains

A member that a source type declares runs its own behaviour.  An inherited member first passes from
the instance to its base part, and a forwarding member passes from an adapter instance to the real
object that it holds.  Following the chain either ends at one behaviour and one part of one instance or
finds a receiver of the wrong type; nothing runs before the end is reached.

## Parts are named by their types

A source type that inherits says how to get from an instance to its base part.  Here the part is known by
the type of the base alone, so an instance has one part of each type, however often and by whatever way the
type is inherited.
-/

namespace StructuralAdapters

/-- Identity of a source type or of a generated adapter type. -/
structure TypeKey where
  number : Nat
  deriving DecidableEq

/-- The written form, such as `type#4`. -/
def TypeKey.display (key : TypeKey) : String := "type#" ++ key.number.repr

/-- How a member finds what it runs. -/
inductive Body where
  /-- The behaviour that the type `type` declared. -/
  | own (type : TypeKey) (behaviour : Behaviour)
  /-- A member of `base`, on the part of an instance of `type` that is of that type.  Which part this is
  depends on the two types only. -/
  | inherited (type base : TypeKey) (inner : Body)
  /-- A member of the real object that an adapter instance holds. -/
  | forward (inner : Body)

/-- A callable member of a type. -/
structure Member where
  signature : Signature
  body : Body
  /-- The name of the type that declared it, which is a base type for an inherited member. -/
  declaredOn : String

namespace Member

/-- The structural identity of the member. -/
def key (m : Member) : SignatureKey := m.signature.key

/-- The written form: the declaring type, then the signature. -/
def display (m : Member) : String := m.declaredOn ++ "::" ++ m.signature.display

end Member

/-- Member table of one type. -/
structure TypeDescriptor where
  key : TypeKey
  name : String
  members : List Member
  /-- The contracts that the type declares it implements. -/
  contracts : List Contract
  /-- Whether it is a generated adapter type. -/
  synthesized : Bool

namespace TypeDescriptor

/-- The member with a structural key; of several, the last. -/
def member? (t : TypeDescriptor) (key : SignatureKey) : Option Member :=
  t.members.reverse.find? fun m => m.key = key

/-- The members with a name, in the order of the table. -/
def membersNamed (t : TypeDescriptor) (name : String) : List Member :=
  t.members.filter fun m => m.signature.name = name

/-- Whether the type declares a contract that is, or extends, the one with this identity. -/
def implements (t : TypeDescriptor) (contract : ContractId) : Bool :=
  t.contracts.any fun c => c.isOrExtends contract

end TypeDescriptor

/-! ### Objects -/

/-- A handle to an object.  Handles with one identity stand for one instance. -/
inductive Object where
  /-- An instance of a source type. -/
  | source (identity : Nat) (type : TypeDescriptor)
  /-- An instance of an adapter type, holding the real object. -/
  | adapter (identity : Nat) (type : TypeDescriptor) (real : Object)

namespace Object

/-- The identity of the instance. -/
def identity : Object → Nat
  | source identity _ | adapter identity _ _ => identity

/-- The type of the object. -/
def type : Object → TypeDescriptor
  | source _ type | adapter _ type _ => type

/-- Whether two handles stand for one instance. -/
def same (o p : Object) : Bool := o.identity == p.identity

/-- The real object that an adapter instance holds. -/
def real? : Object → Option Object
  | source _ _ => none
  | adapter _ _ real => some real

/-- Whether the object is an adapter instance. -/
def isAdapter : Object → Bool
  | source _ _ => false
  | adapter _ _ _ => true

end Object

/-! ### Receivers -/

/-- What a member is called on: an instance seen as a part of some type, or the real object inside
an adapter instance. -/
inductive Receiver where
  | part (identity : Nat) (type : TypeKey)
  | holder (real : Object)

/-- The receiver that stands for an object. -/
def Object.receiver : Object → Receiver
  | source identity type => .part identity type.key
  | adapter _ _ real => .holder real

/-- The one behaviour that a call runs, and the part of which instance it runs on.  The parts of an
instance share its state, so the behaviour itself is run on the instance. -/
structure Target where
  behaviour : Behaviour
  identity : Nat
  /-- The type that declared the behaviour, which names the part. -/
  part : TypeKey

/-- What a receiver of the wrong type should have been. -/
inductive ReceiverMismatch where
  | sourceType
  | adapterInstance
  deriving DecidableEq

/-- Follow a body from its receiver to the behaviour that runs. -/
def Body.target : Body → Receiver → Except ReceiverMismatch Target
  | own type behaviour, .part identity actual =>
      if actual = type then .ok ⟨behaviour, identity, type⟩ else .error .sourceType
  | inherited type base inner, .part identity actual =>
      if actual = type then inner.target (.part identity base) else .error .sourceType
  | own _ _, .holder _ | inherited _ _ _, .holder _ => .error .sourceType
  | forward inner, .holder real => inner.target real.receiver
  | forward _, .part _ _ => .error .adapterInstance

/-! ### Declaring source types -/

/-- A member as a source type declares it. -/
inductive MemberDefinition where
  | method (signature : Signature) (body : List Statement)
  | property (name : String) (shape : Shape) (field : String) (expected : Option String)
  | getter (name : String) (shape : Shape) (field : String)
  | setter (name : String) (shape : Shape) (field : String) (expected : Option String)
  | event (name : String) (handler : Shape)

/-- The members that a definition stands for. -/
def MemberDefinition.entries : MemberDefinition → List (Signature × Behaviour)
  | .method signature body => [(signature, .script body)]
  | .property name shape field expected =>
      [(.getter name shape, .readField field), (.setter name shape, .writeField field expected)]
  | .getter name shape field => [(.getter name shape, .readField field)]
  | .setter name shape field expected => [(.setter name shape, .writeField field expected)]
  | .event name handler =>
      [(.adder name handler, .addHandler name), (.remover name handler, .removeHandler name)]

/-- A source type that is not built yet. -/
structure TypeDraft where
  name : String
  /-- The contracts that it implements natively. -/
  contracts : List Contract := []
  /-- The types that it inherits from. -/
  bases : List TypeDescriptor := []
  members : List MemberDefinition := []

namespace TypeDraft

/-- The members that the type declares itself. -/
def ownMembers (draft : TypeDraft) (key : TypeKey) : List Member :=
  (draft.members.flatMap MemberDefinition.entries).map fun (signature, behaviour) =>
    { signature, body := .own key behaviour, declaredOn := draft.name }

/-- The members of the base types, reached through their parts of the instance. -/
def inheritedMembers (draft : TypeDraft) (key : TypeKey) : List Member :=
  draft.bases.flatMap fun base =>
    base.members.map fun m => { m with body := .inherited key base.key m.body }

/-- Build the member table.  Own members shadow inherited ones with the same structural key, and the
contracts of the base types are taken over. -/
def build (draft : TypeDraft) (key : TypeKey) : TypeDescriptor :=
  let own := draft.ownMembers key
  let inherited := (draft.inheritedMembers key).filter fun m => !own.any fun o => o.key = m.key
  { key
    name := draft.name
    members := inherited ++ own
    contracts := draft.contracts ++ draft.bases.flatMap TypeDescriptor.contracts
    synthesized := false }

end TypeDraft

/-! ### Describing source types step by step -/

/-- One step in the description of a source type. -/
inductive Declaration where
  /-- The type implements a contract. -/
  | implement (contract : Contract)
  /-- The type takes over the members and the contracts of a base type. -/
  | inherit (base : TypeDescriptor)
  /-- The type has a member of its own. -/
  | declare (definition : MemberDefinition)

namespace Declaration

/-- The base type that the step adds. -/
def base? : Declaration → Option TypeDescriptor
  | inherit base => some base
  | implement _ | declare _ => none

/-- The member that the step adds. -/
def definition? : Declaration → Option MemberDefinition
  | declare definition => some definition
  | implement _ | inherit _ => none

/-- The contracts that the step adds. -/
def contracts : Declaration → List Contract
  | implement contract => [contract]
  | inherit base => base.contracts
  | declare _ => []

end Declaration

/-- A source type described by steps, which may stand in any order. -/
structure Description where
  name : String
  steps : List Declaration

namespace Description

/-- The bases and the members that the steps add, each in the order of the steps. -/
def draft (d : Description) : TypeDraft :=
  { name := d.name
    bases := d.steps.filterMap Declaration.base?
    members := d.steps.filterMap Declaration.definition? }

/-- Build the type.  Its members are those of the draft, whatever stands between the steps that add
them; its contracts stand in the order in which the steps added them. -/
def build (d : Description) (key : TypeKey) : TypeDescriptor :=
  { d.draft.build key with contracts := d.steps.flatMap Declaration.contracts }

end Description

/-- A draft, step by step: what it implements, then what it inherits, then its members. -/
def TypeDraft.description (draft : TypeDraft) : Description :=
  ⟨draft.name,
    draft.contracts.map .implement ++ draft.bases.map .inherit ++ draft.members.map .declare⟩

namespace TypeDraft

/-- The steps give the draft back, without the contracts, which they say themselves. -/
theorem draft_description (draft : TypeDraft) :
    draft.description.draft = { draft with contracts := [] } := by
  have hnone {α β : Type} (l : List α) : l.filterMap (fun _ => (none : Option β)) = [] :=
    List.filterMap_eq_nil_iff.mpr fun _ _ => rfl
  simp [description, Description.draft, Declaration.base?, Declaration.definition?,
    List.filterMap_map, Function.comp_def, hnone]

/-- Both ways of building a type agree. -/
theorem build_description (draft : TypeDraft) (key : TypeKey) :
    draft.description.build key = draft.build key := by
  have hcontracts : draft.description.steps.flatMap Declaration.contracts =
      draft.contracts ++ draft.bases.flatMap TypeDescriptor.contracts := by
    simp [description, Declaration.contracts, List.flatMap_map]
  simp only [Description.build, draft_description, hcontracts]
  rfl

end TypeDraft

end StructuralAdapters
