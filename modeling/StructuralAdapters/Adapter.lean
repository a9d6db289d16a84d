import StructuralAdapters.Layout
import StructuralAdapters.Matching
import StructuralAdapters.Settings

/-!
# Adapter types

An **adapter type** makes the objects of one source type satisfy one contract: each of its members
forwards to the member of the source type that the requirement was bound to.

* `TypeDescriptor.resolveAll`: every requirement bound, or every failure;
* `Binding`, `AdapterType`: what an adapter type is made of;
* `AdapterType.generate`: the adapter type for a contract and a source type;
* `AdapterType.layout`, `AdapterType.fingerprint`, `AdapterType.listing`: its layout, as components,
  as a hash and as a text;
* `AdapterType.instantiate`: an adapter instance that holds a real object.

Every requirement is bound before anything is made, so a failure leaves nothing behind.
-/

namespace StructuralAdapters

namespace TypeDescriptor

/-- Bind each requirement that can be bound, and collect the failures of the others; both in the
order of the requirements. -/
def resolveEach (source : TypeDescriptor) (strict : Bool) :
    List Requirement → List (Requirement × Member) × List SynthesisError
  | [] => ([], [])
  | r :: rest =>
      let (bound, failures) := resolveEach source strict rest
      match source.resolve strict r with
      | .ok member => ((r, member) :: bound, failures)
      | .error e => (bound, e :: failures)

/-- Bind every requirement.  If some cannot be bound, all failures are reported, or the first one
alone, as the settings say. -/
def resolveAll (source : TypeDescriptor) (settings : Settings) (requirements : List Requirement) :
    Except SynthesisError (List (Requirement × Member)) :=
  match source.resolveEach settings.strictReturns requirements with
  | (bound, []) => .ok bound
  | (_, first :: others) =>
      .error (if settings.reportAllMissing then .collapse (first :: others) else first)

end TypeDescriptor

/-- How one required member was bound. -/
structure Binding where
  /-- The member as the contract declares it. -/
  required : Signature
  /-- The member of the source type that it forwards to. -/
  bound : Signature
  /-- The type that declared the bound member. -/
  declaredOn : String
  /-- The contract that declared the requirement. -/
  owner : String
  deriving DecidableEq

/-- A generated adapter type for one contract and one source type. -/
structure AdapterType where
  name : String
  contract : Contract
  source : TypeDescriptor
  /-- The member table of the adapter type itself. -/
  descriptor : TypeDescriptor
  bindings : List Binding

namespace AdapterType

/-- The name of the adapter type: contract, source type and suffix. -/
def nameFor (settings : Settings) (contract : Contract) (source : TypeDescriptor) : String :=
  contract.displayName ++ "_" ++ source.name ++ "_" ++ settings.adapterSuffix

/-- The adapter type whose members forward to the bound ones. -/
def ofBound (name : String) (key : TypeKey) (contract : Contract) (source : TypeDescriptor)
    (bound : List (Requirement × Member)) : AdapterType :=
  { name, contract, source
    descriptor :=
      { key, name
        members := bound.map fun (r, m) =>
          { signature := r.signature, body := .forward m.body, declaredOn := name }
        contracts := [contract]
        synthesized := true }
    bindings := bound.map fun (r, m) =>
      { required := r.signature, bound := m.signature, declaredOn := m.declaredOn
        owner := r.owner } }

/-- Generate the adapter type that makes `source` satisfy `contract`; its type takes `key`. -/
def generate (settings : Settings) (contract : Contract) (source : TypeDescriptor)
    (key : TypeKey) : Except SynthesisError AdapterType :=
  if contract.isOpen then .error (.openContract contract.displayName)
  else
    match source.resolveAll settings contract.requirements with
    | .ok bound => .ok (ofBound (nameFor settings contract source) key contract source bound)
    | .error e => .error e

/-- The components of one binding in the layout. -/
def bindingLayout (b : Binding) : List LayoutComponent :=
  [.text b.required.display, .text b.bound.display,
    .flag (MatchMode.of b.required == .erased)]

/-- The layout of the adapter type. -/
def layout (a : AdapterType) : List LayoutComponent :=
  .text a.contract.displayName :: .text a.source.name :: a.bindings.flatMap bindingLayout

/-- The hash of the layout; adapters with one layout have one fingerprint. -/
def fingerprint (a : AdapterType) : String := LayoutComponent.fingerprint a.layout

/-- The layout as a text, one line for each binding. -/
def listing (a : AdapterType) : String :=
  "adapter " ++ a.name ++ " : " ++ a.contract.displayName ++ "\n"
    ++ "  real: " ++ a.source.name ++ "\n"
    ++ String.join (a.bindings.map fun b =>
        "  " ++ b.required.display ++ " => " ++ b.declaredOn ++ "::" ++ b.bound.display ++ "\n")

/-- An adapter instance that holds `real`. -/
def instantiate (a : AdapterType) (identity : Nat) (real : Object) : Object :=
  .adapter identity a.descriptor real

end AdapterType

end StructuralAdapters
