import StructuralAdapters.Adapter
import StructuralAdapters.Contracted
import StructuralAdapters.SlotCache

/-!
# The synthesizer

A **synthesizer** owns a cache of adapter types and hands out adapter instances.

* `AdapterKey`: the identities of a contract and of a source type, under which adapters are cached;
* `Synthesizer`: cache, settings, how often adapters were generated, and which native
  implementations have been checked;
* `Supply`: the numbers that new types and objects take;
* `Synthesizer.adapterFor`: the adapter type for a contract and a source type;
* `Synthesizer.verifyNative`: whether a type that declares a contract really satisfies it;
* `Synthesizer.wrap`, `Synthesizer.coerce`: an object seen through a contract.

## Wrapping and coercing

`wrap` always makes an adapter instance.  `coerce` returns the object itself when its type declares
the contract, once the declaration has been checked, and wraps it otherwise.
-/

namespace StructuralAdapters

/-- What adapters are cached under. -/
structure AdapterKey where
  contract : ContractId
  source : TypeKey
  deriving DecidableEq

/-- The key for a contract and a source type. -/
def AdapterKey.of (contract : Contract) (source : TypeDescriptor) : AdapterKey :=
  ⟨contract.id, source.key⟩

/-- The cache of adapter types. -/
abbrev AdapterCache := SlotCache AdapterKey AdapterType

/-- Owns a cache of adapter types. -/
structure Synthesizer where
  settings : Settings := {}
  cache : AdapterCache := {}
  /-- How often an adapter type was generated, failures included. -/
  generations : Nat := 0
  /-- The native implementations that have been checked with success. -/
  verified : List AdapterKey := []

/-- The numbers that new types and objects take. -/
structure Supply where
  type : Nat := 1
  object : Nat := 0

namespace Supply

/-- The key of the next type. -/
def typeKey (supply : Supply) : TypeKey := ⟨supply.type⟩

/-- The supply after a type was made. -/
def afterType (supply : Supply) : Supply := { supply with type := supply.type + 1 }

/-- The supply after an object was made. -/
def afterObject (supply : Supply) : Supply := { supply with object := supply.object + 1 }

end Supply

/-- Generate an adapter type with the next type key, which a failure does not take. -/
def Supply.generate (settings : Settings) (contract : Contract) (source : TypeDescriptor)
    (supply : Supply) : Except SynthesisError AdapterType × Supply :=
  match AdapterType.generate settings contract source supply.typeKey with
  | .ok adapter => (.ok adapter, supply.afterType)
  | .error e => (.error e, supply)

/-- What a request to a synthesizer leaves behind. -/
structure Reply (α : Type) where
  result : Except SynthesisError α
  synthesizer : Synthesizer
  supply : Supply

namespace Synthesizer

/-- The adapter type for a contract and a source type, generated on the first request. -/
def adapterFor (s : Synthesizer) (contract : Contract) (source : TypeDescriptor)
    (supply : Supply) : Reply AdapterType :=
  if contract.isOpen then ⟨.error (.openContract contract.displayName), s, supply⟩
  else
    let generate := fun (generations, supply) =>
      let (result, supply') := Supply.generate s.settings contract source supply
      (result, generations + 1, supply')
    let (result, cache, generations, supply') :=
      s.cache.getOrGenerate (.of contract source) generate (s.generations, supply)
    ⟨result, { s with cache, generations }, supply'⟩

/-- Check that a type which declares the contract has a member for every requirement.  A pair that
was checked with success is not checked again. -/
def verifyNative (s : Synthesizer) (contract : Contract) (source : TypeDescriptor) :
    Except SynthesisError Unit × Synthesizer :=
  let key := AdapterKey.of contract source
  if key ∈ s.verified then (.ok (), s)
  else
    match source.resolveAll s.settings contract.requirements with
    | .ok _ => (.ok (), { s with verified := key :: s.verified })
    | .error e => (.error e, s)

/-- Wrap an object in a new adapter instance. -/
def wrap (s : Synthesizer) (contract : Contract) (o : Object) (supply : Supply) :
    Reply Contracted :=
  match s.adapterFor contract o.type supply with
  | ⟨.ok adapter, s', supply'⟩ =>
      ⟨.ok ⟨contract, adapter.instantiate supply'.object o⟩, s', supply'.afterObject⟩
  | ⟨.error e, s', supply'⟩ => ⟨.error e, s', supply'⟩

/-- See an object through a contract: the object itself where its type declares the contract, an
adapter instance otherwise. -/
def coerce (s : Synthesizer) (contract : Contract) (o : Object) (supply : Supply) :
    Reply Contracted :=
  if o.type.implements contract.id then
    match s.verifyNative contract o.type with
    | (.ok (), s') => ⟨.ok ⟨contract, o⟩, s', supply⟩
    | (.error e, s') => ⟨.error e, s', supply⟩
  else s.wrap contract o supply

/-- Replies to the same request of several callers, one after the other. -/
def wrapEach (contract : Contract) (o : Object) :
    (callers : Nat) → Synthesizer → Supply →
      List (Except SynthesisError Contracted) × Synthesizer × Supply
  | 0, s, supply => ([], s, supply)
  | callers + 1, s, supply =>
      let reply := s.wrap contract o supply
      let (others, s', supply') := wrapEach contract o callers reply.synthesizer reply.supply
      (reply.result :: others, s', supply')

end Synthesizer

/-- The instance of the source type `type` behind an object, through any number of adapters. -/
def Object.revert (type : TypeKey) : Object → Option Object
  | o@(source _ actual) => if actual.key = type then some o else none
  | adapter _ _ real => real.revert type

end StructuralAdapters
