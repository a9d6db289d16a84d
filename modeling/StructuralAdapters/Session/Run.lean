import StructuralAdapters.Session.State

/-!
# Running a session

* `Session.Run.build`, `Session.Run.level`: contracts, and towers of them;
* `Session.Run.ask`, `Session.Run.bindWrapped`: requests to a synthesizer;
* `Session.Run.finish`, `Session.Run.fireAll`: calls;
* `Session.Run.answer`: the answer of one step;
* `Session.step`, `Session.run`: steps in their order.

A step that fails binds nothing, but what it changed before it failed stays changed: a member may
have written to an argument by reference, and a failed generation is counted.
-/

namespace StructuralAdapters

namespace Session.Run

/-! ### Contracts -/

/-- Build a contract. -/
def build (draft : ContractDraft) : Run Contract := do
  let s ← get
  let (c, numbers) := draft.build s.numbers
  set { s with numbers }
  return c

/-- Instantiate a contract. -/
def instantiate (c : Contract) (args : List Shape) : Run Contract := do
  let s ← get
  match c.instantiate args s.numbers with
  | .ok (instantiated, numbers) =>
      set { s with numbers }
      return instantiated
  | .error e => throw (.instantiation e)

/-- Give a contract a name. -/
def bindContract (made : Option String) (c : Contract) : Run Unit :=
  modify fun s => { s with contracts := s.contracts.bind made c }

/-- One level of a tower on top of a contract: a contract that extends it by one method, or two
contracts that extend it and one that extends both. -/
def level (diamond : Bool) (typeParams : List String) (base : Contract) (i : Nat) :
    Run Contract := do
  if diamond then
    let left ← build { name := "ILeft" ++ i.repr, typeParams, parents := [base] }
    let right ← build { name := "IRight" ++ i.repr, typeParams, parents := [base] }
    build { name := "ITop" ++ i.repr, typeParams, parents := [left, right] }
  else
    build
      { name := "ILevel" ++ i.repr, typeParams, parents := [base]
        members := [.method (.method ("Level" ++ i.repr))] }

/-- The contract found by following extensions by position. -/
def follow (c : Contract) : List Nat → Option Contract
  | [] => some c
  | i :: path => c.parents[i]?.bind fun parent => follow parent path

/-- The whole of a contract, or its identity alone. -/
def contractAnswer (quiet : Bool) (c : Contract) : Answer :=
  if quiet then .identity c.id else .contract c

/-! ### Types and objects -/

/-- Declare a source type. -/
def declare (d : Description) : Run TypeDescriptor := do
  let s ← get
  set { s with supply := s.supply.afterType }
  return d.build s.supply.typeKey

/-- Make an instance of a source type. -/
def create (type : TypeDescriptor) (fields : List (String × Value)) : Run Object := do
  let s ← get
  let identity := s.supply.object
  let initial : InstanceState := fields.foldl (fun state (name, v) => state.setField name v) {}
  set
    { s with
      supply := s.supply.afterObject
      world := s.world.mapState identity fun _ => initial }
  return .source identity type

/-- What a callback does. -/
def behaviour (made : Option String) : CallbackTerm → Run CallbackBehaviour
  | .echo => return .echo
  | .constant t => return .constant (← value t)
  | .double => return .double
  | .decimal => return .decimal
  | .fail message => return .fail message
  | .record => return .record (made.getD "")
  | .member o name => return .member (← object o) name

/-- Make a callback. -/
def createCallback (b : CallbackBehaviour) : Run Callback := do
  let s ← get
  let c : Callback := ⟨s.world.callbacks.length⟩
  set { s with world := { s.world with callbacks := Entries.put c b s.world.callbacks } }
  return c

/-! ### Synthesizers -/

/-- Make a request to a synthesizer and keep what it leaves behind. -/
def ask {α : Type} (name : String) (request : Synthesizer → Supply → Reply α) : Run α := do
  let synthesizer ← synthesizer name
  let s ← get
  let reply := request synthesizer s.supply
  set
    { s with
      synthesizers := Entries.put name reply.synthesizer s.synthesizers
      supply := reply.supply }
  match reply.result with
  | .ok a => return a
  | .error e => throw (.synthesis e)

/-- Generate an adapter type without a synthesizer. -/
def generate (settings : Settings) (c : Contract) (source : TypeDescriptor) :
    Run AdapterType := do
  let s ← get
  let (result, supply) := Supply.generate settings c source s.supply
  set { s with supply }
  match result with
  | .ok a => return a
  | .error e => throw (.synthesis e)

/-- The cached adapter type, or a new one unless the generator has to refuse; and how often the
generator ran. -/
def fromCache (refuse : Bool) (c : Contract) (source : TypeDescriptor) (s : Synthesizer)
    (supply : Supply) : Reply (Nat × AdapterType) :=
  let generate := fun (runs, supply) =>
    if refuse then (.error (.openContract "refused"), runs + 1, supply)
    else
      let (result, supply') := Supply.generate s.settings c source supply
      (result, runs + 1, supply')
  let (result, cache, runs, supply') :=
    s.cache.getOrGenerate (.of c source) generate (0, supply)
  ⟨result.map fun a => (runs, a), { s with cache }, supply'⟩

/-- Wrap an object several times at once. -/
def crowd (c : Contract) (o : Object) (callers : Nat) (s : Synthesizer) (supply : Supply) :
    Reply Crowd :=
  let (results, s', supply') := s.wrapEach c o callers supply
  let wrapped := results.filterMap Except.toOption
  let keys := wrapped.map fun k => k.object.type.key
  ⟨.ok
    { generated := s'.generations - s.generations
      wrapped := wrapped.length
      oneType := keys.all fun key => some key == keys.head?
      cached := s'.cache.size }, s', supply'⟩

/-- Give a value typed as a contract a name, and its object too. -/
def bindWrapped (made : Option String) (k : Contracted) : Run Answer := do
  modify fun s =>
    { s with wrapped := s.wrapped.bind made k, objects := s.objects.bind made k.object }
  return .view ((← get).view k)

/-- Give an adapter type a name. -/
def bindAdapter (made : Option String) (a : AdapterType) : Run Answer := do
  modify fun s => { s with adapters := s.adapters.bind made a }
  return .adapter a

/-! ### Calls -/

/-- The result of a call, after which its arguments by reference are known. -/
def finish (call : World → Outcome) : Run Value := do
  let s ← get
  let outcome := call s.world
  set { s with world := outcome.world, refs := outcome.refs }
  match outcome.result with
  | .ok v => return v
  | .error e => throw (.call e)

/-- The result of a call as an answer. -/
def called (call : World → Outcome) : Run Answer := do
  let v ← finish call
  return .value ((← get).shown v)

/-- Call callbacks with the same arguments; the first error ends it. -/
def fireAll (args : List Value) : List Callback → World → Except Failure (List Value) × World
  | [], w => (.ok [], w)
  | c :: rest, w =>
      match c.call args w with
      | (.ok v, w') =>
          let (results, w'') := fireAll args rest w'
          (results.map (v :: ·), w'')
      | (.error e, w') => (.error e, w')

/-- Call the handlers of an object's event with the object and further arguments. -/
def fire (o : Object) (event : String) (args : List Value) : Run (List Value) := do
  let s ← get
  let handlers := (s.world.state o.identity).handlersOf event
  let (result, world) := fireAll (.object o :: args) handlers s.world
  set { s with world }
  match result with
  | .ok vs => return vs
  | .error e => throw (.call e)

/-! ### Steps -/

/-- The answer of a step. -/
def answer : Step → Run Answer
  | .contract made name typeParams parents members quiet => do
      let parents ← parents.mapM contract
      let c ← build { name, typeParams, parents, members }
      bindContract made c
      return contractAnswer quiet c
  | .instantiate made definition args quiet => do
      let c ← instantiate (← contract definition) args
      bindContract made c
      return contractAnswer quiet c
  | .tower made base levels diamond typeParams => do
      let top ← (List.range levels).foldlM (level diamond typeParams) (← contract base)
      bindContract made top
      return .tower top
  | .extended made name path => do
      match follow (← contract name) path with
      | some c =>
          bindContract made c
          return .ancestor c
      | none => throw (.undefined "extends")
  | .contractInfo name => return .contract (← contract name)
  | .relate left right => do
      let a ← contract left
      let b ← contract right
      return .relation
        { sameIdentity := a.id = b.id
          shared := a.handle = b.handle
          leftExtends := a.isOrExtends b.id
          rightExtends := b.isOrExtends a.id }
  | .type made name contracts bases members => do
      let bases ← bases.mapM type
      let contracts ← contracts.mapM contract
      let t ← declare (TypeDraft.description { name, contracts, bases, members })
      modify fun s => { s with types := s.types.bind made t }
      return .type t
  | .typeInfo t => return .type (← table t)
  | .implements t name => do
      let t ← table t
      return .flag (t.implements (← contract name).id)
  | .membersNamed t name => return .members ((← table t).membersNamed name)
  | .member t signature => return .member ((← table t).member? signature.key)
  | .new made name fields => do
      let t ← type name
      let fields ← fields.mapM fun (field, term) => return (field, ← value term)
      let o ← create t fields
      modify fun s => { s with objects := s.objects.bind made o }
      return .made o
  | .same left right => do
      let a ← object left
      let b ← object right
      let sameType := a.type.key = b.type.key
      return .sameness (a.same b) sameType sameType
  | .isInstance name o => do
      let t ← type name
      let o ← object o
      return .flag (!o.isAdapter && o.type.key = t.key)
  | .state name => do
      let o ← object name
      let s ← get
      let state := s.world.state o.identity
      return .state (state.fields.map fun (field, v) => (field, s.shown v))
        (state.handlers.map fun (event, cs) => (event, cs.map fun c => s.shown (.func c)))
  | .fire name event args => do
      let o ← object name
      let args ← args.mapM value
      let results ← fire o event args
      return .values (results.map (← get).shown)
  | .callback made term => do
      let c ← createCallback (← behaviour made term)
      modify fun s => { s with callbacks := s.callbacks.bind made c }
      return .nothing
  | .equal left right => do
      let a ← value left
      let b ← value right
      return .equality (a.same b) a b
  | .synthesizer made settings => do
      if let some name := made then
        modify fun s =>
          { s with synthesizers := Entries.put name { settings } s.synthesizers }
      return .settings settings
  | .wrap made c o z => do
      let c ← contract c
      let _ ← synthesizer z
      let o ← object o
      bindWrapped made (← ask z fun s => s.wrap c o)
  | .coerce made c o z => do
      let c ← contract c
      let o ← object o
      bindWrapped made (← ask z fun s => s.coerce c o)
  | .contracted name => do
      let k ← wrapped name
      return .view ((← get).view k)
  | .verify t c z => do
      let c ← contract c
      let t ← table t
      ask z fun s supply =>
        let (result, s') := s.verifyNative c t
        ⟨result, s', supply⟩
      return .nothing
  | .unwrap name => do
      let o ← object name
      return .name (o.real?.bind (← get).nameOfObject)
  | .revert name start => do
      let t ← type name
      let o ← match start with
        | .wrapped k => do pure (← wrapped k).object
        | .object o => object o
      return .name ((o.revert t.key).bind (← get).nameOfObject)
  | .revertUnrelated name => do
      let o ← object name
      return .flag (o.revert ⟨0⟩).isSome
  | .adapter made t c z => do
      let c ← contract c
      let t ← table t
      bindAdapter made (← ask z fun s => s.adapterFor c t)
  | .generate made t c settings => do
      let c ← contract c
      let t ← table t
      bindAdapter made (← generate settings c t)
  | .resolve t requirement strict => do
      match (← table t).resolve strict requirement with
      | .ok m => return .member (some m)
      | .error e => throw (.synthesis e)
  | .resolveAll t c settings => do
      let c ← contract c
      let t ← table t
      match t.resolveAll settings c.requirements with
      | .ok bound => return .resolved bound
      | .error e => throw (.synthesis e)
  | .sameAdapter left right => do
      let a ← adapter left
      let b ← adapter right
      return .flag (a.descriptor.key = b.descriptor.key)
  | .counts z => do
      let s ← synthesizer z
      return .counts s.generations s.cache.size s.cache.isEmpty
  | .cached t c z => do
      let t ← table t
      let c ← contract c
      let s ← synthesizer z
      let key := AdapterKey.of c t
      return .cached (s.cache.contains key) ((s.cache.lookup key).map (·.name))
  | .store stored t c z => do
      let a ← adapter stored
      let t ← table t
      let c ← contract c
      ask z fun s supply =>
        ⟨.ok (), { s with cache := s.cache.store (.of c t) a }, supply⟩
      return .nothing
  | .getOrGenerate t c z refuse => do
      let c ← contract c
      let t ← table t
      let (runs, a) ← ask z (fromCache refuse c t)
      return .generated runs a.name
  | .concurrent c o z callers => do
      let c ← contract c
      let o ← object o
      return .crowd (← ask z (crowd c o callers))
  | .call (.wrapped k) name args => do
      let k ← wrapped k
      let inv ← invocation args
      called (k.call name inv)
  | .call (.object o) name args => do
      let o ← object o
      let inv ← invocation args
      called (o.call name inv)
  | .invoke (.wrapped k) signature args => do
      let k ← wrapped k
      let inv ← invocation args
      called (k.invoke signature inv)
  | .invoke (.object o) signature args => do
      let o ← object o
      let inv ← invocation args
      called (o.dispatch signature inv)
  | .memberCall t signature receiver args => do
      match (← table t).member? signature.key with
      | some m =>
          let o ← object receiver
          let inv ← invocation args
          called (m.call o inv)
      | none => throw (.undefined "member")
  | .get k property => do
      called ((← wrapped k).get property)
  | .set k property term => do
      let v ← value term
      let _ ← finish ((← wrapped k).set property v)
      return .nothing
  | .subscribe k event handler => do
      let c ← callback handler
      let _ ← finish ((← wrapped k).subscribe event c)
      return .nothing
  | .unsubscribe k event handler => do
      let c ← callback handler
      let _ ← finish ((← wrapped k).unsubscribe event c)
      return .nothing

end Session.Run

namespace Session

/-- Run one step. -/
def step (s : Session) (step : Step) : Response × Session :=
  let start := { s with refs := [], world := { s.world with log := [] } }
  let (result, s') := (Run.answer step).run start
  ({ result
     refs := s'.refs.map s'.shown
     log := s'.world.log.reverse.map s'.shownEntry }, s')

/-- Run steps in their order, each on what those before it left. -/
def run (s : Session) : List Step → List Response
  | [] => []
  | first :: rest =>
      let (response, s') := s.step first
      response :: run s' rest

end Session

end StructuralAdapters
