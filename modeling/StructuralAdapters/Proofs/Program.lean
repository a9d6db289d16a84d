import Mathlib.Logic.Function.Basic
import Mathlib.Logic.Relation
import StructuralAdapters.Proofs.Requests
import StructuralAdapters.Proofs.Wrapping

/-!
# Programs that use synthesizers

A program declares source types, makes instances of them, and sends requests to any number of synthesizers, in
any order.  It can also run the generator itself, and put adapter types into caches.

* `Program` — the types and objects that a program has, its synthesizers, and the calls that it has made;
* `Program.Step`, `Program.Reachable` — one step of a program, and what any number of steps can lead to;
* `Program.Sound` — keys identify types, and what a synthesizer remembers was true when it was remembered;
* `Program.Reachable.sound` — every program that can be reached is sound.

## Two parameters

The contracts that requests mention are taken as given: a predicate says which are `known`.  What a program puts
into caches with its own hands is limited to what is `storable`; a program that leaves that to its synthesizers
is one for which nothing is.

## The log

`Program.calls` records each call with the state that it found.  No step reads the log.
-/

namespace StructuralAdapters

/-! ### Programs -/

/-- A request to one of the synthesizers, with what it found. -/
structure Call where
  /-- The number of the synthesizer. -/
  target : Nat
  request : Request
  /-- The synthesizer before the call. -/
  before : Synthesizer
  /-- The numbers before the call. -/
  supply : Supply

/-- What the request was answered with. -/
def Call.reply (call : Call) : Reply Granted := call.before.serve call.supply call.request

/-- The object that a reply hands out, if it does. -/
def Reply.objects (reply : Reply Granted) : List Object :=
  match reply.result with
  | .ok (.value k) => [k.object]
  | _ => []

theorem Reply.mem_objects {reply : Reply Granted} {o : Object} (h : o ∈ reply.objects) :
    ∃ k : Contracted, reply.result = .ok (.value k) ∧ o = k.object := by
  unfold objects at h
  split at h
  · rename_i k hk
    exact ⟨k, hk, List.mem_singleton.mp h⟩
  · exact absurd h List.not_mem_nil

/-- A program, as far as synthesizers are concerned. -/
structure Program where
  /-- The source types that it has declared. -/
  declared : List TypeDescriptor := []
  /-- The adapter types that have been generated. -/
  adapters : List AdapterType := []
  /-- The objects that it has. -/
  objects : List Object := []
  synthesizers : Nat → Synthesizer
  supply : Supply := {}
  /-- The calls that it has made, latest first. -/
  calls : List Call := []

namespace Program

/-- A program that has done nothing yet; its synthesizers have these settings. -/
def initial (settings : Nat → Settings) : Program where
  synthesizers i := { settings := settings i }

/-- The types that there are. -/
def types (p : Program) : List TypeDescriptor := p.declared ++ p.adapters.map AdapterType.descriptor

theorem mem_types {p : Program} {t : TypeDescriptor} :
    t ∈ p.types ↔ t ∈ p.declared ∨ ∃ a ∈ p.adapters, a.descriptor = t := by
  rw [types, List.mem_append, List.mem_map]

/-- The program can make the request: the contract is known, and it has the type or the object. -/
def CanAsk (known : Contract → Prop) (p : Program) : Request → Prop
  | .adapter c t | .verify c t => known c ∧ t ∈ p.types
  | .wrap c o | .coerce c o => known c ∧ o ∈ p.objects

theorem CanAsk.known_contract {known : Contract → Prop} {p : Program} {q : Request}
    (h : p.CanAsk known q) : known q.contract := by
  cases q <;> exact h.1

theorem CanAsk.object_mem {known : Contract → Prop} {p : Program} {q : Request} (h : p.CanAsk known q)
    {o : Object} (ho : q.object? = some o) : o ∈ p.objects := by
  cases q with
  | adapter c t | verify c t => cases ho
  | wrap c o' | coerce c o' => cases ho; exact h.2

/-- The reply to a request to the synthesizer with number `i`. -/
def reply (p : Program) (i : Nat) (q : Request) : Reply Granted :=
  (p.synthesizers i).serve p.supply q

/-- Declare a source type. -/
def declare (p : Program) (d : Description) : Program :=
  { p with declared := d.build p.supply.typeKey :: p.declared, supply := p.supply.afterType }

/-- Make an instance of a source type. -/
def create (p : Program) (t : TypeDescriptor) : Program :=
  { p with objects := .source p.supply.object t :: p.objects, supply := p.supply.afterObject }

/-- Send a request to the synthesizer with number `i`.  The adapter type that is in its cache then, and the
object that is handed out, are among those that the program has. -/
def ask (p : Program) (i : Nat) (q : Request) : Program :=
  { p with
    adapters := ((p.reply i q).synthesizer.cache.lookup q.key).toList ++ p.adapters
    objects := (p.reply i q).objects ++ p.objects
    synthesizers := Function.update p.synthesizers i (p.reply i q).synthesizer
    supply := (p.reply i q).supply
    calls := ⟨i, q, p.synthesizers i, p.supply⟩ :: p.calls }

theorem synthesizers_ask_self (p : Program) (i : Nat) (q : Request) :
    (p.ask i q).synthesizers i = (p.reply i q).synthesizer :=
  Function.update_self ..

theorem synthesizers_ask_of_ne (p : Program) {i j : Nat} (hne : j ≠ i) (q : Request) :
    (p.ask i q).synthesizers j = p.synthesizers j :=
  Function.update_of_ne hne ..

/-- Take over an adapter type from the generator. -/
def generate (p : Program) (a : AdapterType) : Program :=
  { p with adapters := a :: p.adapters, supply := p.supply.afterType }

/-- Put an adapter type into the cache of the synthesizer with number `i`. -/
def store (p : Program) (i : Nat) (key : AdapterKey) (a : AdapterType) : Program :=
  { p with
    synthesizers := Function.update p.synthesizers i
      { p.synthesizers i with cache := (p.synthesizers i).cache.store key a } }

/-! ### Steps -/

variable (known : Contract → Prop) (storable : AdapterKey → AdapterType → Prop)

/-- One step of a program. -/
inductive Step : Program → Program → Prop
  | declare (p : Program) (d : Description) (hbases : ∀ base ∈ d.draft.bases, base ∈ p.declared) :
      Step p (p.declare d)
  | create (p : Program) (t : TypeDescriptor) (ht : t ∈ p.declared) : Step p (p.create t)
  | ask (p : Program) (i : Nat) (q : Request) (hq : p.CanAsk known q) : Step p (p.ask i q)
  | generate (p : Program) (settings : Settings) (c : Contract) (hc : known c) (t : TypeDescriptor)
      (ht : t ∈ p.types) (a : AdapterType)
      (hgenerate : AdapterType.generate settings c t p.supply.typeKey = .ok a) :
      Step p (p.generate a)
  | store (p : Program) (i : Nat) (key : AdapterKey) (a : AdapterType) (ha : a ∈ p.adapters)
      (hstorable : storable key a) : Step p (p.store i key a)

/-- Some sequence of steps leads to the program, with synthesizers that have these settings. -/
def Reachable (settings : Nat → Settings) : Program → Prop :=
  Relation.ReflTransGen (Step known storable) (initial settings)

end Program

/-! ### Keys of types -/

/-- Each type has a key of its own, and the next key is new. -/
structure Numbered (types : List TypeDescriptor) (next : Nat) : Prop where
  fresh : ∀ t ∈ types, t.key.number < next
  unique : ∀ t ∈ types, ∀ u ∈ types, t.key = u.key → t = u

namespace Numbered

variable {types types' : List TypeDescriptor} {next : Nat}

theorem mono (h : Numbered types next) (hsubset : types' ⊆ types) : Numbered types' next :=
  ⟨fun t ht => h.fresh t (hsubset ht),
    fun t ht u hu => h.unique t (hsubset ht) u (hsubset hu)⟩

/-- A new type takes the next key. -/
theorem add (h : Numbered types next) {t : TypeDescriptor} (ht : t.key = ⟨next⟩) :
    Numbered (t :: types) (next + 1) := by
  have hne : ∀ u ∈ types, t.key ≠ u.key := by
    intro u hu heq
    have hlt := h.fresh u hu
    rw [← heq, ht] at hlt
    exact Nat.lt_irrefl next hlt
  constructor
  · intro u hu
    rcases List.mem_cons.mp hu with rfl | hu
    · rw [ht]
      exact Nat.lt_succ_self next
    · exact Nat.lt_succ_of_lt (h.fresh u hu)
  · intro u hu v hv heq
    rcases List.mem_cons.mp hu with rfl | hold
    · rcases List.mem_cons.mp hv with rfl | hold'
      · rfl
      · exact absurd heq (hne v hold')
    · rcases List.mem_cons.mp hv with rfl | hold'
      · exact absurd heq.symm (hne u hold)
      · exact h.unique u hold v hold' heq

end Numbered

/-! ### Sound programs -/

/-- The adapter type was made by the generator for a known contract and one of the types. -/
def AdapterType.Genuine (known : Contract → Prop) (types : List TypeDescriptor) (a : AdapterType) : Prop :=
  known a.contract ∧ a.source ∈ types ∧
    ∃ settings key, generate settings a.contract a.source key = .ok a

/-- The adapter type is in the cache because the program put it there, or because it was generated under these
settings for the contract and the type of the key. -/
def AdapterType.Placed (storable : AdapterKey → AdapterType → Prop) (settings : Settings)
    (key : AdapterKey) (a : AdapterType) : Prop :=
  storable key a ∨
    (key = .of a.contract a.source ∧ ∃ n, generate settings a.contract a.source n = .ok a)

/-- What the synthesizer remembers was true when it was remembered. -/
structure Synthesizer.Kept (known : Contract → Prop) (storable : AdapterKey → AdapterType → Prop)
    (settings : Settings) (types : List TypeDescriptor) (adapters : List AdapterType) (s : Synthesizer) :
    Prop where
  settings_eq : s.settings = settings
  filled : s.cache.Filled
  cached : ∀ key a, s.cache.lookup key = some a → a ∈ adapters ∧ a.Placed storable settings key
  verified : ∀ key ∈ s.verified, ∃ c t, known c ∧ t ∈ types ∧ key = .of c t ∧
    ∃ bound, t.resolveAll settings c.requirements = .ok bound

/-- Keys identify types, the objects have types that there are, the adapter types were generated, and the
synthesizers remember what was true. -/
structure Program.Sound (known : Contract → Prop) (storable : AdapterKey → AdapterType → Prop)
    (settings : Nat → Settings) (p : Program) : Prop where
  numbered : Numbered p.types p.supply.type
  declared : ∀ t ∈ p.declared, t.Declared
  typed : ∀ o ∈ p.objects, o.type ∈ p.types
  genuine : ∀ a ∈ p.adapters, a.Genuine known p.types
  kept : ∀ i, (p.synthesizers i).Kept known storable (settings i) p.types p.adapters

variable {known : Contract → Prop} {storable : AdapterKey → AdapterType → Prop}

theorem AdapterType.Genuine.mono {types types' : List TypeDescriptor} {a : AdapterType}
    (h : a.Genuine known types) (hsubset : types ⊆ types') : a.Genuine known types' :=
  ⟨h.1, hsubset h.2.1, h.2.2⟩

theorem AdapterType.genuine_of_generate {settings : Settings} {c : Contract} (hc : known c)
    {types types' : List TypeDescriptor} {t : TypeDescriptor} (ht : t ∈ types) (hsubset : types ⊆ types')
    {key : TypeKey} {a : AdapterType} (h : generate settings c t key = .ok a) :
    a.Genuine known types' := by
  obtain ⟨rfl, rfl, -⟩ := of_generate_eq_ok h
  exact ⟨hc, hsubset ht, settings, key, h⟩

theorem AdapterType.placed_of_generate {settings : Settings} {q : Request} {key : TypeKey} {a : AdapterType}
    (h : generate settings q.contract q.source key = .ok a) : a.Placed storable settings q.key := by
  obtain ⟨hcontract, hsource, -⟩ := of_generate_eq_ok h
  refine .inr ⟨?_, key, ?_⟩
  · rw [hcontract, hsource]
    rfl
  · rw [hcontract, hsource]
    exact h

namespace Synthesizer.Kept

variable {settings : Settings} {types types' : List TypeDescriptor}
  {adapters adapters' : List AdapterType} {s : Synthesizer}

theorem mono (h : s.Kept known storable settings types adapters) (htypes : types ⊆ types')
    (hadapters : adapters ⊆ adapters') : s.Kept known storable settings types' adapters' where
  settings_eq := h.settings_eq
  filled := h.filled
  cached key a ha := ⟨hadapters (h.cached key a ha).1, (h.cached key a ha).2⟩
  verified key hkey := by
    obtain ⟨c, t, hc, ht, hkey, hbound⟩ := h.verified key hkey
    exact ⟨c, t, hc, htypes ht, hkey, hbound⟩

/-- Putting an adapter type into the cache. -/
theorem store (h : s.Kept known storable settings types adapters) {key : AdapterKey} {a : AdapterType}
    (ha : a ∈ adapters) (hplaced : a.Placed storable settings key) :
    Kept known storable settings types adapters { s with cache := s.cache.store key a } where
  settings_eq := h.settings_eq
  filled := h.filled.store key a
  cached key' b hb := by
    rw [SlotCache.lookup_store] at hb
    split at hb
    · rename_i hkey
      cases hb
      exact ⟨ha, hkey ▸ hplaced⟩
    · exact h.cached key' b hb
  verified := h.verified

/-- Answering a request keeps the memory true, if what was generated counts among the adapter types. -/
theorem served (h : s.Kept known storable settings types adapters) {supply : Supply} {q : Request}
    {reply : Reply Granted} (hserved : Served s supply q reply) (hc : known q.contract)
    (ht : q.source ∈ types)
    (hadapter : ∀ a, AdapterType.generate s.settings q.contract q.source supply.typeKey = .ok a →
      reply.synthesizer.cache.lookup q.key = some a → a ∈ adapters) :
    reply.synthesizer.Kept known storable settings types adapters where
  settings_eq := hserved.settings_eq.trans h.settings_eq
  filled := hserved.filled h.filled
  cached key b hb := by
    rcases hserved.cache_cases with ⟨hcache, -⟩ | ⟨a, hgenerate, hcache, -⟩
    · rw [hcache] at hb
      exact h.cached key b hb
    · have ha := hadapter a hgenerate (by rw [hcache, SlotCache.lookup_store, if_pos rfl])
      rw [hcache, SlotCache.lookup_store] at hb
      split at hb
      · rename_i hkey
        cases hb
        rw [h.settings_eq] at hgenerate
        exact ⟨ha, hkey ▸ AdapterType.placed_of_generate hgenerate⟩
      · exact h.cached key b hb
  verified key hkey := by
    rcases hserved.verified_cases hkey with hkey | ⟨rfl, bound, hbound⟩
    · exact h.verified key hkey
    · rw [h.settings_eq] at hbound
      exact ⟨q.contract, q.source, hc, ht, rfl, bound, hbound⟩

end Synthesizer.Kept

namespace Program

variable {settings : Nat → Settings} {p p' : Program}

theorem types_subset (hdeclared : p.declared ⊆ p'.declared) (hadapters : p.adapters ⊆ p'.adapters) :
    p.types ⊆ p'.types :=
  List.append_subset.mpr ⟨List.subset_append_of_subset_left _ hdeclared,
    List.subset_append_of_subset_right _ (List.map_subset _ hadapters)⟩

theorem types_subset_ask (p : Program) (i : Nat) (q : Request) : p.types ⊆ (p.ask i q).types :=
  types_subset (List.Subset.refl _) (List.subset_append_right _ _)

theorem types_subset_cons {a : AdapterType} (hdeclared : p'.declared ⊆ p.declared)
    (hadapters : p'.adapters ⊆ a :: p.adapters) : p'.types ⊆ a.descriptor :: p.types := by
  intro t ht
  rcases mem_types.mp ht with ht | ⟨b, hb, rfl⟩
  · exact List.mem_cons_of_mem _ (mem_types.mpr (.inl (hdeclared ht)))
  · rcases List.mem_cons.mp (hadapters hb) with rfl | hb
    · exact List.mem_cons_self
    · exact List.mem_cons_of_mem _ (mem_types.mpr (.inr ⟨b, hb, rfl⟩))

namespace Sound

/-- The reply of a sound program is one of the possible ones. -/
theorem served (h : p.Sound known storable settings) (i : Nat) (q : Request) :
    Served (p.synthesizers i) p.supply q (p.reply i q) :=
  Synthesizer.serve_served (h.kept i).filled p.supply q

theorem source_mem_types (h : p.Sound known storable settings) {q : Request} (hq : p.CanAsk known q) :
    q.source ∈ p.types := by
  cases q with
  | adapter c t | verify c t => exact hq.2
  | wrap c o | coerce c o => exact h.typed o hq.2

/-- Where there are more types, those that there were still have what they had. -/
theorem kept_mono (h : p.Sound known storable settings) {types : List TypeDescriptor}
    {adapters : List AdapterType} (htypes : p.types ⊆ types) (hadapters : p.adapters ⊆ adapters) (i : Nat) :
    (p.synthesizers i).Kept known storable (settings i) types adapters :=
  (h.kept i).mono htypes hadapters

/-! ### Each step keeps programs sound -/

theorem initial : (initial settings).Sound known storable settings where
  numbered := ⟨fun _ ht => absurd ht List.not_mem_nil, fun _ ht => absurd ht List.not_mem_nil⟩
  declared _ ht := absurd ht List.not_mem_nil
  typed _ ho := absurd ho List.not_mem_nil
  genuine _ ha := absurd ha List.not_mem_nil
  kept _ :=
    { settings_eq := rfl
      filled := SlotCache.filled_empty
      cached := fun _ _ hfound => by cases hfound
      verified := fun _ hkey => absurd hkey List.not_mem_nil }

theorem declare (h : p.Sound known storable settings) {d : Description}
    (hbases : ∀ base ∈ d.draft.bases, base ∈ p.declared) :
    (p.declare d).Sound known storable settings := by
  have hsubset : p.types ⊆ (p.declare d).types := List.subset_cons_self _ _
  refine ⟨h.numbered.add rfl, ?_, ?_, ?_, h.kept_mono hsubset (List.Subset.refl _)⟩
  · intro t ht
    rcases List.mem_cons.mp ht with rfl | ht
    · exact .build d _ fun base hbase => h.declared base (hbases base hbase)
    · exact h.declared t ht
  · exact fun o ho => hsubset (h.typed o ho)
  · exact fun a ha => (h.genuine a ha).mono hsubset

theorem create (h : p.Sound known storable settings) {t : TypeDescriptor} (ht : t ∈ p.declared) :
    (p.create t).Sound known storable settings := by
  refine ⟨h.numbered, h.declared, ?_, h.genuine, h.kept⟩
  intro o ho
  rcases List.mem_cons.mp ho with rfl | ho
  · exact List.mem_append_left _ ht
  · exact h.typed o ho

theorem generate (h : p.Sound known storable settings) {generatorSettings : Settings} {c : Contract}
    (hc : known c) {t : TypeDescriptor} (ht : t ∈ p.types) {a : AdapterType}
    (hgenerate : AdapterType.generate generatorSettings c t p.supply.typeKey = .ok a) :
    (p.generate a).Sound known storable settings := by
  have htypes : (p.generate a).types ⊆ a.descriptor :: p.types :=
    types_subset_cons (List.Subset.refl _) (List.Subset.refl _)
  have hsubset : p.types ⊆ (p.generate a).types :=
    types_subset (List.Subset.refl _) (List.subset_cons_self _ _)
  refine ⟨?_, h.declared, fun o ho => hsubset (h.typed o ho), ?_,
    h.kept_mono hsubset (List.subset_cons_self _ _)⟩
  · exact (h.numbered.add (AdapterType.of_generate_eq_ok hgenerate).2.2).mono htypes
  · intro b hb
    rcases List.mem_cons.mp hb with rfl | hb
    · exact AdapterType.genuine_of_generate hc ht hsubset hgenerate
    · exact (h.genuine b hb).mono hsubset

theorem store (h : p.Sound known storable settings) {i : Nat} {key : AdapterKey} {a : AdapterType}
    (ha : a ∈ p.adapters) (hstorable : storable key a) :
    (p.store i key a).Sound known storable settings := by
  refine ⟨h.numbered, h.declared, h.typed, h.genuine, ?_⟩
  intro j
  by_cases hj : j = i
  · subst hj
    show (Function.update p.synthesizers j _ j).Kept known storable _ _ _
    rw [Function.update_self]
    exact (h.kept j).store ha (.inl hstorable)
  · show (Function.update p.synthesizers i _ j).Kept known storable _ _ _
    rw [Function.update_of_ne hj]
    exact h.kept j

/-- A request generates an adapter type, which takes the next key, or there are no new ones. -/
theorem ask_cases (h : p.Sound known storable settings) (i : Nat) (q : Request) :
    ((p.ask i q).adapters ⊆ p.adapters ∧ (p.ask i q).supply.type = p.supply.type) ∨
      ∃ a, AdapterType.generate (settings i) q.contract q.source p.supply.typeKey = .ok a ∧
        (p.ask i q).adapters = a :: p.adapters ∧ (p.ask i q).supply.type = p.supply.type + 1 := by
  rcases (h.served i q).cache_cases with ⟨hcache, hsupply⟩ | ⟨a, hgenerate, hcache, hsupply⟩
  · refine .inl ⟨?_, hsupply⟩
    refine List.append_subset.mpr ⟨?_, List.Subset.refl _⟩
    intro a ha
    rw [hcache, Option.mem_toList] at ha
    exact ((h.kept i).cached q.key a ha).1
  · rw [(h.kept i).settings_eq] at hgenerate
    refine .inr ⟨a, hgenerate, ?_, hsupply⟩
    show Option.toList _ ++ _ = _
    rw [hcache, SlotCache.lookup_store, if_pos rfl]
    rfl

theorem ask (h : p.Sound known storable settings) {i : Nat} {q : Request} (hq : p.CanAsk known q) :
    (p.ask i q).Sound known storable settings := by
  have hc : known q.contract := hq.known_contract
  have hsource : q.source ∈ p.types := h.source_mem_types hq
  have hadapters : p.adapters ⊆ (p.ask i q).adapters := List.subset_append_right _ _
  have hsubset : p.types ⊆ (p.ask i q).types := types_subset_ask p i q
  have hcached : ∀ a, (p.reply i q).synthesizer.cache.lookup q.key = some a →
      a ∈ (p.ask i q).adapters :=
    fun a ha => List.mem_append_left _ (Option.mem_toList.mpr ha)
  refine ⟨?_, h.declared, ?_, ?_, ?_⟩
  · rcases h.ask_cases i q with ⟨hnone, hsupply⟩ | ⟨a, hgenerate, hnew, hsupply⟩
    · rw [hsupply]
      exact h.numbered.mono (types_subset (List.Subset.refl _) hnone)
    · rw [hsupply]
      refine (h.numbered.add (AdapterType.of_generate_eq_ok hgenerate).2.2).mono ?_
      exact types_subset_cons (List.Subset.refl _) (hnew ▸ List.Subset.refl _)
  · intro o ho
    rcases List.mem_append.mp ho with ho | ho
    · obtain ⟨k, hk, rfl⟩ := Reply.mem_objects ho
      obtain ⟨-, o, ho, ⟨-, a, identity, ha, hobject⟩ | ⟨-, -, rfl⟩⟩ := (h.served i q).value_cases hk
      · rw [hobject]
        exact mem_types.mpr (.inr ⟨a, hcached a ha, rfl⟩)
      · exact hsubset (h.typed _ (hq.object_mem ho))
    · exact hsubset (h.typed o ho)
  · intro b hb
    rcases h.ask_cases i q with ⟨hnone, -⟩ | ⟨a, hgenerate, hnew, -⟩
    · exact (h.genuine b (hnone hb)).mono hsubset
    · rw [hnew] at hb
      rcases List.mem_cons.mp hb with rfl | hb
      · exact AdapterType.genuine_of_generate hc hsource hsubset hgenerate
      · exact (h.genuine b hb).mono hsubset
  · intro j
    have hkept := h.kept_mono hsubset hadapters
    by_cases hj : j = i
    · subst hj
      rw [synthesizers_ask_self]
      exact (hkept j).served (h.served j q) hc (hsubset hsource) fun a _ => hcached a
    · rw [synthesizers_ask_of_ne p hj]
      exact hkept j

end Sound

theorem Step.sound (h : Step known storable p p') (hp : p.Sound known storable settings) :
    p'.Sound known storable settings := by
  cases h with
  | declare d hbases => exact hp.declare hbases
  | create t ht => exact hp.create ht
  | ask i q hq => exact hp.ask hq
  | generate settings c hc t ht a hgenerate => exact hp.generate hc ht hgenerate
  | store i key a ha hstorable => exact hp.store ha hstorable

/-- **Every program that can be reached is sound.** -/
theorem Reachable.sound (h : Reachable known storable settings p) : p.Sound known storable settings := by
  induction h with
  | refl => exact Sound.initial
  | tail _ hstep ih => exact hstep.sound ih

/-- A program can begin by declaring a source type without bases. -/
theorem Reachable.of_declare {d : Description} (hbases : d.draft.bases = []) :
    Reachable known storable settings ((initial settings).declare d) :=
  .single (.declare _ d fun _ hbase => absurd (hbases ▸ hbase) List.not_mem_nil)

/-- It can go on by making an instance of the type. -/
theorem Reachable.of_description {d : Description} (hbases : d.draft.bases = []) :
    Reachable known storable settings (((initial settings).declare d).create (d.build ⟨1⟩)) :=
  (Reachable.of_declare hbases).tail (.create _ _ List.mem_cons_self)

theorem Reachable.of_draft {draft : TypeDraft} (hbases : draft.bases = []) :
    Reachable known storable settings
      (((initial settings).declare draft.description).create (draft.build ⟨1⟩)) := by
  have hnone : draft.description.draft.bases = [] := by
    rw [draft.draft_description]
    exact hbases
  exact draft.build_description ⟨1⟩ ▸ Reachable.of_description hnone

/-! ### What is cached, and what is verified -/

namespace Sound

/-- An adapter type that is cached under its own key is for the type that was asked about. -/
theorem eq_of_key_eq (h : p.Sound known storable settings) {a : AdapterType} (ha : a ∈ p.adapters)
    {c : Contract} {t : TypeDescriptor} (ht : t ∈ p.types)
    (hkey : AdapterKey.of c t = .of a.contract a.source) : a.contract.id = c.id ∧ a.source = t :=
  ⟨(congrArg AdapterKey.contract hkey).symm,
    h.numbered.unique _ (h.genuine a ha).2.1 t ht (congrArg AdapterKey.source hkey).symm⟩

/-- Where nothing is put into caches by hand, a cached adapter type was generated under the settings of the
synthesizer for the type that was asked about, and for a contract with the identity that was. -/
theorem generated_of_lookup (h : p.Sound known storable settings) (hnone : ∀ key a, ¬ storable key a)
    {i : Nat} {c : Contract} {t : TypeDescriptor} (ht : t ∈ p.types) {a : AdapterType}
    (hfound : (p.synthesizers i).cache.lookup (.of c t) = some a) :
    known a.contract ∧ a.contract.id = c.id ∧
      ∃ n, AdapterType.generate (settings i) a.contract t n = .ok a := by
  obtain ⟨ha, hstored | ⟨hkey, n, hgenerate⟩⟩ := (h.kept i).cached _ a hfound
  · exact absurd hstored (hnone _ a)
  · obtain ⟨hid, rfl⟩ := h.eq_of_key_eq ha ht hkey
    exact ⟨(h.genuine a ha).1, hid, n, hgenerate⟩

/-- A pair is taken for verified when the type satisfies some contract with the identity in question. -/
theorem resolved_of_verified (h : p.Sound known storable settings) {i : Nat} {c : Contract}
    {t : TypeDescriptor} (ht : t ∈ p.types) (hkey : AdapterKey.of c t ∈ (p.synthesizers i).verified) :
    ∃ d, known d ∧ d.id = c.id ∧
      ∃ bound, t.resolveAll (settings i) d.requirements = .ok bound := by
  obtain ⟨d, u, hd, hu, heq, bound, hbound⟩ := (h.kept i).verified _ hkey
  obtain rfl : t = u := h.numbered.unique t ht u hu (congrArg AdapterKey.source heq)
  exact ⟨d, hd, (congrArg AdapterKey.contract heq).symm, bound, hbound⟩

theorem source_mem_ask (h : p.Sound known storable settings) {i : Nat} {q : Request}
    (hq : p.CanAsk known q) : q.source ∈ (p.ask i q).types :=
  types_subset_ask p i q (h.source_mem_types hq)

/-- A value that is handed out is an instance of the adapter type that is cached then, or the object itself, of a
type that is taken for verified then. -/
theorem value_cases (h : p.Sound known storable settings) {i : Nat} {q : Request}
    (hq : p.CanAsk known q) {k : Contracted} (hk : (p.reply i q).result = .ok (.value k)) :
    k.contract = q.contract ∧ ∃ o ∈ p.objects, o.type = q.source ∧
      ((∃ a identity, ((p.ask i q).synthesizers i).cache.lookup q.key = some a ∧
          k.object = a.instantiate identity o) ∨
        (q.key ∈ ((p.ask i q).synthesizers i).verified ∧ k.object = o)) := by
  rw [synthesizers_ask_self]
  obtain ⟨hcontract, o, ho, hcases⟩ := (h.served i q).value_cases hk
  refine ⟨hcontract, o, hq.object_mem ho, (q.source_eq ho).symm, ?_⟩
  rcases hcases with ⟨-, hadapter⟩ | ⟨-, hnative⟩
  · exact .inl hadapter
  · exact .inr hnative

end Sound

end Program

/-! ### A clock -/

/-! A source type with two members, and two contracts that require one of them each. -/

namespace Clock

/-- A contract that requires one member without parameters. -/
def requiring (handle : Nat) (name member : String) : Contract :=
  { handle, id := ⟨handle + 1, []⟩, name, typeParams := [], parents := []
    members := [Signature.method member] }

def ticking : Contract := requiring 0 "Ticking" "tick"

def ringing : Contract := requiring 1 "Ringing" "ring"

def description : Description :=
  ⟨"Clock", [.declare (.method (Signature.method "tick") []), .declare (.method (Signature.method "ring") [])]⟩

/-- The clock type, which takes the first key. -/
def type : TypeDescriptor := description.build ⟨1⟩

/-- A clock. -/
def clock : Object := .source 0 type

/-- The program has declared the type and made a clock. -/
def ready : Program := ((Program.initial fun _ => {}).declare description).create type

theorem reachable_ready : Program.Reachable known storable (fun _ => {}) ready :=
  .of_description rfl

theorem requirements_requiring (handle : Nat) (name member : String) :
    (requiring handle name member).requirements = [⟨name, Signature.method member⟩] :=
  Contract.requirements_of_root rfl (List.nodup_singleton _)

/-- The adapter type for ticking clocks. -/
def ticker (key : TypeKey) : AdapterType :=
  .ofBound (AdapterType.nameFor {} ticking type) key ticking type
    [(⟨"Ticking", Signature.method "tick"⟩, ⟨Signature.method "tick", .own ⟨1⟩ (.script []), "Clock"⟩)]

theorem generate_ticker (key : TypeKey) :
    AdapterType.generate {} ticking type key = .ok (ticker key) := by
  refine AdapterType.generate_eq_ok_iff.mpr ⟨rfl, _, ?_, rfl⟩
  rw [ticking, requirements_requiring]
  rfl

end Clock

end StructuralAdapters
