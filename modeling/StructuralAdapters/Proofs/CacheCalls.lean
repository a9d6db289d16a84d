import Mathlib.Data.Finmap
import StructuralAdapters.Proofs.Caching

/-!
# A cache is a finite map

Whatever is asked of a cache, one call after the other, the answers are those of a finite map from keys to values.
Slots do not show: a key has one if and only if a value is published for it.

* `CacheCall`, `CacheReply` — what a cache can be asked, and what a call leaves;
* `FiniteMap.serve`, `SlotCache.serve`, `CountedCache.serve` — the calls on a map, on a cache with slots, and on a
  cache that counts the handles to its slots;
* `serveAll`, `serveAll_agrees` — a list of calls, and two caches that agree on it as they agree on each call;
* `CountedCache.Rests` — between calls there are no handles but those of the table;
* `SlotCache.Represents` — a cache has a slot, with a value, for each key of a map and for no other key;
* `serveAll_empty` — three caches that start empty.

## Handles

There is a handle to a slot in the table, and each call takes one of its own for as long as it lasts.  A call that
could not generate a value takes the slot out of the table if there are these two handles and no others.
-/

namespace StructuralAdapters

variable {κ α ε σ : Type}

/-! ### Calls -/

/-- What a cache can be asked.  What generates a value may fail, and works on a state of its own. -/
inductive CacheCall (κ α ε σ : Type) where
  | store (key : κ) (value : α)
  | lookup (key : κ)
  | contains (key : κ)
  | size
  | isEmpty
  | getOrGenerate (key : κ) (generate : σ → Except ε α × σ)

/-- What a call is answered with. -/
inductive CacheAnswer (α ε : Type) where
  | stored
  | value (found : Option α)
  | verdict (b : Bool)
  | count (n : Nat)
  | result (r : Except ε α)

/-- What one or more calls leave: the answers, the cache, and the state of what generates values. -/
structure CacheReply (β C σ : Type) where
  answer : β
  cache : C
  state : σ

/-- Calls one after the other. -/
def serveAll {C : Type} (serve : C → σ → CacheCall κ α ε σ → CacheReply (CacheAnswer α ε) C σ)
    (cache : C) (s : σ) : List (CacheCall κ α ε σ) → CacheReply (List (CacheAnswer α ε)) C σ
  | [] => ⟨[], cache, s⟩
  | call :: calls =>
      let reply := serve cache s call
      let rest := serveAll serve reply.cache reply.state calls
      ⟨reply.answer :: rest.answer, rest.cache, rest.state⟩

/-- The same answers and the same states, and caches that are related. -/
structure CacheReply.Agrees {β C D : Type} (R : C → D → Prop) (x : CacheReply β C σ) (y : CacheReply β D σ) :
    Prop where
  answer : x.answer = y.answer
  cache : R x.cache y.cache
  state : x.state = y.state

/-- Caches that agree on each call agree on any list of calls. -/
theorem serveAll_agrees {C D : Type} {R : C → D → Prop}
    {serve : C → σ → CacheCall κ α ε σ → CacheReply (CacheAnswer α ε) C σ}
    {serve' : D → σ → CacheCall κ α ε σ → CacheReply (CacheAnswer α ε) D σ}
    (step : ∀ {c d}, R c d → ∀ s call, (serve c s call).Agrees R (serve' d s call))
    {c : C} {d : D} (h : R c d) (s : σ) (calls : List (CacheCall κ α ε σ)) :
    (serveAll serve c s calls).Agrees R (serveAll serve' d s calls) := by
  induction calls generalizing c d s with
  | nil => exact ⟨rfl, h, rfl⟩
  | cons call calls ih =>
      obtain ⟨hanswer, hcache, hstate⟩ := step h s call
      obtain ⟨hanswers, hcaches, hstates⟩ := ih hcache (serve c s call).state
      rw [hstate] at hanswers hcaches hstates
      constructor
      · simp only [serveAll, hanswer, hstate, hanswers]
      · simpa only [serveAll, hstate] using hcaches
      · simpa only [serveAll, hstate] using hstates

/-! ### A finite map -/

/-- A finite map from keys to values. -/
abbrev FiniteMap (κ α : Type) := Finmap fun _ : κ => α

/-- The calls on a map.  A value is generated where there is none, and a failure changes nothing. -/
def FiniteMap.serve [DecidableEq κ] (map : FiniteMap κ α) (s : σ) :
    CacheCall κ α ε σ → CacheReply (CacheAnswer α ε) (FiniteMap κ α) σ
  | .store key value => ⟨.stored, map.insert key value, s⟩
  | .lookup key => ⟨.value (map.lookup key), map, s⟩
  | .contains key => ⟨.verdict (decide (key ∈ map)), map, s⟩
  | .size => ⟨.count map.keys.card, map, s⟩
  | .isEmpty => ⟨.verdict (decide (map.keys = ∅)), map, s⟩
  | .getOrGenerate key generate =>
      match map.lookup key with
      | some value => ⟨.result (.ok value), map, s⟩
      | none =>
          match generate s with
          | (.ok value, s') => ⟨.result (.ok value), map.insert key value, s'⟩
          | (.error e, s') => ⟨.result (.error e), map, s'⟩

/-! ### A cache with slots -/

namespace Entries

variable [DecidableEq κ] {entries : Entries κ α} {key : κ} {value : α}

theorem put_put (value' : α) : put key value' (put key value entries) = put key value' entries := by
  induction entries with
  | nil => simp [put]
  | cons entry rest ih =>
      obtain ⟨k, a⟩ := entry
      by_cases hk : k = key <;> simp [put, hk, ih]

theorem put_of_get? (h : get? key entries = some value) : put key value entries = entries := by
  induction entries with
  | nil => cases h
  | cons entry rest ih =>
      obtain ⟨k, a⟩ := entry
      by_cases hk : k = key
      · simp_all [get?, put]
      · rw [get?, if_neg hk] at h
        rw [put, if_neg hk, ih h]

/-- The keys that have a value. -/
theorem mem_keys_iff : key ∈ entries.map Prod.fst ↔ (get? key entries).isSome := by
  induction entries with
  | nil => simp [get?]
  | cons entry rest ih =>
      rw [List.map_cons, List.mem_cons, ih, get?]
      by_cases hk : entry.1 = key
      · simp [hk]
      · simp [hk, Ne.symm hk]

/-- Where no key occurs twice, what an entry says is what is found. -/
theorem get?_of_mem (hnodup : (entries.map Prod.fst).Nodup) (h : (key, value) ∈ entries) :
    get? key entries = some value := by
  induction entries with
  | nil => cases h
  | cons entry rest ih =>
      obtain ⟨hnew, hnodup⟩ := List.nodup_cons.mp hnodup
      rw [get?]
      rcases List.mem_cons.mp h with rfl | h
      · exact if_pos rfl
      · have hne : entry.1 ≠ key := fun heq => hnew (heq ▸ List.mem_map_of_mem h)
        rw [if_neg hne, ih hnodup h]

theorem keys_put (value : α) : (put key value entries).map Prod.fst =
    if key ∈ entries.map Prod.fst then entries.map Prod.fst else entries.map Prod.fst ++ [key] := by
  induction entries with
  | nil => simp [put]
  | cons entry rest ih =>
      by_cases hk : entry.1 = key
      · simp [put, hk]
      · rw [put, if_neg hk, List.map_cons, ih]
        split <;> simp_all [eq_comm]

/-- A new key does not occur twice. -/
theorem nodup_keys_put (hnodup : (entries.map Prod.fst).Nodup) (value : α) :
    ((put key value entries).map Prod.fst).Nodup := by
  rw [keys_put]
  split
  · exact hnodup
  · exact List.concat_eq_append ▸ hnodup.concat ‹_›

/-- The same keys with other values. -/
def mapValues {β : Type} (f : α → β) (entries : Entries κ α) : Entries κ β :=
  entries.map fun (key, value) => (key, f value)

variable {β : Type} {f : α → β}

theorem get?_mapValues : get? key (mapValues f entries) = (get? key entries).map f := by
  induction entries with
  | nil => rfl
  | cons entry rest ih =>
      obtain ⟨k, a⟩ := entry
      unfold mapValues at ih ⊢
      by_cases hk : k = key <;> simp [get?, hk, ih]

theorem mapValues_put : mapValues f (put key value entries) = put key (f value) (mapValues f entries) := by
  induction entries with
  | nil => rfl
  | cons entry rest ih =>
      obtain ⟨k, a⟩ := entry
      unfold mapValues at ih ⊢
      by_cases hk : k = key <;> simp [put, hk, ih]

omit [DecidableEq κ] in
theorem mapValues_mapValues {γ : Type} (g : β → γ) :
    mapValues g (mapValues f entries) = mapValues (g ∘ f) entries := List.map_map

theorem mapValues_erase : mapValues f (erase key entries) = erase key (mapValues f entries) := by
  unfold mapValues erase
  rw [List.filter_map]
  rfl

end Entries

namespace SlotCache

variable [DecidableEq κ] {cache : SlotCache κ α} {map : FiniteMap κ α} {key : κ} {value : α}

/-- The calls on a cache. -/
def serve (cache : SlotCache κ α) (s : σ) :
    CacheCall κ α ε σ → CacheReply (CacheAnswer α ε) (SlotCache κ α) σ
  | .store key value => ⟨.stored, cache.store key value, s⟩
  | .lookup key => ⟨.value (cache.lookup key), cache, s⟩
  | .contains key => ⟨.verdict (cache.contains key), cache, s⟩
  | .size => ⟨.count cache.size, cache, s⟩
  | .isEmpty => ⟨.verdict cache.isEmpty, cache, s⟩
  | .getOrGenerate key generate =>
      let (result, cache', s') := cache.getOrGenerate key generate s
      ⟨.result result, cache', s'⟩

/-- A slot is made only to be filled. -/
theorem store_eq_publish : cache.store key value = cache.publish key value := by
  unfold store claim
  split
  · rfl
  · exact congrArg mk (Entries.put_put _)

/-- There is a slot, with a value, for each key of the map, and no other slot. -/
structure Represents (cache : SlotCache κ α) (map : FiniteMap κ α) : Prop where
  nodup : (cache.slots.map Prod.fst).Nodup
  slots : ∀ key, Entries.get? key cache.slots = (map.lookup key).map some

namespace Represents

theorem empty : ({} : SlotCache κ α).Represents ∅ := ⟨List.nodup_nil, fun _ => rfl⟩

theorem filled (h : cache.Represents map) : cache.Filled := by
  intro key hempty
  rw [h.slots] at hempty
  cases hvalue : map.lookup key <;> simp [hvalue] at hempty

theorem lookup (h : cache.Represents map) (key : κ) : cache.lookup key = map.lookup key := by
  rw [SlotCache.lookup, h.slots]
  cases map.lookup key <;> rfl

theorem contains (h : cache.Represents map) (key : κ) : cache.contains key = decide (key ∈ map) := by
  rw [SlotCache.contains, h.lookup, Bool.eq_iff_iff, decide_eq_true_iff, Finmap.lookup_isSome]

/-- Slots are counted as keys. -/
theorem size (h : cache.Represents map) : cache.size = map.keys.card := by
  have hall : ∀ entry ∈ cache.slots, entry.2.isSome := by
    rintro ⟨key, slot⟩ hslot
    have hget := Entries.get?_of_mem h.nodup hslot
    rw [h.slots, Option.map_eq_some_iff] at hget
    obtain ⟨value, -, rfl⟩ := hget
    rfl
  have hlength : cache.size = cache.slots.length := congrArg List.length (List.filter_eq_self.mpr hall)
  have hkeys : (cache.slots.map Prod.fst).toFinset = map.keys := by
    ext key
    rw [List.mem_toFinset, Entries.mem_keys_iff, h.slots, Option.isSome_map, Finmap.lookup_isSome,
      Finmap.mem_keys]
  rw [hlength, ← hkeys, List.toFinset_card_of_nodup h.nodup, List.length_map]

theorem isEmpty (h : cache.Represents map) : cache.isEmpty = decide (map.keys = ∅) := by
  rw [SlotCache.isEmpty, h.size, Bool.eq_iff_iff, beq_iff_eq, decide_eq_true_iff, Finset.card_eq_zero]

/-- A value replaces that of the key on both sides. -/
theorem store (h : cache.Represents map) (key : κ) (value : α) :
    (cache.store key value).Represents (map.insert key value) := by
  rw [store_eq_publish]
  refine ⟨Entries.nodup_keys_put h.nodup _, fun key' => ?_⟩
  rw [publish, Entries.get?_put]
  by_cases hkey : key' = key
  · rw [hkey, if_pos rfl, Finmap.lookup_insert]
    rfl
  · rw [if_neg hkey, Finmap.lookup_insert_of_ne _ hkey, h.slots]

/-- The cache answers as the map does, and represents it afterwards. -/
theorem serve (h : cache.Represents map) (s : σ) (call : CacheCall κ α ε σ) :
    (cache.serve s call).Agrees Represents (map.serve s call) := by
  cases call with
  | store key value => exact ⟨rfl, h.store key value, rfl⟩
  | lookup key => exact ⟨congrArg CacheAnswer.value (h.lookup key), h, rfl⟩
  | contains key => exact ⟨congrArg CacheAnswer.verdict (h.contains key), h, rfl⟩
  | size => exact ⟨congrArg CacheAnswer.count h.size, h, rfl⟩
  | isEmpty => exact ⟨congrArg CacheAnswer.verdict h.isEmpty, h, rfl⟩
  | getOrGenerate key generate =>
      rw [SlotCache.serve, FiniteMap.serve, ← h.lookup]
      cases hlookup : cache.lookup key with
      | some value =>
          rw [getOrGenerate_of_lookup hlookup]
          exact ⟨rfl, h, rfl⟩
      | none =>
          rcases hgenerate : generate s with ⟨e | value, s'⟩
          · rw [getOrGenerate_of_error h.filled hlookup hgenerate]
            exact ⟨rfl, h, rfl⟩
          · rw [getOrGenerate_of_ok hlookup hgenerate]
            exact ⟨rfl, h.store key value, rfl⟩

end Represents

end SlotCache

/-! ### A cache that counts handles -/

/-- A slot with the number of handles to it.  The table has one. -/
structure CountedSlot (α : Type) where
  handles : Nat := 1
  value : Option α := none

/-- A table of slots that count the handles to them. -/
structure CountedCache (κ α : Type) where
  slots : Entries κ (CountedSlot α) := []

namespace CountedCache

variable [DecidableEq κ]

/-- Take a handle to the slot of a key, which is made if there is none. -/
def take (cache : CountedCache κ α) (key : κ) : CountedCache κ α :=
  let slot := (Entries.get? key cache.slots).getD {}
  ⟨Entries.put key { slot with handles := slot.handles + 1 } cache.slots⟩

/-- Drop a handle.  A slot that has left the table is no longer counted. -/
def drop (cache : CountedCache κ α) (key : κ) : CountedCache κ α :=
  match Entries.get? key cache.slots with
  | some slot => ⟨Entries.put key { slot with handles := slot.handles - 1 } cache.slots⟩
  | none => cache

/-- The value in the slot of a key. -/
def value? (cache : CountedCache κ α) (key : κ) : Option α :=
  (Entries.get? key cache.slots).bind CountedSlot.value

/-- Fill the slot of a key, to which there are handles already. -/
def fill (cache : CountedCache κ α) (key : κ) (value : α) : CountedCache κ α :=
  match Entries.get? key cache.slots with
  | some slot => ⟨Entries.put key { slot with value := some value } cache.slots⟩
  | none => cache

/-- Take the slot of a key out of the table if it is empty and there are two handles to it. -/
def discard (cache : CountedCache κ α) (key : κ) : CountedCache κ α :=
  match Entries.get? key cache.slots with
  | some slot =>
      if slot.handles = 2 ∧ slot.value.isNone then ⟨Entries.erase key cache.slots⟩ else cache
  | none => cache

/-- The value published for a key, read with a handle to the slot if there is one. -/
def lookup (cache : CountedCache κ α) (key : κ) : Option α × CountedCache κ α :=
  match Entries.get? key cache.slots with
  | some _ =>
      let held := cache.take key
      (held.value? key, held.drop key)
  | none => (none, cache)

/-- Publish a value, replacing what was there. -/
def store (cache : CountedCache κ α) (key : κ) (value : α) : CountedCache κ α :=
  ((cache.take key).fill key value).drop key

/-- The number of published values, counted with a handle to each slot. -/
def size (cache : CountedCache κ α) : Nat × CountedCache κ α :=
  let held := Entries.mapValues (fun slot => { slot with handles := slot.handles + 1 }) cache.slots
  ((held.filter fun (_, slot) => slot.value.isSome).length,
    ⟨Entries.mapValues (fun slot => { slot with handles := slot.handles - 1 }) held⟩)

/-- The value published for a key, or else a new one.  Whether the slot of a failed call stays is told from the
number of handles. -/
def getOrGenerate (cache : CountedCache κ α) (key : κ) (generate : σ → Except ε α × σ) (s : σ) :
    Except ε α × CountedCache κ α × σ :=
  let held := cache.take key
  match held.value? key with
  | some value => (.ok value, held.drop key, s)
  | none =>
      match generate s with
      | (.ok value, s') => (.ok value, (held.fill key value).drop key, s')
      | (.error e, s') => (.error e, (held.discard key).drop key, s')

/-- The calls on a cache that counts handles. -/
def serve (cache : CountedCache κ α) (s : σ) :
    CacheCall κ α ε σ → CacheReply (CacheAnswer α ε) (CountedCache κ α) σ
  | .store key value => ⟨.stored, cache.store key value, s⟩
  | .lookup key =>
      let (found, cache') := cache.lookup key
      ⟨.value found, cache', s⟩
  | .contains key =>
      let (found, cache') := cache.lookup key
      ⟨.verdict found.isSome, cache', s⟩
  | .size =>
      let (n, cache') := cache.size
      ⟨.count n, cache', s⟩
  | .isEmpty =>
      let (n, cache') := cache.size
      ⟨.verdict (n == 0), cache', s⟩
  | .getOrGenerate key generate =>
      let (result, cache', s') := cache.getOrGenerate key generate s
      ⟨.result result, cache', s'⟩

/-- Between calls: the only handles are those of the table. -/
def atRest (cache : SlotCache κ α) : CountedCache κ α :=
  ⟨Entries.mapValues (fun value => { value }) cache.slots⟩

/-- During a call, which has a handle to the slot of a key, with this in it. -/
def held (cache : SlotCache κ α) (key : κ) (value : Option α) : CountedCache κ α :=
  ⟨Entries.put key { handles := 2, value } (atRest cache).slots⟩

variable {cache : SlotCache κ α} {key : κ} {value : Option α} {a : α}

theorem get?_atRest : Entries.get? key (atRest cache).slots =
    (Entries.get? key cache.slots).map fun value => { value } := Entries.get?_mapValues

theorem get?_held : Entries.get? key (held cache key value).slots = some { handles := 2, value } := by
  rw [held, Entries.get?_put, if_pos rfl]

theorem take_atRest : (atRest cache).take key = held cache key (cache.lookup key) := by
  unfold take held SlotCache.lookup
  rw [get?_atRest]
  cases Entries.get? key cache.slots <;> rfl

theorem value?_held : (held cache key value).value? key = value := by
  rw [value?, get?_held]
  rfl

theorem fill_held : (held cache key value).fill key a = held cache key (some a) := by
  rw [fill, get?_held]
  exact congrArg mk (Entries.put_put _)

/-- What is in the slot when the handle is dropped stays there. -/
theorem drop_held : (held cache key value).drop key = atRest ⟨Entries.put key value cache.slots⟩ := by
  rw [drop, get?_held]
  exact congrArg mk ((Entries.put_put _).trans Entries.mapValues_put.symm)

/-- The two handles are found, and an empty slot is gone. -/
theorem drop_discard_held :
    ((held cache key none).discard key).drop key = atRest ⟨Entries.erase key cache.slots⟩ := by
  have hdiscard : (held cache key none).discard key = atRest ⟨Entries.erase key cache.slots⟩ := by
    rw [discard, get?_held]
    exact congrArg mk ((Entries.erase_put _).trans Entries.mapValues_erase.symm)
  rw [hdiscard, drop, get?_atRest, Entries.get?_erase, if_pos rfl]
  rfl

theorem lookup_atRest : (atRest cache).lookup key = (cache.lookup key, atRest cache) := by
  unfold lookup
  rw [get?_atRest, take_atRest]
  cases hslot : Entries.get? key cache.slots with
  | none =>
      rw [SlotCache.lookup, hslot]
      rfl
  | some value =>
      have hvalue : cache.lookup key = value := by
        rw [SlotCache.lookup, hslot]
        rfl
      simp only [Option.map_some, value?_held, drop_held, hvalue, Entries.put_of_get? hslot]

theorem store_atRest : (atRest cache).store key a = atRest (cache.store key a) := by
  rw [store, take_atRest, fill_held, drop_held, SlotCache.store_eq_publish]
  rfl

omit [DecidableEq κ] in
theorem size_atRest : (atRest cache).size = (cache.size, atRest cache) := by
  have hcount : ∀ slots : Entries κ (Option α),
      ((Entries.mapValues (fun value => (⟨2, value⟩ : CountedSlot α)) slots).filter
        fun entry => entry.2.value.isSome).length = (slots.filter fun entry => entry.2.isSome).length := by
    intro slots
    rw [Entries.mapValues, List.filter_map, List.length_map]
    rfl
  simp only [size, atRest, Entries.mapValues_mapValues]
  exact Prod.ext (hcount cache.slots) rfl

/-- Counting handles comes to the same as dropping the empty slot of a failed call. -/
theorem getOrGenerate_atRest (generate : σ → Except ε α × σ) (s : σ) :
    (atRest cache).getOrGenerate key generate s =
      ((cache.getOrGenerate key generate s).1, atRest (cache.getOrGenerate key generate s).2.1,
        (cache.getOrGenerate key generate s).2.2) := by
  unfold getOrGenerate
  simp only [take_atRest, value?_held]
  cases hlookup : cache.lookup key with
  | some value =>
      have hslot : Entries.get? key cache.slots = some (some value) := Option.join_eq_some_iff.mp hlookup
      rw [SlotCache.getOrGenerate_of_lookup hlookup]
      simp only [drop_held, Entries.put_of_get? hslot]
  | none =>
      rcases hgenerate : generate s with ⟨e | value, s'⟩
      · unfold SlotCache.getOrGenerate
        simp only [SlotCache.lookup_claim, hlookup, hgenerate, drop_discard_held, SlotCache.discard_claim hlookup]
      · rw [SlotCache.getOrGenerate_of_ok hlookup hgenerate, SlotCache.store_eq_publish]
        simp only [fill_held, drop_held]
        rfl

/-- No call is in progress, and the slots are those of the other cache. -/
def Rests (counted : CountedCache κ α) (cache : SlotCache κ α) : Prop := counted = atRest cache

/-- A call takes its handles back. -/
theorem Rests.serve {counted : CountedCache κ α} (h : counted.Rests cache) (s : σ)
    (call : CacheCall κ α ε σ) : (counted.serve s call).Agrees Rests (cache.serve s call) := by
  obtain rfl : counted = atRest cache := h
  cases call with
  | store key value => exact ⟨rfl, store_atRest, rfl⟩
  | lookup key =>
      rw [CountedCache.serve, lookup_atRest]
      exact ⟨rfl, rfl, rfl⟩
  | contains key =>
      rw [CountedCache.serve, lookup_atRest]
      exact ⟨rfl, rfl, rfl⟩
  | size =>
      rw [CountedCache.serve, size_atRest]
      exact ⟨rfl, rfl, rfl⟩
  | isEmpty =>
      rw [CountedCache.serve, size_atRest]
      exact ⟨rfl, rfl, rfl⟩
  | getOrGenerate key generate =>
      rw [CountedCache.serve, getOrGenerate_atRest]
      exact ⟨rfl, rfl, rfl⟩

end CountedCache

/-! ### Caches that start empty -/

/-- **A cache is a finite map.**  Whatever calls are made, one after the other, a cache with slots and one that counts
the handles to them give the answers of a map and run the same generators.  Afterwards a key has a slot if and only if
the map has a value for it, which is what the slot holds; and no handle but that of the table is left. -/
theorem serveAll_empty [DecidableEq κ] (calls : List (CacheCall κ α ε σ)) (s : σ) :
    let map := serveAll FiniteMap.serve ∅ s calls
    let plain := serveAll SlotCache.serve {} s calls
    let counted := serveAll CountedCache.serve {} s calls
    plain.answer = map.answer ∧ plain.state = map.state ∧
      counted.answer = map.answer ∧ counted.state = map.state ∧
        ∀ key, Entries.get? key plain.cache.slots = (map.cache.lookup key).map some ∧
          Entries.get? key counted.cache.slots =
            (map.cache.lookup key).map fun value => { handles := 1, value := some value } := by
  intro map plain counted
  have hplain : plain.Agrees SlotCache.Represents map :=
    serveAll_agrees (fun h s call => h.serve s call) .empty s calls
  have hrests : ({} : CountedCache κ α).Rests {} := rfl
  have hcounted : counted.Agrees CountedCache.Rests plain :=
    serveAll_agrees (fun h s call => h.serve s call) hrests s calls
  refine ⟨hplain.answer, hplain.state, hcounted.answer.trans hplain.answer,
    hcounted.state.trans hplain.state, fun key => ⟨hplain.cache.slots key, ?_⟩⟩
  rw [show counted.cache = _ from hcounted.cache, CountedCache.get?_atRest, hplain.cache.slots, Option.map_map]
  rfl

/-- Neither a look-up nor a failure leaves a slot, and after a failure the next call generates. -/
example : serveAll CountedCache.serve ({} : CountedCache Char Nat) 0
      [.lookup 'a', .getOrGenerate 'a' fun runs => (.error "none", runs + 1), .size,
        .getOrGenerate 'a' fun runs => (.ok 7, runs + 1)] =
    ⟨[.value none, .result (.error "none"), .count 0, .result (.ok 7)], ⟨[('a', ⟨1, some 7⟩)]⟩, 2⟩ := rfl

end StructuralAdapters
