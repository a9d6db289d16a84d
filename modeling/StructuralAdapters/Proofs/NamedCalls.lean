import StructuralAdapters.Proofs.Invoking

/-!
# Calls by name

A call by name has no signature.  The form of its arguments picks one out of the signatures with that name, and the
member that runs is then looked up by the structural key of this signature.

* `Signature.Takes` — the calls by name that a signature takes;
* `Selects` — what a call by name has to come to: the only candidate that takes it runs, and without exactly one
  nothing does;
* `Object.Genuine` — instances of declared types, and instances of adapter types that were generated for what they
  hold;
* `NamedCall.runs_what_it_selects` — calls on objects and on values typed as a contract come to this.

## Two look-ups

Selection goes by a pattern that says less than a key: it knows how many arguments there are and which of them are by
reference, and nothing of their shapes.  The second look-up goes by the key, and of several members with one key it
finds the last.  A member that it finds has the pattern as well, so where only one member has the pattern, that is
the one.
-/

namespace StructuralAdapters

/-! ### What a signature takes -/

namespace Signature

variable {s t : Signature} {name : String} {inv : Invocation}

/-- The call by name is one that the signature takes: it has this name, type arguments and arguments are as many as
there are parameters for them, and each argument is passed as its parameter says. -/
structure Takes (s : Signature) (name : String) (inv : Invocation) : Prop where
  name_eq : s.name = name
  generics : inv.typeArgs.length = s.genericArity
  count : inv.args.length = s.params.length
  modes : Contracted.AgreeBelow s.params.length s.params inv.args

/-- The flags of parameters and arguments are the same if there are as many of both and they agree one by one. -/
theorem flags_eq_iff {params : List Param} {args : List Arg} :
    params.map (·.mode.isByRef) = args.map Arg.isByRef ↔
      args.length = params.length ∧ Contracted.AgreeBelow params.length params args := by
  induction params generalizing args with
  | nil =>
      cases args with
      | nil => simp [Contracted.AgreeBelow]
      | cons a args => simp
  | cons p params ih =>
      cases args with
      | nil => simp
      | cons a args =>
          rw [List.map_cons, List.map_cons, List.cons.injEq, ih, List.length_cons, List.length_cons,
            Nat.add_right_cancel_iff, Contracted.agreeBelow_cons, eq_comm (a := a.isByRef)]
          exact and_left_comm

theorem fits_iff : s.fits name inv.form = true ↔ s.Takes name inv := by
  simp only [fits, Invocation.form, Bool.and_eq_true, beq_iff_eq, byRefFlags, flags_eq_iff]
  constructor
  · rintro ⟨⟨hname, hgenerics⟩, hcount, hmodes⟩
    exact ⟨hname, hgenerics.symm, hcount, hmodes⟩
  · intro h
    exact ⟨⟨h.name_eq, h.generics.symm⟩, h.count, h.modes⟩

instance (s : Signature) (name : String) (inv : Invocation) : Decidable (s.Takes name inv) :=
  decidable_of_iff _ fits_iff

/-- A key has the by-reference flags in it. -/
theorem byRefFlags_eq_of_key_eq (h : s.key = t.key) : s.byRefFlags = t.byRefFlags := by
  have hflags (u : Signature) : u.byRefFlags = u.key.params.map Prod.fst := by
    rw [key, List.map_map]
    rfl
  rw [hflags, hflags, h]

/-- Signatures with one key take the same calls, as long as their arities are kept in full. -/
theorem Takes.of_key_eq (h : s.Takes name inv) (hkey : t.key = s.key) (hs : s.genericArity < 65536)
    (ht : t.genericArity < 65536) : t.Takes name inv := by
  rw [← fits_iff, fits] at h ⊢
  rwa [(key_eq_iff.mp hkey).1, genericArity_eq_of_key_eq ht hs hkey, byRefFlags_eq_of_key_eq hkey]

end Signature

/-! ### Selection -/

section Selection

variable {α : Type} {signature : α → Signature} {owner name : String} {candidates : List α} {inv : Invocation}

/-- Those of the candidates that take the call, in their order. -/
def taking (signature : α → Signature) (name : String) (inv : Invocation) (candidates : List α) : List α :=
  candidates.filter fun a => (signature a).Takes name inv

/-- What a call by name has to come to.  If a single candidate takes the call, the outcome is that of running it; if
none does or several do, the call is refused, and in the second case all of them are named in their order. -/
structure Selects (signature : α → Signature) (run : α → Outcome) (owner name : String) (candidates : List α)
    (inv : Invocation) (w : World) (outcome : Outcome) : Prop where
  single : ∀ a, taking signature name inv candidates = [a] → outcome = run a
  none : taking signature name inv candidates = [] →
    outcome = .refused (.noSuchMember owner name) inv.args w
  several : 2 ≤ (taking signature name inv candidates).length →
    outcome = .refused (.ambiguousCall owner name
      ((taking signature name inv candidates).map fun a => (signature a).display)) inv.args w

/-- The signatures that fit are those of the candidates that take the call. -/
theorem filter_fits (signature : α → Signature) (name : String) (inv : Invocation) (candidates : List α) :
    (candidates.map signature).filter (·.fits name inv.form) =
      (taking signature name inv candidates).map signature := by
  rw [List.filter_map, taking]
  congr 1
  apply List.filter_congr
  intro a _
  rw [Bool.eq_iff_iff, decide_eq_true_iff]
  exact Signature.fits_iff

theorem selectOverload_of_single {a : α} (h : taking signature name inv candidates = [a]) :
    selectOverload owner (candidates.map signature) name inv.form = .ok (signature a) := by
  rw [selectOverload, filter_fits, h]
  rfl

theorem selectOverload_of_none (h : taking signature name inv candidates = []) :
    selectOverload owner (candidates.map signature) name inv.form = .error (.noSuchMember owner name) := by
  rw [selectOverload, filter_fits, h]
  rfl

theorem selectOverload_of_several (h : 2 ≤ (taking signature name inv candidates).length) :
    selectOverload owner (candidates.map signature) name inv.form =
      .error (.ambiguousCall owner name
        ((taking signature name inv candidates).map fun a => (signature a).display)) := by
  rw [selectOverload, filter_fits]
  rcases htaking : taking signature name inv candidates with _ | ⟨a, _ | ⟨b, rest⟩⟩
  · rw [htaking] at h
    exact absurd h (by simp)
  · rw [htaking] at h
    exact absurd h (by simp)
  · simp

end Selection

/-! ### Objects -/

namespace Object

variable {o : Object} {name : String} {inv : Invocation} {m : Member}

/-- **The second look-up finds the selected member**: every member with its key takes the call as well. -/
theorem member?_of_taking (hfew : ∀ m ∈ o.type.members, m.signature.genericArity < 65536)
    (h : taking Member.signature name inv o.type.members = [m]) : o.type.member? m.key = some m := by
  have hm : m ∈ taking Member.signature name inv o.type.members := h ▸ List.mem_cons_self
  obtain ⟨hmem, htakes⟩ := List.mem_filter.mp hm
  obtain ⟨m', hm', hkey, hfound⟩ := TypeDescriptor.exists_member?_eq hmem
  have htakes' : m'.signature.Takes name inv :=
    (of_decide_eq_true htakes).of_key_eq hkey (hfew m hmem) (hfew m' hm')
  have hm'' : m' ∈ taking Member.signature name inv o.type.members :=
    List.mem_filter.mpr ⟨hm', decide_eq_true htakes'⟩
  rw [h] at hm''
  rw [hfound, List.mem_singleton.mp hm'']

theorem targetNamed_of_taking (hfew : ∀ m ∈ o.type.members, m.signature.genericArity < 65536)
    (h : taking Member.signature name inv o.type.members = [m]) :
    o.targetNamed name inv.form = m.target o.receiver := by
  rw [targetNamed, selectOverload_of_single h]
  show o.targetOf m.signature = _
  rw [targetOf, show o.type.member? m.signature.key = some m from member?_of_taking hfew h]

/-- A call by name on an object runs the member that it selects. -/
theorem selects (hfew : ∀ m ∈ o.type.members, m.signature.genericArity < 65536) (name : String)
    (inv : Invocation) (w : World) :
    Selects Member.signature (·.call o inv w) o.type.name name o.type.members inv w (o.call name inv w) where
  single m h := by rw [call, targetNamed_of_taking hfew h, Member.call]
  none h := by
    rw [call, targetNamed, selectOverload_of_none h]
    rfl
  several h := by
    rw [call, targetNamed, selectOverload_of_several h]
    rfl

/-- An instance of a declared type, or an instance of an adapter type that was generated for the type of the genuine
object that it holds. -/
inductive Genuine : Object → Prop
  | source (identity : Nat) {t : TypeDescriptor} (ht : t.Declared) : Genuine (.source identity t)
  | adapter (identity : Nat) {real : Object} (hreal : real.Genuine) {settings : Settings} {c : Contract}
      {key : TypeKey} {a : AdapterType}
      (hgenerate : AdapterType.generate settings c real.type key = .ok a) :
      Genuine (a.instantiate identity real)

theorem Genuine.callable (h : o.Genuine) : o.Callable := by
  induction h with
  | source identity ht => exact callable_source ht identity
  | adapter identity _ hgenerate ih => exact ih.instantiate hgenerate identity

/-- On a genuine object the member that is selected leads to a behaviour of the source object behind it. -/
theorem Genuine.exists_target (h : o.Genuine)
    (hfew : ∀ m ∈ o.type.members, m.signature.genericArity < 65536)
    (htaking : taking Member.signature name inv o.type.members = [m]) (w : World) :
    ∃ t, m.target o.receiver = .ok t ∧ o.Runs t ∧ o.call name inv w = t.run inv w ∧
      t.RunsOnce inv w (o.call name inv w) := by
  have hm : m ∈ taking Member.signature name inv o.type.members := htaking ▸ List.mem_cons_self
  obtain ⟨t, ht, hruns⟩ := h.callable m (List.mem_filter.mp hm).1
  have honce : t.RunsOnce inv w (o.call name inv w) := by
    rw [(selects hfew name inv w).single m htaking]
    exact Outcome.runsOnce_ofTarget ht inv w
  exact ⟨t, ht, hruns, Target.runsOnce_iff.mp honce, honce⟩

end Object

/-! ### Values typed as a contract -/

namespace Contracted

variable {k : Contracted} {name : String} {inv : Invocation} {r : Requirement}

/-- A requirement that takes a call by name admits it. -/
theorem admits_of_takes (hr : r ∈ k.contract.requirements) (h : r.signature.Takes name inv) :
    k.Admits r.signature inv :=
  ⟨⟨r, hr, rfl⟩, h.count, h.modes, h.generics⟩

/-- The requirement that is selected passes all checks. -/
theorem check_of_taking (h : taking Requirement.signature name inv k.contract.requirements = [r]) :
    k.check r.signature inv = .ok () := by
  have hr : r ∈ taking Requirement.signature name inv k.contract.requirements := h ▸ List.mem_cons_self
  obtain ⟨hmem, htakes⟩ := List.mem_filter.mp hr
  exact (admits_of_takes hmem (of_decide_eq_true htakes)).check_eq

/-- A call by name through a contract calls the requirement that it selects. -/
theorem selects (k : Contracted) (name : String) (inv : Invocation) (w : World) :
    Selects Requirement.signature (k.invoke ·.signature inv w) k.contract.displayName name
      k.contract.requirements inv w (k.call name inv w) where
  single r h := by
    rw [call, selectOverload_of_single h]
  none h := by
    rw [call, selectOverload_of_none h]
  several h := by
    rw [call, selectOverload_of_several h]

end Contracted

/-! ### Both kinds of calls -/

/-- **A call by name runs what it selects.**  On an object whose members have few enough generic parameters for a key
to count, the only member that takes the call is the one that is called, and on a genuine object it leads to a
behaviour that runs once.  On a value typed as a contract the call is a call of the only requirement that takes it, and
this passes every check.  Without exactly one candidate nothing runs, and the error names the candidates. -/
theorem NamedCall.runs_what_it_selects (name : String) (inv : Invocation) (w : World) :
    (∀ o : Object, (∀ m ∈ o.type.members, m.signature.genericArity < 65536) →
      Selects Member.signature (·.call o inv w) o.type.name name o.type.members inv w (o.call name inv w) ∧
        (o.Genuine → ∀ m, taking Member.signature name inv o.type.members = [m] →
          ∃ t, m.target o.receiver = .ok t ∧ o.Runs t ∧ o.call name inv w = t.run inv w ∧
            t.RunsOnce inv w (o.call name inv w))) ∧
    ∀ k : Contracted,
      Selects Requirement.signature (k.invoke ·.signature inv w) k.contract.displayName name
          k.contract.requirements inv w (k.call name inv w) ∧
        ∀ r, taking Requirement.signature name inv k.contract.requirements = [r] →
          k.check r.signature inv = .ok () := by
  refine ⟨?_, ?_⟩
  · intro o hfew
    exact ⟨Object.selects hfew name inv w, fun hgenuine m hm => hgenuine.exists_target hfew hm w⟩
  · intro k
    exact ⟨k.selects name inv w, fun r hr => Contracted.check_of_taking hr⟩

/-! ### A press with two bases -/

namespace Press

/-- `Print(int)`, with the argument passed in the given mode. -/
def print (mode : PassMode) : Signature :=
  { Signature.method "Print" with params := [⟨.int, mode⟩] }

/-- A source type that prints its argument by value. -/
def base (name : String) (key : TypeKey) : TypeDescriptor :=
  TypeDraft.build { name, members := [.method (print .value) [.argument 0]] } key

/-- A source type that inherits printing by value twice, and prints by reference itself. -/
def press : TypeDescriptor :=
  TypeDraft.build
    { name := "Press", bases := [base "Left" ⟨1⟩, base "Right" ⟨2⟩]
      members := [.method (print .ref) [.store 0 (.int 3)]] } ⟨3⟩

/-- A contract that requires printing by value. -/
def printing : Contract :=
  { handle := 0, id := ⟨1, []⟩, name := "Printing", typeParams := [], parents := []
    members := [print .value] }

theorem declared_press : press.Declared := by
  refine .of_draft _ _ ?_
  intro t ht
  have hbase (name : String) (key : TypeKey) : (base name key).Declared :=
    .of_draft _ _ nofun
  rcases List.mem_cons.mp ht with rfl | ht
  · exact hbase _ _
  · rw [List.mem_singleton.mp ht]
    exact hbase _ _

theorem requirements_printing : printing.requirements = [⟨"Printing", print .value⟩] :=
  Contract.requirements_of_root rfl (List.nodup_singleton _)

/-- A press. -/
def object : Object := .source 0 press

/-- A call with the argument 1, passed in the given way. -/
def printed (arg : Value → Arg) : Invocation := ⟨[], [arg (.int 1)]⟩

/-- The press prints by reference.  Printing by value is ambiguous between what it inherits, and is a call of the only
requirement, which passes all checks, where the press is seen through the contract.  It cannot scan. -/
theorem press_runs_what_it_selects :
    object.call "Print" (printed .byRef) {} =
      Target.run ⟨.script [.store 0 (.int 3)], 0, press.key⟩ (printed .byRef) {} ∧
    object.call "Print" (printed .byValue) {} =
      .refused (.ambiguousCall "Press" "Print" [(print .value).display, (print .value).display])
        (printed .byValue).args {} ∧
    object.call "Scan" ⟨[], []⟩ {} = .refused (.noSuchMember "Press" "Scan") [] {} ∧
    Contracted.call ⟨printing, object⟩ "Print" (printed .byValue) {} =
      Contracted.invoke ⟨printing, object⟩ (print .value) (printed .byValue) {} ∧
    Contracted.check ⟨printing, object⟩ (print .value) (printed .byValue) = .ok () := by
  have hfew : ∀ m ∈ object.type.members, m.signature.genericArity < 65536 := by decide
  have hnamed (name : String) (inv : Invocation) :=
    (NamedCall.runs_what_it_selects name inv {}).1 object hfew
  refine ⟨?_, ?_, ?_, ?_⟩
  · obtain ⟨t, ht, -, hcall, -⟩ := (hnamed "Print" (printed .byRef)).2 (.source 0 declared_press)
      ⟨print .ref, .own ⟨3⟩ (.script [.store 0 (.int 3)]), "Press"⟩ rfl
    obtain rfl : _ = t := Except.ok.inj ht
    exact hcall
  · exact (hnamed "Print" (printed .byValue)).1.several (by decide)
  · exact (hnamed "Scan" ⟨[], []⟩).1.none rfl
  · have hsingle : taking Requirement.signature "Print" (printed .byValue) printing.requirements =
        [⟨"Printing", print .value⟩] := by
      rw [requirements_printing]
      rfl
    obtain ⟨hselects, hcheck⟩ :=
      (NamedCall.runs_what_it_selects "Print" (printed .byValue) {}).2 ⟨printing, object⟩
    exact ⟨hselects.single _ hsingle, hcheck _ hsingle⟩

end Press

end StructuralAdapters
