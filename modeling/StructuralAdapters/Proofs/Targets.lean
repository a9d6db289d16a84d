import StructuralAdapters.Dispatch

/-!
# Targets

A call finds a target and runs it.

* `Body.Arrives` — where following a body leads: a behaviour, and the instance and the part of it on which the behaviour
  runs, with `Body.target_eq_ok_iff`;
* `Target.RunsOnce` — the outcome is what one run of the target's behaviour leaves behind, with `Target.runsOnce_iff`;
* `Outcome.runsOnce_ofTarget` — a call that has a target runs it once.

## One run

`Target.run` gives the outcome of a call as a value, and an equation of outcomes does not say how often something ran to
get there.  `Target.RunsOnce` takes the run apart: there is a single computation of the behaviour, it begins with the
caller's own invocation and world, and what it ends with is handed on as it is.
-/

namespace StructuralAdapters

/-! ### Where a body leads -/

/-- Following a body from a receiver arrives at a behaviour, and at the part of an instance that is of the type that
declared it. -/
inductive Body.Arrives : Body → Receiver → Target → Prop
  | own (type : TypeKey) (behaviour : Behaviour) (identity : Nat) :
      Arrives (.own type behaviour) (.part identity type) ⟨behaviour, identity, type⟩
  | inherited (type : TypeKey) {base : TypeKey} {inner : Body} {identity : Nat} {t : Target}
      (hinner : Arrives inner (.part identity base) t) :
      Arrives (.inherited type base inner) (.part identity type) t
  | forward {inner : Body} {real : Object} {t : Target} (hinner : Arrives inner real.receiver t) :
      Arrives (.forward inner) (.holder real) t

theorem Body.Arrives.target_eq {body : Body} {receiver : Receiver} {t : Target} (h : body.Arrives receiver t) :
    body.target receiver = .ok t := by
  induction h with
  | own type behaviour identity => exact if_pos rfl
  | inherited type _ ih => rwa [target, if_pos rfl]
  | forward _ ih => rwa [target]

/-- A body has a target if following it arrives there. -/
theorem Body.target_eq_ok_iff {body : Body} {receiver : Receiver} {t : Target} :
    body.target receiver = .ok t ↔ body.Arrives receiver t := by
  constructor
  · intro h
    fun_induction Body.target body receiver with
    | case1 =>
        cases h
        exact .own ..
    | case3 _ _ _ _ ih => exact .inherited _ (ih h)
    | case7 _ _ ih => exact .forward (ih h)
    -- What is left are receivers of the wrong type.
    | case2 | case4 | case5 | case6 | case8 => cases h
  · exact Arrives.target_eq

/-- Where the body of a member leads is what a call of the member runs. -/
theorem Member.target_of_arrives {m : Member} {receiver : Receiver} {t : Target} (h : m.body.Arrives receiver t) :
    m.target receiver = .ok t := by
  rw [target, h.target_eq]
  rfl

/-! ### Running a target -/

/-- The outcome is what one run of the target's behaviour leaves behind.  The run begins with the invocation and the
world as they are, and its result, its arguments and its world are handed on as they are when it ends. -/
inductive Target.RunsOnce (t : Target) (inv : Invocation) (w : World) : Outcome → Prop
  | intro {result : Except Failure Value} {frame : Frame}
      (hrun : (t.behaviour.run .values t.identity).run ⟨inv, w⟩ = (result, frame)) :
      RunsOnce t inv w ⟨result, frame.invocation.args, frame.world⟩

variable {t : Target} {inv : Invocation} {w : World}

theorem Target.runsOnce_run (t : Target) (inv : Invocation) (w : World) : t.RunsOnce inv w (t.run inv w) :=
  .intro rfl

/-- There is one such outcome. -/
theorem Target.runsOnce_iff {outcome : Outcome} : t.RunsOnce inv w outcome ↔ outcome = t.run inv w := by
  constructor
  · rintro ⟨hrun⟩
    rw [run, runWith, hrun]
  · rintro rfl
    exact t.runsOnce_run inv w

/-- A call that has a target runs it once. -/
theorem Outcome.runsOnce_ofTarget {target : Except CallError Target} (h : target = .ok t) (inv : Invocation)
    (w : World) : t.RunsOnce inv w (.ofTarget target inv w) := by
  rw [h]
  exact t.runsOnce_run inv w

end StructuralAdapters
