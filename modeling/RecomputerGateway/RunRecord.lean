import Mathlib.Data.List.Basic
import RecomputerGateway.Transition

namespace RecomputerGateway.System

/-!
# Records of runs

An observer notes something at each step of a run, from the state and the
event.  What it has noted at the end of a run is a function of the start and
the events; invariants may compare it with the state reached, and a run keeps
a condition exactly if the observer of its violations notes nothing.
-/

variable {State Event Note : Type}
variable {system : System State Event}

/-- What an observer notes from a state on. -/
def record
    (system : System State Event)
    (note : State → Event → List Note) :
    State → List Event → List Note
  | _, [] => []
  | state, event :: rest =>
      note state event ++
        match system.step? state event with
        | none => []
        | some next => system.record note next rest

theorem record_cons
    {note : State → Event → List Note}
    {state next : State}
    {event : Event}
    (stepped : system.step? state event = some next)
    (rest : List Event) :
    system.record note state (event :: rest) =
      note state event ++ system.record note next rest := by
  simp only [record, stepped]

/-- The record of a run that goes on. -/
theorem record_append
    {note : State → Event → List Note}
    {source target : State}
    {events : List Event}
    (run : system.Run source events target)
    (later : List Event) :
    system.record note source (events ++ later) =
      system.record note source events ++
        system.record note target later := by
  induction run with
  | done state =>
      rfl
  | step event rest allowed stepped remainder inductionHypothesis =>
      rw [List.cons_append, record_cons stepped, record_cons stepped,
        inductionHypothesis, List.append_assoc]

/-- The record of a run and one more event. -/
theorem record_snoc
    {note : State → Event → List Note}
    {source target : State}
    {events : List Event}
    (run : system.Run source events target)
    (event : Event) :
    system.record note source (events ++ [event]) =
      system.record note source events ++ note target event := by
  rw [record_append run]
  refine congrArg _ ?_
  cases stepped : system.step? target event <;> simp [record, stepped]

/--
Invariant rule with the run so far: what every step preserves, when its event
is added to the run, holds at the end.
-/
theorem GuardedRun.recorded
    {source target : State}
    {events : List Event}
    (run : system.Run source events target)
    (property : List Event → State → Prop)
    (base : property [] source)
    (preserved :
      ∀ earlier state event next,
        system.Run source earlier state →
          property earlier state →
            system.step? state event = some next →
              property (earlier ++ [event]) next) :
    property events target := by
  have begins : system.Run source [] source ∧ property [] source :=
    ⟨.done source, base⟩
  have both :=
    run.history
      (fun earlier state =>
        system.Run source earlier state ∧ property earlier state)
      (by
        rintro earlier state event next ⟨before, holds⟩ - stepped
        exact
          ⟨before.trans (.step event [] trivial stepped (.done next)),
            preserved earlier state event next before holds stepped⟩)
      begins
  exact both.2

/-- A run keeps a condition exactly if nothing is noted against it. -/
theorem record_eq_nil_iff
    {note : State → Event → List Note}
    {condition : State → Event → Prop}
    (decides : ∀ state event, note state event = [] ↔ condition state event)
    {source target : State}
    {events : List Event}
    (run : system.Run source events target) :
    system.record note source events = [] ↔
      system.GuardedRun condition source events target := by
  constructor
  · intro nothing
    induction run with
    | done state =>
        exact .done state
    | step event rest allowed stepped remainder inductionHypothesis =>
        rw [record_cons stepped, List.append_eq_nil_iff] at nothing
        exact
          .step event rest ((decides _ event).mp nothing.1) stepped
            (inductionHypothesis nothing.2)
  · intro kept
    clear run
    induction kept with
    | done state =>
        rfl
    | step event rest allowed stepped remainder inductionHypothesis =>
        rw [record_cons stepped, (decides _ event).mpr allowed,
          inductionHypothesis, List.append_nil]

end RecomputerGateway.System
