import Mathlib.Logic.Function.Basic

namespace RecomputerGateway

/-!
# Executable labelled transition systems

A program whose steps interleave with its environment is modelled by a partial
step function: `step? state event` is `none` when the event cannot happen in
that state.  This module develops the vocabulary shared by every such model:
runs, reachable states, runs all of whose steps meet a condition, the induction
rules for invariants, and simulations between two systems.

Nothing here refers to a particular program.
-/

/-- A partial step function together with the states a run may start from. -/
structure System (State Event : Type) where
  Initial : State → Prop
  step? : State → Event → Option State

namespace System

variable {State Event : Type}

/-- Execute a list of events, failing as soon as one of them is not enabled. -/
def run?
    (system : System State Event) :
    State → List Event → Option State
  | state, [] => some state
  | state, event :: rest =>
      match system.step? state event with
      | none => none
      | some next => system.run? next rest

/-- Execute a list of events as long as each of them is allowed. -/
def runWhile?
    (system : System State Event)
    (allowed : State → Event → Bool) :
    State → List Event → Option State
  | state, [] => some state
  | state, event :: rest =>
      if allowed state event then
        match system.step? state event with
        | none => none
        | some next => system.runWhile? allowed next rest
      else none

/--
A run each of whose events satisfies `guard` in the state it happens in.  The
unguarded runs are those of the trivial guard.
-/
inductive GuardedRun
    (system : System State Event)
    (guard : State → Event → Prop) :
    State → List Event → State → Prop where
  | done (state : State) :
      GuardedRun system guard state [] state
  | step
      {source next target : State}
      (event : Event)
      (rest : List Event)
      (allowed : guard source event)
      (stepped : system.step? source event = some next)
      (remainder : GuardedRun system guard next rest target) :
      GuardedRun system guard source (event :: rest) target

/-- A run with no condition on its events. -/
abbrev Run
    (system : System State Event) :
    State → List Event → State → Prop :=
  system.GuardedRun fun _ _ => True

/-- A state at the end of some guarded run from an initial state. -/
def GuardedReachable
    (system : System State Event)
    (guard : State → Event → Prop)
    (state : State) : Prop :=
  ∃ start events,
    system.Initial start ∧
      system.GuardedRun guard start events state

/-- A state at the end of some run from an initial state. -/
abbrev Reachable
    (system : System State Event) : State → Prop :=
  system.GuardedReachable fun _ _ => True

namespace GuardedRun

variable {system : System State Event}
variable {guard : State → Event → Prop}

/-- Guarded runs compose. -/
theorem trans
    {source between target : State}
    {before after : List Event}
    (earlier : system.GuardedRun guard source before between)
    (later : system.GuardedRun guard between after target) :
    system.GuardedRun guard source (before ++ after) target := by
  induction earlier with
  | done state =>
      exact later
  | step event rest allowed stepped remainder inductionHypothesis =>
      exact .step event (rest ++ after) allowed stepped
        (inductionHypothesis later)

/-- A guarded run over two lists of events passes a state between them. -/
theorem split
    {source target : State}
    {before after : List Event}
    (run : system.GuardedRun guard source (before ++ after) target) :
    ∃ between,
      system.GuardedRun guard source before between ∧
        system.GuardedRun guard between after target := by
  induction before generalizing source with
  | nil =>
      exact ⟨source, .done source, run⟩
  | cons event rest inductionHypothesis =>
      cases run with
      | step _ _ allowed stepped remainder =>
          obtain ⟨between, earlier, later⟩ := inductionHypothesis remainder
          exact ⟨between, .step event rest allowed stepped earlier, later⟩

/-- Weakening the guard keeps a run. -/
theorem mono
    {weaker : State → Event → Prop}
    {source target : State}
    {events : List Event}
    (run : system.GuardedRun guard source events target)
    (implied : ∀ state event, guard state event → weaker state event) :
    system.GuardedRun weaker source events target := by
  induction run with
  | done state =>
      exact .done state
  | step event rest allowed stepped remainder inductionHypothesis =>
      exact .step event rest (implied _ _ allowed) stepped
        inductionHypothesis

/-- A condition that all its events meet may be added to the guard of a run. -/
theorem restrict
    {condition : Event → Prop}
    {source target : State}
    {events : List Event}
    (run : system.GuardedRun guard source events target)
    (meets : ∀ event ∈ events, condition event) :
    system.GuardedRun
      (fun state event => guard state event ∧ condition event)
      source events target := by
  induction run with
  | done state =>
      exact .done state
  | step event rest allowed stepped remainder inductionHypothesis =>
      exact .step event rest ⟨allowed, meets event (.head rest)⟩ stepped
        (inductionHypothesis fun other member =>
          meets other (.tail event member))

/-- A guarded run is a run. -/
theorem forget
    {source target : State}
    {events : List Event}
    (run : system.GuardedRun guard source events target) :
    system.Run source events target :=
  run.mono fun _ _ _ => trivial

/-- What every guarded step preserves accompanies a run that starts with it. -/
theorem carry
    (property : State → Prop)
    (preserved :
      ∀ state event next,
        property state →
        guard state event →
        system.step? state event = some next →
        property next)
    {source target : State}
    {events : List Event}
    (run : system.GuardedRun guard source events target)
    (holds : property source) :
    system.GuardedRun
        (fun state event => guard state event ∧ property state)
        source events target ∧
      property target := by
  induction run with
  | done state =>
      exact ⟨.done state, holds⟩
  | step event rest allowed stepped remainder inductionHypothesis =>
      obtain ⟨carried, atTarget⟩ :=
        inductionHypothesis (preserved _ event _ holds allowed stepped)
      exact ⟨.step event rest ⟨allowed, holds⟩ stepped carried, atTarget⟩

/--
Invariant rule along one run: what every guarded step preserves holds at the
end of a run that starts with it.
-/
theorem invariant
    (property : State → Prop)
    (preserved :
      ∀ state event next,
        property state →
        guard state event →
        system.step? state event = some next →
        property next)
    {source target : State}
    {events : List Event}
    (run : system.GuardedRun guard source events target)
    (holds : property source) :
    property target :=
  (run.carry property preserved holds).2

/--
Invariant rule with the events so far: what every guarded step preserves, when
its event is added to them, holds at the end of the run.
-/
theorem history
    (property : List Event → State → Prop)
    (preserved :
      ∀ earlier state event next,
        property earlier state →
        guard state event →
        system.step? state event = some next →
        property (earlier ++ [event]) next)
    {source target : State}
    {earlier events : List Event}
    (run : system.GuardedRun guard source events target)
    (holds : property earlier source) :
    property (earlier ++ events) target := by
  induction run generalizing earlier with
  | done state =>
      rwa [List.append_nil]
  | step event rest allowed stepped remainder inductionHypothesis =>
      have holdsNext := preserved earlier _ event _ holds allowed stepped
      have holdsLater := inductionHypothesis holdsNext
      rwa [List.append_assoc] at holdsLater

/-- A guarded run leads from guarded reachable states to such states. -/
theorem reachable
    {source target : State}
    {events : List Event}
    (run : system.GuardedRun guard source events target)
    (sourceReachable : system.GuardedReachable guard source) :
    system.GuardedReachable guard target := by
  obtain ⟨start, earlier, isInitial, before⟩ := sourceReachable
  exact ⟨start, earlier ++ events, isInitial, before.trans run⟩

end GuardedRun

namespace GuardedReachable

variable {system : System State Event}
variable {guard : State → Event → Prop}

/-- Initial states are reachable under every guard. -/
theorem initial
    {state : State}
    (isInitial : system.Initial state) :
    system.GuardedReachable guard state :=
  ⟨state, [], isInitial, .done state⟩

/-- One guarded step stays within the guarded reachable states. -/
theorem step
    {state next : State}
    {event : Event}
    (reachable : system.GuardedReachable guard state)
    (allowed : guard state event)
    (stepped : system.step? state event = some next) :
    system.GuardedReachable guard next :=
  GuardedRun.reachable
    (.step event [] allowed stepped (.done next)) reachable

/--
Invariant rule: a property of the initial states that every guarded step from
a guarded reachable state preserves holds in every guarded reachable state.
-/
theorem invariant
    (property : State → Prop)
    (base : ∀ state, system.Initial state → property state)
    (preserved :
      ∀ state event next,
        system.GuardedReachable guard state →
        property state →
        guard state event →
        system.step? state event = some next →
        property next)
    {state : State}
    (reachable : system.GuardedReachable guard state) :
    property state := by
  obtain ⟨start, events, isInitial, run⟩ := reachable
  -- Reachability itself travels along the run, so that `preserved` may use it.
  have strengthened :
      system.GuardedReachable guard state ∧ property state := by
    refine run.invariant
      (fun current =>
        system.GuardedReachable guard current ∧ property current)
      ?_ ⟨initial isInitial, base start isInitial⟩
    rintro current event next ⟨currentReachable, holds⟩ allowed stepped
    exact ⟨currentReachable.step allowed stepped,
      preserved current event next currentReachable holds allowed stepped⟩
  exact strengthened.2

/--
Invariant rule for a run from a reachable state: the steps may use that the
states they start from are reachable.
-/
theorem run_invariant
    (property : State → Prop)
    (preserved :
      ∀ state event next,
        system.Reachable state →
        property state →
        guard state event →
        system.step? state event = some next →
        property next)
    {source target : State}
    {events : List Event}
    (reachable : system.Reachable source)
    (run : system.GuardedRun guard source events target)
    (holds : property source) :
    property target := by
  have strengthened :
      system.Reachable target ∧ property target := by
    refine run.invariant
      (fun current =>
        system.Reachable current ∧ property current)
      ?_ ⟨reachable, holds⟩
    rintro current event next ⟨currentReachable, holdsHere⟩ allowed stepped
    exact ⟨currentReachable.step trivial stepped,
      preserved current event next currentReachable holdsHere allowed
        stepped⟩
  exact strengthened.2

end GuardedReachable

/-- The executable run function decides runs. -/
theorem run?_eq_some_iff
    {system : System State Event}
    {source target : State}
    {events : List Event} :
    system.run? source events = some target ↔
      system.Run source events target := by
  constructor
  · intro accepted
    induction events generalizing source with
    | nil =>
        simp only [run?, Option.some.injEq] at accepted
        subst target
        exact .done source
    | cons event rest inductionHypothesis =>
        unfold run? at accepted
        cases stepped : system.step? source event with
        | none =>
            simp [stepped] at accepted
        | some next =>
            simp only [stepped] at accepted
            exact .step event rest trivial stepped
              (inductionHypothesis accepted)
  · intro run
    induction run with
    | done state =>
        rfl
    | step event rest allowed stepped remainder inductionHypothesis =>
        unfold run?
        rw [stepped]
        exact inductionHypothesis

/-- A checked execution is a run under the guard that was checked. -/
theorem guardedRun_of_runWhile?
    {system : System State Event}
    {allowed : State → Event → Bool}
    (guard : State → Event → Prop)
    (sound : ∀ state event, allowed state event = true → guard state event)
    {source target : State}
    {events : List Event}
    (accepted : system.runWhile? allowed source events = some target) :
    system.GuardedRun guard source events target := by
  induction events generalizing source with
  | nil =>
      simp only [runWhile?, Option.some.injEq] at accepted
      subst target
      exact .done source
  | cons event rest inductionHypothesis =>
      simp only [runWhile?, Option.ite_none_right_eq_some] at accepted
      obtain ⟨isAllowed, continued⟩ := accepted
      cases stepped : system.step? source event with
      | none =>
          simp [stepped] at continued
      | some next =>
          simp only [stepped] at continued
          exact .step event rest (sound source event isAllowed) stepped
            (inductionHypothesis continued)

end System

/--
A simulation of `concrete` by `abstract` on the states satisfying `Invariant`.
A concrete event is matched by one abstract event, or by none when the
abstraction does not see it.
-/
structure Simulation
    {State Event AbstractState AbstractEvent : Type}
    (concrete : System State Event)
    (abstract : System AbstractState AbstractEvent) where
  Invariant : State → Prop
  abstraction : State → AbstractState
  label? : State → Event → Option AbstractEvent
  initial :
    ∀ state,
      concrete.Initial state →
      abstract.Initial (abstraction state)
  step :
    ∀ state event next,
      Invariant state →
      concrete.step? state event = some next →
      match label? state event with
      | none => abstraction next = abstraction state
      | some label =>
          abstract.step? (abstraction state) label =
            some (abstraction next)

namespace Simulation

variable {State Event AbstractState AbstractEvent : Type}
variable {concrete : System State Event}
variable {abstract : System AbstractState AbstractEvent}
variable {guard : State → Event → Prop}
variable {abstractGuard : AbstractState → AbstractEvent → Prop}

/--
A guarded concrete run through invariant states is matched by a guarded
abstract run, provided the labels of guarded events satisfy the abstract guard.
-/
theorem run
    (simulation : Simulation concrete abstract)
    (holds :
      ∀ state event next,
        simulation.Invariant state →
        guard state event →
        concrete.step? state event = some next →
        simulation.Invariant next)
    (transfers :
      ∀ state event next label,
        simulation.Invariant state →
        guard state event →
        concrete.step? state event = some next →
        simulation.label? state event = some label →
        abstractGuard (simulation.abstraction state) label)
    {source target : State}
    {events : List Event}
    (concreteRun : concrete.GuardedRun guard source events target)
    (sourceHolds : simulation.Invariant source) :
    ∃ labels,
      abstract.GuardedRun abstractGuard
        (simulation.abstraction source) labels
        (simulation.abstraction target) := by
  induction concreteRun with
  | done state =>
      exact ⟨[], .done _⟩
  | @step source next target event rest allowed stepped remainder
      inductionHypothesis =>
      obtain ⟨labels, abstractRun⟩ :=
        inductionHypothesis
          (holds source event next sourceHolds allowed stepped)
      have matched :=
        simulation.step source event next sourceHolds stepped
      cases labelled : simulation.label? source event with
      | none =>
          simp only [labelled] at matched
          exact ⟨labels, matched ▸ abstractRun⟩
      | some label =>
          simp only [labelled] at matched
          exact ⟨label :: labels,
            .step label labels
              (transfers source event next label
                sourceHolds allowed stepped labelled)
              matched abstractRun⟩

end Simulation

end RecomputerGateway
