import RecomputerGateway.OtaImage
import RecomputerGateway.OtaProcesses

namespace RecomputerGateway.Ota

/-!
# When a cancel is effective

`do_cancel` stops the curl named in the pid file and removes `.part` and the
image.  Nothing makes a download that has not started its curl, or whose curl
has not created `.part`, notice that: it goes on and publishes an image after
the cancel has returned.  What `do_cancel` does achieve depends on what its
`rm -f .part` finds.
-/

/--
The download that holds the write lock has started its curl, and this curl, if
it still runs, has created its output.
-/
def holderStarted (state : State) : Bool :=
  match (abstraction state).stage with
  | .fresh => false
  | .running pid =>
      (state.curls pid).all fun curl =>
        curl.exit.isSome || curl.out.isSome
  | _ => true

/-- No download is about to try for the lock. -/
def NoneWaiting (state : State) : Prop :=
  ∀ process, (state.procs process).triesLock = false

/-- The event is this process's `rm -f .part` of `do_cancel`. -/
def CancelRemovesPart
    (canceller : ProcessId)
    (state : State)
    (event : Event) :
    Prop :=
  event = .command canceller .none ∧
    state.procs canceller = .cancel .removePart

instance
    (canceller : ProcessId)
    (state : State)
    (event : Event) :
    Decidable (CancelRemovesPart canceller state event) :=
  inferInstanceAs (Decidable (_ ∧ _))

/-- The process is a cancel that has executed its `rm -f .part`. -/
def Proc.pastRemovePart : Proc → Bool
  | .cancel .removeImage => true
  | .cancel .removeProgress => true
  | .cancel .finished => true
  | _ => false

/-- What is true once a cancel has come this far. -/
def CancelReached (state : State) : Proc → Prop
  | .cancel (.stop _) => True
  | .cancel .removePart => True
  | .cancel .removeImage => (abstraction state).Sealed
  | .cancel .removeProgress =>
      (abstraction state).Sealed ∧ state.firmware.link imagePath = none
  | .cancel .finished =>
      (abstraction state).Sealed ∧ state.firmware.link imagePath = none
  | _ => False

/-- A download takes the write lock in this step. -/
def TakesLock (state : State) (event : Event) : Prop :=
  ∃ process answer url,
    event = .command process answer ∧
      state.procs process = .download url .flock ∧
      state.wrLock = none

/-- Sealing and the absent image last until a download takes the lock. -/
theorem sealed_step
    {state next : State}
    {event : Event}
    (lockHeld : LockHeld state)
    (isSealed : (abstraction state).Sealed)
    (noWriter : ¬ TakesLock state event)
    (stepped : step? state event = some next) :
    (abstraction next).Sealed ∧
      (state.firmware.link imagePath = none →
        next.firmware.link imagePath = none) := by
  rcases abstraction_step lockHeld stepped with
      hidden | ⟨action, labelled, visible⟩
  · have sameFirmware : next.firmware = state.firmware :=
      congrArg RenamePublish.State.store hidden
    rw [hidden, sameFirmware]
    exact ⟨isSealed, id⟩
  · refine ⟨isSealed.step ?_ visible, isSealed.final_absent_step visible⟩
    rintro writer rfl
    obtain ⟨answer, url, isCommand, current, free⟩ :=
      cause_of_label labelled
    exact noWriter ⟨writer, answer, url, isCommand, current, free⟩

/-- Removing `.part` seals the state when the lock holder has started. -/
theorem sealed_of_removePart
    {state next : State}
    {canceller : ProcessId}
    (lockHeld : LockHeld state)
    (coherent : (abstraction state).Coherent)
    (started : holderStarted state = true)
    (current : state.procs canceller = .cancel .removePart)
    (stepped : step? state (.command canceller .none) = some next) :
    (abstraction next).Sealed := by
  have visible :
      RenamePublish.step? (abstraction state) .removeTemporary =
        some (abstraction next) :=
    abstraction_visible lockHeld
      (by simp [label?, commandLabel?, current]) stepped
  refine .of_removeTemporary visible ?_ ?_
  · intro isFresh
    simp [holderStarted, isFresh] at started
  · intro pid transfer found live
    have isRunning := (coherent.transfers found).live live
    obtain ⟨curl, curlFound, rfl⟩ := Option.map_eq_some_iff.mp found
    intro unopened
    simp [holderStarted, isRunning, curlFound, live, unopened] at started

/-- One step of a run in which no download takes the lock. -/
theorem CancelReached.step
    {state next : State}
    {event : Event}
    {canceller : ProcessId}
    (lockHeld : LockHeld state)
    (coherent : (abstraction state).Coherent)
    (reached : CancelReached state (state.procs canceller))
    (finds :
      CancelRemovesPart canceller state event →
      holderStarted state = true)
    (noWriter :
      (state.procs canceller).pastRemovePart = true →
      ¬ TakesLock state event)
    (stepped : step? state event = some next) :
    CancelReached next (next.procs canceller) := by
  -- A step that leaves the cancel where it is keeps what it has reached.
  have stays :
      next.procs canceller = state.procs canceller →
        CancelReached next (next.procs canceller) := by
    intro same
    rw [same]
    cases current : state.procs canceller with
    | cancel pc =>
        rw [current] at reached noWriter
        cases pc with
        | stop pc =>
            trivial
        | removePart =>
            trivial
        | removeImage =>
            exact (sealed_step lockHeld reached (noWriter rfl) stepped).1
        | removeProgress =>
            obtain ⟨sealedNext, absentNext⟩ :=
              sealed_step lockHeld reached.1 (noWriter rfl) stepped
            exact ⟨sealedNext, absentNext reached.2⟩
        | finished =>
            obtain ⟨sealedNext, absentNext⟩ :=
              sealed_step lockHeld reached.1 (noWriter rfl) stepped
            exact ⟨sealedNext, absentNext reached.2⟩
    | _ =>
        simp [current, CancelReached] at reached
  rcases proc_step stepped canceller with
      same | ⟨operation, _, isAbsent, _⟩ | ⟨answer, rfl, command⟩
  · exact stays same
  · simp [isAbsent, CancelReached] at reached
  · cases current : state.procs canceller with
    | cancel pc =>
        simp only [commandStep?, current] at command
        rw [current] at reached noWriter
        cases pc <;> cases answer <;>
          simp only [cancelStep?, reduceCtorEq,
            Option.some.injEq] at command
        case stop.none pc =>
          subst next
          rw [procs_setProc_self]
          split <;> trivial
        case removePart.none =>
          have isSealed :=
            sealed_of_removePart lockHeld coherent
              (finds ⟨rfl, current⟩) current stepped
          subst next
          simpa [CancelReached] using isSealed
        case removeImage.none =>
          have isSealed :=
            (sealed_step lockHeld reached (noWriter rfl) stepped).1
          subst next
          rw [procs_setProc_self]
          refine ⟨isSealed, ?_⟩
          simp [State.setProc]
        case removeProgress.none =>
          have isSealed :=
            sealed_step lockHeld reached.1 (noWriter rfl) stepped
          subst next
          rw [procs_setProc_self]
          exact ⟨isSealed.1, isSealed.2 reached.2⟩
    | _ =>
        simp [current, CancelReached] at reached

/-- Some process of the script is asked to download. -/
def Event.requestsDownload : Event → Bool
  | .request _ (.download _) => true
  | _ => false

/-- A cancel past its `rm -f .part` was so before, or has just executed it. -/
theorem pastRemovePart_before
    {state next : State}
    {event : Event}
    {canceller : ProcessId}
    (stepped : step? state event = some next)
    (past : (next.procs canceller).pastRemovePart = true) :
    (state.procs canceller).pastRemovePart = true ∨
      CancelRemovesPart canceller state event := by
  rcases proc_step stepped canceller with
      same | ⟨operation, _, _, entered⟩ | ⟨answer, rfl, command⟩
  · exact .inl (same ▸ past)
  · rw [entered] at past
    cases operation <;> simp [Operation.enter, Proc.pastRemovePart] at past
  · have operation := (commandStep_frame command).operation
    cases current : state.procs canceller with
    | cancel pc =>
        simp only [commandStep?, current] at command
        cases pc <;> cases answer <;>
          simp only [cancelStep?, reduceCtorEq,
            Option.some.injEq] at command
        case stop.none pc =>
          subst next
          rw [procs_setProc_self] at past
          split at past <;> simp [Proc.pastRemovePart] at past
        case removePart.none =>
          exact .inr ⟨rfl, current⟩
        all_goals
          exact .inl rfl
    | _ =>
        rw [current] at operation
        cases after : next.procs canceller <;>
          simp_all [Proc.operation?, Proc.pastRemovePart]

/-- Without a request no process comes to wait for the lock. -/
theorem NoneWaiting.step
    {state next : State}
    {event : Event}
    (none : NoneWaiting state)
    (notRequested : event.requestsDownload = false)
    (stepped : step? state event = some next) :
    NoneWaiting next := by
  intro process
  rcases proc_step stepped process with
      same | ⟨operation, isRequest, _, entered⟩ | ⟨answer, _, command⟩
  · rw [same]
    exact none process
  · rw [entered]
    cases operation with
    | download url =>
        simp [isRequest, Event.requestsDownload] at notRequested
    | _ =>
        rfl
  · have operation := (commandStep_frame command).operation
    cases before : state.procs process with
    | download url pc =>
        simp only [commandStep?, before] at command
        exact downloadStep_not_flock command
    | _ =>
        rw [before] at operation
        cases after : next.procs process <;>
          simp_all [Proc.operation?, Proc.triesLock]

/--
The `rm -f .part` of this cancel finds the lock holder started and none that is
still to try for the lock.
-/
def CancelFindsStarted
    (canceller : ProcessId)
    (state : State)
    (event : Event) :
    Prop :=
  CancelRemovesPart canceller state event →
    holderStarted state = true ∧ NoneWaiting state

/--
A cancel whose `rm -f .part` finds the lock holder started and nobody waiting
for the lock is effective: when no further download is requested, there is no
image at its return nor at any later time.
-/
theorem cancel_effective
    {canceller : ProcessId}
    {start state : State}
    {events : List Event}
    (reachable : system.Reachable start)
    (begun : start.procs canceller = .cancel (.stop .testPid))
    (run :
      system.GuardedRun (CancelFindsStarted canceller)
        start events state)
    (noRequest : ∀ event ∈ events, event.requestsDownload = false)
    (returned : state.procs canceller = .cancel .finished) :
    state.firmware.link imagePath = none := by
  have invariant :
      CancelReached state (state.procs canceller) ∧
        ((state.procs canceller).pastRemovePart = true →
          NoneWaiting state) := by
    refine System.GuardedReachable.run_invariant
      (fun current =>
        CancelReached current (current.procs canceller) ∧
          ((current.procs canceller).pastRemovePart = true →
            NoneWaiting current))
      ?_ reachable (run.restrict noRequest) ?_
    · rintro current event next currentReachable ⟨reached, quiet⟩
        ⟨finds, notRequested⟩ stepped
      constructor
      · refine reached.step (lockHeld_of_reachable currentReachable)
          (coherent_of_reachable currentReachable)
          (fun removes => (finds removes).1) ?_ stepped
        rintro past ⟨process, _, url, _, waiting, _⟩
        simpa [waiting, Proc.triesLock] using quiet past process
      · intro past
        refine NoneWaiting.step ?_ notRequested stepped
        rcases pastRemovePart_before stepped past with
            before | removes
        · exact quiet before
        · exact (finds removes).2
    · rw [begun]
      exact ⟨trivial, by simp [Proc.pastRemovePart]⟩
  have reached := invariant.1
  rw [returned] at reached
  exact reached.2

/-- The cancel of process 1 kills the curl; the download then ends. -/
def cancelledRun : List Event :=
  runCommands 1 10 ++ runCommands 0 10

/-- `CancelFindsStarted` for the processes 0 to 2, as a computation. -/
def cancelCheck (state : State) (event : Event) : Bool :=
  event.requestsBelow 3 &&
    (!decide (CancelRemovesPart 1 state event) ||
      holderStarted state &&
        (List.range 3).all fun process =>
          !(state.procs process).triesLock)

theorem cancelFindsStarted_of_check
    {state : State}
    {event : Event}
    (checked : cancelCheck state event = true)
    (absent : ∀ process ≥ 3, state.procs process = .absent) :
    CancelFindsStarted 1 state event := by
  intro removes
  simp only [cancelCheck, removes, decide_true, Bool.not_true,
    Bool.false_or, Bool.and_eq_true, List.all_eq_true,
    List.mem_range] at checked
  refine ⟨checked.2.1, ?_⟩
  intro process
  by_cases listed : process < 3
  · simpa using checked.2.2 process listed
  · rw [absent process (Nat.not_lt.mp listed)]
    rfl

theorem cancel_effective_of_run :
    ∃ start state,
      system.Run booted (transferringRun ++ [.request 1 .cancel]) start ∧
        system.Run start cancelledRun state ∧
        state.procs 1 = .cancel .finished ∧
        state.firmware.link imagePath = none := by
  have executed :
      ((system.runWhile? (fun _ event => event.requestsBelow 3)
          booted (transferringRun ++ [.request 1 .cancel])).bind
        fun start =>
          (system.runWhile? cancelCheck start cancelledRun).map
            fun state => (start.procs 1, state.procs 1)) =
        some (.cancel (.stop .testPid), .cancel .finished) := by
    decide
  obtain ⟨start, startReached, rest⟩ := Option.bind_eq_some_iff.mp executed
  obtain ⟨state, stateReached, ends⟩ := Option.map_eq_some_iff.mp rest
  simp only [Prod.mk.injEq] at ends
  have startRun :=
    System.guardedRun_of_runWhile?
      (fun _ (event : Event) => event.requestsBelow 3 = true)
      (fun _ _ => id) startReached
  have startAbsent :=
    startRun.invariant
      (fun current =>
        ∀ process ≥ 3, current.procs process = .absent)
      (fun _ _ _ absent below stepped => absent_step absent below stepped)
      (fun _ _ => rfl)
  have run :=
    System.guardedRun_of_runWhile?
      (fun current event => cancelCheck current event = true)
      (fun _ _ => id) stateReached
  have checkedRun :=
    (run.carry
      (fun current =>
        ∀ process ≥ 3, current.procs process = .absent)
      (fun _ _ _ absent checked stepped =>
        absent_step absent (Bool.and_eq_true_iff.mp checked).1 stepped)
      startAbsent).1
  have guardedRun :=
    checkedRun.mono fun _ _ holds =>
      cancelFindsStarted_of_check holds.1 holds.2
  refine ⟨start, state, startRun.forget, run.forget, ends.2, ?_⟩
  exact cancel_effective ⟨booted, _, rfl, startRun.forget⟩ ends.1
    guardedRun (by decide) ends.2

/-- The curl of process 0 is running, but its pid is not published yet. -/
def unpublishedRun : List Event :=
  checkRun 2 ++ [.request 0 (.download [])] ++ runCommands 0 8 ++
    [.command 0 (.launch 100 [1, 2])]

/-- A cancel runs from its first to its last command in that window. -/
def missedRun : List Event :=
  runCommands 1 4 ++ runCommands 0 2 ++ fetchAll 100 2 ++ runCommands 0 8

/--
The cancel returns, nothing more is requested, and the image appears.
-/
theorem cancel_misses_unpublished_curl :
    ∃ start state,
      system.Reachable start ∧
        start.procs 1 = .cancel (.stop .testPid) ∧
        system.Run start missedRun state ∧
        (∀ event ∈ missedRun, event.requestsDownload = false) ∧
        state.procs 1 = .cancel .finished ∧
        state.firmware.link imagePath ≠ none := by
  have executed :
      ((system.run? booted (unpublishedRun ++ [.request 1 .cancel])).bind
        fun start =>
          (system.run? start missedRun).map
            fun state =>
              (start.procs 1, state.procs 1,
                state.firmware.link imagePath)) =
        some (.cancel (.stop .testPid), .cancel .finished, some 1) := by
    decide
  obtain ⟨start, startReached, rest⟩ := Option.bind_eq_some_iff.mp executed
  obtain ⟨state, stateReached, ends⟩ := Option.map_eq_some_iff.mp rest
  simp only [Prod.mk.injEq] at ends
  exact ⟨start, state,
    ⟨booted, _, rfl, System.run?_eq_some_iff.mp startReached⟩, ends.1,
    System.run?_eq_some_iff.mp stateReached, by decide, ends.2.1,
    by simp [ends.2.2]⟩

end RecomputerGateway.Ota
