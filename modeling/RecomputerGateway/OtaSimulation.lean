import RecomputerGateway.OtaScript

namespace RecomputerGateway.Ota

/-!
# The script refines the rename pattern

A download is a writer of the pattern, its curl the transfer, and the removals
of `do_check`, `do_cancel` and `do_upgrade` are the removers.  Commands that
only touch the progress file, the pid file or the status lock are invisible to
the pattern.
-/

/-- The stage of a download in the rename pattern. -/
def DownloadPc.stage : DownloadPc → RenamePublish.Stage
  | .flock => .closed
  | .lockStatus => .fresh
  | .touchPart => .fresh
  | .clearProgress => .fresh
  | .unlockStatus => .fresh
  | .announce => .fresh
  | .relockStatus => .fresh
  | .markStart => .fresh
  | .startCurl => .fresh
  | .publishPid pid => .running pid
  | .unlockStarted pid => .running pid
  | .waitCurl pid => .running pid
  | .dropPid pid => .succeeded pid
  | .announceDone pid => .succeeded pid
  | .lockMove pid => .succeeded pid
  | .movePart pid => .succeeded pid
  | .dropProgress pid => .moved pid
  | .unlockMove pid => .moved pid
  | .leaveDone pid => .moved pid
  | .endLine _ _ => .failed
  | .reportEnd _ _ => .failed
  | .lockSed _ => .failed
  | .sedRead _ => .failed
  | .sedRename _ _ => .failed
  | .unlockSed _ => .failed
  | .dropFailedPid _ => .failed
  | .dropPart _ => .failed
  | .leaveFailed _ => .closed
  | .finished _ _ => .closed

/-- The stage of a process that holds the write lock. -/
def Proc.stage : Proc → RenamePublish.Stage
  | .download _ pc => pc.stage
  | _ => .closed

/-- The commands between taking and releasing the write lock. -/
def Proc.holdsLock : Proc → Bool
  | .download _ .flock => false
  | .download _ (.finished _ _) => false
  | .download _ _ => true
  | .check .makeRunDir => true
  | .check .compareVersion => true
  | .check (.unlock _) => true
  | _ => false

/-- The state of the rename pattern behind a state of the script. -/
def abstraction (state : State) :
    RenamePublish.State ProcessId Byte where
  store := state.firmware
  holder := state.wrLock
  stage :=
    match state.wrLock with
    | none => .closed
    | some process => (state.procs process).stage
  transfers := fun pid => (state.curls pid).map Curl.toTransfer
  latest := state.latest

/-- The action of the rename pattern that a signal amounts to. -/
def signalLabel?
    (state : State)
    (pid : Pid)
    (code : Nat) :
    Option (RenamePublish.Action ProcessId Byte) :=
  if state.running pid then some (.exit pid code) else none

/-- Only the signals of the stop sequence are visible. -/
def stopLabel? (state : State) :
    StopPc → Option (RenamePublish.Action ProcessId Byte)
  | .terminate pid => signalLabel? state pid terminatedCode
  | .kill pid => signalLabel? state pid killedCode
  | _ => none

/-- The visible action of a command. -/
def commandLabel?
    (state : State)
    (process : ProcessId)
    (answer : Answer) :
    Option (RenamePublish.Action ProcessId Byte) :=
  match state.procs process with
  | .download _ .flock =>
      if state.wrLock = none then some (.acquire process true) else none
  | .download _ .touchPart => some .touch
  | .download _ .startCurl =>
      match answer with
      | .launch pid body => some (.launch pid body)
      | _ => none
  | .download _ (.waitCurl _) => some .reap
  | .download _ (.movePart _) => some .rename
  | .download _ (.dropPart _) => some .discard
  | .download _ (.leaveDone _) => some .release
  | .download _ (.leaveFailed _) => some .release
  | .check .flock =>
      if state.wrLock = none then some (.acquire process false) else none
  | .check (.unlock _) => some .release
  | .check (.stop pc) => stopLabel? state pc
  | .check .removePart => some .removeTemporary
  | .cancel (.stop pc) => stopLabel? state pc
  | .cancel .removePart => some .removeTemporary
  | .cancel .removeImage => some .removeFinal
  | .upgrade .removeImage => some .removeFinal
  | _ => none

/-- The visible action of an event. -/
def label? (state : State) :
    Event → Option (RenamePublish.Action ProcessId Byte)
  | .request _ _ => none
  | .command process answer => commandLabel? state process answer
  | .curl pid .openOutput => some (.openOutput pid)
  | .curl pid (.write count) => some (.write pid count)
  | .curl pid (.exit code) => some (.exit pid code)
  | .curl _ _ => none

/-- The write lock is held by the process inside its critical section. -/
structure LockHeld (state : State) : Prop where
  holder :
    ∀ {process},
      (state.procs process).holdsLock = true →
      state.wrLock = some process
  active :
    ∀ {process},
      state.wrLock = some process →
      (state.procs process).holdsLock = true

/-! ## Changing one process -/

@[simp] theorem procs_setProc_self
    (state : State)
    (process : ProcessId)
    (proc : Proc) :
    (state.setProc process proc).procs process = proc := by
  simp [State.setProc]

theorem procs_setProc_other
    (state : State)
    {process other : ProcessId}
    (different : other ≠ process)
    (proc : Proc) :
    (state.setProc process proc).procs other = state.procs other := by
  simp [State.setProc, different]

/-- The abstraction sees a process only while it holds the lock. -/
theorem abstraction_setProc_holder
    {state : State}
    {process : ProcessId}
    (held : state.wrLock = some process)
    (proc : Proc) :
    abstraction (state.setProc process proc) =
      { abstraction state with stage := proc.stage } := by
  simp [abstraction, State.setProc, held]

theorem abstraction_setProc_same
    {state : State}
    {process : ProcessId}
    {proc : Proc}
    (same :
      state.wrLock = some process →
      proc.stage = (state.procs process).stage) :
    abstraction (state.setProc process proc) = abstraction state := by
  unfold abstraction State.setProc
  cases held : state.wrLock with
  | none =>
      rfl
  | some holder =>
      by_cases isProcess : holder = process
      · subst holder
        simp [same held]
      · simp [isProcess]

theorem stage_of_holder
    {state : State}
    {process : ProcessId}
    (held : state.wrLock = some process) :
    (abstraction state).stage = (state.procs process).stage := by
  simp [abstraction, held]

/-- What the pattern sees of a command that keeps the stage of its process. -/
theorem abstraction_hidden
    {middle : State}
    {seen : RenamePublish.State ProcessId Byte}
    {process : ProcessId}
    {proc old : Proc}
    (current : middle.procs process = old)
    (sees : abstraction middle = seen)
    (same : proc.stage = old.stage) :
    abstraction (middle.setProc process proc) = seen := by
  subst current
  rw [abstraction_setProc_same (fun _ => same), sees]

/-! ## Changing one curl -/

theorem abstraction_transfers
    {state : State}
    {pid : Pid}
    {curl : Curl}
    (found : state.curls pid = some curl) :
    (abstraction state).transfers pid = some curl.toTransfer := by
  simp [abstraction, found]

/-- Replacing a curl replaces its transfer. -/
theorem abstraction_setCurl
    (state : State)
    (pid : Pid)
    (curl : Curl) :
    abstraction (state.setCurl pid curl) =
      (abstraction state).setTransfer pid curl.toTransfer := by
  have transfers :
      (fun other =>
          ((state.setCurl pid curl).curls other).map Curl.toTransfer) =
        Function.update
          (fun other => (state.curls other).map Curl.toTransfer)
          pid (some curl.toTransfer) := by
    funext other
    by_cases same : other = pid <;> simp [State.setCurl, same]
  unfold abstraction
  rw [transfers]
  rfl

/-- The pattern does not see the fields a curl adds to its transfer. -/
theorem abstraction_setCurl_hidden
    {state : State}
    {pid : Pid}
    {curl : Curl}
    (found : state.curls pid = some curl)
    (replacement : Curl)
    (same : replacement.toTransfer = curl.toTransfer) :
    abstraction (state.setCurl pid replacement) = abstraction state := by
  rw [abstraction_setCurl, same]
  have unchanged :
      Function.update (abstraction state).transfers pid
          (some curl.toTransfer) =
        (abstraction state).transfers := by
    rw [Function.update_eq_self_iff]
    simp [abstraction, found]
  unfold RenamePublish.State.setTransfer
  rw [unchanged]

/-! ## Commands -/

/-- A concrete step is matched by an abstract action, or is invisible. -/
def Matched
    (state next : State)
    (label : Option (RenamePublish.Action ProcessId Byte)) : Prop :=
  match label with
  | none => abstraction next = abstraction state
  | some action =>
      RenamePublish.step? (abstraction state) action =
        some (abstraction next)

theorem Matched.hidden
    {state middle next : State}
    {label : Option (RenamePublish.Action ProcessId Byte)}
    (isMatched : Matched state middle label)
    (same : abstraction next = abstraction middle) :
    Matched state next label := by
  unfold Matched at isMatched ⊢
  rwa [same]

theorem downloadStep_matched
    {state next : State}
    {process : ProcessId}
    {url : Text}
    {pc : DownloadPc}
    {answer : Answer}
    (lockHeld : LockHeld state)
    (current : state.procs process = .download url pc)
    (stepped : downloadStep? state process url pc answer = some next) :
    Matched state next (commandLabel? state process answer) := by
  have held :
      (Proc.download url pc).holdsLock = true →
        state.wrLock = some process := by
    rw [← current]
    exact lockHeld.holder
  cases pc <;> cases answer <;>
    simp only [downloadStep?, lockStatus?, Option.map_eq_some_iff,
      reduceCtorEq, Option.some.injEq] at stepped <;>
    simp only [commandLabel?, current]
  case flock.none =>
    split at stepped
    next busy =>
      cases stepped
      simp only [Matched, busy, reduceCtorEq, ↓reduceIte]
      exact abstraction_hidden current rfl rfl
    next free =>
      cases stepped
      simp [Matched, free, RenamePublish.step?, abstraction,
        State.setProc, Proc.stage, DownloadPc.stage]
  case startCurl.launch pid body =>
    split at stepped
    · cases stepped
    next unused =>
      cases stepped
      have holder := held rfl
      simp only [Matched, RenamePublish.step?,
        stage_of_holder holder, current]
      rw [abstraction_setProc_holder (by exact holder),
        abstraction_setCurl]
      simp [abstraction, holder, unused, Proc.stage, DownloadPc.stage]
  case waitCurl.none pid =>
    obtain ⟨curl, code, found, exited, rfl⟩ := downloadStep?_waitCurl stepped
    have holder := held rfl
    have reaped :=
      abstraction_setCurl_hidden found { curl with reaped := true } rfl
    rw [Matched, abstraction_setProc_holder (by exact holder), reaped]
    simp only [RenamePublish.step?, stage_of_holder holder, current,
      Proc.stage, DownloadPc.stage]
    simp only [abstraction, found, Option.map_some, Option.bind_some, exited]
    split <;> rfl
  case sedRead.none =>
    split at stepped <;> cases stepped <;>
      exact abstraction_hidden current rfl rfl
  case lockStatus.none | relockStatus.none | lockMove.none |
      lockSed.none =>
    obtain ⟨locked, taken, rfl⟩ := stepped
    split at taken <;> cases taken
    exact abstraction_hidden current rfl rfl
  case touchPart.none | movePart.none | dropPart.none =>
    cases stepped
    have holder := held rfl
    simp only [Matched, RenamePublish.step?,
      stage_of_holder holder, current]
    rw [abstraction_setProc_holder (by exact holder)]
    simp [abstraction, Proc.stage, DownloadPc.stage]
  case leaveDone.none | leaveFailed.none =>
    cases stepped
    have holder := held rfl
    simp only [Matched, RenamePublish.step?,
      stage_of_holder holder, current]
    simp [abstraction, holder, Proc.stage, DownloadPc.stage,
      State.setProc]
  all_goals
    cases stepped
    exact abstraction_hidden current rfl rfl

theorem signal_matched
    (state : State)
    (pid : Pid)
    {code : Nat}
    (failing : code ≠ 0) :
    Matched state (state.signal pid code)
      (signalLabel? state pid code) := by
  unfold signalLabel? State.running State.signal
  cases found : state.curls pid with
  | none =>
      simp [Matched]
  | some curl =>
      by_cases live : curl.exit = none
      · simp only [live, Option.isNone_none, ↓reduceIte, Matched]
        rw [abstraction_setCurl]
        simp [RenamePublish.step?, abstraction, found, live, failing]
      · simp [Matched, live]

theorem stopStep_matched
    (state : State)
    (pc : StopPc) :
    Matched state (stopStep state pc).1 (stopLabel? state pc) := by
  cases pc with
  | testPid =>
      simp only [stopStep, stopLabel?]
      split <;> rfl
  | probe pid =>
      cases pid with
      | none =>
          rfl
      | some pid =>
          simp only [stopStep, stopLabel?]
          split <;> rfl
  | terminate pid =>
      exact signal_matched state pid (by decide)
  | kill pid =>
      exact signal_matched state pid (by decide)
  | _ =>
      rfl

/-- Signalling changes neither the lock nor the processes. -/
theorem stopStep_frame
    (state : State)
    (pc : StopPc) :
    (stopStep state pc).1.wrLock = state.wrLock ∧
      (stopStep state pc).1.procs = state.procs := by
  have signalFrame :
      ∀ pid code,
        (state.signal pid code).wrLock = state.wrLock ∧
          (state.signal pid code).procs = state.procs := by
    intro pid code
    unfold State.signal State.setCurl
    split
    · simp
    · split <;> simp
  cases pc with
  | testPid =>
      simp only [stopStep]
      split <;> simp
  | probe pid =>
      cases pid with
      | none =>
          simp [stopStep]
      | some pid =>
          simp only [stopStep]
          split <;> simp
  | terminate pid =>
      exact signalFrame pid terminatedCode
  | kill pid =>
      exact signalFrame pid killedCode
  | _ =>
      simp [stopStep]

theorem checkStep_matched
    {state next : State}
    {process : ProcessId}
    {pc : CheckPc}
    {answer : Answer}
    (lockHeld : LockHeld state)
    (current : state.procs process = .check pc)
    (stepped : checkStep? state process pc answer = some next) :
    Matched state next (commandLabel? state process answer) := by
  have held :
      (Proc.check pc).holdsLock = true →
        state.wrLock = some process := by
    rw [← current]
    exact lockHeld.holder
  cases pc <;> cases answer <;>
    simp only [checkStep?, reduceCtorEq, Option.some.injEq] at stepped <;>
    simp only [commandLabel?, current]
  case stop.none pc =>
    cases stepped
    refine (stopStep_matched state pc).hidden ?_
    rw [← (stopStep_frame state pc).2] at current
    exact abstraction_hidden current rfl rfl
  case flock.none =>
    split at stepped
    next busy =>
      cases stepped
      simp only [Matched, busy, reduceCtorEq, ↓reduceIte]
      exact abstraction_hidden current rfl rfl
    next free =>
      cases stepped
      simp [Matched, free, RenamePublish.step?, abstraction,
        State.setProc, Proc.stage]
  case unlock.none =>
    cases stepped
    have holder := held rfl
    simp only [Matched, RenamePublish.step?,
      stage_of_holder holder, current]
    simp [abstraction, holder, Proc.stage, State.setProc]
  case removePart.none =>
    cases stepped
    simp only [Matched, RenamePublish.step?, Option.some.injEq]
    symm
    exact abstraction_hidden current rfl rfl
  all_goals
    cases stepped
    exact abstraction_hidden current rfl rfl

theorem cancelStep_matched
    {state next : State}
    {process : ProcessId}
    {pc : CancelPc}
    {answer : Answer}
    (current : state.procs process = .cancel pc)
    (stepped : cancelStep? state process pc answer = some next) :
    Matched state next (commandLabel? state process answer) := by
  cases pc <;> cases answer <;>
    simp only [cancelStep?, reduceCtorEq, Option.some.injEq] at stepped <;>
    simp only [commandLabel?, current]
  case stop.none pc =>
    cases stepped
    refine (stopStep_matched state pc).hidden ?_
    rw [← (stopStep_frame state pc).2] at current
    exact abstraction_hidden current rfl rfl
  case removePart.none | removeImage.none =>
    cases stepped
    simp only [Matched, RenamePublish.step?, Option.some.injEq]
    symm
    exact abstraction_hidden current rfl rfl
  all_goals
    cases stepped
    exact abstraction_hidden current rfl rfl

theorem upgradeStep_matched
    {state next : State}
    {process : ProcessId}
    {pc : UpgradePc}
    {answer : Answer}
    (current : state.procs process = .upgrade pc)
    (stepped : upgradeStep? state process pc answer = some next) :
    Matched state next (commandLabel? state process answer) := by
  cases pc <;> cases answer <;>
    simp only [upgradeStep?, reduceCtorEq, Option.some.injEq] at stepped <;>
    simp only [commandLabel?, current]
  case openImage.none =>
    split at stepped <;> cases stepped <;>
      exact abstraction_hidden current rfl rfl
  case removeImage.none =>
    cases stepped
    simp only [Matched, RenamePublish.step?, Option.some.injEq]
    symm
    exact abstraction_hidden current rfl rfl
  all_goals
    cases stepped
    exact abstraction_hidden current rfl rfl

theorem curlStep_matched
    {state next : State}
    {pid : Pid}
    {act : CurlAct}
    (stepped : curlStep? state pid act = some next) :
    Matched state next (label? state (.curl pid act)) := by
  obtain ⟨curl, found, live, step⟩ := curlStep_of_curlStep? stepped
  have foundTransfer := abstraction_transfers found
  cases step with
  | openErr unopened =>
      exact abstraction_setCurl_hidden found
        { curl with err := some (state.status.openAppend .progress).2 } rfl
  | message text opened =>
      rfl
  | openOutput errOpened unopened =>
      refine (RenamePublish.step?_openOutput
        foundTransfer live unopened).trans (congrArg some ?_)
      exact (congrArg
        (fun abstracted =>
          { abstracted with
            store := (state.firmware.openTruncate partPath).1 })
        (abstraction_setCurl state pid
          { curl with
            out := some (state.firmware.openTruncate partPath).2 })).symm
  | @write count inode output within =>
      refine (RenamePublish.step?_write
        foundTransfer live output within).trans (congrArg some ?_)
      exact (congrArg
        (fun abstracted =>
          { abstracted with
            store :=
              state.firmware.writeAt inode curl.sent
                ((curl.body.drop curl.sent).take count) })
        (abstraction_setCurl state pid
          { curl with sent := curl.sent + count })).symm
  | @exit code complete =>
      refine (RenamePublish.step?_exit
        foundTransfer live complete).trans (congrArg some ?_)
      exact (abstraction_setCurl state pid
        { curl with exit := some code }).symm

/-! ## The simulation -/

/-- What a command does to the write lock and to the processes. -/
structure CommandFrame
    (state next : State)
    (process : ProcessId) : Prop where
  others :
    ∀ {other},
      other ≠ process →
      next.procs other = state.procs other
  operation :
    (next.procs process).operation? = (state.procs process).operation?
  lock :
    next.wrLock = state.wrLock ∧
        (next.procs process).holdsLock =
          (state.procs process).holdsLock ∨
      state.wrLock = none ∧
        (next.procs process).holdsLock = true ∧
        next.wrLock = some process ∨
      (state.procs process).holdsLock = true ∧
        (next.procs process).holdsLock = false ∧
        next.wrLock = none

theorem CommandFrame.setProc
    {state middle : State}
    {process : ProcessId}
    {proc : Proc}
    (sameProcs : middle.procs = state.procs)
    (operation : proc.operation? = (state.procs process).operation?)
    (lock :
      middle.wrLock = state.wrLock ∧
          proc.holdsLock = (state.procs process).holdsLock ∨
        state.wrLock = none ∧
          proc.holdsLock = true ∧
          middle.wrLock = some process ∨
        (state.procs process).holdsLock = true ∧
          proc.holdsLock = false ∧
          middle.wrLock = none) :
    CommandFrame state (middle.setProc process proc) process where
  others different := by
    rw [procs_setProc_other _ different, sameProcs]
  operation := by
    rw [procs_setProc_self, operation]
  lock := by
    simpa [State.setProc] using lock

/-- The frame of a command that does not touch the write lock. -/
theorem CommandFrame.unlocked
    {state middle : State}
    {process : ProcessId}
    {proc old : Proc}
    (current : state.procs process = old)
    (sameProcs : middle.procs = state.procs)
    (sameLock : middle.wrLock = state.wrLock)
    (operation : proc.operation? = old.operation?)
    (kept : proc.holdsLock = old.holdsLock) :
    CommandFrame state (middle.setProc process proc) process := by
  subst current
  exact .setProc sameProcs operation (.inl ⟨sameLock, kept⟩)

/-- The frame of a command that takes the write lock. -/
theorem CommandFrame.locks
    {state middle : State}
    {process : ProcessId}
    {proc old : Proc}
    (current : state.procs process = old)
    (free : state.wrLock = none)
    (sameProcs : middle.procs = state.procs)
    (locked : middle.wrLock = some process)
    (operation : proc.operation? = old.operation?)
    (holds : proc.holdsLock = true) :
    CommandFrame state (middle.setProc process proc) process := by
  subst current
  exact .setProc sameProcs operation (.inr (.inl ⟨free, holds, locked⟩))

/-- The frame of a command that frees the write lock. -/
theorem CommandFrame.frees
    {state middle : State}
    {process : ProcessId}
    {proc old : Proc}
    (current : state.procs process = old)
    (sameProcs : middle.procs = state.procs)
    (freed : middle.wrLock = none)
    (operation : proc.operation? = old.operation?)
    (held : old.holdsLock = true)
    (released : proc.holdsLock = false) :
    CommandFrame state (middle.setProc process proc) process := by
  subst current
  exact .setProc sameProcs operation (.inr (.inr ⟨held, released, freed⟩))

theorem downloadStep_frame
    {state next : State}
    {process : ProcessId}
    {url : Text}
    {pc : DownloadPc}
    {answer : Answer}
    (current : state.procs process = .download url pc)
    (stepped : downloadStep? state process url pc answer = some next) :
    CommandFrame state next process := by
  cases pc <;> cases answer <;>
    simp only [downloadStep?, lockStatus?, Option.map_eq_some_iff,
      reduceCtorEq, Option.some.injEq] at stepped
  case flock.none =>
    split at stepped <;> cases stepped
    next =>
      exact .unlocked current rfl rfl rfl rfl
    next free =>
      exact .locks current free rfl rfl rfl rfl
  case sedRead.none =>
    split at stepped <;> cases stepped <;>
      exact .unlocked current rfl rfl rfl rfl
  case startCurl.launch pid body =>
    split at stepped <;> cases stepped
    exact .unlocked current rfl rfl rfl rfl
  case waitCurl.none pid =>
    obtain ⟨curl, code, -, -, rfl⟩ := downloadStep?_waitCurl stepped
    refine .unlocked current rfl rfl rfl ?_
    split <;> rfl
  case lockStatus.none | relockStatus.none | lockMove.none |
      lockSed.none =>
    obtain ⟨locked, taken, rfl⟩ := stepped
    split at taken <;> cases taken
    exact .unlocked current rfl rfl rfl rfl
  all_goals
    cases stepped
    first
      | exact .unlocked current rfl rfl rfl rfl
      | exact .frees current rfl rfl rfl rfl rfl

theorem checkStep_frame
    {state next : State}
    {process : ProcessId}
    {pc : CheckPc}
    {answer : Answer}
    (current : state.procs process = .check pc)
    (stepped : checkStep? state process pc answer = some next) :
    CommandFrame state next process := by
  cases pc <;> cases answer <;>
    simp only [checkStep?, reduceCtorEq, Option.some.injEq] at stepped
  case stop.none pc =>
    cases stepped
    obtain ⟨sameLock, sameProcs⟩ := stopStep_frame state pc
    refine .unlocked current sameProcs sameLock rfl ?_
    split <;> rfl
  case flock.none =>
    split at stepped <;> cases stepped
    next =>
      exact .unlocked current rfl rfl rfl rfl
    next free =>
      exact .locks current free rfl rfl rfl rfl
  all_goals
    cases stepped
    first
      | exact .unlocked current rfl rfl rfl rfl
      | exact .frees current rfl rfl rfl rfl rfl

theorem cancelStep_frame
    {state next : State}
    {process : ProcessId}
    {pc : CancelPc}
    {answer : Answer}
    (current : state.procs process = .cancel pc)
    (stepped : cancelStep? state process pc answer = some next) :
    CommandFrame state next process := by
  cases pc <;> cases answer <;>
    simp only [cancelStep?, reduceCtorEq, Option.some.injEq] at stepped
  case stop.none pc =>
    cases stepped
    obtain ⟨sameLock, sameProcs⟩ := stopStep_frame state pc
    exact .unlocked current sameProcs sameLock rfl rfl
  all_goals
    cases stepped
    exact .unlocked current rfl rfl rfl rfl

theorem upgradeStep_frame
    {state next : State}
    {process : ProcessId}
    {pc : UpgradePc}
    {answer : Answer}
    (current : state.procs process = .upgrade pc)
    (stepped : upgradeStep? state process pc answer = some next) :
    CommandFrame state next process := by
  cases pc <;> cases answer <;>
    simp only [upgradeStep?, reduceCtorEq, Option.some.injEq] at stepped
  case openImage.none =>
    split at stepped <;> cases stepped <;>
      exact .unlocked current rfl rfl rfl rfl
  all_goals
    cases stepped
    exact .unlocked current rfl rfl rfl rfl

/-- A command changes no other process, and follows the lock discipline. -/
theorem commandStep_frame
    {state next : State}
    {process : ProcessId}
    {answer : Answer}
    (stepped : commandStep? state process answer = some next) :
    CommandFrame state next process := by
  unfold commandStep? at stepped
  split at stepped
  · cases stepped
  next pc current =>
    exact checkStep_frame current stepped
  next url pc current =>
    exact downloadStep_frame current stepped
  next pc current =>
    exact cancelStep_frame current stepped
  next current =>
    cases stepped
    exact .unlocked current rfl rfl rfl rfl
  · cases stepped
  next pc current =>
    exact upgradeStep_frame current stepped

theorem commandStep_matched
    {state next : State}
    {process : ProcessId}
    {answer : Answer}
    (lockHeld : LockHeld state)
    (stepped : commandStep? state process answer = some next) :
    Matched state next (commandLabel? state process answer) := by
  unfold commandStep? at stepped
  split at stepped
  · cases stepped
  next pc current =>
    exact checkStep_matched lockHeld current stepped
  next url pc current =>
    exact downloadStep_matched lockHeld current stepped
  next pc current =>
    exact cancelStep_matched current stepped
  next current =>
    cases stepped
    simp only [commandLabel?, current]
    exact abstraction_hidden current rfl rfl
  · cases stepped
  next pc current =>
    exact upgradeStep_matched current stepped

/-- What a curl does changes neither the lock nor the processes. -/
theorem curlStep_frame
    {state next : State}
    {pid : Pid}
    {act : CurlAct}
    (stepped : curlStep? state pid act = some next) :
    next.wrLock = state.wrLock ∧
      next.procs = state.procs ∧
      next.latest = state.latest := by
  obtain ⟨curl, _, _, step⟩ := curlStep_of_curlStep? stepped
  cases step <;> exact ⟨rfl, rfl, rfl⟩

/-- Every step keeps the lock discipline. -/
theorem LockHeld.step
    {state next : State}
    {event : Event}
    (lockHeld : LockHeld state)
    (stepped : step? state event = some next) :
    LockHeld next := by
  cases event with
  | request process operation =>
      simp only [step?] at stepped
      split at stepped
      next isAbsent =>
        cases stepped
        have sameHolds :
            ∀ other,
              ((state.setProc process operation.enter).procs
                  other).holdsLock =
                (state.procs other).holdsLock := by
          intro other
          by_cases same : other = process
          · subst other
            rw [procs_setProc_self, isAbsent]
            cases operation <;> rfl
          · rw [procs_setProc_other _ same]
        exact ⟨fun holds => lockHeld.holder (sameHolds _ ▸ holds),
          fun held => (sameHolds _).trans (lockHeld.active held)⟩
      · cases stepped
  | command process answer =>
      obtain ⟨others, _, lock⟩ := commandStep_frame stepped
      rcases lock with ⟨sameLock, sameHolds⟩ | ⟨free, holds, taken⟩ |
        ⟨held, released, nowFree⟩
      · have sameHoldsAll :
            ∀ other,
              (next.procs other).holdsLock =
                (state.procs other).holdsLock := by
          intro other
          by_cases same : other = process
          · exact same ▸ sameHolds
          · rw [others same]
        exact ⟨
          fun holds =>
            sameLock.trans (lockHeld.holder (sameHoldsAll _ ▸ holds)),
          fun held =>
            (sameHoldsAll _).trans
              (lockHeld.active (sameLock.symm.trans held))⟩
      · -- The lock was free, so nobody else is in its critical section.
        constructor
        · intro other otherHolds
          by_cases same : other = process
          · exact same ▸ taken
          · rw [others same] at otherHolds
            have otherHeld := lockHeld.holder otherHolds
            simp [free] at otherHeld
        · intro other otherHeld
          have same := Option.some.inj (taken.symm.trans otherHeld)
          exact same ▸ holds
      · constructor
        · intro other otherHolds
          by_cases same : other = process
          · simp [same, released] at otherHolds
          · rw [others same] at otherHolds
            have clash :=
              (lockHeld.holder held).symm.trans
                (lockHeld.holder otherHolds)
            exact absurd (Option.some.inj clash).symm same
        · intro other otherHeld
          simp [nowFree] at otherHeld
  | curl pid act =>
      obtain ⟨sameLock, sameProcs, _⟩ := curlStep_frame stepped
      constructor
      · intro other holds
        rw [sameProcs] at holds
        exact sameLock.trans (lockHeld.holder holds)
      · intro other held
        rw [sameProcs]
        exact lockHeld.active (sameLock.symm.trans held)

/-- After boot nobody holds the write lock. -/
theorem LockHeld.booted : LockHeld booted := by
  constructor <;> simp [Ota.booted, Proc.holdsLock]

/-- The script, seen through its abstraction, runs the rename pattern. -/
def simulation :
    Simulation system (RenamePublish.system ProcessId Byte) where
  Invariant := LockHeld
  abstraction := abstraction
  label? := label?
  initial := by
    rintro state rfl
    rfl
  step := by
    intro state event next lockHeld stepped
    have isMatched : Matched state next (label? state event) := by
      cases event with
      | request process operation =>
          simp only [system, step?] at stepped
          split at stepped
          next isAbsent =>
            cases stepped
            refine abstraction_hidden isAbsent rfl ?_
            cases operation <;> rfl
          · cases stepped
      | command process answer =>
          exact commandStep_matched lockHeld stepped
      | curl pid act =>
          exact curlStep_matched stepped
    revert isMatched
    unfold Matched
    cases label? state event <;> exact id

/-- A visible step of the script is the step of the pattern it stands for. -/
theorem abstraction_visible
    {state next : State}
    {event : Event}
    {action : RenamePublish.Action ProcessId Byte}
    (lockHeld : LockHeld state)
    (labelled : label? state event = some action)
    (stepped : step? state event = some next) :
    RenamePublish.step? (abstraction state) action =
      some (abstraction next) := by
  have matched := simulation.step state event next lockHeld stepped
  simp only [simulation, labelled] at matched
  exact matched

/-- One step of the script, as the pattern sees it. -/
theorem abstraction_step
    {state next : State}
    {event : Event}
    (lockHeld : LockHeld state)
    (stepped : step? state event = some next) :
    abstraction next = abstraction state ∨
      ∃ action,
        label? state event = some action ∧
          RenamePublish.step? (abstraction state) action =
            some (abstraction next) := by
  cases labelled : label? state event with
  | none =>
      have matched := simulation.step state event next lockHeld stepped
      exact .inl (by simpa [simulation, labelled] using matched)
  | some action =>
      exact .inr ⟨action, rfl,
        abstraction_visible lockHeld labelled stepped⟩

/-- In reachable states the write lock is held as the script believes. -/
theorem lockHeld_of_reachable
    {guard : State → Event → Prop}
    {state : State}
    (reachable : system.GuardedReachable guard state) :
    LockHeld state := by
  refine reachable.invariant _ ?_ ?_
  · rintro initial rfl
    exact LockHeld.booted
  · intro current event next _ lockHeld _ stepped
    exact lockHeld.step stepped

/-- The abstraction of a reachable state satisfies the pattern's invariant. -/
theorem coherent_of_reachable
    {guard : State → Event → Prop}
    {state : State}
    (reachable : system.GuardedReachable guard state) :
    (abstraction state).Coherent := by
  obtain ⟨start, events, isInitial, run⟩ := reachable
  obtain ⟨labels, abstractRun⟩ :
      ∃ labels,
        (RenamePublish.system ProcessId Byte).Run (abstraction start)
          labels (abstraction state) :=
    simulation.run
      (fun _ _ _ lockHeld _ stepped => LockHeld.step lockHeld stepped)
      (fun _ _ _ _ _ _ _ _ => trivial)
      run (isInitial ▸ LockHeld.booted)
  exact RenamePublish.State.Coherent.of_reachable
    ⟨_, labels, simulation.initial start isInitial, abstractRun⟩

end RecomputerGateway.Ota
