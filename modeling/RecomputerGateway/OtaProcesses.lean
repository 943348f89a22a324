import RecomputerGateway.OtaSimulation

namespace RecomputerGateway.Ota

/-!
# Following one process and its curl

A process only moves by its own commands, a download starts at most one curl,
and once a download has seen how its curl ended it goes on accordingly.
-/

/-- A process stays where it is, is started, or executes its own command. -/
theorem proc_step
    {state next : State}
    {event : Event}
    (stepped : step? state event = some next)
    (process : ProcessId) :
    next.procs process = state.procs process ∨
      (∃ operation,
        event = .request process operation ∧
          state.procs process = .absent ∧
          next.procs process = operation.enter) ∨
      ∃ answer,
        event = .command process answer ∧
          commandStep? state process answer = some next := by
  cases event with
  | request other operation =>
      simp only [step?] at stepped
      split at stepped
      next isAbsent =>
        cases stepped
        by_cases same : process = other
        · subst other
          exact .inr (.inl ⟨operation, rfl, isAbsent,
            procs_setProc_self state process operation.enter⟩)
        · exact .inl (procs_setProc_other state same operation.enter)
      · cases stepped
  | command other answer =>
      by_cases same : process = other
      · subst other
        exact .inr (.inr ⟨answer, rfl, stepped⟩)
      · exact .inl ((commandStep_frame stepped).others same)
  | curl pid act =>
      exact .inl (congrFun (curlStep_frame stepped).2.1 process)

/-- The event does not start a process whose number is `bound` or more. -/
def Event.requestsBelow (bound : Nat) : Event → Bool
  | .request process _ => process < bound
  | _ => true

/-- A process that nobody starts stays absent. -/
theorem absent_step
    {state next : State}
    {event : Event}
    {bound : Nat}
    (absent : ∀ process ≥ bound, state.procs process = .absent)
    (below : event.requestsBelow bound = true)
    (stepped : step? state event = some next) :
    ∀ process ≥ bound, next.procs process = .absent := by
  intro process above
  rcases proc_step stepped process with
      same | ⟨operation, rfl, _, _⟩ | ⟨answer, _, command⟩
  · exact same.trans (absent process above)
  · simp only [Event.requestsBelow, decide_eq_true_eq] at below
    exact absurd below (Nat.not_lt.mpr above)
  · simp [commandStep?, absent process above] at command

/-- The curl that a download has started. -/
def DownloadPc.curl? : DownloadPc → Option Pid
  | .publishPid pid => some pid
  | .unlockStarted pid => some pid
  | .waitCurl pid => some pid
  | .dropPid pid => some pid
  | .announceDone pid => some pid
  | .lockMove pid => some pid
  | .movePart pid => some pid
  | .dropProgress pid => some pid
  | .unlockMove pid => some pid
  | .leaveDone pid => some pid
  | .endLine pid _ => some pid
  | .reportEnd pid _ => some pid
  | .lockSed pid => some pid
  | .sedRead pid => some pid
  | .sedRename pid _ => some pid
  | .unlockSed pid => some pid
  | .dropFailedPid pid => some pid
  | .dropPart pid => some pid
  | .leaveFailed pid => some pid
  | .finished pid _ => pid
  | _ => none

/-- Whether a download has seen its curl succeed or fail. -/
def DownloadPc.outcome? : DownloadPc → Option Bool
  | .dropPid _ => some true
  | .announceDone _ => some true
  | .lockMove _ => some true
  | .movePart _ => some true
  | .dropProgress _ => some true
  | .unlockMove _ => some true
  | .leaveDone _ => some true
  | .endLine _ _ => some false
  | .reportEnd _ _ => some false
  | .lockSed _ => some false
  | .sedRead _ => some false
  | .sedRename _ _ => some false
  | .unlockSed _ => some false
  | .dropFailedPid _ => some false
  | .dropPart _ => some false
  | .leaveFailed _ => some false
  | .finished (some _) code => some (code == 0)
  | _ => none

/-- The path that the next command of a check, cancel or upgrade removes. -/
def Proc.removes? : Proc → Option RenamePublish.FilePath
  | .check .removePart => some partPath
  | .cancel .removePart => some partPath
  | .cancel .removeImage => some imagePath
  | .upgrade .removeImage => some imagePath
  | _ => none

/-! ## Which command causes which action of the pattern -/

/-- The event behind an action that not every process can take. -/
def Cause (state : State) (event : Event) :
    RenamePublish.Action ProcessId Byte → Prop
  | .acquire process true =>
      ∃ answer url,
        event = .command process answer ∧
          state.procs process = .download url .flock ∧
          state.wrLock = none
  | .launch pid body =>
      ∃ process url,
        event = .command process (.launch pid body) ∧
          state.procs process = .download url .startCurl
  | .removeTemporary =>
      ∃ process answer,
        event = .command process answer ∧
          (state.procs process).removes? = some partPath
  | .removeFinal =>
      ∃ process answer,
        event = .command process answer ∧
          (state.procs process).removes? = some imagePath
  | _ => True

theorem signal_not_cause
    {state : State}
    {event : Event}
    {pid : Pid}
    {code : Nat}
    {action : RenamePublish.Action ProcessId Byte}
    (labelled : signalLabel? state pid code = some action) :
    Cause state event action := by
  unfold signalLabel? at labelled
  split at labelled <;> cases labelled
  trivial

theorem stop_not_cause
    {state : State}
    {event : Event}
    {pc : StopPc}
    {action : RenamePublish.Action ProcessId Byte}
    (labelled : stopLabel? state pc = some action) :
    Cause state event action := by
  cases pc <;> simp only [stopLabel?, reduceCtorEq] at labelled <;>
    exact signal_not_cause labelled

/-- The command behind an action. -/
theorem cause_of_label
    {state : State}
    {event : Event}
    {action : RenamePublish.Action ProcessId Byte}
    (labelled : label? state event = some action) :
    Cause state event action := by
  cases event with
  | request process operation =>
      simp [label?] at labelled
  | curl pid act =>
      cases act <;> simp only [label?, Option.some.injEq,
        reduceCtorEq] at labelled <;> subst action <;> trivial
  | command process answer =>
      simp only [label?, commandLabel?] at labelled
      cases current : state.procs process with
      | check pc =>
          cases pc <;> simp only [current, reduceCtorEq] at labelled
          case stop pc =>
            exact stop_not_cause labelled
          case removePart =>
            cases labelled
            exact ⟨process, answer, rfl, by rw [current]; rfl⟩
          case flock =>
            split at labelled <;> cases labelled
            trivial
          case unlock code =>
            cases labelled
            trivial
      | download url pc =>
          cases pc <;> simp only [current, reduceCtorEq] at labelled
          case flock =>
            split at labelled <;> cases labelled
            exact ⟨answer, url, rfl, current, by assumption⟩
          case startCurl =>
            split at labelled <;> cases labelled
            exact ⟨process, url, rfl, current⟩
          all_goals
            cases labelled
            trivial
      | cancel pc =>
          cases pc <;> simp only [current, reduceCtorEq] at labelled
          case stop pc =>
            exact stop_not_cause labelled
          all_goals
            cases labelled
            exact ⟨process, answer, rfl, by rw [current]; rfl⟩
      | upgrade pc =>
          cases pc <;> simp only [current, reduceCtorEq] at labelled
          case removeImage =>
            cases labelled
            exact ⟨process, answer, rfl, by rw [current]; rfl⟩
      | _ =>
          simp [current] at labelled

/-! ## One curl over time -/

/-- No step forgets a curl, its body or its exit code. -/
theorem curl_evolves
    {state next : State}
    {event : Event}
    (lockHeld : LockHeld state)
    (stepped : step? state event = some next)
    {pid : Pid}
    {curl : Curl}
    (found : state.curls pid = some curl) :
    ∃ later,
      next.curls pid = some later ∧
        curl.toTransfer.Evolves later.toTransfer := by
  rcases abstraction_step lockHeld stepped with
      hidden | ⟨action, _, visible⟩
  · have sameTransfer :
        (abstraction next).transfers pid = some curl.toTransfer := by
      rw [hidden]
      exact abstraction_transfers found
    obtain ⟨later, laterFound, sameRecord⟩ :=
      Option.map_eq_some_iff.mp sameTransfer
    exact ⟨later, laterFound, sameRecord ▸ .refl later.toTransfer⟩
  · obtain ⟨_, laterTransfer, evolves⟩ :=
      RenamePublish.step_transfer_evolves visible
        (abstraction_transfers found)
    obtain ⟨later, laterFound, rfl⟩ :=
      Option.map_eq_some_iff.mp laterTransfer
    exact ⟨later, laterFound, evolves⟩

/-- A curl is there already, or the step is the command that starts it. -/
theorem curl_origin
    {state next : State}
    {event : Event}
    (lockHeld : LockHeld state)
    (stepped : step? state event = some next)
    {pid : Pid}
    {later : Curl}
    (found : next.curls pid = some later) :
    (∃ curl, state.curls pid = some curl) ∨
      ∃ url body,
        event = .command later.owner (.launch pid body) ∧
          state.procs later.owner = .download url .startCurl := by
  have foundTransfer := abstraction_transfers found
  have present :
      ∀ {record},
        (abstraction state).transfers pid = some record →
        ∃ curl, state.curls pid = some curl := by
    intro record earlier
    obtain ⟨curl, curlFound, _⟩ := Option.map_eq_some_iff.mp earlier
    exact ⟨curl, curlFound⟩
  rcases abstraction_step lockHeld stepped with
      hidden | ⟨action, labelled, visible⟩
  · exact .inl (present (hidden ▸ foundTransfer))
  · rcases RenamePublish.step_transfer_origin visible foundTransfer with
        ⟨record, earlier⟩ | ⟨body, rfl, held⟩
    · exact .inl (present earlier)
    · obtain ⟨process, url, rfl, current⟩ := cause_of_label labelled
      have holder : state.wrLock = some process :=
        lockHeld.holder (by rw [current]; rfl)
      have isOwner := holder.symm.trans held
      cases isOwner
      exact .inr ⟨url, body, rfl, current⟩

/-! ## Downloads and their curls -/

/-- The process is a download that is about to try for the lock. -/
def Proc.triesLock : Proc → Bool
  | .download _ .flock => true
  | _ => false

/-- No command of a download goes back to waiting for the lock. -/
theorem downloadStep_not_flock
    {state next : State}
    {process : ProcessId}
    {url : Text}
    {pc : DownloadPc}
    {answer : Answer}
    (stepped : downloadStep? state process url pc answer = some next) :
    (next.procs process).triesLock = false := by
  cases pc <;> cases answer <;>
    simp only [downloadStep?, lockStatus?, Option.map_eq_some_iff,
      reduceCtorEq, Option.some.injEq] at stepped
  case waitCurl.none pid =>
    obtain ⟨curl, code, -, -, rfl⟩ := downloadStep?_waitCurl stepped
    rw [procs_setProc_self]
    split <;> rfl
  case startCurl.launch | flock.none | sedRead.none =>
    split at stepped <;> cases stepped <;>
      simp [Proc.triesLock]
  case lockStatus.none | relockStatus.none | lockMove.none |
      lockSed.none =>
    obtain ⟨locked, taken, rfl⟩ := stepped
    simp [Proc.triesLock]
  all_goals
    cases stepped
    simp [Proc.triesLock]

/-- Between `flock` and its end a download holds the lock. -/
theorem holdsLock_of_downloadStep
    {state next : State}
    {process : ProcessId}
    {url : Text}
    {pc : DownloadPc}
    {answer : Answer}
    (stepped : downloadStep? state process url pc answer = some next)
    (passed : pc ≠ .flock) :
    (Proc.download url pc).holdsLock = true := by
  cases pc <;> first | rfl | exact absurd rfl passed | cases stepped

/-- What the next command of a download does to what it knows of its curl. -/
theorem downloadStep_curl
    {state next : State}
    {process : ProcessId}
    {url : Text}
    {pc : DownloadPc}
    {answer : Answer}
    (stepped : downloadStep? state process url pc answer = some next) :
    ∃ later,
      next.procs process = .download url later ∧
        (later.curl? = pc.curl? ∧ later.outcome? = pc.outcome? ∨
          (∃ pid body,
            pc = .startCurl ∧
              answer = .launch pid body ∧
              later = .publishPid pid) ∨
          ∃ pid curl code,
            pc = .waitCurl pid ∧
              state.curls pid = some curl ∧
              curl.exit = some code ∧
              later.curl? = some pid ∧
              later.outcome? = some (code == 0)) := by
  cases pc <;> cases answer <;>
    simp only [downloadStep?, lockStatus?, Option.map_eq_some_iff,
      reduceCtorEq, Option.some.injEq] at stepped
  case startCurl.launch pid body =>
    split at stepped <;> cases stepped
    exact ⟨_, procs_setProc_self .., .inr (.inl ⟨pid, body, rfl, rfl, rfl⟩)⟩
  case waitCurl.none pid =>
    obtain ⟨curl, code, found, exited, rfl⟩ := downloadStep?_waitCurl stepped
    refine ⟨_, procs_setProc_self .., .inr (.inr ⟨pid, curl, code,
      rfl, found, exited, ?_⟩)⟩
    by_cases success : code = 0 <;>
      simp [success, DownloadPc.curl?, DownloadPc.outcome?]
  case flock.none | sedRead.none =>
    split at stepped <;> cases stepped <;>
      exact ⟨_, procs_setProc_self .., .inl ⟨rfl, rfl⟩⟩
  case lockStatus.none | relockStatus.none | lockMove.none |
      lockSed.none =>
    obtain ⟨locked, taken, rfl⟩ := stepped
    exact ⟨_, procs_setProc_self .., .inl ⟨rfl, rfl⟩⟩
  all_goals
    cases stepped
    exact ⟨_, procs_setProc_self .., .inl ⟨rfl, rfl⟩⟩

/-- Curls and the downloads that started them refer to each other. -/
structure Attached (state : State) : Prop where
  owned :
    ∀ {pid curl},
      state.curls pid = some curl →
      ∃ url pc,
        state.procs curl.owner = .download url pc ∧
          pc.curl? = some pid
  seen :
    ∀ {process url pc pid},
      state.procs process = .download url pc →
      pc.curl? = some pid →
      ∃ curl,
        state.curls pid = some curl ∧
          curl.owner = process ∧
          ∀ ok,
            pc.outcome? = some ok →
            ∃ code, curl.exit = some code ∧ (code == 0) = ok

theorem Attached.booted : Attached booted where
  owned := by simp [Ota.booted]
  seen := by simp [Ota.booted]

/-- A download keeps the curl it has started. -/
theorem download_keeps_curl
    {state next : State}
    {event : Event}
    (stepped : step? state event = some next)
    {process : ProcessId}
    {url : Text}
    {pc : DownloadPc}
    (current : state.procs process = .download url pc)
    {pid : Pid}
    (started : pc.curl? = some pid) :
    ∃ later,
      next.procs process = .download url later ∧
        later.curl? = some pid := by
  rcases proc_step stepped process with
      same | ⟨operation, _, isAbsent, _⟩ | ⟨answer, _, command⟩
  · exact ⟨pc, same.trans current, started⟩
  · simp [isAbsent] at current
  · simp only [commandStep?, current] at command
    obtain ⟨later, laterPc, kept | ⟨_, _, rfl, _⟩ |
      ⟨waited, _, _, rfl, _, _, laterCurl, _⟩⟩ :=
        downloadStep_curl command
    · exact ⟨later, laterPc, kept.1.trans started⟩
    · simp [DownloadPc.curl?] at started
    · exact ⟨later, laterPc, laterCurl.trans started⟩

/-- What a download knows of its curl stays true. -/
theorem Attached.known_later
    {state next : State}
    {event : Event}
    (attached : Attached state)
    (lockHeld : LockHeld state)
    (stepped : step? state event = some next)
    {process : ProcessId}
    {url : Text}
    {earlier pc : DownloadPc}
    {pid : Pid}
    (before : state.procs process = .download url earlier)
    (started : earlier.curl? = some pid)
    (outcomes :
      ∀ ok,
        pc.outcome? = some ok →
        earlier.outcome? = some ok ∨
          ∃ curl code,
            state.curls pid = some curl ∧
              curl.exit = some code ∧
              (code == 0) = ok) :
    ∃ curl,
      next.curls pid = some curl ∧
        curl.owner = process ∧
        ∀ ok,
          pc.outcome? = some ok →
          ∃ code, curl.exit = some code ∧ (code == 0) = ok := by
  obtain ⟨curl, found, owner, known⟩ := attached.seen before started
  obtain ⟨later, laterFound, evolves⟩ :=
    curl_evolves lockHeld stepped found
  refine ⟨later, laterFound, evolves.owner.trans owner, ?_⟩
  intro ok outcome
  rcases outcomes ok outcome with
      knownBefore | ⟨record, code, recorded, exited, isOutcome⟩
  · obtain ⟨code, exited, isOutcome⟩ := known ok knownBefore
    exact ⟨code, evolves.exit exited, isOutcome⟩
  · rw [found] at recorded
    cases recorded
    exact ⟨code, evolves.exit exited, isOutcome⟩

/-- The links between curls and downloads survive every step. -/
theorem Attached.step
    {state next : State}
    {event : Event}
    (lockHeld : LockHeld state)
    (attached : Attached state)
    (stepped : step? state event = some next) :
    Attached next where
  owned := by
    intro pid later found
    rcases curl_origin lockHeld stepped found with
        ⟨curl, earlier⟩ | ⟨url, body, rfl, current⟩
    · obtain ⟨url, pc, current, started⟩ := attached.owned earlier
      obtain ⟨evolved, evolvedFound, evolves⟩ :=
        curl_evolves lockHeld stepped earlier
      rw [found] at evolvedFound
      cases evolvedFound
      rw [evolves.owner]
      exact ⟨url, download_keeps_curl stepped current started⟩
    · simp only [step?, commandStep?, current] at stepped
      obtain ⟨laterPc, laterCurrent, kept | ⟨_, _, _, isLaunch, rfl⟩ |
        ⟨_, _, _, isWait, _⟩⟩ := downloadStep_curl stepped
      · -- Starting a curl never leaves the download without one.
        simp only [downloadStep?] at stepped
        split at stepped <;> cases stepped
        exact ⟨url, _, procs_setProc_self .., rfl⟩
      · cases isLaunch
        exact ⟨url, _, laterCurrent, rfl⟩
      · cases isWait
  seen := by
    intro process url pc pid current started
    rcases proc_step stepped process with
        same | ⟨operation, _, _, entered⟩ | ⟨answer, _, command⟩
    · exact attached.known_later lockHeld stepped (same.symm.trans current)
        started (fun ok outcome => .inl outcome)
    · rw [entered] at current
      cases operation <;> simp only [Operation.enter, reduceCtorEq,
        Proc.download.injEq] at current
      obtain ⟨_, rfl⟩ := current
      simp [DownloadPc.curl?] at started
    · have operation := (commandStep_frame command).operation
      rw [current] at operation
      cases before : state.procs process with
      | download beforeUrl earlier =>
          simp only [before, Proc.operation?, Option.some.injEq,
            Operation.download.injEq] at operation
          subst beforeUrl
          have downloadCommand := command
          simp only [commandStep?, before] at downloadCommand
          obtain ⟨laterPc, laterCurrent, progress⟩ :=
            downloadStep_curl downloadCommand
          rw [current] at laterCurrent
          cases laterCurrent
          rcases progress with
              ⟨sameCurl, sameOutcome⟩ | ⟨launched, body, rfl, rfl, rfl⟩ |
              ⟨waited, curl, code, rfl, found, exited, laterCurl,
                laterOutcome⟩
          · exact attached.known_later lockHeld stepped before
              (sameCurl.symm.trans started)
              (fun ok outcome => .inl (sameOutcome.symm.trans outcome))
          · simp only [DownloadPc.curl?, Option.some.injEq] at started
            subst launched
            simp only [downloadStep?] at downloadCommand
            split at downloadCommand <;> cases downloadCommand
            exact ⟨_, Function.update_self .., rfl,
              by simp [DownloadPc.outcome?]⟩
          · have isWaited : waited = pid := by
              simpa [started] using laterCurl.symm
            subst waited
            refine attached.known_later lockHeld stepped before rfl ?_
            intro ok outcome
            rw [laterOutcome] at outcome
            exact .inr ⟨curl, code, found, exited,
              Option.some.inj outcome⟩
      | _ =>
          simp [before, Proc.operation?] at operation

/-- In reachable states curls and downloads refer to each other. -/
theorem attached_of_reachable
    {guard : State → Event → Prop}
    {state : State}
    (reachable : system.GuardedReachable guard state) :
    Attached state := by
  refine reachable.invariant _ ?_ ?_
  · rintro initial rfl
    exact Attached.booted
  · intro current event next currentReachable attached _ stepped
    exact attached.step (lockHeld_of_reachable currentReachable) stepped

end RecomputerGateway.Ota
