import RecomputerGateway.OtaImage
import RecomputerGateway.OtaProcesses

namespace RecomputerGateway.Ota

/-!
# When a download survives an earlier cancel

`do_cancel` and `do_check` remove files by name, at a time when the download
they were aimed at may be over and another one may own these names.  A
download whose curl exited with 0 keeps its result exactly as long as no such
removal hits the path its output is at.
-/

/-- Where the output of a process that downloads is to be found. -/
def outputPath? (state : State) : Proc → Option RenamePublish.FilePath
  | .download _ pc =>
      match pc.stage with
      | .running pid =>
          if (state.curls pid).any fun curl => curl.out.isSome then
            some partPath
          else none
      | .succeeded _ => some partPath
      | .moved _ => some imagePath
      | _ => none
  | _ => none

/-- The event does not remove the output of this download. -/
def leavesOutput
    (downloader : ProcessId)
    (state : State) :
    Event → Bool
  | .command process _ =>
      match (state.procs process).removes? with
      | none => true
      | some path =>
          outputPath? state (state.procs downloader) ≠ some path
  | _ => true

/-- An event that leaves the output alone is respectful in the pattern. -/
theorem respectful_of_leavesOutput
    {state : State}
    {event : Event}
    {downloader : ProcessId}
    (held : state.wrLock = some downloader)
    (leaves : leavesOutput downloader state event = true)
    {action : RenamePublish.Action ProcessId Byte}
    (labelled : label? state event = some action) :
    RenamePublish.Respectful (abstraction state) action := by
  have cause := cause_of_label labelled
  constructor
  · rintro rfl
    obtain ⟨process, answer, rfl, removes⟩ := cause
    simp only [leavesOutput, removes, decide_eq_true_eq] at leaves
    rw [stage_of_holder held]
    cases current : state.procs downloader with
    | download url pc =>
        simp only [current, outputPath?] at leaves
        simp only [Proc.stage]
        constructor
        · intro pid transfer isRunning found
          obtain ⟨curl, curlFound, rfl⟩ :=
            Option.map_eq_some_iff.mp found
          simpa [isRunning, curlFound] using leaves
        · intro pid isSucceeded
          simp [isSucceeded] at leaves
    | _ =>
        simp [Proc.stage]
  · rintro rfl
    obtain ⟨process, answer, rfl, removes⟩ := cause
    simp only [leavesOutput, removes, decide_eq_true_eq] at leaves
    rw [stage_of_holder held]
    cases current : state.procs downloader with
    | download url pc =>
        simp only [current, outputPath?] at leaves
        simp only [Proc.stage]
        intro pid isMoved
        simp [isMoved] at leaves
    | _ =>
        simp [Proc.stage]

/-- A download that got the lock, with its work so far intact. -/
structure Undisturbed
    (downloader : ProcessId)
    (url : Text)
    (state : State) :
    Prop where
  passed :
    ∃ pc,
      state.procs downloader = .download url pc ∧ pc ≠ .flock
  intact :
    (state.procs downloader).holdsLock = true →
    (abstraction state).Intact

theorem Undisturbed.step
    {downloader : ProcessId}
    {url : Text}
    {state next : State}
    {event : Event}
    (reachable : system.Reachable state)
    (undisturbed : Undisturbed downloader url state)
    (leaves : leavesOutput downloader state event = true)
    (stepped : step? state event = some next) :
    Undisturbed downloader url next := by
  have lockHeld := lockHeld_of_reachable reachable
  obtain ⟨pc, current, passed⟩ := undisturbed.passed
  have intactNext :
      (state.procs downloader).holdsLock = true →
        (abstraction next).Intact := by
    intro holds
    have held := lockHeld.holder holds
    rcases abstraction_step lockHeld stepped with
        hidden | ⟨action, labelled, visible⟩
    · rw [hidden]
      exact undisturbed.intact holds
    · exact (undisturbed.intact holds).step
        (coherent_of_reachable reachable)
        (respectful_of_leavesOutput held leaves labelled) visible
  rcases proc_step stepped downloader with
      same | ⟨operation, _, isAbsent, _⟩ | ⟨answer, _, command⟩
  · exact ⟨⟨pc, same.trans current, passed⟩,
      fun holds => intactNext (same ▸ holds)⟩
  · simp [isAbsent] at current
  · simp only [commandStep?, current] at command
    obtain ⟨later, laterCurrent, _⟩ := downloadStep_curl command
    refine ⟨⟨later, laterCurrent, ?_⟩, fun _ => intactNext ?_⟩
    · rintro rfl
      have notFlock := downloadStep_not_flock command
      simp [laterCurrent, Proc.triesLock] at notFlock
    · rw [current]
      exact holdsLock_of_downloadStep command passed

/-- The download has just taken the lock. -/
theorem Undisturbed.of_acquire
    {downloader : ProcessId}
    {url : Text}
    {state next : State}
    (waiting : state.procs downloader = .download url .flock)
    (free : state.wrLock = none)
    (stepped : step? state (.command downloader .none) = some next) :
    Undisturbed downloader url next := by
  simp only [step?, commandStep?, waiting, downloadStep?, free,
    Option.some.injEq] at stepped
  subst next
  refine ⟨⟨.lockStatus, procs_setProc_self .., by simp⟩, fun _ => ?_⟩
  have stage :
      (abstraction
        (State.setProc
          { state with
            wrLock := some downloader, latest := some downloader }
          downloader (.download url .lockStatus))).stage = .fresh := by
    simp [abstraction, State.setProc, Proc.stage, DownloadPc.stage]
  constructor <;> simp [stage]

/-- The last command of a download that ran a curl. -/
theorem last_command
    {state next : State}
    {process : ProcessId}
    {url : Text}
    {pc : DownloadPc}
    {pid : Pid}
    {code : Nat}
    (stepped : downloadStep? state process url pc .none = some next)
    (returned :
      next.procs process = .download url (.finished (some pid) code)) :
    next.firmware = state.firmware ∧
      next.curls = state.curls ∧
      (pc = .leaveDone pid ∨ code = 1) := by
  cases pc <;>
    simp only [downloadStep?, lockStatus?, Option.map_eq_some_iff,
      reduceCtorEq, Option.some.injEq] at stepped
  case leaveDone other =>
    cases stepped
    simp only [procs_setProc_self, Proc.download.injEq,
      DownloadPc.finished.injEq, Option.some.injEq] at returned
    exact ⟨rfl, rfl, .inl (by rw [returned.2.1])⟩
  case leaveFailed other =>
    cases stepped
    simp only [procs_setProc_self, Proc.download.injEq,
      DownloadPc.finished.injEq] at returned
    exact ⟨rfl, rfl, .inr returned.2.2.symm⟩
  case waitCurl other =>
    obtain ⟨curl, code, -, -, rfl⟩ := downloadStep?_waitCurl stepped
    rw [procs_setProc_self] at returned
    split at returned <;> simp at returned
  case flock | sedRead =>
    split at stepped <;> cases stepped <;> simp at returned
  case lockStatus | relockStatus | lockMove | lockSed =>
    obtain ⟨locked, taken, rfl⟩ := stepped
    simp at returned
  all_goals
    cases stepped
    simp at returned

/--
A download whose output nobody removes while it is needed ends with the image
in place: if its curl exited with 0, the image is the body this curl fetched.
-/
theorem later_download_survives
    {downloader : ProcessId}
    {url : Text}
    {before acquired last finished : State}
    {events : List Event}
    {pid : Pid}
    {code : Nat}
    {curl : Curl}
    (reachable : system.Reachable before)
    (waiting : before.procs downloader = .download url .flock)
    (free : before.wrLock = none)
    (acquires :
      system.step? before (.command downloader .none) = some acquired)
    (run :
      system.GuardedRun
        (fun state event => leavesOutput downloader state event = true)
        acquired events last)
    (finishes :
      system.step? last (.command downloader .none) = some finished)
    (returned :
      finished.procs downloader =
        .download url (.finished (some pid) code))
    (ran : finished.curls pid = some curl)
    (succeeded : curl.exit = some 0) :
    ∃ inode,
      finished.firmware.link imagePath = some inode ∧
        finished.firmware.data inode = curl.body := by
  have acquiredReachable := reachable.step trivial acquires
  have lastReachable := run.forget.reachable acquiredReachable
  have finishedReachable := lastReachable.step trivial finishes
  have undisturbed : Undisturbed downloader url last :=
    System.GuardedReachable.run_invariant _
      (fun _ _ _ stateReachable holds leaves stepped =>
        holds.step stateReachable leaves stepped)
      acquiredReachable run
      (.of_acquire waiting free acquires)
  obtain ⟨pc, current, passed⟩ := undisturbed.passed
  have command := finishes
  simp only [system, step?, commandStep?, current] at command
  have holds :=
    current ▸ holdsLock_of_downloadStep command passed
  obtain ⟨sameFirmware, sameCurls, rfl | failed⟩ :=
    last_command command returned
  · have intact := undisturbed.intact holds
    have stage : (abstraction last).stage = .moved pid := by
      rw [stage_of_holder ((lockHeld_of_reachable lastReachable).holder holds),
        current]
      rfl
    obtain ⟨transfer, inode, found, exited, output, linked⟩ :=
      intact.moved stage
    rw [abstraction_transfers (sameCurls ▸ ran)] at found
    cases found
    have record :=
      (coherent_of_reachable lastReachable).transfers
        (abstraction_transfers (sameCurls ▸ ran))
    refine ⟨inode, by rw [sameFirmware]; exact linked, ?_⟩
    have content := record.content output
    rw [(record.finished exited).2, List.take_length] at content
    rw [sameFirmware]
    exact content
  · -- A download that returns 1 saw its curl fail.
    subst code
    obtain ⟨seen, found, _, known⟩ :=
      (attached_of_reachable finishedReachable).seen returned rfl
    rw [ran] at found
    cases found
    obtain ⟨exitCode, exited, isFailure⟩ := known false rfl
    rw [succeeded] at exited
    cases exited
    cases isFailure

/--
A cancel kills the curl of process 0 and sleeps; meanwhile this download ends,
and process 3 is about to download.
-/
def overtakenCancelRun : List Event :=
  transferringRun ++ [.request 1 .cancel] ++ runCommands 1 5 ++
    runCommands 0 10 ++ [.request 3 (.download [])]

/-- Process 3, which has the lock, gets as far as waiting for curl 101. -/
def restartedRun : List Event :=
  runCommands 3 7 ++ [.command 3 (.launch 101 [3])] ++ runCommands 3 2

/-- The cancel removes the files before curl 101 creates its output. -/
def spacedRun : List Event :=
  restartedRun ++ runCommands 1 5 ++ fetchAll 101 1 ++ runCommands 3 7

/-- The cancel removes the files when curl 101 has written its output. -/
def overlappingRun : List Event :=
  restartedRun ++ fetchAll 101 1 ++ runCommands 1 5 ++ runCommands 3 7

theorem later_download_survives_of_run :
    ∃ before acquired last finished inode,
      system.run? booted overtakenCancelRun = some before ∧
        system.step? before (.command 3 .none) = some acquired ∧
        system.run? acquired spacedRun = some last ∧
        system.step? last (.command 3 .none) = some finished ∧
        finished.firmware.link imagePath = some inode ∧
        finished.firmware.data inode = [3] := by
  have executed :
      ((system.run? booted overtakenCancelRun).bind fun before =>
        (system.step? before (.command 3 .none)).bind fun acquired =>
          (system.runWhile? (leavesOutput 3) acquired spacedRun).bind
            fun last =>
              (system.step? last (.command 3 .none)).map fun finished =>
                decide (before.procs 3 = .download [] .flock) &&
                  decide (before.wrLock = none) &&
                  decide (finished.procs 3 =
                    .download [] (.finished (some 101) 0)) &&
                  decide ((finished.curls 101).map
                      (fun curl => (curl.exit, curl.body)) =
                    some (some 0, [3]))) =
        some true := by
    decide
  obtain ⟨before, beforeReached, rest⟩ := Option.bind_eq_some_iff.mp executed
  obtain ⟨acquired, acquires, rest⟩ := Option.bind_eq_some_iff.mp rest
  obtain ⟨last, lastReached, rest⟩ := Option.bind_eq_some_iff.mp rest
  obtain ⟨finished, finishes, ends⟩ := Option.map_eq_some_iff.mp rest
  simp only [Bool.and_eq_true, decide_eq_true_eq,
    Option.map_eq_some_iff, Prod.mk.injEq] at ends
  obtain ⟨⟨⟨waiting, free⟩, returned⟩, curl, ran, exited, body⟩ := ends
  have run :=
    System.guardedRun_of_runWhile?
      (fun state event => leavesOutput 3 state event = true)
      (fun _ _ => id) lastReached
  obtain ⟨inode, linked, content⟩ :=
    later_download_survives
      ⟨booted, _, rfl, System.run?_eq_some_iff.mp beforeReached⟩
      waiting free acquires run finishes returned ran exited
  exact ⟨before, acquired, last, finished, inode, beforeReached, acquires,
    System.run?_eq_some_iff.mpr run.forget, finishes, linked,
    content.trans body⟩

/-- The event starts neither a check nor a cancel. -/
def Event.startsNoRemover : Event → Bool
  | .request _ .check => false
  | .request _ .cancel => false
  | _ => true

/--
The download whose curl the cancel killed is over when process 3 takes the
lock, and nobody starts another check or cancel; yet process 3, whose curl
exits with 0, returns 0 without an image.
-/
theorem later_download_lost :
    ∃ before acquired last finished,
      system.Reachable before ∧
        before.procs 1 = .cancel (.stop (.kill 100)) ∧
        before.procs 0 = .download [] (.finished (some 100) 1) ∧
        before.procs 3 = .download [] .flock ∧
        before.wrLock = none ∧
        system.step? before (.command 3 .none) = some acquired ∧
        system.Run acquired overlappingRun last ∧
        (∀ event ∈ overlappingRun, event.startsNoRemover = true) ∧
        system.step? last (.command 3 .none) = some finished ∧
        finished.procs 3 = .download [] (.finished (some 101) 0) ∧
        (∃ curl,
          finished.curls 101 = some curl ∧ curl.exit = some 0) ∧
        finished.firmware.link imagePath = none := by
  have executed :
      ((system.run? booted overtakenCancelRun).bind fun before =>
        (system.step? before (.command 3 .none)).bind fun acquired =>
          (system.run? acquired overlappingRun).bind fun last =>
            (system.step? last (.command 3 .none)).map fun finished =>
              decide (before.procs 1 = .cancel (.stop (.kill 100))) &&
                decide (before.procs 0 =
                  .download [] (.finished (some 100) 1)) &&
                decide (before.procs 3 = .download [] .flock) &&
                decide (before.wrLock = none) &&
                decide (finished.procs 3 =
                  .download [] (.finished (some 101) 0)) &&
                decide ((finished.curls 101).map
                  (fun curl => curl.exit) = some (some 0)) &&
                decide (finished.firmware.link imagePath = none)) =
        some true := by
    decide
  obtain ⟨before, beforeReached, rest⟩ := Option.bind_eq_some_iff.mp executed
  obtain ⟨acquired, acquires, rest⟩ := Option.bind_eq_some_iff.mp rest
  obtain ⟨last, lastReached, rest⟩ := Option.bind_eq_some_iff.mp rest
  obtain ⟨finished, finishes, ends⟩ := Option.map_eq_some_iff.mp rest
  simp only [Bool.and_eq_true, decide_eq_true_eq,
    Option.map_eq_some_iff] at ends
  obtain ⟨⟨⟨⟨⟨⟨killing, ended⟩, waiting⟩, free⟩, returned⟩, exited⟩,
    absent⟩ := ends
  exact ⟨before, acquired, last, finished,
    ⟨booted, _, rfl, System.run?_eq_some_iff.mp beforeReached⟩,
    killing, ended, waiting, free, acquires,
    System.run?_eq_some_iff.mp lastReached, by decide, finishes, returned,
    exited, absent⟩

end RecomputerGateway.Ota
