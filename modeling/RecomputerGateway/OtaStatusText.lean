import RecomputerGateway.OtaProcesses
import RecomputerGateway.OtaReaders

namespace RecomputerGateway.Ota

/-!
# What the progress file says between the commands

The readers trust the progress file to carry an end marker exactly when a
download has ended without an image.  This module says what the file may
contain at each command of the download that holds the write lock, and under
which steps that stays true.
-/

/-- A check or cancel that has removed `.part`, but not yet `.progress`. -/
def Proc.owesProgress : Proc → Bool
  | .check .removeProgress => true
  | .cancel .removeImage => true
  | .cancel .removeProgress => true
  | _ => false

/-- The next command of the process is its `rm -f .progress`. -/
def Proc.removesProgress : Proc → Bool
  | .check .removeProgress => true
  | .cancel .removeProgress => true
  | _ => false

/-- The curl has opened its standard error, or has exited. -/
def curlPast (state : State) (pid : Pid) : Bool :=
  (state.curls pid).any fun curl =>
    curl.err.isSome || curl.exit.isSome

/-- The download or its curl is still to open the progress file. -/
def reopensStatus (state : State) : DownloadPc → Bool
  | .clearProgress => true
  | .unlockStatus => true
  | .announce => true
  | .relockStatus => true
  | .markStart => true
  | .startCurl => true
  | .publishPid pid => !curlPast state pid
  | .unlockStarted pid => !curlPast state pid
  | .waitCurl pid => !curlPast state pid
  | _ => false

/-- The process that holds the write lock. -/
def holderProc (state : State) : Proc :=
  match state.wrLock with
  | none => .absent
  | some process => state.procs process

/-- What `echo "Downloading from $url"` writes. -/
def announcement (url : Text) : Text :=
  "Downloading from ".toList ++ url ++ ['\n']

/--
The steps after which the readers stay in agreement: a download sees its curl
fail only while there is no image; `.progress` is removed only if `.part`
exists or the download is not about to open it again; neither the address nor
curl writes an end marker.
-/
def agreeable (state : State) : Event → Bool
  | .command process _ =>
      match state.procs process with
      | .download _ (.waitCurl pid) =>
          !state.firmware.isFile imagePath ||
            !(state.curls pid).any fun curl =>
              curl.exit.any fun code => code != 0
      | .download url .announce => !endMarked (announcement url)
      | proc =>
          !proc.removesProgress || state.firmware.isFile partPath ||
            match holderProc state with
            | .download _ pc => !reopensStatus state pc
            | _ => true
  | .curl pid (.message text) =>
      !(state.curls pid).any fun curl =>
        curl.err.any fun inode =>
          state.status.link .progress = some inode &&
            endMarked (state.status.data inode ++ text)
  | _ => true

/-! ## What the progress file may contain -/

/-- The content of the progress file. -/
abbrev progressText (state : State) : Option Text :=
  state.status.read? .progress

/-- The progress file, if it exists, satisfies the condition. -/
def ProgressSatisfies (state : State) (condition : Text → Prop) : Prop :=
  ∀ text, progressText state = some text → condition text

/-- The text has an end marker as a line of its own. -/
def HasEndLine (text : Text) : Prop :=
  "Download failed!".toList ∈ TextLines.splitLines text ∨
    "Canceled!".toList ∈ TextLines.splitLines text

/-- There is no image. -/
abbrev NoImage (state : State) : Prop :=
  state.firmware.link imagePath = none

/-- A progress file is the report of a download that left no image. -/
def Settled (state : State) : Prop :=
  ProgressSatisfies state fun text =>
    NoImage state ∧ endMarked text = true

/-- What the progress file and the image may be at each download command. -/
def DownloadPc.TextAllowed (state : State) : DownloadPc → Prop
  | .clearProgress => True
  | .unlockStatus | .announce | .startCurl
  | .publishPid _ | .unlockStarted _ | .waitCurl _ =>
      ProgressSatisfies state fun text => endMarked text = false
  | .relockStatus | .markStart =>
      ProgressSatisfies state fun text =>
        endMarked text = false ∧ TextLines.EndsLine text
  | .dropPid _ | .announceDone _ | .lockMove _ | .movePart _
  | .dropProgress _ => True
  | .unlockMove _ | .leaveDone _ => progressText state = none
  | .endLine _ _ => NoImage state
  | .reportEnd _ _ =>
      NoImage state ∧ ProgressSatisfies state TextLines.EndsLine
  | .lockSed _ | .sedRead _ =>
      NoImage state ∧ ProgressSatisfies state HasEndLine
  | .sedRename _ text => NoImage state ∧ HasEndLine text
  | .flock | .lockStatus | .touchPart | .unlockSed _
  | .dropFailedPid _ | .dropPart _ | .leaveFailed _ | .finished _ _ =>
      Settled state

/-- What they may be, given the process that holds the lock. -/
def TextAllowed (state : State) : Proc → Prop
  | .download _ pc => pc.TextAllowed state
  | _ => Settled state

/-- A step that at most removes the progress file or the image. -/
structure Fewer (state next : State) : Prop where
  progress :
    progressText next = progressText state ∨ progressText next = none
  image :
    next.firmware.link imagePath = state.firmware.link imagePath ∨
      NoImage next

theorem Fewer.satisfies
    {state next : State}
    (fewer : Fewer state next)
    {condition : Text → Prop}
    (satisfied : ProgressSatisfies state condition) :
    ProgressSatisfies next condition := by
  intro text present
  rcases fewer.progress with same | absent
  · exact satisfied text (same.symm.trans present)
  · simp [absent] at present

theorem Fewer.noImage
    {state next : State}
    (fewer : Fewer state next)
    (absent : NoImage state) :
    NoImage next := by
  rcases fewer.image with same | gone
  · exact same.trans absent
  · exact gone

theorem Fewer.settled
    {state next : State}
    (fewer : Fewer state next)
    (settled : Settled state) :
    Settled next := by
  intro text present
  rcases fewer.progress with same | absent
  · obtain ⟨noImage, marked⟩ := settled text (same.symm.trans present)
    exact ⟨fewer.noImage noImage, marked⟩
  · simp [absent] at present

/-- Removals keep what may be in the progress file. -/
theorem TextAllowed.fewer
    {state next : State}
    {proc : Proc}
    (fewer : Fewer state next)
    (allowed : TextAllowed state proc) :
    TextAllowed next proc := by
  cases proc with
  | download url pc =>
      cases pc <;>
        simp only [TextAllowed, DownloadPc.TextAllowed] at allowed ⊢
      case lockStatus | touchPart | flock | unlockSed | dropFailedPid |
          dropPart | leaveFailed | finished =>
        exact fewer.settled allowed
      case unlockMove | leaveDone =>
        rcases fewer.progress with same | absent
        · exact same.trans allowed
        · exact absent
      case endLine =>
        exact fewer.noImage allowed
      case sedRename =>
        exact ⟨fewer.noImage allowed.1, allowed.2⟩
      case reportEnd | lockSed | sedRead =>
        exact ⟨fewer.noImage allowed.1, fewer.satisfies allowed.2⟩
      all_goals
        exact fewer.satisfies allowed
  | _ =>
      exact fewer.settled allowed

/-! ## Commands of checks, cancels and upgrades -/

/-- What a command of a process that does not download does to the files. -/
inductive RemoverEffect
    (state next : State)
    (process : ProcessId) :
    Prop where
  | hidden
      (firmware : next.firmware = state.firmware)
      (status : next.status = state.status)
      (past :
        ∀ pid, curlPast state pid = true → curlPast next pid = true)
      (owes :
        (state.procs process).owesProgress = true →
        (next.procs process).owesProgress = true)
  | part
      (firmware : next.firmware = state.firmware.unlink partPath)
      (status : next.status = state.status)
      (owes : (next.procs process).owesProgress = true)
  | image
      (firmware : next.firmware = state.firmware.unlink imagePath)
      (status : next.status = state.status)
      (curls : next.curls = state.curls)
      (owes :
        (state.procs process).owesProgress = true →
        (next.procs process).owesProgress = true)
  | progress
      (firmware : next.firmware = state.firmware)
      (status : next.status = state.status.unlink .progress)
      (curls : next.curls = state.curls)
      (removes : (state.procs process).removesProgress = true)

theorem curlPast_setCurl
    {state : State}
    {pid other : Pid}
    {curl replacement : Curl}
    (found : state.curls pid = some curl)
    (past :
      (curl.err.isSome || curl.exit.isSome) = true →
      (replacement.err.isSome || replacement.exit.isSome) = true)
    (before : curlPast state other = true) :
    curlPast (state.setCurl pid replacement) other = true := by
  by_cases same : other = pid
  · subst other
    simp only [curlPast, found, Option.any_some] at before
    simpa [curlPast, State.setCurl] using past before
  · simpa [curlPast, State.setCurl, same] using before

/-- The stop sequence touches no file, and no curl goes back. -/
theorem stopStep_files
    (state : State)
    (pc : StopPc) :
    (stopStep state pc).1.firmware = state.firmware ∧
      (stopStep state pc).1.status = state.status ∧
      ∀ pid,
        curlPast state pid = true →
        curlPast (stopStep state pc).1 pid = true := by
  have signalled :
      ∀ target code,
        (state.signal target code).firmware = state.firmware ∧
          (state.signal target code).status = state.status ∧
          ∀ pid,
            curlPast state pid = true →
            curlPast (state.signal target code) pid = true := by
    intro target code
    unfold State.signal
    split
    · exact ⟨rfl, rfl, fun _ => id⟩
    next curl found =>
      split
      · refine ⟨rfl, rfl, fun pid before => ?_⟩
        refine curlPast_setCurl found ?_ before
        simp
      · exact ⟨rfl, rfl, fun _ => id⟩
  cases pc with
  | testPid =>
      simp only [stopStep]
      split <;> exact ⟨rfl, rfl, fun _ => id⟩
  | probe pid =>
      cases pid with
      | none =>
          exact ⟨rfl, rfl, fun _ => id⟩
      | some pid =>
          simp only [stopStep]
          split <;> exact ⟨rfl, rfl, fun _ => id⟩
  | terminate pid =>
      exact signalled pid terminatedCode
  | kill pid =>
      exact signalled pid killedCode
  | _ =>
      exact ⟨rfl, rfl, fun _ => id⟩

theorem remover_effect
    {state next : State}
    {process : ProcessId}
    {answer : Answer}
    (notDownload : ∀ url pc, state.procs process ≠ .download url pc)
    (stepped : commandStep? state process answer = some next) :
    RemoverEffect state next process := by
  cases current : state.procs process with
  | absent =>
      simp [commandStep?, current] at stepped
  | download url pc =>
      exact absurd current (notDownload url pc)
  | check pc =>
      simp only [commandStep?, current] at stepped
      cases pc <;> cases answer <;>
        simp only [checkStep?, reduceCtorEq,
          Option.some.injEq] at stepped
      case stop.none pc =>
        cases stepped
        obtain ⟨firmware, status, past⟩ := stopStep_files state pc
        exact .hidden firmware status past
          (by simp [current, Proc.owesProgress])
      case removePart.none =>
        cases stepped
        exact .part rfl rfl (by simp [Proc.owesProgress])
      case removeProgress.none =>
        cases stepped
        exact .progress rfl rfl rfl
          (by simp [current, Proc.removesProgress])
      case flock.none =>
        split at stepped <;> cases stepped <;>
          exact .hidden rfl rfl (fun _ => id)
            (by simp [current, Proc.owesProgress])
      all_goals
        cases stepped
        exact .hidden rfl rfl (fun _ => id)
            (by simp [current, Proc.owesProgress])
  | cancel pc =>
      simp only [commandStep?, current] at stepped
      cases pc <;> cases answer <;>
        simp only [cancelStep?, reduceCtorEq,
          Option.some.injEq] at stepped
      case stop.none pc =>
        cases stepped
        obtain ⟨firmware, status, past⟩ := stopStep_files state pc
        exact .hidden firmware status past
          (by simp [current, Proc.owesProgress])
      case removePart.none =>
        cases stepped
        exact .part rfl rfl (by simp [Proc.owesProgress])
      case removeImage.none =>
        cases stepped
        exact .image rfl rfl rfl (by simp [Proc.owesProgress])
      case removeProgress.none =>
        cases stepped
        exact .progress rfl rfl rfl
          (by simp [current, Proc.removesProgress])
  | progress pc =>
      cases pc <;> simp only [commandStep?, current, reduceCtorEq,
        Option.some.injEq] at stepped
      subst next
      exact .hidden rfl rfl (fun _ => id)
            (by simp [current, Proc.owesProgress])
  | upgrade pc =>
      simp only [commandStep?, current] at stepped
      cases pc <;> cases answer <;>
        simp only [upgradeStep?, reduceCtorEq,
          Option.some.injEq] at stepped
      case openImage.none =>
        split at stepped <;> cases stepped <;>
          exact .hidden rfl rfl (fun _ => id)
            (by simp [current, Proc.owesProgress])
      case removeImage.none =>
        cases stepped
        exact .image rfl rfl rfl (by simp [current, Proc.owesProgress])
      all_goals
        cases stepped
        exact .hidden rfl rfl (fun _ => id)
            (by simp [current, Proc.owesProgress])

theorem RemoverEffect.fewer
    {state next : State}
    {process : ProcessId}
    (effect : RemoverEffect state next process) :
    Fewer state next := by
  cases effect with
  | hidden firmware status past owes =>
      exact ⟨.inl (by simp [progressText, status]),
        .inl (by simp [firmware])⟩
  | part firmware status owes =>
      refine ⟨.inl (by simp [progressText, status]), .inl ?_⟩
      rw [firmware, state.firmware.link_unlink_other (by decide)]
  | image firmware status curls owes =>
      exact ⟨.inl (by simp [progressText, status]),
        .inr (by simp [NoImage, firmware])⟩
  | progress firmware status curls removes =>
      exact ⟨.inr (by simp [progressText, status]),
        .inl (by simp [firmware])⟩

/-! ## Commands of the download that holds the lock -/

theorem holderProc_of_held
    {state : State}
    {process : ProcessId}
    (held : state.wrLock = some process) :
    holderProc state = state.procs process := by
  simp [holderProc, held]

@[simp] theorem holderProc_setProc
    {state : State}
    {process : ProcessId}
    (held : state.wrLock = some process)
    (proc : Proc) :
    holderProc (state.setProc process proc) = proc := by
  simp [holderProc, State.setProc, held]

/-- A text that ends a line and is followed by a marker line. -/
theorem hasEndLine_endMessage
    {text : Text}
    (endsLine : TextLines.EndsLine text)
    (code : Nat) :
    HasEndLine (text ++ endMessage code) := by
  unfold HasEndLine endMessage echoLine
  rw [endsLine.splitLines_append]
  split
  · right
    rw [TextLines.splitLines_singleton (by decide)]
    simp
  · left
    rw [TextLines.splitLines_singleton (by decide)]
    simp

/-- `sed` keeps a marker line: it has no carriage return. -/
theorem HasEndLine.sed
    {text : Text}
    (hasEndLine : HasEndLine text) :
    HasEndLine (dropCarriageReturnLines text) := by
  unfold HasEndLine dropCarriageReturnLines
  simp only [TextLines.splitLines_deleteLines, List.mem_filter]
  rcases hasEndLine with failed | cancelled
  · exact .inl ⟨failed, by decide⟩
  · exact .inr ⟨cancelled, by decide⟩

theorem HasEndLine.marked
    {text : Text}
    (hasEndLine : HasEndLine text) :
    endMarked text = true := by
  unfold endMarked
  rcases hasEndLine with failed | cancelled
  · rw [TextLines.occursIn_of_line failed, Bool.true_or]
  · rw [TextLines.occursIn_of_line cancelled, Bool.or_true]

theorem ProgressSatisfies.of_eq
    {state : State}
    {condition : Text → Prop}
    {text : Text}
    (content : progressText state = some text)
    (satisfied : condition text) :
    ProgressSatisfies state condition := by
  intro other present
  rw [content] at present
  cases present
  exact satisfied

theorem ProgressSatisfies.of_none
    {state : State}
    {condition : Text → Prop}
    (content : progressText state = none) :
    ProgressSatisfies state condition := by
  intro text present
  simp [content] at present

/-- What holds of the progress file holds of what `>>` finds there. -/
theorem ProgressSatisfies.getD
    {state : State}
    {condition : Text → Prop}
    (satisfied : ProgressSatisfies state condition)
    (ofEmpty : condition []) :
    condition ((progressText state).getD []) := by
  cases content : progressText state with
  | none =>
      exact ofEmpty
  | some text =>
      exact satisfied text content

/-- The lock holder's own command leaves what is allowed after it. -/
theorem downloadStep_text
    {state next : State}
    {process : ProcessId}
    {url : Text}
    {pc : DownloadPc}
    {answer : Answer}
    (held : state.wrLock = some process)
    (current : state.procs process = .download url pc)
    (allowed : pc.TextAllowed state)
    (isAgreeable : agreeable state (.command process answer) = true)
    (stepped : downloadStep? state process url pc answer = some next) :
    TextAllowed next (holderProc next) := by
  cases pc <;> cases answer <;>
    simp only [downloadStep?, lockStatus?, Option.map_eq_some_iff,
      reduceCtorEq, Option.some.injEq] at stepped
  case flock.none =>
    simp only [held] at stepped
    cases stepped
    rw [holderProc_setProc held]
    exact allowed
  case lockStatus.none | relockStatus.none | lockMove.none |
      lockSed.none =>
    obtain ⟨locked, taken, rfl⟩ := stepped
    split at taken <;> cases taken
    rw [holderProc_setProc (by exact held)]
    exact allowed
  case startCurl.launch =>
    split at stepped <;> cases stepped
    rw [holderProc_setProc (by exact held)]
    exact allowed
  case touchPart.none =>
    cases stepped
    rw [holderProc_setProc (by exact held)]
    trivial
  case clearProgress.none =>
    cases stepped
    rw [holderProc_setProc (by exact held)]
    exact .of_eq (state.status.read?_overwrite .progress ['\n'])
      (by decide)
  case announce.none =>
    cases stepped
    rw [holderProc_setProc (by exact held)]
    refine .of_eq
      (state.status.read?_overwrite .progress (announcement url)) ⟨?_, ?_⟩
    · simpa [agreeable, current] using isAgreeable
    · exact .append_newline _
  case markStart.none =>
    cases stepped
    rw [holderProc_setProc (by exact held)]
    refine .of_eq
      (state.status.read?_extend .progress (echoLine "#=#=#")) ?_
    have before :=
      ProgressSatisfies.getD allowed ⟨by decide, .inl rfl⟩
    unfold endMarked at before ⊢
    simp only [before.2.occursIn_append, Bool.or_eq_false_iff] at before ⊢
    exact ⟨⟨before.1.1, by decide⟩, before.1.2, by decide⟩
  case waitCurl.none pid =>
    obtain ⟨curl, code, found, exited, rfl⟩ := downloadStep?_waitCurl stepped
    rw [holderProc_setProc (by exact held)]
    by_cases success : code = 0
    · simp only [success, ↓reduceIte]
      trivial
    · simp only [success, ↓reduceIte]
      show NoImage state
      simpa [agreeable, current, found, exited, success,
        InodeStore.isFile] using isAgreeable
  case dropProgress.none =>
    cases stepped
    rw [holderProc_setProc (by exact held)]
    exact state.status.read?_unlink_self .progress
  case leaveDone.none =>
    cases stepped
    exact ProgressSatisfies.of_none allowed
  case leaveFailed.none =>
    cases stepped
    exact allowed
  case endLine.none =>
    cases stepped
    rw [holderProc_setProc (by exact held)]
    refine ⟨allowed, .of_eq (state.status.read?_extend .progress ['\n'])
      (.append_newline _)⟩
  case reportEnd.none pid code =>
    cases stepped
    rw [holderProc_setProc (by exact held)]
    refine ⟨allowed.1, .of_eq
      (state.status.read?_extend .progress (endMessage code)) ?_⟩
    exact hasEndLine_endMessage (allowed.2.getD (.inl rfl)) code
  case sedRead.none =>
    split at stepped
    next absent =>
      cases stepped
      rw [holderProc_setProc held]
      exact ProgressSatisfies.of_none absent
    next text content =>
      cases stepped
      rw [holderProc_setProc held]
      exact ⟨allowed.1, (allowed.2 text content).sed⟩
  case sedRename.none pid text =>
    cases stepped
    rw [holderProc_setProc (by exact held)]
    exact ProgressSatisfies.of_eq
      ((state.status.unlink .progress).read?_overwrite .progress text)
      ⟨allowed.1, allowed.2.marked⟩
  case dropPart.none =>
    cases stepped
    rw [holderProc_setProc (by exact held)]
    intro text content
    obtain ⟨noImage, marked⟩ := allowed text content
    refine ⟨?_, marked⟩
    exact (state.firmware.link_unlink_other (by decide)).trans noImage
  all_goals
    cases stepped
    rw [holderProc_setProc (by exact held)]
    exact allowed

/-! ## Every step -/

theorem stage_eq_holderProc (state : State) :
    (abstraction state).stage = (holderProc state).stage := by
  unfold abstraction holderProc
  cases state.wrLock <;> rfl

/-- A running curl belongs to the download that holds the lock. -/
theorem holder_of_live
    {state : State}
    (coherent : (abstraction state).Coherent)
    {pid : Pid}
    {curl : Curl}
    (found : state.curls pid = some curl)
    (live : curl.exit = none) :
    ∃ url pc,
      holderProc state = .download url pc ∧ pc.stage = .running pid := by
  have stage :=
    (coherent.transfers (abstraction_transfers found)).live live
  rw [stage_eq_holderProc] at stage
  cases holder : holderProc state with
  | download url pc =>
      rw [holder] at stage
      exact ⟨url, pc, rfl, stage⟩
  | _ =>
      simp [holder, Proc.stage] at stage

theorem textAllowed_running
    {state : State}
    {pc : DownloadPc}
    {pid : Pid}
    (running : pc.stage = .running pid) :
    pc.TextAllowed state =
      ProgressSatisfies state fun text => endMarked text = false := by
  cases pc <;> first | rfl | cases running

theorem settled_of_allowed
    {state : State}
    {proc : Proc}
    (notDownload : ∀ url pc, proc ≠ .download url pc)
    (allowed : TextAllowed state proc) :
    Settled state := by
  cases proc with
  | download url pc =>
      exact absurd rfl (notDownload url pc)
  | _ =>
      exact allowed

theorem allowed_of_settled
    {state : State}
    {proc : Proc}
    (notDownload : ∀ url pc, proc ≠ .download url pc)
    (settled : Settled state) :
    TextAllowed state proc := by
  cases proc with
  | download url pc =>
      exact absurd rfl (notDownload url pc)
  | _ =>
      exact settled

/-- A download that takes a step holds the lock, or tries to take it. -/
theorem download_step_cases
    {state next : State}
    {process : ProcessId}
    {url : Text}
    {pc : DownloadPc}
    {answer : Answer}
    (lockHeld : LockHeld state)
    (current : state.procs process = .download url pc)
    (stepped : downloadStep? state process url pc answer = some next) :
    state.wrLock = some process ∨
      (∃ other,
        state.wrLock = some other ∧
          other ≠ process ∧
          next = state.setProc process (.download url (.finished none 1))) ∨
      state.wrLock = none ∧
        next =
          State.setProc
            { state with wrLock := some process, latest := some process }
            process (.download url .lockStatus) := by
  by_cases passed : pc = .flock
  · subst pc
    have outside : state.wrLock ≠ some process := by
      intro held
      have active := lockHeld.active held
      simp [current, Proc.holdsLock] at active
    cases answer <;> simp only [downloadStep?, reduceCtorEq] at stepped
    split at stepped
    next other held =>
      cases stepped
      refine .inr (.inl ⟨other, held, ?_, rfl⟩)
      rintro rfl
      exact outside held
    next free =>
      cases stepped
      exact .inr (.inr ⟨free, rfl⟩)
  · refine .inl (lockHeld.holder ?_)
    rw [current]
    exact holdsLock_of_downloadStep stepped passed

/-- A process that does not download keeps not downloading. -/
theorem notDownload_step
    {state next : State}
    {process : ProcessId}
    {answer : Answer}
    (notDownload : ∀ url pc, state.procs process ≠ .download url pc)
    (stepped : commandStep? state process answer = some next) :
    ∀ url pc, next.procs process ≠ .download url pc := by
  intro url pc later
  have operation := (commandStep_frame stepped).operation
  rw [later] at operation
  cases current : state.procs process with
  | download earlierUrl earlierPc =>
      exact notDownload earlierUrl earlierPc current
  | _ =>
      simp [current, Proc.operation?] at operation

/-- The holder seen before and after a step of another kind of process. -/
theorem holderProc_remover
    {state next : State}
    {process : ProcessId}
    {answer : Answer}
    (lockHeld : LockHeld state)
    (notDownload : ∀ url pc, state.procs process ≠ .download url pc)
    (stepped : commandStep? state process answer = some next) :
    holderProc next = holderProc state ∨
      (∀ url pc, holderProc state ≠ .download url pc) ∧
        ∀ url pc, holderProc next ≠ .download url pc := by
  obtain ⟨others, _, lock⟩ := commandStep_frame stepped
  have notDownloadNext := notDownload_step notDownload stepped
  rcases lock with ⟨sameLock, _⟩ | ⟨free, _, taken⟩ |
    ⟨held, _, nowFree⟩
  · unfold holderProc
    rw [sameLock]
    cases holder : state.wrLock with
    | none =>
        exact .inl rfl
    | some other =>
        by_cases same : other = process
        · subst other
          exact .inr ⟨notDownload, notDownloadNext⟩
        · exact .inl (others same)
  · refine .inr ⟨?_, ?_⟩
    · simp [holderProc, free]
    · rw [holderProc_of_held taken]
      exact notDownloadNext
  · refine .inr ⟨?_, ?_⟩
    · rw [holderProc_of_held (lockHeld.holder held)]
      exact notDownload
    · simp [holderProc, nowFree]

/-- What a curl writes keeps what the lock holder needs. -/
theorem curlStep_text
    {state next : State}
    {pid : Pid}
    {act : CurlAct}
    (coherent : (abstraction state).Coherent)
    (allowed : TextAllowed state (holderProc state))
    (isAgreeable : agreeable state (.curl pid act) = true)
    (stepped : curlStep? state pid act = some next) :
    TextAllowed next (holderProc state) := by
  obtain ⟨curl, found, live, step⟩ := curlStep_of_curlStep? stepped
  obtain ⟨url, pc, holder, running⟩ := holder_of_live coherent found live
  rw [holder] at allowed ⊢
  simp only [TextAllowed, textAllowed_running running] at allowed ⊢
  cases step with
  | openErr unopened =>
      refine .of_eq (state.status.read?_openAppend .progress) ?_
      exact allowed.getD (by decide)
  | @message inode text opened =>
      intro content present
      have appended := state.status.read?_append inode text .progress
      rw [show (state.status.append inode text).read? .progress =
        some content from present] at appended
      split at appended
      next linked =>
        cases appended
        simpa [agreeable, found, opened, linked] using isAgreeable
      next elsewhere =>
        exact allowed content appended.symm
  | _ =>
      exact allowed

end RecomputerGateway.Ota
