import RecomputerGateway.OtaStatusText

namespace RecomputerGateway.Ota

/-!
# Where `.part` is while a download is under way

Checks and cancels remove `.part` before they remove the progress file.  In
between, and when the download opens the progress file again afterwards, the
two files contradict each other.
-/

/-- From `echo > .progress` to `wait`, where `.part` should exist. -/
def DownloadPc.keepsPart : DownloadPc → Bool
  | .clearProgress => true
  | .unlockStatus => true
  | .announce => true
  | .relockStatus => true
  | .markStart => true
  | .startCurl => true
  | .publishPid _ => true
  | .unlockStarted _ => true
  | .waitCurl _ => true
  | _ => false

/-- Some check or cancel is between its two removals. -/
def ProgressOwed (state : State) : Prop :=
  ∃ process, (state.procs process).owesProgress = true

/--
While a download is under way, `.part` exists, or whoever removed it is still
to remove the progress file, or did so for good.
-/
def PartKept (state : State) : Proc → Prop
  | .download _ pc =>
      pc.keepsPart = true →
      state.firmware.link partPath ≠ none ∨
        ProgressOwed state ∨
        reopensStatus state pc = false ∧ progressText state = none
  | _ => True

theorem reopensStatus_mono
    {state next : State}
    (past :
      ∀ pid, curlPast state pid = true → curlPast next pid = true)
    {pc : DownloadPc}
    (opened : reopensStatus state pc = false) :
    reopensStatus next pc = false := by
  cases pc <;> first
    | rfl
    | cases opened
    | simp only [reopensStatus, Bool.not_eq_false'] at opened ⊢
      exact past _ opened

theorem ProgressOwed.step
    {state next : State}
    {process : ProcessId}
    (owed : ProgressOwed state)
    (others :
      ∀ {other},
        other ≠ process →
        next.procs other = state.procs other)
    (owes :
      (state.procs process).owesProgress = true →
      (next.procs process).owesProgress = true) :
    ProgressOwed next := by
  obtain ⟨other, owing⟩ := owed
  by_cases same : other = process
  · subst other
    exact ⟨process, owes owing⟩
  · exact ⟨other, by rwa [others same]⟩

/-- A step that changes neither `.part` nor the progress file. -/
theorem PartKept.same
    {state next : State}
    {proc : Proc}
    (kept : PartKept state proc)
    (part :
      next.firmware.link partPath = state.firmware.link partPath)
    (progress : progressText next = progressText state)
    (past :
      ∀ pid, curlPast state pid = true → curlPast next pid = true)
    (owed : ProgressOwed state → ProgressOwed next) :
    PartKept next proc := by
  cases proc with
  | download url pc =>
      intro keeps
      rcases kept keeps with exists' | owing | ⟨opened, absent⟩
      · exact .inl (by rwa [part])
      · exact .inr (.inl (owed owing))
      · exact .inr (.inr
          ⟨reopensStatus_mono past opened, progress.trans absent⟩)
  | _ =>
      trivial

/-- A check, cancel or upgrade keeps `.part`, or accounts for it. -/
theorem partKept_remover
    {state next : State}
    {process : ProcessId}
    {answer : Answer}
    (kept : PartKept state (holderProc state))
    (isAgreeable : agreeable state (.command process answer) = true)
    (notDownload : ∀ url pc, state.procs process ≠ .download url pc)
    (stepped : commandStep? state process answer = some next) :
    PartKept next (holderProc state) := by
  have frame := commandStep_frame stepped
  cases remover_effect notDownload stepped with
  | hidden firmware status past owes =>
      exact kept.same (by rw [firmware]) (by simp [progressText, status])
        past (fun owed => owed.step frame.others owes)
  | part firmware status owes =>
      cases holderProc state with
      | download url pc =>
          exact fun _ => .inr (.inl ⟨process, owes⟩)
      | _ =>
          trivial
  | image firmware status curls owes =>
      refine kept.same ?_ (by simp [progressText, status]) ?_
        (fun owed => owed.step frame.others owes)
      · rw [firmware, state.firmware.link_unlink_other (by decide)]
      · simp [curlPast, curls]
  | progress firmware status curls removes =>
      cases holder : holderProc state with
      | download url pc =>
          intro keeps
          by_cases part : state.firmware.link partPath = none
          · -- The guard lets this happen only when nothing reopens the file.
            refine .inr (.inr ⟨?_, by simp [progressText, status]⟩)
            have opened : reopensStatus state pc = false := by
              unfold agreeable at isAgreeable
              cases current : state.procs process with
              | download otherUrl otherPc =>
                  exact absurd current (notDownload otherUrl otherPc)
              | _ =>
                  simp_all [InodeStore.isFile]
            exact reopensStatus_mono (by simp [curlPast, curls]) opened
          · exact .inl (by rwa [firmware])
      | _ =>
          trivial

/-- The lock holder goes on without touching `.part`. -/
theorem PartKept.advance
    {state next : State}
    {url : Text}
    {pc later : DownloadPc}
    (kept : PartKept state (.download url pc))
    (keeps : pc.keepsPart = true)
    (part :
      next.firmware.link partPath = state.firmware.link partPath)
    (owed : ProgressOwed state → ProgressOwed next)
    (rest :
      reopensStatus state pc = false →
      progressText state = none →
      reopensStatus next later = false ∧ progressText next = none) :
    PartKept next (.download url later) := by
  intro _
  rcases kept keeps with exists' | owing | ⟨opened, absent⟩
  · exact .inl (by rwa [part])
  · exact .inr (.inl (owed owing))
  · exact .inr (.inr (rest opened absent))

/-- A command of the lock holder keeps `.part`, or has created it. -/
theorem partKept_download
    {state next : State}
    {process : ProcessId}
    {url : Text}
    {pc : DownloadPc}
    {answer : Answer}
    (held : state.wrLock = some process)
    (current : state.procs process = .download url pc)
    (kept : PartKept state (.download url pc))
    (stepped : downloadStep? state process url pc answer = some next) :
    PartKept next (holderProc next) := by
  have command : commandStep? state process answer = some next := by
    simpa [commandStep?, current] using stepped
  have frame := commandStep_frame command
  have owed : ProgressOwed state → ProgressOwed next :=
    fun owing =>
      owing.step frame.others (by simp [current, Proc.owesProgress])
  cases pc <;> cases answer <;>
    simp only [downloadStep?, lockStatus?, Option.map_eq_some_iff,
      reduceCtorEq, Option.some.injEq] at stepped
  case flock.none =>
    simp only [held] at stepped
    cases stepped
    rw [holderProc_setProc held]
    exact fun keeps => by cases keeps
  case touchPart.none =>
    cases stepped
    rw [holderProc_setProc (by exact held)]
    intro _
    have isSome := state.firmware.link_touch_isSome partPath
    exact .inl (Option.isSome_iff_ne_none.mp isSome)
  case relockStatus.none =>
    obtain ⟨locked, taken, rfl⟩ := stepped
    split at taken <;> cases taken
    rw [holderProc_setProc (by exact held)]
    exact kept.advance rfl rfl owed (fun opened => by cases opened)
  case lockStatus.none | lockMove.none | lockSed.none =>
    obtain ⟨locked, taken, rfl⟩ := stepped
    split at taken <;> cases taken
    rw [holderProc_setProc (by exact held)]
    exact fun keeps => by cases keeps
  case startCurl.launch =>
    split at stepped <;> cases stepped
    rw [holderProc_setProc (by exact held)]
    exact kept.advance rfl rfl owed (fun opened => by cases opened)
  case clearProgress.none | unlockStatus.none | announce.none |
      markStart.none =>
    cases stepped
    rw [holderProc_setProc (by exact held)]
    exact kept.advance rfl rfl owed (fun opened => by cases opened)
  case publishPid.none | unlockStarted.none =>
    cases stepped
    rw [holderProc_setProc (by exact held)]
    exact kept.advance rfl rfl owed (fun opened absent => ⟨opened, absent⟩)
  case waitCurl.none pid =>
    obtain ⟨curl, code, -, -, rfl⟩ := downloadStep?_waitCurl stepped
    rw [holderProc_setProc (by exact held)]
    split <;> exact fun keeps => by cases keeps
  case leaveDone.none | leaveFailed.none =>
    cases stepped
    trivial
  case sedRead.none =>
    split at stepped <;> cases stepped <;>
      rw [holderProc_setProc (by exact held)] <;>
      exact fun keeps => by cases keeps
  all_goals
    cases stepped
    rw [holderProc_setProc (by exact held)]
    exact fun keeps => by cases keeps

/-- What a curl does to `.part` and to the progress file. -/
theorem partKept_curl
    {state next : State}
    {pid : Pid}
    {act : CurlAct}
    (coherent : (abstraction state).Coherent)
    (kept : PartKept state (holderProc state))
    (stepped : curlStep? state pid act = some next) :
    PartKept next (holderProc state) := by
  have sameProcs := (curlStep_frame stepped).2.1
  have owed : ProgressOwed state → ProgressOwed next := by
    rintro ⟨process, owing⟩
    exact ⟨process, by rwa [sameProcs]⟩
  obtain ⟨curl, found, live, step⟩ := curlStep_of_curlStep? stepped
  obtain ⟨url, pc, holder, running⟩ := holder_of_live coherent found live
  cases step with
  | openErr unopened =>
      rw [holder] at kept ⊢
      intro keeps
      have notPast : curlPast state pid = false := by
        simp [curlPast, found, unopened, live]
      have reopens : reopensStatus state pc = true := by
        cases pc <;> simp_all [DownloadPc.stage, reopensStatus]
      rcases kept keeps with exists' | owing | ⟨opened, _⟩
      · exact .inl exists'
      · exact .inr (.inl (owed owing))
      · simp [reopens] at opened
  | @message inode text opened =>
      cases isHolder : holderProc state with
      | download url pc =>
          intro keeps
          rw [isHolder] at kept
          rcases kept keeps with exists' | owing | ⟨opened, absent⟩
          · exact .inl exists'
          · exact .inr (.inl (owed owing))
          · refine .inr (.inr ⟨opened, ?_⟩)
            have unlinked : state.status.link .progress = none := by
              simpa [progressText, InodeStore.read?] using absent
            simp [progressText, InodeStore.read?, unlinked]
      | _ =>
          trivial
  | openOutput errOpened unopened =>
      rw [holder]
      intro _
      have linked := (state.firmware.openTruncate_spec partPath).1
      exact .inl (by simp [linked])
  | write output within =>
      refine kept.same rfl rfl (fun other before => ?_) owed
      refine curlPast_setCurl found ?_ before
      exact id
  | exit complete =>
      refine kept.same rfl rfl (fun other before => ?_) owed
      refine curlPast_setCurl found ?_ before
      simp

end RecomputerGateway.Ota
