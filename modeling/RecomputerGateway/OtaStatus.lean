import RecomputerGateway.OtaImage
import RecomputerGateway.OtaStatusPart

namespace RecomputerGateway.Ota

/-!
# When the two status readers agree

The readers agree on a progress file without an end marker as long as `.part`
exists, and on one with an end marker as long as neither `.part` nor an image
exists.  The processes keep to this, except that a download may fail while an
older image exists, that a check or a cancel may remove `.part` before the
download's curl has opened its files, and that the address or curl may write
an end marker themselves.
-/

/-- What the lock holder may rely on about the status files. -/
structure StatusKept (state : State) : Prop where
  text : TextAllowed state (holderProc state)
  part : PartKept state (holderProc state)

theorem StatusKept.booted : StatusKept booted where
  text := by
    intro text present
    simp [progressText, Ota.booted, InodeStore.read?,
      InodeStore.empty] at present
  part := trivial

theorem StatusKept.request
    {state : State}
    {process : ProcessId}
    (lockHeld : LockHeld state)
    (kept : StatusKept state)
    (isAbsent : state.procs process = .absent)
    (operation : Operation) :
    StatusKept (state.setProc process operation.enter) := by
  have sameHolder :
      holderProc (state.setProc process operation.enter) =
        holderProc state := by
    unfold holderProc State.setProc
    cases held : state.wrLock with
    | none =>
        rfl
    | some holder =>
        have different : holder ≠ process := by
          rintro rfl
          have active := lockHeld.active held
          simp [isAbsent, Proc.holdsLock] at active
        simp [different]
  have owed :
      ProgressOwed state →
        ProgressOwed (state.setProc process operation.enter) :=
    fun owing =>
      owing.step (fun different => procs_setProc_other state different _)
        (by simp [isAbsent, Proc.owesProgress])
  constructor
  · rw [sameHolder]
    exact kept.text
  · rw [sameHolder]
    exact kept.part.same rfl rfl (fun _ => id) owed

theorem StatusKept.download
    {state next : State}
    {process : ProcessId}
    {url : Text}
    {pc : DownloadPc}
    {answer : Answer}
    (lockHeld : LockHeld state)
    (kept : StatusKept state)
    (isAgreeable : agreeable state (.command process answer) = true)
    (current : state.procs process = .download url pc)
    (stepped : downloadStep? state process url pc answer = some next) :
    StatusKept next := by
  obtain ⟨text, part⟩ := kept
  rcases download_step_cases lockHeld current stepped with
      held | ⟨other, held, different, rfl⟩ | ⟨free, rfl⟩
  · rw [holderProc_of_held held, current] at text part
    exact ⟨downloadStep_text held current text isAgreeable stepped,
      partKept_download held current part stepped⟩
  · have sameHolder :
        holderProc
            (state.setProc process (.download url (.finished none 1))) =
          holderProc state := by
      simp [holderProc, State.setProc, held, different]
    have owed :
        ProgressOwed state →
          ProgressOwed
            (state.setProc process
              (.download url (.finished none 1))) :=
      fun owing =>
        owing.step (fun apart => procs_setProc_other state apart _)
          (by simp [current, Proc.owesProgress])
    constructor
    · rw [sameHolder]
      exact text
    · rw [sameHolder]
      exact part.same rfl rfl (fun _ => id) owed
  · have settled : Settled state :=
      settled_of_allowed (by simp [holderProc, free]) text
    constructor
    · rw [holderProc_setProc rfl]
      exact settled
    · rw [holderProc_setProc rfl]
      exact fun keeps => by cases keeps

theorem StatusKept.remover
    {state next : State}
    {process : ProcessId}
    {answer : Answer}
    (lockHeld : LockHeld state)
    (kept : StatusKept state)
    (isAgreeable : agreeable state (.command process answer) = true)
    (notDownload : ∀ url pc, state.procs process ≠ .download url pc)
    (stepped : commandStep? state process answer = some next) :
    StatusKept next := by
  have fewer := (remover_effect notDownload stepped).fewer
  rcases holderProc_remover lockHeld notDownload stepped with
      same | ⟨before, after⟩
  · constructor
    · rw [same]
      exact kept.text.fewer fewer
    · rw [same]
      exact partKept_remover kept.part isAgreeable notDownload stepped
  · constructor
    · exact allowed_of_settled after
        (fewer.settled (settled_of_allowed before kept.text))
    · cases holder : holderProc next with
      | download url pc =>
          exact absurd holder (after url pc)
      | _ =>
          trivial

/-- Every agreeable step keeps the invariant. -/
theorem StatusKept.step
    {state next : State}
    {event : Event}
    (lockHeld : LockHeld state)
    (coherent : (abstraction state).Coherent)
    (kept : StatusKept state)
    (isAgreeable : agreeable state event = true)
    (stepped : step? state event = some next) :
    StatusKept next := by
  cases event with
  | request process operation =>
      simp only [step?] at stepped
      split at stepped
      next isAbsent =>
        cases stepped
        exact kept.request lockHeld isAbsent operation
      · cases stepped
  | command process answer =>
      by_cases isDownload :
          ∃ url pc, state.procs process = .download url pc
      · obtain ⟨url, pc, current⟩ := isDownload
        simp only [step?, commandStep?, current] at stepped
        exact kept.download lockHeld isAgreeable current stepped
      · exact kept.remover lockHeld isAgreeable
          (fun url pc current => isDownload ⟨url, pc, current⟩) stepped
  | curl pid act =>
      obtain ⟨sameLock, sameProcs, _⟩ := curlStep_frame stepped
      have sameHolder : holderProc next = holderProc state := by
        unfold holderProc
        rw [sameLock, sameProcs]
      constructor
      · rw [sameHolder]
        exact curlStep_text coherent kept.text isAgreeable stepped
      · rw [sameHolder]
        exact partKept_curl coherent kept.part stepped

theorem statusKept_of_reachable
    {state : State}
    (reachable :
      system.GuardedReachable
        (fun current event => agreeable current event = true) state) :
    StatusKept state := by
  refine reachable.invariant _ ?_ ?_
  · rintro initial rfl
    exact StatusKept.booted
  · intro current event next currentReachable kept isAgreeable stepped
    exact kept.step (lockHeld_of_reachable currentReachable)
      (coherent_of_reachable currentReachable) isAgreeable stepped

/-! ## Between the step sequences -/

/-- The process is not in the middle of a step sequence. -/
def Proc.atRest : Proc → Bool
  | .absent => true
  | .check (.finished _) => true
  | .download _ (.waitCurl _) => true
  | .download _ (.finished _ _) => true
  | .cancel .finished => true
  | .progress .finished => true
  | .upgrade (.finished _) => true
  | _ => false

/-- No process of the script is in the middle of a step sequence. -/
def Quiescent (state : State) : Prop :=
  ∀ process, (state.procs process).atRest = true

/-- A process at rest that holds the lock waits for its curl. -/
theorem waiting_of_holder
    {proc : Proc}
    (rests : proc.atRest = true)
    (holds : proc.holdsLock = true) :
    ∃ url pid, proc = .download url (.waitCurl pid) := by
  cases proc with
  | download url pc =>
      cases pc <;> simp [Proc.atRest, Proc.holdsLock] at rests holds ⊢
  | check pc =>
      cases pc <;> simp [Proc.atRest, Proc.holdsLock] at rests holds
  | _ =>
      cases holds

/--
In runs all of whose steps are agreeable, the two readers agree in every state
in which no process is in the middle of a step sequence.
-/
theorem readers_agree
    {state : State}
    (reachable :
      system.GuardedReachable
        (fun current event => agreeable current event = true) state)
    (quiescent : Quiescent state) :
    ReadersAgree state.statusFiles := by
  rw [readersAgree_iff]
  intro text present
  obtain ⟨allowed, kept⟩ := statusKept_of_reachable reachable
  have lockHeld := lockHeld_of_reachable reachable
  cases held : state.wrLock with
  | none =>
      have noPart : state.firmware.link partPath = none :=
        (coherent_of_reachable reachable).temporary_absent
          (.inl ((coherent_of_reachable reachable).unheld held))
      simp only [holderProc, held] at allowed
      obtain ⟨noImage, marked⟩ := allowed text present
      simp only [State.statusFiles, InodeStore.isFile, noPart,
        Option.isSome_none, Bool.false_eq_true, ↓reduceIte]
      exact ⟨by simp [show state.firmware.link imagePath = none from
        noImage], marked⟩
  | some process =>
      obtain ⟨url, pid, waiting⟩ :=
        waiting_of_holder (quiescent process) (lockHeld.active held)
      rw [holderProc_of_held held, waiting] at allowed kept
      have unmarked := allowed text present
      have notOwed : ¬ ProgressOwed state := by
        rintro ⟨other, owing⟩
        have rests := quiescent other
        cases current : state.procs other with
        | check pc =>
            cases pc <;> simp_all [Proc.owesProgress, Proc.atRest]
        | cancel pc =>
            cases pc <;> simp_all [Proc.owesProgress, Proc.atRest]
        | _ =>
            simp [current, Proc.owesProgress] at owing
      have part : state.firmware.link partPath ≠ none := by
        rcases kept rfl with part | owed | ⟨_, absent⟩
        · exact part
        · exact absurd owed notOwed
        · rw [show progressText state = some text from present] at absent
          cases absent
      have isPart : state.statusFiles.part = true :=
        Option.isSome_iff_ne_none.mpr part
      rw [isPart]
      exact unmarked

/-- A quiescent state, from the processes that were ever started. -/
theorem quiescent_of_run
    {state : State}
    {events : List Event}
    {bound : Nat}
    (run : system.Run booted events state)
    (below : ∀ event ∈ events, event.requestsBelow bound = true)
    (rests :
      (List.range bound).all
        (fun process => (state.procs process).atRest) = true) :
    Quiescent state := by
  have absent :=
    (run.restrict below).invariant
      (fun current =>
        ∀ process ≥ bound, current.procs process = .absent)
      (fun _ _ _ absent guarded stepped =>
        absent_step absent guarded.2 stepped)
      (fun _ _ => rfl)
  intro process
  by_cases listed : process < bound
  · exact List.all_eq_true.mp rests process (List.mem_range.mpr listed)
  · rw [absent process (Nat.not_lt.mp listed)]
    rfl

/-- A download is under way, and curl has drawn its progress bar. -/
def downloadingRun : List Event :=
  startDownload 0 [] 100 [1, 2] ++
    [.curl 100 .openErr, .curl 100 .openOutput,
      .curl 100 (.message "# 12.5%".toList), .curl 100 (.write 1)]

theorem readers_agree_of_run :
    ∃ state,
      system.run? booted downloadingRun = some state ∧
        (doProgress state.statusFiles).code = 1 ∧
        ReadersAgree state.statusFiles := by
  have executed :
      ((system.runWhile? agreeable booted downloadingRun).map fun state =>
        (List.range 1).all (fun process => (state.procs process).atRest) &&
          decide ((doProgress state.statusFiles).code = 1)) =
        some true := by
    decide +kernel
  obtain ⟨state, reached, ends⟩ := Option.map_eq_some_iff.mp executed
  obtain ⟨rests, code⟩ := Bool.and_eq_true_iff.mp ends
  have run :=
    System.guardedRun_of_runWhile?
      (fun current event => agreeable current event = true)
      (fun _ _ => id) reached
  have quiescent := quiescent_of_run run.forget (by decide) rests
  exact ⟨state, System.run?_eq_some_iff.mpr run.forget,
    of_decide_eq_true code,
    readers_agree ⟨booted, _, rfl, run⟩ quiescent⟩

/-- A download succeeds, nobody installs its image, and the next one fails. -/
def failedAfterSuccessRun : List Event :=
  completeRun ++ startDownload 3 [] 101 [3] ++
    [.curl 101 .openErr, .curl 101 (.exit 22)] ++ runCommands 3 10

theorem readers_disagree :
    ∃ state,
      system.Reachable state ∧
        Quiescent state ∧
        (doProgress state.statusFiles).code = 0 ∧
        (daemonPass state.statusFiles).status = .failed ∧
        ¬ ReadersAgree state.statusFiles := by
  have executed :
      ((system.run? booted failedAfterSuccessRun).map fun state =>
        (List.range 4).all (fun process => (state.procs process).atRest) &&
          decide ((doProgress state.statusFiles).code = 0) &&
          decide ((daemonPass state.statusFiles).status = .failed)) =
        some true := by
    decide +kernel
  obtain ⟨state, reached, ends⟩ := Option.map_eq_some_iff.mp executed
  simp only [Bool.and_eq_true, decide_eq_true_eq] at ends
  obtain ⟨⟨rests, code⟩, status⟩ := ends
  have run := System.run?_eq_some_iff.mp reached
  refine ⟨state, ⟨booted, _, rfl, run⟩,
    quiescent_of_run run (by decide) rests, code, status, ?_⟩
  simp [ReadersAgree, code, status, DaemonStatus.progressCode]

end RecomputerGateway.Ota
