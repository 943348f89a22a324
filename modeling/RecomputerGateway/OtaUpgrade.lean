import RecomputerGateway.OtaCancel

namespace RecomputerGateway.Ota

/-!
# When an upgrade is not stale

A download neither removes the image of an earlier download when it starts nor
when it fails.  So an upgrade may extract an image that the latest download
did not fetch.  It never does in runs where a download takes the lock only
while there is no image, and where a cancel finds the lock holder started.
-/

/-- The inode was fetched by the download that took the lock last. -/
def FetchedByLatest (state : State) (inode : Nat) : Prop :=
  ∃ pid curl,
    state.curls pid = some curl ∧
      curl.exit = some 0 ∧
      curl.out = some inode ∧
      state.latest = some curl.owner

/-- A download that is still to publish its image, or has failed to. -/
def DownloadPc.unpublished (pc : DownloadPc) : Bool :=
  match pc.stage with
  | .closed => pc.outcome? = some false
  | .moved _ => false
  | _ => true

/--
A download takes the lock only while there is no image, and a cancel removes
`.part` only after the lock holder has started its transfer.
-/
def careful (state : State) : Event → Bool
  | .command process _ =>
      match state.procs process with
      | .download _ .flock =>
          state.wrLock.isSome || !state.firmware.isFile imagePath
      | .cancel .removePart => holderStarted state
      | _ => true
  | _ => true

/-- The run up to `state` is careful and no download takes the lock in it. -/
def CarefulUntaken (start : State) (events : List Event) (state : State) :
    Prop :=
  system.GuardedRun
    (fun current event =>
      careful current event = true ∧ ¬ TakesLock current event)
    start events state

/--
The latest download was cancelled: some cancel began after this download took
the lock, and has returned.
-/
def LatestCancelled (state : State) : Prop :=
  ∃ canceller start events,
    system.Reachable start ∧
      start.procs canceller = .cancel (.stop .testPid) ∧
      CarefulUntaken start events state ∧
      state.procs canceller = .cancel .finished

/-- Every upgrade that looks for the image now reports that there is none. -/
def UpgradeFindsNothing (state : State) : Prop :=
  ∀ process answer next,
    system.step? state (.command process answer) = some next →
    state.procs process = .upgrade .testImage →
    next.procs process = .upgrade (.finished .noFirmware)

theorem upgradeFindsNothing_of_absent
    {state : State}
    (absent : state.firmware.link imagePath = none) :
    UpgradeFindsNothing state := by
  intro process answer next stepped testing
  simp only [system, step?, commandStep?, testing] at stepped
  cases answer <;> simp only [upgradeStep?, reduceCtorEq,
    Option.some.injEq] at stepped
  subst next
  simp [InodeStore.isFile, absent]

/-- In careful runs the image is the work of the latest download. -/
theorem current_of_careful
    {state : State}
    (reachable :
      system.GuardedReachable
        (fun current event => careful current event = true) state) :
    (abstraction state).Current := by
  refine reachable.invariant
    (fun current => (abstraction current).Current) ?_ ?_
  · rintro initial rfl
    exact RenamePublish.State.Current.start
  · intro state event next stateReachable current isCareful stepped
    rcases abstraction_step (lockHeld_of_reachable stateReachable)
        stepped with hidden | ⟨action, labelled, visible⟩
    · rwa [hidden]
    · refine current.step (coherent_of_reachable stateReachable)
        ?_ visible
      rintro writer rfl
      obtain ⟨answer, url, rfl, waiting, free⟩ := cause_of_label labelled
      show state.firmware.link imagePath = none
      simpa [careful, waiting, free, InodeStore.isFile] using isCareful

/-- A download at a stage other than `closed` holds the lock. -/
theorem holdsLock_of_stage
    {url : Text}
    {pc : DownloadPc}
    (notClosed : pc.stage ≠ .closed) :
    (Proc.download url pc).holdsLock = true := by
  cases pc <;> first | rfl | exact absurd rfl notClosed

/-- A download whose curl failed owns no curl that succeeded. -/
theorem failed_owns_no_success
    {state : State}
    (attached : Attached state)
    {url : Text}
    {pc : DownloadPc}
    {pid : Pid}
    {curl : Curl}
    (found : state.curls pid = some curl)
    (succeeded : curl.exit = some 0)
    (downloading : state.procs curl.owner = .download url pc) :
    pc.outcome? ≠ some false := by
  intro failed
  obtain ⟨ownerUrl, ownerPc, owner, started⟩ := attached.owned found
  rw [downloading] at owner
  cases owner
  obtain ⟨seen, seenFound, _, known⟩ :=
    attached.seen downloading started
  rw [found] at seenFound
  cases seenFound
  obtain ⟨code, exited, isFailure⟩ := known false failed
  rw [succeeded] at exited
  cases exited
  cases isFailure

/-- While the latest download is unpublished there is no image. -/
theorem absent_of_unpublished
    {state : State}
    (reachable :
      system.GuardedReachable
        (fun current event => careful current event = true) state)
    {downloader : ProcessId}
    {url : Text}
    {pc : DownloadPc}
    (latest : state.latest = some downloader)
    (downloading : state.procs downloader = .download url pc)
    (unpublished : pc.unpublished = true) :
    state.firmware.link imagePath = none := by
  have current := current_of_careful reachable
  by_cases isClosed : pc.stage = .closed
  · simp only [DownloadPc.unpublished, isClosed,
      decide_eq_true_eq] at unpublished
    cases shape : state.firmware.link imagePath with
    | none =>
        rfl
    | some inode =>
        -- The image would be the work of the download that failed.
        obtain ⟨pid, transfer, found, succeeded, _, isLatest⟩ :=
          current.final shape
        obtain ⟨curl, curlFound, rfl⟩ := Option.map_eq_some_iff.mp found
        have sameOwner := latest.symm.trans isLatest
        cases sameOwner
        exact absurd unpublished
          (failed_owns_no_success (attached_of_reachable reachable)
            curlFound succeeded downloading)
  · have holds :
        (state.procs downloader).holdsLock = true := by
      rw [downloading]
      exact holdsLock_of_stage isClosed
    have stage : (abstraction state).stage = pc.stage := by
      rw [stage_of_holder ((lockHeld_of_reachable reachable).holder holds),
        downloading]
      rfl
    refine current.pending (by rwa [stage]) ?_
    intro pid isMoved
    rw [stage] at isMoved
    simp [DownloadPc.unpublished, isMoved] at unpublished

/-- Once a cancel of the latest download has returned there is no image. -/
theorem absent_of_cancelled
    {state : State}
    (cancelled : LatestCancelled state) :
    state.firmware.link imagePath = none := by
  obtain ⟨canceller, start, events, reachable, begun, run, returned⟩ :=
    cancelled
  have reached : CancelReached state (state.procs canceller) := by
    refine System.GuardedReachable.run_invariant
      (fun current =>
        CancelReached current (current.procs canceller))
      ?_ reachable run (by rw [begun]; trivial)
    rintro current event next currentReachable reached
      ⟨isCareful, untaken⟩ stepped
    refine reached.step (lockHeld_of_reachable currentReachable)
      (coherent_of_reachable currentReachable) ?_ (fun _ => untaken)
      stepped
    rintro ⟨rfl, removing⟩
    simpa [careful, removing] using isCareful
  rw [returned] at reached
  exact reached.2

/--
In careful runs an upgrade extracts only what the latest download fetched, and
finds nothing when that download is still running, failed or was cancelled.
-/
theorem upgrade_not_stale
    {state : State}
    (reachable :
      system.GuardedReachable
        (fun current event => careful current event = true) state) :
    (∀ process answer next inode,
      system.step? state (.command process answer) = some next →
      state.procs process = .upgrade .openImage →
      next.procs process = .upgrade (.extract inode) →
      FetchedByLatest state inode) ∧
      (∀ downloader url pc,
        state.latest = some downloader →
        state.procs downloader = .download url pc →
        pc.unpublished = true →
        UpgradeFindsNothing state) ∧
      (LatestCancelled state → UpgradeFindsNothing state) := by
  refine ⟨?_, ?_, ?_⟩
  · intro process answer next inode stepped _ extracting
    obtain ⟨pid, transfer, found, succeeded, output, isLatest⟩ :=
      (current_of_careful reachable).final
        (link_of_extract stepped extracting)
    obtain ⟨curl, curlFound, rfl⟩ := Option.map_eq_some_iff.mp found
    exact ⟨pid, curl, curlFound, succeeded, output, isLatest⟩
  · intro downloader url pc latest downloading unpublished
    exact upgradeFindsNothing_of_absent
      (absent_of_unpublished reachable latest downloading unpublished)
  · intro cancelled
    exact upgradeFindsNothing_of_absent (absent_of_cancelled cancelled)

/-- An upgrade is about to open the image of a successful download. -/
def upgradeRun : List Event :=
  completeRun ++ [.request 4 .upgrade] ++ runCommands 4 1

theorem upgrade_not_stale_of_run :
    ∃ state next inode,
      system.run? booted upgradeRun = some state ∧
        system.step? state (.command 4 .none) = some next ∧
        next.procs 4 = .upgrade (.extract inode) ∧
        FetchedByLatest state inode := by
  have executed :
      ((system.runWhile? careful booted upgradeRun).bind fun state =>
        (system.step? state (.command 4 .none)).map fun next =>
          (state.procs 4, next.procs 4)) =
        some (.upgrade .openImage, .upgrade (.extract 0)) := by
    decide
  obtain ⟨state, reached, rest⟩ := Option.bind_eq_some_iff.mp executed
  obtain ⟨next, stepped, ends⟩ := Option.map_eq_some_iff.mp rest
  simp only [Prod.mk.injEq] at ends
  have run :=
    System.guardedRun_of_runWhile?
      (fun current event => careful current event = true)
      (fun _ _ => id) reached
  exact ⟨state, next, 0, System.run?_eq_some_iff.mpr run.forget, stepped,
    ends.2,
    (upgrade_not_stale ⟨booted, _, rfl, run⟩).1 4 .none next 0 stepped
      ends.1 ends.2⟩

/--
Process 0 downloads an image that nobody installs; the download of process 3
fails; an upgrade is about to open the image.
-/
def staleRun : List Event :=
  completeRun ++ startDownload 3 [] 101 [3] ++
    [.curl 101 .openErr, .curl 101 (.exit 22)] ++ runCommands 3 10 ++
    [.request 4 .upgrade] ++ runCommands 4 1

theorem upgrade_extracts_stale_image :
    ∃ state next inode,
      system.Reachable state ∧
        state.latest = some 3 ∧
        state.procs 3 = .download [] (.finished (some 101) 1) ∧
        state.procs 4 = .upgrade .openImage ∧
        system.step? state (.command 4 .none) = some next ∧
        next.procs 4 = .upgrade (.extract inode) ∧
        ¬ FetchedByLatest state inode := by
  have executed :
      ((system.run? booted staleRun).bind fun state =>
        (system.step? state (.command 4 .none)).map fun next =>
          decide (state.latest = some 3) &&
            decide (state.procs 3 =
              .download [] (.finished (some 101) 1)) &&
            decide (state.procs 4 = .upgrade .openImage) &&
            decide (next.procs 4 = .upgrade (.extract 0))) =
        some true := by
    decide
  obtain ⟨state, reached, rest⟩ := Option.bind_eq_some_iff.mp executed
  obtain ⟨next, stepped, ends⟩ := Option.map_eq_some_iff.mp rest
  simp only [Bool.and_eq_true, decide_eq_true_eq] at ends
  obtain ⟨⟨⟨latest, failed⟩, opening⟩, extracting⟩ := ends
  have reachable : system.Reachable state :=
    ⟨booted, staleRun, rfl, System.run?_eq_some_iff.mp reached⟩
  refine ⟨state, next, 0, reachable, latest, failed, opening, stepped,
    extracting, ?_⟩
  rintro ⟨pid, curl, found, succeeded, _, isLatest⟩
  have isOwner := Option.some.inj (latest.symm.trans isLatest)
  rw [isOwner] at failed
  exact failed_owns_no_success (attached_of_reachable reachable) found
    succeeded failed rfl

end RecomputerGateway.Ota
