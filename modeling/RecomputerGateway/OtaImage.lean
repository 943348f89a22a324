import RecomputerGateway.OtaSimulation

namespace RecomputerGateway.Ota

/-!
# The firmware image is never partial

Whatever the interleaving of checks, downloads, cancels and upgrades, the file
`/tmp/firmware.img.tar.gz` and every archive that `tar` has opened hold the
complete body of one curl run that exited with code 0.
-/

/-- The inode holds everything that one successful curl run was to fetch. -/
def CompleteDownload (state : State) (inode : Nat) : Prop :=
  ∃ pid curl,
    state.curls pid = some curl ∧
      curl.exit = some 0 ∧
      curl.out = some inode ∧
      state.firmware.data inode = curl.body

/-- Inodes published in the pattern are complete downloads of the script. -/
theorem completeDownload_of_published
    {state : State}
    (coherent : (abstraction state).Coherent)
    {inode : Nat}
    (published :
      RenamePublish.Published (abstraction state).transfers inode) :
    CompleteDownload state inode := by
  obtain ⟨pid, transfer, found, succeeded, output, content⟩ :=
    published.complete coherent
  obtain ⟨curl, curlFound, rfl⟩ := Option.map_eq_some_iff.mp found
  exact ⟨pid, curl, curlFound, succeeded, output, content⟩

/-- Published inodes stay published along every step of the script. -/
theorem published_step
    {state next : State}
    {event : Event}
    (lockHeld : LockHeld state)
    (stepped : step? state event = some next)
    {inode : Nat}
    (published :
      RenamePublish.Published (abstraction state).transfers inode) :
    RenamePublish.Published (abstraction next).transfers inode := by
  rcases abstraction_step lockHeld stepped with
      hidden | ⟨action, _, visible⟩
  · rwa [hidden]
  · exact published.step visible

/-- Every archive that an upgrade has opened is a published inode. -/
def ExtractsPublished (state : State) : Prop :=
  ∀ process inode,
    state.procs process = .upgrade (.extract inode) →
    RenamePublish.Published (abstraction state).transfers inode

/-- An upgrade opens nothing but the image. -/
theorem link_of_extract
    {state next : State}
    {process : ProcessId}
    {answer : Answer}
    (stepped : commandStep? state process answer = some next)
    {inode : Nat}
    (extracting : next.procs process = .upgrade (.extract inode)) :
    state.firmware.link imagePath = some inode := by
  have frame := commandStep_frame stepped
  have operation := frame.operation
  rw [extracting] at operation
  cases current : state.procs process with
  | upgrade pc =>
      simp only [commandStep?, current] at stepped
      cases pc <;> cases answer <;>
        simp only [upgradeStep?, reduceCtorEq,
          Option.some.injEq] at stepped
      case openImage.none =>
        split at stepped
        · cases stepped
          simp at extracting
        next found linked =>
          cases stepped
          simp only [procs_setProc_self, Proc.upgrade.injEq,
            UpgradePc.extract.injEq] at extracting
          exact extracting ▸ linked
      case testImage.none | extract.tar =>
        cases stepped
        rw [procs_setProc_self] at extracting
        split at extracting <;> cases extracting
      all_goals
        cases stepped
        simp at extracting
  | _ =>
      simp [current, Proc.operation?] at operation

/-- Opened archives stay published along every step. -/
theorem ExtractsPublished.step
    {state next : State}
    {event : Event}
    (coherent : (abstraction state).Coherent)
    (lockHeld : LockHeld state)
    (extracts : ExtractsPublished state)
    (stepped : step? state event = some next) :
    ExtractsPublished next := by
  intro process inode extracting
  have fromBefore :
      state.procs process = .upgrade (.extract inode) →
        RenamePublish.Published (abstraction next).transfers inode :=
    fun before =>
      published_step lockHeld stepped (extracts process inode before)
  cases event with
  | request other operation =>
      simp only [step?] at stepped
      split at stepped
      · cases stepped
        by_cases same : process = other
        · subst other
          rw [procs_setProc_self] at extracting
          cases operation <;> simp [Operation.enter] at extracting
        · rw [procs_setProc_other _ same] at extracting
          exact fromBefore extracting
      · cases stepped
  | command other answer =>
      by_cases same : process = other
      · subst other
        have linked := link_of_extract stepped extracting
        exact published_step lockHeld stepped (coherent.published linked)
      · rw [(commandStep_frame stepped).others same] at extracting
        exact fromBefore extracting
  | curl pid act =>
      rw [(curlStep_frame stepped).2.1] at extracting
      exact fromBefore extracting

/--
In every reachable state the firmware image, and every archive an upgrade is
extracting, is the complete body of a single curl run that exited with 0.
-/
theorem firmware_image_complete
    (state : State)
    (reachable : system.Reachable state) :
    (∀ inode,
      state.firmware.link imagePath = some inode →
      CompleteDownload state inode) ∧
      ∀ process inode,
        state.procs process = .upgrade (.extract inode) →
        CompleteDownload state inode := by
  have coherent := coherent_of_reachable reachable
  have extracts : ExtractsPublished state := by
    refine reachable.invariant _ ?_ ?_
    · rintro initial rfl process inode extracting
      simp [booted] at extracting
    · intro current event next currentReachable holds _ stepped
      exact holds.step (coherent_of_reachable currentReachable)
        (lockHeld_of_reachable currentReachable) stepped
  constructor
  · intro inode linked
    exact completeDownload_of_published coherent
      (coherent.published linked)
  · intro process inode extracting
    exact completeDownload_of_published coherent
      (extracts process inode extracting)

/-- A process runs its next `count` commands, none of which needs an answer. -/
def runCommands (process : ProcessId) (count : Nat) : List Event :=
  List.replicate count (.command process .none)

/-- A download is requested and gets as far as waiting for its curl. -/
def startDownload
    (process : ProcessId)
    (url : Text)
    (pid : Pid)
    (body : List Byte) :
    List Event :=
  [.request process (.download url)] ++
    runCommands process 8 ++
    [.command process (.launch pid body)] ++
    runCommands process 2

/-- A curl fetches its `length` bytes and exits with 0. -/
def fetchAll (pid : Pid) (length : Nat) : List Event :=
  [.curl pid .openErr, .curl pid .openOutput,
    .curl pid (.write length), .curl pid (.exit 0)]

/-- A check that finds a new version, and creates `/var/run/ota`. -/
def checkRun (process : ProcessId) : List Event :=
  [.request process .check] ++
    runCommands process 3 ++
    [.command process (.version ['2'] none)] ++
    runCommands process 1

/-- Process 0 downloads with curl 100, which has written its first byte. -/
def transferringRun : List Event :=
  checkRun 2 ++ startDownload 0 [] 100 [1, 2] ++
    [.curl 100 .openErr, .curl 100 .openOutput, .curl 100 (.write 1)]

/-- A successful download of two bytes by process 0 with curl 100. -/
def completeRun : List Event :=
  startDownload 0 [] 100 [1, 2] ++ fetchAll 100 2 ++ runCommands 0 8

theorem firmware_image_complete_of_run :
    ∃ state inode,
      system.run? booted completeRun = some state ∧
        state.firmware.link imagePath = some inode ∧
        CompleteDownload state inode := by
  have executed :
      ((system.run? booted completeRun).bind
        fun state => state.firmware.link imagePath) = some 0 := by
    decide
  obtain ⟨state, reached, linked⟩ := Option.bind_eq_some_iff.mp executed
  have reachable : system.Reachable state :=
    ⟨booted, completeRun, rfl, System.run?_eq_some_iff.mp reached⟩
  exact ⟨state, 0, reached, linked,
    (firmware_image_complete state reachable).1 0 linked⟩

end RecomputerGateway.Ota
