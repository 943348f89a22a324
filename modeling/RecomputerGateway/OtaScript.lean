import RecomputerGateway.OtaState
import RecomputerGateway.TextLines

namespace RecomputerGateway.Ota

/-!
# The steps of the `ota` script

Every shell command of the script is one step of the process that runs it.
What the script does not control arrives with the step as an `Answer`, and what
its curl processes do is a step of its own.  The system is the interleaving of
all of them.
-/

/-- What the environment contributes to a command. -/
inductive Answer where
  | none
  /-- The pid of a new curl and the body its server will send. -/
  | launch (pid : Pid) (body : List Byte)
  /-- The remote version and the content of `/version.txt`, if it exists. -/
  | version (remoteVersion : Text) (localVersion : Option Text)
  /-- Whether `tar` succeeded. -/
  | tar (succeeded : Bool)
  deriving Repr, DecidableEq

/-- What a curl process does on its own. -/
inductive CurlAct where
  /-- The redirection `2>> ...progress` is opened. -/
  | openErr
  /-- A progress bar or an error message. -/
  | message (text : Text)
  /-- The file given with `-o` is created or truncated. -/
  | openOutput
  /-- The next `count` bytes of the body are written. -/
  | write (count : Nat)
  | exit (code : Nat)
  deriving Repr, DecidableEq

inductive Event where
  /-- Somebody runs `ota` with this operation. -/
  | request (process : ProcessId) (operation : Operation)
  | command (process : ProcessId) (answer : Answer)
  | curl (pid : Pid) (act : CurlAct)
  deriving Repr, DecidableEq

/-- `flock 300`: wait for the status lock. -/
def lockStatus? (state : State) (process : ProcessId) : Option State :=
  match state.stLock with
  | some _ => none
  | none => some { state with stLock := some process }

/-- The text of `echo line`. -/
def echoLine (line : String) : Text :=
  line.toList ++ ['\n']

/-- `sed '/\r/d'`: drop the lines that contain a carriage return. -/
def dropCarriageReturnLines (text : Text) : Text :=
  TextLines.deleteLines (fun line => '\r' ∈ line) text

/-- The exit code of a process ended by `SIGTERM`. -/
def terminatedCode : Nat := 143

/-- The exit code of a process ended by `SIGKILL`. -/
def killedCode : Nat := 137

/-- `echo "Canceled!"` for exit code 143, else `echo "Download failed!"`. -/
def endMessage (code : Nat) : Text :=
  if code = terminatedCode then
    echoLine "Canceled!"
  else
    echoLine "Download failed!"

/-- The next command of `lock_download` and `download`. -/
def downloadStep?
    (state : State)
    (process : ProcessId)
    (url : Text) :
    DownloadPc → Answer → Option State
  | .flock, .none =>
      match state.wrLock with
      | some _ =>
          some (state.setProc process
            (.download url (.finished none 1)))
      | none =>
          some
            (State.setProc
              { state with
                wrLock := some process, latest := some process }
              process (.download url .lockStatus))
  | .lockStatus, .none =>
      (lockStatus? state process).map fun locked =>
        locked.setProc process (.download url .touchPart)
  | .touchPart, .none =>
      some
        (State.setProc
          { state with firmware := state.firmware.touch partPath }
          process (.download url .clearProgress))
  | .clearProgress, .none =>
      some
        (State.setProc
          { state with
            status := state.status.overwrite .progress ['\n'] }
          process (.download url .unlockStatus))
  | .unlockStatus, .none =>
      some
        (State.setProc { state with stLock := none }
          process (.download url .announce))
  | .announce, .none =>
      some
        (State.setProc
          { state with
            status :=
              state.status.overwrite .progress
                ("Downloading from ".toList ++ url ++ ['\n']) }
          process (.download url .relockStatus))
  | .relockStatus, .none =>
      (lockStatus? state process).map fun locked =>
        locked.setProc process (.download url .markStart)
  | .markStart, .none =>
      some
        (State.setProc
          { state with
            status := state.status.extend .progress (echoLine "#=#=#") }
          process (.download url .startCurl))
  | .startCurl, .launch pid body =>
      match state.curls pid with
      | some _ => none
      | none =>
          some
            ((state.setCurl pid
                { owner := process, body := body, out := none,
                  sent := 0, exit := none, err := none,
                  reaped := false }).setProc
              process (.download url (.publishPid pid)))
  | .publishPid pid, .none =>
      -- Without the directory the redirection fails and the script goes on.
      some
        (State.setProc
          { state with
            pidFile :=
              if state.runDir then some pid else state.pidFile }
          process (.download url (.unlockStarted pid)))
  | .unlockStarted pid, .none =>
      some
        (State.setProc { state with stLock := none }
          process (.download url (.waitCurl pid)))
  | .waitCurl pid, .none =>
      match state.curls pid with
      | none => none
      | some curl =>
          match curl.exit with
          | none => none
          | some code =>
              some
                ((state.setCurl pid { curl with reaped := true }).setProc
                  process
                  (.download url
                    (if code = 0 then .dropPid pid
                      else .endLine pid code)))
  | .dropPid pid, .none =>
      some
        (State.setProc { state with pidFile := none }
          process (.download url (.announceDone pid)))
  | .announceDone pid, .none =>
      some
        (State.setProc
          { state with
            status :=
              state.status.overwrite .progress
                (echoLine "Download completed") }
          process (.download url (.lockMove pid)))
  | .lockMove pid, .none =>
      (lockStatus? state process).map fun locked =>
        locked.setProc process (.download url (.movePart pid))
  | .movePart pid, .none =>
      some
        (State.setProc
          { state with
            firmware := state.firmware.rename partPath imagePath }
          process (.download url (.dropProgress pid)))
  | .dropProgress pid, .none =>
      some
        (State.setProc
          { state with status := state.status.unlink .progress }
          process (.download url (.unlockMove pid)))
  | .unlockMove pid, .none =>
      some
        (State.setProc { state with stLock := none }
          process (.download url (.leaveDone pid)))
  | .leaveDone pid, .none =>
      some
        (State.setProc { state with wrLock := none }
          process (.download url (.finished (some pid) 0)))
  | .endLine pid code, .none =>
      some
        (State.setProc
          { state with
            status := state.status.extend .progress ['\n'] }
          process (.download url (.reportEnd pid code)))
  | .reportEnd pid code, .none =>
      some
        (State.setProc
          { state with
            status := state.status.extend .progress (endMessage code) }
          process (.download url (.lockSed pid)))
  | .lockSed pid, .none =>
      (lockStatus? state process).map fun locked =>
        locked.setProc process (.download url (.sedRead pid))
  | .sedRead pid, .none =>
      match state.status.read? .progress with
      | none =>
          some (state.setProc process (.download url (.unlockSed pid)))
      | some text =>
          some
            (state.setProc process
              (.download url
                (.sedRename pid (dropCarriageReturnLines text))))
  | .sedRename pid text, .none =>
      -- The edited copy is a new file that replaces whatever is there.
      some
        (State.setProc
          { state with
            status :=
              (state.status.unlink .progress).overwrite .progress text }
          process (.download url (.unlockSed pid)))
  | .unlockSed pid, .none =>
      some
        (State.setProc { state with stLock := none }
          process (.download url (.dropFailedPid pid)))
  | .dropFailedPid pid, .none =>
      some
        (State.setProc { state with pidFile := none }
          process (.download url (.dropPart pid)))
  | .dropPart pid, .none =>
      some
        (State.setProc
          { state with firmware := state.firmware.unlink partPath }
          process (.download url (.leaveFailed pid)))
  | .leaveFailed pid, .none =>
      some
        (State.setProc { state with wrLock := none }
          process (.download url (.finished (some pid) 1)))
  | _, _ => none

/-- `wait` returns when the curl has exited, with its exit code. -/
theorem downloadStep?_waitCurl
    {state next : State}
    {process : ProcessId}
    {url : Text}
    {pid : Pid}
    (stepped :
      downloadStep? state process url (.waitCurl pid) .none = some next) :
    ∃ curl code,
      state.curls pid = some curl ∧
        curl.exit = some code ∧
          next =
            (state.setCurl pid { curl with reaped := true }).setProc process
              (.download url
                (if code = 0 then .dropPid pid else .endLine pid code)) := by
  simp only [downloadStep?] at stepped
  split at stepped
  · cases stepped
  next curl found =>
    split at stepped
    · cases stepped
    next code exited =>
      exact ⟨curl, code, found, exited, (Option.some.inj stepped).symm⟩

/--
The next command of the sequence that stops a download.  The result is the
state it leaves and where the sequence continues: at another of its commands,
behind `rm -f download.pid`, or behind the whole conditional when the pid file
does not exist.
-/
inductive StopNext where
  | at (pc : StopPc)
  | removed
  | noPidFile
  deriving Repr, DecidableEq

def stopStep (state : State) : StopPc → State × StopNext
  | .testPid =>
      if state.pidFile.isSome then (state, .at .readPid)
      else (state, .noPidFile)
  | .readPid => (state, .at (.probe state.pidFile))
  | .probe none => (state, .at .removePid)
  | .probe (some pid) =>
      if state.probes pid then (state, .at (.terminate pid))
      else (state, .at .removePid)
  | .terminate pid =>
      (state.signal pid terminatedCode, .at (.sleep pid))
  | .sleep pid => (state, .at (.kill pid))
  | .kill pid => (state.signal pid killedCode, .at .removePid)
  | .removePid => ({ state with pidFile := none }, .removed)

/-- The next command of `do_check`. -/
def checkStep?
    (state : State)
    (process : ProcessId) :
    CheckPc → Answer → Option State
  | .stop pc, .none =>
      let stopped := stopStep state pc
      some
        (stopped.1.setProc process
          (.check
            (match stopped.2 with
              | .at next => .stop next
              | .removed => .removePart
              | .noPidFile => .flock)))
  | .removePart, .none =>
      some
        (State.setProc
          { state with firmware := state.firmware.unlink partPath }
          process (.check .removeProgress))
  | .removeProgress, .none =>
      some
        (State.setProc
          { state with status := state.status.unlink .progress }
          process (.check .flock))
  | .flock, .none =>
      match state.wrLock with
      | some _ => some (state.setProc process (.check .busy))
      | none =>
          some
            (State.setProc { state with wrLock := some process }
              process (.check .makeRunDir))
  | .makeRunDir, .none =>
      some
        (State.setProc { state with runDir := true }
          process (.check .compareVersion))
  | .compareVersion, .version remoteVersion localVersion =>
      -- The log `/var/run/ota/ota.log` is left out: nothing reads it.
      some
        (state.setProc process
          (.check
            (.unlock
              (if remoteVersion = [] then 1
                else if localVersion = some remoteVersion then 3
                else 0))))
  | .unlock code, .none =>
      some
        (State.setProc { state with wrLock := none }
          process (.check (.finished code)))
  | .busy, .none =>
      some
        (state.setProc process
          (.check
            (.finished
              (if state.status.isFile .progress ||
                  state.firmware.isFile imagePath then 2
                else 254))))
  | _, _ => none

/-- The next command of `do_cancel`. -/
def cancelStep?
    (state : State)
    (process : ProcessId) :
    CancelPc → Answer → Option State
  | .stop pc, .none =>
      let stopped := stopStep state pc
      some
        (stopped.1.setProc process
          (.cancel
            (match stopped.2 with
              | .at next => .stop next
              | .removed => .removePart
              | .noPidFile => .removePart)))
  | .removePart, .none =>
      some
        (State.setProc
          { state with firmware := state.firmware.unlink partPath }
          process (.cancel .removeImage))
  | .removeImage, .none =>
      some
        (State.setProc
          { state with firmware := state.firmware.unlink imagePath }
          process (.cancel .removeProgress))
  | .removeProgress, .none =>
      some
        (State.setProc
          { state with status := state.status.unlink .progress }
          process (.cancel .finished))
  | _, _ => none

/-- The next command of `do_upgrade`. -/
def upgradeStep?
    (state : State)
    (process : ProcessId) :
    UpgradePc → Answer → Option State
  | .testImage, .none =>
      some
        (state.setProc process
          (.upgrade
            (if state.firmware.isFile imagePath then .openImage
              else .finished .noFirmware)))
  | .openImage, .none =>
      match state.firmware.link imagePath with
      | none =>
          some (state.setProc process (.upgrade (.finished .failed)))
      | some inode =>
          some (state.setProc process (.upgrade (.extract inode)))
  | .extract _, .tar succeeded =>
      some
        (state.setProc process
          (.upgrade
            (if succeeded then .removeImage else .finished .failed)))
  | .removeImage, .none =>
      some
        (State.setProc
          { state with firmware := state.firmware.unlink imagePath }
          process (.upgrade (.finished .rebooting)))
  | _, _ => none

/-- The next command of a process. -/
def commandStep?
    (state : State)
    (process : ProcessId)
    (answer : Answer) :
    Option State :=
  match state.procs process with
  | .absent => none
  | .check pc => checkStep? state process pc answer
  | .download url pc => downloadStep? state process url pc answer
  | .cancel pc => cancelStep? state process pc answer
  | .progress .report =>
      some (state.setProc process (.progress .finished))
  | .progress .finished => none
  | .upgrade pc => upgradeStep? state process pc answer

/-- What a running curl process may do next. -/
def curlStep?
    (state : State)
    (pid : Pid)
    (act : CurlAct) :
    Option State :=
  match state.curls pid with
  | none => none
  | some curl =>
      if curl.exit ≠ none then none
      else
        match act with
        | .openErr =>
            if curl.err = none then
              let opened := state.status.openAppend .progress
              some
                { state.setCurl pid { curl with err := some opened.2 } with
                  status := opened.1 }
            else none
        | .message text =>
            match curl.err with
            | none => none
            | some inode =>
                some
                  { state with
                    status := state.status.append inode text }
        | .openOutput =>
            -- The shell opens the redirection before curl itself starts.
            if curl.err ≠ none ∧ curl.out = none then
              let opened := state.firmware.openTruncate partPath
              some
                { state.setCurl pid { curl with out := some opened.2 } with
                  firmware := opened.1 }
            else none
        | .write count =>
            match curl.out with
            | none => none
            | some inode =>
                if curl.sent + count ≤ curl.body.length then
                  some
                    { state.setCurl pid
                        { curl with sent := curl.sent + count } with
                      firmware :=
                        state.firmware.writeAt inode curl.sent
                          ((curl.body.drop curl.sent).take count) }
                else none
        | .exit code =>
            -- curl creates its output even for an empty body before it
            -- reports success.
            if code = 0 →
                curl.out.isSome ∧ curl.sent = curl.body.length then
              some (state.setCurl pid { curl with exit := some code })
            else none

/-- One step of the whole system. -/
def step? (state : State) : Event → Option State
  | .request process operation =>
      match state.procs process with
      | .absent => some (state.setProc process operation.enter)
      | _ => none
  | .command process answer => commandStep? state process answer
  | .curl pid act => curlStep? state pid act

/-- All interleavings of the script's processes and their curls. -/
def system : System State Event where
  Initial := fun state => state = booted
  step? := step?

/-- Everything a running curl can do, with the guard that enabled it. -/
inductive CurlStep
    (state : State)
    (pid : Pid)
    (curl : Curl) :
    CurlAct → State → Prop where
  | openErr
      (unopened : curl.err = none) :
      CurlStep state pid curl .openErr
        { state.setCurl pid
            { curl with
              err := some (state.status.openAppend .progress).2 } with
          status := (state.status.openAppend .progress).1 }
  | message
      {inode : Nat}
      (text : Text)
      (opened : curl.err = some inode) :
      CurlStep state pid curl (.message text)
        { state with status := state.status.append inode text }
  | openOutput
      (errOpened : curl.err ≠ none)
      (unopened : curl.out = none) :
      CurlStep state pid curl .openOutput
        { state.setCurl pid
            { curl with
              out := some (state.firmware.openTruncate partPath).2 } with
          firmware := (state.firmware.openTruncate partPath).1 }
  | write
      {count inode : Nat}
      (output : curl.out = some inode)
      (within : curl.sent + count ≤ curl.body.length) :
      CurlStep state pid curl (.write count)
        { state.setCurl pid { curl with sent := curl.sent + count } with
          firmware :=
            state.firmware.writeAt inode curl.sent
              ((curl.body.drop curl.sent).take count) }
  | exit
      {code : Nat}
      (complete :
        code = 0 →
        curl.out.isSome ∧ curl.sent = curl.body.length) :
      CurlStep state pid curl (.exit code)
        (state.setCurl pid { curl with exit := some code })

/-- Inversion of `curlStep?`. -/
theorem curlStep_of_curlStep?
    {state next : State}
    {pid : Pid}
    {act : CurlAct}
    (stepped : curlStep? state pid act = some next) :
    ∃ curl,
      state.curls pid = some curl ∧
        curl.exit = none ∧
        CurlStep state pid curl act next := by
  unfold curlStep? at stepped
  split at stepped
  · cases stepped
  next curl found =>
    split at stepped
    · cases stepped
    next exited =>
      refine ⟨curl, found, by simpa using exited, ?_⟩
      cases act with
      | openErr =>
          simp only [Option.ite_none_right_eq_some,
            Option.some.injEq] at stepped
          obtain ⟨unopened, rfl⟩ := stepped
          exact .openErr unopened
      | message text =>
          simp only at stepped
          split at stepped
          · cases stepped
          next inode opened =>
            cases stepped
            exact .message text opened
      | openOutput =>
          simp only [Option.ite_none_right_eq_some,
            Option.some.injEq] at stepped
          obtain ⟨⟨errOpened, unopened⟩, rfl⟩ := stepped
          exact .openOutput errOpened unopened
      | write count =>
          simp only at stepped
          split at stepped
          · cases stepped
          next inode output =>
            simp only [Option.ite_none_right_eq_some,
              Option.some.injEq] at stepped
            obtain ⟨within, rfl⟩ := stepped
            exact .write output within
      | exit code =>
          simp only [Option.ite_none_right_eq_some,
            Option.some.injEq] at stepped
          obtain ⟨complete, rfl⟩ := stepped
          exact .exit complete

end RecomputerGateway.Ota
