import RecomputerGateway.RenamePublishGuarantees

namespace RecomputerGateway.Ota

/-!
# Processes and shared files of the `ota` script

The script `/bin/ota` is run once for every `check`, `download`, `cancel`,
`progress` and `upgrade`, so any number of its processes exist side by side.
They share the files under `/tmp` and `/var/run/ota`, two lock files and the
curl processes that the downloads start.

Each operation is a program counter over its shell commands; the constructors
below follow the order of the commands in the script.  The firmware image and
its `.part` file live in one store because `mv` renames between them; the
`.progress` file has a store of its own.
-/

abbrev Byte := BitVec 8
abbrev Text := List Char
abbrev ProcessId := Nat
abbrev Pid := Nat

/-- `/tmp/firmware.img.tar.gz`. -/
abbrev imagePath : RenamePublish.FilePath := .final

/-- `/tmp/firmware.img.tar.gz.part`. -/
abbrev partPath : RenamePublish.FilePath := .temporary

/-- `/tmp/firmware.img.tar.gz.progress`. -/
inductive StatusPath where
  | progress
  deriving Repr, DecidableEq

/--
A curl process started by a download: the transfer of a body to the file given
with `-o`, the descriptor of its standard error, and whether the download has
waited for it.
-/
structure Curl extends RenamePublish.Transfer ProcessId Byte where
  err : Option Nat
  reaped : Bool

/-- The commands of `lock_download` and `download`. -/
inductive DownloadPc where
  /-- `flock -n 200 || return`. -/
  | flock
  /-- `flock 300`. -/
  | lockStatus
  /-- `touch /tmp/firmware.img.tar.gz.part`. -/
  | touchPart
  /-- `echo > /tmp/firmware.img.tar.gz.progress`. -/
  | clearProgress
  /-- `flock -u 300`. -/
  | unlockStatus
  /-- `echo "Downloading from $url" > ...progress`. -/
  | announce
  /-- `flock 300`. -/
  | relockStatus
  /-- `echo "#=#=#" >> ...progress`. -/
  | markStart
  /-- `curl ... -o ...part "$url" 2>> ...progress &`. -/
  | startCurl
  /-- `echo "$pid" > /var/run/ota/download.pid`. -/
  | publishPid (pid : Pid)
  /-- `flock -u 300`. -/
  | unlockStarted (pid : Pid)
  /-- `wait $pid`. -/
  | waitCurl (pid : Pid)
  /-- Success: `rm -f /var/run/ota/download.pid`. -/
  | dropPid (pid : Pid)
  /-- `echo "Download completed" > ...progress`. -/
  | announceDone (pid : Pid)
  /-- `flock 300`. -/
  | lockMove (pid : Pid)
  /-- `mv ...part /tmp/firmware.img.tar.gz`. -/
  | movePart (pid : Pid)
  /-- `rm -f ...progress`. -/
  | dropProgress (pid : Pid)
  /-- `flock -u 300`. -/
  | unlockMove (pid : Pid)
  /-- `return 0`, then `flock -u 200`. -/
  | leaveDone (pid : Pid)
  /-- Failure with exit code `code`: `echo >> ...progress`. -/
  | endLine (pid : Pid) (code : Nat)
  /-- `echo "Canceled!"` or `echo "Download failed!"`, `>> ...progress`. -/
  | reportEnd (pid : Pid) (code : Nat)
  /-- `flock 300`. -/
  | lockSed (pid : Pid)
  /-- `sed -i '/\r/d' ...progress`: read the file. -/
  | sedRead (pid : Pid)
  /-- `sed -i '/\r/d' ...progress`: rename the edited copy into place. -/
  | sedRename (pid : Pid) (text : Text)
  /-- `flock -u 300`. -/
  | unlockSed (pid : Pid)
  /-- `rm -f /var/run/ota/download.pid`. -/
  | dropFailedPid (pid : Pid)
  /-- `rm -f ...part`. -/
  | dropPart (pid : Pid)
  /-- `return 1`, then `flock -u 200`. -/
  | leaveFailed (pid : Pid)
  /-- The end of `lock_download`, after the curl it ran, if it ran one. -/
  | finished (pid : Option Pid) (code : Nat)
  deriving Repr, DecidableEq

/-- The commands that `do_check` and `do_cancel` use to stop a download. -/
inductive StopPc where
  /-- `[ -f /var/run/ota/download.pid ]`. -/
  | testPid
  /-- `pid=$(cat /var/run/ota/download.pid)`. -/
  | readPid
  /-- `kill -0 "$pid"`. -/
  | probe (pid : Option Pid)
  /-- `kill "$pid"`. -/
  | terminate (pid : Pid)
  /-- `sleep 1`. -/
  | sleep (pid : Pid)
  /-- `kill -9 "$pid"`. -/
  | kill (pid : Pid)
  /-- `rm -f /var/run/ota/download.pid`. -/
  | removePid
  deriving Repr, DecidableEq

/-- The commands of `do_check`. -/
inductive CheckPc where
  | stop (pc : StopPc)
  /-- `rm -f ...part`. -/
  | removePart
  /-- `rm -f ...progress`. -/
  | removeProgress
  /-- `flock -n 200`. -/
  | flock
  /-- `mkdir -p /var/run/ota`. -/
  | makeRunDir
  /-- Compare the remote version with `/version.txt`. -/
  | compareVersion
  /-- `flock -u 200`, then return. -/
  | unlock (code : Nat)
  /-- The lock is taken: test the progress file and the image. -/
  | busy
  | finished (code : Nat)
  deriving Repr, DecidableEq

/-- The commands of `do_cancel`. -/
inductive CancelPc where
  | stop (pc : StopPc)
  /-- `rm -f ...part`. -/
  | removePart
  /-- `rm -f /tmp/firmware.img.tar.gz`. -/
  | removeImage
  /-- `rm -f ...progress`. -/
  | removeProgress
  | finished
  deriving Repr, DecidableEq

/-- How `do_upgrade` ends. -/
inductive UpgradeEnd where
  | noFirmware
  | failed
  | rebooting
  deriving Repr, DecidableEq

/-- The return code of `do_upgrade`. -/
def UpgradeEnd.code : UpgradeEnd → Nat
  | .noFirmware => 1
  | .failed => 1
  | .rebooting => 0

/-- What `do_upgrade` prints last. -/
def UpgradeEnd.message : UpgradeEnd → String
  | .noFirmware => "No firmware file found!"
  | .failed => "Failed to extract firmware!"
  | .rebooting => "Firmware extracted successfully. Rebooting..."

/-- The commands of `do_upgrade`. -/
inductive UpgradePc where
  /-- `[ ! -f /tmp/firmware.img.tar.gz ]`. -/
  | testImage
  /-- `tar -xzf /tmp/firmware.img.tar.gz -C /`: open the archive. -/
  | openImage
  /-- `tar` reads the archive it has opened. -/
  | extract (inode : Nat)
  /-- `rm -f /tmp/firmware.img.tar.gz`. -/
  | removeImage
  | finished (result : UpgradeEnd)
  deriving Repr, DecidableEq

/-- `do_progress` only reads; what it reports is described with the readers. -/
inductive ProgressPc where
  | report
  | finished
  deriving Repr, DecidableEq

/-- One process of the script. -/
inductive Proc where
  | absent
  | check (pc : CheckPc)
  | download (url : Text) (pc : DownloadPc)
  | cancel (pc : CancelPc)
  | progress (pc : ProgressPc)
  | upgrade (pc : UpgradePc)
  deriving Repr, DecidableEq

/-- The actions of the script's command line. -/
inductive Operation where
  | check
  -- The URL of the argument, or the default one if there is none.
  | download (url : Text)
  | cancel
  | progress
  | upgrade
  deriving Repr, DecidableEq

/-- A process at the first command of its operation. -/
def Operation.enter : Operation → Proc
  | .check => .check (.stop .testPid)
  | .download url => .download url .flock
  | .cancel => .cancel (.stop .testPid)
  | .progress => .progress .report
  | .upgrade => .upgrade .testImage

/-- The operation a process is running. -/
def Proc.operation? : Proc → Option Operation
  | .absent => none
  | .check _ => some .check
  | .download url _ => some (.download url)
  | .cancel _ => some .cancel
  | .progress _ => some .progress
  | .upgrade _ => some .upgrade

/--
The shared state.  Process identifiers of curl are not reused within a run,
and `latest` records which download took the lock last; no command reads it.
-/
structure State where
  firmware : InodeStore RenamePublish.FilePath Byte
  status : InodeStore StatusPath Char
  /-- `/var/run/ota/download.pid`. -/
  pidFile : Option Pid
  /-- Whether the directory `/var/run/ota` exists. -/
  runDir : Bool
  /-- The holder of `/var/lock/ota_background.lock`. -/
  wrLock : Option ProcessId
  /-- The holder of `/var/lock/ota_status.lock`. -/
  stLock : Option ProcessId
  curls : Pid → Option Curl
  procs : ProcessId → Proc
  latest : Option ProcessId

/-- The state after boot: `/tmp` and `/var` are empty. -/
def booted : State where
  firmware := InodeStore.empty
  status := InodeStore.empty
  pidFile := none
  runDir := false
  wrLock := none
  stLock := none
  curls := fun _ => none
  procs := fun _ => .absent
  latest := none

namespace State

/-- Replace the program counter of one process. -/
def setProc
    (state : State)
    (process : ProcessId)
    (proc : Proc) :
    State :=
  { state with procs := Function.update state.procs process proc }

/-- Replace the record of one curl process. -/
def setCurl
    (state : State)
    (pid : Pid)
    (curl : Curl) :
    State :=
  { state with curls := Function.update state.curls pid (some curl) }

/-- A curl process that exists and has not exited. -/
def running (state : State) (pid : Pid) : Bool :=
  match state.curls pid with
  | none => false
  | some curl => curl.exit.isNone

/-- `kill -0`: the process exists, possibly as a zombie. -/
def probes (state : State) (pid : Pid) : Bool :=
  match state.curls pid with
  | none => false
  | some curl => !curl.reaped

/-- `kill`: a running process exits with the code of the signal. -/
def signal
    (state : State)
    (pid : Pid)
    (code : Nat) :
    State :=
  match state.curls pid with
  | none => state
  | some curl =>
      if curl.exit = none then
        state.setCurl pid { curl with exit := some code }
      else state

end State

end RecomputerGateway.Ota
