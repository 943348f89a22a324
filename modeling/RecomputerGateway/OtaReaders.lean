import RecomputerGateway.OtaState
import RecomputerGateway.TextLines

namespace RecomputerGateway.Ota

/-!
# The two readers of the download status

`do_progress` and one pass of `ota-progress-daemon` look at the same three
files and classify what they find.  They test the files in different orders:
`do_progress` trusts the existence of `.part` and of the image, the daemon
trusts the text of the progress file.
-/

/-- What a reader sees of the image, of `.part` and of the progress file. -/
structure StatusFiles where
  image : Bool
  part : Bool
  progress : Option Text
  deriving Repr, DecidableEq

/-- The files of a state, as a reader finds them. -/
def State.statusFiles (state : State) : StatusFiles where
  image := state.firmware.isFile imagePath
  part := state.firmware.isFile partPath
  progress := state.status.read? .progress

/-- `[0-9]\+\.[0-9]\+%` at the start of a text. -/
def percentAt (text : Text) : Option Text :=
  let whole := text.takeWhile Char.isDigit
  match text.drop whole.length with
  | '.' :: rest =>
      let fraction := rest.takeWhile Char.isDigit
      match rest.drop fraction.length with
      | '%' :: _ =>
          if whole ≠ [] ∧ fraction ≠ [] then
            some (whole ++ '.' :: fraction ++ ['%'])
          else none
      | _ => none
  | _ => none

/--
`grep -o '[0-9]\+\.[0-9]\+%'` on one line, from left to right; `skip`
characters belong to the last match.
-/
def percents (skip : Nat) : Text → List Text
  | [] => []
  | char :: rest =>
      match skip with
      | skip + 1 => percents skip rest
      | 0 =>
          match percentAt (char :: rest) with
          | some percent => percent :: percents (percent.length - 1) rest
          | none => percents 0 rest

/-- The percentage that both readers cut out of curl's progress bar. -/
def lastPercent (progress : Text) : Text :=
  let translated :=
    progress.map fun char => if char = '\r' then '\n' else char
  (percents 0 (TextLines.lastLine translated)).getLast?.getD []

/-- The return code of a command and what it prints. -/
structure Report where
  code : Nat
  output : Text
  error : Text
  deriving Repr, DecidableEq

/-- `do_progress`. -/
def doProgress (files : StatusFiles) : Report :=
  if files.image ∧ files.progress = none then
    { code := 0, output := [], error := [] }
  else
    match files.progress with
    | none =>
        { code := 254, output := [],
          error := "download not in progress\n".toList }
    | some text =>
        if files.part then
          let progress := lastPercent text
          if progress ≠ [] then
            { code := 1, output := progress ++ ['\n'], error := [] }
          else
            { code := 1, output := "0%\n".toList, error := [] }
        else if !files.image then
          { code := 2, output := [], error := text }
        else
          { code := 0, output := [], error := [] }

/-- The values of `status` in `/www/ota-progress.json`. -/
inductive DaemonStatus where
  | complete
  | failed
  | cancelled
  | downloading
  | idle
  deriving Repr, DecidableEq

/-- The name of a status in the JSON file. -/
def DaemonStatus.name : DaemonStatus → String
  | .complete => "complete"
  | .failed => "failed"
  | .cancelled => "cancelled"
  | .downloading => "downloading"
  | .idle => "idle"

/-- What one pass of the daemon publishes. -/
structure DaemonReport where
  status : DaemonStatus
  progress : Text
  deriving Repr, DecidableEq

/-- The content of `/www/ota-progress.json`. -/
def DaemonReport.json (report : DaemonReport) : Text :=
  "\x7b\"status\":\"".toList ++ report.status.name.toList ++
    "\",\"progress\":\"".toList ++ report.progress ++
    "\"\x7d\n".toList

/-- One pass of the loop of `ota-progress-daemon`. -/
def daemonPass (files : StatusFiles) : DaemonReport :=
  if files.image ∧ files.progress = none then
    { status := .complete, progress := "100%".toList }
  else
    match files.progress with
    | some text =>
        if TextLines.occursIn "Download failed!".toList text then
          { status := .failed, progress := "0%".toList }
        else if TextLines.occursIn "Canceled!".toList text then
          { status := .cancelled, progress := "0%".toList }
        else
          let progress := lastPercent text
          if progress ≠ [] then
            { status := .downloading, progress := progress }
          else
            { status := .downloading, progress := "0%".toList }
    | none => { status := .idle, progress := "0%".toList }

/-- The return code of `do_progress` that goes with a status of the daemon. -/
def DaemonStatus.progressCode : DaemonStatus → Nat
  | .complete => 0
  | .downloading => 1
  | .failed => 2
  | .cancelled => 2
  | .idle => 254

/-- The two readers classify the files in the same way. -/
def ReadersAgree (files : StatusFiles) : Prop :=
  (doProgress files).code = (daemonPass files).status.progressCode

instance (files : StatusFiles) : Decidable (ReadersAgree files) :=
  inferInstanceAs (Decidable (_ = _))

/-- The text says that the download has ended without success. -/
def endMarked (text : Text) : Bool :=
  TextLines.occursIn "Download failed!".toList text ||
    TextLines.occursIn "Canceled!".toList text

/-- On which files the readers agree. -/
def Consistent (files : StatusFiles) : Prop :=
  ∀ text,
    files.progress = some text →
    if files.part then
      endMarked text = false
    else
      files.image = false ∧ endMarked text = true

theorem doProgress_code_of_some
    {files : StatusFiles}
    {text : Text}
    (present : files.progress = some text) :
    (doProgress files).code =
      if files.part then 1 else if files.image then 0 else 2 := by
  unfold doProgress
  rw [present]
  cases files.part <;> cases files.image <;>
    simp only [reduceCtorEq, and_false, ↓reduceIte, Bool.false_eq_true,
      Bool.not_true, Bool.not_false]
  all_goals
    split <;> rfl

theorem daemonPass_code_of_some
    {files : StatusFiles}
    {text : Text}
    (present : files.progress = some text) :
    (daemonPass files).status.progressCode =
      if endMarked text then 2 else 1 := by
  unfold daemonPass endMarked
  rw [present]
  simp only [reduceCtorEq, and_false, ↓reduceIte]
  cases TextLines.occursIn "Download failed!".toList text with
  | true =>
      rfl
  | false =>
      cases TextLines.occursIn "Canceled!".toList text with
      | true =>
          rfl
      | false =>
          simp only [Bool.false_eq_true, ↓reduceIte, Bool.or_self]
          split <;> rfl

/-- The readers agree exactly on consistent files. -/
theorem readersAgree_iff (files : StatusFiles) :
    ReadersAgree files ↔ Consistent files := by
  cases present : files.progress with
  | none =>
      cases shape : files.image <;>
        simp [ReadersAgree, Consistent, doProgress, daemonPass, present,
          shape, DaemonStatus.progressCode]
  | some text =>
      unfold ReadersAgree Consistent
      rw [doProgress_code_of_some present, daemonPass_code_of_some present]
      cases files.part <;> cases files.image <;>
        cases marked : endMarked text <;> simp [present, marked]

/-- While a download is running both readers show the same percentage. -/
theorem same_percentage
    {files : StatusFiles}
    (code : (doProgress files).code = 1)
    (status : (daemonPass files).status = .downloading) :
    (doProgress files).output = (daemonPass files).progress ++ ['\n'] := by
  cases present : files.progress with
  | none =>
      cases shape : files.image <;>
        simp [doProgress, present, shape] at code
  | some text =>
      have isPart : files.part = true := by
        rw [doProgress_code_of_some present] at code
        by_contra absent
        simp only [absent, ↓reduceIte] at code
        split at code <;> cases code
      unfold daemonPass at status ⊢
      unfold doProgress
      rw [present] at status ⊢
      simp only [reduceCtorEq, and_false, ↓reduceIte, isPart] at status ⊢
      split at status
      · cases status
      next notFailed =>
        split at status
        · cases status
        next notCancelled =>
          simp only [notFailed, notCancelled]
          split <;> rfl

end RecomputerGateway.Ota
