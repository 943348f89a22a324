import Mathlib.Data.List.Chain
import RecomputerGateway.Transition
import RecomputerGateway.WlanConfig

namespace RecomputerGateway.Wlan

/-!
# Watching for `WLAN.txt`

`check_usb_mounts` runs once a second, over whatever is mounted then.  What it
remembers is the digest of a file; the texts that were applied are recorded
beside it, so that the two can be compared over whole runs.
-/

/-- An entry of `/media`, in the order of the glob. -/
inductive MountPoint where
  | file
  /-- A directory, with the text of its `WLAN.txt` if there is one. -/
  | directory (config : Option (List Char))

/-- `/media` in one tick, if it is a directory. -/
abbrev Media := Option (List MountPoint)

structure Watcher where
  lastConfigMd5 : List Char
  wireless : Wireless
  /-- The texts that were applied, the last of them at the end. -/
  applied : List (List Char)

section
variable (md5sum : List Char → List Char)

/-- What the loop does at the first file it finds. -/
def checkConfig (text : List Char) (watcher : Watcher) : Watcher :=
  let currentMd5 := md5sum text
  if currentMd5 ≠ watcher.lastConfigMd5 then
    match applyWifiConfig text watcher.wireless with
    | (.ok (), wireless) =>
        { lastConfigMd5 := currentMd5
          wireless
          applied := watcher.applied ++ [text] }
    | (.error _, wireless) => { watcher with wireless }
  else watcher

/-- The loop over the mount points. -/
def checkMounts : List MountPoint → Watcher → Watcher
  | [], watcher => watcher
  | .file :: rest, watcher => checkMounts rest watcher
  | .directory none :: rest, watcher => checkMounts rest watcher
  | .directory (some text) :: _, watcher => checkConfig md5sum text watcher

def checkUsbMounts : Media → Watcher → Watcher
  | none, watcher => watcher
  | some mounts, watcher => checkMounts md5sum mounts watcher

/-- One tick after the other; before the first the default is set up. -/
def watching : System Watcher Media where
  Initial watcher :=
    ∃ serial installed,
      watcher =
        { lastConfigMd5 := []
          wireless := initializeDefaultAp serial installed
          applied := [] }
  step? watcher media := some (checkUsbMounts md5sum media watcher)

/-- The text in the first mount that has the file. -/
def selected? (media : Media) : Option (List Char) :=
  (media.getD []).findSome? fun
    | .file => none
    | .directory config => config

/-- No digest is stored, or that of the text applied last. -/
def DigestOfApplied (watcher : Watcher) : Prop :=
  watcher.lastConfigMd5 = [] ∨
    ∃ text,
      watcher.applied.getLast? = some text ∧
        watcher.lastConfigMd5 = md5sum text

/-! ## One tick -/

theorem checkUsbMounts_eq
    (media : Media)
    (watcher : Watcher) :
    checkUsbMounts md5sum media watcher =
      match selected? media with
      | none => watcher
      | some text => checkConfig md5sum text watcher := by
  cases media with
  | none =>
      rfl
  | some mounts =>
      induction mounts with
      | nil =>
          rfl
      | cons mount rest inductionHypothesis =>
          rcases mount with _ | _ | text
          · exact inductionHypothesis
          · exact inductionHypothesis
          · rfl

/-- A text is applied when it is new and valid; nothing else happens. -/
theorem checkConfig_cases
    (text : List Char)
    (watcher : Watcher) :
    (md5sum text ≠ watcher.lastConfigMd5 ∧ (parse text).Valid ∧
        checkConfig md5sum text watcher =
          { lastConfigMd5 := md5sum text
            wireless := (applyWifiConfig text watcher.wireless).2
            applied := watcher.applied ++ [text] }) ∨
      ((md5sum text = watcher.lastConfigMd5 ∨ ¬ (parse text).Valid) ∧
        checkConfig md5sum text watcher = watcher) := by
  by_cases known : md5sum text = watcher.lastConfigMd5
  · right
    exact ⟨.inl known, if_neg (not_not.mpr known)⟩
  · rw [checkConfig, if_pos known, applyWifiConfig]
    by_cases valid : (parse text).Valid
    · left
      rw [applySettings_of_valid valid]
      exact ⟨known, valid, rfl⟩
    · right
      obtain ⟨message, rejected⟩ :=
        applySettings_of_not_valid valid watcher.wireless
      rw [rejected]
      exact ⟨.inr valid, rfl⟩

/-- The status of `apply_wifi_config` says whether the settings are valid. -/
theorem applyWifiConfig_ok_iff
    (text : List Char)
    (wireless : Wireless) :
    (applyWifiConfig text wireless).1 = .ok () ↔ (parse text).Valid := by
  rw [applyWifiConfig]
  by_cases valid : (parse text).Valid
  · rw [applySettings_of_valid valid]
    exact iff_of_true rfl valid
  · obtain ⟨message, rejected⟩ := applySettings_of_not_valid valid wireless
    rw [rejected]
    refine iff_of_false ?_ valid
    intro isOk
    contradiction

/-! ## Runs -/

/--
What holds between two ticks: the digest is that of the text applied last, and
no text was applied twice in a row.
-/
structure Consistent (watcher : Watcher) : Prop where
  digest :
    (watcher.applied = [] ∧ watcher.lastConfigMd5 = []) ∨
      ∃ text,
        watcher.applied.getLast? = some text ∧
          watcher.lastConfigMd5 = md5sum text
  neverTwice : watcher.applied.IsChain (· ≠ ·)

variable {md5sum}

theorem Consistent.ne_of_new
    {watcher : Watcher}
    (consistent : Consistent md5sum watcher)
    {text : List Char}
    (new : md5sum text ≠ watcher.lastConfigMd5) :
    watcher.applied.getLast? ≠ some text := by
  intro isLast
  rcases consistent.digest with ⟨nothing, -⟩ | ⟨last, wasLast, isDigest⟩
  · rw [nothing] at isLast
    contradiction
  · rw [wasLast, Option.some.injEq] at isLast
    subst last
    exact new isDigest.symm

theorem Consistent.checkConfig
    {watcher : Watcher}
    (consistent : Consistent md5sum watcher)
    (text : List Char) :
    Consistent md5sum (checkConfig md5sum text watcher) := by
  rcases checkConfig_cases md5sum text watcher with
    ⟨new, -, applied⟩ | ⟨-, unchanged⟩
  · rw [applied]
    refine ⟨.inr ⟨text, List.getLast?_concat, rfl⟩, ?_⟩
    refine consistent.neverTwice.append (.singleton text) ?_
    intro last isLast other isOther same
    rw [List.head?_cons, Option.mem_some_iff] at isOther
    exact consistent.ne_of_new new (by rw [isLast, same, isOther])
  · rw [unchanged]
    exact consistent

theorem consistent_of_reachable
    {watcher : Watcher}
    (reachable : (watching md5sum).Reachable watcher) :
    Consistent md5sum watcher := by
  refine reachable.invariant (Consistent md5sum) ?_ ?_
  · rintro watcher ⟨serial, installed, rfl⟩
    exact ⟨.inl ⟨rfl, rfl⟩, .nil⟩
  · intro watcher media next _ consistent _ stepped
    rw [← Option.some.inj stepped, checkUsbMounts_eq]
    cases selected? media with
    | none =>
        exact consistent
    | some text =>
        exact consistent.checkConfig text

/-! ## What every tick may do -/

variable (md5sum) in
/-- What holds of a state of the watcher and of the tick that follows. -/
structure Guarantees (watcher : Watcher) : Prop where
  digestOfApplied : DigestOfApplied md5sum watcher
  changesForNew :
    ∀ media,
      (checkUsbMounts md5sum media watcher).wireless ≠ watcher.wireless →
      ∃ text,
        selected? media = some text ∧
          watcher.applied.getLast? ≠ some text ∧
          (applyWifiConfig text watcher.wireless).1 = .ok ()
  rejectedChangesNothing :
    ∀ media text,
      selected? media = some text →
      (applyWifiConfig text watcher.wireless).1 ≠ .ok () →
      checkUsbMounts md5sum media watcher = watcher
  unchangedSkipped :
    ∀ media text,
      selected? media = some text →
      watcher.applied.getLast? = some text →
      checkUsbMounts md5sum media watcher = watcher
  neverTwice : watcher.applied.IsChain (· ≠ ·)

/-- The watcher keeps its guarantees over every sequence of ticks. -/
theorem guarantees_of_reachable
    {watcher : Watcher}
    (reachable : (watching md5sum).Reachable watcher) :
    Guarantees md5sum watcher := by
  have consistent := consistent_of_reachable reachable
  constructor
  · exact consistent.digest.imp And.right id
  · intro media changed
    rw [checkUsbMounts_eq] at changed
    cases selects : selected? media with
    | none =>
        rw [selects] at changed
        contradiction
    | some text =>
        rw [selects] at changed
        rcases checkConfig_cases md5sum text watcher with
          ⟨new, valid, -⟩ | ⟨-, unchanged⟩
        · exact ⟨text, rfl, consistent.ne_of_new new,
            (applyWifiConfig_ok_iff text _).mpr valid⟩
        · exact absurd (congrArg Watcher.wireless unchanged) changed
  · intro media text selects rejected
    rw [checkUsbMounts_eq, selects]
    rcases checkConfig_cases md5sum text watcher with
      ⟨-, valid, -⟩ | ⟨-, unchanged⟩
    · exact absurd ((applyWifiConfig_ok_iff text _).mpr valid) rejected
    · exact unchanged
  · intro media text selects isLast
    rw [checkUsbMounts_eq, selects]
    rcases checkConfig_cases md5sum text watcher with
      ⟨new, -, -⟩ | ⟨-, unchanged⟩
    · exact absurd isLast (consistent.ne_of_new new)
    · exact unchanged
  · exact consistent.neverTwice

end

/-- An access point with a password. -/
def accessPointText : List Char :=
  "MODE=ap\nAP_SSID=lab\nAP_PASSWORD=12345678\n".toList

/-- The digest of that text, and others for other texts. -/
def sampleMd5sum (text : List Char) : List Char :=
  if text = accessPointText then "8b18ee9ccc27e64d2f10cb436b6b8e15".toList
  else 'x' :: text

/-- A watcher that has just started on a device without a configuration. -/
def startedWatcher : Watcher where
  lastConfigMd5 := []
  wireless :=
    initializeDefaultAp none
      { config := { staged := fun _ => none, committed := fun _ => none }
        running := fun _ => none }
  applied := []

theorem guarantees_after_tick :
    Guarantees sampleMd5sum
      (checkUsbMounts sampleMd5sum
        (some [.file, .directory (some accessPointText)])
        startedWatcher) := by
  have started : (watching sampleMd5sum).Reachable startedWatcher :=
    .initial ⟨none, _, rfl⟩
  exact guarantees_of_reachable (started.step trivial rfl)

end RecomputerGateway.Wlan
