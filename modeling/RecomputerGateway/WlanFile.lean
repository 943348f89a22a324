import RecomputerGateway.ShellRead

namespace RecomputerGateway.Wlan

/-!
# The settings in `WLAN.txt`

The read loop of `apply_wifi_config`, beside what the format says: the value
of a key is that of the last line that assigns it.
-/

open TextLines (Line splitLines)
open ShellRead

/-- The variables that the loop sets. -/
structure Settings where
  mode : List Char := []
  apSsid : List Char := []
  apPassword : List Char := []
  staSsid : List Char := []
  staPassword : List Char := []
  deriving DecidableEq

/-- `case "$key" in … esac`. -/
def Settings.assign
    (settings : Settings)
    (key value : List Char) :
    Settings :=
  if key = "MODE".toList ∨ key = "mode".toList then
    { settings with mode := value }
  else if key = "AP_SSID".toList ∨ key = "ap_ssid".toList then
    { settings with apSsid := value }
  else if key = "AP_PASSWORD".toList ∨ key = "ap_password".toList then
    { settings with apPassword := value }
  else if key = "STA_SSID".toList ∨ key = "sta_ssid".toList then
    { settings with staSsid := value }
  else if key = "STA_PASSWORD".toList ∨ key = "sta_password".toList then
    { settings with staPassword := value }
  else settings

/-- The body of the loop, for one line. -/
def readSetting (settings : Settings) (line : Line) : Settings :=
  let (key, value) := readFields '=' line
  settings.assign (stripped key) (stripped value)

/-- `while IFS='=' read -r key value; do … done < "$config_path"`. -/
def parse (text : List Char) : Settings :=
  readLoop readSetting {} [] text

/-! ## The format -/

inductive Key where
  | mode
  | apSsid
  | apPassword
  | staSsid
  | staPassword
  deriving DecidableEq

/-- Both spellings of a key. -/
def Key.ofText? (text : List Char) : Option Key :=
  if text = "MODE".toList ∨ text = "mode".toList then some .mode
  else if text = "AP_SSID".toList ∨ text = "ap_ssid".toList then some .apSsid
  else if text = "AP_PASSWORD".toList ∨ text = "ap_password".toList then
    some .apPassword
  else if text = "STA_SSID".toList ∨ text = "sta_ssid".toList then
    some .staSsid
  else if text = "STA_PASSWORD".toList ∨ text = "sta_password".toList then
    some .staPassword
  else none

def Settings.get (settings : Settings) : Key → List Char
  | .mode => settings.mode
  | .apSsid => settings.apSsid
  | .apPassword => settings.apPassword
  | .staSsid => settings.staSsid
  | .staPassword => settings.staPassword

/-- The line is about the key, whether it assigns it or not. -/
def Names (key : Key) (line : Line) : Prop :=
  Key.ofText? (strip (splitFirst '=' line).1) = some key

instance (key : Key) (line : Line) : Decidable (Names key line) :=
  inferInstanceAs (Decidable (_ = _))

/-- The value that the line assigns to the key. -/
def assignment? (key : Key) (line : Line) : Option (List Char) :=
  if Names key line then (splitFirst '=' line).2.map strip else none

/-- The value of the key in these lines; nothing when no line assigns it. -/
def lastAssigned (key : Key) (lines : List Line) : List Char :=
  (lines.filterMap (assignment? key)).getLast?.getD []

/-- The value of the key in the text. -/
def assigned (key : Key) (text : List Char) : List Char :=
  lastAssigned key (splitLines text)

/-! ## One line -/

theorem Settings.get_assign
    (settings : Settings)
    (name value : List Char)
    (key : Key) :
    (settings.assign name value).get key =
      if Key.ofText? name = some key then value else settings.get key := by
  unfold Settings.assign Key.ofText?
  split_ifs <;> cases key <;> simp_all [Settings.get]

theorem Key.hyphen_not_mem
    {text : List Char}
    {key : Key}
    (named : Key.ofText? text = some key) :
    '-' ∉ text := by
  unfold Key.ofText? at named
  split_ifs at named <;> rename_i spelling <;>
    rcases spelling with rfl | rfl <;> decide

/-- What the script takes for the value in a line. -/
def lineValue (line : Line) : List Char :=
  stripped (lastField '=' ((splitFirst '=' line).2.getD []))

/-- The key is recognised as the format says, for no key is an option. -/
theorem ofText?_stripped
    {name : List Char}
    (oneLine : '\n' ∉ name)
    (key : Key) :
    Key.ofText? (stripped name) = some key ↔
      Key.ofText? (strip name) = some key := by
  rw [stripped_eq oneLine]
  cases isOption : isEchoOption name with
  | false =>
      exact Iff.rfl
  | true =>
      constructor
      · intro named
        have noKey : Key.ofText? [] = none := by decide
        rw [if_pos rfl, noKey] at named
        contradiction
      · intro named
        exact absurd (hyphen_mem_strip isOption) (Key.hyphen_not_mem named)

theorem get_readSetting
    (settings : Settings)
    {line : Line}
    (oneLine : '\n' ∉ line)
    (key : Key) :
    (readSetting settings line).get key =
      if Names key line then lineValue line else settings.get key := by
  have sameKey :=
    ofText?_stripped
      (newline_not_mem_splitFirst '=' oneLine).1 key
  rw [readSetting, readFields, Settings.get_assign]
  exact if_congr sameKey rfl rfl

/-! ## All lines -/

/-- The last line about a key. -/
def lastNaming? (key : Key) (lines : List Line) : Option Line :=
  (lines.filter fun line => Names key line).getLast?

theorem lastNaming?_concat
    (key : Key)
    (lines : List Line)
    (line : Line) :
    lastNaming? key (lines ++ [line]) =
      if Names key line then some line else lastNaming? key lines := by
  by_cases names : Names key line <;> simp [lastNaming?, names]

theorem lastAssigned_concat
    (key : Key)
    (lines : List Line)
    (line : Line) :
    lastAssigned key (lines ++ [line]) =
      (assignment? key line).getD (lastAssigned key lines) := by
  cases assigns : assignment? key line <;> simp [lastAssigned, assigns]

/-- The loop leaves the value of the last line about the key. -/
theorem get_foldl_readSetting
    (key : Key)
    (settings : Settings)
    {lines : List Line}
    (oneLine : ∀ line ∈ lines, '\n' ∉ line) :
    (lines.foldl readSetting settings).get key =
      ((lastNaming? key lines).map lineValue).getD (settings.get key) := by
  induction lines using List.reverseRecOn with
  | nil =>
      rfl
  | append_singleton lines line inductionHypothesis =>
      have lineOneLine : '\n' ∉ line :=
        oneLine line (List.mem_append_right _ (.head []))
      have earlier :=
        inductionHypothesis fun other member =>
          oneLine other (List.mem_append_left _ member)
      rw [List.foldl_concat, get_readSetting _ lineOneLine, earlier,
        lastNaming?_concat]
      split <;> rfl

theorem get_parse
    (key : Key)
    (text : List Char) :
    (parse text).get key =
      ((lastNaming? key (endedLines text)).map lineValue).getD [] := by
  have start : ({} : Settings).get key = [] := by
    cases key <;> rfl
  rw [parse, readLoop_eq_foldl,
    get_foldl_readSetting key {} fun _ => newline_not_mem_endedLines, start]

/-- A line about the key that assigns it decides its value. -/
theorem lastAssigned_eq
    (key : Key)
    (lines : List Line) :
    lastAssigned key lines =
      match lastNaming? key lines with
      | none => []
      | some line =>
          ((splitFirst '=' line).2.map strip).getD (lastAssigned key lines) := by
  induction lines using List.reverseRecOn with
  | nil =>
      rfl
  | append_singleton lines line inductionHypothesis =>
      rw [lastNaming?_concat, lastAssigned_concat]
      by_cases names : Names key line
      · rw [if_pos names, assignment?, if_pos names]
        cases value : (splitFirst '=' line).2 <;> simp [value]
      · rw [if_neg names, assignment?, if_neg names]
        exact inductionHypothesis

/-- The last line decides when no newline ends it and it assigns the key. -/
theorem assigned_eq
    (key : Key)
    (text : List Char) :
    assigned key text =
      ((openLine? text).bind (assignment? key)).getD
        (lastAssigned key (endedLines text)) := by
  rw [assigned, splitLines_eq]
  cases openLine? text with
  | none =>
      simp
  | some line =>
      exact lastAssigned_concat key (endedLines text) line

/--
What the script makes of the key is what the format says.  Of the lines that a
newline ends, the last one about the key counts: its value is read in full, or
it has no value and no line before it gives the key one.  A line that no
newline ends is not read: it may only repeat what the others say.
-/
def Undamaged (key : Key) (text : List Char) : Prop :=
  match
    (openLine? text).bind (assignment? key),
    lastNaming? key (endedLines text)
  with
  | none, none => True
  | none, some line =>
      match (splitFirst '=' line).2 with
      | some rest => ReadInFull '=' rest
      | none => lastAssigned key (endedLines text) = []
  | some value, none => value = []
  | some value, some line => lineValue line = value

/-- The value that the script uses is the one that was last assigned. -/
theorem get_parse_eq_assigned_iff
    (key : Key)
    (text : List Char) :
    (parse text).get key = assigned key text ↔ Undamaged key text := by
  have byLastLine := lastAssigned_eq key (endedLines text)
  rw [get_parse, assigned_eq, Undamaged]
  cases (openLine? text).bind (assignment? key) with
  | some value =>
      cases lastNaming? key (endedLines text) with
      | none =>
          exact eq_comm
      | some line =>
          exact Iff.rfl
  | none =>
      cases named : lastNaming? key (endedLines text) with
      | none =>
          rw [named] at byLastLine
          exact iff_of_true byLastLine.symm trivial
      | some line =>
          rw [named] at byLastLine
          have inLines : line ∈ endedLines text := by
            exact List.mem_of_mem_filter (List.mem_of_getLast? named)
          have oneLine :=
            (newline_not_mem_splitFirst '='
              (newline_not_mem_endedLines inLines)).2
          cases value : (splitFirst '=' line).2 with
          | none =>
              simp only [Option.map_some, Option.getD_some,
                Option.getD_none, lineValue, value]
              exact eq_comm
          | some rest =>
              dsimp only at byLastLine
              rw [value] at byLastLine oneLine
              rw [Option.map_some, Option.getD_some] at byLastLine
              simp only [Option.map_some, Option.getD_some,
                Option.getD_none, lineValue, value, byLastLine]
              exact stripped_lastField_iff (by decide) (oneLine rest rfl)

/-- The password line is the last one, and no newline ends it. -/
def unterminatedPassword : List Char :=
  "MODE=ap\nAP_SSID=lab\nAP_PASSWORD=12345678".toList

/-- A password of eight characters, the last of them an equals sign. -/
def passwordWithEquals : List Char :=
  "MODE=ap\nAP_SSID=lab\nAP_PASSWORD=1234567=\n".toList

/-- The first password is lost, the second one is too short afterwards. -/
theorem get_parse_differs :
    (parse unterminatedPassword).get .apPassword ≠
        assigned .apPassword unterminatedPassword ∧
      (parse passwordWithEquals).get .apPassword ≠
        assigned .apPassword passwordWithEquals := by
  decide +kernel

end RecomputerGateway.Wlan
