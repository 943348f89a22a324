import RecomputerGateway.RustTextCuts
import RecomputerGateway.UciFile

namespace RecomputerGateway.Ups

/-!
# The commands of the UPS daemon

The daemon reads `/etc/config/ups-module` without `libuci`: it looks at each
line by itself, at its first words and at its first and last quote.  The file
is the one that `libuci` writes for a package.
-/

open RustText UciFile

structure Config where
  commands : List (List Char)
  deriving DecidableEq

def commandsWord : List Char :=
  ['c', 'o', 'm', 'm', 'a', 'n', 'd', 's']

/-- What a line with a command starts with, `list commands`. -/
def listCommands : List Char :=
  listWord ++ commandsWord

/-- What one line adds to the commands. -/
def scanLine (line : List Char) : Option (List Char) :=
  let trimmed := trimChars line
  if listCommands <+: trimmed then
    match find? '\'' trimmed, rfind? '\'' trimmed with
    | some start, some stop =>
        if start < stop then
          some ((trimmed.drop (start + 1)).take (stop - (start + 1)))
        else none
    | _, _ => none
  else none

/-- The argument is what reading the file returns. -/
def loadConfig : Except String (List Char) → Except String Config
  | .error reason => .error s!"Failed to read config file: {reason}"
  | .ok content => .ok { commands := (lines content).filterMap scanLine }

/-- A value of the list `commands` of the section of type `ups`. -/
def IsCommand (entry : ListValue) : Prop :=
  entry.part.type.chars = ['u', 'p', 's'] ∧
    entry.name.chars = commandsWord

instance (entry : ListValue) : Decidable (IsCommand entry) :=
  inferInstanceAs (Decidable (_ ∧ _))

def configuredCommand (entry : ListValue) : Option (List Char) :=
  if IsCommand entry then some entry.value.chars else none

/-- The configured commands, in the order of the file. -/
def configuredCommands (package : Package) : List (List Char) :=
  (listValues package).filterMap configuredCommand

/-! ## One line -/

theorem find?_append_quote
    {front : List Char}
    (noQuote : '\'' ∉ front)
    (rest : List Char) :
    find? '\'' (front ++ '\'' :: rest) = some front.length := by
  have nowhere : front.findIdx? (· = '\'') = none := by
    simp only [List.findIdx?_eq_none_iff, decide_eq_false_iff_not]
    intro char member isQuote
    exact noQuote (isQuote ▸ member)
  have here :
      ('\'' :: rest).findIdx? (fun char => decide (char = '\'')) = some 0 :=
    List.findIdx?_cons
  rw [find?, List.findIdx?_append, nowhere, here]
  simp

theorem rfind?_append_quote
    (front : List Char) :
    rfind? '\'' (front ++ ['\'']) = some front.length := by
  have here :
      ('\'' :: front.reverse).findIdx? (fun char => decide (char = '\'')) =
        some 0 :=
    List.findIdx?_cons
  rw [rfind?, List.reverse_append, List.reverse_singleton,
    List.singleton_append, here]
  simp

/-- The text between the first quote and the last one. -/
theorem take_between
    (front body : List Char) :
    ((front ++ '\'' :: (body ++ ['\''])).drop (front.length + 1)).take
        ((front ++ '\'' :: body).length - (front.length + 1)) = body := by
  have bodyLength :
      (front ++ '\'' :: body).length - (front.length + 1) =
        body.length := by
    simp only [List.length_append, List.length_cons]
    omega
  rw [bodyLength, ← List.drop_drop, List.drop_left]
  simp

/-- A word without a blank that starts a name and more starts the name. -/
theorem prefix_name_iff
    {word name : List Char}
    (noBlank : ' ' ∉ word)
    (rest : List Char) :
    word <+: name ++ ' ' :: rest ↔ word <+: name := by
  induction word generalizing name with
  | nil =>
      simp
  | cons char word inductionHypothesis =>
      rw [List.mem_cons, not_or] at noBlank
      cases name with
      | nil =>
          have different : char ≠ ' ' := Ne.symm noBlank.1
          simp [List.cons_prefix_cons, different]
      | cons head name =>
          simp [List.cons_prefix_cons, inductionHypothesis noBlank.2]

/-- The tab in front of an entry is trimmed. -/
theorem trimChars_tab
    (text : List Char) :
    trimChars ('\t' :: text) = trimChars text := by
  have blank : Blank ['\t'] := by
    intro char member
    rw [List.mem_singleton] at member
    subst char
    decide
  exact trimChars_blank_append blank

/-- Neither end of the line of a list is white space, but for its tab. -/
theorem trimChars_listLine
    (name : Name)
    (value : Value) :
    trimChars (listLine name value) =
      listWord ++ (name.chars ++ ' ' :: quoted value.chars) := by
  have tabFirst :
      listLine name value =
        '\t' :: (listWord ++ (name.chars ++ ' ' :: quoted value.chars)) := by
    simp [listLine]
  have quoteLast :
      listWord ++ (name.chars ++ ' ' :: quoted value.chars) =
        (listWord ++ name.chars ++ ' ' :: '\'' ::
          escape value.chars) ++ ['\''] := by
    simp [quoted]
  rw [tabFirst, trimChars_tab, trimChars_eq]
  have startsDark :
      (listWord ++
          (name.chars ++ ' ' :: quoted value.chars)).dropWhile isWhitespace =
        listWord ++ (name.chars ++ ' ' :: quoted value.chars) :=
    List.dropWhile_cons_of_neg (by decide)
  rw [startsDark, quoteLast, List.rdropWhile_concat_neg _ _ _ (by decide)]

/-- A line of a list counts when the name starts with `commands`. -/
theorem scanLine_listLine
    (name : Name)
    (value : Value) :
    scanLine (listLine name value) =
      if commandsWord <+: name.chars then
        some (escape value.chars)
      else none := by
  have trimmed := trimChars_listLine name value
  have noQuote : '\'' ∉ listWord ++ (name.chars ++ [' ']) := by
    have inName := name.not_mem (show isNameChar '\'' = false by decide)
    simp [listWord, inName]
  have prefixTest :
      listCommands <+: trimChars (listLine name value) ↔
        commandsWord <+: name.chars := by
    rw [trimmed, listCommands, List.prefix_append_right_inj,
      prefix_name_iff (by decide)]
  have quotes :
      trimChars (listLine name value) =
        (listWord ++ (name.chars ++ [' '])) ++
          '\'' :: (escape value.chars ++ ['\'']) := by
    simp [trimmed, quoted]
  have quoteLast :
      trimChars (listLine name value) =
        ((listWord ++ (name.chars ++ [' '])) ++
          '\'' :: escape value.chars) ++ ['\''] := by
    simp [trimmed, quoted]
  have first := find?_append_quote noQuote (escape value.chars ++ ['\''])
  rw [← quotes] at first
  have last :=
    rfind?_append_quote
      ((listWord ++ (name.chars ++ [' '])) ++ '\'' :: escape value.chars)
  rw [← quoteLast] at last
  have between :=
    take_between (listWord ++ (name.chars ++ [' '])) (escape value.chars)
  rw [← quotes] at between
  simp only [scanLine, prefixTest, first, last, between]
  simp

/-- No other line starts with the words of a list. -/
theorem scanLine_of_head
    {head : Char}
    {rest : List Char}
    (dark : isWhitespace head = false)
    (notL : head ≠ 'l') :
    scanLine (head :: rest) = none := by
  have startsDark :
      (head :: rest).dropWhile isWhitespace = head :: rest :=
    List.dropWhile_cons_of_neg (by simp [dark])
  have headStays :
      ∃ kept, trimChars (head :: rest) = head :: kept := by
    rw [trimChars_eq, startsDark, ← List.singleton_append]
    by_cases blank : Blank rest
    · rw [rdropWhile_append_of_blank blank]
      exact ⟨[], List.rdropWhile_concat_neg _ [] _ (by simp [dark])⟩
    · rw [rdropWhile_append_of_not_blank _ blank]
      exact ⟨_, rfl⟩
  obtain ⟨kept, trimmed⟩ := headStays
  have notPrefix : ¬ listCommands <+: trimChars (head :: rest) := by
    rw [trimmed]
    intro isPrefix
    exact notL (List.cons_prefix_cons.mp isPrefix).1.symm
  exact if_neg notPrefix

theorem scanLine_blank : scanLine [] = none := by
  decide

theorem scanLine_configLine
    (part : Section) :
    scanLine (configLine part) = none :=
  scanLine_of_head (by decide) (by decide)

theorem scanLine_optionLine
    (name : Name)
    (value : Value) :
    scanLine (optionLine name value) = none := by
  have sameTrimmed (rest : List Char) :
      scanLine ('\t' :: 'o' :: rest) = scanLine ('o' :: rest) := by
    rw [scanLine, scanLine, trimChars_tab]
  exact (sameTrimmed _).trans (scanLine_of_head (by decide) (by decide))

/-! ## The whole file -/

/-- What the scanner takes for a command, and in which form. -/
def scannedCommand (entry : ListValue) : Option (List Char) :=
  if commandsWord <+: entry.name.chars then
    some (escape entry.value.chars)
  else none

theorem filterMap_entryLines
    (part : Section)
    (entry : Entry) :
    (entryLines entry).filterMap scanLine =
      (entryValues part entry).filterMap scannedCommand := by
  cases entry with
  | option name value =>
      simp [entryLines, entryValues, scanLine_optionLine]
  | list name values =>
      rw [entryLines, entryValues, List.filterMap_map, List.filterMap_map]
      congr 1
      funext value
      exact scanLine_listLine name value

theorem filterMap_packageLines
    (package : Package) :
    (packageLines package).filterMap scanLine =
      (listValues package).filterMap scannedCommand := by
  have sections
      (part : Section) :
      (sectionLines part).filterMap scanLine =
        (part.entries.flatMap (entryValues part)).filterMap
          scannedCommand := by
    rw [sectionLines, List.filterMap_cons_none scanLine_blank,
      List.filterMap_cons_none (scanLine_configLine part),
      List.filterMap_flatMap, List.filterMap_flatMap]
    simp only [filterMap_entryLines part]
  rw [packageLines, List.filterMap_append,
    List.filterMap_cons_none scanLine_blank, List.filterMap_nil,
    List.append_nil, listValues, List.filterMap_flatMap,
    List.filterMap_flatMap]
  simp only [sections]

theorem lines_packageText
    (package : Package) :
    lines (packageText package) = packageLines package := by
  have kept :
      ∀ line ∈ packageLines package, stripCarriageReturn line = line := by
    intro line member
    exact if_neg (getLast?_packageLines package line member)
  rw [lines, if_pos (getLast?_packageText package),
    splitLines_packageText, List.map_congr_left kept, List.map_id']

/-- What the daemon makes of a package. -/
theorem loadConfig_packageText
    (package : Package) :
    loadConfig (.ok (packageText package)) =
      .ok { commands := (listValues package).filterMap scannedCommand } := by
  rw [loadConfig, lines_packageText, filterMap_packageLines]

/--
A value of a list whose name starts with `commands` is a configured command
without a quote.
-/
def PlainCommand (entry : ListValue) : Prop :=
  commandsWord <+: entry.name.chars →
    IsCommand entry ∧ '\'' ∉ entry.value.chars

/-- The configured commands are among the scanned ones. -/
theorem prefix_of_isCommand
    {entry : ListValue}
    (configured : IsCommand entry) :
    commandsWord <+: entry.name.chars := by
  rw [configured.2]

/--
A value is neither scanned nor configured, or scanned by mistake, or both, and
then it is scanned in its escaped form.
-/
theorem command_cases
    (entry : ListValue) :
    (scannedCommand entry = none ∧ configuredCommand entry = none ∧
        PlainCommand entry) ∨
      (scannedCommand entry = some (escape entry.value.chars) ∧
        configuredCommand entry = none ∧ ¬ PlainCommand entry) ∨
      (scannedCommand entry = some (escape entry.value.chars) ∧
        configuredCommand entry = some entry.value.chars ∧
        (PlainCommand entry ↔ '\'' ∉ entry.value.chars)) := by
  by_cases scanned : commandsWord <+: entry.name.chars
  · by_cases configured : IsCommand entry
    · refine .inr (.inr ⟨if_pos scanned, if_pos configured, ?_⟩)
      exact ⟨fun plain => (plain scanned).2,
        fun noQuote _ => ⟨configured, noQuote⟩⟩
    · exact .inr (.inl ⟨if_pos scanned, if_neg configured,
        fun plain => configured (plain scanned).1⟩)
  · have notConfigured : ¬ IsCommand entry :=
      fun configured => scanned (prefix_of_isCommand configured)
    exact .inl ⟨if_neg scanned, if_neg notConfigured,
      fun isPrefix => absurd isPrefix scanned⟩

theorem length_configured_le
    (entries : List ListValue) :
    (entries.filterMap configuredCommand).length ≤
      (entries.filterMap scannedCommand).length := by
  induction entries with
  | nil =>
      exact Nat.le_refl 0
  | cons entry rest inductionHypothesis =>
      rcases command_cases entry with
        ⟨notScanned, notConfigured, -⟩ | ⟨scanned, notConfigured, -⟩ |
        ⟨scanned, configured, -⟩
      · rw [List.filterMap_cons_none notScanned,
          List.filterMap_cons_none notConfigured]
        exact inductionHypothesis
      · rw [List.filterMap_cons_some scanned,
          List.filterMap_cons_none notConfigured]
        exact Nat.le_succ_of_le inductionHypothesis
      · rw [List.filterMap_cons_some scanned,
          List.filterMap_cons_some configured]
        exact Nat.succ_le_succ inductionHypothesis

/-- The scanned commands are the configured ones when each of them is. -/
theorem filterMap_scannedCommand_eq_iff
    (entries : List ListValue) :
    entries.filterMap scannedCommand =
        entries.filterMap configuredCommand ↔
      ∀ entry ∈ entries, PlainCommand entry := by
  induction entries with
  | nil =>
      simp
  | cons entry rest inductionHypothesis =>
      rw [List.forall_mem_cons, ← inductionHypothesis]
      rcases command_cases entry with
        ⟨notScanned, notConfigured, plain⟩ | ⟨scanned, notConfigured, notPlain⟩ |
        ⟨scanned, configured, plain⟩
      · rw [List.filterMap_cons_none notScanned,
          List.filterMap_cons_none notConfigured]
        exact ⟨fun same => ⟨plain, same⟩, And.right⟩
      · rw [List.filterMap_cons_some scanned,
          List.filterMap_cons_none notConfigured]
        constructor
        · -- A scanned value too many cannot be made up for later.
          intro same
          have sameLength := congrArg List.length same
          have atLeast := length_configured_le rest
          rw [List.length_cons] at sameLength
          omega
        · intro only
          exact absurd only.1 notPlain
      · rw [List.filterMap_cons_some scanned,
          List.filterMap_cons_some configured, List.cons.injEq,
          escape_eq_self_iff, plain]

/-- Exactly the configured commands, for every package. -/
theorem loadConfig_configuredCommands_iff
    (package : Package) :
    loadConfig (.ok (packageText package)) =
        .ok { commands := configuredCommands package } ↔
      ∀ entry ∈ listValues package, PlainCommand entry := by
  rw [loadConfig_packageText, Except.ok.injEq, Config.mk.injEq]
  exact filterMap_scannedCommand_eq_iff (listValues package)

/-- The section of the shipped file, with one value in one list. -/
def commandSection (list : Name) (value : Value) : Package :=
  [{  type := ⟨['u', 'p', 's'], by decide, by decide⟩
      name := some ⟨['c', 'm', 'd'], by decide, by decide⟩
      entries := [.list list [value]] }]

/-- `echo 'x'` in the list `commands`. -/
def quotedCommand : Package :=
  commandSection ⟨commandsWord, by decide, by decide⟩
    ⟨['e', 'c', 'h', 'o', ' ', '\'', 'x', '\''], by decide⟩

/-- `halt` in a list `commands_off` next to it. -/
def commandSwitchedOff : Package :=
  commandSection
    ⟨commandsWord ++ ['_', 'o', 'f', 'f'], by decide, by decide⟩
    ⟨['h', 'a', 'l', 't'], by decide⟩

/-- A quote comes back escaped, and a list of another name is run. -/
theorem loadConfig_differs :
    loadConfig (.ok (packageText quotedCommand)) ≠
        .ok { commands := configuredCommands quotedCommand } ∧
      loadConfig (.ok (packageText commandSwitchedOff)) ≠
        .ok { commands := configuredCommands commandSwitchedOff } := by
  decide +kernel

end RecomputerGateway.Ups
