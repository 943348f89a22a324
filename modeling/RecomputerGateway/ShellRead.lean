import Mathlib.Data.List.DropRight
import RecomputerGateway.TextLines

namespace RecomputerGateway.ShellRead

/-!
# Reading a file of assignments in the shell

`while IFS='=' read -r key value; do …; done < file` with the BusyBox shell,
and white space stripped by `$(echo "$word" | sed …)`.  A text is the sequence
of its bytes, one character for each; none of them is zero.

Nothing here refers to a particular script.
-/

open TextLines (Line splitLines joinLines)

/-! ## Lines -/

/-- The lines of a text that a newline ends. -/
def endedLines : List Char → List Line
  | [] => []
  | char :: rest =>
      if char = '\n' then [] :: endedLines rest
      else
        match endedLines rest with
        | [] => []
        | line :: lines => (char :: line) :: lines

/-- What stands behind the last newline, unless nothing does. -/
def openLine? : List Char → Option Line
  | [] => none
  | char :: rest =>
      if char = '\n' then openLine? rest
      else
        match endedLines rest with
        | [] => some (char :: (openLine? rest).getD [])
        | _ :: _ => openLine? rest

/-- `while read`: at the end of the file, `read` fails whatever it has read. -/
def readLoop {State : Type}
    (body : State → Line → State) :
    State → Line → List Char → State
  | state, _, [] => state
  | state, line, char :: rest =>
      if char = '\n' then readLoop body (body state line) [] rest
      else readLoop body state (line ++ [char]) rest

/-! ## Fields -/

/-- The text before the first delimiter and the one behind it. -/
def splitFirst (delimiter : Char) (line : Line) : Line × Option Line :=
  (line.takeWhile (· ≠ delimiter),
    match line.dropWhile (· ≠ delimiter) with
    | [] => none
    | _ :: rest => some rest)

/--
What the last variable gets: a delimiter at the end is dropped when there is
no other one, for then the fields are no more than the variables.
-/
def lastField (delimiter : Char) (rest : Line) : Line :=
  if rest.getLast? = some delimiter ∧ delimiter ∉ rest.dropLast then
    rest.dropLast
  else rest

/-- `IFS=delimiter read -r key value`, for a line. -/
def readFields (delimiter : Char) (line : Line) : Line × Line :=
  let (key, rest) := splitFirst delimiter line
  (key, lastField delimiter (rest.getD []))

/-! ## Stripping white space -/

/-- The class `[:space:]` of the C locale. -/
def isSpace (char : Char) : Bool :=
  char ∈ ['\t', '\n', '\x0B', '\x0C', '\r', ' ']

def strip (line : Line) : Line :=
  (line.dropWhile isSpace).rdropWhile isSpace

/-- `-n`, `-e`, `-E` and their combinations are options of `echo`. -/
def isEchoOption : List Char → Bool
  | '-' :: letters =>
      letters ≠ [] && letters.all fun char => char ∈ ['n', 'e', 'E']
  | _ => false

/-- `echo word`. -/
def echo (word : List Char) : List Char :=
  if isEchoOption word then
    if 'n' ∈ word then [] else ['\n']
  else word ++ ['\n']

/-- `sed 's/^[[:space:]]*//;s/[[:space:]]*$//'`. -/
def sedStrip (text : List Char) : List Char :=
  joinLines ((splitLines text).map strip)

/-- `$(command)`, for what the command prints. -/
def substitute (printed : List Char) : List Char :=
  printed.rdropWhile (· = '\n')

/-- `$(echo "$word" | sed …)`. -/
def stripped (word : List Char) : List Char :=
  substitute (sedStrip (echo word))

/-! ## What is read -/

/-- The lines of a text, ended or not. -/
theorem splitLines_eq
    (text : List Char) :
    splitLines text = endedLines text ++ (openLine? text).toList := by
  induction text with
  | nil =>
      rfl
  | cons char rest inductionHypothesis =>
      by_cases isNewline : char = '\n'
      · simp [splitLines, endedLines, openLine?, isNewline,
          inductionHypothesis]
      · cases ended : endedLines rest with
        | nil =>
            rw [ended, List.nil_append] at inductionHypothesis
            cases opened : openLine? rest <;>
              simp [splitLines, endedLines, openLine?, isNewline, ended,
                opened, inductionHypothesis]
        | cons line lines =>
            rw [ended] at inductionHypothesis
            simp [splitLines, endedLines, openLine?, isNewline, ended,
              inductionHypothesis]

/-- The loop runs its body once for each line that a newline ends. -/
theorem readLoop_eq_foldl
    {State : Type}
    (body : State → Line → State)
    (state : State)
    (text : List Char) :
    readLoop body state [] text = (endedLines text).foldl body state := by
  have general
      (start : Line) :
      readLoop body state start text =
        match endedLines text with
        | [] => state
        | line :: lines => lines.foldl body (body state (start ++ line)) := by
    induction text generalizing state start with
    | nil =>
        rfl
    | cons char rest inductionHypothesis =>
        by_cases isNewline : char = '\n'
        · rw [readLoop, if_pos isNewline, inductionHypothesis]
          cases ended : endedLines rest <;>
            simp [endedLines, isNewline, ended]
        · rw [readLoop, if_neg isNewline, inductionHypothesis]
          cases ended : endedLines rest <;>
            simp [endedLines, isNewline, ended]
  rw [general]
  cases endedLines text <;> rfl

theorem newline_not_mem_endedLines
    {text : List Char}
    {line : Line}
    (member : line ∈ endedLines text) :
    '\n' ∉ line := by
  have inSplit : line ∈ splitLines text := by
    rw [splitLines_eq]
    exact List.mem_append_left _ member
  exact TextLines.newline_not_mem_splitLines inSplit

/-! ## What is stripped -/

theorem mem_dropWhile_of_not_isSpace
    {char : Char}
    {line : Line}
    (dark : isSpace char = false)
    (member : char ∈ line) :
    char ∈ line.dropWhile isSpace := by
  induction line with
  | nil =>
      contradiction
  | cons head rest inductionHypothesis =>
      rw [List.dropWhile_cons]
      split
      next isWhite =>
        rcases List.mem_cons.mp member with rfl | later
        · rw [isWhite] at dark
          contradiction
        · exact inductionHypothesis later
      next =>
        exact member

/-- Stripping keeps every character that is no white space. -/
theorem mem_strip_of_not_isSpace
    {char : Char}
    {line : Line}
    (dark : isSpace char = false)
    (member : char ∈ line) :
    char ∈ strip line := by
  have atStart := mem_dropWhile_of_not_isSpace dark member
  rw [strip, List.rdropWhile, List.mem_reverse]
  exact mem_dropWhile_of_not_isSpace dark (List.mem_reverse.mpr atStart)

theorem mem_of_mem_strip
    {char : Char}
    {line : Line}
    (member : char ∈ strip line) :
    char ∈ line := by
  have atStart := (List.rdropWhile_prefix isSpace _).subset member
  exact (List.dropWhile_suffix isSpace).subset atStart

/-- A word comes back stripped, unless `echo` takes it for an option. -/
theorem stripped_eq
    {word : List Char}
    (oneLine : '\n' ∉ word) :
    stripped word = if isEchoOption word then [] else strip word := by
  rw [stripped, echo]
  by_cases isOption : isEchoOption word = true
  · rw [if_pos isOption, if_pos isOption]
    split <;> rfl
  · rw [if_neg isOption, if_neg isOption, sedStrip,
      TextLines.splitLines_singleton oneLine]
    have noNewline : '\n' ∉ strip word :=
      fun member => oneLine (mem_of_mem_strip member)
    have printed : joinLines [strip word] = strip word ++ ['\n'] := by
      simp [joinLines]
    rw [List.map_singleton, printed, substitute,
      List.rdropWhile_concat_pos _ _ _ (by decide),
      List.rdropWhile_eq_self_iff]
    intro nonempty isNewline
    exact noNewline (of_decide_eq_true isNewline ▸ List.getLast_mem nonempty)

theorem mem_of_mem_stripped
    {char : Char}
    {word : List Char}
    (oneLine : '\n' ∉ word)
    (member : char ∈ stripped word) :
    char ∈ word := by
  rw [stripped_eq oneLine] at member
  split at member
  · contradiction
  · exact mem_of_mem_strip member

/-- `echo` prints nothing of an option, which is more than white space. -/
theorem hyphen_mem_strip
    {word : List Char}
    (isOption : isEchoOption word = true) :
    '-' ∈ strip word := by
  refine mem_strip_of_not_isSpace (by decide) ?_
  cases word with
  | nil =>
      contradiction
  | cons head letters =>
      simp only [isEchoOption] at isOption
      split at isOption
      next same =>
        rw [(List.cons.inj same).1]
        exact .head letters
      next =>
        contradiction

/-- Both parts of a line are of its characters. -/
theorem newline_not_mem_splitFirst
    (delimiter : Char)
    {line : Line}
    (oneLine : '\n' ∉ line) :
    '\n' ∉ (splitFirst delimiter line).1 ∧
      ∀ rest ∈ (splitFirst delimiter line).2, '\n' ∉ rest := by
  constructor
  · intro member
    exact oneLine ((List.takeWhile_prefix _).subset member)
  · intro rest isRest member
    simp only [splitFirst] at isRest
    split at isRest
    · contradiction
    next _ behind shape =>
      rw [Option.mem_some_iff] at isRest
      subst rest
      have inTail : '\n' ∈ line.dropWhile (· ≠ delimiter) := by
        rw [shape]
        exact .tail _ member
      exact oneLine ((List.dropWhile_suffix _).subset inTail)

/-! ## Values that are read in full -/

/-- The only delimiter in the text is its last character. -/
def EndsWithOnly (delimiter : Char) (rest : Line) : Prop :=
  rest.getLast? = some delimiter ∧ delimiter ∉ rest.dropLast

/-- Neither `read` nor `echo` takes anything from the value. -/
def ReadInFull (delimiter : Char) (rest : Line) : Prop :=
  ¬ EndsWithOnly delimiter rest ∧ isEchoOption rest = false

theorem stripped_lastField_iff
    {delimiter : Char}
    {rest : Line}
    (dark : isSpace delimiter = false)
    (oneLine : '\n' ∉ rest) :
    stripped (lastField delimiter rest) = strip rest ↔
      ReadInFull delimiter rest := by
  by_cases endsWithOnly : EndsWithOnly delimiter rest
  · have inRest : delimiter ∈ strip rest :=
      mem_strip_of_not_isSpace dark
        (List.mem_of_getLast? endsWithOnly.1)
    have dropped : lastField delimiter rest = rest.dropLast :=
      if_pos endsWithOnly
    have shorterOneLine : '\n' ∉ rest.dropLast :=
      fun member => oneLine (List.mem_of_mem_dropLast member)
    rw [dropped]
    constructor
    · intro same
      rw [← same] at inRest
      exact absurd (mem_of_mem_stripped shorterOneLine inRest)
        endsWithOnly.2
    · intro inFull
      exact absurd endsWithOnly inFull.1
  · have kept : lastField delimiter rest = rest :=
      if_neg endsWithOnly
    rw [kept, stripped_eq oneLine]
    cases isOption : isEchoOption rest with
    | false =>
        exact ⟨fun _ => ⟨endsWithOnly, isOption⟩, fun _ => rfl⟩
    | true =>
        have hyphen := hyphen_mem_strip isOption
        constructor
        · intro same
          rw [← same] at hyphen
          contradiction
        · intro inFull
          exact absurd (isOption.symm.trans inFull.2) (by decide)

end RecomputerGateway.ShellRead
