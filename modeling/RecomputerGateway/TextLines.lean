import Mathlib.Data.List.Infix

namespace RecomputerGateway.TextLines

/-!
# Lines of a text

The shell tools that the scripts pipe their files through work line by line.
A text is a list of characters; a final newline ends the last line and does
not start another one.
-/

abbrev Line := List Char

/-- The lines of a text, without their newlines. -/
def splitLines : List Char → List Line
  | [] => []
  | char :: rest =>
      if char = '\n' then [] :: splitLines rest
      else
        match splitLines rest with
        | [] => [[char]]
        | line :: lines => (char :: line) :: lines

/-- The text with these lines, each ended by a newline. -/
def joinLines (lines : List Line) : List Char :=
  lines.flatMap fun line => line ++ ['\n']

/-- `sed '/…/d'`: drop the lines that match. -/
def deleteLines (isMatch : Line → Bool) (text : List Char) : List Char :=
  joinLines ((splitLines text).filter fun line => !isMatch line)

/-- `grep -q`, for a pattern that only matches itself. -/
def occursIn (pattern text : List Char) : Bool :=
  (splitLines text).any fun line => decide (pattern <:+: line)

/-- `tail -n1`, without the newline. -/
def lastLine (text : List Char) : Line :=
  (splitLines text).getLast?.getD []

/-- What is appended to the text starts a new line. -/
def EndsLine (text : List Char) : Prop :=
  text = [] ∨ ∃ start, text = start ++ ['\n']

theorem EndsLine.append_newline (text : List Char) :
    EndsLine (text ++ ['\n']) :=
  .inr ⟨text, rfl⟩

@[simp] theorem splitLines_nil : splitLines [] = [] :=
  rfl

@[simp] theorem splitLines_newline (rest : List Char) :
    splitLines ('\n' :: rest) = [] :: splitLines rest := by
  simp [splitLines]

/-- A newline separates the lines before it from those behind it. -/
theorem splitLines_append_newline
    (start rest : List Char) :
    splitLines (start ++ '\n' :: rest) =
      splitLines (start ++ ['\n']) ++ splitLines rest := by
  induction start with
  | nil =>
      simp
  | cons char start inductionHypothesis =>
      by_cases isNewline : char = '\n'
      · subst char
        simp [inductionHypothesis]
      · simp only [List.cons_append, splitLines, isNewline, ↓reduceIte,
          inductionHypothesis]
        cases shape : splitLines (start ++ ['\n']) with
        | nil =>
            -- A text with a newline has a line.
            cases start with
            | nil =>
                simp at shape
            | cons head tail =>
                simp only [List.cons_append, splitLines] at shape
                split at shape
                · simp at shape
                · split at shape <;> simp at shape
        | cons line lines =>
            rfl

/-- Appending to a text that ends a line appends lines. -/
theorem EndsLine.splitLines_append
    {text : List Char}
    (endsLine : EndsLine text)
    (rest : List Char) :
    splitLines (text ++ rest) = splitLines text ++ splitLines rest := by
  rcases endsLine with rfl | ⟨start, rfl⟩
  · simp
  · rw [List.append_assoc, List.singleton_append,
      splitLines_append_newline]

/-- A line without a newline is the only line of the text it makes. -/
theorem splitLines_singleton
    {line : Line}
    (noNewline : '\n' ∉ line) :
    splitLines (line ++ ['\n']) = [line] := by
  induction line with
  | nil =>
      simp
  | cons char line inductionHypothesis =>
      simp only [List.mem_cons, not_or] at noNewline
      have notNewline : char ≠ '\n' := Ne.symm noNewline.1
      simp [splitLines, notNewline, inductionHypothesis noNewline.2]

theorem newline_not_mem_splitLines
    {text : List Char}
    {line : Line}
    (member : line ∈ splitLines text) :
    '\n' ∉ line := by
  induction text generalizing line with
  | nil =>
      simp at member
  | cons char rest inductionHypothesis =>
      by_cases isNewline : char = '\n'
      · subst char
        rw [splitLines_newline, List.mem_cons] at member
        rcases member with rfl | later
        · simp
        · exact inductionHypothesis later
      · have notNewline : '\n' ≠ char := Ne.symm isNewline
        simp only [splitLines, isNewline, ↓reduceIte] at member
        split at member
        · simp_all
        next first lines shape =>
          rw [List.mem_cons] at member
          rcases member with rfl | later
          · have firstFree : '\n' ∉ first :=
              inductionHypothesis (by simp [shape])
            simp [notNewline, firstFree]
          · exact inductionHypothesis (by simp [shape, later])

/-- Joining lines and splitting the text gives the lines back. -/
theorem splitLines_joinLines
    {lines : List Line}
    (noNewline : ∀ line ∈ lines, '\n' ∉ line) :
    splitLines (joinLines lines) = lines := by
  induction lines with
  | nil =>
      rfl
  | cons line lines inductionHypothesis =>
      have first := splitLines_singleton (noNewline line (.head lines))
      have others :=
        inductionHypothesis fun other member =>
          noNewline other (.tail line member)
      simp only [joinLines, List.flatMap_cons] at others ⊢
      rw [(EndsLine.append_newline line).splitLines_append, first, others]
      rfl

/-- The lines left by `deleteLines` are those that do not match. -/
theorem splitLines_deleteLines
    (isMatch : Line → Bool)
    (text : List Char) :
    splitLines (deleteLines isMatch text) =
      (splitLines text).filter fun line => !isMatch line := by
  refine splitLines_joinLines ?_
  intro line member
  exact newline_not_mem_splitLines (List.mem_of_mem_filter member)

/-- Occurrences in two texts glued together at the end of a line. -/
theorem EndsLine.occursIn_append
    {text : List Char}
    (endsLine : EndsLine text)
    (pattern rest : List Char) :
    occursIn pattern (text ++ rest) =
      (occursIn pattern text || occursIn pattern rest) := by
  simp [occursIn, endsLine.splitLines_append]

/-- A whole line is an occurrence. -/
theorem occursIn_of_line
    {text : List Char}
    {line : Line}
    (member : line ∈ splitLines text) :
    occursIn line text = true := by
  simp only [occursIn, List.any_eq_true, decide_eq_true_eq]
  exact ⟨line, member, List.infix_rfl⟩

end RecomputerGateway.TextLines
