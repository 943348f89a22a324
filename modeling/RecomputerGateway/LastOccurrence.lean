import Mathlib.Data.List.Basic

namespace RecomputerGateway.LastOccurrence

/-!
# What stands behind the last occurrence of a pattern

A greedy expression such as `.*url=` matches up to the last occurrence of the
text behind the star.

Nothing here refers to a particular kind of character.
-/

variable {Symbol : Type}

/-- An occurrence does not reach a character that the pattern does not have. -/
theorem prefix_of_prefix_append_separator
    {pattern : List Symbol}
    {separator : Symbol}
    (absent : separator ∉ pattern)
    {front rest : List Symbol}
    (starts : pattern <+: front ++ separator :: rest) :
    pattern <+: front := by
  have withSeparator : front ++ [separator] <+: front ++ separator :: rest :=
    ⟨rest, by simp⟩
  rcases List.prefix_or_prefix_of_prefix starts withSeparator with
    within | beyond
  · rcases List.prefix_concat_iff.mp within with whole | inFront
    · rw [whole] at absent
      exact absurd (List.mem_append_right front (.head _)) absent
    · exact inFront
  · exact absurd (beyond.subset (List.mem_append_right front (.head _))) absent

variable [DecidableEq Symbol]

/-- The text behind the last occurrence of the pattern. -/
def afterLast? (pattern : List Symbol) : List Symbol → Option (List Symbol)
  | [] => if pattern = [] then some [] else none
  | char :: rest =>
      match afterLast? pattern rest with
      | some behind => some behind
      | none =>
          if pattern.isPrefixOf (char :: rest) then
            some ((char :: rest).drop pattern.length)
          else none

variable {pattern : List Symbol}

theorem afterLast?_cons_of_none
    {char : Symbol}
    {rest : List Symbol}
    (notLater : afterLast? pattern rest = none) :
    afterLast? pattern (char :: rest) =
      if pattern.isPrefixOf (char :: rest) then
        some ((char :: rest).drop pattern.length)
      else none := by
  rw [afterLast?, notLater]

theorem afterLast?_nil_eq_none_iff :
    afterLast? pattern [] = none ↔ pattern ≠ [] := by
  simp [afterLast?]

theorem afterLast?_cons_eq_none_iff
    {char : Symbol}
    {rest : List Symbol} :
    afterLast? pattern (char :: rest) = none ↔
      afterLast? pattern rest = none ∧ ¬ pattern <+: char :: rest := by
  rw [afterLast?]
  cases afterLast? pattern rest with
  | some behind => simp
  | none => simp

/-- A pattern does not occur where one of its characters does not. -/
theorem afterLast?_eq_none
    {char : Symbol}
    (needed : char ∈ pattern)
    {text : List Symbol}
    (missing : char ∉ text) :
    afterLast? pattern text = none := by
  induction text with
  | nil =>
      exact afterLast?_nil_eq_none_iff.mpr (List.ne_nil_of_mem needed)
  | cons first rest inductionHypothesis =>
      apply afterLast?_cons_eq_none_iff.mpr
      constructor
      · exact inductionHypothesis fun member => missing (.tail first member)
      · intro starts
        exact missing (starts.subset needed)

/-- A pattern that occurs on neither side of a separator does not occur. -/
theorem afterLast?_append_separator_eq_none
    {separator : Symbol}
    (absent : separator ∉ pattern)
    {front rest : List Symbol}
    (notInFront : afterLast? pattern front = none)
    (notInRest : afterLast? pattern rest = none) :
    afterLast? pattern (front ++ separator :: rest) = none := by
  induction front with
  | nil =>
      apply afterLast?_cons_eq_none_iff.mpr
      refine ⟨notInRest, fun starts => ?_⟩
      have isEmpty : pattern <+: [] :=
        prefix_of_prefix_append_separator absent starts
      exact afterLast?_nil_eq_none_iff.mp notInFront
        (List.prefix_nil.mp isEmpty)
  | cons first others inductionHypothesis =>
      obtain ⟨notLater, notHere⟩ := afterLast?_cons_eq_none_iff.mp notInFront
      apply afterLast?_cons_eq_none_iff.mpr
      refine ⟨inductionHypothesis notLater, fun starts => notHere ?_⟩
      exact prefix_of_prefix_append_separator absent starts

/-- No occurrence begins where the first character of the pattern is missing. -/
theorem afterLast?_append_eq_none
    {first : Symbol}
    {others skipped rest : List Symbol}
    (missing : first ∉ skipped)
    (notInRest : afterLast? (first :: others) rest = none) :
    afterLast? (first :: others) (skipped ++ rest) = none := by
  induction skipped with
  | nil =>
      exact notInRest
  | cons char more inductionHypothesis =>
      apply afterLast?_cons_eq_none_iff.mpr
      constructor
      · exact inductionHypothesis fun member => missing (.tail char member)
      · intro starts
        have same : first = char := (List.cons_prefix_cons.mp starts).1
        exact missing (same ▸ .head more)

/-- The text behind the only occurrence, at the start. -/
theorem afterLast?_self_append
    {first : Symbol}
    {others rest : List Symbol}
    (once : first ∉ others)
    (notInRest : afterLast? (first :: others) rest = none) :
    afterLast? (first :: others) (first :: others ++ rest) = some rest := by
  have notLater := afterLast?_append_eq_none once notInRest
  have starts : (first :: others).isPrefixOf (first :: (others ++ rest)) :=
    List.isPrefixOf_iff_prefix.mpr (List.prefix_append (first :: others) rest)
  rw [List.cons_append, afterLast?_cons_of_none notLater, if_pos starts]
  simp

end RecomputerGateway.LastOccurrence
