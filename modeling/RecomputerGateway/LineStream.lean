import Mathlib.Data.List.Infix

namespace RecomputerGateway.LineStream

/-!
# Lines of a stream

A stream is read in pieces, and a line is complete when the item that ends it
has been read.  Items that end no line because nothing stands before them are
skipped.  What has been read since the last complete line is carried over to
the next piece, so that the lines do not depend on how the stream is cut.
-/

variable {α : Type} (isEnd : α → Bool)

/-- The part of what was carried over that belongs to a line. -/
def started (carried : List α) : List α :=
  carried.dropWhile isEnd

/-- The complete lines of a piece, and what is carried over behind it. -/
def scan (carried : List α) : List α → List (List α) × List α
  | [] => ([], carried)
  | item :: rest =>
      if isEnd item = true ∧ (started isEnd carried).isEmpty = false then
        let (lines, left) := scan [] rest
        (started isEnd carried :: lines, left)
      else scan (carried ++ [item]) rest

/-- The complete lines of a stream. -/
def lines (stream : List α) : List (List α) :=
  (scan isEnd [] stream).1

/-- What follows the last complete line of a stream. -/
def unended (stream : List α) : List α :=
  (scan isEnd [] stream).2

variable {isEnd}

/-- The pieces of a stream are scanned one after the other. -/
theorem scan_append
    (carried first second : List α) :
    scan isEnd carried (first ++ second) =
      ((scan isEnd carried first).1 ++
          (scan isEnd (scan isEnd carried first).2 second).1,
        (scan isEnd (scan isEnd carried first).2 second).2) := by
  induction first generalizing carried with
  | nil => rfl
  | cons item rest inductionHypothesis =>
      simp only [List.cons_append, scan]
      split
      · rw [inductionHypothesis]
        rfl
      · rw [inductionHypothesis]

/-- Items that end lines are carried over as long as no line has started. -/
theorem scan_of_no_end
    (carried : List α)
    {piece : List α}
    (noEnd : ∀ item ∈ started isEnd (carried ++ piece), isEnd item = false) :
    scan isEnd carried piece = ([], carried ++ piece) := by
  induction piece generalizing carried with
  | nil => rw [scan, List.append_nil]
  | cons item rest inductionHypothesis =>
      rw [scan, if_neg]
      · rw [List.append_cons] at noEnd
        rw [inductionHypothesis _ noEnd, List.append_assoc,
          List.singleton_append]
      · rintro ⟨ends, hasStarted⟩
        -- The item would be part of the line that has started.
        have member : item ∈ started isEnd (carried ++ item :: rest) := by
          rw [started, List.dropWhile_append, ← started, hasStarted]
          exact List.mem_append_right _ (.head rest)
        rw [noEnd item member] at ends
        exact Bool.false_ne_true ends

/-- The first line of a piece, behind items that end no line. -/
theorem scan_line
    {carried line : List α}
    {item : α}
    (isLine : started isEnd carried = line)
    (nonempty : line ≠ [])
    (ends : isEnd item = true)
    (rest : List α) :
    scan isEnd carried (item :: rest) =
      (line :: (scan isEnd [] rest).1, (scan isEnd [] rest).2) := by
  subst isLine
  rw [scan, if_pos ⟨ends, by simpa using nonempty⟩]

end RecomputerGateway.LineStream
