import RecomputerGateway.Rs485MainLoop
import RecomputerGateway.RustTextCuts

namespace RecomputerGateway.Rs485

open RustText

/-!
# How the serial driver cuts the line

Every read of the serial port is decoded, trimmed and published on its own.
What the subscribers get therefore depends on the cuts between the reads: a
cut inside a character is replaced on both sides, and white space next to a
cut is lost.
-/

/-- `data_str` of a read. -/
def dataStr (buffer : List Byte) : String :=
  trim (fromUtf8Lossy buffer)

/-- The `data` strings of the uplink messages, joined in order. -/
def publishedData : List (List Byte) → String
  | [] => ""
  | buffer :: rest => dataStr buffer ++ publishedData rest

/-- Reads that deliver a stream. -/
structure Cutting (stream : List Byte) where
  reads : List (List Byte)
  whole : reads.flatten = stream
  nonempty : ∀ buffer ∈ reads, buffer ≠ []
  fits : ∀ buffer ∈ reads, buffer.length ≤ serialBuffer

/--
No read starts inside a character, and white space next to a cut has only
white space on one of the sides of the cut.
-/
def CleanCuts : List (List Byte) → Prop
  | [] => True
  | buffer :: rest =>
      ¬ Continues buffer rest.flatten ∧
        JoinsDark (decodeFrom .start buffer)
          (decodeFrom .start rest.flatten) ∧
          CleanCuts rest

/-! ## The characters behind the strings -/

/-- The characters that a read contributes. -/
def dataChars (buffer : List Byte) : List Char :=
  trimChars (decodeFrom .start buffer)

def publishedChars : List (List Byte) → List Char
  | [] => []
  | buffer :: rest => dataChars buffer ++ publishedChars rest

theorem toList_dataStr
    (buffer : List Byte) :
    (dataStr buffer).toList = dataChars buffer := by
  simp [dataStr, trim, fromUtf8Lossy, dataChars]

theorem toList_publishedData
    (reads : List (List Byte)) :
    (publishedData reads).toList = publishedChars reads := by
  induction reads with
  | nil =>
      rfl
  | cons buffer rest inductionHypothesis =>
      simp [publishedData, publishedChars, toList_dataStr,
        inductionHypothesis]

/--
How the published characters compare with the stream: they are the same, or
there are more of them, or white space is missing.
-/
theorem publishedChars_cases
    (reads : List (List Byte)) :
    weight (decodeFrom .start reads.flatten) ≤
        weight (publishedChars reads) ∧
      (CleanCuts reads ∧ publishedChars reads = dataChars reads.flatten ∨
        ¬ CleanCuts reads ∧
          (weight (decodeFrom .start reads.flatten) <
              weight (publishedChars reads) ∨
            (publishedChars reads).length <
              (dataChars reads.flatten).length)) := by
  induction reads with
  | nil =>
      exact ⟨Nat.le_refl 0, .inl ⟨trivial, rfl⟩⟩
  | cons buffer rest inductionHypothesis =>
      obtain ⟨notLess, compared⟩ := inductionHypothesis
      have published :
          weight (publishedChars (buffer :: rest)) =
            weight (decodeFrom .start buffer) +
              weight (publishedChars rest) := by
        rw [publishedChars, weight_append, dataChars, weight_trimChars]
      cases decodeFrom_append_cases buffer rest.flatten with
      | inr continued =>
          obtain ⟨continues, more⟩ := continued
          rw [← List.flatten_cons] at more
          exact
            ⟨by omega, .inr ⟨fun clean => clean.1 continues, .inl (by omega)⟩⟩
      | inl between =>
          obtain ⟨notContinues, decoded⟩ := between
          obtain ⟨gap, trimmed, gap_iff⟩ :=
            trimChars_append (decodeFrom .start buffer)
              (decodeFrom .start rest.flatten)
          rw [← decoded, ← List.flatten_cons] at trimmed
          have wholeChars :
              dataChars (buffer :: rest).flatten =
                dataChars buffer ++ gap ++ dataChars rest.flatten :=
            trimmed
          have decodedWeight :
              weight (decodeFrom .start (buffer :: rest).flatten) =
                weight (decodeFrom .start buffer) +
                  weight (decodeFrom .start rest.flatten) := by
            rw [List.flatten_cons, decoded, weight_append]
          have wholeLength :
              (dataChars (buffer :: rest).flatten).length =
                (dataChars buffer).length + gap.length +
                  (dataChars rest.flatten).length := by
            rw [wholeChars, List.length_append, List.length_append]
          have publishedLength :
              (publishedChars (buffer :: rest)).length =
                (dataChars buffer).length +
                  (publishedChars rest).length :=
            List.length_append
          refine ⟨by omega, ?_⟩
          cases compared with
          | inr differs =>
              obtain ⟨notClean, differs⟩ := differs
              refine .inr ⟨fun clean => notClean clean.2.2, ?_⟩
              exact differs.imp (fun _ => by omega) (fun _ => by omega)
          | inl same =>
              obtain ⟨clean, same⟩ := same
              by_cases joins :
                  JoinsDark (decodeFrom .start buffer)
                    (decodeFrom .start rest.flatten)
              · refine .inl ⟨⟨notContinues, joins, clean⟩, ?_⟩
                rw [publishedChars, same, wholeChars, gap_iff.mpr joins,
                  List.append_nil]
              · -- The gap is the white space that is lost at this cut.
                have lost : 0 < gap.length :=
                  List.length_pos_of_ne_nil fun empty =>
                    joins (gap_iff.mp empty)
                rw [same] at publishedLength
                exact .inr ⟨fun clean => joins clean.2.1, .inr (by omega)⟩

/-- The stream is published as a whole exactly when the cuts are clean. -/
theorem publishedData_eq_iff
    (reads : List (List Byte)) :
    publishedData reads = dataStr reads.flatten ↔ CleanCuts reads := by
  rw [← String.toList_inj, toList_publishedData, toList_dataStr]
  obtain ⟨-, compared⟩ := publishedChars_cases reads
  cases compared with
  | inl same =>
      exact iff_of_true same.2 same.1
  | inr differs =>
      obtain ⟨notClean, differs⟩ := differs
      refine iff_of_false (fun same => ?_) notClean
      rw [same] at differs
      have sameWeight :
          weight (dataChars reads.flatten) =
            weight (decodeFrom .start reads.flatten) :=
        weight_trimChars _
      omega

/--
Two cuttings of a stream lead to the same published data, and to the stream
itself up to white space at its ends, exactly when the cuts of both are clean.
-/
theorem publishedData_same_iff
    {stream : List Byte}
    (first second : Cutting stream) :
    (publishedData first.reads = publishedData second.reads ∧
        publishedData first.reads = dataStr stream) ↔
      CleanCuts first.reads ∧ CleanCuts second.reads := by
  have first_iff := publishedData_eq_iff first.reads
  have second_iff := publishedData_eq_iff second.reads
  rw [first.whole] at first_iff
  rw [second.whole] at second_iff
  rw [← first_iff, ← second_iff]
  constructor
  · rintro ⟨same, whole⟩
    exact ⟨whole, same ▸ whole⟩
  · rintro ⟨wholeFirst, wholeSecond⟩
    exact ⟨wholeFirst.trans wholeSecond.symm, wholeFirst⟩

/-- `a b` in one read and in two. -/
def blankStream : List Byte := [0x61, 0x20, 0x62]

def oneRead : Cutting blankStream where
  reads := [[0x61, 0x20, 0x62]]
  whole := rfl
  nonempty := by decide
  fits := by decide

def twoReads : Cutting blankStream where
  reads := [[0x61, 0x20], [0x62]]
  whole := rfl
  nonempty := by decide
  fits := by decide

/-- The blank is lost when the read ends with it. -/
theorem publishedData_differs :
    ¬ ∀ (stream : List Byte) (first second : Cutting stream),
        publishedData first.reads = publishedData second.reads := by
  intro same
  have differs :
      publishedData oneRead.reads ≠ publishedData twoReads.reads := by
    decide +kernel
  exact differs (same blankStream oneRead twoReads)

end RecomputerGateway.Rs485
