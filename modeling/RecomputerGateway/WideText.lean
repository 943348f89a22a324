import RecomputerGateway.SpiTransfer

namespace RecomputerGateway.WideText

open SpiTransfer (Byte overwrite)

/-!
# Texts of two bytes a character

A text whose characters have one byte each is written with two, the second of
which is zero.  Places in the wide text are twice those in the text itself, so
that what is written over a wide text can be seen in the text.
-/

def widen (text : List Byte) : List Byte :=
  text.flatMap fun char => [char, 0]

theorem widen_cons (char : Byte) (text : List Byte) :
    widen (char :: text) = char :: 0 :: widen text :=
  List.flatMap_cons

theorem widen_append (first second : List Byte) :
    widen (first ++ second) = widen first ++ widen second :=
  List.flatMap_append

@[simp] theorem length_widen (text : List Byte) :
    (widen text).length = 2 * text.length := by
  induction text with
  | nil => rfl
  | cons char text inductionHypothesis =>
      rw [widen_cons, List.length_cons, List.length_cons,
        inductionHypothesis, List.length_cons]
      omega

theorem take_widen (text : List Byte) (count : Nat) :
    (widen text).take (2 * count) = widen (text.take count) := by
  induction text generalizing count with
  | nil => exact List.take_nil.trans (congrArg widen List.take_nil.symm)
  | cons char text inductionHypothesis =>
      cases count with
      | zero => rfl
      | succ count =>
          rw [List.take_succ_cons, widen_cons, widen_cons,
            ← inductionHypothesis]
          rfl

theorem drop_widen (text : List Byte) (count : Nat) :
    (widen text).drop (2 * count) = widen (text.drop count) := by
  induction text generalizing count with
  | nil => exact List.drop_nil.trans (congrArg widen List.drop_nil.symm)
  | cons char text inductionHypothesis =>
      cases count with
      | zero => rfl
      | succ count =>
          rw [List.drop_succ_cons, widen_cons, ← inductionHypothesis]
          rfl

theorem widen_inj {first second : List Byte} :
    widen first = widen second ↔ first = second := by
  refine ⟨fun same => ?_, congrArg widen⟩
  induction first generalizing second with
  | nil =>
      cases second with
      | nil => rfl
      | cons char second => exact nomatch same
  | cons char first inductionHypothesis =>
      cases second with
      | nil => exact nomatch same
      | cons other second =>
          rw [widen_cons, widen_cons] at same
          obtain ⟨sameChar, rest⟩ := List.cons.inj same
          obtain ⟨-, sameRest⟩ := List.cons.inj rest
          rw [sameChar, inductionHypothesis sameRest]

/-- Bytes that are zero are a wide text of zero characters. -/
theorem replicate_eq_widen (count : Nat) :
    List.replicate (2 * count) 0 = widen (List.replicate count 0) := by
  induction count with
  | zero => rfl
  | succ count inductionHypothesis =>
      rw [List.replicate_succ, widen_cons, ← inductionHypothesis]
      rfl

/-- Writing a wide text over a wide text is writing the text over the text. -/
theorem overwrite_widen
    (content : List Byte)
    (offset : Nat)
    (text : List Byte) :
    overwrite (widen content) (2 * offset) (widen text) =
      widen (overwrite content offset text) := by
  have behind :
      2 * offset + (widen text).length = 2 * (offset + text.length) := by
    rw [length_widen, Nat.mul_add]
  rw [overwrite, behind, take_widen, drop_widen, ← widen_append,
    ← widen_append, overwrite]

theorem overwrite_nil (content : List Byte) (offset : Nat) :
    overwrite content offset [] = content := by
  rw [overwrite, List.append_nil]
  exact List.take_append_drop offset content

/-- What stands at a place after writing. -/
theorem getElem?_overwrite
    {content text : List Byte}
    {offset : Nat}
    (fits : offset + text.length ≤ content.length)
    (place : Nat) :
    (overwrite content offset text)[place]? =
      if offset ≤ place ∧ place < offset + text.length then
        text[place - offset]?
      else content[place]? := by
  have front : (content.take offset).length = offset := by
    rw [List.length_take]
    omega
  rw [overwrite, List.append_assoc]
  by_cases before : place < offset
  · rw [List.getElem?_append_left (by omega),
      List.getElem?_take_of_lt before, if_neg (by omega)]
  · rw [List.getElem?_append_right (by omega), front]
    by_cases within : place < offset + text.length
    · rw [List.getElem?_append_left (by omega), if_pos (by omega)]
    · rw [List.getElem?_append_right (by omega), List.getElem?_drop,
        if_neg (by omega)]
      congr 1
      omega

/-- A text stands at a place. -/
theorem slice_eq_iff
    (content : List Byte)
    (start : Nat)
    (text : List Byte) :
    (content.drop start).take text.length = text ↔
      ∀ place char,
        text[place]? = some char →
          content[start + place]? = some char := by
  constructor
  · intro same place char isChar
    have within : place < text.length :=
      (List.getElem?_eq_some_iff.mp isChar).1
    rw [← same, List.getElem?_take_of_lt within,
      List.getElem?_drop] at isChar
    exact isChar
  · intro stands
    refine List.ext_getElem? fun place => ?_
    by_cases within : place < text.length
    · rw [List.getElem?_take_of_lt within, List.getElem?_drop,
        List.getElem?_eq_getElem within]
      exact stands place _ (List.getElem?_eq_getElem within)
    · have short :
          ((content.drop start).take text.length).length ≤ place := by
        rw [List.length_take]
        omega
      rw [List.getElem?_eq_none short,
        List.getElem?_eq_none (Nat.le_of_not_lt within)]

/-- Where two texts at their places overlap, they are the same. -/
def Agrees
    (upper : List Byte)
    (upperAt : Nat)
    (lower : List Byte)
    (lowerAt : Nat) : Prop :=
  ∀ place char,
    upper[place]? = some char →
      ∀ other lowerChar,
        lowerAt + other = upperAt + place →
          lower[other]? = some lowerChar → lowerChar = char

/-- A text that is put behind another does not touch it. -/
theorem agrees_of_behind
    {upper lower : List Byte}
    {upperAt lowerAt : Nat}
    (behind : lowerAt + lower.length ≤ upperAt) :
    Agrees upper upperAt lower lowerAt := by
  intro place char _ other lowerChar samePlace isLower
  have within := (List.getElem?_eq_some_iff.mp isLower).1
  omega

theorem agrees_nil_upper (upperAt : Nat) (lower : List Byte) (lowerAt : Nat) :
    Agrees [] upperAt lower lowerAt :=
  fun _ _ none => nomatch none

theorem agrees_nil_lower (upper : List Byte) (upperAt lowerAt : Nat) :
    Agrees upper upperAt [] lowerAt :=
  fun _ _ _ _ _ _ none => nomatch none

/-- A text is still there after writing if and only if the texts agree. -/
theorem slice_overwrite_iff
    {content lower upper : List Byte}
    {lowerAt upperAt : Nat}
    (stands : (content.drop lowerAt).take lower.length = lower)
    (fits : upperAt + upper.length ≤ content.length) :
    ((overwrite content upperAt upper).drop lowerAt).take lower.length =
        lower ↔
      Agrees upper upperAt lower lowerAt := by
  rw [slice_eq_iff]
  have before := (slice_eq_iff content lowerAt lower).mp stands
  constructor
  · intro after place char isChar other lowerChar samePlace isLower
    have within : place < upper.length :=
      (List.getElem?_eq_some_iff.mp isChar).1
    have here := after other lowerChar isLower
    rw [getElem?_overwrite fits, samePlace, if_pos (by omega),
      Nat.add_sub_cancel_left, isChar] at here
    exact (Option.some.inj here).symm
  · intro agrees place char isChar
    rw [getElem?_overwrite fits]
    split
    · rename_i overlap
      have within : lowerAt + place - upperAt < upper.length := by omega
      have written := List.getElem?_eq_getElem within
      rw [written]
      refine congrArg some ?_
      exact
        (agrees _ _ written place char (by omega) isChar).symm
    · exact before place char isChar

end RecomputerGateway.WideText
