import Mathlib.Data.List.GetD
import Mathlib.Logic.Function.Iterate

namespace RecomputerGateway.ShiftRegister

/-!
# Feedback shift registers

A register moves down by one position for each bit that enters; when the bit
that leaves it is set, a polynomial is added without carries.  Two sequences
that differ only within as many positions as the register is wide leave
different values behind, if the polynomial sets the position that the shift
vacates.

Nothing here refers to a particular width or polynomial.
-/

/-! ## Bits -/

/-- The bits of a unit, the lowest first. -/
def bits {n : Nat} (unit : BitVec n) : List Bool :=
  (List.range n).map fun position => unit.getLsbD position

/-- Bits as a number of `width` bits, the first one lowest. -/
def word (width : Nat) (sequence : List Bool) : BitVec width :=
  (BitVec.ofBoolListLE sequence).setWidth width

@[simp] theorem length_bits {n : Nat} (unit : BitVec n) :
    (bits unit).length = n := by
  simp [bits]

/-- The bits of units in a row, found by the unit and the place in it. -/
theorem getElem?_flatMap_bits
    {n : Nat}
    (positive : 0 < n)
    (units : List (BitVec n))
    (position : Nat) :
    (units.flatMap bits)[position]? =
      (units[position / n]?).map fun unit => unit.getLsbD (position % n) := by
  induction units generalizing position with
  | nil =>
      rfl
  | cons unit rest inductionHypothesis =>
      rw [List.flatMap_cons]
      rcases Nat.lt_or_ge position n with inUnit | behind
      · rw [List.getElem?_append_left (by rwa [length_bits]),
          Nat.div_eq_of_lt inUnit, Nat.mod_eq_of_lt inUnit]
        simp [bits, inUnit]
      · obtain ⟨later, rfl⟩ := Nat.exists_eq_add_of_le behind
        rw [List.getElem?_append_right (by rwa [length_bits]), length_bits,
          Nat.add_sub_cancel_left, inductionHypothesis,
          Nat.add_div_left later positive, Nat.add_mod_left,
          List.getElem?_cons_succ]

theorem length_flatMap_bits
    {n : Nat}
    (units : List (BitVec n)) :
    (units.flatMap bits).length = units.length * n := by
  induction units with
  | nil =>
      exact (Nat.zero_mul n).symm
  | cons unit rest inductionHypothesis =>
      rw [List.flatMap_cons, List.length_append, length_bits,
        inductionHypothesis, List.length_cons, Nat.succ_mul, Nat.add_comm]

/-- Units in a row are determined by their bits. -/
theorem flatMap_bits_injective
    {n : Nat}
    (positive : 0 < n) :
    Function.Injective fun units : List (BitVec n) => units.flatMap bits := by
  intro first second same
  apply List.ext_getElem?
  intro index
  have sameBit (place : Nat) (inUnit : place < n) :
      (first[index]?).map (fun unit => unit.getLsbD place) =
        (second[index]?).map fun unit => unit.getLsbD place := by
    have found := getElem?_flatMap_bits positive
    have atIndex : (n * index + place) / n = index := by
      rw [Nat.mul_add_div positive, Nat.div_eq_of_lt inUnit, Nat.add_zero]
    have atPlace : (n * index + place) % n = place := by
      rw [Nat.mul_add_mod, Nat.mod_eq_of_lt inUnit]
    have foundFirst := found first (n * index + place)
    have foundSecond := found second (n * index + place)
    rw [atIndex, atPlace] at foundFirst foundSecond
    rw [← foundFirst, ← foundSecond]
    exact congrArg (fun sequence => sequence[n * index + place]?) same
  cases inFirst : first[index]? with
  | none =>
      have lowest := sameBit 0 positive
      rw [inFirst] at lowest
      exact (Option.map_eq_none_iff.mp lowest.symm).symm
  | some unit =>
      cases inSecond : second[index]? with
      | none =>
          have lowest := sameBit 0 positive
          rw [inFirst, inSecond] at lowest
          cases lowest
      | some other =>
          congr 1
          apply BitVec.eq_of_getLsbD_eq
          intro place inUnit
          have sameHere := sameBit place inUnit
          rw [inFirst, inSecond] at sameHere
          exact Option.some.inj sameHere

section Words

variable {width : Nat}

theorem getLsbD_word
    (sequence : List Bool)
    (position : Nat) :
    (word width sequence).getLsbD position =
      (decide (position < width) && sequence.getD position false) := by
  simp [word]

/-- The bits of a unit give the unit back. -/
theorem word_bits
    {n : Nat}
    (unit : BitVec n) :
    word width (bits unit) = unit.setWidth width := by
  apply BitVec.eq_of_getLsbD_eq
  intro position inside
  rw [getLsbD_word, BitVec.getLsbD_setWidth]
  rcases Nat.lt_or_ge position n with inUnit | beyond
  · simp [bits, List.getD, inUnit]
  · simp [bits, List.getD, Nat.not_lt.mpr beyond,
      BitVec.getLsbD_of_ge unit position beyond]

/-- Sequences that fit are told apart by their words. -/
theorem eq_of_word_eq
    {first second : List Bool}
    (sameLength : first.length = second.length)
    (fits : first.length ≤ width)
    (same : word width first = word width second) :
    first = second := by
  apply List.ext_getElem sameLength
  intro position inFirst inSecond
  have inside : position < width := Nat.lt_of_lt_of_le inFirst fits
  have sameBit :
      (word width first).getLsbD position =
        (word width second).getLsbD position := by
    rw [same]
  rw [getLsbD_word, getLsbD_word] at sameBit
  simpa only [inside, decide_true, Bool.true_and,
    List.getD_eq_getElem first false inFirst,
    List.getD_eq_getElem second false inSecond] using sameBit

/-- The first bit is the lowest one. -/
theorem word_cons
    (bit : Bool)
    (rest : List Bool) :
    word width (bit :: rest) =
      (BitVec.ofBool bit).setWidth width ^^^ word width rest <<< 1 := by
  apply BitVec.eq_of_getLsbD_eq
  intro position inside
  rw [BitVec.getLsbD_xor, BitVec.getLsbD_setWidth, BitVec.getLsbD_shiftLeft,
    getLsbD_word, getLsbD_word]
  cases position with
  | zero =>
      simp [inside]
  | succ below =>
      have insideBelow : below < width := Nat.lt_of_succ_lt inside
      simp [inside, insideBelow]

end Words

/-! ## The register -/

section Register

variable {width : Nat} (polynomial : BitVec width)

/-- One shift of the register. -/
def shift (register : BitVec width) : BitVec width :=
  register >>> 1 ^^^ if register.getLsbD 0 then polynomial else 0

/-- Shift the register once for each bit, which enters at the low end. -/
def feed (register : BitVec width) (sequence : List Bool) : BitVec width :=
  sequence.foldl
    (fun value bit =>
      shift polynomial (value ^^^ (BitVec.ofBool bit).setWidth width))
    register

/-- The bits after a shift. -/
theorem getLsbD_shift
    (register : BitVec width)
    (position : Nat) :
    (shift polynomial register).getLsbD position =
      (register.getLsbD (position + 1) ^^
        (register.getLsbD 0 && polynomial.getLsbD position)) := by
  rw [shift, BitVec.getLsbD_xor, BitVec.getLsbD_ushiftRight, Nat.add_comm]
  cases register.getLsbD 0 <;> simp

/-- A shift is linear. -/
theorem shift_xor (first second : BitVec width) :
    shift polynomial (first ^^^ second) =
      shift polynomial first ^^^ shift polynomial second := by
  apply BitVec.eq_of_getLsbD_eq
  intro position inside
  simp only [BitVec.getLsbD_xor, getLsbD_shift, Bool.and_xor_distrib_right,
    Bool.xor_assoc, Bool.xor_left_comm]

/-- Nothing is fed back while the lowest bit is clear. -/
theorem shift_shiftLeft
    {value : BitVec width}
    (fits : value.getLsbD (width - 1) = false) :
    shift polynomial (value <<< 1) = value := by
  apply BitVec.eq_of_getLsbD_eq
  intro position inside
  rw [getLsbD_shift, BitVec.getLsbD_shiftLeft, BitVec.getLsbD_shiftLeft]
  rcases Nat.lt_or_eq_of_le (Nat.le_sub_one_of_lt inside) with lower | top
  · have above : position + 1 < width := Nat.add_lt_of_lt_sub lower
    simp [above]
  · subst position
    simp [fits]

/-- The bit that has left the register is seen at the top. -/
theorem getLsbD_top_shift
    {polynomial : BitVec width}
    (feedsBack : polynomial.getLsbD (width - 1) = true)
    (register : BitVec width) :
    (shift polynomial register).getLsbD (width - 1) =
      register.getLsbD 0 := by
  have vacated : register.getLsbD (width - 1 + 1) = false :=
    BitVec.getLsbD_of_ge register _ (Nat.le_add_of_sub_le (Nat.le_refl _))
  rw [getLsbD_shift, vacated, feedsBack, Bool.and_true, Bool.false_xor]

/-- A shift can be taken back. -/
theorem shift_injective
    {polynomial : BitVec width}
    (feedsBack : polynomial.getLsbD (width - 1) = true) :
    Function.Injective (shift polynomial) := by
  intro first second same
  have lowest : first.getLsbD 0 = second.getLsbD 0 := by
    rw [← getLsbD_top_shift feedsBack first,
      ← getLsbD_top_shift feedsBack second, same]
  apply BitVec.eq_of_getLsbD_eq
  intro position inside
  cases position with
  | zero =>
      exact lowest
  | succ below =>
      have shifted :
          (shift polynomial first).getLsbD below =
            (shift polynomial second).getLsbD below := by
        rw [same]
      rw [getLsbD_shift, getLsbD_shift, lowest] at shifted
      exact Bool.xor_left_inj.mp shifted

/-! ## Several shifts at once -/

/-- Shifts are linear, too, when they follow one another. -/
theorem iterate_shift_xor
    (count : Nat)
    (first second : BitVec width) :
    (shift polynomial)^[count] (first ^^^ second) =
      (shift polynomial)^[count] first ^^^
        (shift polynomial)^[count] second := by
  induction count generalizing first second with
  | zero =>
      rfl
  | succ count inductionHypothesis =>
      rw [Function.iterate_succ_apply, shift_xor, inductionHypothesis]
      rfl

/-- Bits that are clear leave the register without feeding anything back. -/
theorem iterate_shift_of_clear
    (count : Nat)
    (register : BitVec width)
    (clear :
      ∀ position, position < count → register.getLsbD position = false) :
    (shift polynomial)^[count] register = register >>> count := by
  induction count generalizing register with
  | zero =>
      exact (BitVec.ushiftRight_zero register).symm
  | succ count inductionHypothesis =>
      have lowest : register.getLsbD 0 = false :=
        clear 0 (Nat.zero_lt_succ count)
      have once : shift polynomial register = register >>> 1 := by
        rw [shift, lowest]
        exact BitVec.xor_zero
      have stillClear :
          ∀ position,
            position < count → (register >>> 1).getLsbD position = false := by
        intro position inside
        rw [BitVec.getLsbD_ushiftRight, Nat.add_comm]
        exact clear (position + 1) (Nat.succ_lt_succ inside)
      rw [Function.iterate_succ_apply, once,
        inductionHypothesis (register >>> 1) stillClear,
        ← BitVec.shiftRight_add, Nat.add_comm]

/-- The lowest `count` bits of a register. -/
def low (count : Nat) (register : BitVec width) : BitVec width :=
  (register.setWidth count).setWidth width

theorem getLsbD_low
    (count : Nat)
    (register : BitVec width)
    (position : Nat) :
    (low count register).getLsbD position =
      (decide (position < count) && register.getLsbD position) := by
  rw [low, BitVec.getLsbD_setWidth, BitVec.getLsbD_setWidth]
  rcases Nat.lt_or_ge position width with inside | beyond
  · simp [inside]
  · simp [BitVec.getLsbD_of_ge register position beyond]

/--
What `count` shifts feed back depends on the lowest `count` bits alone, so a
table of these values replaces the shifts.
-/
theorem iterate_shift_eq_low
    (count : Nat)
    (register : BitVec width) :
    (shift polynomial)^[count] register =
      register >>> count ^^^ (shift polynomial)^[count] (low count register) := by
  have clear :
      ∀ position,
        position < count →
          (register ^^^ low count register).getLsbD position = false := by
    intro position inside
    simp [getLsbD_low, inside]
  have gone : low count register >>> count = BitVec.ofNat width 0 := by
    apply BitVec.eq_of_getLsbD_eq
    intro position inside
    have notLow : ¬ count + position < count :=
      Nat.not_lt.mpr (Nat.le_add_right count position)
    rw [BitVec.getLsbD_ushiftRight, getLsbD_low, decide_eq_false notLow,
      Bool.false_and, BitVec.getLsbD_zero]
  have parts :
      register = (register ^^^ low count register) ^^^ low count register := by
    rw [BitVec.xor_assoc, BitVec.xor_self, BitVec.xor_zero]
  calc
    (shift polynomial)^[count] register
        = (shift polynomial)^[count] (register ^^^ low count register) ^^^
            (shift polynomial)^[count] (low count register) := by
          rw [← iterate_shift_xor, ← parts]
    _ = (register ^^^ low count register) >>> count ^^^
            (shift polynomial)^[count] (low count register) := by
          rw [iterate_shift_of_clear polynomial count _ clear]
    _ = register >>> count ^^^
            (shift polynomial)^[count] (low count register) := by
          rw [BitVec.ushiftRight_xor_distrib, gone, BitVec.xor_zero]

/-! ## Feeding sequences -/

theorem feed_append
    (register : BitVec width)
    (first second : List Bool) :
    feed polynomial register (first ++ second) =
      feed polynomial (feed polynomial register first) second :=
  List.foldl_append

/--
A sequence that fits into the register can be added at once, before the
shifts: no bit of it has been fed back when its turn comes.
-/
theorem feed_eq_iterate
    (register : BitVec width)
    (sequence : List Bool)
    (fits : sequence.length ≤ width) :
    feed polynomial register sequence =
      (shift polynomial)^[sequence.length]
        (register ^^^ word width sequence) := by
  induction sequence generalizing register with
  | nil =>
      have empty : word width [] = 0 := by simp [word, BitVec.ofBoolListLE]
      rw [empty]
      exact (BitVec.xor_zero).symm
  | cons bit rest inductionHypothesis =>
      have shorter : rest.length ≤ width := Nat.le_of_succ_le fits
      have topClear : (word width rest).getLsbD (width - 1) = false := by
        have beyond : rest.length ≤ width - 1 := Nat.le_sub_one_of_lt fits
        rw [getLsbD_word, List.getD_eq_default rest false beyond,
          Bool.and_false]
      rw [List.length_cons, Function.iterate_succ_apply, word_cons,
        ← BitVec.xor_assoc, shift_xor, shift_shiftLeft polynomial topClear]
      exact inductionHypothesis _ shorter

/-- A unit is added at once, too. -/
theorem feed_bits
    {n : Nat}
    (register : BitVec width)
    (unit : BitVec n)
    (fits : n ≤ width) :
    feed polynomial register (bits unit) =
      (shift polynomial)^[n] (register ^^^ unit.setWidth width) := by
  have bitsFit : (bits unit).length ≤ width :=
    Nat.le_trans (Nat.le_of_eq (length_bits unit)) fits
  rw [feed_eq_iterate polynomial register (bits unit) bitsFit, length_bits,
    word_bits]

/-- Different registers stay different. -/
theorem feed_injective
    {polynomial : BitVec width}
    (feedsBack : polynomial.getLsbD (width - 1) = true)
    (sequence : List Bool) :
    Function.Injective fun register =>
      feed polynomial register sequence := by
  induction sequence with
  | nil =>
      exact Function.injective_id
  | cons bit rest inductionHypothesis =>
      intro first second same
      have afterBit := shift_injective feedsBack (inductionHypothesis same)
      exact (BitVec.xor_left_inj _).mp afterBit

/-- Different sequences that fit leave different registers behind. -/
theorem feed_ne_of_fits
    {polynomial : BitVec width}
    (feedsBack : polynomial.getLsbD (width - 1) = true)
    (register : BitVec width)
    {first second : List Bool}
    (sameLength : first.length = second.length)
    (fits : first.length ≤ width)
    (differ : first ≠ second) :
    feed polynomial register first ≠ feed polynomial register second := by
  intro same
  rw [feed_eq_iterate polynomial register first fits,
    feed_eq_iterate polynomial register second (sameLength ▸ fits),
    sameLength] at same
  have added := (shift_injective feedsBack).iterate second.length same
  exact differ
    (eq_of_word_eq sameLength fits ((BitVec.xor_right_inj register).mp added))

/-- A sequence, cut in front of a window and behind it. -/
theorem eq_append_window
    (width : Nat)
    (sequence : List Bool)
    (start : Nat) :
    sequence =
      sequence.take start ++
        ((sequence.drop start).take width ++
          sequence.drop (start + width)) := by
  rw [← List.drop_drop, List.take_append_drop, List.take_append_drop]

/-- Sequences that differ only in a window agree on both sides of it. -/
theorem same_outside_window
    {first second : List Bool}
    {start : Nat}
    (burst :
      ∀ position,
        first[position]? ≠ second[position]? →
          start ≤ position ∧ position < start + width) :
    first.take start = second.take start ∧
      first.drop (start + width) = second.drop (start + width) := by
  constructor
  · apply List.ext_getElem?
    intro position
    rw [List.getElem?_take, List.getElem?_take]
    split
    next isFront =>
      by_contra differs
      exact Nat.not_le.mpr isFront (burst position differs).1
    next =>
      rfl
  · apply List.ext_getElem?
    intro position
    rw [List.getElem?_drop, List.getElem?_drop]
    by_contra differs
    exact
      Nat.not_lt.mpr (Nat.le_add_right _ _) (burst _ differs).2

/--
Sequences of one length that differ, but nowhere outside `width` positions in
a row, leave different registers behind.
-/
theorem feed_ne_of_burst
    {polynomial : BitVec width}
    (feedsBack : polynomial.getLsbD (width - 1) = true)
    (register : BitVec width)
    {first second : List Bool}
    (sameLength : first.length = second.length)
    (differ : first ≠ second)
    {start : Nat}
    (burst :
      ∀ position,
        first[position]? ≠ second[position]? →
          start ≤ position ∧ position < start + width) :
    feed polynomial register first ≠ feed polynomial register second := by
  obtain ⟨sameFront, sameBack⟩ := same_outside_window burst
  have windowsDiffer :
      (first.drop start).take width ≠ (second.drop start).take width := by
    intro sameWindow
    apply differ
    rw [eq_append_window width first start,
      eq_append_window width second start, sameFront, sameWindow, sameBack]
  have windowsLength :
      ((first.drop start).take width).length =
        ((second.drop start).take width).length := by
    rw [List.length_take, List.length_take, List.length_drop,
      List.length_drop, sameLength]
  rw [eq_append_window width first start,
    eq_append_window width second start, sameFront, sameBack, feed_append,
    feed_append, feed_append, feed_append]
  -- The front is the same register; the back cannot undo a difference.
  exact
    (feed_injective feedsBack _).ne
      (feed_ne_of_fits feedsBack _ windowsLength (List.length_take_le _ _)
        windowsDiffer)

end Register

end RecomputerGateway.ShiftRegister
