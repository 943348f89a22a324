import RecomputerGateway.Hexadecimal
import Mathlib.Data.Nat.Digits.Lemmas

namespace RecomputerGateway.CText

/-!
# Text functions of the C standard library

`strsep`, `strtol` and what `printf` writes for a number, on the bytes of a
text before the zero that ends it.
-/

open Hexadecimal

abbrev Text := List Byte

/-- `isspace`. -/
def isSpace (char : Byte) : Bool :=
  decide (char.toNat = 32 ∨ 9 ≤ char.toNat ∧ char.toNat ≤ 13)

/-- `strsep`: the token, and the rest of the text if a delimiter ends it. -/
def strsep (delimiter : Byte) : Text → Text × Option Text
  | [] => ([], none)
  | char :: rest =>
      if char = delimiter then ([], some rest)
      else (char :: (strsep delimiter rest).1, (strsep delimiter rest).2)

theorem strsep_append
    {delimiter : Byte}
    {token : Text}
    (rest : Text)
    (free : delimiter ∉ token) :
    strsep delimiter (token ++ delimiter :: rest) = (token, some rest) := by
  induction token with
  | nil => exact if_pos rfl
  | cons char token inductionHypothesis =>
      have other : char ≠ delimiter := (List.ne_of_not_mem_cons free).symm
      rw [List.cons_append, strsep, if_neg other,
        inductionHypothesis (List.not_mem_of_not_mem_cons free)]

theorem strsep_of_not_mem
    {delimiter : Byte}
    {token : Text}
    (free : delimiter ∉ token) :
    strsep delimiter token = (token, none) := by
  induction token with
  | nil => rfl
  | cons char token inductionHypothesis =>
      have other : char ≠ delimiter := (List.ne_of_not_mem_cons free).symm
      rw [strsep, if_neg other,
        inductionHypothesis (List.not_mem_of_not_mem_cons free)]

/-- The digits that a text begins with. -/
def leadingDigits (base : Nat) : Text → List Nat
  | [] => []
  | char :: rest =>
      match (digitValue? char).filter (· < base) with
      | some digit => digit :: leadingDigits base rest
      | none => []

/-- The digits of a numeral, which may follow `0x` when the base is 16. -/
def numeralDigits (base : Nat) (text : Text) : List Nat :=
  match text with
  | zero :: mark :: rest =>
      if base = 16 ∧ zero.toNat = 48 ∧
          (mark.toNat = 120 ∨ mark.toNat = 88) ∧
          leadingDigits base rest ≠ [] then
        leadingDigits base rest
      else leadingDigits base text
  | _ => leadingDigits base text

/-- Whether there is a minus sign, and what follows the sign. -/
def takeSign : Text → Bool × Text
  | [] => (false, [])
  | char :: rest =>
      if char.toNat = 45 then (true, rest)
      else if char.toNat = 43 then (false, rest)
      else (false, char :: rest)

/-- The magnitude and the sign of a number, if there are any digits. -/
def number? (base : Nat) (text : Text) : Option (Bool × Nat) :=
  let signed := takeSign (text.dropWhile isSpace)
  match numeralDigits base signed.2 with
  | [] => none
  | digit :: digits =>
      some (signed.1, Nat.ofDigits base (digit :: digits).reverse)

/-- `strtol` with a `long` of 64 bits, unless there is nothing to convert. -/
def strtol? (base : Nat) (text : Text) : Option Int :=
  (number? base text).map fun (negative, magnitude) =>
    if negative then max (-9223372036854775808) (-(magnitude : Int))
    else min 9223372036854775807 (magnitude : Int)

/-- `strtoul` with a `long` of 64 bits, unless there is nothing to convert. -/
def strtoul? (base : Nat) (text : Text) : Option Int :=
  (number? base text).map fun (negative, magnitude) =>
    if 18446744073709551615 < magnitude then 18446744073709551615
    else if negative then (-(magnitude : Int)) % 18446744073709551616
    else magnitude

/-- The conversion to an `int` of 32 bits. -/
def toInt (value : Int) : Int := value.bmod 4294967296

/-- The digits of a number, as `%u` and `%X` print them. -/
def printNat (base value : Nat) : Text :=
  if value = 0 then [upperDigit 0]
  else (Nat.digits base value).reverse.map upperDigit

/-- `%d`. -/
def printDecimal (value : Int) : Text :=
  if value < 0 then 45#8 :: printNat 10 value.natAbs
  else printNat 10 value.natAbs

/-- `%X` with a number of zeros before it. -/
def printHex (padding value : Nat) : Text :=
  List.replicate padding (upperDigit 0) ++ printNat 16 value

/-- A text of digits has these digits. -/
theorem leadingDigits_map
    {base : Nat}
    (small : base ≤ 16)
    (digits : List Nat)
    (inBase : ∀ digit ∈ digits, digit < base) :
    leadingDigits base (digits.map upperDigit) = digits := by
  induction digits with
  | nil => rfl
  | cons digit digits inductionHypothesis =>
      have isDigit := inBase digit (.head digits)
      have value :
          (digitValue? (upperDigit digit)).filter (· < base) =
            some digit := by
        rw [digitValue?_upperDigit (Nat.lt_of_lt_of_le isDigit small)]
        exact Option.filter_some_pos (decide_eq_true isDigit)
      rw [List.map_cons, leadingDigits, value]
      exact
        congrArg (digit :: ·)
          (inductionHypothesis fun other member =>
            inBase other (.tail digit member))

/-- The digits that are printed for a number. -/
def printedDigits (base value : Nat) : List Nat :=
  if value = 0 then [0] else (Nat.digits base value).reverse

theorem printNat_eq_map (base value : Nat) :
    printNat base value = (printedDigits base value).map upperDigit := by
  unfold printNat printedDigits
  split
  · rfl
  · rfl

/-- The printed digits are digits of the base, and have the value. -/
theorem printedDigits_spec
    {base : Nat}
    (atLeastTwo : 1 < base)
    (value : Nat) :
    printedDigits base value ≠ [] ∧
      (∀ digit ∈ printedDigits base value, digit < base) ∧
      Nat.ofDigits base (printedDigits base value).reverse = value := by
  unfold printedDigits
  by_cases isZero : value = 0
  · rw [if_pos isZero, isZero]
    refine ⟨List.cons_ne_nil 0 [], ?_, rfl⟩
    exact List.forall_mem_singleton.mpr (Nat.lt_of_succ_lt atLeastTwo)
  · rw [if_neg isZero, List.reverse_reverse]
    refine ⟨?_, ?_, Nat.ofDigits_digits base value⟩
    · exact
        List.reverse_ne_nil_iff.mpr
          (Nat.digits_ne_nil_iff_ne_zero.mpr isZero)
    · intro digit member
      exact Nat.digits_lt_base atLeastTwo (List.mem_reverse.mp member)

/-- A printed digit is neither blank, nor a sign, nor punctuation. -/
theorem upperDigit_toNat
    {value : Nat}
    (isDigit : value < 16) :
    48 ≤ (upperDigit value).toNat ∧ (upperDigit value).toNat ≤ 70 := by
  decide +revert

/-- Digits are not taken for a mark of the base. -/
theorem numeralDigits_map
    {base : Nat}
    (small : base ≤ 16)
    (digits : List Nat)
    (inBase : ∀ digit ∈ digits, digit < base) :
    numeralDigits base (digits.map upperDigit) = digits := by
  match digits, inBase with
  | [], _ => rfl
  | [digit], inBase => exact leadingDigits_map small [digit] inBase
  | digit :: second :: digits, inBase =>
      have isSecond := inBase second (.tail digit (.head digits))
      have bound :=
        (upperDigit_toNat (Nat.lt_of_lt_of_le isSecond small)).2
      have notMark :
          ¬(base = 16 ∧ (upperDigit digit).toNat = 48 ∧
              ((upperDigit second).toNat = 120 ∨
                (upperDigit second).toNat = 88) ∧
              leadingDigits base (digits.map upperDigit) ≠ []) := by
        rintro ⟨-, -, lower | upper, -⟩
        · omega
        · omega
      rw [List.map_cons, List.map_cons, numeralDigits, if_neg notMark]
      exact leadingDigits_map small (digit :: second :: digits) inBase

/-- A text of digits is a number without a sign. -/
theorem number?_digits
    {base : Nat}
    (small : base ≤ 16)
    {digits : List Nat}
    (inBase : ∀ digit ∈ digits, digit < base)
    (nonempty : digits ≠ []) :
    number? base (digits.map upperDigit) =
      some (false, Nat.ofDigits base digits.reverse) := by
  obtain ⟨first, rest, rfl⟩ := List.exists_cons_of_ne_nil nonempty
  obtain ⟨low, high⟩ :=
    upperDigit_toNat (Nat.lt_of_lt_of_le (inBase first (.head rest)) small)
  have notBlank : ¬isSpace (upperDigit first) = true := by
    rw [isSpace, decide_eq_true_iff]
    omega
  have unsigned :
      takeSign (((first :: rest).map upperDigit).dropWhile isSpace) =
        (false, (first :: rest).map upperDigit) := by
    rw [List.map_cons, List.dropWhile_cons_of_neg notBlank, takeSign,
      if_neg (by omega), if_neg (by omega)]
  rw [number?, unsigned, numeralDigits_map small _ inBase]

/-- A minus sign before a number makes it negative. -/
theorem number?_minus
    {base : Nat}
    (small : base ≤ 16)
    {digits : List Nat}
    (inBase : ∀ digit ∈ digits, digit < base)
    (nonempty : digits ≠ []) :
    number? base (45#8 :: digits.map upperDigit) =
      some (true, Nat.ofDigits base digits.reverse) := by
  have signed :
      takeSign ((45#8 :: digits.map upperDigit).dropWhile isSpace) =
        (true, digits.map upperDigit) := rfl
  obtain ⟨first, rest, rfl⟩ := List.exists_cons_of_ne_nil nonempty
  rw [number?, signed, numeralDigits_map small _ inBase]

theorem number?_printNat
    {base : Nat}
    (atLeastTwo : 1 < base)
    (small : base ≤ 16)
    (value : Nat) :
    number? base (printNat base value) = some (false, value) := by
  obtain ⟨nonempty, inBase, isValue⟩ := printedDigits_spec atLeastTwo value
  rw [printNat_eq_map, number?_digits small inBase nonempty, isValue]

/-- `strtol` reads back what `%d` prints. -/
theorem strtol?_printDecimal
    {value : Int}
    (lower : -9223372036854775808 ≤ value)
    (upper : value ≤ 9223372036854775807) :
    strtol? 10 (printDecimal value) = some value := by
  unfold strtol? printDecimal
  by_cases negative : value < 0
  · obtain ⟨nonempty, inBase, isValue⟩ :=
      printedDigits_spec (by decide : 1 < 10) value.natAbs
    rw [if_pos negative, printNat_eq_map,
      number?_minus (by decide) inBase nonempty, isValue]
    refine congrArg some ?_
    simp only [if_true]
    omega
  · rw [if_neg negative, number?_printNat (by decide) (by decide)]
    refine congrArg some ?_
    simp only [Bool.false_eq_true, if_false]
    omega

/-- `strtoul` reads back what `%X` prints, whatever the zeros before it. -/
theorem strtoul?_printHex
    (padding : Nat)
    {value : Nat}
    (upper : value ≤ 18446744073709551615) :
    strtoul? 16 (printHex padding value) = some (value : Int) := by
  obtain ⟨-, inBase, isValue⟩ :=
    printedDigits_spec (by decide : 1 < 16) value
  have padded :
      printHex padding value =
        (List.replicate padding 0 ++ printedDigits 16 value).map
          upperDigit := by
    rw [printHex, printNat_eq_map, List.map_append, List.map_replicate]
  have allDigits :
      ∀ digit ∈ List.replicate padding 0 ++ printedDigits 16 value,
        digit < 16 := by
    intro digit member
    rcases List.mem_append.mp member with zero | printed
    · rw [(List.mem_replicate.mp zero).2]
      decide
    · exact inBase digit printed
  have nonempty :
      List.replicate padding 0 ++ printedDigits 16 value ≠ [] :=
    List.append_ne_nil_of_right_ne_nil _
      (printedDigits_spec (by decide : 1 < 16) value).1
  have magnitude :
      Nat.ofDigits 16
          (List.replicate padding 0 ++ printedDigits 16 value).reverse =
        value := by
    rw [List.reverse_append, List.reverse_replicate,
      Nat.ofDigits_append_replicate_zero, isValue]
  rw [strtoul?, padded, number?_digits (by decide) allDigits nonempty,
    magnitude]
  refine congrArg some ?_
  dsimp only
  rw [if_neg (Nat.not_lt_of_le upper)]
  rfl

/-- A decimal number is a hexadecimal one, too. -/
theorem strtoul?_printDecimal_isSome (value : Int) :
    ∃ other, strtoul? 16 (printDecimal value) = some other := by
  obtain ⟨nonempty, inBase, -⟩ :=
    printedDigits_spec (by decide : 1 < 10) value.natAbs
  have inBase16 :
      ∀ digit ∈ printedDigits 10 value.natAbs, digit < 16 :=
    fun digit member => Nat.lt_trans (inBase digit member) (by decide)
  unfold strtoul? printDecimal
  rw [printNat_eq_map]
  split
  · rw [number?_minus (by decide) inBase16 nonempty]
    exact ⟨_, rfl⟩
  · rw [number?_digits (by decide) inBase16 nonempty]
    exact ⟨_, rfl⟩

/-- A plus sign before a letter that is no digit is not a number. -/
theorem strtol?_plus_letter
    {letter : Byte}
    (noDigit : (digitValue? letter).filter (· < 10) = none)
    (text : Text) :
    strtol? 10 (43#8 :: letter :: text) = none := by
  have noDigits : leadingDigits 10 (letter :: text) = [] := by
    rw [leadingDigits, noDigit]
  have noNumeral : numeralDigits 10 (letter :: text) = [] := by
    cases text with
    | nil => exact noDigits
    | cons char text =>
        rw [numeralDigits, if_neg fun both => (nomatch both.1)]
        exact noDigits
  have isSigned :
      takeSign ((43#8 :: letter :: text).dropWhile isSpace) =
        (false, letter :: text) := rfl
  rw [strtol?, number?, isSigned, noNumeral]
  rfl

/-- An `int` is not changed. -/
theorem toInt_of_range
    {value : Int}
    (lower : -2147483648 ≤ value)
    (upper : value ≤ 2147483647) :
    toInt value = value :=
  Int.bmod_eq_of_le (by omega) (by omega)

theorem printNat_chars
    {base : Nat}
    (atLeastTwo : 1 < base)
    (small : base ≤ 16)
    {value : Nat}
    {char : Byte}
    (member : char ∈ printNat base value) :
    48 ≤ char.toNat ∧ char.toNat ≤ 70 := by
  rw [printNat_eq_map] at member
  obtain ⟨digit, isDigit, rfl⟩ := List.mem_map.mp member
  have inBase := (printedDigits_spec atLeastTwo value).2.1 digit isDigit
  exact upperDigit_toNat (Nat.lt_of_lt_of_le inBase small)

/-- A printed number has digits and perhaps a minus sign. -/
theorem printDecimal_chars
    {value : Int}
    {char : Byte}
    (member : char ∈ printDecimal value) :
    45 ≤ char.toNat ∧ char.toNat ≤ 70 := by
  unfold printDecimal at member
  have digits :
      char ∈ printNat 10 value.natAbs →
        45 ≤ char.toNat ∧ char.toNat ≤ 70 := fun printed =>
    have bounds := printNat_chars (by decide) (by decide) printed
    ⟨Nat.le_trans (by decide) bounds.1, bounds.2⟩
  split at member
  · rcases List.mem_cons.mp member with rfl | printed
    · decide
    · exact digits printed
  · exact digits member

theorem printHex_chars
    {padding value : Nat}
    {char : Byte}
    (member : char ∈ printHex padding value) :
    48 ≤ char.toNat ∧ char.toNat ≤ 70 := by
  rcases List.mem_append.mp member with zero | printed
  · rw [(List.mem_replicate.mp zero).2]
    decide
  · exact printNat_chars (by decide) (by decide) printed

/-- Something is printed for every number. -/
theorem printNat_ne_nil (base value : Nat) : printNat base value ≠ [] := by
  unfold printNat
  split
  · exact List.cons_ne_nil _ _
  · rename_i notZero
    refine mt List.map_eq_nil_iff.mp ?_
    exact
      List.reverse_ne_nil_iff.mpr
        (Nat.digits_ne_nil_iff_ne_zero.mpr notZero)

end RecomputerGateway.CText
