import Mathlib.Data.List.Basic

namespace RecomputerGateway.Hexadecimal

/-!
# Hexadecimal digits

Bytes as ASCII hexadecimal digits, and back.
-/

abbrev Byte := BitVec 8

/-- The value of an ASCII hexadecimal digit of either case. -/
def digitValue? (char : Byte) : Option Nat :=
  let code := char.toNat
  if 48 ≤ code ∧ code ≤ 57 then some (code - 48)
  else if 65 ≤ code ∧ code ≤ 70 then some (code - 55)
  else if 97 ≤ code ∧ code ≤ 102 then some (code - 87)
  else none

def isDigit (char : Byte) : Bool :=
  (digitValue? char).isSome

/-- The digit that `%X` prints for a value below 16. -/
def upperDigit (value : Nat) : Byte :=
  if value < 10 then BitVec.ofNat 8 (48 + value)
  else BitVec.ofNat 8 (55 + value)

/-- The upper-case form of an ASCII letter. -/
def toUpper (char : Byte) : Byte :=
  if 97 ≤ char.toNat ∧ char.toNat ≤ 122 then
    BitVec.ofNat 8 (char.toNat - 32)
  else char

/-- The byte with these two digits. -/
def byteOfDigits (high low : Nat) : Byte :=
  BitVec.ofNat 8 (16 * high + low)

/-- `%02X`. -/
def printByte (byte : Byte) : List Byte :=
  [upperDigit (byte.toNat / 16), upperDigit (byte.toNat % 16)]

/-- The bytes whose digits the text consists of. -/
def decode? : List Byte → Option (List Byte)
  | [] => some []
  | [_] => none
  | first :: second :: rest => do
      let high ← digitValue? first
      let low ← digitValue? second
      let tail ← decode? rest
      return byteOfDigits high low :: tail

theorem digitValue?_lt
    {char : Byte}
    {value : Nat}
    (digit : digitValue? char = some value) :
    value < 16 := by
  simp only [digitValue?] at digit
  split at digit
  · cases digit
    omega
  · split at digit
    · cases digit
      omega
    · split at digit
      · cases digit
        omega
      · cases digit

theorem digitValue?_upperDigit
    {value : Nat}
    (isDigit : value < 16) :
    digitValue? (upperDigit value) = some value := by
  decide +revert

/-- The two digits of a byte give it back. -/
theorem byteOfDigits_toNat (byte : Byte) :
    byteOfDigits (byte.toNat / 16) (byte.toNat % 16) = byte := by
  have bound := byte.isLt
  apply BitVec.eq_of_toNat_eq
  simp only [byteOfDigits, BitVec.toNat_ofNat]
  omega

/-- The printed digit of a digit's value is its upper-case form. -/
theorem upperDigit_digitValue?
    {char : Byte}
    {value : Nat}
    (digit : digitValue? char = some value) :
    upperDigit value = toUpper char := by
  have bound := char.isLt
  apply BitVec.eq_of_toNat_eq
  simp only [digitValue?] at digit
  split at digit
  next range =>
    cases digit
    have notLetter : ¬ (97 ≤ char.toNat ∧ char.toNat ≤ 122) := by omega
    have small : char.toNat - 48 < 10 := by omega
    simp only [upperDigit, toUpper, small, notLetter, ↓reduceIte,
      BitVec.toNat_ofNat]
    omega
  next =>
    split at digit
    next range =>
      cases digit
      have notLetter : ¬ (97 ≤ char.toNat ∧ char.toNat ≤ 122) := by omega
      have large : ¬ char.toNat - 55 < 10 := by omega
      simp only [upperDigit, toUpper, large, notLetter, ↓reduceIte,
        BitVec.toNat_ofNat]
      omega
    next =>
      split at digit
      next range =>
        cases digit
        have letter : 97 ≤ char.toNat ∧ char.toNat ≤ 122 := by omega
        have large : ¬ char.toNat - 87 < 10 := by omega
        simp only [upperDigit, toUpper, large, letter, and_self,
          ↓reduceIte, BitVec.toNat_ofNat]
        omega
      next =>
        cases digit

/-- Upper case does not change the value of a digit. -/
theorem digitValue?_toUpper
    {char : Byte}
    {value : Nat}
    (digit : digitValue? char = some value) :
    digitValue? (toUpper char) = some value := by
  have bound := char.isLt
  by_cases letter : 97 ≤ char.toNat ∧ char.toNat ≤ 122
  · have code : (toUpper char).toNat = char.toNat - 32 := by
      simp only [toUpper, letter, and_self, ↓reduceIte,
        BitVec.toNat_ofNat]
      omega
    simp only [digitValue?] at digit ⊢
    rw [code]
    grind
  · simpa [toUpper, letter] using digit

/-- Two digits survive the way through the byte, in upper case. -/
theorem printByte_byteOfDigits
    {first second : Byte}
    {high low : Nat}
    (firstDigit : digitValue? first = some high)
    (secondDigit : digitValue? second = some low) :
    printByte (byteOfDigits high low) = [toUpper first, toUpper second] := by
  have highBound := digitValue?_lt firstDigit
  have lowBound := digitValue?_lt secondDigit
  have value : (byteOfDigits high low).toNat = 16 * high + low := by
    simp only [byteOfDigits, BitVec.toNat_ofNat]
    omega
  have quotient : (16 * high + low) / 16 = high := by omega
  have remainder : (16 * high + low) % 16 = low := by omega
  rw [printByte, value, quotient, remainder,
    upperDigit_digitValue? firstDigit, upperDigit_digitValue? secondDigit]

/-- What a decoded pair of digits and the rest of the text are. -/
theorem decode?_cons_cons
    {first second : Byte}
    {rest bytes : List Byte}
    (decoded : decode? (first :: second :: rest) = some bytes) :
    ∃ high low tail,
      digitValue? first = some high ∧
        digitValue? second = some low ∧
          decode? rest = some tail ∧
            bytes = byteOfDigits high low :: tail := by
  simp only [decode?, Option.bind_eq_bind, Option.bind_eq_some_iff,
    Option.pure_def, Option.some.injEq] at decoded
  obtain ⟨high, firstDigit, low, secondDigit, tail, restDecoded, rfl⟩ :=
    decoded
  exact ⟨high, low, tail, firstDigit, secondDigit, restDecoded, rfl⟩

/-- A text of `2 * count` digits decodes to `count` bytes. -/
theorem decode?_of_digits
    (count : Nat)
    {text : List Byte}
    (length : text.length = 2 * count)
    (digits : ∀ char ∈ text, isDigit char = true) :
    ∃ bytes, decode? text = some bytes ∧ bytes.length = count := by
  induction text using decode?.induct generalizing count with
  | case1 =>
      exact ⟨[], rfl, by simp at length ⊢; omega⟩
  | case2 char =>
      simp at length
      omega
  | case3 first second rest inductionHypothesis =>
      obtain ⟨count, rfl⟩ : ∃ smaller, count = smaller + 1 := by
        cases count with
        | zero => simp at length
        | succ smaller => exact ⟨smaller, rfl⟩
      simp only [List.mem_cons, forall_eq_or_imp] at digits
      obtain ⟨firstDigit, secondDigit, restDigits⟩ := digits
      obtain ⟨high, firstValue⟩ := Option.isSome_iff_exists.mp firstDigit
      obtain ⟨low, secondValue⟩ := Option.isSome_iff_exists.mp secondDigit
      obtain ⟨tail, decoded, tailLength⟩ :=
        inductionHypothesis count
          (by simp at length; omega) restDigits
      refine ⟨byteOfDigits high low :: tail, ?_, by simp [tailLength]⟩
      simp [decode?, firstValue, secondValue, decoded]

/-- Printing the decoded bytes gives the text in upper case. -/
theorem flatMap_printByte_of_decode?
    {text bytes : List Byte}
    (decoded : decode? text = some bytes) :
    bytes.flatMap printByte = text.map toUpper := by
  induction text using decode?.induct generalizing bytes with
  | case1 =>
      cases decoded
      rfl
  | case2 char =>
      cases decoded
  | case3 first second rest inductionHypothesis =>
      obtain ⟨high, low, tail, firstDigit, secondDigit, restDecoded, rfl⟩ :=
        decode?_cons_cons decoded
      rw [List.flatMap_cons, printByte_byteOfDigits firstDigit secondDigit,
        inductionHypothesis restDecoded]
      rfl

/-- Upper case does not change the decoded bytes. -/
theorem decode?_map_toUpper
    {text bytes : List Byte}
    (decoded : decode? text = some bytes) :
    decode? (text.map toUpper) = some bytes := by
  induction text using decode?.induct generalizing bytes with
  | case1 =>
      exact decoded
  | case2 char =>
      cases decoded
  | case3 first second rest inductionHypothesis =>
      obtain ⟨high, low, tail, firstDigit, secondDigit, restDecoded, rfl⟩ :=
        decode?_cons_cons decoded
      simp [decode?, digitValue?_toUpper firstDigit,
        digitValue?_toUpper secondDigit, inductionHypothesis restDecoded]

end RecomputerGateway.Hexadecimal
