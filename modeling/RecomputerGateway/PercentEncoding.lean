import RecomputerGateway.Hexadecimal

namespace RecomputerGateway.PercentEncoding

/-!
# Percent encoding

Some bytes stand for themselves; every other byte becomes a percent sign and
its two hexadecimal digits.

Nothing here refers to a particular choice of the bytes that are kept.
-/

open Hexadecimal (Byte printByte)

/-- The percent sign. -/
def percent : Byte := 37

/-- A byte as a percent sign and two digits. -/
def encodeByte (byte : Byte) : List Byte :=
  percent :: printByte byte

def encode (keeps : Byte → Bool) (bytes : List Byte) : List Byte :=
  bytes.flatMap fun byte => if keeps byte then [byte] else encodeByte byte

/-- The bytes that an encoded text consists of. -/
def isEncoded (keeps : Byte → Bool) (byte : Byte) : Bool :=
  keeps byte || byte = percent || Hexadecimal.isDigit byte

theorem isDigit_of_mem_printByte
    {byte char : Byte}
    (member : char ∈ printByte byte) :
    Hexadecimal.isDigit char = true := by
  have isDigit {value : Nat} (small : value < 16) :
      Hexadecimal.isDigit (Hexadecimal.upperDigit value) = true := by
    rw [Hexadecimal.isDigit, Hexadecimal.digitValue?_upperDigit small]
    rfl
  have bound := byte.isLt
  simp only [printByte, List.mem_cons, List.not_mem_nil, or_false] at member
  rcases member with rfl | rfl
  · exact isDigit (by omega)
  · exact isDigit (by omega)

theorem isEncoded_of_mem
    {keeps : Byte → Bool}
    {bytes : List Byte}
    {char : Byte}
    (member : char ∈ encode keeps bytes) :
    isEncoded keeps char = true := by
  obtain ⟨byte, -, inByte⟩ := List.mem_flatMap.mp member
  simp only [isEncoded, Bool.or_eq_true, decide_eq_true_eq]
  split at inByte
  next kept =>
    rw [List.mem_singleton] at inByte
    exact .inl (.inl (inByte ▸ kept))
  next =>
    rcases List.mem_cons.mp inByte with isPercent | inDigits
    · exact .inl (.inr isPercent)
    · exact .inr (isDigit_of_mem_printByte inDigits)

/-- What is not among the bytes of encoded texts is not in any of them. -/
theorem not_mem_encode
    {keeps : Byte → Bool}
    {char : Byte}
    (foreign : isEncoded keeps char = false)
    (bytes : List Byte) :
    char ∉ encode keeps bytes := by
  intro member
  rw [isEncoded_of_mem member] at foreign
  cases foreign

theorem encode_eq_nil_iff
    (keeps : Byte → Bool)
    (bytes : List Byte) :
    encode keeps bytes = [] ↔ bytes = [] := by
  constructor
  · intro isEmpty
    rw [List.eq_nil_iff_forall_not_mem]
    intro byte member
    have nothing := List.flatMap_eq_nil_iff.mp isEmpty byte member
    split at nothing <;> cases nothing
  · rintro rfl
    rfl

end RecomputerGateway.PercentEncoding
