import RecomputerGateway.EepromBursts
import RecomputerGateway.EepromRecord

namespace RecomputerGateway.Eeprom

/-!
# The checksum of the writer

`write_eeprom.sh` has a helper of its own for the checksum, which calls
`zlib.crc32`.  It looks eight shifts up in a table, where the reader makes them
one after the other.
-/

open ShiftRegister (low shift)

/-! ## `zlib.crc32` -/

/-- One step of the loop that fills the table. -/
def tableBit (entry : BitVec 32) : BitVec 32 :=
  if entry.getLsbD 0 then 0xEDB88320 ^^^ entry >>> 1 else entry >>> 1

/-- An entry for each value of a byte. -/
def crcTable : List (BitVec 32) :=
  (List.range 256).map fun index => tableBit^[8] (BitVec.ofNat 32 index)

/-- One byte of the data. -/
def zlibByte (crc : BitVec 32) (byte : Byte) : BitVec 32 :=
  crc >>> 8 ^^^
    crcTable.getD ((crc ^^^ byte.setWidth 32) &&& 0xFF).toNat 0

/-- `zlib.crc32`. -/
def zlibCrc32 (data : List Byte) : BitVec 32 :=
  data.foldl zlibByte 0xFFFFFFFF ^^^ 0xFFFFFFFF

/-! ## The helper -/

/-- The last `width` hexadecimal digits of a value. -/
def hexText : Nat → Nat → List Byte
  | 0, _ => []
  | width + 1, value =>
      hexText width (value / 16) ++ [Hexadecimal.upperDigit (value % 16)]

/--
What `$(calc_crc32 FILE)` stands for, unless `python3` is missing and the
helper exits with an error.
-/
def crcText? (python3 : Bool) (data : List Byte) : Option (List Byte) :=
  if python3 then some (hexText 8 (zlibCrc32 data).toNat) else none

/-! ## One table lookup for eight shifts -/

theorem tableBit_eq_shift (entry : BitVec 32) :
    tableBit entry = shift polynomial entry := by
  rw [tableBit, shift]
  cases entry.getLsbD 0 with
  | false =>
      exact BitVec.xor_zero.symm
  | true =>
      exact BitVec.xor_comm _ _

/-- The entry for the lowest byte of a register is what it feeds back. -/
theorem getD_crcTable (register : BitVec 32) :
    crcTable.getD (register &&& 0xFF).toNat 0 =
      (shift polynomial)^[8] (low 8 register) := by
  have sameBit : tableBit = shift polynomial := funext tableBit_eq_shift
  have masked : register &&& 0xFF = low 8 register := by
    apply BitVec.eq_of_getLsbD_eq
    intro position inside
    have mask : (0xFF : BitVec 32).getLsbD position = decide (position < 8) := by
      decide +revert
    rw [BitVec.getLsbD_and, ShiftRegister.getLsbD_low, mask, Bool.and_comm]
  have isByte : (low 8 register).toNat < 256 := by
    rw [low, BitVec.toNat_setWidth, BitVec.toNat_setWidth]
    omega
  rw [masked, crcTable, sameBit, List.getD_eq_getElem?_getD, List.getElem?_map,
    List.getElem?_range isByte]
  simp

theorem crcByte_eq_zlibByte
    (crc : BitVec 32)
    (byte : Byte) :
    crcByte crc byte = zlibByte crc byte := by
  have sameBit : crcBit = shift polynomial := funext crcBit_eq_shift
  have gone : byte.setWidth 32 >>> 8 = 0#32 := by
    apply BitVec.eq_of_getLsbD_eq
    intro position inside
    simp
  rw [crcByte, sameBit, zlibByte, getD_crcTable,
    ShiftRegister.iterate_shift_eq_low, BitVec.ushiftRight_xor_distrib, gone,
    BitVec.xor_zero]

/-! ## Printed and read back -/

/-- The last `count` bytes of a value, the highest one first. -/
def networkBytes : Nat → Nat → List Byte
  | 0, _ => []
  | count + 1, value =>
      networkBytes count (value / 256) ++ [BitVec.ofNat 8 value]

theorem networkOrder_networkBytes_four
    {value : Nat}
    (fits : value < 4294967296) :
    networkOrder (networkBytes 4 value) = value := by
  simp [networkOrder, networkBytes]
  omega

/-- One more byte, as two digits behind the others. -/
theorem decode?_append_pair
    {text bytes : List Byte}
    {first second : Byte}
    {high low : Nat}
    (decoded : Hexadecimal.decode? text = some bytes)
    (firstDigit : Hexadecimal.digitValue? first = some high)
    (secondDigit : Hexadecimal.digitValue? second = some low) :
    Hexadecimal.decode? (text ++ [first, second]) =
      some (bytes ++ [Hexadecimal.byteOfDigits high low]) := by
  induction text using Hexadecimal.decode?.induct generalizing bytes with
  | case1 =>
      cases decoded
      simp [Hexadecimal.decode?, firstDigit, secondDigit]
  | case2 char =>
      cases decoded
  | case3 head next rest inductionHypothesis =>
      obtain ⟨high, low, tail, headDigit, nextDigit, restDecoded, rfl⟩ :=
        Hexadecimal.decode?_cons_cons decoded
      simp [Hexadecimal.decode?, headDigit, nextDigit,
        inductionHypothesis restDecoded]

/-- Twice as many digits as bytes. -/
theorem decode?_hexText
    (count value : Nat) :
    Hexadecimal.decode? (hexText (2 * count) value) =
      some (networkBytes count value) := by
  induction count generalizing value with
  | zero =>
      rfl
  | succ count inductionHypothesis =>
      have lastByte :
          Hexadecimal.byteOfDigits (value / 16 % 16) (value % 16) =
            BitVec.ofNat 8 value := by
        apply BitVec.eq_of_toNat_eq
        simp only [Hexadecimal.byteOfDigits, BitVec.toNat_ofNat]
        omega
      rw [Nat.mul_succ, hexText, hexText, List.append_assoc, networkBytes,
        Nat.div_div_eq_div_mul, ← lastByte]
      exact
        decode?_append_pair (inductionHypothesis (value / 256))
          (Hexadecimal.digitValue?_upperDigit (Nat.mod_lt _ (by decide)))
          (Hexadecimal.digitValue?_upperDigit (Nat.mod_lt _ (by decide)))

/--
The reader's checksum is `zlib.crc32`, and what the helper prints becomes four
bytes in which the reader finds its own checksum of the data.
-/
theorem calcCrc32_eq_zlibCrc32 (data : List Byte) :
    calcCrc32 data = zlibCrc32 data ∧
      ∃ text bytes,
        crcText? true data = some text ∧
          hexstrToBin text = some bytes ∧
            bytes.length = 4 ∧
              BitVec.ofNat 32 (networkOrder bytes) = calcCrc32 data := by
  have sameByte : crcByte = zlibByte := by
    funext crc byte
    exact crcByte_eq_zlibByte crc byte
  have complement (crc : BitVec 32) : ~~~ crc = crc ^^^ 0xFFFFFFFF := by
    rw [BitVec.xor_comm]
    exact BitVec.allOnes_xor.symm
  have same : calcCrc32 data = zlibCrc32 data := by
    rw [calcCrc32, zlibCrc32, sameByte, complement]
  refine ⟨same, _, networkBytes 4 (zlibCrc32 data).toNat, rfl, ?_, rfl, ?_⟩
  · exact hexstrToBin_of_decode? (decode?_hexText 4 _)
  · rw [networkOrder_networkBytes_four (BitVec.isLt _), same,
      BitVec.ofNat_toNat, BitVec.setWidth_eq]

/-- The check value of the CRC-32 in use. -/
example : zlibCrc32 (ascii "123456789") = 0xCBF43926 := by
  decide +kernel

end RecomputerGateway.Eeprom
