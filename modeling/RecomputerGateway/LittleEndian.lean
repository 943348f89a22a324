import Mathlib.Data.List.GetD
import RecomputerGateway.Hexadecimal

namespace RecomputerGateway.LittleEndian

open Hexadecimal (Byte)

/-!
# Little-endian fields

Fields of two and four bytes, least significant byte first, that a program
reads out of a buffer at an offset.  A read past the end of the buffer yields
zero bytes.
-/

/-- The byte at an offset. -/
def byteAt (bytes : List Byte) (offset : Nat) : Byte :=
  bytes.getD offset 0

/-- The two-byte field at an offset. -/
def le16At (bytes : List Byte) (offset : Nat) : Nat :=
  (byteAt bytes offset).toNat + 256 * (byteAt bytes (offset + 1)).toNat

/-- The four-byte field at an offset. -/
def le32At (bytes : List Byte) (offset : Nat) : Nat :=
  le16At bytes offset + 65536 * le16At bytes (offset + 2)

/-- The two bytes of a field; a value that is too large loses its high part. -/
def le16 (value : Nat) : List Byte :=
  [BitVec.ofNat 8 value, BitVec.ofNat 8 (value / 256)]

/-- The four bytes of a field. -/
def le32 (value : Nat) : List Byte :=
  le16 value ++ le16 (value / 65536)

@[simp] theorem length_le16 (value : Nat) : (le16 value).length = 2 :=
  rfl

@[simp] theorem length_le32 (value : Nat) : (le32 value).length = 4 :=
  rfl

/-- A byte behind a front part is read at the offset past that part. -/
theorem byteAt_append
    (front back : List Byte)
    (offset : Nat) :
    byteAt (front ++ back) (front.length + offset) = byteAt back offset := by
  rw [byteAt, List.getD_append_right _ _ _ _ (Nat.le_add_right _ _),
    Nat.add_sub_cancel_left, byteAt]

/-- A byte of a front part does not depend on what follows. -/
theorem byteAt_append_left
    {front : List Byte}
    (back : List Byte)
    {offset : Nat}
    (within : offset < front.length) :
    byteAt (front ++ back) offset = byteAt front offset :=
  List.getD_append _ _ _ _ within

theorem le16At_append
    (front back : List Byte)
    (offset : Nat) :
    le16At (front ++ back) (front.length + offset) =
      le16At back offset := by
  rw [le16At, byteAt_append, Nat.add_assoc, byteAt_append, le16At]

theorem le16At_append_left
    {front : List Byte}
    (back : List Byte)
    {offset : Nat}
    (within : offset + 1 < front.length) :
    le16At (front ++ back) offset = le16At front offset := by
  rw [le16At, byteAt_append_left back (Nat.lt_of_succ_lt within),
    byteAt_append_left back within, le16At]

theorem le32At_append
    (front back : List Byte)
    (offset : Nat) :
    le32At (front ++ back) (front.length + offset) =
      le32At back offset := by
  rw [le32At, le16At_append, Nat.add_assoc, le16At_append, le32At]

theorem le16At_lt (bytes : List Byte) (offset : Nat) :
    le16At bytes offset < 65536 := by
  have low := (byteAt bytes offset).isLt
  have high := (byteAt bytes (offset + 1)).isLt
  rw [le16At]
  omega

theorem le32At_lt (bytes : List Byte) (offset : Nat) :
    le32At bytes offset < 4294967296 := by
  have low := le16At_lt bytes offset
  have high := le16At_lt bytes (offset + 2)
  rw [le32At]
  omega

/-- A field that was written is read back modulo its width. -/
theorem le16At_le16 (value : Nat) (back : List Byte) :
    le16At (le16 value ++ back) 0 = value % 65536 := by
  simp only [le16At, byteAt, le16, List.cons_append, List.getD_cons_zero,
    List.getD_cons_succ, BitVec.toNat_ofNat]
  omega

theorem le32At_le32 (value : Nat) (back : List Byte) :
    le32At (le32 value ++ back) 0 = value % 4294967296 := by
  have low : le16At (le32 value ++ back) 0 = value % 65536 := by
    rw [le32, List.append_assoc, le16At_le16]
  have high :
      le16At (le32 value ++ back) (0 + 2) = value / 65536 % 65536 := by
    rw [le32, List.append_assoc]
    have shifted :=
      le16At_append (le16 value) (le16 (value / 65536) ++ back) 0
    rwa [le16At_le16] at shifted
  rw [le32At, low, high]
  omega

end RecomputerGateway.LittleEndian
