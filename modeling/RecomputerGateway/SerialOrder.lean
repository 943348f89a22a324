import Mathlib.Data.BitVec

namespace RecomputerGateway.SerialOrder

/-!
# Counts on a ring

Counts of a fixed width wrap around, so none of them is the first.  Counts that
lie within one half of the ring are ordered by how far they are from the start
of that half; the signed difference of two of them tells their order, wherever
the half begins.

Nothing here refers to a particular width.
-/

variable {width : Nat}

/-- The difference of two counts, with the sign that its highest bit gives. -/
def difference (first second : BitVec width) : Int :=
  (first - second).toInt

/-- How far a count is behind a base, going round the ring. -/
def offset (base count : BitVec width) : Nat :=
  (count - base).toNat

/-- The count is in the half of the ring that begins at the base. -/
def InHalf (base count : BitVec width) : Prop :=
  (count - base).msb = false

instance (base count : BitVec width) : Decidable (InHalf base count) :=
  inferInstanceAs (Decidable ((count - base).msb = false))

/-- Different counts are differently far behind a base. -/
theorem offset_injective (base : BitVec width) :
    Function.Injective (offset base) := by
  intro first second same
  exact sub_left_injective (BitVec.eq_of_toNat_eq same)

/-- Within a half, the signed difference is the difference of the offsets. -/
theorem difference_eq_offsets
    {base first second : BitVec width}
    (firstIn : InHalf base first)
    (secondIn : InHalf base second) :
    difference first second =
      (offset base first : Int) - offset base second := by
  have fromBase :
      first - second = (first - base) - (second - base) :=
    (sub_sub_sub_cancel_right first second base).symm
  have firstBound := BitVec.msb_eq_false_iff_two_mul_lt.mp firstIn
  have secondBound := BitVec.msb_eq_false_iff_two_mul_lt.mp secondIn
  rw [difference, fromBase, BitVec.toInt_sub,
    BitVec.toInt_eq_toNat_of_msb firstIn,
    BitVec.toInt_eq_toNat_of_msb secondIn]
  -- The difference of two numbers below one half does not wrap around.
  generalize 2 ^ width = size at firstBound secondBound ⊢
  exact Int.bmod_eq_of_le (by omega) (by omega)

end RecomputerGateway.SerialOrder
