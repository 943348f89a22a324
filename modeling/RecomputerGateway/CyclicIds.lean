import Mathlib.Data.Nat.ModEq

namespace RecomputerGateway.CyclicIds

/-!
# Identifiers that are used in turn

A counter that runs from one to `period` and starts over gives the request of
number `number` an identifier.  Two requests with one identifier are at least
a whole period apart, so an identifier names one request among any `period`
successive ones.
-/

/-- The identifier of the request with a number. -/
def idOf (period number : Nat) : Nat :=
  number % period + 1

theorem idOf_pos (period number : Nat) : 0 < idOf period number :=
  Nat.succ_pos _

theorem idOf_le
    (period number : Nat)
    (positive : 0 < period) :
    idOf period number ≤ period :=
  Nat.mod_lt number positive

/-- The counter starts over after the last identifier. -/
theorem idOf_succ
    (period number : Nat)
    (positive : 0 < period) :
    idOf period (number + 1) =
      if idOf period number = period then 1 else idOf period number + 1 := by
  have small := Nat.mod_lt number positive
  unfold idOf
  by_cases last : number % period + 1 = period
  · have starts : (number + 1) % period = 0 := by
      rw [← Nat.mod_add_mod, last, Nat.mod_self]
    rw [if_pos last, starts]
  · have goesOn : (number + 1) % period = number % period + 1 := by
      rw [← Nat.mod_add_mod]
      exact Nat.mod_eq_of_lt (Nat.lt_of_le_of_ne small last)
    rw [if_neg last, goesOn]

/-- Less than a period apart, an identifier names one request. -/
theorem eq_of_idOf_eq
    {period older newer : Nat}
    (ordered : older ≤ newer)
    (near : newer < older + period)
    (same : idOf period newer = idOf period older) :
    newer = older := by
  have congruent : newer ≡ older [MOD period] := Nat.succ.inj same
  have divides : period ∣ newer - older :=
    (Nat.modEq_iff_dvd' ordered).mp congruent.symm
  have equal : newer - older = 0 := Nat.eq_zero_of_dvd_of_lt divides (by omega)
  exact Nat.le_antisymm (Nat.sub_eq_zero_iff_le.mp equal) ordered

end RecomputerGateway.CyclicIds
