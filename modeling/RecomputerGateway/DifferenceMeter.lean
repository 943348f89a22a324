import Mathlib.Algebra.Group.Basic
import Mathlib.Algebra.BigOperators.Group.List.Basic

namespace RecomputerGateway.DifferenceMeter

/-!
# Meters that are read by differences

A total only grows, and a reading is its difference from the total at the
reading before.  In a commutative group, where the total may wrap around, no
amount is lost and none is read twice.

Nothing here refers to a particular group.
-/

variable {Amount : Type} [AddCommGroup Amount]

/-- A running total, and what it was at the last reading. -/
structure Meter (Amount : Type) where
  total : Amount
  last : Amount

namespace Meter

def initial : Meter Amount where
  total := 0
  last := 0

/-- What the next reading is going to be. -/
def pending (meter : Meter Amount) : Amount :=
  meter.total - meter.last

def add (meter : Meter Amount) (amount : Amount) : Meter Amount :=
  { meter with total := meter.total + amount }

/-- The meter after a reading. -/
def read (meter : Meter Amount) : Meter Amount :=
  { meter with last := meter.total }

@[simp] theorem pending_initial :
    (initial : Meter Amount).pending = 0 :=
  sub_self 0

@[simp] theorem pending_add (meter : Meter Amount) (amount : Amount) :
    (meter.add amount).pending = meter.pending + amount :=
  add_sub_right_comm meter.total amount meter.last

@[simp] theorem pending_read (meter : Meter Amount) :
    meter.read.pending = 0 :=
  sub_self meter.total

end Meter

inductive Event (Amount : Type) where
  | add (amount : Amount)
  | read

def Meter.step (meter : Meter Amount) : Event Amount → Meter Amount
  | .add amount => meter.add amount
  | .read => meter.read

/-- The meter after a history, which has its newest event first. -/
def after : List (Event Amount) → Meter Amount
  | [] => .initial
  | event :: earlier => (after earlier).step event

/-- The readings of a history, the newest one last. -/
def readings : List (Event Amount) → List Amount
  | [] => []
  | .add _ :: earlier => readings earlier
  | .read :: earlier => readings earlier ++ [(after earlier).pending]

/-- All amounts of a history. -/
def amount : List (Event Amount) → Amount
  | [] => 0
  | .add added :: earlier => amount earlier + added
  | .read :: earlier => amount earlier

/-- The amounts since the last reading. -/
def amountSince : List (Event Amount) → Amount
  | [] => 0
  | .add added :: earlier => amountSince earlier + added
  | .read :: _ => 0

/-- The next reading is going to be what has been added since the last one. -/
theorem pending_after (history : List (Event Amount)) :
    (after history).pending = amountSince history := by
  induction history with
  | nil =>
      exact Meter.pending_initial
  | cons event earlier inductionHypothesis =>
      cases event with
      | add added =>
          rw [after, Meter.step, Meter.pending_add, inductionHypothesis,
            amountSince]
      | read =>
          exact Meter.pending_read (after earlier)

/-- What has been read and what has not are all that has been added. -/
theorem sum_readings_add_pending (history : List (Event Amount)) :
    (readings history).sum + (after history).pending = amount history := by
  induction history with
  | nil =>
      rw [after, Meter.pending_initial]
      exact add_zero 0
  | cons event earlier inductionHypothesis =>
      cases event with
      | add added =>
          rw [readings, after, Meter.step, Meter.pending_add, ← add_assoc,
            inductionHypothesis, amount]
      | read =>
          rw [readings, after, Meter.step, Meter.pending_read, add_zero,
            List.sum_append, List.sum_singleton, inductionHypothesis, amount]

end RecomputerGateway.DifferenceMeter
