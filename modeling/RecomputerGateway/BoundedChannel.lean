import Mathlib.Data.List.Basic

namespace RecomputerGateway

/-!
# Bounded channels

A first-in first-out queue that holds at most `capacity` items.  A sender that
finds it full has to wait; only the receiver makes room.
-/

/-- The items that were sent and not received yet, oldest first. -/
structure Channel (α : Type) (capacity : Nat) where
  items : List α
  bounded : items.length ≤ capacity
  deriving DecidableEq

namespace Channel

variable {α : Type} {capacity : Nat}

def empty : Channel α capacity where
  items := []
  bounded := Nat.zero_le capacity

def HasRoom (channel : Channel α capacity) : Prop :=
  channel.items.length < capacity

instance (channel : Channel α capacity) : Decidable channel.HasRoom :=
  inferInstanceAs (Decidable (_ < _))

/-- Send an item; `none` means that the sender waits. -/
def send?
    (channel : Channel α capacity)
    (item : α) :
    Option (Channel α capacity) :=
  if room : channel.HasRoom then
    some
      { items := channel.items ++ [item]
        bounded := by
          rw [List.length_append]
          exact Nat.succ_le_of_lt room }
  else none

/-- Receive the `count` oldest items. -/
def receive
    (channel : Channel α capacity)
    (count : Nat) :
    Channel α capacity where
  items := channel.items.drop count
  bounded := by
    have bound := channel.bounded
    rw [List.length_drop]
    omega

@[simp] theorem length_receive
    (channel : Channel α capacity)
    (count : Nat) :
    (channel.receive count).items.length =
      channel.items.length - count :=
  List.length_drop

/-- A sent item is the last one. -/
theorem items_send?
    {channel next : Channel α capacity}
    {item : α}
    (sent : channel.send? item = some next) :
    next.items = channel.items ++ [item] := by
  unfold send? at sent
  split at sent
  · cases sent
    rfl
  · cases sent

theorem length_send?
    {channel next : Channel α capacity}
    {item : α}
    (sent : channel.send? item = some next) :
    next.items.length = channel.items.length + 1 := by
  rw [items_send? sent]
  exact List.length_append

/-- A sender waits exactly when the channel is full. -/
theorem send?_eq_none_iff
    {channel : Channel α capacity}
    {item : α} :
    channel.send? item = none ↔ ¬ channel.HasRoom := by
  unfold send?
  split
  next room =>
    simp [room]
  next full =>
    simp [full]

end Channel

end RecomputerGateway
