import Mathlib.Data.List.Basic

namespace RecomputerGateway

/-!
# Histories seen by one party

The entries of a history belong to parties, and each party only sees its own.
An observer judges what one party has seen by running a partial machine over
it, which has no next state once something happens that should not.

Nothing here refers to a particular kind of history.
-/

/-- A partial machine that runs over the entries of one party. -/
structure Observer (Party Entry State : Type) where
  party : Entry → Party
  start : State
  next? : State → Entry → Option State

namespace Observer

variable {Party Entry State : Type} [DecidableEq Party]

/-- Run the machine over the entries of a party. -/
def replay
    (observer : Observer Party Entry State)
    (party : Party)
    (history : List Entry) : Option State :=
  (history.filter (observer.party · = party)).foldlM observer.next?
    observer.start

variable {observer : Observer Party Entry State}

theorem replay_nil (party : Party) :
    observer.replay party [] = some observer.start :=
  rfl

theorem replay_append
    (party : Party)
    (history later : List Entry) :
    observer.replay party (history ++ later) =
      (observer.replay party history).bind fun state =>
        (later.filter (observer.party · = party)).foldlM observer.next?
          state := by
  rw [replay, List.filter_append, List.foldlM_append]
  rfl

/-- Entries of other parties are not seen. -/
theorem replay_append_other
    {party : Party}
    (history : List Entry)
    {later : List Entry}
    (others : ∀ entry ∈ later, observer.party entry ≠ party) :
    observer.replay party (history ++ later) =
      observer.replay party history := by
  have nothing : later.filter (observer.party · = party) = [] :=
    List.filter_eq_nil_iff.mpr fun entry member =>
      by simpa using others entry member
  rw [replay_append, nothing]
  cases observer.replay party history <;> rfl

/-- One entry of the party itself is one step of its machine. -/
theorem replay_snoc
    {party : Party}
    {history : List Entry}
    {entry : Entry}
    {before after : State}
    (ofParty : observer.party entry = party)
    (seen : observer.replay party history = some before)
    (stepped : observer.next? before entry = some after) :
    observer.replay party (history ++ [entry]) = some after := by
  rw [replay_append, seen,
    List.filter_cons_of_pos (by simpa using ofParty)]
  simp only [Option.bind_some, List.filter_nil, List.foldlM_cons,
    List.foldlM_nil, stepped]
  rfl

end Observer

end RecomputerGateway
