import Mathlib.Data.List.Induction

namespace RecomputerGateway.EntryLog

/-!
# Logs whose entries depend on the earlier ones

A program that notes what it does makes a log that only grows at its end.  A
rule says which entry may follow which log, and a log obeys the rule when each
of its entries may follow those before it.
-/

variable {Entry : Type} {rule : List Entry → Entry → Prop}

/-- Every entry of the log may follow those before it. -/
def Obeys (rule : List Entry → Entry → Prop) (log : List Entry) : Prop :=
  ∀ before entry after,
    log = before ++ entry :: after → rule before entry

namespace Obeys

variable {log : List Entry}

theorem nil (rule : List Entry → Entry → Prop) : Obeys rule [] := by
  intro before entry after shape
  exact absurd shape.symm (List.append_ne_nil_of_right_ne_nil _ nofun)

/-- An entry that may follow the log is added to it. -/
theorem snoc
    {entry : Entry}
    (obeys : Obeys rule log)
    (may : rule log entry) :
    Obeys rule (log ++ [entry]) := by
  intro before other after shape
  cases after using List.reverseRecOn with
  | nil =>
      obtain ⟨rfl, same⟩ := List.append_inj' shape rfl
      rwa [← List.head_eq_of_cons_eq same]
  | append_singleton after last =>
      rw [← List.cons_append, ← List.append_assoc] at shape
      exact obeys before other after (List.append_inj' shape rfl).1

/-- Entries each of which may follow the log and the earlier ones of them. -/
theorem append
    {entries : List Entry}
    (obeys : Obeys rule log)
    (may :
      ∀ before entry after,
        entries = before ++ entry :: after → rule (log ++ before) entry) :
    Obeys rule (log ++ entries) := by
  induction entries using List.reverseRecOn with
  | nil => rwa [List.append_nil]
  | append_singleton entries last inductionHypothesis =>
      rw [← List.append_assoc]
      refine snoc (inductionHypothesis ?_) (may entries last [] rfl)
      intro before entry after shape
      refine may before entry (after ++ [last]) ?_
      rw [shape, List.append_assoc, List.cons_append]

end Obeys

end RecomputerGateway.EntryLog
