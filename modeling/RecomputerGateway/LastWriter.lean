import Mathlib.Data.List.Nodup
import Mathlib.Logic.Function.Basic

namespace RecomputerGateway.LastWriter

/-!
# Stores in which the last writer wins

A message gives values to keys, and a wiring says which field of a store each
key is written to.  A message is written key by key; keys that are not wired
are ignored.

Nothing here refers to a particular store.
-/

variable {Key Field Value : Type} [DecidableEq Key] [DecidableEq Field]

/-- Write a value to each field that is wired to the key. -/
def write
    (wiring : List (Key × Field))
    (store : Field → Value)
    (key : Key)
    (value : Value) :
    Field → Value :=
  wiring.foldl
    (fun written wire =>
      if key = wire.1 then Function.update written wire.2 value else written)
    store

/-- Write the entries of a message in their order. -/
def writeAll
    (wiring : List (Key × Field))
    (store : Field → Value)
    (message : List (Key × Value)) :
    Field → Value :=
  message.foldl (fun written entry => write wiring written entry.1 entry.2)
    store

/-- Exactly the fields that are wired to the key have the value. -/
theorem write_apply
    (wiring : List (Key × Field))
    (store : Field → Value)
    (key : Key)
    (value : Value)
    (field : Field) :
    write wiring store key value field =
      if (key, field) ∈ wiring then value else store field := by
  induction wiring generalizing store with
  | nil =>
      rfl
  | cons wire rest inductionHypothesis =>
      have continued :=
        inductionHypothesis
          (if key = wire.1 then Function.update store wire.2 value else store)
      rw [write, List.foldl_cons]
      rw [write] at continued
      rw [continued]
      by_cases isRest : (key, field) ∈ rest
      · simp [isRest]
      · simp only [isRest, ↓reduceIte, List.mem_cons, or_false, Prod.ext_iff]
        by_cases isKey : key = wire.1
        · by_cases isField : field = wire.2
          · simp [isKey, isField]
          · simp [isKey, isField]
        · simp [isKey]

/-- A field that no entry is wired to stays. -/
theorem writeAll_of_unwritten
    {wiring : List (Key × Field)}
    {field : Field}
    (store : Field → Value)
    {message : List (Key × Value)}
    (unwritten : ∀ entry ∈ message, (entry.1, field) ∉ wiring) :
    writeAll wiring store message field = store field := by
  induction message generalizing store with
  | nil =>
      rfl
  | cons entry rest inductionHypothesis =>
      rw [List.forall_mem_cons] at unwritten
      have continued :=
        inductionHypothesis (write wiring store entry.1 entry.2) unwritten.2
      rw [write_apply, if_neg unwritten.1] at continued
      exact continued

/--
A field that one key is wired to has the value that the message gives to this
key, if it gives one.
-/
theorem writeAll_of_wired
    {wiring : List (Key × Field)}
    {key : Key}
    {field : Field}
    (wired : (key, field) ∈ wiring)
    (onlyKey : ∀ other, (other, field) ∈ wiring → other = key)
    (store : Field → Value)
    {message : List (Key × Value)}
    (nodup : (message.map Prod.fst).Nodup) :
    writeAll wiring store message field =
      (message.lookup key).getD (store field) := by
  induction message generalizing store with
  | nil =>
      rfl
  | cons entry rest inductionHypothesis =>
      obtain ⟨name, given⟩ := entry
      rw [List.map_cons, List.nodup_cons] at nodup
      have isWritten :
          writeAll wiring store ((name, given) :: rest) field =
            writeAll wiring (write wiring store name given) rest field :=
        rfl
      rw [isWritten, List.lookup_cons]
      by_cases isKey : key = name
      · subst key
        have unwritten : ∀ other ∈ rest, (other.1, field) ∉ wiring := by
          intro other member isWired
          apply nodup.1
          rw [← onlyKey other.1 isWired]
          exact List.mem_map.mpr ⟨other, member, rfl⟩
        rw [writeAll_of_unwritten _ unwritten, write_apply, if_pos wired]
        simp
      · have unwritten : (name, field) ∉ wiring := fun other =>
          isKey (onlyKey name other).symm
        rw [inductionHypothesis _ nodup.2, write_apply, if_neg unwritten,
          beq_false_of_ne isKey]

/-- In a message with distinct keys, each entry is the one for its key. -/
theorem lookup_of_mem
    {key : Key}
    {value : Value}
    {message : List (Key × Value)}
    (nodup : (message.map Prod.fst).Nodup)
    (member : (key, value) ∈ message) :
    message.lookup key = some value := by
  induction message with
  | nil =>
      cases member
  | cons entry rest inductionHypothesis =>
      obtain ⟨name, given⟩ := entry
      rw [List.map_cons, List.nodup_cons] at nodup
      rw [List.lookup_cons]
      rcases List.mem_cons.mp member with isHead | isRest
      · cases isHead
        simp
      · have isOther : key ≠ name := by
          rintro rfl
          exact nodup.1 (List.mem_map.mpr ⟨(key, value), isRest, rfl⟩)
        rw [beq_false_of_ne isOther]
        exact inductionHypothesis nodup.2 isRest

end RecomputerGateway.LastWriter
