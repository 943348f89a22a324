import Mathlib.Data.List.TakeWhile
import RecomputerGateway.Hexadecimal
import RecomputerGateway.LineStream
import RecomputerGateway.Transition

namespace RecomputerGateway.AtReader

open Hexadecimal (Byte)
open LineStream

/-!
# The reader of the AT channel

`readline` of `atchannel.c` returns the next line that the modem sends.  It
keeps what it has read in one buffer, with a zero byte behind it, and a cursor
at the first byte that belongs to no line yet.
-/

/-- `MAX_AT_RESPONSE`, the bytes of `cm_recv_buf`. -/
def maxAtResponse : Nat := 4096

def isNewline (byte : Byte) : Bool :=
  byte = 0x0d || byte = 0x0a

/-- The bytes of `"> "`. -/
def prompt : List Byte := [0x3e, 0x20]

/-- The string that starts at an offset of the buffer. -/
def cString (buffer : List Byte) (offset : Nat) : List Byte :=
  (buffer.drop offset).takeWhile (· ≠ 0)

/-- Skip over leading newlines. -/
def skipNewlines (buffer : List Byte) (cur : Nat) : Nat :=
  cur + ((cString buffer cur).takeWhile isNewline).length

/-- `findNextEOL`: the offset of the end of the line at the cursor. -/
def findNextEOL (buffer : List Byte) (cur : Nat) : Option Nat :=
  let string := cString buffer cur
  if string = prompt then some (cur + 2)
  else
    let line := string.takeWhile (!isNewline ·)
    if line.length < string.length then some (cur + line.length) else none

/-- Where `readline` is. -/
inductive Pc where
  | called
  | reading (pRead : Nat)
  deriving DecidableEq

/-- The buffer and the cursor; the buffer includes the byte behind its end. -/
structure Reader where
  buffer : List Byte
  cur : Nat
  pc : Pc
  deriving DecidableEq

/-- A complete line is returned and a zero byte put over its end. -/
def returnLine (buffer : List Byte) (cur eol : Nat) : Reader × List Byte :=
  (⟨buffer.set eol 0, eol + 1, .called⟩,
    (buffer.drop cur).take (eol - cur))

/-- `readline` up to its first read, or up to its return. -/
def enter (reader : Reader) : Reader × Option (List Byte) :=
  if cString reader.buffer reader.cur = [] then
    -- The buffer has been consumed completely.
    (⟨reader.buffer.set 0 0, 0, .reading 0⟩, none)
  else
    let cur := skipNewlines reader.buffer reader.cur
    match findNextEOL reader.buffer cur with
    | some eol =>
        let (next, line) := returnLine reader.buffer cur eol
        (next, some line)
    | none =>
        -- The partial line moves to the front.
        let string := cString reader.buffer cur
        (⟨string ++ 0 :: reader.buffer.drop (string.length + 1), 0,
            .reading string.length⟩, none)

/-- The buffer after a full one has been ditched. -/
def makeRoom (reader : Reader) (pRead : Nat) : Reader × Nat :=
  if pRead = maxAtResponse then
    (⟨reader.buffer.set 0 0, 0, .reading 0⟩, 0)
  else (reader, pRead)

/-- Bytes that were read are put into the buffer. -/
def store (buffer : List Byte) (pRead : Nat) (bytes : List Byte) :
    List Byte :=
  buffer.take pRead ++ bytes ++ 0 :: buffer.drop (pRead + bytes.length + 1)

/-- The rest of the loop of `readline` after a read. -/
def received
    (reader : Reader)
    (pRead : Nat)
    (bytes : List Byte) : Reader × Option (List Byte) :=
  let buffer := store reader.buffer pRead bytes
  let cur := skipNewlines buffer reader.cur
  match findNextEOL buffer cur with
  | some eol =>
      let (next, line) := returnLine buffer cur eol
      (next, some line)
  | none => (⟨buffer, cur, .reading (pRead + bytes.length)⟩, none)

/-- The reader, what the modem has sent and the lines that were returned. -/
structure World where
  reader : Reader
  sent : List Byte
  returned : List (List Byte)
  deriving DecidableEq

inductive Event where
  | call
  | read (bytes : List Byte)
  deriving DecidableEq

/-- The world after a part of `readline`. -/
def World.after
    (world : World)
    (outcome : Reader × Option (List Byte))
    (bytes : List Byte) : World where
  reader := outcome.1
  sent := world.sent ++ bytes
  returned := world.returned ++ outcome.2.toList

/--
`readerLoop` calls `readline` again and again, and each read returns some
bytes, as many as there is room for at most.
-/
def step? (world : World) : Event → Option World
  | .call =>
      match world.reader.pc with
      | .called => some (world.after (enter world.reader) [])
      | .reading _ => none
  | .read bytes =>
      match world.reader.pc with
      | .called => none
      | .reading pRead =>
          let (reader, pRead) := makeRoom world.reader pRead
          if 0 < bytes.length ∧ bytes.length ≤ maxAtResponse - pRead then
            some (world.after (received reader pRead bytes) bytes)
          else none

/-- The string is stored at the offset, with a zero byte behind it. -/
def Holds (buffer : List Byte) (offset : Nat) (string : List Byte) : Prop :=
  (∀ byte ∈ string, byte ≠ 0) ∧
    ∃ behind, buffer.drop offset = string ++ 0 :: behind

/-- `readline` is called when its buffer holds what was read before. -/
def readers : System World Event where
  Initial world :=
    world.reader.buffer.length = maxAtResponse + 1 ∧
      world.reader.pc = .called ∧
      Holds world.reader.buffer world.reader.cur world.sent ∧
      started isNewline (unended isNewline world.sent) ≠ prompt ∧
      world.returned = []
  step? := step?

/--
The modem sends no zero bytes, no line together with the newlines before it
fills the buffer, and no read ends behind `"> "` at the start of a line.
-/
def Plain (world : World) : Event → Prop
  | .call => True
  | .read bytes =>
      (∀ byte ∈ bytes, byte ≠ 0) ∧
        (unended isNewline world.sent).length < maxAtResponse ∧
        started isNewline (unended isNewline (world.sent ++ bytes)) ≠ prompt

instance (world : World) (event : Event) :
    Decidable (Plain world event) := by
  unfold Plain
  split <;> infer_instance

namespace Holds

variable {buffer string : List Byte} {offset : Nat}

theorem cString_eq
    (holds : Holds buffer offset string) :
    cString buffer offset = string := by
  obtain ⟨nonzero, behind, shape⟩ := holds
  rw [cString, shape, List.takeWhile_append_of_pos,
    List.takeWhile_cons_of_neg (by decide), List.append_nil]
  exact fun byte member => decide_eq_true (nonzero byte member)

/-- A string goes on behind its first bytes. -/
theorem add
    {front rest : List Byte}
    (holds : Holds buffer offset (front ++ rest)) :
    Holds buffer (offset + front.length) rest := by
  obtain ⟨nonzero, behind, shape⟩ := holds
  refine
    ⟨fun byte member => nonzero byte (List.mem_append_right _ member),
      behind, ?_⟩
  rw [← List.drop_drop, shape, List.append_assoc, List.drop_left]

/-- A zero byte before the string does not change it. -/
theorem set
    {position : Nat}
    (holds : Holds buffer offset string)
    (before : position < offset) :
    Holds (buffer.set position 0) offset string := by
  obtain ⟨nonzero, behind, shape⟩ := holds
  exact ⟨nonzero, behind, by rw [List.drop_set_of_lt before, shape]⟩

/-- What is stored behind a string becomes part of it. -/
theorem store
    {bytes : List Byte}
    (holds : Holds buffer offset string)
    (nonzero : ∀ byte ∈ bytes, byte ≠ 0) :
    Holds (store buffer (offset + string.length) bytes) offset
      (string ++ bytes) := by
  obtain ⟨stringNonzero, behind, shape⟩ := holds
  have within : offset ≤ buffer.length := by
    refine Nat.le_of_not_lt fun past => ?_
    rw [List.drop_of_length_le (Nat.le_of_lt past)] at shape
    exact absurd shape.symm (List.append_ne_nil_of_right_ne_nil _ nofun)
  have front :
      (buffer.take (offset + string.length)).drop offset = string := by
    rw [List.drop_take, Nat.add_sub_cancel_left, shape, List.take_left]
  have reaches : offset ≤ (buffer.take (offset + string.length)).length := by
    rw [List.length_take]
    exact Nat.le_min.mpr ⟨Nat.le_add_right _ _, within⟩
  refine
    ⟨?_, buffer.drop (offset + string.length + bytes.length + 1), ?_⟩
  · intro byte member
    rcases List.mem_append.mp member with inString | isNew
    · exact stringNonzero byte inString
    · exact nonzero byte isNew
  · rw [AtReader.store, List.append_assoc,
      List.drop_append_of_le_length reaches, front, List.append_assoc]

end Holds

/-- The newlines at the cursor are skipped. -/
theorem skipNewlines_eq
    {buffer newlines rest : List Byte}
    {cur : Nat}
    (holds : Holds buffer cur (newlines ++ rest))
    (skipped : ∀ byte ∈ newlines, isNewline byte = true)
    (starts : rest.takeWhile isNewline = []) :
    skipNewlines buffer cur = cur + newlines.length := by
  rw [skipNewlines, holds.cString_eq,
    List.takeWhile_append_of_pos skipped, starts, List.append_nil]

/-- The line at the cursor ends at the first newline. -/
theorem findNextEOL_line
    {buffer line rest : List Byte}
    {cur : Nat}
    {byte : Byte}
    (holds : Holds buffer cur (line ++ byte :: rest))
    (inLine : ∀ item ∈ line, isNewline item = false)
    (ends : isNewline byte = true) :
    findNextEOL buffer cur = some (cur + line.length) := by
  have notPrompt : line ++ byte :: rest ≠ prompt := by
    intro isPrompt
    have member : byte ∈ prompt := by
      rw [← isPrompt]
      exact List.mem_append_right _ (.head rest)
    have noNewline : ∀ item ∈ prompt, isNewline item = false := by decide
    rw [noNewline byte member] at ends
    exact Bool.false_ne_true ends
  have isLine :
      (line ++ byte :: rest).takeWhile (!isNewline ·) = line := by
    rw [List.takeWhile_append_of_pos,
      List.takeWhile_cons_of_neg (by rw [ends]; exact Bool.false_ne_true),
      List.append_nil]
    exact fun item member => by rw [inLine item member]; rfl
  simp only [findNextEOL, holds.cString_eq, notPrompt, if_false, isLine]
  rw [if_pos]
  rw [List.length_append]
  exact Nat.lt_add_of_pos_right (Nat.succ_pos _)

/-- A partial line has no end yet. -/
theorem findNextEOL_partial
    {buffer string : List Byte}
    {cur : Nat}
    (holds : Holds buffer cur string)
    (inLine : ∀ item ∈ string, isNewline item = false)
    (notPrompt : string ≠ prompt) :
    findNextEOL buffer cur = none := by
  have isLine : string.takeWhile (!isNewline ·) = string := by
    refine List.takeWhile_eq_self_iff.mpr ?_
    exact fun item member => by rw [inLine item member]; rfl
  simp only [findNextEOL, holds.cString_eq, notPrompt, if_false, isLine]
  exact if_neg (Nat.lt_irrefl _)

/--
The lines that were returned are those of what has been read up to the string
at the cursor, and while `readline` waits, that string is the line it waits
for.
-/
structure Tracks (world : World) : Prop where
  length : world.reader.buffer.length = maxAtResponse + 1
  noPrompt : started isNewline (unended isNewline world.sent) ≠ prompt
  position :
    ∃ consumed blank string,
      world.sent = consumed ++ string ∧
        scan isNewline [] consumed = (world.returned, blank) ∧
        (∀ byte ∈ blank, isNewline byte = true) ∧
        Holds world.reader.buffer world.reader.cur string ∧
        ∀ pRead,
          world.reader.pc = .reading pRead →
            (∀ byte ∈ string, isNewline byte = false) ∧
              pRead = world.reader.cur + string.length ∧
              pRead ≤ (unended isNewline world.sent).length

/-- Nothing has started among newlines. -/
theorem started_newlines
    {newlines : List Byte}
    (blank : ∀ byte ∈ newlines, isNewline byte = true)
    (rest : List Byte) :
    started isNewline (newlines ++ rest) = started isNewline rest :=
  List.dropWhile_append_of_pos blank

/-- A line without newlines has started with its first byte. -/
theorem started_line
    {line : List Byte}
    (inLine : ∀ byte ∈ line, isNewline byte = false) :
    started isNewline line = line := by
  cases line with
  | nil => rfl
  | cons byte rest =>
      refine List.dropWhile_cons_of_neg ?_
      rw [inLine byte (.head rest)]
      exact Bool.false_ne_true

/-- The first line of a string, or the string when it has no line yet. -/
theorem string_cases (string : List Byte) :
    ∃ newlines line rest,
      string = newlines ++ (line ++ rest) ∧
        (∀ byte ∈ newlines, isNewline byte = true) ∧
        (∀ byte ∈ line, isNewline byte = false) ∧
        (rest = [] ∨
          line ≠ [] ∧
            ∃ byte behind, rest = byte :: behind ∧ isNewline byte = true) := by
  induction string with
  | nil =>
      exact
        ⟨[], [], [], rfl, List.forall_mem_nil _,
          List.forall_mem_nil _, Or.inl rfl⟩
  | cons byte string inductionHypothesis =>
      obtain ⟨newlines, line, rest, rfl, isBlank, inLine, ended⟩ :=
        inductionHypothesis
      cases isEnd : isNewline byte with
      | true =>
          refine
            ⟨byte :: newlines, line, rest, rfl, ?_, inLine, ended⟩
          exact List.forall_mem_cons.mpr ⟨isEnd, isBlank⟩
      | false =>
          -- The byte starts a line, which ends at the next newline.
          cases newlines with
          | nil =>
              refine
                ⟨[], byte :: line, rest, rfl, List.forall_mem_nil _,
                  List.forall_mem_cons.mpr ⟨isEnd, inLine⟩, ?_⟩
              exact ended.imp_right fun isEnded =>
                ⟨List.cons_ne_nil _ _, isEnded.2⟩
          | cons newline newlines =>
              refine
                ⟨[], [byte], newline :: (newlines ++ (line ++ rest)), rfl,
                  List.forall_mem_nil _,
                  List.forall_mem_singleton.mpr isEnd, Or.inr ?_⟩
              exact
                ⟨List.cons_ne_nil _ _, newline, _, rfl,
                  isBlank newline (.head newlines)⟩

/-- What `readline` finds at the cursor after newlines and a partial line. -/
theorem find_partial
    {buffer newlines line : List Byte}
    {cur : Nat}
    (holds : Holds buffer cur (newlines ++ line))
    (isBlank : ∀ byte ∈ newlines, isNewline byte = true)
    (inLine : ∀ byte ∈ line, isNewline byte = false)
    (notPrompt : line ≠ prompt) :
    skipNewlines buffer cur = cur + newlines.length ∧
      findNextEOL buffer (cur + newlines.length) = none := by
  have noBlank : line.takeWhile isNewline = [] := by
    cases line with
    | nil => rfl
    | cons byte rest =>
        refine List.takeWhile_cons_of_neg ?_
        rw [inLine byte (.head rest)]
        exact Bool.false_ne_true
  exact
    ⟨skipNewlines_eq holds isBlank noBlank,
      findNextEOL_partial holds.add inLine notPrompt⟩

/-- What `readline` finds at the cursor after newlines and a whole line. -/
theorem find_line
    {buffer newlines line behind : List Byte}
    {cur : Nat}
    {byte : Byte}
    (holds : Holds buffer cur (newlines ++ (line ++ byte :: behind)))
    (isBlank : ∀ byte ∈ newlines, isNewline byte = true)
    (inLine : ∀ byte ∈ line, isNewline byte = false)
    (nonempty : line ≠ [])
    (ends : isNewline byte = true) :
    skipNewlines buffer cur = cur + newlines.length ∧
      findNextEOL buffer (cur + newlines.length) =
        some (cur + newlines.length + line.length) := by
  have noBlank : (line ++ byte :: behind).takeWhile isNewline = [] := by
    cases line with
    | nil => exact absurd rfl nonempty
    | cons first rest =>
        refine List.takeWhile_cons_of_neg ?_
        rw [inLine first (.head rest)]
        exact Bool.false_ne_true
  exact
    ⟨skipNewlines_eq holds isBlank noBlank,
      findNextEOL_line holds.add inLine ends⟩

/-- The line that is returned, and the string that is left at the cursor. -/
theorem returnLine_holds
    {buffer line behind : List Byte}
    {cur : Nat}
    {byte : Byte}
    (holds : Holds buffer cur (line ++ byte :: behind)) :
    (returnLine buffer cur (cur + line.length)).2 = line ∧
      Holds (returnLine buffer cur (cur + line.length)).1.buffer
        (cur + line.length + 1) behind := by
  obtain ⟨-, tail, shape⟩ := id holds
  constructor
  · rw [returnLine, Nat.add_sub_cancel_left, shape, List.append_assoc,
      List.take_left]
  · have rest : Holds buffer (cur + (line ++ [byte]).length) behind := by
      rw [List.append_cons] at holds
      exact holds.add
    rw [List.length_append, List.length_singleton] at rest
    exact rest.set (Nat.lt_succ_self _)

section Specifications

variable {buffer newlines line behind : List Byte}
variable {cur : Nat}
variable {byte : Byte}
variable {pc : Pc}

/-- `readline` at a partial line moves it to the front and waits. -/
theorem enter_unended
    (holds : Holds buffer cur (newlines ++ line))
    (nonempty : newlines ++ line ≠ [])
    (isBlank : ∀ byte ∈ newlines, isNewline byte = true)
    (inLine : ∀ byte ∈ line, isNewline byte = false)
    (notPrompt : line ≠ prompt) :
    enter ⟨buffer, cur, pc⟩ =
      (⟨line ++ 0 :: buffer.drop (line.length + 1), 0,
          .reading line.length⟩, none) := by
  obtain ⟨skipped, noEnd⟩ := find_partial holds isBlank inLine notPrompt
  unfold enter
  simp only [holds.cString_eq, nonempty, if_false, skipped, noEnd,
    holds.add.cString_eq]

/-- `readline` at a whole line returns it. -/
theorem enter_line
    (holds : Holds buffer cur (newlines ++ (line ++ byte :: behind)))
    (isBlank : ∀ byte ∈ newlines, isNewline byte = true)
    (inLine : ∀ byte ∈ line, isNewline byte = false)
    (nonempty : line ≠ [])
    (ends : isNewline byte = true) :
    enter ⟨buffer, cur, pc⟩ =
      ((returnLine buffer (cur + newlines.length)
          (cur + newlines.length + line.length)).1, some line) := by
  obtain ⟨skipped, hasEnd⟩ := find_line holds isBlank inLine nonempty ends
  have notEmpty : newlines ++ (line ++ byte :: behind) ≠ [] :=
    List.append_ne_nil_of_right_ne_nil _
      (List.append_ne_nil_of_left_ne_nil nonempty _)
  unfold enter
  simp only [holds.cString_eq, notEmpty, if_false, skipped, hasEnd,
    (returnLine_holds holds.add).1]

/-- A read that completes no line is followed by another one. -/
theorem received_partial
    {string bytes : List Byte}
    (holds : Holds buffer cur string)
    (nonzero : ∀ byte ∈ bytes, byte ≠ 0)
    (shape : string ++ bytes = newlines ++ line)
    (isBlank : ∀ byte ∈ newlines, isNewline byte = true)
    (inLine : ∀ byte ∈ line, isNewline byte = false)
    (notPrompt : line ≠ prompt) :
    received ⟨buffer, cur, pc⟩ (cur + string.length) bytes =
      (⟨store buffer (cur + string.length) bytes, cur + newlines.length,
          .reading (cur + string.length + bytes.length)⟩, none) := by
  have stored := holds.store nonzero
  rw [shape] at stored
  obtain ⟨skipped, noEnd⟩ := find_partial stored isBlank inLine notPrompt
  unfold received
  simp only [skipped, noEnd]

/-- A read that completes a line returns it. -/
theorem received_line
    {string bytes : List Byte}
    (holds : Holds buffer cur string)
    (nonzero : ∀ byte ∈ bytes, byte ≠ 0)
    (shape : string ++ bytes = newlines ++ (line ++ byte :: behind))
    (isBlank : ∀ byte ∈ newlines, isNewline byte = true)
    (inLine : ∀ byte ∈ line, isNewline byte = false)
    (nonempty : line ≠ [])
    (ends : isNewline byte = true) :
    received ⟨buffer, cur, pc⟩ (cur + string.length) bytes =
      ((returnLine (store buffer (cur + string.length) bytes)
          (cur + newlines.length)
          (cur + newlines.length + line.length)).1, some line) := by
  have stored := holds.store nonzero
  rw [shape] at stored
  obtain ⟨skipped, hasEnd⟩ := find_line stored isBlank inLine nonempty ends
  unfold received
  simp only [skipped, hasEnd, (returnLine_holds stored.add).1]

end Specifications

/-- A string lies within the buffer, with the byte behind it. -/
theorem Holds.length_lt
    {buffer string : List Byte}
    {offset : Nat}
    (holds : Holds buffer offset string) :
    offset + string.length < buffer.length := by
  obtain ⟨-, behind, shape⟩ := holds
  have lengths := congrArg List.length shape
  rw [List.length_drop, List.length_append, List.length_cons] at lengths
  omega

/-- Newlines and a partial line complete no line. -/
theorem scan_unended
    {consumed blank newlines line : List Byte}
    {returned : List (List Byte)}
    (before : scan isNewline [] consumed = (returned, blank))
    (isBlank : ∀ byte ∈ blank, isNewline byte = true)
    (areNewlines : ∀ byte ∈ newlines, isNewline byte = true)
    (inLine : ∀ byte ∈ line, isNewline byte = false) :
    scan isNewline [] (consumed ++ (newlines ++ line)) =
      (returned, blank ++ (newlines ++ line)) := by
  have noLine :
      scan isNewline blank (newlines ++ line) =
        ([], blank ++ (newlines ++ line)) := by
    refine scan_of_no_end blank ?_
    rw [started_newlines isBlank, started_newlines areNewlines,
      started_line inLine]
    exact inLine
  rw [scan_append, before, noLine, List.append_nil]

/-- Newlines and a whole line complete that line. -/
theorem scan_whole
    {consumed blank newlines line : List Byte}
    {byte : Byte}
    {returned : List (List Byte)}
    (before : scan isNewline [] consumed = (returned, blank))
    (isBlank : ∀ byte ∈ blank, isNewline byte = true)
    (areNewlines : ∀ byte ∈ newlines, isNewline byte = true)
    (inLine : ∀ byte ∈ line, isNewline byte = false)
    (nonempty : line ≠ [])
    (ends : isNewline byte = true) :
    scan isNewline [] (consumed ++ (newlines ++ line) ++ [byte]) =
      (returned ++ [line], []) := by
  have isLine :
      started isNewline (blank ++ (newlines ++ line)) = line := by
    rw [started_newlines isBlank, started_newlines areNewlines,
      started_line inLine]
  rw [scan_append, scan_unended before isBlank areNewlines inLine,
    scan_line isLine nonempty ends]
  rfl

namespace Tracks

/-- A whole line at the cursor is returned. -/
theorem of_line
    {buffer sent consumed blank newlines line behind : List Byte}
    {cur : Nat}
    {byte : Byte}
    {returned : List (List Byte)}
    (length : buffer.length = maxAtResponse + 1)
    (noPrompt : started isNewline (unended isNewline sent) ≠ prompt)
    (isSent : sent = consumed ++ (newlines ++ (line ++ byte :: behind)))
    (before : scan isNewline [] consumed = (returned, blank))
    (isBlank : ∀ byte ∈ blank, isNewline byte = true)
    (holds : Holds buffer cur (newlines ++ (line ++ byte :: behind)))
    (areNewlines : ∀ byte ∈ newlines, isNewline byte = true)
    (inLine : ∀ byte ∈ line, isNewline byte = false)
    (nonempty : line ≠ [])
    (ends : isNewline byte = true) :
    Tracks
      ⟨(returnLine buffer (cur + newlines.length)
          (cur + newlines.length + line.length)).1,
        sent, returned ++ [line]⟩ := by
  refine
    ⟨(List.length_set ..).trans length, noPrompt,
      consumed ++ (newlines ++ line) ++ [byte], [], behind, ?_,
      scan_whole before isBlank areNewlines inLine nonempty ends,
      List.forall_mem_nil _, (returnLine_holds holds.add).2,
      fun _ waits => (nomatch waits)⟩
  rw [isSent]
  simp only [List.append_assoc, List.singleton_append]

/-- What is carried over when no line is complete. -/
theorem unended_partial
    {consumed blank newlines line : List Byte}
    {returned : List (List Byte)}
    (before : scan isNewline [] consumed = (returned, blank))
    (isBlank : ∀ byte ∈ blank, isNewline byte = true)
    (areNewlines : ∀ byte ∈ newlines, isNewline byte = true)
    (inLine : ∀ byte ∈ line, isNewline byte = false) :
    unended isNewline (consumed ++ (newlines ++ line)) =
        blank ++ (newlines ++ line) ∧
      started isNewline
          (unended isNewline (consumed ++ (newlines ++ line))) = line := by
  have carried :
      unended isNewline (consumed ++ (newlines ++ line)) =
        blank ++ (newlines ++ line) :=
    congrArg Prod.snd (scan_unended before isBlank areNewlines inLine)
  refine ⟨carried, ?_⟩
  rw [carried, started_newlines isBlank, started_newlines areNewlines,
    started_line inLine]

variable {world next : World}

/-- While `readline` waits, a partial line stands at the cursor. -/
theorem of_partial
    {buffer sent consumed blank newlines line : List Byte}
    {cur pRead : Nat}
    {returned : List (List Byte)}
    (length : buffer.length = maxAtResponse + 1)
    (noPrompt : started isNewline (unended isNewline sent) ≠ prompt)
    (isSent : sent = consumed ++ (newlines ++ line))
    (before : scan isNewline [] consumed = (returned, blank))
    (isBlank : ∀ byte ∈ blank, isNewline byte = true)
    (areNewlines : ∀ byte ∈ newlines, isNewline byte = true)
    (inLine : ∀ byte ∈ line, isNewline byte = false)
    (holds : Holds buffer cur line)
    (position : pRead = cur + line.length)
    (bounded : pRead ≤ (unended isNewline sent).length) :
    Tracks ⟨⟨buffer, cur, .reading pRead⟩, sent, returned⟩ := by
  have skipped :=
    scan_unended before isBlank areNewlines
      (List.forall_mem_nil _)
  rw [List.append_nil] at skipped
  refine
    ⟨length, noPrompt, consumed ++ newlines, blank ++ newlines, line, ?_,
      skipped, ?_, holds, ?_⟩
  · rw [isSent, List.append_assoc]
  · exact fun byte member =>
      (List.mem_append.mp member).elim (isBlank byte) (areNewlines byte)
  · intro waitsAt waits
    obtain rfl := Pc.reading.inj waits
    exact ⟨inLine, position, bounded⟩

/-- Entering `readline` keeps track of the lines. -/
theorem call
    (tracks : Tracks world)
    (stepped : step? world .call = some next) :
    Tracks next := by
  obtain ⟨length, noPrompt, consumed, blank, string, isSent, before, isBlank,
    holds, -⟩ := tracks
  obtain ⟨⟨buffer, cur, pc⟩, sent, returned⟩ := world
  dsimp only at length noPrompt isSent before holds
  cases pc with
  | reading pRead => exact nomatch stepped
  | called =>
      obtain rfl := Option.some.inj stepped
      rw [World.after, List.append_nil]
      by_cases empty : string = []
      · subst empty
        obtain ⟨first, rest, rfl⟩ :=
          List.exists_cons_of_length_eq_add_one length
        have consumedAll :
            enter ⟨first :: rest, cur, .called⟩ =
              (⟨0 :: rest, 0, .reading 0⟩, none) :=
          if_pos holds.cString_eq
        simp only [consumedAll, Option.toList_none, List.append_nil]
        exact
          of_partial length noPrompt isSent before isBlank
            (List.forall_mem_nil _) (List.forall_mem_nil _)
            ⟨List.forall_mem_nil _, rest, rfl⟩ rfl (Nat.zero_le _)
      · obtain ⟨newlines, line, rest, rfl, areNewlines, inLine, ended⟩ :=
          string_cases string
        rcases ended with rfl | ⟨nonempty, byte, behind, rfl, ends⟩
        · rw [List.append_nil] at isSent holds empty
          obtain ⟨carried, isLine⟩ :=
            unended_partial before isBlank areNewlines inLine
          rw [← isSent] at carried isLine
          have within := holds.add.length_lt
          simp only [enter_unended holds empty areNewlines inLine
            (isLine ▸ noPrompt), Option.toList_none, List.append_nil]
          refine
            of_partial ?_ noPrompt isSent before isBlank areNewlines inLine
              ⟨holds.add.1, _, rfl⟩ (Nat.zero_add _).symm ?_
          · rw [List.length_append, List.length_cons, List.length_drop]
            omega
          · rw [carried, List.length_append, List.length_append]
            omega
        · simp only [enter_line holds areNewlines inLine nonempty ends]
          exact
            of_line length noPrompt isSent before isBlank holds areNewlines
              inLine nonempty ends

/-- A read keeps track of the lines. -/
theorem read
    {bytes : List Byte}
    (tracks : Tracks world)
    (plain : Plain world (.read bytes))
    (stepped : step? world (.read bytes) = some next) :
    Tracks next := by
  obtain ⟨length, -, consumed, blank, string, isSent, before, isBlank, holds,
    atRead⟩ := tracks
  obtain ⟨nonzero, roomy, noPrompt⟩ := plain
  obtain ⟨⟨buffer, cur, pc⟩, sent, returned⟩ := world
  dsimp only at length isSent before holds atRead roomy noPrompt
  cases pc with
  | called => exact nomatch stepped
  | reading pRead =>
      obtain ⟨noEnd, rfl, bounded⟩ := atRead pRead rfl
      have hasRoom : cur + string.length ≠ maxAtResponse := by omega
      simp only [step?, makeRoom, hasRoom, if_false,
        Option.ite_none_right_eq_some] at stepped
      obtain ⟨⟨-, fits⟩, moved⟩ := stepped
      obtain rfl := Option.some.inj moved
      have sameLength :
          (store buffer (cur + string.length) bytes).length =
            maxAtResponse + 1 := by
        simp only [store, List.length_append, List.length_take,
          List.length_cons, List.length_drop]
        omega
      have isSentNow : sent ++ bytes = consumed ++ (string ++ bytes) := by
        rw [isSent, List.append_assoc]
      obtain ⟨newlines, line, rest, shape, areNewlines, inLine, ended⟩ :=
        string_cases (string ++ bytes)
      rw [shape] at isSentNow
      rcases ended with rfl | ⟨nonempty, byte, behind, rfl, ends⟩
      · rw [List.append_nil] at shape isSentNow
        obtain ⟨carried, isLine⟩ :=
          unended_partial before isBlank areNewlines inLine
        rw [← isSentNow] at carried isLine
        have carriedBefore :
            unended isNewline sent = blank ++ string := by
          have noNewlines :=
            unended_partial before isBlank
              (List.forall_mem_nil _) noEnd
          rw [isSent]
          exact noNewlines.1
        have lengths := congrArg List.length shape
        rw [World.after,
          received_partial holds nonzero shape areNewlines inLine
            (isLine ▸ noPrompt)]
        simp only [Option.toList_none, List.append_nil]
        have stored := holds.store nonzero
        rw [shape] at stored
        refine
          of_partial sameLength noPrompt isSentNow before isBlank areNewlines
            inLine stored.add ?_ ?_
        · rw [List.length_append, List.length_append] at lengths
          omega
        · rw [carriedBefore, List.length_append] at bounded
          rw [carried, List.length_append, ← lengths, List.length_append]
          omega
      · have stored := holds.store nonzero
        rw [shape] at stored
        rw [World.after,
          received_line holds nonzero shape areNewlines inLine nonempty ends]
        exact
          of_line sameLength noPrompt isSentNow before isBlank stored
            areNewlines inLine nonempty ends

/-- A call either waits for a read or leaves less at the cursor. -/
theorem called
    (tracks : Tracks world)
    (isCalled : world.reader.pc = .called) :
    ∃ next,
      readers.step? world .call = some next ∧ next.sent = world.sent ∧
        ((∃ pRead, next.reader.pc = .reading pRead) ∨
          (cString next.reader.buffer next.reader.cur).length <
            (cString world.reader.buffer world.reader.cur).length) := by
  obtain ⟨-, noPrompt, consumed, blank, string, isSent, before, isBlank,
    holds, -⟩ := tracks
  obtain ⟨⟨buffer, cur, pc⟩, sent, returned⟩ := world
  dsimp only at isCalled noPrompt isSent before holds
  subst isCalled
  refine ⟨_, rfl, List.append_nil sent, ?_⟩
  dsimp only [World.after]
  obtain ⟨newlines, line, rest, rfl, areNewlines, inLine, ended⟩ :=
    string_cases string
  rcases ended with rfl | ⟨nonempty, byte, behind, rfl, ends⟩
  · rw [List.append_nil] at isSent holds
    obtain ⟨-, isLine⟩ :=
      unended_partial before isBlank areNewlines inLine
    rw [← isSent] at isLine
    by_cases empty : newlines ++ line = []
    · rw [empty] at holds
      exact Or.inl ⟨0, by rw [enter, if_pos holds.cString_eq]⟩
    · refine Or.inl ⟨line.length, ?_⟩
      rw [enter_unended holds empty areNewlines inLine (isLine ▸ noPrompt)]
  · have left := (returnLine_holds holds.add).2
    rw [enter_line holds areNewlines inLine nonempty ends, holds.cString_eq]
    refine Or.inr (lt_of_eq_of_lt (congrArg List.length left.cString_eq) ?_)
    simp only [List.length_append, List.length_cons]
    omega

/-- Without further reads, `readline` is called until it waits. -/
theorem settles
    (tracks : Tracks world) :
    ∃ count waiting pRead,
      readers.Run world (List.replicate count .call) waiting ∧
        waiting.reader.pc = .reading pRead ∧ waiting.sent = world.sent ∧
        Tracks waiting := by
  generalize size :
    (cString world.reader.buffer world.reader.cur).length = bound
  induction bound using Nat.strongRecOn generalizing world with
  | ind bound inductionHypothesis =>
      cases isAt : world.reader.pc with
      | reading pRead =>
          exact ⟨0, world, pRead, .done world, isAt, rfl, tracks⟩
      | called =>
          obtain ⟨next, stepped, sameSent, waits | fewer⟩ :=
            tracks.called isAt
          · obtain ⟨pRead, waits⟩ := waits
            exact
              ⟨1, next, pRead,
                .step Event.call [] trivial stepped (.done next), waits,
                sameSent, tracks.call stepped⟩
          · obtain
              ⟨count, waiting, pRead, run, waits, sentNothing, settled⟩ :=
              inductionHypothesis _ (size ▸ fewer) (tracks.call stepped) rfl
            exact
              ⟨count + 1, waiting, pRead,
                .step Event.call _ trivial stepped run, waits,
                sentNothing.trans sameSent, settled⟩

/-- While `readline` waits, all complete lines have been returned. -/
theorem returned_eq
    {pRead : Nat}
    (tracks : Tracks world)
    (waits : world.reader.pc = .reading pRead) :
    world.returned = lines isNewline world.sent := by
  obtain ⟨-, -, consumed, blank, string, isSent, before, isBlank, -, atRead⟩ :=
    tracks
  have noNewlines :=
    scan_unended before isBlank
      (List.forall_mem_nil _) (atRead pRead waits).1
  rw [isSent]
  exact (congrArg Prod.fst noNewlines).symm

/-- The lines that were returned are the first ones of the stream. -/
theorem returned_prefix
    (tracks : Tracks world) :
    world.returned <+: lines isNewline world.sent := by
  obtain ⟨-, -, consumed, blank, string, isSent, before, -, -, -⟩ := tracks
  rw [isSent, lines, scan_append, before]
  exact List.prefix_append _ _

/-- The buffer before the first call. -/
theorem initial
    (isInitial : readers.Initial world) :
    Tracks world := by
  obtain ⟨length, isCalled, holds, noPrompt, noLines⟩ := isInitial
  refine
    ⟨length, noPrompt, [], [], world.sent, rfl, by rw [noLines]; rfl,
      List.forall_mem_nil _, holds, ?_⟩
  intro pRead waits
  exact nomatch isCalled.symm.trans waits

/-- Every plain run keeps track of the lines. -/
theorem run
    {source target : World}
    {events : List Event}
    (isInitial : readers.Initial source)
    (run : readers.GuardedRun Plain source events target) :
    Tracks target := by
  refine run.invariant Tracks ?_ (initial isInitial)
  intro world event next tracks plain stepped
  cases event with
  | call => exact tracks.call stepped
  | read bytes => exact tracks.read plain stepped

end Tracks

/-- The bytes that the reads of a run return. -/
def readBytes (events : List Event) : List Byte :=
  events.flatMap fun event =>
    match event with
    | .call => []
    | .read bytes => bytes

/-- What the modem has sent is what was there and what was read. -/
theorem sent_eq
    {guard : World → Event → Prop}
    {source target : World}
    {events : List Event}
    (run : readers.GuardedRun guard source events target) :
    target.sent = source.sent ++ readBytes events := by
  induction run with
  | done state => exact (List.append_nil _).symm
  | @step source next target event rest _ stepped _ inductionHypothesis =>
      have oneStep : next.sent = source.sent ++ readBytes [event] := by
        cases event with
        | call =>
            cases isAt : source.reader.pc with
            | called =>
                simp only [readers, step?, isAt] at stepped
                rw [← Option.some.inj stepped]
                rfl
            | reading pRead =>
                simp only [readers, step?, isAt] at stepped
                exact nomatch stepped
        | read bytes =>
            cases isAt : source.reader.pc with
            | called =>
                simp only [readers, step?, isAt] at stepped
                exact nomatch stepped
            | reading pRead =>
                simp only [readers, step?, isAt,
                  Option.ite_none_right_eq_some] at stepped
                rw [← Option.some.inj stepped.2]
                exact
                  congrArg (source.sent ++ ·) (List.append_nil bytes).symm
      rw [inductionHypothesis, oneStep, List.append_assoc]
      exact
        congrArg (source.sent ++ ·)
          (@List.flatMap_append _ _ [event] rest _).symm

/--
However the stream of the modem is cut into reads, `readline` returns the
lines of the stream in order: those it has returned are the first ones, and
when it waits for the next read it has returned all the complete ones.
-/
theorem readline_returns_lines
    {source target : World}
    {events : List Event}
    (isInitial : readers.Initial source)
    (run : readers.GuardedRun Plain source events target) :
    target.returned <+: lines isNewline (source.sent ++ readBytes events) ∧
      ∃ count waiting pRead,
        readers.Run target (List.replicate count .call) waiting ∧
          waiting.reader.pc = .reading pRead ∧
          waiting.returned =
            lines isNewline (source.sent ++ readBytes events) := by
  have tracks := Tracks.run isInitial run
  rw [← sent_eq run]
  refine ⟨tracks.returned_prefix, ?_⟩
  obtain ⟨count, waiting, pRead, calls, waits, sameSent, settled⟩ :=
    tracks.settles
  refine ⟨count, waiting, pRead, calls, waits, ?_⟩
  rw [settled.returned_eq waits, sameSent]

/-- The channel before its first call. -/
def exampleWorld : World where
  reader := ⟨List.replicate (maxAtResponse + 1) 0, 0, .called⟩
  sent := []
  returned := []

theorem exampleWorld_initial : readers.Initial exampleWorld := by
  refine
    ⟨List.length_replicate, rfl, ?_, by decide, rfl⟩
  exact ⟨List.forall_mem_nil _, List.replicate maxAtResponse 0, rfl⟩

/-- `"OK"` and `"+CSQ: 20,99"`, cut within the lines. -/
def exampleEvents : List Event :=
  [.call, .read [0x0d, 0x0a, 0x4f],
    .read [0x4b, 0x0d, 0x0a, 0x2b, 0x43, 0x53], .call,
    .read [0x51, 0x3a, 0x20, 0x32, 0x30, 0x2c, 0x39, 0x39, 0x0d, 0x0a]]

theorem readline_returns_lines_csq :
    ∃ target,
      readers.GuardedRun Plain exampleWorld exampleEvents target ∧
        target.returned <+:
          [[0x4f, 0x4b],
            [0x2b, 0x43, 0x53, 0x51, 0x3a, 0x20, 0x32, 0x30, 0x2c, 0x39,
              0x39]] := by
  have accepted :
      (readers.runWhile? (fun world event => decide (Plain world event))
          exampleWorld exampleEvents).isSome = true := by
    decide +kernel
  obtain ⟨target, reached⟩ := Option.isSome_iff_exists.mp accepted
  have run :=
    System.guardedRun_of_runWhile? Plain
      (fun world event checked => of_decide_eq_true checked) reached
  exact ⟨target, run, (readline_returns_lines exampleWorld_initial run).1⟩

/-- A string behind the place where something is stored. -/
theorem Holds.behind_store
    {buffer bytes stale : List Byte}
    {pRead : Nat}
    (holds : Holds buffer (pRead + bytes.length + 1) stale)
    (within : pRead ≤ buffer.length) :
    Holds (AtReader.store buffer pRead bytes) (pRead + bytes.length + 1)
      stale := by
  obtain ⟨nonzero, behind, shape⟩ := holds
  refine ⟨nonzero, behind, ?_⟩
  have front :
      (buffer.take pRead ++ bytes ++ [0]).length =
        pRead + bytes.length + 1 := by
    simp only [List.length_append, List.length_take, List.length_singleton]
    omega
  rw [AtReader.store, List.append_cons, ← front, List.drop_left, front,
    shape]

/--
After the prompt `readline` goes on behind the zero byte that ends what has
been read: the bytes that an earlier, longer read has left there are taken for
the beginning of the next line.
-/
theorem prompt_exposes_stale_bytes
    {source world next target : World}
    {bytes stale : List Byte}
    {earlier events : List Event}
    {pRead : Nat}
    (starts : readers.Initial source)
    (reached : readers.GuardedRun Plain source earlier world)
    (waits : world.reader.pc = .reading pRead)
    (nonzero : ∀ byte ∈ bytes, byte ≠ 0)
    (roomy : (unended isNewline world.sent).length < maxAtResponse)
    (noLine :
      unended isNewline (world.sent ++ bytes) =
        unended isNewline world.sent ++ bytes)
    (isPrompt :
      started isNewline (unended isNewline (world.sent ++ bytes)) = prompt)
    (isStale : Holds world.reader.buffer (pRead + bytes.length + 1) stale)
    (staleNoPrompt : started isNewline (unended isNewline stale) ≠ prompt)
    (stepped : readers.step? world (.read bytes) = some next)
    (run : readers.GuardedRun Plain ⟨next.reader, stale, []⟩ events target) :
    next.returned = world.returned ++ [prompt] ∧
      ∀ later,
        target.reader.pc = .reading later →
          target.returned = lines isNewline (stale ++ readBytes events) := by
  obtain ⟨length, -, consumed, blank, string, isSent, before, isBlank, holds,
    atRead⟩ := Tracks.run starts reached
  obtain ⟨⟨buffer, cur, pc⟩, sent, returned⟩ := world
  dsimp only at waits length isSent before holds atRead
  dsimp only at roomy noLine isPrompt isStale
  subst waits
  obtain ⟨noEnd, rfl, bounded⟩ := atRead pRead rfl
  have hasRoom : cur + string.length ≠ maxAtResponse := by omega
  simp only [readers, step?, makeRoom, hasRoom, if_false,
    Option.ite_none_right_eq_some] at stepped
  obtain ⟨⟨-, fits⟩, moved⟩ := stepped
  obtain rfl := Option.some.inj moved
  -- The string at the cursor is the prompt behind newlines.
  obtain ⟨newlines, areNewlines, shape⟩ :
      ∃ newlines,
        (∀ byte ∈ newlines, isNewline byte = true) ∧
          string ++ bytes = newlines ++ prompt := by
    have carried : unended isNewline sent = blank ++ string := by
      rw [isSent]
      exact (Tracks.unended_partial before isBlank (List.forall_mem_nil _)
        noEnd).1
    rw [noLine, carried, List.append_assoc, started_newlines isBlank]
      at isPrompt
    refine
      ⟨(string ++ bytes).takeWhile isNewline,
        fun byte member => List.mem_takeWhile_imp member, ?_⟩
    rw [← isPrompt, started, List.takeWhile_append_dropWhile]
  have stored := holds.store nonzero
  rw [shape] at stored
  have skipped := skipNewlines_eq stored areNewlines (by decide)
  have atPrompt :
      findNextEOL (store buffer (cur + string.length) bytes)
          (cur + newlines.length) = some (cur + newlines.length + 2) := by
    simp only [findNextEOL, stored.add.cString_eq, if_true]
  have lengths := congrArg List.length shape
  simp only [List.length_append, prompt, List.length_cons, List.length_nil]
    at lengths
  have after :
      received ⟨buffer, cur, .reading (cur + string.length)⟩
          (cur + string.length) bytes =
        (⟨(store buffer (cur + string.length) bytes).set
              (cur + newlines.length + 2) 0,
            cur + newlines.length + 2 + 1, .called⟩, some prompt) := by
    obtain ⟨-, tail, isFront⟩ := stored.add
    unfold received
    simp only [skipped, atPrompt, returnLine, isFront, Nat.add_sub_cancel_left]
    rfl
  have inBuffer := holds.length_lt
  have behind := isStale.behind_store (by omega)
  have position :
      cur + string.length + bytes.length = cur + newlines.length + 2 := by
    omega
  rw [position] at behind
  have isInitial :
      readers.Initial
        ⟨(received ⟨buffer, cur, .reading (cur + string.length)⟩
            (cur + string.length) bytes).1, stale, []⟩ := by
    rw [after]
    refine
      ⟨?_, rfl, behind.set (Nat.lt_succ_self _), staleNoPrompt, rfl⟩
    simp only [List.length_set, store, List.length_append, List.length_take,
      List.length_cons, List.length_drop]
    omega
  constructor
  · simp only [World.after, after, Option.toList_some]
  · intro later isWaiting
    rw [(Tracks.run isInitial run).returned_eq isWaiting, sent_eq run]

/-- `"\r\n+CSQ: 20,99\r\n"`. -/
def earlierLine : List Byte :=
  [0x0d, 0x0a, 0x2b, 0x43, 0x53, 0x51, 0x3a, 0x20, 0x32, 0x30, 0x2c, 0x39,
    0x39, 0x0d, 0x0a]

/-- `"Q: 20,99"`, which the prompt does not cover. -/
def staleBytes : List Byte :=
  [0x51, 0x3a, 0x20, 0x32, 0x30, 0x2c, 0x39, 0x39]

/-- `"\r\n> "`. -/
def promptRead : List Byte := [0x0d, 0x0a, 0x3e, 0x20]

/-- The end of an earlier line is returned again behind the prompt. -/
theorem prompt_exposes_stale_bytes_csq :
    ∃ world next target,
      readers.GuardedRun Plain exampleWorld
          [.call, .read earlierLine, .call] world ∧
        readers.step? world (.read promptRead) = some next ∧
        readers.GuardedRun Plain ⟨next.reader, staleBytes, []⟩
          [.call, .read [0x0d, 0x0a], .call] target ∧
        next.returned = world.returned ++ [prompt] ∧
        target.returned = [staleBytes] := by
  have accepted :
      ((readers.runWhile? (fun world event => decide (Plain world event))
          exampleWorld [.call, .read earlierLine, .call]).bind fun world =>
        (readers.step? world (.read promptRead)).bind
          fun next =>
            (readers.runWhile? (fun world event => decide (Plain world event))
                ⟨next.reader, staleBytes, []⟩
                [.call, .read [0x0d, 0x0a], .call]).map fun target =>
              (world.reader.pc, world.sent,
                (world.reader.buffer.drop (0 + promptRead.length + 1)).take 9,
                target.reader.pc)) =
        some
          (.reading 0, earlierLine, staleBytes ++ [0x00], .reading 0) := by
    decide +kernel
  obtain ⟨world, first, accepted⟩ := Option.bind_eq_some_iff.mp accepted
  obtain ⟨next, stepped, accepted⟩ := Option.bind_eq_some_iff.mp accepted
  obtain ⟨target, second, ends⟩ := Option.map_eq_some_iff.mp accepted
  simp only [Prod.mk.injEq] at ends
  obtain ⟨isReading, isSent, isFront, waits⟩ := ends
  have reached :=
    System.guardedRun_of_runWhile? Plain
      (fun world event checked => of_decide_eq_true checked) first
  have run :=
    System.guardedRun_of_runWhile? Plain
      (fun world event checked => of_decide_eq_true checked) second
  have isStale : Holds world.reader.buffer (0 + promptRead.length + 1) staleBytes := by
    refine
      ⟨by decide, (world.reader.buffer.drop (0 + promptRead.length + 1)).drop 9, ?_⟩
    rw [List.append_cons, ← isFront, List.take_append_drop]
  obtain ⟨prompted, again⟩ :=
    prompt_exposes_stale_bytes exampleWorld_initial reached isReading
      (by decide) (by rw [isSent]; decide) (by rw [isSent]; decide)
      (by rw [isSent]; decide) isStale (by decide) stepped run
  exact
    ⟨world, next, target, reached, stepped, run, prompted, again 0 waits⟩

end RecomputerGateway.AtReader
