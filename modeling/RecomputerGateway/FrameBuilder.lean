import RecomputerGateway.SpiTransfer

namespace RecomputerGateway.FrameBuilder

open SpiTransfer

/-!
# Messages that are built in a buffer

A program writes the pieces of a message one behind the other into a buffer of
a fixed size.  A piece may write more bytes than it keeps: the next piece then
begins among them, and they are no part of the message.
-/

/-- The bytes that are written for a piece, the first of which are kept. -/
structure Piece where
  written : List Byte
  kept : Nat
  within : kept ≤ written.length

def Piece.bytes (piece : Piece) : List Byte := piece.written.take piece.kept

/-- A buffer, and where the next piece is written. -/
structure Frame where
  buffer : List Byte
  cursor : Nat
  deriving DecidableEq

/-- Write a piece, unless that would be past the end of the buffer. -/
def put? (frame : Frame) (piece : Piece) : Option Frame :=
  if frame.cursor + piece.written.length ≤ frame.buffer.length then
    some
      ⟨overwrite frame.buffer frame.cursor piece.written,
        frame.cursor + piece.kept⟩
  else none

def putAll? (frame : Frame) : List Piece → Option Frame
  | [] => some frame
  | piece :: pieces =>
      (put? frame piece).bind fun next => putAll? next pieces

/-- The pieces stay in a buffer of a size. -/
def Fits (size : Nat) : Nat → List Piece → Prop
  | _, [] => True
  | cursor, piece :: pieces =>
      cursor + piece.written.length ≤ size ∧
        Fits size (cursor + piece.kept) pieces

/-- How far pieces move the cursor. -/
def extent : List Piece → Nat
  | [] => 0
  | piece :: pieces => piece.kept + extent pieces

/-- Pieces that stay in a buffer end in it. -/
theorem extent_le_of_fits
    {size cursor : Nat}
    {pieces : List Piece}
    (inside : cursor ≤ size)
    (fits : Fits size cursor pieces) :
    cursor + extent pieces ≤ size := by
  induction pieces generalizing cursor with
  | nil => exact inside
  | cons piece pieces inductionHypothesis =>
      have within := piece.within
      have written := fits.1
      have later := inductionHypothesis (by omega) fits.2
      rwa [extent, ← Nat.add_assoc]

/-- The message is as long as the way of the cursor. -/
theorem length_bytes (pieces : List Piece) :
    (pieces.flatMap Piece.bytes).length = extent pieces := by
  induction pieces with
  | nil => rfl
  | cons piece pieces inductionHypothesis =>
      rw [List.flatMap_cons, List.length_append, inductionHypothesis,
        Piece.bytes, List.length_take, Nat.min_eq_left piece.within, extent]

/-- Pieces that only fit with some more bytes from their start on. -/
def Needs (size slack : Nat) (pieces : List Piece) : Prop :=
  ∀ cursor, Fits size cursor pieces → cursor + slack ≤ size

theorem needs_cons
    (size : Nat)
    {slack : Nat}
    {piece : Piece}
    (written : slack ≤ piece.written.length)
    (rest : List Piece) :
    Needs size slack (piece :: rest) :=
  fun cursor fits =>
    Nat.le_trans (Nat.add_le_add_left written cursor) fits.1

/-- What a piece writes and does not keep is no matter if more follows. -/
theorem fits_cons_of_needs
    {size slack : Nat}
    {piece : Piece}
    {rest : List Piece}
    (needs : Needs size slack rest)
    (overhang : piece.written.length ≤ piece.kept + slack)
    (cursor : Nat) :
    Fits size cursor (piece :: rest) ↔
      Fits size (cursor + piece.kept) rest := by
  constructor
  · exact fun fits => fits.2
  · intro fits
    have room := needs _ fits
    exact ⟨by omega, fits⟩

/-- Writing within the first part of a buffer leaves the rest. -/
theorem overwrite_append
    {front : List Byte}
    (back : List Byte)
    {offset : Nat}
    {bytes : List Byte}
    (fits : offset + bytes.length ≤ front.length) :
    overwrite (front ++ back) offset bytes =
      overwrite front offset bytes ++ back := by
  rw [overwrite, List.take_append_of_le_length (by omega),
    List.drop_append_of_le_length fits, overwrite, List.append_assoc,
    List.append_assoc, List.append_assoc]

/-- What has been kept of the message so far. -/
structure Frame.Holds (frame : Frame) (content : List Byte) : Prop where
  kept : frame.buffer.take frame.cursor = content
  inside : frame.cursor ≤ frame.buffer.length

/-- A piece is added to the message, and the buffer keeps its size. -/
theorem put?_holds
    {frame next : Frame}
    {piece : Piece}
    {content : List Byte}
    (holds : frame.Holds content)
    (put : put? frame piece = some next) :
    next.Holds (content ++ piece.bytes) ∧
      next.buffer.length = frame.buffer.length := by
  obtain ⟨fits, rest⟩ := Option.ite_none_right_eq_some.mp put
  obtain rfl := Option.some.inj rest
  have sameLength := length_overwrite fits
  have within := piece.within
  refine ⟨⟨?_, ?_⟩, sameLength⟩
  · have before :
        (overwrite frame.buffer frame.cursor piece.written).take
            frame.cursor =
          content :=
      (take_overwrite holds.inside).trans holds.kept
    have behind :
        ((overwrite frame.buffer frame.cursor piece.written).drop
            frame.cursor).take piece.kept =
          piece.bytes := by
      have whole :=
        drop_take_overwrite frame.buffer piece.written holds.inside
      have shorter := congrArg (List.take piece.kept) whole
      rwa [List.take_take, Nat.min_eq_left within] at shorter
    dsimp only
    rw [List.take_add, before, behind]
  · dsimp only
    omega

theorem putAll?_holds
    {frame next : Frame}
    {pieces : List Piece}
    {content : List Byte}
    (holds : frame.Holds content)
    (put : putAll? frame pieces = some next) :
    next.Holds (content ++ pieces.flatMap Piece.bytes) ∧
      next.buffer.length = frame.buffer.length ∧
      next.cursor = frame.cursor + extent pieces := by
  induction pieces generalizing frame content with
  | nil =>
      obtain rfl := Option.some.inj put
      rw [List.flatMap_nil, List.append_nil]
      exact ⟨holds, rfl, rfl⟩
  | cons piece pieces inductionHypothesis =>
      obtain ⟨middle, first, later⟩ := Option.bind_eq_some_iff.mp put
      obtain ⟨holdsMiddle, sameLength⟩ := put?_holds holds first
      obtain ⟨holdsNext, lengthNext, cursorNext⟩ :=
        inductionHypothesis holdsMiddle later
      have moved : middle.cursor = frame.cursor + piece.kept := by
        obtain ⟨-, isMiddle⟩ := Option.ite_none_right_eq_some.mp first
        rw [← Option.some.inj isMiddle]
      rw [List.flatMap_cons, ← List.append_assoc]
      refine ⟨holdsNext, lengthNext.trans sameLength, ?_⟩
      rw [cursorNext, moved, extent, Nat.add_assoc]

/-- The pieces are written if and only if they all stay in the buffer. -/
theorem putAll?_isSome_iff
    {frame : Frame}
    {pieces : List Piece}
    (inside : frame.cursor ≤ frame.buffer.length) :
    (∃ next, putAll? frame pieces = some next) ↔
      Fits frame.buffer.length frame.cursor pieces := by
  induction pieces generalizing frame with
  | nil => exact iff_of_true ⟨frame, rfl⟩ trivial
  | cons piece pieces inductionHypothesis =>
      rw [putAll?, Fits, put?]
      by_cases fits :
          frame.cursor + piece.written.length ≤ frame.buffer.length
      · have later :=
          @inductionHypothesis
            ⟨overwrite frame.buffer frame.cursor piece.written,
              frame.cursor + piece.kept⟩
            (by
              have within := piece.within
              have same := length_overwrite fits
              dsimp only
              omega)
        dsimp only at later
        rw [length_overwrite fits] at later
        rw [if_pos fits, Option.bind_some, later]
        exact (and_iff_right fits).symm
      · rw [if_neg fits]
        exact
          iff_of_false (fun ⟨_, isNone⟩ => nomatch isNone)
            fun both => fits both.1

end RecomputerGateway.FrameBuilder
