import RecomputerGateway.FrameBuilder
import RecomputerGateway.QmiProxy
import RecomputerGateway.QmuxTlv

namespace RecomputerGateway.QmuxStartRequest

open FrameBuilder
open Hexadecimal (Byte)
open LittleEndian
open QmiProxy (QmiMessage)
open QmuxTlv
open SpiTransfer (overwrite length_overwrite)
open TypeLengthValue

/-!
# The request that sets up a data call

`ComposeQMUXMsg` builds a message in a buffer of 256 bytes on its stack, and
`WdsStartNwInterfaceReq` writes the TLVs of the request into it: the access
point, the credentials and what else the profile says.  The texts come from
the command line.
-/

/-- What the request uses of `PROFILE_T`; a null pointer is no text. -/
structure Profile where
  apn : Option (List Byte)
  user : Option (List Byte)
  pd : Option (List Byte)
  auth : BitVec 32
  curIpFamily : BitVec 32
  idProduct : Nat
  profileIndex : BitVec 32
  bringUpByApnName : BitVec 32
  bringUpByApnType : BitVec 32
  apnType : BitVec 32

/-- `s_is_cdma` and `s_hdr_personality`. -/
structure Modem where
  isCdma : Bool
  hdrPersonality : Nat

/-- A TLV of one byte. -/
def bytePiece (type value : Byte) : Piece :=
  ⟨type :: (le16 1 ++ [value]), 4, Nat.le_refl 4⟩

/-- A TLV with a text, which `qstrcpy` ends with a zero. -/
def textPiece (type : Byte) (text : List Byte) : Piece :=
  ⟨type :: (le16 text.length ++ (text ++ [0])), text.length % 65536 + 3, by
    rw [List.length_cons, List.length_append, length_le16,
      List.length_append, List.length_singleton]
    omega⟩

/-- A `BOOL` of four bytes in a TLV that has a length of one. -/
def boolPiece (type : Byte) (value : BitVec 32) : Piece :=
  ⟨type :: (le16 1 ++ le32 value.toNat), 4, Nat.le_add_left 4 3⟩

/-- A TLV of four bytes. -/
def intPiece (type : Byte) (value : BitVec 32) : Piece :=
  ⟨type :: (le16 4 ++ le32 value.toNat), 7, Nat.le_refl 7⟩

/-- The pieces for a value that may be missing. -/
def pieces
    {Value : Type}
    (piece : Byte → Value → Piece)
    (type : Byte)
    (value : Option Value) : List Piece :=
  (value.map (piece type)).toList

/-- A text is missing or empty. -/
def isBlank : Option (List Byte) → Bool
  | none => true
  | some [] => true
  | some (_ :: _) => false

structure Credentials where
  user : Option (List Byte)
  pd : Option (List Byte)
  auth : BitVec 32

def ascii (text : String) : List Byte :=
  text.toList.map fun char => BitVec.ofNat 8 char.toNat

/-- A CDMA modem has credentials of its own. -/
def credentials (modem : Modem) (profile : Profile) : Credentials :=
  if modem.isCdma ∧ isBlank profile.user ∧ isBlank profile.pd then
    ⟨some (ascii "ctnet@mycdma.cn"), some (ascii "vnet.mobi"), 2⟩
  else ⟨profile.user, profile.pd, profile.auth⟩

/-- The low byte of an `int`. -/
def uchar (value : BitVec 32) : Byte := value.setWidth 8

/-- A value that is written unless it is zero. -/
def unlessZero (value : BitVec 32) : Option (BitVec 32) :=
  if value = 0 then none else some value

/-- The access point; CDMA has none. -/
def apnOf (modem : Modem) (profile : Profile) : Option (List Byte) :=
  if modem.isCdma then none else profile.apn

/-- The authentication is given with both credentials. -/
def authOf (credentials : Credentials) : Option Byte :=
  if credentials.user.isSome ∧ credentials.pd.isSome then
    some (uchar credentials.auth)
  else none

/-- The TLV of the profile in the modem; CDMA has only one profile. -/
def profileIndexPieces (modem : Modem) (profile : Profile) : List Piece :=
  if profile.profileIndex ≠ 0 ∧ modem.isCdma = false then
    -- the source asks for a CDMA modem again here, which this is not
    if modem.isCdma ∧ modem.hdrPersonality = 2 then [bytePiece 0x32 101]
    else [bytePiece 0x31 (uchar profile.profileIndex)]
  else []

/-- The product that is told how to bring up the call. -/
def bringUpProduct : Nat := 0x0316

/-- `WdsStartNwInterfaceReq`, behind the header of the message. -/
def wdsStartNwInterfaceReq (modem : Modem) (profile : Profile) : List Piece :=
  let given := credentials modem profile
  pieces bytePiece 0x30 (some (if modem.isCdma then 2 else 1)) ++
    pieces textPiece 0x14 (apnOf modem profile) ++
    pieces textPiece 0x17 given.user ++
    pieces textPiece 0x18 given.pd ++
    pieces bytePiece 0x16 (authOf given) ++
    pieces bytePiece 0x19 (some (uchar profile.curIpFamily)) ++
    if profile.idProduct ≠ bringUpProduct then
      profileIndexPieces modem profile
    else
      pieces boolPiece 0x3C (unlessZero profile.bringUpByApnName) ++
        pieces boolPiece 0x3D (unlessZero profile.bringUpByApnType) ++
        pieces intPiece 0x38 (unlessZero profile.apnType)

/-- The header of a message of which the lengths are not known yet. -/
def emptyHeader (qmiType : Byte) (transactionId type : Nat) : List Byte :=
  [1, 0, 0, 0, qmiType, 0] ++ (0 :: le16 transactionId) ++ le16 type ++
    [0, 0]

/-- `WDM_DEFAULT_BUFSIZE`. -/
def wdmDefaultBufsize : Nat := 256

/--
`ComposeQMUXMsg`, unless it writes past the end of its buffer: the TLVs, then
the lengths in the header.
-/
def composeQmuxMsg
    (qmiType : Byte)
    (type transactionId : Nat)
    (tlvs : List Piece) : Option (List Byte) :=
  let buffer :=
    overwrite (List.replicate wdmDefaultBufsize 0) 0
      (emptyHeader qmiType transactionId type)
  (putAll? ⟨buffer, 13⟩ tlvs).map fun frame =>
    let length := frame.cursor - 13
    let measured := overwrite frame.buffer 11 (le16 length)
    (overwrite measured 1 (le16 (length + 12))).take (length + 13)

/-- The header of a message with TLVs of a length. -/
def header (qmiType : Byte) (transactionId type length : Nat) : List Byte :=
  (1 :: le16 (length + 12)) ++ [0, qmiType, 0] ++
    (0 :: le16 transactionId) ++ le16 type ++ le16 length

theorem length_header (qmiType : Byte) (transactionId type length : Nat) :
    (header qmiType transactionId type length).length = 13 :=
  rfl

section Header

variable
  (qmiType : Byte)
  (transactionId type length : Nat)
  (back : List Byte)

theorem header_size :
    le16At (header qmiType transactionId type length ++ back) 1 =
      (length + 12) % 65536 :=
  (le16At_append [1] _ 0).trans (le16At_le16 (length + 12) _)

theorem header_transactionId :
    le16At (header qmiType transactionId type length ++ back) 7 =
      transactionId % 65536 := by
  have shape :
      header qmiType transactionId type length ++ back =
        ((1 :: le16 (length + 12)) ++ [0, qmiType, 0, 0]) ++
          (le16 transactionId ++ (le16 type ++ (le16 length ++ back))) :=
    rfl
  rw [shape]
  exact (le16At_append _ _ 0).trans (le16At_le16 transactionId _)

theorem header_type :
    le16At (header qmiType transactionId type length ++ back) 9 =
      type % 65536 := by
  have shape :
      header qmiType transactionId type length ++ back =
        ((1 :: le16 (length + 12)) ++ [0, qmiType, 0] ++
            (0 :: le16 transactionId)) ++
          (le16 type ++ (le16 length ++ back)) :=
    rfl
  rw [shape]
  exact (le16At_append _ _ 0).trans (le16At_le16 type _)

theorem header_length :
    le16At (header qmiType transactionId type length) 11 =
      length % 65536 :=
  (le16At_append
    ((1 :: le16 (length + 12)) ++ [0, qmiType, 0] ++
      (0 :: le16 transactionId) ++ le16 type) (le16 length) 0).trans
    (le16At_le16 length [])

end Header

/-- Writing the lengths completes the header. -/
theorem measured_header
    (qmiType : Byte)
    (transactionId type length : Nat) :
    overwrite
        (overwrite (emptyHeader qmiType transactionId type) 11
          (le16 length)) 1 (le16 (length + 12)) =
      header qmiType transactionId type length :=
  rfl

section Compose

variable
  {qmiType : Byte}
  {type transactionId : Nat}
  {tlvs : List Piece}

/-- The buffer before the TLVs are written. -/
theorem emptyBuffer_eq :
    overwrite (List.replicate wdmDefaultBufsize 0) 0
        (emptyHeader qmiType transactionId type) =
      emptyHeader qmiType transactionId type ++ List.replicate 243 0 := by
  have parts :
      List.replicate wdmDefaultBufsize (0 : Byte) =
        List.replicate 13 0 ++ List.replicate 243 0 :=
    (@List.replicate_append_replicate 13 Byte 0 243).symm
  rw [parts, overwrite_append _ (Nat.le_refl 13)]
  rfl

theorem length_emptyBuffer :
    (emptyHeader qmiType transactionId type ++
      List.replicate 243 0).length = wdmDefaultBufsize := by
  rw [List.length_append, List.length_replicate]
  rfl

theorem emptyBuffer_holds :
    (Frame.mk
      (emptyHeader qmiType transactionId type ++ List.replicate 243 0)
      13).Holds (emptyHeader qmiType transactionId type) :=
  ⟨List.take_left' rfl,
    Nat.le_trans (by decide : 13 ≤ wdmDefaultBufsize)
      (Nat.le_of_eq length_emptyBuffer.symm)⟩

/-- The TLVs are written if and only if they stay in the buffer. -/
theorem putAll?_emptyBuffer_iff :
    (∃ frame,
      putAll?
          ⟨emptyHeader qmiType transactionId type ++
            List.replicate 243 0, 13⟩ tlvs =
        some frame) ↔
      Fits wdmDefaultBufsize 13 tlvs := by
  have written :=
    @putAll?_isSome_iff _ tlvs
      (@emptyBuffer_holds qmiType type transactionId).inside
  dsimp only at written
  rwa [length_emptyBuffer] at written

/-- The composed message has the TLVs behind a header with their length. -/
theorem composeQmuxMsg_eq (fits : Fits wdmDefaultBufsize 13 tlvs) :
    composeQmuxMsg qmiType type transactionId tlvs =
      some
        (header qmiType transactionId type (extent tlvs) ++
          tlvs.flatMap Piece.bytes) := by
  obtain ⟨frame, put⟩ :=
    (@putAll?_emptyBuffer_iff qmiType type transactionId _).mpr fits
  obtain ⟨holdsFrame, -, cursor⟩ := putAll?_holds emptyBuffer_holds put
  have behind : frame.cursor - 13 = extent tlvs := by
    rw [cursor]
    exact Nat.add_sub_cancel_left 13 _
  have isBuffer :
      frame.buffer =
        emptyHeader qmiType transactionId type ++
          (tlvs.flatMap Piece.bytes ++
            frame.buffer.drop frame.cursor) := by
    rw [← List.append_assoc, ← holdsFrame.kept, List.take_append_drop]
  have isSize :
      (header qmiType transactionId type (extent tlvs) ++
        tlvs.flatMap Piece.bytes).length = extent tlvs + 13 := by
    rw [List.length_append, length_header, length_bytes, Nat.add_comm]
  unfold composeQmuxMsg
  dsimp only
  rw [emptyBuffer_eq, put]
  refine congrArg some ?_
  dsimp only
  rw [behind, isBuffer,
    overwrite_append _ (by decide : 11 + 2 ≤ 13),
    overwrite_append _ (by decide : 1 + 2 ≤ 13), measured_header,
    ← List.append_assoc, List.take_left' isSize]

/-- Composing fails if and only if it writes past the end of the buffer. -/
theorem composeQmuxMsg_eq_none_iff :
    composeQmuxMsg qmiType type transactionId tlvs = none ↔
      ¬Fits wdmDefaultBufsize 13 tlvs := by
  constructor
  · intro isNone fits
    rw [composeQmuxMsg_eq fits] at isNone
    exact nomatch isNone
  · intro overruns
    unfold composeQmuxMsg
    rw [emptyBuffer_eq]
    refine Option.map_eq_none_iff.mpr ?_
    rw [Option.eq_none_iff_forall_ne_some]
    intro frame put
    exact overruns (putAll?_emptyBuffer_iff.mp ⟨frame, put⟩)

end Compose

/-- The profile in the modem that the request names. -/
def profileIndexOf (modem : Modem) (profile : Profile) : Option Byte :=
  if profile.profileIndex ≠ 0 ∧ modem.isCdma = false then
    some (uchar profile.profileIndex)
  else none

/-- The question about a CDMA modem is never answered with yes. -/
theorem profileIndexPieces_eq (modem : Modem) (profile : Profile) :
    profileIndexPieces modem profile =
      pieces bytePiece 0x31 (profileIndexOf modem profile) := by
  unfold profileIndexPieces profileIndexOf
  split
  · rename_i given
    rw [if_neg fun both => Bool.false_ne_true (given.2 ▸ both.1)]
    rfl
  · rfl

section Values

variable
  {Value : Type}
  (piece : Byte → Value → Piece)
  (bytes : Value → List Byte)

/-- The pieces for a value are the item of its bytes. -/
theorem bytes_pieces
    (type : Byte)
    (value : Option Value)
    (isItem :
      ∀ given ∈ value,
        (bytes given).length < 65536 ∧
          (piece type given).bytes =
            type :: (le16 (bytes given).length ++ bytes given)) :
    (pieces piece type value).flatMap Piece.bytes =
      encodeAll (present [(type, value.map bytes)]) := by
  cases value with
  | none => rfl
  | some given =>
      obtain ⟨short, item⟩ := isItem given rfl
      rw [Option.map_some, present_some type short, encodeAll_cons,
        encodeAll_nil, List.append_nil]
      exact (List.append_nil _).trans item

end Values

theorem bytes_bytePieces (type : Byte) (value : Option Byte) :
    (pieces bytePiece type value).flatMap Piece.bytes =
      encodeAll (present [(type, value.map fun byte => [byte])]) :=
  bytes_pieces bytePiece _ type value fun _ _ =>
    ⟨(by decide : 1 < 65536), rfl⟩

theorem bytes_textPieces
    (type : Byte)
    {text : Option (List Byte)}
    (short : ∀ given ∈ text, given.length < 65536) :
    (pieces textPiece type text).flatMap Piece.bytes =
      encodeAll (present [(type, text)]) := by
  have unchanged : text.map id = text := congrFun Option.map_id text
  have item := bytes_pieces textPiece id type text
  rw [unchanged] at item
  refine item fun given isGiven => ?_
  have shortGiven := short given isGiven
  refine ⟨shortGiven, ?_⟩
  have kept :
      given.length % 65536 + 3 =
        (type :: (le16 given.length ++ given)).length := by
    rw [Nat.mod_eq_of_lt shortGiven, List.length_cons, List.length_append,
      length_le16]
    omega
  have written :
      (textPiece type given).written =
        type :: (le16 given.length ++ given) ++ [0] := by
    rw [List.cons_append, List.append_assoc]
    rfl
  rw [Piece.bytes, written]
  exact List.take_left' kept.symm

/-- Of a `BOOL` only the low byte is within the length of its TLV. -/
theorem bytes_boolPieces (type : Byte) (value : Option (BitVec 32)) :
    (pieces boolPiece type value).flatMap Piece.bytes =
      encodeAll
        (present [(type, value.map fun flag => [uchar flag])]) :=
  bytes_pieces boolPiece _ type value fun _ _ =>
    ⟨(by decide : 1 < 65536), rfl⟩

theorem bytes_intPieces (type : Byte) (value : Option (BitVec 32)) :
    (pieces intPiece type value).flatMap Piece.bytes =
      encodeAll
        (present [(type, value.map fun number => le32 number.toNat)]) :=
  bytes_pieces intPiece _ type value fun _ _ =>
    ⟨(by decide : 4 < 65536), rfl⟩

/-- The values of the TLVs behind the family, by their types. -/
def tailFields
    (modem : Modem)
    (profile : Profile) : List (Byte × Option (List Byte)) :=
  if profile.idProduct ≠ bringUpProduct then
    [(0x31, (profileIndexOf modem profile).map fun byte => [byte])]
  else
    [(0x3C,
        (unlessZero profile.bringUpByApnName).map fun flag => [uchar flag]),
      (0x3D,
        (unlessZero profile.bringUpByApnType).map fun flag => [uchar flag]),
      (0x38,
        (unlessZero profile.apnType).map fun number => le32 number.toNat)]

/-- The values of the TLVs of the request, by their types. -/
def requestFields
    (modem : Modem)
    (profile : Profile) : List (Byte × Option (List Byte)) :=
  let given := credentials modem profile
  [(0x30, some [if modem.isCdma then 2 else 1]),
    (0x14, apnOf modem profile),
    (0x17, given.user),
    (0x18, given.pd),
    (0x16, (authOf given).map fun byte => [byte]),
    (0x19, some [uchar profile.curIpFamily])] ++
    tailFields modem profile

/-- No two TLVs of the request are of one type. -/
theorem requestFields_distinct (modem : Modem) (profile : Profile) :
    ((requestFields modem profile).map Prod.fst).Nodup := by
  rw [requestFields, List.map_append, tailFields]
  by_cases other : profile.idProduct ≠ bringUpProduct
  · rw [if_pos other]
    exact
      (by decide : @List.Nodup Byte
        [0x30, 0x14, 0x17, 0x18, 0x16, 0x19, 0x31])
  · rw [if_neg other]
    exact
      (by decide : @List.Nodup Byte
        [0x30, 0x14, 0x17, 0x18, 0x16, 0x19, 0x3C, 0x3D, 0x38])

/-- Each text is short enough for its TLV. -/
structure ShortTexts (modem : Modem) (profile : Profile) : Prop where
  apn : ∀ text ∈ apnOf modem profile, text.length < 65536
  user : ∀ text ∈ (credentials modem profile).user, text.length < 65536
  pd : ∀ text ∈ (credentials modem profile).pd, text.length < 65536

theorem bytes_tail (modem : Modem) (profile : Profile) :
    (if profile.idProduct ≠ bringUpProduct then
        profileIndexPieces modem profile
      else
        pieces boolPiece 0x3C (unlessZero profile.bringUpByApnName) ++
          pieces boolPiece 0x3D (unlessZero profile.bringUpByApnType) ++
          pieces intPiece 0x38 (unlessZero profile.apnType)).flatMap
        Piece.bytes =
      encodeAll (present (tailFields modem profile)) := by
  unfold tailFields
  split
  · rw [profileIndexPieces_eq, bytes_bytePieces]
  · rw [List.flatMap_append, List.flatMap_append, bytes_boolPieces,
      bytes_boolPieces, bytes_intPieces, ← encodeAll_append,
      ← encodeAll_append, ← present_append, ← present_append]
    rfl

/-- The TLVs of the request are the items of its fields. -/
theorem bytes_startRequest
    {modem : Modem}
    {profile : Profile}
    (short : ShortTexts modem profile) :
    (wdsStartNwInterfaceReq modem profile).flatMap Piece.bytes =
      encodeAll (present (requestFields modem profile)) := by
  unfold wdsStartNwInterfaceReq
  dsimp only
  rw [List.flatMap_append, bytes_tail]
  simp only [List.flatMap_append, bytes_bytePieces]
  rw [bytes_textPieces 0x14 short.apn, bytes_textPieces 0x17 short.user,
    bytes_textPieces 0x18 short.pd, requestFields, present_append,
    encodeAll_append]
  simp only [← encodeAll_append, ← present_append]
  rfl

/-- The bytes of a text in the request. -/
def textSize : Option (List Byte) → Nat
  | none => 0
  | some text => text.length + 3

/--
The bytes that the TLVs for the bringing up take in the buffer: the last three
of a `BOOL` are overwritten by what follows.
-/
def bringUpSize (name type apnType : Option (BitVec 32)) : Nat :=
  let flags := 4 * (name.toList.length + type.toList.length)
  if apnType.isSome then flags + 7 else if flags = 0 then 0 else flags + 3

/-- The bytes that the TLVs behind the family take in the buffer. -/
def tailSize (modem : Modem) (profile : Profile) : Nat :=
  if profile.idProduct ≠ bringUpProduct then
    4 * (profileIndexOf modem profile).toList.length
  else
    bringUpSize (unlessZero profile.bringUpByApnName)
      (unlessZero profile.bringUpByApnType) (unlessZero profile.apnType)

/-- The bytes that the request takes in the buffer. -/
def requestSize (modem : Modem) (profile : Profile) : Nat :=
  let given := credentials modem profile
  21 + textSize (apnOf modem profile) + textSize given.user +
    textSize given.pd + 4 * (authOf given).toList.length +
    tailSize modem profile

section Room

variable
  {size slack : Nat}
  {rest : List Piece}
  (needs : Needs size slack rest)
  {Value : Type}
  {piece : Byte → Value → Piece}
  (type : Byte)
  (value : Option Value)

include needs

theorem needs_pieces
    (written : ∀ given, slack ≤ (piece type given).written.length) :
    Needs size slack (pieces piece type value ++ rest) := by
  cases value with
  | none => exact needs
  | some given => exact needs_cons size (written given) rest

/-- Pieces that keep as many bytes each move what follows by these. -/
theorem fits_pieces
    {kept : Nat}
    (keeps :
      ∀ given,
        (piece type given).kept = kept ∧
          (piece type given).written.length ≤ kept + slack)
    (cursor : Nat) :
    Fits size cursor (pieces piece type value ++ rest) ↔
      Fits size (cursor + kept * value.toList.length) rest := by
  cases value with
  | none => exact Iff.rfl
  | some given =>
      obtain ⟨isKept, overhang⟩ := keeps given
      rw [← isKept] at overhang
      have put := fits_cons_of_needs needs overhang cursor
      rw [isKept] at put
      rw [Option.toList_some, List.length_singleton, Nat.mul_one]
      exact put

end Room

section Texts

variable
  {rest : List Piece}
  (needs : Needs wdmDefaultBufsize 1 rest)

include needs

/-- The zero behind a text is overwritten, unless the text is too long. -/
theorem fits_texts
    (type : Byte)
    (text : Option (List Byte))
    (cursor : Nat) :
    Fits wdmDefaultBufsize cursor (pieces textPiece type text ++ rest) ↔
      Fits wdmDefaultBufsize (cursor + textSize text) rest := by
  cases text with
  | none => exact Iff.rfl
  | some text =>
      have written :
          (textPiece type text).written.length = text.length + 4 := by
        rw [textPiece, List.length_cons, List.length_append, length_le16,
          List.length_append, List.length_singleton]
        omega
      by_cases short : text.length < 65536
      · have kept : (textPiece type text).kept = text.length + 3 :=
          congrArg (· + 3) (Nat.mod_eq_of_lt short)
        have overhang :
            (textPiece type text).written.length ≤
              (textPiece type text).kept + 1 := by
          omega
        have put := fits_cons_of_needs needs overhang cursor
        rwa [kept] at put
      · have tooLong : wdmDefaultBufsize < text.length := by
          rw [wdmDefaultBufsize]
          omega
        refine iff_of_false (fun fits => ?_) fun fits => ?_
        · have room := fits.1
          omega
        · have room := needs _ fits
          rw [textSize] at room
          omega

end Texts

/-- The TLVs for the bringing up fit, unless they are none. -/
theorem fits_bringUp
    (name type apnType : Option (BitVec 32))
    (size cursor : Nat) :
    Fits size cursor
        (pieces boolPiece 0x3C name ++
          (pieces boolPiece 0x3D type ++ pieces intPiece 0x38 apnType)) ↔
      bringUpSize name type apnType = 0 ∨
        cursor + bringUpSize name type apnType ≤ size := by
  have bool (kind : Byte) (flag : BitVec 32) :
      (boolPiece kind flag).kept = 4 ∧
        (boolPiece kind flag).written.length ≤ 4 + 3 :=
    ⟨rfl, Nat.le_refl 7⟩
  have wide (kind : Byte) (flag : BitVec 32) :
      3 ≤ (boolPiece kind flag).written.length :=
    Nat.le_add_left 3 4
  have last (piece : Piece) (isWritten : piece.written.length = 7) :
      ∀ cursor, Fits size cursor [piece] ↔ cursor + 7 ≤ size := by
    intro cursor
    rw [Fits, isWritten]
    exact and_iff_left trivial
  cases apnType with
  | some number =>
      have needs :
          Needs size 3 (pieces intPiece 0x38 (some number)) :=
        needs_cons size (Nat.le_add_left 3 4) []
      rw [fits_pieces (needs_pieces needs 0x3D type (wide 0x3D)) 0x3C name
          (bool 0x3C),
        fits_pieces needs 0x3D type (bool 0x3D)]
      refine (last (intPiece 0x38 number) rfl _).trans ?_
      rw [bringUpSize, Option.isSome_some, if_pos rfl]
      omega
  | none =>
      rw [bringUpSize, Option.isSome_none, if_neg Bool.false_ne_true]
      cases type with
      | some flag =>
          have needs :
              Needs size 3
                (pieces boolPiece 0x3D (some flag) ++
                  pieces intPiece 0x38 none) :=
            needs_cons size (wide 0x3D flag) []
          rw [fits_pieces needs 0x3C name (bool 0x3C)]
          refine (last (boolPiece 0x3D flag) rfl _).trans ?_
          rw [Option.toList_some, List.length_singleton]
          split <;> omega
      | none =>
          cases name with
          | some flag =>
              exact
                (last (boolPiece 0x3C flag) rfl cursor).trans
                  (or_iff_right (by decide : ¬7 = 0)).symm
          | none => exact iff_of_true trivial (Or.inl rfl)

theorem fits_tail (modem : Modem) (profile : Profile) (cursor : Nat) :
    Fits wdmDefaultBufsize cursor
        (if profile.idProduct ≠ bringUpProduct then
          profileIndexPieces modem profile
        else
          pieces boolPiece 0x3C (unlessZero profile.bringUpByApnName) ++
            (pieces boolPiece 0x3D (unlessZero profile.bringUpByApnType) ++
              pieces intPiece 0x38 (unlessZero profile.apnType))) ↔
      tailSize modem profile = 0 ∨
        cursor + tailSize modem profile ≤ wdmDefaultBufsize := by
  unfold tailSize
  split
  · rw [profileIndexPieces_eq]
    cases profileIndexOf modem profile with
    | none => exact iff_of_true trivial (Or.inl rfl)
    | some index =>
        exact
          (and_iff_left trivial).trans
            (or_iff_right (by decide : ¬4 = 0)).symm
  · exact fits_bringUp _ _ _ _ _

/-- The request fits if and only if its size does. -/
theorem fits_request (modem : Modem) (profile : Profile) :
    Fits wdmDefaultBufsize 13 (wdsStartNwInterfaceReq modem profile) ↔
      requestSize modem profile ≤ wdmDefaultBufsize := by
  have byte (kind : Byte) (value : Byte) :
      (bytePiece kind value).kept = 4 ∧
        (bytePiece kind value).written.length ≤ 4 + 1 :=
    ⟨rfl, Nat.le_add_right 4 1⟩
  have wide (kind : Byte) (value : Byte) :
      1 ≤ (bytePiece kind value).written.length :=
    Nat.le_add_left 1 3
  have text (kind : Byte) (given : List Byte) :
      1 ≤ (textPiece kind given).written.length :=
    Nat.le_add_left 1 _
  have tail := fits_tail modem profile
  unfold wdsStartNwInterfaceReq requestSize
  dsimp only
  simp only [List.append_assoc]
  generalize
    (if profile.idProduct ≠ bringUpProduct then
        profileIndexPieces modem profile
      else
        pieces boolPiece 0x3C (unlessZero profile.bringUpByApnName) ++
          (pieces boolPiece 0x3D (unlessZero profile.bringUpByApnType) ++
            pieces intPiece 0x38 (unlessZero profile.apnType))) =
      rest at tail ⊢
  have family :
      Needs wdmDefaultBufsize 1
        (pieces bytePiece 0x19 (some (uchar profile.curIpFamily)) ++
          rest) :=
    needs_cons _ (wide 0x19 _) rest
  have auth :=
    needs_pieces family 0x16 (authOf (credentials modem profile))
      (wide 0x16)
  have pd :=
    needs_pieces auth 0x18 (credentials modem profile).pd (text 0x18)
  have user :=
    needs_pieces pd 0x17 (credentials modem profile).user (text 0x17)
  have apn := needs_pieces user 0x14 (apnOf modem profile) (text 0x14)
  rw [fits_pieces apn 0x30 _ (byte 0x30), fits_texts user 0x14,
    fits_texts pd 0x17, fits_texts auth 0x18,
    fits_pieces family 0x16 _ (byte 0x16)]
  refine (and_congr_right' (tail _)).trans ?_
  change _ + 4 ≤ wdmDefaultBufsize ∧ _ ↔ _
  rw [Option.toList_some, List.length_singleton]
  change _ ∧ (_ ∨ _ + 4 + _ ≤ _) ↔ _
  omega

theorem shortTexts_of_size
    {modem : Modem}
    {profile : Profile}
    (fits : requestSize modem profile ≤ wdmDefaultBufsize) :
    ShortTexts modem profile := by
  have short (size : Nat) (text : Option (List Byte)) :
      textSize text + size ≤ wdmDefaultBufsize →
        ∀ given ∈ text, given.length < 65536 := by
    rintro within given rfl
    rw [textSize, wdmDefaultBufsize] at within
    omega
  unfold requestSize at fits
  dsimp only at fits
  exact
    ⟨short 0 _ (by omega), short 0 _ (by omega), short 0 _ (by omega)⟩

/-- `QMUX_TYPE_WDS`. -/
def qmuxTypeWds : Byte := 0x01

/-- `QMIWDS_START_NETWORK_INTERFACE_REQ`. -/
def startNetworkInterfaceReq : Nat := 0x0020

/-- The values are short enough for their TLVs. -/
theorem requestFields_short
    {modem : Modem}
    {profile : Profile}
    (short : ShortTexts modem profile) :
    ∀ field ∈ requestFields modem profile,
      ∀ value ∈ field.2, value.length < 65536 := by
  have few {Value : Type} (bytes : Value → List Byte)
      (isFew : ∀ given, (bytes given).length ≤ 4)
      (value : Option Value) :
      ∀ item ∈ value.map bytes, item.length < 65536 := by
    intro item isItem
    obtain ⟨given, -, rfl⟩ := Option.map_eq_some_iff.mp isItem
    exact Nat.lt_of_le_of_lt (isFew given) (by decide)
  have one {Value : Type} (byte : Value → Byte) (value : Option Value) :
      ∀ item ∈ value.map fun given => [byte given],
        item.length < 65536 :=
    few (fun given => [byte given]) (fun _ => (by decide : 1 ≤ 4)) value
  have tail :
      ∀ field ∈ tailFields modem profile,
        ∀ value ∈ field.2, value.length < 65536 := by
    unfold tailFields
    split
    · exact List.forall_mem_singleton.mpr (one id _)
    · simp only [List.forall_mem_cons]
      exact
        ⟨one uchar _, one uchar _,
          few (fun number : BitVec 32 => le32 number.toNat)
            (fun _ => Nat.le_refl 4) _,
          List.forall_mem_nil _⟩
  refine List.forall_mem_append.mpr ⟨?_, tail⟩
  simp only [List.forall_mem_cons]
  exact
    ⟨one id (some _), short.apn, short.user, short.pd, one id _,
      one id (some _), List.forall_mem_nil _⟩

/--
A request that stays in the buffer is a message that the proxy takes, of the
service (one for each address family) and the type, and a search for each type
of a TLV comes to the value that the profile has for it, or to none.
-/
theorem startRequest_reads_back
    {modem : Modem}
    {profile : Profile}
    (fits : requestSize modem profile ≤ wdmDefaultBufsize)
    (qmiType : Byte)
    (transactionId : Nat) :
    ∃ message : QmiMessage,
      composeQmuxMsg qmiType startNetworkInterfaceReq transactionId
          (wdsStartNwInterfaceReq modem profile) =
        some message.bytes ∧
      message.qmiType = qmiType ∧
      le16At message.bytes 7 = transactionId % 65536 ∧
      le16At message.bytes 9 = startNetworkInterfaceReq ∧
      ∀ type : Byte,
        getTlv message.bytes type.toNat ≠ .outside ∧
          valueAt message.bytes (getTlv message.bytes type.toNat) =
            ((requestFields modem profile).lookup type).getD none := by
  have fitsPieces := (fits_request modem profile).mpr fits
  have shortTexts := shortTexts_of_size fits
  have isBody := bytes_startRequest shortTexts
  have isLength :
      extent (wdsStartNwInterfaceReq modem profile) =
        (encodeAll (present (requestFields modem profile))).length := by
    rw [← isBody, length_bytes]
  have bounded :
      (encodeAll (present (requestFields modem profile))).length ≤ 243 := by
    have inside :=
      extent_le_of_fits (by decide : 13 ≤ wdmDefaultBufsize) fitsPieces
    rw [isLength, wdmDefaultBufsize] at inside
    omega
  have composed :=
    @composeQmuxMsg_eq qmiType startNetworkInterfaceReq transactionId _
      fitsPieces
  rw [isBody, isLength] at composed
  have declared :
      le16At
          (header qmiType transactionId startNetworkInterfaceReq
            (encodeAll (present (requestFields modem profile))).length)
          11 =
        (encodeAll (present (requestFields modem profile))).length :=
    (header_length _ _ _ _).trans (Nat.mod_eq_of_lt (by omega))
  refine
    ⟨⟨_, ?_⟩, composed, rfl, header_transactionId _ _ _ _ _,
      header_type _ _ _ _ _, fun type => ?_⟩
  · rw [header_size, List.length_append, length_header,
      Nat.mod_eq_of_lt (by omega)]
    omega
  · have found :=
      getTlv_lookup (present (requestFields modem profile))
        (length_header _ _ _ _) declared type.toNat
    have small : type.toNat ≤ 0x1000 := by omega
    have sameType :
        (fun tlv : Tlv => decide (tlv.type.toNat = type.toNat)) =
          fun tlv => decide (tlv.type = type) :=
      funext fun tlv => decide_eq_decide.mpr BitVec.toNat_inj
    rw [lookup_of_type small, sameType,
      find?_present (requestFields_distinct modem profile)
        (requestFields_short shortTexts)] at found
    exact found

/-- A profile with an access point and credentials. -/
def exampleProfile : Profile where
  apn := some [105, 110, 116, 101, 114, 110, 101, 116]
  user := some [117]
  pd := some [112, 119]
  auth := 1
  curIpFamily := 4
  idProduct := 0x0125
  profileIndex := 1
  bringUpByApnName := 0
  bringUpByApnType := 0
  apnType := 0

theorem startRequest_reads_back_internet :
    ∃ message : QmiMessage,
      composeQmuxMsg qmuxTypeWds startNetworkInterfaceReq 1
          (wdsStartNwInterfaceReq ⟨false, 0⟩ exampleProfile) =
        some message.bytes ∧
      valueAt message.bytes (getTlv message.bytes 0x14) =
        some [105, 110, 116, 101, 114, 110, 101, 116] := by
  obtain ⟨message, composed, -, -, -, reads⟩ :=
    @startRequest_reads_back ⟨false, 0⟩ exampleProfile (by decide)
      qmuxTypeWds 1
  exact ⟨message, composed, (reads 0x14).2⟩

/--
The request is written past the end of the buffer on the stack if and only if
the texts of the profile, with what surrounds them, are longer than it.
-/
theorem startRequest_overruns_iff
    (modem : Modem)
    (profile : Profile)
    (qmiType : Byte)
    (transactionId : Nat) :
    composeQmuxMsg qmiType startNetworkInterfaceReq transactionId
        (wdsStartNwInterfaceReq modem profile) =
      none ↔
      wdmDefaultBufsize < requestSize modem profile := by
  rw [composeQmuxMsg_eq_none_iff, fits_request, Nat.not_le]

end RecomputerGateway.QmuxStartRequest
