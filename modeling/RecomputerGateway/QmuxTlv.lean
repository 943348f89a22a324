import RecomputerGateway.TypeLengthValue

namespace RecomputerGateway.QmuxTlv

open Hexadecimal (Byte)
open LittleEndian
open TypeLengthValue

/-!
# The TLVs of a QMUX message

`GetTLV` of `QMIThread.c` looks for a TLV of a type in a message, or for the
TLV with a number.  It goes by the length in the header of the message and by
the lengths of the TLVs, and the memory that it reads is that of the message.
-/

/-- What a search for a TLV comes to. -/
inductive Search where
  /-- The offset of the TLV. -/
  | found (offset : Nat)
  /-- `NULL`. -/
  | absent
  /-- A read past the end of the message. -/
  | outside
  deriving DecidableEq

/-- The loop of `GetTLV` from an offset on. -/
def getTlvFrom
    (message : List Byte)
    (tlvType offset length tlvFind : Nat) : Search :=
  if length < 3 then .absent
  else if 0x1000 < tlvType ∧ tlvFind + 1 + 0x1000 = tlvType then
    .found offset
  else if tlvType ≤ 0x1000 ∧ message.length ≤ offset then .outside
  else if tlvType ≤ 0x1000 ∧ (byteAt message offset).toNat = tlvType then
    .found offset
  else if message.length < offset + 3 then .outside
  else
    let size := le16At message (offset + 1) + 3
    -- the length is an `USHORT`
    getTlvFrom message tlvType (offset + size)
      ((length + 131072 - size) % 65536) (tlvFind + 1)
termination_by message.length - offset

/-- `GetTLV`, in a message of any service but the control service. -/
def getTlv (message : List Byte) (tlvType : Nat) : Search :=
  getTlvFrom message tlvType 13 (le16At message 11) 0

/-- The value of the TLV that was found. -/
def valueAt (message : List Byte) : Search → Option (List Byte)
  | .found offset =>
      some ((message.drop (offset + 3)).take (le16At message (offset + 1)))
  | .absent => none
  | .outside => none

/-- The TLV is the one that is looked for. -/
def Hits (tlvType tlvFind : Nat) (tlv : Tlv) : Prop :=
  if 0x1000 < tlvType then tlvFind + 1 + 0x1000 = tlvType
  else tlv.type.toNat = tlvType

instance (tlvType tlvFind : Nat) (tlv : Tlv) :
    Decidable (Hits tlvType tlvFind tlv) :=
  inferInstanceAs (Decidable (ite _ _ _))

section Walk

variable
  {tlvType tlvFind : Nat}
  {tlv : Tlv}
  (front back : List Byte)

/-- The search ends at the TLV that is looked for. -/
theorem getTlvFrom_hit
    (hits : Hits tlvType tlvFind tlv)
    (more : Nat) :
    getTlvFrom (front ++ (tlv.encode ++ back)) tlvType front.length
        (tlv.encode.length + more) tlvFind =
      .found front.length := by
  rw [getTlvFrom, if_neg (by rw [tlv.length_encode]; omega)]
  unfold Hits at hits
  split at hits
  · rename_i byNumber
    exact if_pos ⟨byNumber, hits⟩
  · rename_i byType
    have inside :
        ¬(front ++ (tlv.encode ++ back)).length ≤ front.length := by
      rw [List.length_append, List.length_append, tlv.length_encode]
      omega
    rw [if_neg fun both => byType both.1,
      if_neg fun both => inside both.2, byteAt_encode]
    exact if_pos ⟨Nat.le_of_not_lt byType, hits⟩

/-- Another TLV is passed over. -/
theorem getTlvFrom_miss
    (misses : ¬Hits tlvType tlvFind tlv)
    {more : Nat}
    (fits : tlv.encode.length + more < 65536) :
    getTlvFrom (front ++ (tlv.encode ++ back)) tlvType front.length
        (tlv.encode.length + more) tlvFind =
      getTlvFrom (front ++ (tlv.encode ++ back)) tlvType
        (front ++ tlv.encode).length more (tlvFind + 1) := by
  have size := tlv.length_encode
  have inside :
      front.length + 3 ≤ (front ++ (tlv.encode ++ back)).length := by
    rw [List.length_append, List.length_append]
    omega
  have notByNumber :
      ¬(0x1000 < tlvType ∧ tlvFind + 1 + 0x1000 = tlvType) := by
    rintro ⟨byNumber, same⟩
    exact misses ((if_pos byNumber).mpr same)
  have notByType :
      ¬(tlvType ≤ 0x1000 ∧
        (byteAt (front ++ (tlv.encode ++ back)) front.length).toNat =
          tlvType) := by
    rintro ⟨byType, same⟩
    rw [byteAt_encode] at same
    exact misses ((if_neg (Nat.not_lt_of_le byType)).mpr same)
  have left :
      (tlv.encode.length + more + 131072 - (tlv.value.length + 3)) % 65536 =
        more := by
    omega
  rw [getTlvFrom, if_neg (by omega), if_neg notByNumber,
    if_neg (by omega), if_neg notByType, if_neg (by omega), le16At_encode]
  dsimp only
  rw [left, List.length_append, size]

end Walk

/-- The TLV that a search is for, among those that are not passed over yet. -/
def lookup (tlvType : Nat) : Nat → List Tlv → Option Tlv
  | _, [] => none
  | tlvFind, tlv :: tlvs =>
      if Hits tlvType tlvFind tlv then some tlv
      else lookup tlvType (tlvFind + 1) tlvs

theorem lookup_of_type
    {tlvType : Nat}
    (byType : tlvType ≤ 0x1000)
    (tlvFind : Nat)
    (tlvs : List Tlv) :
    lookup tlvType tlvFind tlvs =
      tlvs.find? fun tlv => tlv.type.toNat = tlvType := by
  induction tlvs generalizing tlvFind with
  | nil => rfl
  | cons tlv tlvs inductionHypothesis =>
      have same : Hits tlvType tlvFind tlv ↔ tlv.type.toNat = tlvType :=
        iff_of_eq (if_neg (Nat.not_lt_of_le byType))
      rw [lookup, inductionHypothesis]
      by_cases hits : tlv.type.toNat = tlvType
      · rw [if_pos (same.mpr hits), List.find?_cons, decide_eq_true hits]
      · rw [if_neg (mt same.mp hits), List.find?_cons,
          decide_eq_false hits]

theorem lookup_of_number
    {number tlvFind : Nat}
    (ahead : tlvFind ≤ number)
    (tlvs : List Tlv) :
    lookup (0x1001 + number) tlvFind tlvs = tlvs[number - tlvFind]? := by
  induction tlvs generalizing tlvFind with
  | nil => rfl
  | cons tlv tlvs inductionHypothesis =>
      have same :
          Hits (0x1001 + number) tlvFind tlv ↔ tlvFind = number := by
        have byNumber : 0x1000 < 0x1001 + number := by omega
        refine (iff_of_eq (if_pos byNumber)).trans ?_
        omega
      rw [lookup]
      by_cases hits : tlvFind = number
      · rw [if_pos (same.mpr hits), hits, Nat.sub_self]
        rfl
      · have later : number - tlvFind = number - (tlvFind + 1) + 1 := by
          omega
        rw [if_neg (mt same.mp hits), inductionHypothesis (by omega), later]
        rfl

/-- A TLV that is looked for is found, and its value stands there. -/
theorem getTlvFrom_found
    {tlvType tlvFind : Nat}
    {tlvs : List Tlv}
    {tlv : Tlv}
    (isFound : lookup tlvType tlvFind tlvs = some tlv)
    (front back : List Byte)
    {more : Nat}
    (fits : (encodeAll tlvs).length + more < 65536) :
    ∃ offset,
      getTlvFrom (front ++ (encodeAll tlvs ++ back)) tlvType front.length
          ((encodeAll tlvs).length + more) tlvFind =
        .found offset ∧
      valueAt (front ++ (encodeAll tlvs ++ back)) (.found offset) =
        some tlv.value := by
  induction tlvs generalizing front tlvFind with
  | nil => exact nomatch isFound
  | cons head tlvs inductionHypothesis =>
      rw [lookup] at isFound
      rw [encodeAll_cons, List.length_append] at fits
      rw [encodeAll_cons, List.append_assoc, List.length_append,
        Nat.add_assoc]
      by_cases hits : Hits tlvType tlvFind head
      · rw [if_pos hits] at isFound
        obtain rfl := Option.some.inj isFound
        refine
          ⟨front.length, getTlvFrom_hit front _ hits _, ?_⟩
        rw [valueAt, le16At_encode, take_drop_encode]
      · rw [if_neg hits] at isFound
        rw [getTlvFrom_miss front _ hits (by omega), ← List.append_assoc]
        exact
          inductionHypothesis isFound (front ++ head.encode) (by omega)

/-- TLVs that are not looked for are passed over. -/
theorem getTlvFrom_skip
    {tlvType tlvFind : Nat}
    {tlvs : List Tlv}
    (notFound : lookup tlvType tlvFind tlvs = none)
    (front back : List Byte)
    {more : Nat}
    (fits : (encodeAll tlvs).length + more < 65536) :
    getTlvFrom (front ++ (encodeAll tlvs ++ back)) tlvType front.length
        ((encodeAll tlvs).length + more) tlvFind =
      getTlvFrom (front ++ (encodeAll tlvs ++ back)) tlvType
        (front ++ encodeAll tlvs).length more (tlvFind + tlvs.length) := by
  induction tlvs generalizing front tlvFind with
  | nil =>
      rw [encodeAll_nil, List.append_nil, List.length_nil, Nat.zero_add]
      rfl
  | cons head tlvs inductionHypothesis =>
      rw [lookup] at notFound
      rw [encodeAll_cons, List.length_append] at fits
      by_cases hits : Hits tlvType tlvFind head
      · rw [if_pos hits] at notFound
        exact nomatch notFound
      · rw [if_neg hits] at notFound
        have later :=
          inductionHypothesis notFound (front ++ head.encode) (by omega)
        have regrouped :
            front ++ (head.encode ++ (encodeAll tlvs ++ back)) =
              front ++ head.encode ++ (encodeAll tlvs ++ back) :=
          (List.append_assoc _ _ _).symm
        rw [encodeAll_cons, List.append_assoc head.encode,
          List.length_append, Nat.add_assoc,
          getTlvFrom_miss front _ hits (by omega), regrouped, later,
          List.append_assoc front head.encode (encodeAll tlvs),
          List.length_cons, Nat.add_right_comm, Nat.add_assoc]

/-- What a search in a message comes to whose TLVs fill its length. -/
theorem getTlv_lookup
    {header : List Byte}
    (tlvs : List Tlv)
    (size : header.length = 13)
    (declared : le16At header 11 = (encodeAll tlvs).length)
    (tlvType : Nat) :
    getTlv (header ++ encodeAll tlvs) tlvType ≠ .outside ∧
      valueAt (header ++ encodeAll tlvs)
          (getTlv (header ++ encodeAll tlvs) tlvType) =
        (lookup tlvType 0 tlvs).map Tlv.value := by
  have fits : (encodeAll tlvs).length + 0 < 65536 :=
    declared ▸ le16At_lt header 11
  have isLength :
      le16At (header ++ encodeAll tlvs) 11 = (encodeAll tlvs).length + 0 :=
    (le16At_append_left _ (by omega)).trans declared
  rw [getTlv, isLength, ← size]
  cases found : lookup tlvType 0 tlvs with
  | some tlv =>
      obtain ⟨offset, isFound, isValue⟩ :=
        getTlvFrom_found found header [] fits
      rw [List.append_nil] at isFound isValue
      rw [isFound]
      exact ⟨fun same => (nomatch same), isValue⟩
  | none =>
      have skipped := getTlvFrom_skip found header [] fits
      have ends :
          getTlvFrom (header ++ encodeAll tlvs) tlvType
              (header ++ encodeAll tlvs).length 0 (0 + tlvs.length) =
            .absent := by
        rw [getTlvFrom, if_pos (by decide)]
      rw [List.append_nil] at skipped
      rw [skipped, ends]
      exact ⟨fun same => (nomatch same), rfl⟩

/--
In a message whose TLVs fill the length in its header, `GetTLV` never reads
past the end; it finds the first TLV of a type and the TLV with a number, and
it finds nothing else.
-/
theorem getTlv_finds
    {header : List Byte}
    (tlvs : List Tlv)
    (size : header.length = 13)
    (declared : le16At header 11 = (encodeAll tlvs).length)
    (tlvType : Nat) :
    getTlv (header ++ encodeAll tlvs) tlvType ≠ .outside ∧
      valueAt (header ++ encodeAll tlvs)
          (getTlv (header ++ encodeAll tlvs) tlvType) =
        (if 0x1000 < tlvType then tlvs[tlvType - 0x1001]?
          else tlvs.find? fun tlv => tlv.type.toNat = tlvType).map
            Tlv.value := by
  have isLookup :
      lookup tlvType 0 tlvs =
        if 0x1000 < tlvType then tlvs[tlvType - 0x1001]?
        else tlvs.find? fun tlv => tlv.type.toNat = tlvType := by
    split
    · rename_i byNumber
      have restored : 0x1001 + (tlvType - 0x1001) = tlvType := by omega
      have ordered := lookup_of_number (Nat.zero_le (tlvType - 0x1001)) tlvs
      rwa [restored, Nat.sub_zero] at ordered
    · rename_i byType
      exact lookup_of_type (Nat.le_of_not_lt byType) 0 tlvs
  rw [← isLookup]
  exact getTlv_lookup tlvs size declared tlvType

/-- A header of the service WDS whose length is 11. -/
def exampleHeader : List Byte :=
  [1, 23, 0, 0, 1, 0, 0, 1, 0, 0x20, 0, 11, 0]

/-- A result of four bytes. -/
def resultTlv : Tlv := ⟨2, [0, 0, 0, 0], by decide⟩

def statusTlv : Tlv := ⟨0x10, [7], by decide⟩

theorem getTlv_finds_second :
    valueAt (exampleHeader ++ [2, 4, 0, 0, 0, 0, 0, 0x10, 1, 0, 7])
        (getTlv (exampleHeader ++ [2, 4, 0, 0, 0, 0, 0, 0x10, 1, 0, 7])
          0x10) =
      some [7] := by
  have isBody :
      encodeAll [resultTlv, statusTlv] =
        [2, 4, 0, 0, 0, 0, 0, 0x10, 1, 0, 7] := by
    decide
  have finds :=
    getTlv_finds [resultTlv, statusTlv] (rfl : exampleHeader.length = 13)
      (by decide) 0x10
  rw [isBody] at finds
  exact finds.2.trans (by decide)

/--
When the last TLV of a message claims more bytes than are left, the length
wraps around, and every search for a type that the message does not have reads
past its end, unless the TLV claims nearly all that a length can say.
-/
theorem getTlv_truncated
    {header : List Byte}
    (tlvs : List Tlv)
    (type : Byte)
    (rest : List Byte)
    {claimed : Nat}
    (size : header.length = 13)
    (declared :
      le16At header 11 = (encodeAll tlvs).length + (3 + rest.length))
    (claims : rest.length < claimed)
    (short : claimed < 65536)
    {tlvType : Nat}
    (byType : tlvType ≤ 0x1000)
    (others : ∀ tlv ∈ tlvs, tlv.type.toNat ≠ tlvType)
    (other : type.toNat ≠ tlvType) :
    getTlv
        (header ++ (encodeAll tlvs ++ type :: (le16 claimed ++ rest)))
        tlvType =
      if claimed - rest.length < 65534 then .outside else .absent := by
  have notFound : lookup tlvType 0 tlvs = none := by
    rw [lookup_of_type byType, List.find?_eq_none]
    exact fun tlv member => mt of_decide_eq_true (others tlv member)
  have fits : (encodeAll tlvs).length + (3 + rest.length) < 65536 :=
    declared ▸ le16At_lt header 11
  have isLength :
      le16At
          (header ++ (encodeAll tlvs ++ type :: (le16 claimed ++ rest)))
          11 =
        (encodeAll tlvs).length + (3 + rest.length) :=
    (le16At_append_left _ (by omega)).trans declared
  have regrouped :
      header ++ (encodeAll tlvs ++ type :: (le16 claimed ++ rest)) =
        header ++ encodeAll tlvs ++ type :: (le16 claimed ++ rest) :=
    (List.append_assoc _ _ _).symm
  have total :
      (header ++ encodeAll tlvs ++
        type :: (le16 claimed ++ rest)).length =
          (header ++ encodeAll tlvs).length + (3 + rest.length) := by
    have item : (le16 claimed ++ rest).length = 2 + rest.length :=
      List.length_append
    rw [List.length_append, List.length_cons, item]
    omega
  rw [getTlv, isLength, ← size, getTlvFrom_skip notFound header _ fits,
    regrouped, getTlvFrom, if_neg (by omega),
    if_neg fun both => Nat.not_lt_of_le byType both.1,
    if_neg fun both => by omega, byteAt_item,
    if_neg fun both => other both.2, if_neg (by omega), le16At_item,
    Nat.mod_eq_of_lt short]
  dsimp only
  rw [getTlvFrom]
  by_cases wraps : claimed - rest.length < 65534
  · rw [if_pos wraps, if_neg (by omega),
      if_neg fun both => Nat.not_lt_of_le byType both.1]
    exact if_pos ⟨byType, by omega⟩
  · rw [if_neg wraps]
    exact if_pos (by omega)

/-- The second TLV claims two bytes and has one. -/
theorem getTlv_truncated_second :
    getTlv (exampleHeader ++ [2, 4, 0, 0, 0, 0, 0, 0x10, 2, 0, 7]) 0x01 =
      .outside := by
  have isBody :
      encodeAll [resultTlv] ++ 0x10 :: (le16 2 ++ [7]) =
        [2, 4, 0, 0, 0, 0, 0, 0x10, 2, 0, 7] := by
    decide
  have reads :=
    getTlv_truncated [resultTlv] 0x10 [7]
      (rfl : exampleHeader.length = 13) (by decide) (by decide : 1 < 2)
      (by decide) (by decide : 0x01 ≤ 0x1000)
      (List.forall_mem_singleton.mpr (by decide)) (by decide)
  rwa [isBody] at reads

end RecomputerGateway.QmuxTlv
