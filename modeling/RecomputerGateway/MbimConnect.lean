import RecomputerGateway.WideText

namespace RecomputerGateway.MbimConnect

open SpiTransfer (Byte overwrite length_overwrite take_overwrite
  drop_take_overwrite)
open WideText

/-!
# The texts of an MBIM connection

`mbim_populate_connect_data` puts the access point, the user and the password
behind the `MBIM_SET_CONNECT_T` that sets up a connection, each with two bytes
a character, and refers to them by offset and size.  A missing text and an
empty one are the same there.
-/

/-- `_align_32`. -/
def align32 (len : Nat) : Nat :=
  len + if len % 4 = 0 then 0 else 4 - len % 4

/-- `char2wchar`: what it writes, for as many characters as there is room. -/
def char2wchar (src : List Byte) (dstLen : Nat) : List Byte :=
  widen (src.take (dstLen / 2))

/-- The offset and the size of a text in `MBIM_SET_CONNECT_T`. -/
structure Reference where
  offset : Nat
  size : Nat
  deriving DecidableEq

/-- What `MBIM_SET_CONNECT_T` says about the texts, with its `DataBuffer`. -/
structure SetConnect where
  accessString : Reference
  userName : Reference
  password : Reference
  dataBuffer : List Byte
  deriving DecidableEq

/-- `sizeof(MBIM_SET_CONNECT_T)`. -/
def setConnectSize : Nat := 60

/-- `buflen`. -/
def bufLen (apn user pd : List Byte) : Nat :=
  align32
    (align32 (align32 (2 * apn.length) + 2 * user.length) + 2 * pd.length)

/--
One text is put at the offset, unless it is empty.  The offset for the next
text is then the size of this one, as the source assigns what `char2wchar`
returns instead of adding it.
-/
def putText
    (buflen : Nat)
    (text data : List Byte)
    (offset : Nat) : Reference × List Byte × Nat :=
  if text = [] then (⟨0, 0⟩, data, offset)
  else
    let wide := char2wchar text (buflen - offset)
    (⟨offset + setConnectSize, 2 * text.length⟩,
      overwrite data offset wide, align32 wide.length)

/-- `mbim_populate_connect_data`. -/
def mbimPopulateConnectData (apn user pd : List Byte) : SetConnect :=
  let buflen := bufLen apn user pd
  let first := putText buflen apn (List.replicate buflen 0) 0
  let second := putText buflen user first.2.1 first.2.2
  let third := putText buflen pd second.2.1 second.2.2
  ⟨first.1, second.1, third.1, third.2.1⟩

/-- The bytes that a reference is to. -/
def SetConnect.text (request : SetConnect) (reference : Reference) :
    List Byte :=
  (request.dataBuffer.drop (reference.offset - setConnectSize)).take
    reference.size

/-- The request says what it was made from. -/
def ReadsBack (apn user pd : List Byte) : Prop :=
  let request := mbimPopulateConnectData apn user pd
  request.text request.accessString = widen apn ∧
    request.text request.userName = widen user ∧
    request.text request.password = widen pd

/-- A number of characters that takes a multiple of four bytes. -/
def evenUp (count : Nat) : Nat := count + count % 2

theorem align32_double (count : Nat) :
    align32 (2 * count) = 2 * evenUp count := by
  rw [align32, evenUp]
  split <;> omega

/-- The characters that the buffer has room for. -/
def room (apn user pd : List Byte) : Nat :=
  evenUp apn.length + evenUp user.length + evenUp pd.length

theorem bufLen_eq (apn user pd : List Byte) :
    bufLen apn user pd = 2 * room apn user pd := by
  have even (count : Nat) (other : Nat) :
      evenUp (evenUp count + other) = evenUp count + evenUp other := by
    rw [evenUp, evenUp, evenUp]
    omega
  rw [bufLen, align32_double, ← Nat.mul_add, align32_double, ← Nat.mul_add,
    align32_double, even, even apn.length, Nat.add_assoc, room]
  omega

theorem le_evenUp (count : Nat) : count ≤ evenUp count :=
  Nat.le_add_right _ _

/-- The reference to a text that was put at a place. -/
def referenceTo (text : List Byte) (place : Nat) : Reference :=
  if text = [] then ⟨0, 0⟩
  else ⟨2 * place + setConnectSize, 2 * text.length⟩

/-- A text is put over the characters of the buffer. -/
theorem putText_widen
    {count place : Nat}
    {text chars : List Byte}
    (fits : place + text.length ≤ count) :
    putText (2 * count) text (widen chars) (2 * place) =
      (referenceTo text place, widen (overwrite chars place text),
        2 * if text = [] then place else evenUp text.length) := by
  unfold putText referenceTo
  by_cases isEmpty : text = []
  · rw [if_pos isEmpty, if_pos isEmpty, if_pos isEmpty, isEmpty,
      overwrite_nil]
  · have whole :
        char2wchar text (2 * count - 2 * place) = widen text := by
      rw [char2wchar, List.take_of_length_le (by omega)]
    rw [if_neg isEmpty, if_neg isEmpty, if_neg isEmpty, whole]
    dsimp only
    rw [overwrite_widen, length_widen, align32_double]

/-- A reference is read as the characters at its place. -/
theorem text_referenceTo
    {request : SetConnect}
    {chars : List Byte}
    (isBuffer : request.dataBuffer = widen chars)
    (text : List Byte)
    (place : Nat) :
    request.text (referenceTo text place) =
      widen ((chars.drop place).take text.length) := by
  rw [SetConnect.text, referenceTo, isBuffer]
  by_cases isEmpty : text = []
  · rw [if_pos isEmpty, isEmpty]
    rfl
  · rw [if_neg isEmpty]
    dsimp only
    rw [Nat.add_sub_cancel, drop_widen, take_widen]

/-- Where the password is put. -/
def passwordAt (apn user : List Byte) : Nat :=
  if user = [] then evenUp apn.length else evenUp user.length

/-- The characters of the buffer before the password is put. -/
def namesBuffer (apn user pd : List Byte) : List Byte :=
  overwrite (overwrite (List.replicate (room apn user pd) 0) 0 apn)
    (evenUp apn.length) user

section Texts

variable (apn user pd : List Byte)

theorem passwordAt_fits :
    passwordAt apn user + pd.length ≤ room apn user pd := by
  have longer := le_evenUp pd.length
  rw [passwordAt, room]
  split <;> omega

/-- The texts are put at their places, the password last. -/
theorem mbimPopulateConnectData_eq :
    mbimPopulateConnectData apn user pd =
      ⟨referenceTo apn 0, referenceTo user (evenUp apn.length),
        referenceTo pd (passwordAt apn user),
        widen
          (overwrite (namesBuffer apn user pd) (passwordAt apn user)
            pd)⟩ := by
  have apnFits : 0 + apn.length ≤ room apn user pd := by
    have longer := le_evenUp apn.length
    rw [room]
    omega
  have userFits : evenUp apn.length + user.length ≤ room apn user pd := by
    have longer := le_evenUp user.length
    rw [room]
    omega
  have userAt :
      (if apn = [] then 0 else evenUp apn.length) = evenUp apn.length := by
    split
    · rename_i isEmpty
      rw [isEmpty]
      rfl
    · rfl
  have first :=
    @putText_widen _ 0 apn (List.replicate (room apn user pd) 0) apnFits
  rw [userAt, Nat.mul_zero] at first
  unfold mbimPopulateConnectData
  dsimp only
  rw [bufLen_eq, replicate_eq_widen, first]
  dsimp only
  rw [putText_widen userFits]
  dsimp only
  rw [← passwordAt, putText_widen (passwordAt_fits apn user pd)]
  rfl

theorem length_namesBuffer :
    (namesBuffer apn user pd).length = room apn user pd := by
  have apnLonger := le_evenUp apn.length
  have userLonger := le_evenUp user.length
  have first :
      (overwrite (List.replicate (room apn user pd) 0) 0 apn).length =
        room apn user pd := by
    rw [length_overwrite, List.length_replicate]
    rw [List.length_replicate, room]
    omega
  rw [namesBuffer, length_overwrite, first]
  rw [first, room]
  omega

/-- Before the password is put, the other texts are at their places. -/
theorem names_stand :
    ((namesBuffer apn user pd).drop 0).take apn.length = apn ∧
      ((namesBuffer apn user pd).drop (evenUp apn.length)).take
          user.length =
        user := by
  have apnLonger := le_evenUp apn.length
  have apnFits :
      0 ≤ (List.replicate (room apn user pd) (0 : Byte)).length :=
    Nat.zero_le _
  have whole :
      (overwrite (List.replicate (room apn user pd) 0) 0 apn).length =
        room apn user pd := by
    rw [length_overwrite, List.length_replicate]
    rw [List.length_replicate, room]
    omega
  have roomy : evenUp apn.length + user.length ≤ room apn user pd := by
    have userLonger := le_evenUp user.length
    rw [room]
    omega
  refine ⟨?_, drop_take_overwrite _ _ (by rw [whole]; omega)⟩
  refine
    (slice_overwrite_iff
      (drop_take_overwrite (List.replicate (room apn user pd) 0) apn apnFits)
      (by rw [whole]; exact roomy)).mpr ?_
  exact agrees_of_behind (by omega)

/-- What the request says depends on what the password is put over. -/
theorem texts_read_back :
    let request := mbimPopulateConnectData apn user pd
    (request.text request.accessString = widen apn ↔
        Agrees pd (passwordAt apn user) apn 0) ∧
      (request.text request.userName = widen user ↔
        Agrees pd (passwordAt apn user) user (evenUp apn.length)) ∧
      request.text request.password = widen pd := by
  have fits :
      passwordAt apn user + pd.length ≤ (namesBuffer apn user pd).length :=
    length_namesBuffer apn user pd ▸ passwordAt_fits apn user pd
  obtain ⟨apnStands, userStands⟩ := names_stand apn user pd
  have password :
      ((overwrite (namesBuffer apn user pd) (passwordAt apn user) pd).drop
          (passwordAt apn user)).take pd.length =
        pd :=
    drop_take_overwrite _ _ (Nat.le_of_add_right_le fits)
  rw [mbimPopulateConnectData_eq]
  dsimp only
  rw [text_referenceTo rfl, text_referenceTo rfl, text_referenceTo rfl,
    widen_inj, widen_inj, widen_inj, slice_overwrite_iff apnStands fits,
    slice_overwrite_iff userStands fits]
  exact ⟨Iff.rfl, Iff.rfl, password⟩

theorem readsBack_iff_agrees :
    ReadsBack apn user pd ↔
      Agrees pd (passwordAt apn user) apn 0 ∧
        Agrees pd (passwordAt apn user) user (evenUp apn.length) := by
  obtain ⟨apnReads, userReads, password⟩ := texts_read_back apn user pd
  exact and_congr apnReads ((and_iff_left password).trans userReads)

/--
The request says what it was made from if and only if one of the three texts
is missing, or the password has the characters that it is put over: it is put
as if there was no access point.
-/
theorem connect_reads_back_iff :
    ReadsBack apn user pd ↔
      apn = [] ∨ user = [] ∨ pd = [] ∨
        Agrees pd (evenUp user.length) apn 0 ∧
          Agrees pd (evenUp user.length) user (evenUp apn.length) := by
  rw [readsBack_iff_agrees, passwordAt]
  by_cases noUser : user = []
  · obtain rfl := noUser
    have behind : 0 + apn.length ≤ evenUp apn.length := by
      rw [Nat.zero_add]
      exact le_evenUp apn.length
    rw [if_pos rfl]
    exact
      iff_of_true
        ⟨agrees_of_behind behind, agrees_nil_lower pd _ _⟩
        (Or.inr (Or.inl rfl))
  rw [if_neg noUser]
  by_cases noApn : apn = []
  · obtain rfl := noApn
    have behind : evenUp 0 + user.length ≤ evenUp user.length := by
      rw [evenUp, Nat.zero_mod, Nat.zero_add]
      exact le_evenUp user.length
    exact
      iff_of_true
        ⟨agrees_nil_lower pd _ _, agrees_of_behind behind⟩
        (Or.inl rfl)
  by_cases noPd : pd = []
  · obtain rfl := noPd
    exact
      iff_of_true ⟨agrees_nil_upper _ _ _, agrees_nil_upper _ _ _⟩
        (Or.inr (Or.inr (Or.inl rfl)))
  rw [or_iff_right noApn, or_iff_right noUser, or_iff_right noPd]

end Texts

/-- The password falls on a character of one of the other texts. -/
theorem password_falls
    {apn user : List Byte}
    (apnGiven : apn ≠ [])
    (userGiven : user ≠ []) :
    evenUp user.length < apn.length ∨
      ∃ index,
        index < user.length ∧
          evenUp apn.length + index = evenUp user.length := by
  have apnLong := List.length_pos_iff.mpr apnGiven
  have userLong := List.length_pos_iff.mpr userGiven
  refine or_iff_not_imp_left.mpr fun behindApn => ?_
  refine ⟨evenUp user.length - evenUp apn.length, ?_, ?_⟩
  · rw [evenUp, evenUp] at *
    omega
  · rw [evenUp, evenUp] at *
    omega

/--
With all three texts given the password always falls on one of the others, so
that with a password of other characters the access point or the user is read
back wrong.
-/
theorem connect_damaged
    {apn user pd : List Byte}
    (apnGiven : apn ≠ [])
    (userGiven : user ≠ [])
    (pdGiven : pd ≠ [])
    (others : ∀ char ∈ pd, char ∉ apn ∧ char ∉ user) :
    let request := mbimPopulateConnectData apn user pd
    request.text request.accessString ≠ widen apn ∨
      request.text request.userName ≠ widen user := by
  obtain ⟨apnReads, userReads, -⟩ := texts_read_back apn user pd
  rw [passwordAt, if_neg userGiven] at apnReads userReads
  obtain ⟨char, rest, rfl⟩ := List.exists_cons_of_ne_nil pdGiven
  obtain ⟨notApn, notUser⟩ := others char List.mem_cons_self
  rcases password_falls apnGiven userGiven with inApn | ⟨index, inUser, place⟩
  · refine Or.inl fun reads => ?_
    have isLower := List.getElem?_eq_getElem inApn
    have same :=
      apnReads.mp reads 0 char rfl (evenUp user.length) _ (Nat.zero_add _)
        isLower
    exact notApn (same ▸ List.getElem_mem inApn)
  · refine Or.inr fun reads => ?_
    have isLower := List.getElem?_eq_getElem inUser
    have same := userReads.mp reads 0 char rfl index _ place isLower
    exact notUser (same ▸ List.getElem_mem inUser)

/-- The access point `lte`, the user `me` and the password `pw`. -/
theorem connect_damaged_lte :
    (mbimPopulateConnectData [108, 116, 101] [109, 101] [112, 119]).text
          (mbimPopulateConnectData
            [108, 116, 101] [109, 101] [112, 119]).accessString ≠
        widen [108, 116, 101] ∨
      (mbimPopulateConnectData [108, 116, 101] [109, 101] [112, 119]).text
          (mbimPopulateConnectData
            [108, 116, 101] [109, 101] [112, 119]).userName ≠
        widen [109, 101] :=
  connect_damaged (by decide) (by decide) (by decide) (by decide)

end RecomputerGateway.MbimConnect
