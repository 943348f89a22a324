import RecomputerGateway.EepromRecord

namespace RecomputerGateway.Eeprom

/-!
# The checksum of the written image

The script stores the same checksum in every image, while `hardware_info`
computes the CRC-32 of the bytes in front of it.
-/

open ByteLayout (slice)

/-- The magic number and the checksum are what the reader looks for. -/
structure PassesCheck (image : List Byte) : Prop where
  magic : slice image 0x00 4 = [0xDE, 0xAD, 0xBE, 0xEF]
  checksum :
    BitVec.ofNat 32 (networkOrder (slice image 0x42 4)) =
      calcCrc32 (slice image 0x04 62)
  /-- The reader does not warn. -/
  noWarning :
    ∀ writable message,
      message ∈ (hardwareInfo writable (some image)).messages →
        (∀ magic, message ≠ .invalidMagic magic) ∧
          ∀ stored calculated, message ≠ .crcMismatch stored calculated

/-- The bytes that the script prints between magic number and checksum. -/
def checkedBytes (options : Options) : Option (List Byte) := do
  let digits ← frequencyValue? options.freqPlan.bytes
  let euiBytes ← hexstrToBin (euiClean options.eui.bytes)
  let planBytes ← hexstrToBin digits
  return [0x00, 0x46] ++ paddedText 16 options.sn.bytes ++ euiBytes ++
    planBytes ++ printf (nameLengthFormat (hwNameLen options.hwName.bytes)) ++
    paddedText 32 options.hwName.bytes

/--
The constant `CRC_HEX` is the CRC-32 of these bytes.  When the EUI is printed
as more than 8 bytes they do not end where the checksum is read, and 4 of the
later bytes are taken for it.
-/
def ChecksumFits (options : Options) : Prop :=
  ∃ checked,
    checkedBytes options = some checked ∧
      ((checked.length = 62 ∧ calcCrc32 checked = 0xE1A425E2) ∨
        (62 < checked.length ∧
          calcCrc32 (checked.take 62) =
            BitVec.ofNat 32
              (networkOrder (slice (checked ++ storedCrc.elements) 62 4))))

/-- The image is the magic number, the checked bytes and the constant. -/
theorem dataContent_checkedBytes
    {options : Options}
    {digits content : List Byte}
    (plan : frequencyValue? options.freqPlan.bytes = some digits)
    (isContent : dataContent options digits = some content) :
    ∃ checked,
      checkedBytes options = some checked ∧
        content =
          [0xDE, 0xAD, 0xBE, 0xEF] ++ (checked ++ storedCrc.elements) := by
  have magic :
      printf (ascii "\\xDE\\xAD\\xBE\\xEF") = [0xDE, 0xAD, 0xBE, 0xEF] := by
    decide
  have length : printf (ascii "\\x00\\x46") = [0x00, 0x46] := by decide
  have crc : hexstrToBin crcHexPadded = some storedCrc.elements := by decide
  simp only [dataContent, magic, length, crc, Option.bind_eq_bind,
    Option.bind_eq_some_iff, Option.bind_some, Option.pure_def,
    Option.some.injEq] at isContent
  obtain ⟨euiBytes, euiPrinted, planBytes, planPrinted, rfl⟩ := isContent
  refine
    ⟨[0x00, 0x46] ++ paddedText 16 options.sn.bytes ++ euiBytes ++
      planBytes ++
      printf (nameLengthFormat (hwNameLen options.hwName.bytes)) ++
      paddedText 32 options.hwName.bytes, ?_, ?_⟩
  · simp only [checkedBytes, plan, euiPrinted, planPrinted,
      Option.bind_eq_bind, Option.bind_some, Option.pure_def]
  · simp only [List.append_assoc]

/-- The script checks that no field is shorter than planned. -/
theorem length_checkedBytes
    {options : Options}
    {checked : List Byte}
    (isChecked : checkedBytes options = some checked)
    (euiLength : (euiClean options.eui.bytes).length = 16) :
    62 ≤ checked.length := by
  simp only [checkedBytes, Option.bind_eq_bind, Option.bind_eq_some_iff,
    Option.pure_def, Option.some.injEq] at isChecked
  obtain ⟨digits, known, euiBytes, euiPrinted, planBytes, planPrinted,
    rfl⟩ := isChecked
  obtain ⟨plan, -, planField⟩ := FreqPlan.name_of_frequencyValue? known
  cases planPrinted.symm.trans planField
  have euiBound := length_le_of_hexstrToBin euiPrinted
  rw [hwNameLen_eq,
    printf_nameLengthFormat (List.length_take_le 32 options.hwName.bytes)]
  simp only [FittingText.paddedText_eq, List.length_append,
    ByteLayout.Field.length_elements, List.length_cons, List.length_nil]
  omega

/-- The reader is satisfied when the checksum is, and only then. -/
theorem passesCheck_iff
    {checked : List Byte}
    (enough : 62 ≤ checked.length) :
    PassesCheck
        ([0xDE, 0xAD, 0xBE, 0xEF] ++ (checked ++ storedCrc.elements)) ↔
      BitVec.ofNat 32
          (networkOrder (slice (checked ++ storedCrc.elements) 62 4)) =
        calcCrc32 (checked.take 62) := by
  have magic :
      slice ([0xDE, 0xAD, 0xBE, 0xEF] ++ (checked ++ storedCrc.elements))
        0x00 4 = [0xDE, 0xAD, 0xBE, 0xEF] :=
    rfl
  have stored :
      slice ([0xDE, 0xAD, 0xBE, 0xEF] ++ (checked ++ storedCrc.elements))
        0x42 4 = slice (checked ++ storedCrc.elements) 62 4 :=
    rfl
  have body :
      slice ([0xDE, 0xAD, 0xBE, 0xEF] ++ (checked ++ storedCrc.elements))
        0x04 62 = checked.take 62 :=
    List.take_append_of_le_length enough
  constructor
  · intro passes
    rw [← stored, ← body]
    exact passes.checksum
  · intro fits
    rw [← stored, ← body] at fits
    refine ⟨magic, fits, ?_⟩
    have long :
        EepromLayout.size ≤
          ([0xDE, 0xAD, 0xBE, 0xEF] ++
            (checked ++ storedCrc.elements)).length := by
      simp only [EepromLayout.size, List.length_append, List.length_cons,
        List.length_nil, storedCrc.length_elements]
      omega
    obtain ⟨data, isRead⟩ := EepromLayout.read?_isSome long
    intro writable message member
    rcases mem_messages_hardwareInfo isRead member with warned | own
    · have magicFits :
          networkOrder [0xDE, 0xAD, 0xBE, 0xEF] = 0xDEADBEEF := by
        decide
      rw [EepromLayout.warnings_of_read? isRead, magic, magicFits, fits]
        at warned
      simp only [ne_eq, not_true_eq_false, ↓reduceIte, List.append_nil,
        List.not_mem_nil] at warned
    · obtain ⟨path, rfl⟩ := own
      exact
        ⟨fun magic same => Message.noConfusion same,
          fun stored calculated same => Message.noConfusion same⟩

end RecomputerGateway.Eeprom
