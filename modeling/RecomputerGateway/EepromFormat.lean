import RecomputerGateway.EepromRecord

namespace RecomputerGateway.Eeprom

/-!
# The format of the written image

The script looks at the number of characters of the EUI, not at the
characters.  A character that is no hexadecimal digit makes `printf` print
more than one byte for its pair, which moves the later fields.
-/

open ByteLayout (Field slice)

/-- The fields of the options at the offsets of the binary format. -/
structure HasFormat (options : Options) (image : List Byte) : Prop where
  length : image.length = 70
  magic : slice image 0x00 4 = [0xDE, 0xAD, 0xBE, 0xEF]
  dataLen : slice image 0x04 2 = [0x00, 0x46]
  sn : slice image 0x06 16 = (Field.padded 16 0 options.sn.bytes).elements
  eui :
    Hexadecimal.decode? (euiClean options.eui.bytes) =
      some (slice image 0x16 8)
  freqPlan :
    ∃ plan : FreqPlan,
      plan.name = options.freqPlan.bytes ∧
        slice image 0x1E 2 = plan.field.elements
  hwNameLen :
    networkOrder (slice image 0x20 2) = min 32 options.hwName.bytes.length
  hwName :
    slice image 0x22 32 = (Field.padded 32 0 options.hwName.bytes).elements
  crc : slice image 0x42 4 = storedCrc.elements

/--
Success means 16 hexadecimal digits and an image in the format; on any other
EUI the script ends with an error and writes nothing.
-/
structure FormatKept
    (script : List Byte)
    (writable : Word → Bool)
    (args : List Word) :
    Prop where
  success :
    ∀ outcome,
      Ends script writable args outcome →
        outcome.exitCode = 0 →
          ∃ options image,
            ParsesTo args (.options options) ∧
              outcome.written = some (options.outputFile, image) ∧
                IsEui (euiClean options.eui.bytes) ∧
                  HasFormat options image
  otherEui :
    ¬ IsEui (euiClean (readOptions defaults args).eui.bytes) →
      ∃ outcome,
        Ends script writable args outcome ∧
          outcome.exitCode ≠ 0 ∧ outcome.written = none

/--
The EUI has the right digits, or the arguments are wrong in a way that the
script notices: it ends with `usage`, or it rejects what it has read.
-/
def EuiHandled (writable : Word → Bool) (args : List Word) : Prop :=
  IsEui (euiClean (readOptions defaults args).eui.bytes) ∨
    lacksValue args = false ∧
      (asksUsage args = true ∨
        Rejected writable (readOptions defaults args))

/-- The layout of a record has the format of the options it is from. -/
theorem hasFormat_layout
    {options : Options}
    {record : Record}
    (describes : Describes options record) :
    HasFormat options (record.layout storedCrc).bytes := by
  have found := (record.layout storedCrc).slice_bytes
  have sn :
      slice (record.layout storedCrc).bytes 0x06 16 =
        record.sn.field.elements :=
    found 2 rfl rfl
  have eui :
      slice (record.layout storedCrc).bytes 0x16 8 = record.eui.elements :=
    found 3 rfl rfl
  have nameLength :
      slice (record.layout storedCrc).bytes 0x20 2 =
        [0, BitVec.ofNat 8 record.hwName.bytes.length] :=
    found 5 rfl rfl
  have name :
      slice (record.layout storedCrc).bytes 0x22 32 =
        record.hwName.field.elements :=
    found 6 rfl rfl
  exact
    { length := EepromLayout.length_bytes _
      magic := found 0 rfl rfl
      dataLen := found 1 rfl rfl
      sn := by
        rw [sn, FittingText.field, describes.sn, Field.padded_take]
      eui := by rw [describes.eui, eui]
      freqPlan := ⟨record.freqPlan, describes.freqPlan, found 4 rfl rfl⟩
      hwNameLen := by
        have fits := record.hwName.fits
        rw [describes.hwName] at nameLength fits
        rw [nameLength]
        simp only [networkOrder, List.foldl_cons, List.foldl_nil,
          BitVec.toNat_ofNat, BitVec.ofNat_eq_ofNat]
        rw [List.length_take] at fits ⊢
        omega
      hwName := by
        rw [name, FittingText.field, describes.hwName, Field.padded_take]
      crc := found 7 rfl rfl }

/-- With the right digits, what the script writes is in the format. -/
theorem hasFormat_of_written
    {writable : Word → Bool}
    {options : Options}
    {outcome : Outcome}
    (writes : Written writable options outcome)
    (eui : IsEui (euiClean options.eui.bytes)) :
    ∃ image,
      outcome.written = some (options.outputFile, image) ∧
        HasFormat options image := by
  obtain ⟨digits, content, plan, -, isContent, -, written⟩ := writes
  obtain ⟨record, describes⟩ := describes_of_supported eui plan
  rw [dataContent_of_describes describes plan] at isContent
  cases isContent
  exact ⟨_, written, hasFormat_layout describes⟩

end RecomputerGateway.Eeprom
