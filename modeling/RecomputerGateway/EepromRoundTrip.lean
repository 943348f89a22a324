import RecomputerGateway.EepromRecord

namespace RecomputerGateway.Eeprom

/-!
# Writing a record and reading it back

`hardware_info` prints what the options of `write_eeprom.sh` say, cut to the
fields of the record.  Options that repeat the printed values describe the
same record, so they write the same image.
-/

namespace Record

/-- Options that repeat the files of a record describe the record. -/
theorem describes_of_files
    {record : Record}
    {options : Options}
    (repeated :
      record.files =
        infoFiles options.sn.bytes options.eui.bytes
          options.freqPlan.bytes options.hwName.bytes)
    (eui : IsEui options.eui.bytes)
    (decoded :
      Hexadecimal.decode? options.eui.bytes = some record.eui.elements) :
    Describes options record := by
  simp only [files, infoFiles, List.cons.injEq, Prod.mk.injEq, true_and,
    and_true] at repeated
  obtain ⟨sn, -, freqPlan, hwName⟩ := repeated
  exact
    { sn := by rw [← sn, record.sn.take_bytes]
      eui := by rw [euiClean_of_digits eui.2, decoded]
      freqPlan := freqPlan
      hwName := by rw [← hwName, record.hwName.take_bytes] }

end Record

/-- The digits of an EUI stay digits in upper case. -/
theorem IsEui.map_toUpper
    {text : List Byte}
    (eui : IsEui text) :
    IsEui (text.map Hexadecimal.toUpper) := by
  refine ⟨by simp [eui.1], ?_⟩
  intro char member
  obtain ⟨original, isMember, rfl⟩ := List.mem_map.mp member
  obtain ⟨value, digit⟩ :=
    Option.isSome_iff_exists.mp (eui.2 original isMember)
  exact Option.isSome_iff_exists.mpr
    ⟨value, Hexadecimal.digitValue?_toUpper digit⟩

end RecomputerGateway.Eeprom
