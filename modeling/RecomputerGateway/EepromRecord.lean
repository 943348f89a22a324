import Mathlib.Data.List.TakeWhile
import RecomputerGateway.EepromReader
import RecomputerGateway.EepromWriter

namespace RecomputerGateway.Eeprom

/-!
# Device records

What the EEPROM is for: it stores a serial number, an EUI, a frequency plan
and a hardware name.  A record is laid out in memory by the rules of the
binary format; `hardware_info` reads the record back from its layout, and
`write_eeprom.sh` writes the layout of the record that its options describe.
-/

open ByteLayout (Field)

inductive FreqPlan where
  | us915
  | eu868
  | cn470
  deriving DecidableEq

namespace FreqPlan

def name : FreqPlan → List Byte
  | .us915 => ascii "US915"
  | .eu868 => ascii "EU868"
  | .cn470 => ascii "CN470"

def value : FreqPlan → Byte
  | .us915 => 1
  | .eu868 => 2
  | .cn470 => 3

/-- The two bytes of the plan, most significant byte first. -/
def field (plan : FreqPlan) : Field Byte 2 where
  elements := [0, plan.value]
  length_elements := rfl

theorem name_injective : Function.Injective name := by
  intro first second same
  cases first <;> cases second <;> first | rfl | exact absurd same (by decide)

/-- The reader prints the name of the plan that is stored. -/
theorem freqStr_field (plan : FreqPlan) :
    freqStr (networkOrder plan.field.elements) = plan.name := by
  cases plan <;> decide

/-- The script knows exactly the names of the plans. -/
theorem name_of_frequencyValue?
    {name digits : List Byte}
    (known : frequencyValue? name = some digits) :
    ∃ plan : FreqPlan,
      plan.name = name ∧ hexstrToBin digits = some plan.field.elements := by
  unfold frequencyValue? at known
  split at known
  next isUs =>
    cases known
    exact ⟨.us915, isUs.symm, by decide⟩
  next =>
    split at known
    next isEu =>
      cases known
      exact ⟨.eu868, isEu.symm, by decide⟩
    next =>
      split at known
      next isCn =>
        cases known
        exact ⟨.cn470, isCn.symm, by decide⟩
      next =>
        cases known

theorem frequencyValue?_name (plan : FreqPlan) :
    ∃ digits, frequencyValue? plan.name = some digits := by
  cases plan
  · exact ⟨ascii "0001", by decide⟩
  · exact ⟨ascii "0002", by decide⟩
  · exact ⟨ascii "0003", by decide⟩

end FreqPlan

/-- A text without NUL bytes that fits a field of `width` bytes. -/
structure FittingText (width : Nat) where
  bytes : List Byte
  nulFree : (0 : Byte) ∉ bytes
  fits : bytes.length ≤ width

namespace FittingText

variable {width : Nat}

/-- The part of a word that fits. -/
def ofWord (width : Nat) (word : Word) : FittingText width where
  bytes := word.bytes.take width
  nulFree := fun member => word.nulFree (List.mem_of_mem_take member)
  fits := List.length_take_le width word.bytes

/-- The text, padded with NUL bytes. -/
def field (text : FittingText width) : Field Byte width :=
  Field.padded width 0 text.bytes

@[ext] theorem ext
    {first second : FittingText width}
    (same : first.bytes = second.bytes) :
    first = second := by
  cases first
  cases second
  cases same
  rfl

theorem take_bytes (text : FittingText width) :
    text.bytes.take width = text.bytes :=
  List.take_of_length_le text.fits

/-- The padding ends the string. -/
theorem cString_field (text : FittingText width) :
    cString text.field.elements = text.bytes := by
  have cut :
      cString text.field.elements = text.bytes.take width :=
    Field.takeWhile_padded text.nulFree
  rw [cut, text.take_bytes]

/-- The first bytes of the field, up to the length of the text. -/
theorem take_field (text : FittingText width) :
    text.field.elements.take text.bytes.length = text.bytes := by
  simp only [field, Field.padded, text.take_bytes]
  exact List.take_left

theorem cString_bytes (text : FittingText width) :
    cString text.bytes = text.bytes := by
  refine List.takeWhile_eq_self_iff.mpr fun byte member => ?_
  refine decide_eq_true ?_
  rintro rfl
  exact text.nulFree member

/-- The script pads every word to the field of the part that fits. -/
theorem paddedText_eq (word : Word) :
    paddedText width word.bytes = (ofWord width word).field.elements := by
  have bound : (word.bytes.take width).length ≤ width :=
    List.length_take_le width word.bytes
  rw [field, ofWord, Field.padded_take]
  simp only [paddedText, Field.padded]
  split
  · rfl
  · have full : width - (word.bytes.take width).length = 0 := by omega
    rw [full, List.replicate_zero, List.append_nil]

end FittingText

/-- What the EEPROM says about a device. -/
structure Record where
  sn : FittingText 16
  eui : Field Byte 8
  freqPlan : FreqPlan
  hwName : FittingText 32

/-- The files of `/etc/deviceinfo`. -/
def infoFiles
    (sn eui freqPlan hwName : List Byte) :
    List (String × List Byte) :=
  [("/etc/deviceinfo/sn", sn), ("/etc/deviceinfo/eui", eui),
    ("/etc/deviceinfo/freq_plan", freqPlan),
    ("/etc/deviceinfo/hw_name", hwName)]

namespace Record

/-- The record in the binary format, with a checksum. -/
def layout (record : Record) (crc : Field Byte 4) : EepromLayout where
  magic := ⟨[0xDE, 0xAD, 0xBE, 0xEF], rfl⟩
  dataLen := ⟨[0x00, 0x46], rfl⟩
  sn := record.sn.field
  eui := record.eui
  freqPlan := record.freqPlan.field
  hwNameLen := ⟨[0, BitVec.ofNat 8 record.hwName.bytes.length], rfl⟩
  hwName := record.hwName.field
  crc := crc

/-- The texts of the record in the files of `/etc/deviceinfo`. -/
def files (record : Record) : List (String × List Byte) :=
  infoFiles record.sn.bytes
    (record.eui.elements.flatMap Hexadecimal.printByte)
    record.freqPlan.name record.hwName.bytes

/-- The stored length is the length of the name. -/
theorem hwLen_layout (record : Record) (crc : Field Byte 4) :
    hwLen (record.layout crc) = record.hwName.bytes.length := by
  have fits := record.hwName.fits
  simp only [hwLen, layout, networkOrder, List.foldl_cons, List.foldl_nil,
    BitVec.toNat_ofNat, BitVec.ofNat_eq_ofNat]
  split <;> omega

/-- `hardware_info` reads a record back from its layout. -/
theorem hardwareInfo_layout
    {writable : String → Bool}
    (canWrite : ∀ path, writable path = true)
    (record : Record)
    (crc : Field Byte 4) :
    hardwareInfo writable (some (record.layout crc).bytes) =
      { exitCode := 0
        messages := warnings (record.layout crc)
        files := record.files } := by
  have name :
      cString ((record.layout crc).hwName.elements.take
          (hwLen (record.layout crc))) =
        record.hwName.bytes := by
    rw [hwLen_layout]
    exact (congrArg cString record.hwName.take_field).trans
      record.hwName.cString_bytes
  rw [hardwareInfo_of_read? canWrite (EepromLayout.read?_bytes _), name]
  simp only [files, infoFiles, layout, FittingText.cString_field,
    FreqPlan.freqStr_field]

end Record

/-! ## Options that describe a record -/

/-- Sixteen hexadecimal digits. -/
def IsEui (text : List Byte) : Prop :=
  text.length = 16 ∧ ∀ char ∈ text, Hexadecimal.isDigit char = true

instance (text : List Byte) : Decidable (IsEui text) :=
  inferInstanceAs (Decidable (_ ∧ _))

/-- The options ask for this record. -/
structure Describes (options : Options) (record : Record) : Prop where
  sn : record.sn.bytes = options.sn.bytes.take 16
  eui :
    Hexadecimal.decode? (euiClean options.eui.bytes) =
      some record.eui.elements
  freqPlan : record.freqPlan.name = options.freqPlan.bytes
  hwName : record.hwName.bytes = options.hwName.bytes.take 32

/-- Digits are no white space, and `echo` prints them as they are. -/
theorem euiClean_of_digits
    {text : List Byte}
    (digits : ∀ char ∈ text, Hexadecimal.isDigit char = true) :
    euiClean text = text := by
  have notOption : isEchoOption text = false := by
    unfold isEchoOption
    split
    next letters =>
      have isDigit := digits 45 (by simp)
      exact absurd isDigit (by decide)
    next =>
      rfl
  have kept : ∀ char ∈ text, (!isSpace char) = true := by
    intro char member
    cases space : isSpace char with
    | false =>
        rfl
    | true =>
        have isDigit := digits char member
        simp only [isSpace, List.mem_cons, List.not_mem_nil, or_false,
          decide_eq_true_eq] at space
        rcases space with rfl | rfl | rfl | rfl | rfl | rfl <;>
          exact absurd isDigit (by decide)
  have newline : deleteSpace [10] = [] := by decide
  rw [euiClean, echo, notOption]
  simp only [Bool.false_eq_true, ↓reduceIte, deleteSpace,
    List.filter_append] at newline ⊢
  rw [newline, List.append_nil]
  exact List.filter_eq_self.mpr kept

/-- Supported options describe a record. -/
theorem describes_of_supported
    {options : Options}
    {digits : List Byte}
    (eui : IsEui (euiClean options.eui.bytes))
    (plan : frequencyValue? options.freqPlan.bytes = some digits) :
    ∃ record, Describes options record := by
  obtain ⟨euiBytes, decoded, length⟩ :=
    Hexadecimal.decode?_of_digits 8 eui.1 eui.2
  obtain ⟨plan, planName, -⟩ := FreqPlan.name_of_frequencyValue? plan
  exact
    ⟨{ sn := .ofWord 16 options.sn, eui := ⟨euiBytes, length⟩,
       freqPlan := plan, hwName := .ofWord 32 options.hwName },
      { sn := rfl, eui := decoded, freqPlan := planName, hwName := rfl }⟩

/-- `hexstr_to_bin` converts hexadecimal digits to their bytes. -/
theorem hexstrToBin_of_decode?
    {text bytes : List Byte}
    (decoded : Hexadecimal.decode? text = some bytes) :
    hexstrToBin text = some bytes := by
  induction text using hexstrToBin.induct generalizing bytes with
  | case1 =>
      exact decoded
  | case2 char =>
      cases decoded
  | case3 first second rest inductionHypothesis =>
      obtain ⟨high, low, tail, firstDigit, secondDigit, restDecoded, rfl⟩ :=
        Hexadecimal.decode?_cons_cons decoded
      simp [hexstrToBin, inductionHypothesis restDecoded,
        printf_hexPair firstDigit secondDigit]

/-- The checksum that the script stores. -/
def storedCrc : Field Byte 4 := ⟨[0xE1, 0xA4, 0x25, 0xE2], rfl⟩

/-- The length of a name that the script stores fits one byte. -/
theorem printf_nameLengthFormat
    {length : Nat}
    (bound : length ≤ 32) :
    printf (nameLengthFormat length) = [0, BitVec.ofNat 8 length] := by
  have all :
      ∀ length < 33,
        printf (nameLengthFormat length) = [0, BitVec.ofNat 8 length] := by
    decide
  exact all length (by omega)

theorem hwNameLen_eq (name : List Byte) :
    hwNameLen name = (name.take 32).length := by
  simp only [hwNameLen, List.length_take]
  split <;> omega

/-- The pieces of the image, whatever the EUI is. -/
theorem dataContent_eq
    {options : Options}
    {digits euiBytes : List Byte}
    {plan : FreqPlan}
    (euiPrinted : hexstrToBin (euiClean options.eui.bytes) = some euiBytes)
    (planPrinted : hexstrToBin digits = some plan.field.elements) :
    dataContent options digits =
      some
        ([[0xDE, 0xAD, 0xBE, 0xEF], [0x00, 0x46],
          (FittingText.ofWord 16 options.sn).field.elements, euiBytes,
          plan.field.elements,
          [0, BitVec.ofNat 8 (options.hwName.bytes.take 32).length],
          (FittingText.ofWord 32 options.hwName).field.elements,
          storedCrc.elements].flatten) := by
  have magic :
      printf (ascii "\\xDE\\xAD\\xBE\\xEF") = [0xDE, 0xAD, 0xBE, 0xEF] := by
    decide
  have length : printf (ascii "\\x00\\x46") = [0x00, 0x46] := by decide
  have crc : hexstrToBin crcHexPadded = some storedCrc.elements := by decide
  have nameLength :=
    printf_nameLengthFormat
      (List.length_take_le 32 options.hwName.bytes)
  simp only [dataContent, euiPrinted, planPrinted, crc, magic, length,
    hwNameLen_eq, nameLength, FittingText.paddedText_eq, Option.bind_eq_bind,
    Option.bind_some, Option.pure_def, List.flatten_cons, List.flatten_nil,
    List.append_assoc, List.append_nil]

/-- The content for options that describe a record is its layout. -/
theorem dataContent_of_describes
    {options : Options}
    {record : Record}
    {digits : List Byte}
    (describes : Describes options record)
    (known : frequencyValue? options.freqPlan.bytes = some digits) :
    dataContent options digits =
      some (record.layout storedCrc).bytes := by
  obtain ⟨plan, planName, planPrinted⟩ :=
    FreqPlan.name_of_frequencyValue? known
  cases FreqPlan.name_injective (planName.trans describes.freqPlan.symm)
  have snPart : FittingText.ofWord 16 options.sn = record.sn :=
    FittingText.ext describes.sn.symm
  have namePart : FittingText.ofWord 32 options.hwName = record.hwName :=
    FittingText.ext describes.hwName.symm
  rw [dataContent_eq (hexstrToBin_of_decode? describes.eui) planPrinted,
    snPart, namePart, ← describes.hwName]
  rfl

/-- The script writes the layout of the record its options describe. -/
theorem writeOptions_of_describes
    {writable : Word → Bool}
    {options : Options}
    {record : Record}
    (eui : IsEui (euiClean options.eui.bytes))
    (describes : Describes options record)
    (canWrite : writable options.outputFile = true) :
    ∃ outcome,
      writeOptions writable options = some outcome ∧
        outcome.exitCode = 0 ∧
          outcome.written =
            some (options.outputFile, (record.layout storedCrc).bytes) := by
  obtain ⟨digits, known⟩ := record.freqPlan.frequencyValue?_name
  rw [describes.freqPlan] at known
  have accepted : ¬ Rejected writable options := by
    rintro (noPlan | otherLength | cannotWrite)
    · cases known.symm.trans noPlan
    · exact otherLength eui.1
    · cases canWrite.symm.trans cannotWrite
  obtain ⟨outcome, run, ⟨-, -, rejected⟩ | ⟨success, writes⟩⟩ :=
    writeOptions_cases writable options
  · exact absurd rejected accepted
  · obtain ⟨digits, content, plan, -, isContent, -, written⟩ := writes
    rw [dataContent_of_describes describes plan] at isContent
    cases isContent
    exact ⟨outcome, run, success, written⟩

end RecomputerGateway.Eeprom
