import Mathlib.Logic.Function.Iterate
import RecomputerGateway.ByteLayout
import RecomputerGateway.EepromShell

namespace RecomputerGateway.Eeprom

/-!
# `hardware_info`

The program reads the 70 bytes of the record into a packed structure, warns
about a wrong magic number or checksum, and writes four files under
`/etc/deviceinfo`.
-/

open ByteLayout (Field slice)

/-- `struct eeprom_layout`; the numbers are the offsets of its comments. -/
@[ext] structure EepromLayout where
  magic : Field Byte 4       -- 0x00
  dataLen : Field Byte 2     -- 0x04
  sn : Field Byte 16         -- 0x06
  eui : Field Byte 8         -- 0x16
  freqPlan : Field Byte 2    -- 0x1E
  hwNameLen : Field Byte 2   -- 0x20
  hwName : Field Byte 32     -- 0x22
  crc : Field Byte 4         -- 0x42
  deriving DecidableEq

namespace EepromLayout

/-- `sizeof(struct eeprom_layout)`. -/
def size : Nat := 70

/-- The members in the order of their addresses. -/
def parts (layout : EepromLayout) : List (List Byte) :=
  [layout.magic.elements, layout.dataLen.elements, layout.sn.elements,
    layout.eui.elements, layout.freqPlan.elements,
    layout.hwNameLen.elements, layout.hwName.elements,
    layout.crc.elements]

/-- The offsets of the members. -/
def offsets : List Nat :=
  [0x00, 0x04, 0x06, 0x16, 0x1E, 0x20, 0x22, 0x42]

/-- The structure in memory. -/
def bytes (layout : EepromLayout) : List Byte :=
  layout.parts.flatten

/-- `read(fd, &data, sizeof(data))`, when it delivers the whole structure. -/
def read? (image : List Byte) : Option EepromLayout :=
  if enough : size ≤ image.length then
    have within : ∀ {offset width},
        offset + width ≤ 70 → offset + width ≤ image.length :=
      fun fits => Nat.le_trans fits enough
    some
      { magic := ByteLayout.fieldAt image 0x00 4 (within (by decide))
        dataLen := ByteLayout.fieldAt image 0x04 2 (within (by decide))
        sn := ByteLayout.fieldAt image 0x06 16 (within (by decide))
        eui := ByteLayout.fieldAt image 0x16 8 (within (by decide))
        freqPlan := ByteLayout.fieldAt image 0x1E 2 (within (by decide))
        hwNameLen := ByteLayout.fieldAt image 0x20 2 (within (by decide))
        hwName := ByteLayout.fieldAt image 0x22 32 (within (by decide))
        crc := ByteLayout.fieldAt image 0x42 4 (within (by decide)) }
  else none

end EepromLayout

/-- `ntohs` and `ntohl` of a number as it lies in memory. -/
def networkOrder (bytes : List Byte) : Nat :=
  bytes.foldl (fun value byte => 256 * value + byte.toNat) 0

/-- One round of the inner loop of `calc_crc32`. -/
def crcBit (crc : BitVec 32) : BitVec 32 :=
  if crc &&& 1 ≠ 0 then (crc >>> 1) ^^^ 0xEDB88320 else crc >>> 1

/-- One round of the outer loop of `calc_crc32`. -/
def crcByte (crc : BitVec 32) (byte : Byte) : BitVec 32 :=
  crcBit^[8] (crc ^^^ byte.setWidth 32)

/-- `calc_crc32`. -/
def calcCrc32 (data : List Byte) : BitVec 32 :=
  ~~~ data.foldl crcByte 0xFFFFFFFF

/-- A string in memory, as `%s` prints it. -/
def cString (bytes : List Byte) : List Byte :=
  bytes.takeWhile fun byte => byte ≠ 0

/-- The table `freq_plans`. -/
def freqPlans : List (List Byte) :=
  [ascii "US915", ascii "EU868", ascii "CN470"]

/-- The name of a frequency plan. -/
def freqStr (freq : Nat) : List Byte :=
  if 0 < freq then
    (freqPlans[freq - 1]?).getD (ascii "UNKNOWN")
  else ascii "UNKNOWN"

/-- What the program prints to its standard error. -/
inductive Message where
  | cannotOpen
  | failedToRead
  | invalidMagic (magic : Nat)
  | crcMismatch (stored calculated : BitVec 32)
  | failedToWrite (path : String)
  deriving DecidableEq

/-- `%08X`. -/
def printWord (value : Nat) : List Byte :=
  [value / 16777216, value / 65536, value / 256, value].flatMap fun part =>
    Hexadecimal.printByte (BitVec.ofNat 8 part)

/--
The text of a message, for the path of the device and what `strerror` says.
-/
def Message.text (device error : List Byte) : Message → List Byte
  | .cannotOpen =>
      ascii "Cannot open " ++ device ++ ascii ": " ++ error ++ [10]
  | .failedToRead => ascii "Failed to read EEPROM data\n"
  | .invalidMagic magic =>
      ascii "Warning: Invalid Magic: 0x" ++ printWord magic ++ [10]
  | .crcMismatch stored calculated =>
      ascii "Warning: CRC Mismatch. Stored: 0x" ++
        printWord stored.toNat ++ ascii ", Calc: 0x" ++
        printWord calculated.toNat ++ [10]
  | .failedToWrite path =>
      ascii "Failed to write " ++ ascii path ++ ascii ": " ++ error ++ [10]

/-- What a run of the program leaves behind. -/
structure InfoOutcome where
  exitCode : Nat
  messages : List Message
  /-- The files written, in this order, with their contents. -/
  files : List (String × List Byte)
  deriving DecidableEq

/-- `write_file`. -/
def writeFile
    (writable : String → Bool)
    (filename : String)
    (content : List Byte)
    (before : InfoOutcome) :
    InfoOutcome :=
  let path := "/etc/deviceinfo/" ++ filename
  if writable path then
    { before with files := before.files ++ [(path, content)] }
  else
    { before with messages := before.messages ++ [.failedToWrite path] }

/-- The warnings about the magic number and the checksum. -/
def warnings (data : EepromLayout) : List Message :=
  let magicVal := networkOrder data.magic.elements
  let storedCrc := BitVec.ofNat 32 (networkOrder data.crc.elements)
  let calcedCrc := calcCrc32 (slice data.bytes 4 62)
  (if magicVal ≠ 0xDEADBEEF then [.invalidMagic magicVal] else []) ++
    if storedCrc ≠ calcedCrc then [.crcMismatch storedCrc calcedCrc] else []

/-- `hw_len`, the stored length of the name, limited to the field. -/
def hwLen (data : EepromLayout) : Nat :=
  let stored := networkOrder data.hwNameLen.elements
  if stored > 32 then 32 else stored

/--
`main`, on the content of the device if it can be opened; `writable` says
which files can be written.
-/
def hardwareInfo
    (writable : String → Bool)
    (device : Option (List Byte)) :
    InfoOutcome :=
  match device with
  | none => { exitCode := 1, messages := [.cannotOpen], files := [] }
  | some image =>
      match EepromLayout.read? image with
      | none => { exitCode := 1, messages := [.failedToRead], files := [] }
      | some data =>
          let start : InfoOutcome :=
            { exitCode := 0, messages := warnings data, files := [] }
          let snDone :=
            writeFile writable "sn" (cString data.sn.elements) start
          let euiDone :=
            writeFile writable "eui"
              (data.eui.elements.flatMap Hexadecimal.printByte) snDone
          let freqDone :=
            writeFile writable "freq_plan"
              (freqStr (networkOrder data.freqPlan.elements)) euiDone
          writeFile writable "hw_name"
            (cString (data.hwName.elements.take (hwLen data))) freqDone

/-! ## The structure and its bytes -/

namespace EepromLayout

theorem length_bytes (layout : EepromLayout) :
    layout.bytes.length = size := by
  simp [bytes, parts, size, Field.length_elements]

/-- The members in front of a member have the length of its offset. -/
theorem length_parts_before
    (layout : EepromLayout)
    {index offset : Nat}
    (isOffset : offsets[index]? = some offset) :
    (layout.parts.take index).flatten.length = offset := by
  match index with
  | 0 | 1 | 2 | 3 | 4 | 5 | 6 | 7 =>
      cases isOffset
      simp [parts, Field.length_elements]
  | beyond + 8 =>
      cases isOffset

/-- A member, cut out of the bytes of the structure at its offset. -/
theorem slice_bytes
    (layout : EepromLayout)
    (index : Nat)
    {offset width : Nat}
    {field : Field Byte width}
    (found : layout.parts[index]? = some field.elements)
    (isOffset : offsets[index]? = some offset) :
    slice layout.bytes offset width = field.elements :=
  ByteLayout.slice_flatten found (layout.length_parts_before isOffset)
    field.length_elements

/-- Reading the bytes of a structure gives it back. -/
theorem read?_bytes (layout : EepromLayout) :
    read? layout.bytes = some layout := by
  have enough : size ≤ layout.bytes.length :=
    Nat.le_of_eq layout.length_bytes.symm
  unfold read?
  rw [dif_pos enough]
  refine congrArg some (EepromLayout.ext ?_ ?_ ?_ ?_ ?_ ?_ ?_ ?_)
  · exact Field.ext (layout.slice_bytes 0 rfl rfl)
  · exact Field.ext (layout.slice_bytes 1 rfl rfl)
  · exact Field.ext (layout.slice_bytes 2 rfl rfl)
  · exact Field.ext (layout.slice_bytes 3 rfl rfl)
  · exact Field.ext (layout.slice_bytes 4 rfl rfl)
  · exact Field.ext (layout.slice_bytes 5 rfl rfl)
  · exact Field.ext (layout.slice_bytes 6 rfl rfl)
  · exact Field.ext (layout.slice_bytes 7 rfl rfl)

/-- The structure read from an image is a copy of its first bytes. -/
theorem bytes_of_read?
    {image : List Byte}
    {layout : EepromLayout}
    (isRead : read? image = some layout) :
    layout.bytes = image.take size := by
  unfold read? at isRead
  split at isRead
  · cases isRead
    have joined :=
      fun offset first second =>
        ByteLayout.slice_append_slice image offset first second
    simp only [bytes, parts, ByteLayout.fieldAt, List.flatten_cons,
      List.flatten_nil, List.append_nil, size]
    rw [joined 0x22 32 4, joined 0x20 2 36, joined 0x1E 2 38,
      joined 0x16 8 40, joined 0x06 16 48, joined 0x04 2 64,
      joined 0x00 4 66]
    simp [slice]
  · cases isRead

/-- The checks of the reader, in terms of the image. -/
theorem warnings_of_read?
    {image : List Byte}
    {layout : EepromLayout}
    (isRead : read? image = some layout) :
    warnings layout =
      (if networkOrder (slice image 0x00 4) ≠ 0xDEADBEEF then
        [.invalidMagic (networkOrder (slice image 0x00 4))]
      else []) ++
        if BitVec.ofNat 32 (networkOrder (slice image 0x42 4)) ≠
            calcCrc32 (slice image 0x04 62) then
          [.crcMismatch
            (BitVec.ofNat 32 (networkOrder (slice image 0x42 4)))
            (calcCrc32 (slice image 0x04 62))]
        else [] := by
  have checked : slice layout.bytes 4 62 = slice image 4 62 := by
    rw [bytes_of_read? isRead]
    simp [slice, size, List.drop_take, List.take_take]
  rw [warnings, checked]
  unfold read? at isRead
  split at isRead
  · cases isRead
    rfl
  · cases isRead

/-- An image that is long enough can be read. -/
theorem read?_isSome
    {image : List Byte}
    (enough : size ≤ image.length) :
    ∃ layout, read? image = some layout := by
  unfold read?
  rw [dif_pos enough]
  exact ⟨_, rfl⟩

end EepromLayout

/-- `write_file` adds at most its own message. -/
theorem mem_messages_writeFile
    {writable : String → Bool}
    {filename : String}
    {content : List Byte}
    {before : InfoOutcome}
    {message : Message}
    (member :
      message ∈ (writeFile writable filename content before).messages) :
    message ∈ before.messages ∨ ∃ path, message = .failedToWrite path := by
  unfold writeFile at member
  cases canWrite : writable ("/etc/deviceinfo/" ++ filename) with
  | true =>
      simp only [canWrite, ↓reduceIte] at member
      exact .inl member
  | false =>
      simp only [canWrite, Bool.false_eq_true, ↓reduceIte, List.mem_append,
        List.mem_singleton] at member
      exact member.imp_right fun isOwn => ⟨_, isOwn⟩

/-- Besides the warnings, the program only complains about its files. -/
theorem mem_messages_hardwareInfo
    {writable : String → Bool}
    {image : List Byte}
    {data : EepromLayout}
    {message : Message}
    (isRead : EepromLayout.read? image = some data)
    (member :
      message ∈ (hardwareInfo writable (some image)).messages) :
    message ∈ warnings data ∨ ∃ path, message = .failedToWrite path := by
  simp only [hardwareInfo, isRead] at member
  have split :=
    fun {filename content before} =>
      @mem_messages_writeFile writable filename content before message
  rcases split member with afterFreq | own
  · rcases split afterFreq with afterEui | own
    · rcases split afterEui with afterSn | own
      · exact split afterSn
      · exact .inr own
    · exact .inr own
  · exact .inr own

/-- A file that can be written is. -/
theorem writeFile_of_writable
    {writable : String → Bool}
    {filename : String}
    (canWrite : writable ("/etc/deviceinfo/" ++ filename) = true)
    (content : List Byte)
    (before : InfoOutcome) :
    writeFile writable filename content before =
      { before with
        files := before.files ++
          [("/etc/deviceinfo/" ++ filename, content)] } := by
  simp [writeFile, canWrite]

/-- A run on a readable device, when the four files can be written. -/
theorem hardwareInfo_of_read?
    {writable : String → Bool}
    (canWrite : ∀ path, writable path = true)
    {image : List Byte}
    {data : EepromLayout}
    (isRead : EepromLayout.read? image = some data) :
    hardwareInfo writable (some image) =
      { exitCode := 0
        messages := warnings data
        files :=
          [("/etc/deviceinfo/sn", cString data.sn.elements),
            ("/etc/deviceinfo/eui",
              data.eui.elements.flatMap Hexadecimal.printByte),
            ("/etc/deviceinfo/freq_plan",
              freqStr (networkOrder data.freqPlan.elements)),
            ("/etc/deviceinfo/hw_name",
              cString (data.hwName.elements.take (hwLen data)))] } := by
  simp only [hardwareInfo, isRead]
  rw [writeFile_of_writable (canWrite _), writeFile_of_writable (canWrite _),
    writeFile_of_writable (canWrite _), writeFile_of_writable (canWrite _)]
  rfl

end RecomputerGateway.Eeprom
