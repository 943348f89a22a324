import RecomputerGateway.EepromReader
import RecomputerGateway.ShiftRegister

namespace RecomputerGateway.Eeprom

/-!
# Bursts of wrong bits

The checksum of the record is the value that a feedback shift register of 32
bits is left with, so it changes with every burst of wrong bits that is not
longer than the register.
-/

open ByteLayout (slice)
open ShiftRegister (bits feed shift)

/-- A bit of the data; those of a byte are counted from its lowest one. -/
def bitAt? (data : List Byte) (position : Nat) : Option Bool :=
  (data[position / 8]?).map fun byte => byte.getLsbD (position % 8)

/-- Data of one length that differ only within 32 positions in a row. -/
structure Burst (first second : List Byte) : Prop where
  sameLength : first.length = second.length
  differ : first ≠ second
  within :
    ∃ start,
      ∀ position,
        bitAt? first position ≠ bitAt? second position →
          start ≤ position ∧ position < start + 32

/-- The reader complains about the checksum of the record. -/
def ReportsMismatch (writable : String → Bool) (image : List Byte) : Prop :=
  ∃ stored calculated,
    .crcMismatch stored calculated ∈
      (hardwareInfo writable (some image)).messages

/-- A burst in the 62 bytes that the checksum covers, and nowhere else. -/
structure CorruptedByBurst (sound corrupted : List Byte) : Prop where
  front : corrupted.take 0x04 = sound.take 0x04
  burst : Burst (slice sound 0x04 62) (slice corrupted 0x04 62)
  back : corrupted.drop 0x42 = sound.drop 0x42

/-! ## The checksum as a shift register -/

/-- The polynomial of `calc_crc32`. -/
def polynomial : BitVec 32 := 0xEDB88320

theorem crcBit_eq_shift (crc : BitVec 32) :
    crcBit crc = shift polynomial crc := by
  have lowest : crc &&& 1 = (BitVec.ofBool (crc.getLsbD 0)).setWidth 32 :=
    BitVec.and_one_eq_setWidth_ofBool_getLsbD
  rw [crcBit, shift, lowest]
  cases crc.getLsbD 0 with
  | false =>
      exact BitVec.xor_zero.symm
  | true =>
      rfl

theorem crcByte_eq_feed
    (crc : BitVec 32)
    (byte : Byte) :
    crcByte crc byte = feed polynomial crc (bits byte) := by
  have sameBit : crcBit = shift polynomial := funext crcBit_eq_shift
  rw [crcByte, sameBit, ShiftRegister.feed_bits _ _ _ (by decide)]

/-- All bits go through the register one by one. -/
theorem calcCrc32_eq_feed (data : List Byte) :
    calcCrc32 data =
      ~~~ feed polynomial 0xFFFFFFFF (data.flatMap bits) := by
  have bytewise (crc : BitVec 32) :
      data.foldl crcByte crc = feed polynomial crc (data.flatMap bits) := by
    induction data generalizing crc with
    | nil =>
        rfl
    | cons byte rest inductionHypothesis =>
        rw [List.foldl_cons, List.flatMap_cons, ShiftRegister.feed_append,
          inductionHypothesis, crcByte_eq_feed]
  rw [calcCrc32, bytewise]

theorem getElem?_bits
    (data : List Byte)
    (position : Nat) :
    (data.flatMap bits)[position]? = bitAt? data position :=
  ShiftRegister.getElem?_flatMap_bits (by decide) data position

/-- A burst changes the checksum. -/
theorem calcCrc32_ne_of_burst
    {first second : List Byte}
    (burst : Burst first second) :
    calcCrc32 first ≠ calcCrc32 second := by
  obtain ⟨start, within⟩ := burst.within
  have sameLength :
      (first.flatMap bits).length = (second.flatMap bits).length := by
    rw [ShiftRegister.length_flatMap_bits, ShiftRegister.length_flatMap_bits,
      burst.sameLength]
  have differ : first.flatMap bits ≠ second.flatMap bits :=
    (ShiftRegister.flatMap_bits_injective (by decide)).ne burst.differ
  have withinBits :
      ∀ position,
        (first.flatMap bits)[position]? ≠ (second.flatMap bits)[position]? →
          start ≤ position ∧ position < start + 32 := by
    intro position differs
    rw [getElem?_bits, getElem?_bits] at differs
    exact within position differs
  have feedsBack : polynomial.getLsbD (32 - 1) = true := by decide
  have registers :=
    ShiftRegister.feed_ne_of_burst feedsBack 0xFFFFFFFF sameLength differ
      withinBits
  rw [calcCrc32_eq_feed, calcCrc32_eq_feed]
  intro same
  exact registers (BitVec.not_inj.mp same)

/-! ## What the reader prints -/

/-- A warning is not lost when the files are written. -/
theorem mem_messages_of_mem_warnings
    {writable : String → Bool}
    {image : List Byte}
    {data : EepromLayout}
    {message : Message}
    (isRead : EepromLayout.read? image = some data)
    (warned : message ∈ warnings data) :
    message ∈ (hardwareInfo writable (some image)).messages := by
  have kept {filename : String} {content : List Byte} {before : InfoOutcome}
      (member : message ∈ before.messages) :
      message ∈ (writeFile writable filename content before).messages := by
    cases canWrite : writable ("/etc/deviceinfo/" ++ filename) with
    | false =>
        simp only [writeFile, canWrite, Bool.false_eq_true, ↓reduceIte]
        exact List.mem_append_left _ member
    | true =>
        simpa only [writeFile, canWrite, ↓reduceIte] using member
  simp only [hardwareInfo, isRead]
  exact kept (kept (kept (kept warned)))

/-- The reader compares the stored checksum with the one of the 62 bytes. -/
theorem reportsMismatch_iff
    (writable : String → Bool)
    {image : List Byte}
    (enough : EepromLayout.size ≤ image.length) :
    ReportsMismatch writable image ↔
      BitVec.ofNat 32 (networkOrder (slice image 0x42 4)) ≠
        calcCrc32 (slice image 0x04 62) := by
  obtain ⟨data, isRead⟩ := EepromLayout.read?_isSome enough
  have listed := EepromLayout.warnings_of_read? isRead
  constructor
  · rintro ⟨stored, calculated, member⟩ same
    rcases mem_messages_hardwareInfo isRead member with warned | own
    · rw [listed, same] at warned
      simp at warned
    · obtain ⟨path, isOwn⟩ := own
      cases isOwn
  · intro differ
    refine
      ⟨BitVec.ofNat 32 (networkOrder (slice image 0x42 4)),
        calcCrc32 (slice image 0x04 62),
        mem_messages_of_mem_warnings isRead ?_⟩
    rw [listed, if_pos differ]
    exact List.mem_append_right _ (List.mem_singleton_self _)

/-- The corrupted record is as long, and carries the same checksum. -/
theorem CorruptedByBurst.stored
    {sound corrupted : List Byte}
    (corruption : CorruptedByBurst sound corrupted)
    (enough : EepromLayout.size ≤ sound.length) :
    EepromLayout.size ≤ corrupted.length ∧
      slice corrupted 0x42 4 = slice sound 0x42 4 := by
  have sameBack := congrArg List.length corruption.back
  simp only [List.length_drop] at sameBack
  simp only [EepromLayout.size] at enough ⊢
  have long : 70 ≤ corrupted.length := by omega
  refine ⟨long, ?_⟩
  rw [slice, slice, corruption.back]

/--
Every burst of up to 32 wrong bits changes the checksum; when it hits the
checked bytes of a record that the reader does not complain about, the reader
complains.
-/
theorem detectsBursts :
    (∀ first second, Burst first second →
      calcCrc32 first ≠ calcCrc32 second) ∧
      ∀ writable sound corrupted,
        EepromLayout.size ≤ sound.length →
          ¬ ReportsMismatch writable sound →
            CorruptedByBurst sound corrupted →
              ReportsMismatch writable corrupted := by
  constructor
  · intro first second burst
    exact calcCrc32_ne_of_burst burst
  · intro writable sound corrupted enough silent corruption
    obtain ⟨long, sameStored⟩ := corruption.stored enough
    have matched :
        BitVec.ofNat 32 (networkOrder (slice sound 0x42 4)) =
          calcCrc32 (slice sound 0x04 62) := by
      by_contra differs
      exact silent ((reportsMismatch_iff writable enough).mpr differs)
    apply (reportsMismatch_iff writable long).mpr
    rw [sameStored, matched]
    exact calcCrc32_ne_of_burst corruption.burst

def blankBody : List Byte := List.replicate 62 0

/-- Wrong bits in five bytes, from the top of the first one on. -/
def wrongBody : List Byte :=
  List.replicate 10 0 ++ [0x80, 0, 0xFF, 0, 0x7F] ++ List.replicate 47 0

/-- A record with the magic number and the checksum of the empty body. -/
def recordWith (body : List Byte) : List Byte :=
  [0xDE, 0xAD, 0xBE, 0xEF] ++ body ++ [0x1D, 0x64, 0xA7, 0x61]

/-- The reader complains about the wrong bits. -/
theorem detectsBursts_of_wrongBody :
    calcCrc32 blankBody ≠ calcCrc32 wrongBody ∧
      ReportsMismatch (fun _ => true) (recordWith wrongBody) := by
  have sameOutside :
      ∀ position < 496,
        bitAt? blankBody position = bitAt? wrongBody position ∨
          87 ≤ position ∧ position < 87 + 32 := by
    decide +kernel
  have burst : Burst blankBody wrongBody := by
    refine ⟨rfl, by decide +kernel, 87, ?_⟩
    intro position differs
    rcases Nat.lt_or_ge position 496 with inside | beyond
    · exact (sameOutside position inside).resolve_left differs
    · have behind : 62 ≤ position / 8 :=
        (Nat.le_div_iff_mul_le (by decide)).mpr beyond
      refine absurd ?_ differs
      simp [bitAt?, blankBody, wrongBody, behind]
  have silent : ¬ ReportsMismatch (fun _ => true) (recordWith blankBody) := by
    rw [reportsMismatch_iff _ (by decide)]
    decide +kernel
  have detects := detectsBursts
  exact
    ⟨detects.1 _ _ burst,
      detects.2 _ _ _ (by decide) silent ⟨rfl, burst, rfl⟩⟩

end RecomputerGateway.Eeprom
