import RecomputerGateway.ForwarderSpi

namespace RecomputerGateway.ForwarderSpi

open SpiTransfer

/-!
# The split read of the SX1261

The header of a read is the op code, and for a register or a buffer also an
address, which the caller passes at the start of the result buffer.  The
rewritten version sends the header alone and receives behind the address; the
replaced one sent the whole buffer behind the op code.
-/

/-- The op codes whose reads have an address. -/
structure OpCodes where
  /-- `SX1261_READ_REGISTER`. -/
  readRegister : Byte
  /-- `SX1261_READ_BUFFER`. -/
  readBuffer : Byte

/-- `cmd_size` of the rewritten `sx1261_spi_r`. -/
def OpCodes.cmdSize (codes : OpCodes) (opCode : Byte) : Nat :=
  if opCode = codes.readRegister then 3
  else if opCode = codes.readBuffer then 2
  else 1

/-- `out_buf` of the rewritten `sx1261_spi_r`. -/
def OpCodes.outBuf
    (codes : OpCodes)
    (opCode : Byte)
    (data : List Byte) :
    List Byte :=
  if opCode = codes.readRegister then
    [opCode, data.getD 0 0, data.getD 1 0, 0]
  else if opCode = codes.readBuffer then [opCode, data.getD 0 0, 0, 0]
  else [opCode, 0, 0, 0]

/-- The value of an `int` in a `__u32`. -/
def toUint32 (value : Int) : Nat := (value % 4294967296).toNat

/-- The read of the SX1261. -/
def sx1261SpiR
    (codes : OpCodes)
    (opCode : Byte)
    (data : List Byte)
    (size : BitVec 16) :
    IoctlCall Region where
  memory
    | .outBuf => codes.outBuf opCode data
    | .inBuf => []
    | .data => data
    | .temp => []
  transfers :=
    [sendHeader (codes.cmdSize opCode),
      { txBuf := .integer 0
        rxBuf := .region .data (codes.cmdSize opCode - 1)
        len := toUint32 (size.toNat - codes.cmdSize opCode + 1) }]
  status := returnCode (size.toNat + 1)
  deliver memory := memory

/-- The read of the SX1261 before the patch; `inBuf` is uninitialized. -/
def replacedSx1261SpiR
    (opCode : Byte)
    (data : List Byte)
    (size : BitVec 16)
    (inBuf : List Byte) :
    IoctlCall Region where
  memory
    | .outBuf => opCode :: data.take size.toNat
    | .inBuf => inBuf
    | .data => data
    | .temp => []
  transfers := [sendAndReceive (toUint8 (1 + size.toNat))]
  status := returnCode (toUint8 (1 + size.toNat))
  deliver := copyToData 1 size.toNat

namespace OpCodes

variable (codes : OpCodes)
variable (opCode : Byte)

/-- The header of a read: the op code and the address. -/
def header (data : List Byte) : List Byte :=
  opCode :: data.take (codes.cmdSize opCode - 1)

theorem cmdSize_pos : 1 ≤ codes.cmdSize opCode := by
  unfold cmdSize
  split
  · decide
  · split <;> decide

/-- `out_buf` starts with the header. -/
theorem take_outBuf
    {data : List Byte}
    (fits : codes.cmdSize opCode - 1 ≤ data.length) :
    (codes.outBuf opCode data).take (codes.cmdSize opCode) =
      codes.header opCode data := by
  unfold header outBuf cmdSize at *
  by_cases isRegister : opCode = codes.readRegister
  · simp only [if_pos isRegister] at *
    match data, fits with
    | first :: second :: rest, _ =>
        rfl
  · by_cases isBuffer : opCode = codes.readBuffer
    · simp only [if_neg isRegister, if_pos isBuffer] at *
      match data, fits with
      | first :: rest, _ =>
          rfl
    · simp only [if_neg isRegister, if_neg isBuffer]
      rfl

theorem cmdSize_le_length_outBuf
    (data : List Byte) :
    codes.cmdSize opCode ≤ (codes.outBuf opCode data).length := by
  unfold outBuf cmdSize
  split
  · simp
  · split <;> simp

/-- The second transfer receives what is behind the address. -/
theorem toUint32_received
    {size : BitVec 16}
    (enough : codes.cmdSize opCode - 1 ≤ size.toNat) :
    toUint32 (size.toNat - codes.cmdSize opCode + 1) =
      size.toNat - (codes.cmdSize opCode - 1) := by
  have positive := codes.cmdSize_pos opCode
  have bound := size.isLt
  unfold toUint32
  omega

end OpCodes

section Results

variable (device : Device)
variable (codes : OpCodes)
variable (opCode : Byte)
variable {data inBuf : List Byte}
variable {size : BitVec 16}

/-- The rewritten read: what is clocked out and what is left in `data`. -/
theorem run?_sx1261SpiR
    (enough : codes.cmdSize opCode - 1 ≤ size.toNat)
    (fits : size.toNat ≤ data.length) :
    ∃ outcome,
      (sx1261SpiR codes opCode data size).run? device = some outcome ∧
        outcome.status = .success ∧
          outcome.clocked =
            codes.header opCode data ++
              List.replicate (size.toNat - (codes.cmdSize opCode - 1)) 0 ∧
            outcome.memory .data =
              overwrite data (codes.cmdSize opCode - 1)
                (replies device (codes.header opCode data)
                  (size.toNat - (codes.cmdSize opCode - 1))) := by
  have received := codes.toUint32_received opCode enough
  have positive := codes.cmdSize_pos opCode
  have outFits :
      codes.cmdSize opCode ≤
        ((sx1261SpiR codes opCode data size).memory .outBuf).length :=
    codes.cmdSize_le_length_outBuf opCode data
  have dataFits :
      codes.cmdSize opCode - 1 +
          toUint32 (size.toNat - codes.cmdSize opCode + 1) ≤
        ((sx1261SpiR codes opCode data size).memory .data).length := by
    rw [received]
    simp only [sx1261SpiR]
    omega
  have header := codes.take_outBuf opCode (Nat.le_trans enough fits)
  have sent := message?_split device _ outFits dataFits
  refine ⟨_, IoctlCall.run?_of_message? sent ?_, rfl, ?_, ?_⟩
  · simp only [sx1261SpiR, returnCode, received]
    rw [if_pos (by omega)]
  · simp only [sx1261SpiR, received, header]
    rfl
  · simp only [sx1261SpiR, received, header, Function.update_self]
    rfl

/-- The replaced read, as long as its length does not wrap. -/
theorem run?_replacedSx1261SpiR
    (small : size.toNat < 255)
    (fits : size.toNat ≤ data.length)
    (allocated : inBuf.length = 1 + size.toNat) :
    ∃ outcome,
      (replacedSx1261SpiR opCode data size inBuf).run? device =
          some outcome ∧
        outcome.status = .success ∧
          outcome.clocked = opCode :: data.take size.toNat ∧
            outcome.memory .data =
              overwrite data 0
                (device.exchange [opCode] (data.take size.toNat)) := by
  have noWrap : toUint8 (1 + size.toNat) = 1 + size.toNat :=
    Nat.mod_eq_of_lt (by omega)
  have dataLength : (data.take size.toNat).length = size.toNat :=
    List.length_take_of_le fits
  have outFits :
      toUint8 (1 + size.toNat) ≤
        ((replacedSx1261SpiR opCode data size inBuf).memory
          .outBuf).length := by
    rw [noWrap]
    simp only [replacedSx1261SpiR, List.length_cons, dataLength]
    omega
  have inFits :
      toUint8 (1 + size.toNat) ≤
        ((replacedSx1261SpiR opCode data size inBuf).memory
          .inBuf).length := by
    rw [noWrap]
    simp [replacedSx1261SpiR, allocated]
  have whole :
      (opCode :: data.take size.toNat).take (1 + size.toNat) =
        opCode :: data.take size.toNat :=
    List.take_of_length_le (by simp only [List.length_cons, dataLength]; omega)
  have received :
      ((overwrite inBuf 0
          (device.exchange [] (opCode :: data.take size.toNat))).drop 1).take
          size.toNat =
        device.exchange [opCode] (data.take size.toNat) := by
    have filled :
        inBuf.drop
            (0 + (device.exchange []
              (opCode :: data.take size.toNat)).length) =
          [] :=
      List.drop_of_length_le
        (by simp [allocated, dataLength, Nat.add_comm])
    rw [overwrite, filled, List.append_nil, List.take_zero]
    exact List.take_of_length_le (by simp [dataLength])
  have sent := message?_fullDuplex device _ outFits inFits
  refine ⟨_, IoctlCall.run?_of_message? sent ?_, rfl, ?_, ?_⟩
  · simp [replacedSx1261SpiR, returnCode]
  · simp only [replacedSx1261SpiR, noWrap, whole]
  · simp only [replacedSx1261SpiR, noWrap, whole, copyToData,
      Function.update_self, received]
    rfl

end Results

/--
What the rewritten read does for every size, and how it agrees with the
replaced one as long as the length of the replaced transfer does not wrap.
-/
structure ReadsLikeReplaced
    (device : Device)
    (codes : OpCodes)
    (opCode : Byte)
    (data : List Byte)
    (size : BitVec 16)
    (after : Outcome Region) :
    Prop where
  /-- The op code and the address are clocked out first. -/
  header :
    after.clocked.take (codes.cmdSize opCode) = codes.header opCode data
  total : after.clocked.length = size.toNat + 1
  request :
    (after.memory .data).take (codes.cmdSize opCode - 1) =
      data.take (codes.cmdSize opCode - 1)
  /-- The replies to the header are stored behind the address. -/
  received :
    ((after.memory .data).take size.toNat).drop (codes.cmdSize opCode - 1) =
      replies device (codes.header opCode data)
        (size.toNat - (codes.cmdSize opCode - 1))
  replaced :
    size.toNat < 255 →
      ∀ inBuf : List Byte,
        inBuf.length = 1 + size.toNat →
          ∃ before,
            (replacedSx1261SpiR opCode data size inBuf).run? device =
                some before ∧
              before.status = .success ∧
                before.clocked.take (codes.cmdSize opCode) =
                    after.clocked.take (codes.cmdSize opCode) ∧
                  before.clocked.length = after.clocked.length ∧
                    (∀ a,
                      (replacedSx1261SpiR opCode data size inBuf).status a =
                        (sx1261SpiR codes opCode data size).status a) ∧
                      ((before.memory .data).take size.toNat).drop
                          (codes.cmdSize opCode - 1) =
                        ((after.memory .data).take size.toNat).drop
                          (codes.cmdSize opCode - 1)

/-- The rewritten read of the SX1261 against the replaced one. -/
theorem sx1261SpiR_readsLikeReplaced
    (device : Device)
    (codes : OpCodes)
    (opCode : Byte)
    {data : List Byte}
    {size : BitVec 16}
    (enough : codes.cmdSize opCode - 1 ≤ size.toNat)
    (fits : size.toNat ≤ data.length)
    (headerOnly : device.HeaderOnly (codes.cmdSize opCode)) :
    ∃ after,
      (sx1261SpiR codes opCode data size).run? device = some after ∧
        after.status = .success ∧
          ReadsLikeReplaced device codes opCode data size after := by
  obtain ⟨after, ranAfter, successAfter, clockedAfter, dataAfter⟩ :=
    run?_sx1261SpiR device codes opCode enough fits
  have positive := codes.cmdSize_pos opCode
  have headerLength :
      (codes.header opCode data).length = codes.cmdSize opCode := by
    simp only [OpCodes.header, List.length_cons, List.length_take]
    omega
  have received :
      ((after.memory .data).take size.toNat).drop
          (codes.cmdSize opCode - 1) =
        replies device (codes.header opCode data)
          (size.toNat - (codes.cmdSize opCode - 1)) := by
    have placed :=
      drop_take_overwrite data
        (replies device (codes.header opCode data)
          (size.toNat - (codes.cmdSize opCode - 1)))
        (Nat.le_trans enough fits)
    rw [← dataAfter] at placed
    rw [List.drop_take]
    simpa [replies] using placed
  have headerAfter :
      after.clocked.take (codes.cmdSize opCode) =
        codes.header opCode data := by
    rw [clockedAfter, ← headerLength, List.take_left' rfl]
  have totalAfter : after.clocked.length = size.toNat + 1 := by
    rw [clockedAfter, List.length_append, headerLength,
      List.length_replicate]
    omega
  refine
    ⟨after, ranAfter, successAfter,
      { header := headerAfter, total := totalAfter, request := ?_,
        received := received, replaced := ?_ }⟩
  · rw [dataAfter]
    exact take_overwrite (Nat.le_trans enough fits)
  · intro small inBuf allocated
    obtain ⟨before, ranBefore, successBefore, clockedBefore, dataBefore⟩ :=
      run?_replacedSx1261SpiR device opCode small fits allocated
    have dataLength : (data.take size.toNat).length = size.toNat :=
      List.length_take_of_le fits
    have address :
        (data.take size.toNat).take (codes.cmdSize opCode - 1) =
          data.take (codes.cmdSize opCode - 1) := by
      rw [List.take_take, Nat.min_eq_left enough]
    refine ⟨before, ranBefore, successBefore, ?_, ?_, ?_, ?_⟩
    · rw [clockedBefore, headerAfter, OpCodes.header,
        List.take_cons positive, address]
    · rw [clockedBefore, totalAfter, List.length_cons, dataLength]
    · intro a
      have noWrap : toUint8 (1 + size.toNat) = size.toNat + 1 := by
        unfold toUint8
        omega
      simp only [replacedSx1261SpiR, sx1261SpiR, noWrap]
    · rw [received, dataBefore]
      have copied :=
        drop_take_overwrite data
          (device.exchange [opCode] (data.take size.toNat))
          (Nat.zero_le data.length)
      rw [List.drop_zero, Device.length_exchange, dataLength] at copied
      rw [copied, ← List.take_append_drop (codes.cmdSize opCode - 1)
        (data.take size.toNat), Device.exchange_append, address]
      rw [List.drop_left' (by
        rw [Device.length_exchange, List.length_take]; omega)]
      -- What the replaced version clocked out behind the header is dropped.
      exact headerOnly.exchange_eq (Nat.le_of_eq headerLength.symm)
        (by simp [fits])

/-- A read of a register of two bytes. -/
theorem sx1261SpiR_readsLikeReplaced_register :
    ∃ after,
      (sx1261SpiR { readRegister := 0x1D, readBuffer := 0x1E } 0x1D
          [0x08, 0xAC, 0, 0] 4).run? radio =
          some after ∧
        after.status = .success ∧
          ReadsLikeReplaced radio
            { readRegister := 0x1D, readBuffer := 0x1E } 0x1D
            [0x08, 0xAC, 0, 0] 4 after :=
  sx1261SpiR_readsLikeReplaced radio _ 0x1D (by decide) (by decide)
    (radio_headerOnly _)

/-- With 255 bytes the length of the replaced transfer wraps to zero. -/
theorem sx1261_replaced_clocks_nothing :
    ¬ ∀ (device : Device) (codes : OpCodes) (opCode : Byte)
        (data inBuf : List Byte) (size : BitVec 16),
        codes.cmdSize opCode - 1 ≤ size.toNat →
          size.toNat ≤ data.length →
            inBuf.length = 1 + size.toNat →
              device.HeaderOnly (codes.cmdSize opCode) →
                ∀ after before,
                  (sx1261SpiR codes opCode data size).run? device =
                      some after →
                    (replacedSx1261SpiR opCode data size inBuf).run? device =
                        some before →
                      before.clocked.length = after.clocked.length := by
  intro agrees
  let codes : OpCodes := { readRegister := 0x1D, readBuffer := 0x1E }
  obtain ⟨data, isData⟩ :
      ∃ data : List Byte, data = List.replicate 255 0 :=
    ⟨_, rfl⟩
  obtain ⟨inBuf, isInBuf⟩ :
      ∃ inBuf : List Byte, inBuf = List.replicate 256 0 :=
    ⟨_, rfl⟩
  have clocked :
      ((sx1261SpiR codes 0x12 data 255).run? radio).map
            (fun after => after.clocked.length) =
          some 256 ∧
        ((replacedSx1261SpiR 0x12 data 255 inBuf).run? radio).map
            (fun before => before.clocked.length) =
          some 0 := by
    rw [isData, isInBuf]
    decide +kernel
  obtain ⟨after, ranAfter, afterLength⟩ := Option.map_eq_some_iff.mp clocked.1
  obtain ⟨before, ranBefore, beforeLength⟩ :=
    Option.map_eq_some_iff.mp clocked.2
  have same :=
    agrees radio codes 0x12 data inBuf 255 (by decide)
      (Nat.le_of_eq (by rw [isData, List.length_replicate]; rfl))
      (by rw [isInBuf, List.length_replicate]; rfl)
      (radio_headerOnly _) after before ranAfter ranBefore
  omega

end RecomputerGateway.ForwarderSpi
