import RecomputerGateway.SpiTransfer

namespace RecomputerGateway.ForwarderSpi

open SpiTransfer

/-!
# The split reads of the radios

The patch replaces the single full-duplex transfer of a register read by two
transfers: one that only sends the header and one that only receives.  Both
versions are embedded here, the one before the patch as `replaced...`.
-/

/-- The buffers of a read: two local arrays, the result and a local byte. -/
inductive Region where
  | outBuf
  | inBuf
  | data
  | temp
  deriving DecidableEq

/-- `cmd_size` of `sx1250_spi_r` and `sx125x_spi_r`. -/
def cmdSize : Nat := 2

/-- The value of an `int` in a `uint8_t`. -/
def toUint8 (value : Nat) : Nat := value % 256

/-- The functions succeed when `ioctl` returns the expected length. -/
def returnCode (expected : Nat) (a : Int) : Status :=
  if a = expected then .success else .error

/-- `memcpy(data, in_buf + offset, size)`. -/
def copyToData
    (offset size : Nat)
    (memory : Memory Region) :
    Memory Region :=
  Function.update memory .data
    (overwrite (memory .data) 0 (((memory .inBuf).drop offset).take size))

/-- The first transfer sends a header from `out_buf`. -/
def sendHeader (len : Nat) : Transfer Region where
  txBuf := .region .outBuf 0
  rxBuf := .integer 0
  len := len

/-- The only transfer of the replaced versions. -/
def sendAndReceive (len : Nat) : Transfer Region where
  txBuf := .region .outBuf 0
  rxBuf := .region .inBuf 0
  len := len

/-- The read of the SX1250. -/
def sx1250SpiR
    (spiMuxTarget opCode : Byte)
    (data : List Byte)
    (size : BitVec 16) :
    IoctlCall Region where
  memory
    | .outBuf => [spiMuxTarget, opCode]
    | .inBuf => []
    | .data => data
    | .temp => []
  transfers :=
    [sendHeader cmdSize,
      { txBuf := .integer 0, rxBuf := .region .data 0, len := size.toNat }]
  status := returnCode (size.toNat + cmdSize)
  deliver memory := memory

/-- The read of the SX1250 before the patch; `inBuf` is uninitialized. -/
def replacedSx1250SpiR
    (spiMuxTarget opCode : Byte)
    (data : List Byte)
    (size : BitVec 16)
    (inBuf : List Byte) :
    IoctlCall Region where
  memory
    | .outBuf => spiMuxTarget :: opCode :: data.take size.toNat
    | .inBuf => inBuf
    | .data => data
    | .temp => []
  transfers := [sendAndReceive (toUint8 (cmdSize + size.toNat))]
  status := returnCode (toUint8 (cmdSize + size.toNat))
  deliver := copyToData cmdSize size.toNat

/-- `out_buf[1]` of a read of the SX125x. -/
def sx125xAddress (readAccess address : Byte) : Byte :=
  readAccess ||| (address &&& 0x7F)

/-- `temp` of `sx125x_spi_r` when the message is prepared. -/
def initialTemp : Byte := 0

/-- The read of the SX125x.  The receive buffer is `temp`, not `&temp`. -/
def sx125xSpiR
    (readAccess spiMuxTarget address data : Byte) :
    IoctlCall Region where
  memory
    | .outBuf => [spiMuxTarget, sx125xAddress readAccess address]
    | .inBuf => []
    | .data => [data]
    | .temp => [initialTemp]
  transfers :=
    [sendHeader cmdSize,
      { txBuf := .integer 0, rxBuf := .integer initialTemp.toNat, len := 1 }]
  status := returnCode (1 + cmdSize)
  deliver memory :=
    Function.update memory .data
      (overwrite (memory .data) 0 (memory .temp))

/-- The read of the SX125x before the patch. -/
def replacedSx125xSpiR
    (readAccess spiMuxTarget address data : Byte)
    (inBuf : List Byte) :
    IoctlCall Region where
  memory
    | .outBuf => [spiMuxTarget, sx125xAddress readAccess address, 0]
    | .inBuf => inBuf
    | .data => [data]
    | .temp => []
  transfers := [sendAndReceive 3]
  status := returnCode 3
  deliver := copyToData 2 1

/-- Whenever both calls succeed, they leave the same bytes in `*data`. -/
def SameData
    (rewritten replaced : IoctlCall Region)
    (device : Device) :
    Prop :=
  ∀ after before,
    rewritten.run? device = some after →
      replaced.run? device = some before →
        after.status = .success →
          before.status = .success →
            after.memory .data = before.memory .data

/-- For calls that succeed it is about their two results. -/
theorem sameData_iff
    {rewritten replaced : IoctlCall Region}
    {device : Device}
    {after before : Outcome Region}
    (ranAfter : rewritten.run? device = some after)
    (ranBefore : replaced.run? device = some before)
    (successAfter : after.status = .success)
    (successBefore : before.status = .success) :
    SameData rewritten replaced device ↔
      after.memory .data = before.memory .data := by
  constructor
  · intro same
    exact same after before ranAfter ranBefore successAfter successBefore
  · intro same other another ranOther ranAnother _ _
    cases ranAfter.symm.trans ranOther
    cases ranBefore.symm.trans ranAnother
    exact same

/-- The same bytes are written exactly when the same result is left. -/
theorem overwrite_inj
    {content first second : List Byte}
    (sameLength : first.length = second.length) :
    overwrite content 0 first = overwrite content 0 second ↔
      first = second := by
  constructor
  · intro same
    simp only [overwrite, List.take_zero, List.nil_append, Nat.zero_add,
      sameLength] at same
    exact List.append_cancel_right same
  · rintro rfl
    rfl

/-! ## The results of the two versions -/

section Results

variable (device : Device)
variable (spiMuxTarget opCode readAccess address : Byte)
variable {data inBuf : List Byte}
variable {size : BitVec 16}

/-- What the device replies to a header, byte for byte. -/
def replies (header : List Byte) (count : Nat) : List Byte :=
  device.exchange header (List.replicate count 0)

/-- The split read stores the replies to its header. -/
theorem run?_sx1250SpiR
    (fits : size.toNat ≤ data.length) :
    ∃ outcome,
      (sx1250SpiR spiMuxTarget opCode data size).run? device = some outcome ∧
        outcome.status = .success ∧
          outcome.memory .data =
            overwrite data 0
              (replies device [spiMuxTarget, opCode] size.toNat) := by
  have outFits :
      cmdSize ≤
        ((sx1250SpiR spiMuxTarget opCode data size).memory
          .outBuf).length :=
    Nat.le_refl 2
  have dataFits :
      0 + size.toNat ≤
        ((sx1250SpiR spiMuxTarget opCode data size).memory
          .data).length := by
    simpa [sx1250SpiR] using fits
  have sent := message?_split device _ outFits dataFits
  refine ⟨_, IoctlCall.run?_of_message? sent ?_, rfl, ?_⟩
  · simp [sx1250SpiR, returnCode, Int.add_comm]
  · simp [sx1250SpiR, cmdSize, replies]

/-- What the replaced read leaves in `in_buf`. -/
def received (spiMuxTarget opCode : Byte) (data inBuf : List Byte)
    (size : BitVec 16) : List Byte :=
  overwrite inBuf 0
    (device.exchange []
      ((spiMuxTarget :: opCode :: data.take size.toNat).take
        (toUint8 (cmdSize + size.toNat))))

/-- The replaced read copies from `in_buf`, behind the header. -/
theorem run?_replacedSx1250SpiR
    (fits : size.toNat ≤ data.length)
    (allocated : inBuf.length = cmdSize + size.toNat) :
    ∃ outcome,
      (replacedSx1250SpiR spiMuxTarget opCode data size inBuf).run? device =
          some outcome ∧
        outcome.status = .success ∧
          outcome.memory .data =
            overwrite data 0
              (((received device spiMuxTarget opCode data inBuf
                size).drop cmdSize).take size.toNat) := by
  have wraps :
      toUint8 (cmdSize + size.toNat) ≤ cmdSize + size.toNat :=
    Nat.mod_le _ _
  have outFits :
      toUint8 (cmdSize + size.toNat) ≤
        ((replacedSx1250SpiR spiMuxTarget opCode data size inBuf).memory
          .outBuf).length := by
    simp only [replacedSx1250SpiR, List.length_cons, List.length_take,
      Nat.min_eq_left fits]
    unfold cmdSize at *
    omega
  have inFits :
      toUint8 (cmdSize + size.toNat) ≤
        ((replacedSx1250SpiR spiMuxTarget opCode data size inBuf).memory
          .inBuf).length := by
    simpa [replacedSx1250SpiR, allocated] using wraps
  have sent := message?_fullDuplex device _ outFits inFits
  refine ⟨_, IoctlCall.run?_of_message? sent ?_, rfl, ?_⟩
  · simp [replacedSx1250SpiR, returnCode]
  · simp [replacedSx1250SpiR, copyToData, received]

/-- The split read stores nothing: its receive buffer is null. -/
theorem run?_sx125xSpiR
    (content : Byte) :
    ∃ outcome,
      (sx125xSpiR readAccess spiMuxTarget address content).run? device =
          some outcome ∧
        outcome.status = .success ∧ outcome.memory .data = [0] :=
  ⟨_, rfl, rfl, rfl⟩

/-- The replaced read stores the reply behind the header. -/
theorem run?_replacedSx125xSpiR
    (content : Byte)
    (allocated : inBuf.length = 3) :
    ∃ outcome,
      (replacedSx125xSpiR readAccess spiMuxTarget address content
            inBuf).run? device =
          some outcome ∧
        outcome.status = .success ∧
          outcome.memory .data =
            [device.reply
              [spiMuxTarget, sx125xAddress readAccess address]] := by
  have outFits :
      3 ≤
        ((replacedSx125xSpiR readAccess spiMuxTarget address content
          inBuf).memory .outBuf).length :=
    Nat.le_refl 3
  have inFits :
      3 ≤
        ((replacedSx125xSpiR readAccess spiMuxTarget address content
          inBuf).memory .inBuf).length := by
    simp [replacedSx125xSpiR, allocated]
  have sent := message?_fullDuplex device _ outFits inFits
  refine ⟨_, IoctlCall.run?_of_message? sent rfl, rfl, ?_⟩
  simp [replacedSx125xSpiR, copyToData, Device.exchange, overwrite]

theorem length_received
    (allocated : inBuf.length = cmdSize + size.toNat) :
    (received device spiMuxTarget opCode data inBuf size).length =
      cmdSize + size.toNat := by
  have wraps :
      toUint8 (cmdSize + size.toNat) ≤ cmdSize + size.toNat :=
    Nat.mod_le _ _
  rw [received, length_overwrite, allocated]
  rw [Device.length_exchange, allocated, Nat.zero_add]
  exact Nat.le_trans (List.length_take_le _ _) wraps

/-- Up to 253 bytes the length fits, and `in_buf` holds the replies. -/
theorem received_of_small
    (small : size.toNat < 254)
    (fits : size.toNat ≤ data.length)
    (allocated : inBuf.length = cmdSize + size.toNat)
    (headerOnly : device.HeaderOnly cmdSize) :
    ((received device spiMuxTarget opCode data inBuf size).drop
        cmdSize).take size.toNat =
      replies device [spiMuxTarget, opCode] size.toNat := by
  have noWrap :
      toUint8 (cmdSize + size.toNat) = cmdSize + size.toNat :=
    Nat.mod_eq_of_lt (by unfold cmdSize; omega)
  have dataLength : (data.take size.toNat).length = size.toNat :=
    List.length_take_of_le fits
  have sent :
      (spiMuxTarget :: opCode :: data.take size.toNat).take
          (cmdSize + size.toNat) =
        [spiMuxTarget, opCode] ++ data.take size.toNat :=
    List.take_of_length_le (by simp [cmdSize]; omega)
  have whole :
      received device spiMuxTarget opCode data inBuf size =
        device.exchange [] [spiMuxTarget, opCode] ++
          device.exchange [spiMuxTarget, opCode] (data.take size.toNat) := by
    rw [received, noWrap, sent, Device.exchange_append, overwrite]
    simp [allocated, cmdSize, dataLength]
  have dropped :
      (received device spiMuxTarget opCode data inBuf size).drop cmdSize =
        device.exchange [spiMuxTarget, opCode] (data.take size.toNat) := by
    rw [whole]
    exact List.drop_left' (by simp [cmdSize])
  rw [dropped, List.take_of_length_le (by simp [dataLength]), replies]
  exact headerOnly.exchange_eq (Nat.le_refl 2) (by simp [dataLength])

/-- From 254 bytes on the end of `in_buf` stays as it was. -/
theorem received_of_large
    (data : List Byte)
    (large : 254 ≤ size.toNat)
    (allocated : inBuf.length = cmdSize + size.toNat) :
    (((received device spiMuxTarget opCode data inBuf size).drop
        cmdSize).take size.toNat)[size.toNat - 1]? =
      inBuf[size.toNat + 1]? := by
  have short :
      toUint8 (cmdSize + size.toNat) < 256 :=
    Nat.mod_lt _ (by decide)
  have exchanged :
      (device.exchange []
        ((spiMuxTarget :: opCode :: data.take size.toNat).take
          (toUint8 (cmdSize + size.toNat)))).length ≤
        size.toNat + 1 := by
    rw [Device.length_exchange]
    exact Nat.le_trans (List.length_take_le _ _) (by omega)
  have position : cmdSize + (size.toNat - 1) = size.toNat + 1 := by
    unfold cmdSize
    omega
  rw [List.getElem?_take_of_lt (by omega), List.getElem?_drop, position,
    received, overwrite, List.take_zero, List.nil_append,
    List.getElem?_append_right exchanged, List.getElem?_drop]
  congr 1
  omega

end Results

/-- The split read of the SX1250 agrees as long as the replaced one works. -/
theorem sx1250_agrees_iff
    (device : Device)
    (spiMuxTarget opCode : Byte)
    {data : List Byte}
    {size : BitVec 16}
    (fits : size.toNat ≤ data.length)
    (headerOnly : device.HeaderOnly cmdSize) :
    (∀ inBuf : List Byte,
        inBuf.length = cmdSize + size.toNat →
          SameData (sx1250SpiR spiMuxTarget opCode data size)
            (replacedSx1250SpiR spiMuxTarget opCode data size inBuf)
            device) ↔
      size.toNat < 254 := by
  obtain ⟨after, ranAfter, successAfter, dataAfter⟩ :=
    run?_sx1250SpiR device spiMuxTarget opCode fits
  have agrees_iff
      {inBuf : List Byte}
      (allocated : inBuf.length = cmdSize + size.toNat) :
      SameData (sx1250SpiR spiMuxTarget opCode data size)
          (replacedSx1250SpiR spiMuxTarget opCode data size inBuf) device ↔
        replies device [spiMuxTarget, opCode] size.toNat =
          ((received device spiMuxTarget opCode data inBuf
            size).drop cmdSize).take size.toNat := by
    obtain ⟨before, ranBefore, successBefore, dataBefore⟩ :=
      run?_replacedSx1250SpiR device spiMuxTarget opCode fits allocated
    rw [sameData_iff ranAfter ranBefore successAfter successBefore,
      dataAfter, dataBefore]
    apply overwrite_inj
    rw [List.length_take, List.length_drop,
      length_received device spiMuxTarget opCode allocated]
    simp [replies, cmdSize]
  constructor
  · intro agrees
    by_contra large
    have repliesLength :
        (replies device [spiMuxTarget, opCode] size.toNat).length =
          size.toNat := by
      simp [replies]
    have lastIndex :
        size.toNat - 1 <
          (replies device [spiMuxTarget, opCode] size.toNat).length := by
      omega
    -- The last byte of an uninitialized `in_buf` differs from the last reply.
    let last :=
      (replies device [spiMuxTarget, opCode] size.toNat)[size.toNat - 1]
    have allocated :
        (List.replicate (cmdSize + size.toNat) (last + 1)).length =
          cmdSize + size.toNat :=
      List.length_replicate
    have same := (agrees_iff allocated).mp (agrees _ allocated)
    have atEnd :=
      received_of_large device spiMuxTarget opCode data
        (Nat.le_of_not_lt large) allocated
    rw [← same, List.getElem?_eq_getElem lastIndex,
      List.getElem?_replicate_of_lt (by unfold cmdSize; omega)] at atEnd
    have impossible : last = last + 1 := Option.some.inj atEnd
    bv_omega
  · intro small inBuf allocated
    rw [agrees_iff allocated]
    exact (received_of_small device spiMuxTarget opCode small fits allocated
      headerOnly).symm

/-- The split read of the SX125x agrees when the reply is zero. -/
theorem sx125x_agrees_iff
    (device : Device)
    (readAccess spiMuxTarget address content : Byte) :
    (∀ inBuf : List Byte,
        inBuf.length = 3 →
          SameData (sx125xSpiR readAccess spiMuxTarget address content)
            (replacedSx125xSpiR readAccess spiMuxTarget address content
              inBuf)
            device) ↔
      device.reply [spiMuxTarget, sx125xAddress readAccess address] = 0 := by
  obtain ⟨after, ranAfter, successAfter, dataAfter⟩ :=
    run?_sx125xSpiR device spiMuxTarget readAccess address content
  have agrees_iff
      {inBuf : List Byte}
      (allocated : inBuf.length = 3) :
      SameData (sx125xSpiR readAccess spiMuxTarget address content)
          (replacedSx125xSpiR readAccess spiMuxTarget address content inBuf)
          device ↔
        device.reply [spiMuxTarget, sx125xAddress readAccess address] = 0 := by
    obtain ⟨before, ranBefore, successBefore, dataBefore⟩ :=
      run?_replacedSx125xSpiR device spiMuxTarget readAccess address content
        allocated
    rw [sameData_iff ranAfter ranBefore successAfter successBefore,
      dataAfter, dataBefore, List.cons.injEq, eq_comm]
    simp
  constructor
  · intro agrees
    have allocated : [0, 0, (0 : Byte)].length = 3 := rfl
    exact (agrees_iff allocated).mp (agrees _ allocated)
  · intro isZero inBuf allocated
    exact (agrees_iff allocated).mpr isZero

/--
When the split reads preserve what is left in `*data`: the SX1250 as long as
the length of the replaced transfer fits into its `uint8_t`, the SX125x when
the register holds zero.
-/
theorem splitReads_agree_iff
    (device : Device)
    (readAccess spiMuxTarget opCode address content : Byte)
    {data : List Byte}
    {size : BitVec 16}
    (fits : size.toNat ≤ data.length)
    (headerOnly : device.HeaderOnly cmdSize) :
    ((∀ inBuf : List Byte,
        inBuf.length = cmdSize + size.toNat →
          SameData (sx1250SpiR spiMuxTarget opCode data size)
            (replacedSx1250SpiR spiMuxTarget opCode data size inBuf)
            device) ↔
      size.toNat < 254) ∧
      ((∀ inBuf : List Byte,
          inBuf.length = 3 →
            SameData (sx125xSpiR readAccess spiMuxTarget address content)
              (replacedSx125xSpiR readAccess spiMuxTarget address content
                inBuf)
              device) ↔
        device.reply [spiMuxTarget, sx125xAddress readAccess address] = 0) :=
  ⟨sx1250_agrees_iff device spiMuxTarget opCode fits headerOnly,
    sx125x_agrees_iff device readAccess spiMuxTarget address content⟩

/-- A radio whose registers all hold 0x21. -/
def radio : Device where
  reply _ := 0x21

theorem radio_headerOnly (header : Nat) : radio.HeaderOnly header :=
  fun _ _ _ _ => rfl

/-- One byte of the SX1250, and the version register of the SX125x. -/
theorem splitReads_agree_iff_radio :
    ((∀ inBuf : List Byte,
        inBuf.length = cmdSize + (1 : BitVec 16).toNat →
          SameData (sx1250SpiR 1 0xC0 [0] 1)
            (replacedSx1250SpiR 1 0xC0 [0] 1 inBuf) radio) ↔
      (1 : BitVec 16).toNat < 254) ∧
      ((∀ inBuf : List Byte,
          inBuf.length = 3 →
            SameData (sx125xSpiR 0 1 0x07 0)
              (replacedSx125xSpiR 0 1 0x07 0 inBuf) radio) ↔
        radio.reply [1, sx125xAddress 0 0x07] = 0) :=
  splitReads_agree_iff radio 0 1 0xC0 0x07 0
    (by decide : (1 : BitVec 16).toNat ≤ [(0 : Byte)].length)
    (radio_headerOnly cmdSize)

/-- The SX125x: the replaced version reads 0x21, the split read zero. -/
theorem splitReads_disagree :
    ¬ ∀ (device : Device) (readAccess spiMuxTarget address content : Byte)
        (inBuf : List Byte),
        device.HeaderOnly cmdSize →
          inBuf.length = 3 →
            SameData (sx125xSpiR readAccess spiMuxTarget address content)
              (replacedSx125xSpiR readAccess spiMuxTarget address content
                inBuf)
              device := by
  intro agrees
  have zero :=
    (sx125x_agrees_iff radio 0 2 0x07 0).mp
      fun inBuf allocated =>
        agrees radio 0 2 0x07 0 inBuf (radio_headerOnly cmdSize) allocated
  exact absurd zero (by decide)

end RecomputerGateway.ForwarderSpi
