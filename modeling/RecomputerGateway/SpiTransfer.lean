import Mathlib.Data.List.TakeDrop
import Mathlib.Logic.Function.Basic

namespace RecomputerGateway.SpiTransfer

/-!
# Transfers over a serial peripheral bus

A message of `spidev` is a list of transfers under one chip select.  The bus
is full duplex: with every byte that is clocked out one byte comes back.  A
transfer names its two buffers by addresses, and the address zero stands for
no buffer: zeros are sent, or what comes back is discarded.

Nothing here refers to a particular program.
-/

abbrev Byte := BitVec 8

/-! ## The device -/

/-- The byte that comes back when these bytes have been clocked out before. -/
structure Device where
  reply : List Byte → Byte

namespace Device

/-- What comes back while bytes are clocked out, behind earlier ones. -/
def exchange (device : Device) : List Byte → List Byte → List Byte
  | _, [] => []
  | before, byte :: rest =>
      device.reply before :: device.exchange (before ++ [byte]) rest

/-- The replies depend on the first bytes and on how many have followed. -/
def HeaderOnly (device : Device) (header : Nat) : Prop :=
  ∀ first second : List Byte,
    first.length = second.length →
      first.take header = second.take header →
        device.reply first = device.reply second

@[simp] theorem length_exchange
    (device : Device)
    (before bytes : List Byte) :
    (device.exchange before bytes).length = bytes.length := by
  induction bytes generalizing before with
  | nil =>
      rfl
  | cons byte rest inductionHypothesis =>
      simp [exchange, inductionHypothesis]

/-- Two portions are exchanged one behind the other. -/
theorem exchange_append
    (device : Device)
    (before first second : List Byte) :
    device.exchange before (first ++ second) =
      device.exchange before first ++
        device.exchange (before ++ first) second := by
  induction first generalizing before with
  | nil =>
      simp [exchange]
  | cons byte rest inductionHypothesis =>
      simp [exchange, inductionHypothesis]

/-- Behind the header it does not matter what is clocked out. -/
theorem HeaderOnly.exchange_eq
    {device : Device}
    {header : Nat}
    (headerOnly : device.HeaderOnly header)
    {before first second : List Byte}
    (behindHeader : header ≤ before.length)
    (sameLength : first.length = second.length) :
    device.exchange before first = device.exchange before second := by
  have general
      (earlier later : List Byte)
      (earlierLength : earlier.length = later.length)
      (earlierHeader : earlier.take header = later.take header)
      (behind : header ≤ earlier.length) :
      device.exchange earlier first = device.exchange later second := by
    induction first generalizing earlier later second with
    | nil =>
        cases second with
        | nil =>
            rfl
        | cons byte rest =>
            contradiction
    | cons byte rest inductionHypothesis =>
        cases second with
        | nil =>
            contradiction
        | cons other others =>
            have here :=
              headerOnly earlier later earlierLength earlierHeader
            have behindLater : header ≤ later.length := by
              omega
            have further :
                device.exchange (earlier ++ [byte]) rest =
                  device.exchange (later ++ [other]) others := by
              apply inductionHypothesis
              · simpa using sameLength
              · simp [earlierLength]
              · rw [List.take_append_of_le_length behind,
                  List.take_append_of_le_length behindLater, earlierHeader]
              · simp only [List.length_append, List.length_singleton]
                omega
            simp only [exchange, here, further]
  exact general before before rfl rfl behindHeader

end Device

/-! ## Buffers and addresses -/

/-- The buffers that a program can point into, with their contents. -/
abbrev Memory (Region : Type) := Region → List Byte

/-- An address as the kernel gets it, in an integer. -/
inductive Address (Region : Type) where
  /-- An integer that is not the address of a buffer; zero is null. -/
  | integer (value : Nat)
  | region (region : Region) (offset : Nat)
  deriving DecidableEq

/-- Replace what stands from an offset on. -/
def overwrite
    (content : List Byte)
    (offset : Nat)
    (bytes : List Byte) :
    List Byte :=
  content.take offset ++ bytes ++ content.drop (offset + bytes.length)

@[simp] theorem length_overwrite
    {content bytes : List Byte}
    {offset : Nat}
    (fits : offset + bytes.length ≤ content.length) :
    (overwrite content offset bytes).length = content.length := by
  simp only [overwrite, List.length_append, List.length_take,
    List.length_drop]
  omega

/-- What stands in front of the offset stays. -/
theorem take_overwrite
    {content bytes : List Byte}
    {offset : Nat}
    (fits : offset ≤ content.length) :
    (overwrite content offset bytes).take offset = content.take offset := by
  rw [overwrite, List.append_assoc,
    List.take_left' (by simp [fits])]

/-- The new bytes stand at the offset. -/
theorem drop_take_overwrite
    (content bytes : List Byte)
    {offset : Nat}
    (fits : offset ≤ content.length) :
    ((overwrite content offset bytes).drop offset).take bytes.length =
      bytes := by
  rw [overwrite, List.append_assoc,
    List.drop_left' (by simp [fits]), List.take_left' rfl]

section Message

variable {Region : Type}

/-- The bytes that a transfer sends; an invalid address is an error. -/
def read?
    (memory : Memory Region) :
    Address Region → Nat → Option (List Byte)
  | .integer 0, len => some (List.replicate len 0#8)
  | .integer (_ + 1), _ => none
  | .region region offset, len =>
      if offset + len ≤ (memory region).length then
        some (((memory region).drop offset).take len)
      else none

variable [DecidableEq Region]

/-- Store what a transfer receives; an invalid address is an error. -/
def write?
    (memory : Memory Region) :
    Address Region → List Byte → Option (Memory Region)
  | .integer 0, _ => some memory
  | .integer (_ + 1), _ => none
  | .region region offset, bytes =>
      if offset + bytes.length ≤ (memory region).length then
        some
          (Function.update memory region
            (overwrite (memory region) offset bytes))
      else none

/-- `struct spi_ioc_transfer`, with `cs_change` zero. -/
structure Transfer (Region : Type) where
  txBuf : Address Region
  rxBuf : Address Region
  len : Nat

/-- All that the transfers of a message send. -/
def transmit?
    (memory : Memory Region) :
    List (Transfer Region) → Option (List Byte)
  | [] => some []
  | transfer :: rest =>
      match read? memory transfer.txBuf transfer.len with
      | none => none
      | some bytes => (transmit? memory rest).map (bytes ++ ·)

/-- Distribute what has come back over the transfers. -/
def receive? :
    Memory Region → List (Transfer Region) → List Byte →
      Option (Memory Region)
  | memory, [], _ => some memory
  | memory, transfer :: rest, received =>
      match write? memory transfer.rxBuf (received.take transfer.len) with
      | none => none
      | some written => receive? written rest (received.drop transfer.len)

/-- The sum of the lengths. -/
def totalLength : List (Transfer Region) → Nat
  | [] => 0
  | transfer :: rest => transfer.len + totalLength rest

/-- What a message that the driver accepts leads to. -/
structure Message (Region : Type) where
  /-- What the device has seen. -/
  clocked : List Byte
  /-- What `ioctl` returns. -/
  returned : Int
  memory : Memory Region

/-- `ioctl(spi_device, SPI_IOC_MESSAGE(n), k)`. -/
def message?
    (device : Device)
    (memory : Memory Region)
    (transfers : List (Transfer Region)) :
    Option (Message Region) :=
  match transmit? memory transfers with
  | none => none
  | some sent =>
      (receive? memory transfers (device.exchange [] sent)).map
        fun received =>
          { clocked := sent
            returned := totalLength transfers
            memory := received }

/-- One transfer in both directions at once. -/
theorem message?_fullDuplex
    (device : Device)
    (memory : Memory Region)
    {out into : Region}
    {len : Nat}
    (outFits : len ≤ (memory out).length)
    (intoFits : len ≤ (memory into).length) :
    message? device memory
        [{ txBuf := .region out 0, rxBuf := .region into 0, len := len }] =
      some
        { clocked := (memory out).take len
          returned := len
          memory :=
            Function.update memory into
              (overwrite (memory into) 0
                (device.exchange [] ((memory out).take len))) } := by
  have sentLength : ((memory out).take len).length = len := by
    simp [outFits]
  have whole :
      (device.exchange [] ((memory out).take len)).take len =
        device.exchange [] ((memory out).take len) :=
    List.take_of_length_le
      (Nat.le_of_eq (by rw [Device.length_exchange, sentLength]))
  simp only [message?, transmit?, read?, receive?, write?, totalLength,
    Nat.zero_add, List.drop_zero, outFits, if_true, Option.map_some,
    List.append_nil, whole, Device.length_exchange, sentLength, intoFits,
    Nat.add_zero]

/-- A header that is sent, then bytes that are only received. -/
theorem message?_split
    (device : Device)
    (memory : Memory Region)
    {out into : Region}
    {header offset len : Nat}
    (outFits : header ≤ (memory out).length)
    (intoFits : offset + len ≤ (memory into).length) :
    message? device memory
        [{ txBuf := .region out 0, rxBuf := .integer 0, len := header },
          { txBuf := .integer 0, rxBuf := .region into offset, len := len }] =
      some
        { clocked := (memory out).take header ++ List.replicate len 0#8
          returned := ((header + len : Nat) : Int)
          memory :=
            Function.update memory into
              (overwrite (memory into) offset
                (device.exchange ((memory out).take header)
                  (List.replicate len 0#8))) } := by
  have sentLength : ((memory out).take header).length = header := by
    simp [outFits]
  have behind :
      (device.exchange []
          ((memory out).take header ++ List.replicate len 0#8)).drop header =
        device.exchange ((memory out).take header)
          (List.replicate len 0#8) := by
    rw [Device.exchange_append, List.drop_left' (by simp [sentLength])]
    rfl
  have whole :
      (device.exchange ((memory out).take header)
          (List.replicate len 0#8)).take len =
        device.exchange ((memory out).take header)
          (List.replicate len 0#8) :=
    List.take_of_length_le (by simp)
  simp only [message?, transmit?, read?, receive?, write?, totalLength,
    Nat.zero_add, List.drop_zero, outFits, if_true, Option.map_some,
    List.append_nil, behind, whole, Device.length_exchange,
    List.length_replicate, intoFits, Nat.add_zero]

end Message

/-! ## A function around one `ioctl` -/

/-- `LGW_SPI_SUCCESS` or `LGW_SPI_ERROR`. -/
inductive Status where
  | success
  | error
  deriving DecidableEq

/-- A function that prepares one message and looks at what it returned. -/
structure IoctlCall (Region : Type) where
  memory : Memory Region
  transfers : List (Transfer Region)
  /-- The status for a value that `ioctl` returned. -/
  status : Int → Status
  /-- What is done to the memory after a success. -/
  deliver : Memory Region → Memory Region

/-- What a call did. -/
structure Outcome (Region : Type) where
  clocked : List Byte
  status : Status
  memory : Memory Region

/-- Run a call whose message the driver accepts. -/
def IoctlCall.run?
    {Region : Type}
    [DecidableEq Region]
    (call : IoctlCall Region)
    (device : Device) :
    Option (Outcome Region) :=
  (message? device call.memory call.transfers).map fun message =>
    match call.status message.returned with
    | .success =>
        { clocked := message.clocked
          status := .success
          memory := call.deliver message.memory }
    | .error =>
        { clocked := message.clocked
          status := .error
          memory := message.memory }

/-- A call that is content with what its message returned. -/
theorem IoctlCall.run?_of_message?
    {Region : Type}
    [DecidableEq Region]
    {call : IoctlCall Region}
    {device : Device}
    {message : Message Region}
    (sent : message? device call.memory call.transfers = some message)
    (accepted : call.status message.returned = .success) :
    call.run? device =
      some
        { clocked := message.clocked
          status := .success
          memory := call.deliver message.memory } := by
  simp only [IoctlCall.run?, sent, Option.map_some, accepted]

end RecomputerGateway.SpiTransfer
