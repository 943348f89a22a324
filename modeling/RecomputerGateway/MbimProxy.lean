import RecomputerGateway.LittleEndian

namespace RecomputerGateway.MbimProxy

open Hexadecimal (Byte)
open LittleEndian

/-!
# The MBIM proxy

`quectel-mbim-proxy` lets up to 32 programs share one modem.  A request keeps
its transaction identifier, and the number of the client's slot is put into
the eight bits above it; the answer of the modem is sent to the slot that the
identifier names, with the identifier of the client again.
-/

/-- `CM_MAX_CLIENT`, `TID_MASK` and `TID_SHIFT`. -/
def cmMaxClient : Nat := 32

def tidMask : Nat := 0xFFFFFF

def tidShift : Nat := 24

/-- The values of `MBIM_MSG`. -/
def mbimOpenMsg : Nat := 1

def mbimCloseMsg : Nat := 2

def mbimOpenDone : Nat := 0x80000001

/-- `CM_CLIENT_T`. -/
structure CmClient where
  clientFd : Int
  clientIdx : Nat
  deriving DecidableEq

/-- `MessageHeader.MessageType`. -/
def messageType (message : List Byte) : Nat :=
  le32At message 0

/-- `MessageHeader.TransactionId`. -/
def transactionId (message : List Byte) : Nat :=
  le32At message 8

/-- `OpenDone.Status`. -/
def openStatus (message : List Byte) : Nat :=
  le32At message 12

/-- Write the transaction identifier of a message of a given length. -/
def setTransactionId (message : List Byte) (tid : Nat) : List Byte :=
  (message.take 8 ++ le32 tid ++ message.drop 12).take message.length

/-- What the proxy does to its descriptors. -/
inductive Output where
  | toDevice (message : List Byte)
  | toClient (fd : Int) (message : List Byte)
  | close (fd : Int)
  deriving DecidableEq

/-- The first slot that is not in use gets the descriptor. -/
def takeSlot (clientFd : Int) :
    Nat → List CmClient → Option (List CmClient)
  | _, [] => none
  | number, client :: rest =>
      if client.clientFd ≤ 0 then some (⟨clientFd, number⟩ :: rest)
      else (takeSlot clientFd (number + 1) rest).map (client :: ·)

/-- `handle_client_connect`; the slot `i` gets the number `i + 1`. -/
def handleClientConnect
    (clients : List CmClient)
    (clientFd : Int) : List CmClient × List Output :=
  match takeSlot clientFd 1 clients with
  | some taken => (taken, [])
  | none => (clients, [.close clientFd])

/-- `handle_client_disconnect`: the number of the slot stays as it is. -/
def handleClientDisconnect
    (clientFd : Int) :
    List CmClient → List CmClient × List Output
  | [] => ([], [])
  | client :: rest =>
      if client.clientFd = clientFd then
        if 0 < clientFd then
          ({ client with clientFd := -1 } :: rest, [.close clientFd])
        else (client :: rest, [])
      else
        let (others, outputs) := handleClientDisconnect clientFd rest
        (client :: others, outputs)

/-- The number of the slot of a descriptor. -/
def clientIdx? (clients : List CmClient) (clientFd : Int) : Option Nat :=
  (clients.find? (·.clientFd = clientFd)).map (·.clientIdx)

/-- The `OpenDone` or `CloseDone` that the proxy answers itself. -/
def openDone (message : List Byte) : List Byte :=
  le32 (messageType message ||| 0x80000000) ++ le32 16 ++
    le32 (transactionId message) ++ le32 0

/-- The identifier that the modem gets. -/
def proxyTid (tid clientIdx : Nat) : Nat :=
  tid ||| (clientIdx <<< tidShift)

/-- `handle_client_request`. -/
def handleClientRequest
    (clients : List CmClient)
    (clientFd : Int)
    (message : List Byte) : List Output :=
  match clientIdx? clients clientFd with
  | none => []
  | some clientIdx =>
      if messageType message = mbimOpenMsg ∨
          messageType message = mbimCloseMsg then
        [.toClient clientFd (openDone message)]
      else
        [.toDevice
          (setTransactionId message
            (proxyTid (transactionId message) clientIdx))]

/-- The open client of a slot number. -/
def slotClient? (clients : List CmClient) (clientIdx : Nat) : Option Int :=
  (clients.find? fun client =>
    client.clientIdx = clientIdx ∧ 0 < client.clientFd).map (·.clientFd)

/-- `handle_device_response`. -/
def handleDeviceResponse
    (clients : List CmClient)
    (message : List Byte) : List Output :=
  let tid := transactionId message
  if tid = 0 then
    (clients.filter (0 < ·.clientFd)).map fun client =>
      .toClient client.clientFd message
  else
    match slotClient? clients (tid >>> tidShift) with
    | none => []
    | some clientFd =>
        [.toClient clientFd (setTransactionId message (tid &&& tidMask))]

/-- The slots, and whether the server waits for clients yet. -/
structure ProxyState where
  clients : List CmClient
  serving : Bool
  deriving DecidableEq

/-- What the loop learns from `poll`, `accept` and `read`. -/
inductive ProxyEvent where
  | accepted (clientFd : Int)
  | readDevice (message : List Byte)
  | readClient (clientFd : Int) (message : List Byte)
  | lostClient (clientFd : Int)
  deriving DecidableEq

/-- One turn of `proxy_loop`; `none` when the loop ends or has no such turn. -/
def turn? (proxy : ProxyState) :
    ProxyEvent → Option (ProxyState × List Output)
  | .accepted clientFd =>
      if proxy.serving then
        let (clients, outputs) :=
          handleClientConnect proxy.clients clientFd
        some ({ proxy with clients := clients }, outputs)
      else none
  | .readDevice message =>
      if proxy.serving then
        some (proxy, handleDeviceResponse proxy.clients message)
      else if messageType message = mbimOpenDone then
        if openStatus message = 0 then
          some ({ proxy with serving := true }, [])
        else none
      else some (proxy, [])
  | .readClient clientFd message =>
      if proxy.serving ∧
          ∃ client ∈ proxy.clients,
            client.clientFd = clientFd ∧ 0 < clientFd then
        some (proxy, handleClientRequest proxy.clients clientFd message)
      else none
  | .lostClient clientFd =>
      if proxy.serving ∧
          ∃ client ∈ proxy.clients,
            client.clientFd = clientFd ∧ 0 < clientFd then
        let (clients, outputs) :=
          handleClientDisconnect clientFd proxy.clients
        some ({ proxy with clients := clients }, outputs)
      else none

/-- The slots after `memset`. -/
def noClients : List CmClient :=
  List.replicate cmMaxClient ⟨0, 0⟩

/-- A message that has the whole header keeps its length. -/
theorem setTransactionId_eq
    {message : List Byte}
    (hasHeader : 12 ≤ message.length)
    (tid : Nat) :
    setTransactionId message tid =
      message.take 8 ++ le32 tid ++ message.drop 12 := by
  refine List.take_of_length_le ?_
  simp only [List.length_append, List.length_take, List.length_drop,
    length_le32]
  omega

/-- The identifier that was written is read back. -/
theorem transactionId_setTransactionId
    {message : List Byte}
    (hasHeader : 12 ≤ message.length)
    (tid : Nat) :
    transactionId (setTransactionId message tid) = tid % 4294967296 := by
  have front : (message.take 8).length = 8 := by
    rw [List.length_take]
    omega
  have shifted :=
    le32At_append (message.take 8) (le32 tid ++ message.drop 12) 0
  rw [le32At_le32, front] at shifted
  rw [transactionId, setTransactionId_eq hasHeader, List.append_assoc]
  exact shifted

/-- The proxy answers under the identifier of the client. -/
theorem transactionId_openDone (message : List Byte) :
    transactionId (openDone message) = transactionId message := by
  have small : transactionId message < 4294967296 := le32At_lt message 8
  have atEight :=
    le32At_append
      (le32 (messageType message ||| 0x80000000) ++ le32 16)
      (le32 (transactionId message) ++ le32 0) 0
  rw [le32At_le32, Nat.mod_eq_of_lt small] at atEight
  rw [transactionId, openDone, List.append_assoc]
  exact atEight

/-- The identifier comes back when it fits below the slot number. -/
theorem proxyTid_shiftRight
    {tid clientIdx : Nat}
    (fits : tid < 0x1000000) :
    proxyTid tid clientIdx >>> tidShift = clientIdx := by
  have high : tid >>> 24 = 0 :=
    Nat.shiftRight_eq_zero tid 24 fits
  rw [proxyTid, tidShift, Nat.shiftRight_or_distrib, high,
    Nat.shiftLeft_shiftRight, Nat.zero_or]

/-- Below the slot number, the identifier is the one of the client. -/
theorem proxyTid_mask (tid clientIdx : Nat) :
    proxyTid tid clientIdx &&& tidMask = tid % 0x1000000 := by
  have masked := Nat.and_two_pow_sub_one_eq_mod (proxyTid tid clientIdx) 24
  have noLow : (clientIdx <<< 24) % 2 ^ 24 = 0 := by
    rw [Nat.shiftLeft_eq]
    exact Nat.mul_mod_left clientIdx (2 ^ 24)
  refine Eq.trans masked ?_
  rw [proxyTid, tidShift, Nat.or_mod_two_pow, noLow, Nat.or_zero]

/-- The identifier that the modem gets fits into its field. -/
theorem proxyTid_lt
    {tid clientIdx : Nat}
    (fits : tid < 4294967296)
    (numbered : clientIdx ≤ cmMaxClient) :
    proxyTid tid clientIdx < 4294967296 := by
  have high : clientIdx <<< 24 < 4294967296 := by
    have bound : clientIdx ≤ 32 := numbered
    rw [Nat.shiftLeft_eq]
    omega
  exact Nat.or_lt_two_pow (n := 32) fits high

/-- A slot number above the identifier keeps it from being zero. -/
theorem proxyTid_ne_zero
    {tid clientIdx : Nat}
    (numbered : clientIdx ≠ 0) :
    proxyTid tid clientIdx ≠ 0 := by
  intro isZero
  refine numbered ?_
  have noHigh := (Nat.or_eq_zero_iff.mp isZero).2
  exact Nat.shiftLeft_eq_zero_iff.mp noHigh

/-- The open slots carry their own number, and different descriptors. -/
structure Slots (clients : List CmClient) : Prop where
  count : clients.length = cmMaxClient
  numbered :
    ∀ (i : Nat) (client : CmClient),
      clients[i]? = some client →
        0 < client.clientFd → client.clientIdx = i + 1
  distinct :
    ∀ (i j : Nat) (client other : CmClient),
      clients[i]? = some client → clients[j]? = some other →
        0 < client.clientFd → client.clientFd = other.clientFd → i = j

/-- A descriptor is served under a slot number. -/
def Connected
    (clients : List CmClient)
    (fd : Int)
    (clientIdx : Nat) : Prop :=
  0 < fd ∧ (⟨fd, clientIdx⟩ : CmClient) ∈ clients

instance (clients : List CmClient) (fd : Int) (clientIdx : Nat) :
    Decidable (Connected clients fd clientIdx) :=
  inferInstanceAs (Decidable (_ ∧ _))

namespace Slots

variable {clients : List CmClient}

/-- A connected descriptor stands in the slot before its number. -/
theorem getElem?_of_connected
    (slots : Slots clients)
    {fd : Int}
    {clientIdx : Nat}
    (connected : Connected clients fd clientIdx) :
    ∃ i, clientIdx = i + 1 ∧ clients[i]? = some ⟨fd, clientIdx⟩ := by
  obtain ⟨isOpen, member⟩ := connected
  obtain ⟨i, found⟩ := List.mem_iff_getElem?.mp member
  exact ⟨i, slots.numbered i _ found isOpen, found⟩

/-- No slot number serves two descriptors. -/
theorem fd_unique
    (slots : Slots clients)
    {fd other : Int}
    {clientIdx : Nat}
    (connected : Connected clients fd clientIdx)
    (otherConnected : Connected clients other clientIdx) :
    fd = other := by
  obtain ⟨i, number, found⟩ := slots.getElem?_of_connected connected
  obtain ⟨j, sameNumber, otherFound⟩ :=
    slots.getElem?_of_connected otherConnected
  obtain rfl : i = j := Nat.succ.inj (number.symm.trans sameNumber)
  have same := Option.some.inj (found.symm.trans otherFound)
  exact congrArg CmClient.clientFd same

/-- No descriptor is served twice. -/
theorem idx_unique
    (slots : Slots clients)
    {fd : Int}
    {clientIdx other : Nat}
    (connected : Connected clients fd clientIdx)
    (otherConnected : Connected clients fd other) :
    clientIdx = other := by
  obtain ⟨i, number, found⟩ := slots.getElem?_of_connected connected
  obtain ⟨j, otherNumber, otherFound⟩ :=
    slots.getElem?_of_connected otherConnected
  have same :=
    slots.distinct i j _ _ found otherFound connected.1 rfl
  rw [number, otherNumber, same]

theorem idx_ne_zero
    (slots : Slots clients)
    {fd : Int}
    {clientIdx : Nat}
    (connected : Connected clients fd clientIdx) :
    clientIdx ≠ 0 := by
  obtain ⟨i, rfl, -⟩ := slots.getElem?_of_connected connected
  exact Nat.succ_ne_zero i

theorem idx_le
    (slots : Slots clients)
    {fd : Int}
    {clientIdx : Nat}
    (connected : Connected clients fd clientIdx) :
    clientIdx ≤ cmMaxClient := by
  obtain ⟨i, rfl, found⟩ := slots.getElem?_of_connected connected
  obtain ⟨bound, -⟩ := List.getElem?_eq_some_iff.mp found
  exact slots.count ▸ bound

/-- The slot of a request is found by its descriptor. -/
theorem clientIdx?_eq
    (slots : Slots clients)
    {fd : Int}
    {clientIdx : Nat}
    (connected : Connected clients fd clientIdx) :
    clientIdx? clients fd = some clientIdx := by
  unfold clientIdx?
  cases found : clients.find? (·.clientFd = fd) with
  | none =>
      have missed := List.find?_eq_none.mp found _ connected.2
      simp at missed
  | some client =>
      have ofFd : client.clientFd = fd := by
        simpa using List.find?_some found
      have otherConnected : Connected clients fd client.clientIdx :=
        ⟨connected.1, ofFd ▸ List.mem_of_find?_eq_some found⟩
      exact congrArg some (slots.idx_unique otherConnected connected)

/-- The descriptor of an answer is found by its slot number. -/
theorem slotClient?_eq
    (slots : Slots clients)
    {fd : Int}
    {clientIdx : Nat}
    (connected : Connected clients fd clientIdx) :
    slotClient? clients clientIdx = some fd := by
  unfold slotClient?
  cases found :
      clients.find? (fun client =>
        client.clientIdx = clientIdx ∧ 0 < client.clientFd) with
  | none =>
      have missed := List.find?_eq_none.mp found _ connected.2
      simp [connected.1] at missed
  | some client =>
      have ofSlot :
          client.clientIdx = clientIdx ∧ 0 < client.clientFd := by
        simpa using List.find?_some found
      have otherConnected :
          Connected clients client.clientFd clientIdx :=
        ⟨ofSlot.2, ofSlot.1 ▸ List.mem_of_find?_eq_some found⟩
      exact congrArg some (slots.fd_unique otherConnected connected)

end Slots

/-- A new client is put into the first slot that is not in use. -/
theorem takeSlot_eq
    {clientFd : Int}
    {number : Nat}
    {clients taken : List CmClient}
    (took : takeSlot clientFd number clients = some taken) :
    ∃ i client,
      clients[i]? = some client ∧ client.clientFd ≤ 0 ∧
        taken = clients.set i ⟨clientFd, number + i⟩ := by
  induction clients generalizing number taken with
  | nil =>
      cases took
  | cons client rest inductionHypothesis =>
      unfold takeSlot at took
      split_ifs at took with free
      · cases took
        exact ⟨0, client, rfl, free, rfl⟩
      · obtain ⟨others, tookOther, rfl⟩ := Option.map_eq_some_iff.mp took
        obtain ⟨i, other, found, otherFree, rfl⟩ :=
          inductionHypothesis tookOther
        refine ⟨i + 1, other, found, otherFree, ?_⟩
        rw [List.set_cons_succ, Nat.add_right_comm, Nat.add_assoc]

/-- What the slots are after a client is lost. -/
theorem handleClientDisconnect_eq
    {clientFd : Int}
    {clients : List CmClient}
    (isOpen : 0 < clientFd)
    (member : ∃ client ∈ clients, client.clientFd = clientFd) :
    ∃ i client,
      clients[i]? = some client ∧ client.clientFd = clientFd ∧
        handleClientDisconnect clientFd clients =
          (clients.set i { client with clientFd := -1 },
            [.close clientFd]) := by
  induction clients with
  | nil =>
      simp at member
  | cons client rest inductionHypothesis =>
      unfold handleClientDisconnect
      by_cases isIt : client.clientFd = clientFd
      · refine ⟨0, client, rfl, isIt, ?_⟩
        rw [if_pos isIt, if_pos isOpen]
        rfl
      · obtain ⟨other, isOther, ofFd⟩ := member
        have inRest : ∃ client ∈ rest, client.clientFd = clientFd := by
          rcases List.mem_cons.mp isOther with same | isRest
          · exact absurd (same ▸ ofFd) isIt
          · exact ⟨other, isRest, ofFd⟩
        obtain ⟨i, found, atIndex, foundFd, closed⟩ :=
          inductionHypothesis inRest
        refine ⟨i + 1, found, atIndex, foundFd, ?_⟩
        rw [if_neg isIt, closed]
        rfl

/-- A slot that gets a new content keeps the others. -/
theorem connected_set
    {clients : List CmClient}
    {i : Nat}
    {old new : CmClient}
    {fd : Int}
    {clientIdx : Nat}
    (found : clients[i]? = some old) :
    Connected (clients.set i new) fd clientIdx ↔
      (0 < fd ∧ new = ⟨fd, clientIdx⟩) ∨
        (0 < fd ∧ ∃ j, j ≠ i ∧ clients[j]? = some ⟨fd, clientIdx⟩) := by
  obtain ⟨bound, -⟩ := List.getElem?_eq_some_iff.mp found
  constructor
  · rintro ⟨isOpen, member⟩
    obtain ⟨j, atIndex⟩ := List.mem_iff_getElem?.mp member
    by_cases same : i = j
    · subst same
      rw [List.getElem?_set_self bound] at atIndex
      exact .inl ⟨isOpen, Option.some.inj atIndex⟩
    · rw [List.getElem?_set_ne same] at atIndex
      exact .inr ⟨isOpen, j, Ne.symm same, atIndex⟩
  · rintro (⟨isOpen, rfl⟩ | ⟨isOpen, j, different, atIndex⟩)
    · refine ⟨isOpen, List.mem_iff_getElem?.mpr ⟨i, ?_⟩⟩
      exact List.getElem?_set_self bound
    · refine ⟨isOpen, List.mem_iff_getElem?.mpr ⟨j, ?_⟩⟩
      rw [List.getElem?_set_ne (Ne.symm different)]
      exact atIndex

namespace Slots

variable {clients : List CmClient}

/-- Whoever stands in a slot is connected under the number of the slot. -/
theorem connected_of_getElem?
    {fd : Int}
    {i : Nat}
    {client : CmClient}
    (found : clients[i]? = some client)
    (ofFd : client.clientFd = fd)
    (isOpen : 0 < fd) :
    Connected clients fd client.clientIdx := by
  subst ofFd
  exact ⟨isOpen, List.mem_iff_getElem?.mpr ⟨i, found⟩⟩

/-- One slot of the table is written. -/
theorem set
    (slots : Slots clients)
    {i : Nat}
    {old new : CmClient}
    (found : clients[i]? = some old)
    (numbered : 0 < new.clientFd → new.clientIdx = i + 1)
    (fresh :
      0 < new.clientFd →
        ∀ (j : Nat) (client : CmClient),
          j ≠ i → clients[j]? = some client →
            client.clientFd ≠ new.clientFd) :
    Slots (clients.set i new) := by
  obtain ⟨bound, -⟩ := List.getElem?_eq_some_iff.mp found
  have inspect
      {j : Nat}
      {client : CmClient}
      (atIndex : (clients.set i new)[j]? = some client) :
      j = i ∧ client = new ∨ j ≠ i ∧ clients[j]? = some client := by
    by_cases same : i = j
    · subst same
      rw [List.getElem?_set_self bound] at atIndex
      exact .inl ⟨rfl, (Option.some.inj atIndex).symm⟩
    · rw [List.getElem?_set_ne same] at atIndex
      exact .inr ⟨Ne.symm same, atIndex⟩
  refine ⟨by rw [List.length_set, slots.count], ?_, ?_⟩
  · intro j client atIndex isOpen
    obtain ⟨rfl, rfl⟩ | ⟨-, before⟩ := inspect atIndex
    · exact numbered isOpen
    · exact slots.numbered j client before isOpen
  · intro j k client other atIndex otherAtIndex isOpen sameFd
    obtain ⟨rfl, rfl⟩ | ⟨different, before⟩ := inspect atIndex
    · obtain ⟨rfl, rfl⟩ | ⟨otherDifferent, otherBefore⟩ := inspect otherAtIndex
      · rfl
      · exact absurd sameFd.symm (fresh isOpen k other otherDifferent
          otherBefore)
    · obtain ⟨rfl, rfl⟩ | ⟨otherDifferent, otherBefore⟩ := inspect otherAtIndex
      · exact absurd sameFd (fresh (sameFd ▸ isOpen) j client different before)
      · exact slots.distinct j k client other before otherBefore isOpen sameFd

/-- A new client is connected under a number that served nobody. -/
theorem take
    (slots : Slots clients)
    {clientFd : Int}
    {taken : List CmClient}
    (isOpen : 0 < clientFd)
    (fresh : ∀ clientIdx, ¬ Connected clients clientFd clientIdx)
    (took : takeSlot clientFd 1 clients = some taken) :
    Slots taken ∧
      ∃ clientIdx,
        (∀ fd, ¬ Connected clients fd clientIdx) ∧
          ∀ fd number,
            Connected taken fd number ↔
              Connected clients fd number ∨
                (fd = clientFd ∧ number = clientIdx) := by
  obtain ⟨i, client, found, free, rfl⟩ := takeSlot_eq took
  refine ⟨slots.set found (fun _ => Nat.add_comm 1 i) ?_, 1 + i, ?_, ?_⟩
  · intro _ j other _ atIndex sameFd
    exact fresh other.clientIdx
      (connected_of_getElem? atIndex sameFd isOpen)
  · intro fd connected
    obtain ⟨j, number, atIndex⟩ := slots.getElem?_of_connected connected
    obtain rfl : i = j := by omega
    have same := Option.some.inj (found.symm.trans atIndex)
    rw [same] at free
    exact absurd connected.1 (Int.not_lt.mpr free)
  · intro fd number
    rw [connected_set found]
    constructor
    · rintro (⟨-, same⟩ | ⟨fdOpen, j, -, atIndex⟩)
      · simp only [CmClient.mk.injEq] at same
        exact .inr ⟨same.1.symm, same.2.symm⟩
      · exact .inl ⟨fdOpen, List.mem_iff_getElem?.mpr ⟨j, atIndex⟩⟩
    · rintro (⟨fdOpen, member⟩ | ⟨rfl, rfl⟩)
      · obtain ⟨j, atIndex⟩ := List.mem_iff_getElem?.mp member
        refine .inr ⟨fdOpen, j, ?_, atIndex⟩
        rintro rfl
        have same := Option.some.inj (found.symm.trans atIndex)
        rw [same] at free
        exact absurd fdOpen (Int.not_lt.mpr free)
      · exact .inl ⟨isOpen, rfl⟩

/-- A lost client is connected no more, and the others are as before. -/
theorem leave
    (slots : Slots clients)
    {clientFd : Int}
    {clientIdx : Nat}
    (connected : Connected clients clientFd clientIdx) :
    (handleClientDisconnect clientFd clients).2 = [.close clientFd] ∧
      Slots (handleClientDisconnect clientFd clients).1 ∧
      ∀ fd number,
        Connected (handleClientDisconnect clientFd clients).1 fd number ↔
          Connected clients fd number ∧ fd ≠ clientFd := by
  obtain ⟨i, client, found, ofFd, closed⟩ :=
    handleClientDisconnect_eq connected.1 ⟨_, connected.2, rfl⟩
  have notOpen : ¬ (0 : Int) < -1 := by decide
  rw [closed]
  refine ⟨rfl, slots.set found (fun isOpen => absurd isOpen notOpen)
    (fun isOpen => absurd isOpen notOpen), ?_⟩
  · intro fd number
    rw [connected_set found]
    constructor
    · rintro (⟨fdOpen, same⟩ | ⟨fdOpen, j, different, atIndex⟩)
      · simp only [CmClient.mk.injEq] at same
        rw [← same.1] at fdOpen
        exact absurd fdOpen (by decide)
      · refine ⟨⟨fdOpen, List.mem_iff_getElem?.mpr ⟨j, atIndex⟩⟩, ?_⟩
        intro sameFd
        exact different
          (slots.distinct j i _ _ atIndex found fdOpen
            (sameFd.trans ofFd.symm))
    · rintro ⟨⟨fdOpen, member⟩, notLost⟩
      obtain ⟨j, atIndex⟩ := List.mem_iff_getElem?.mp member
      refine .inr ⟨fdOpen, j, ?_, atIndex⟩
      rintro rfl
      have same := Option.some.inj (found.symm.trans atIndex)
      rw [same] at ofFd
      exact notLost ofFd

end Slots

end RecomputerGateway.MbimProxy
