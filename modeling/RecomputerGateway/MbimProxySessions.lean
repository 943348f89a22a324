import RecomputerGateway.KeyedReplay
import RecomputerGateway.MbimProxy
import RecomputerGateway.Transition

namespace RecomputerGateway.MbimProxy

open Hexadecimal (Byte)
open LittleEndian

/-!
# What each client of the MBIM proxy sees

The modem answers requests in any order, and tells them apart by nothing but
the transaction identifier, which clients choose without regard to each other.
Each client should get the answers to its own requests under its own
identifiers, and no others, whatever the clients and the modem do in between.
-/

/-- What happens on the descriptors, in the order in which it happens. -/
inductive Entry where
  | opened (fd : Int)
  | asked (fd : Int) (tid : Nat)
  | answered (fd : Int) (tid : Nat)
  | closed (fd : Int)
  deriving DecidableEq

/-- The descriptor of an entry. -/
def Entry.fd : Entry → Int
  | .opened fd => fd
  | .asked fd _ => fd
  | .answered fd _ => fd
  | .closed fd => fd

/-- A client's own modem: the identifiers that it has yet to answer. -/
inductive Session where
  | shut
  | serving (waiting : List Nat)
  deriving DecidableEq

/-- A modem that answers what it was asked, in any order, and nothing else. -/
def Session.serve : Session → Entry → Option Session
  | .shut, .opened _ => some (.serving [])
  | .serving waiting, .asked _ tid => some (.serving (waiting ++ [tid]))
  | .serving waiting, .answered _ tid =>
      if tid ∈ waiting then some (.serving (waiting.erase tid)) else none
  | .serving [], .closed _ => some .shut
  | _, _ => none

/-- What the client of a descriptor sees of its own modem. -/
def clientView : Observer Int Entry Session where
  party := Entry.fd
  start := .shut
  next? := Session.serve

/-- The proxy, the modem, and what has happened on the descriptors. -/
structure World where
  proxy : ProxyState
  -- The identifiers of the requests that the modem has yet to answer.
  inFlight : List Nat
  history : List Entry

/-- Events of the clients and of the modem. -/
inductive WorldEvent where
  | connect (fd : Int)
  | request (fd : Int) (message : List Byte)
  | answer (message : List Byte)
  | notify (message : List Byte)
  | disconnect (fd : Int)
  deriving DecidableEq

/-- The identifiers of the requests among the outputs of the proxy. -/
def sent (outputs : List Output) : List Nat :=
  outputs.filterMap fun output =>
    match output with
    | .toDevice message => some (transactionId message)
    | .toClient _ _ => none
    | .close _ => none

/-- The answers among the outputs of the proxy. -/
def answers (outputs : List Output) : List Entry :=
  outputs.filterMap fun output =>
    match output with
    | .toClient fd message => some (.answered fd (transactionId message))
    | .toDevice _ => none
    | .close _ => none

/-- The world after a turn of the proxy. -/
def World.after
    (world : World)
    (outcome : ProxyState × List Output)
    (inFlight : List Nat)
    (entries : List Entry) : World where
  proxy := outcome.1
  inFlight := inFlight ++ sent outcome.2
  history := world.history ++ entries

/-- One event of the proxy and its surroundings. -/
def worldStep? (world : World) : WorldEvent → Option World
  | .connect fd =>
      -- The kernel hands out descriptors that are not open.
      if fd ≤ 0 ∨ ∃ client ∈ world.proxy.clients, client.clientFd = fd then
        none
      else
        (turn? world.proxy (.accepted fd)).map fun outcome =>
          world.after outcome world.inFlight
            (if .close fd ∈ outcome.2 then [] else [.opened fd])
  | .request fd message =>
      (turn? world.proxy (.readClient fd message)).map fun outcome =>
        world.after outcome world.inFlight
          (.asked fd (transactionId message) :: answers outcome.2)
  | .answer message =>
      if 12 ≤ message.length ∧ transactionId message ∈ world.inFlight then
        (turn? world.proxy (.readDevice message)).map fun outcome =>
          world.after outcome
            (world.inFlight.erase (transactionId message))
            (answers outcome.2)
      else none
  | .notify message =>
      if transactionId message = 0 then
        (turn? world.proxy (.readDevice message)).map fun outcome =>
          world.after outcome world.inFlight []
      else none
  | .disconnect fd =>
      (turn? world.proxy (.lostClient fd)).map fun outcome =>
        world.after outcome world.inFlight [.closed fd]

/-- The proxy when the modem is open and no client has come yet. -/
def worlds : System World WorldEvent where
  Initial world :=
    world.proxy = ⟨noClients, true⟩ ∧ world.inFlight = [] ∧
      world.history = []
  step? := worldStep?

/--
Clients send whole headers with identifiers below the slot number, and wait
for their answers before they leave.
-/
def Patient (world : World) : WorldEvent → Prop
  | .request _ message =>
      12 ≤ message.length ∧ transactionId message < 0x1000000
  | .disconnect fd =>
      ∀ tid ∈ world.inFlight,
        clientIdx? world.proxy.clients fd ≠ some (tid >>> tidShift)
  | _ => True

instance (world : World) (event : WorldEvent) :
    Decidable (Patient world event) := by
  unfold Patient
  split <;> infer_instance

/-- The identifiers that a slot's client waits for. -/
def waitingFor (inFlight : List Nat) (clientIdx : Nat) : List Nat :=
  (inFlight.filter (· >>> tidShift = clientIdx)).map (· &&& tidMask)

/--
What is in flight belongs to the connected clients, and each of them waits for
its part of it.
-/
structure Routed (world : World) : Prop where
  serving : world.proxy.serving = true
  slots : Slots world.proxy.clients
  owner :
    ∀ tid ∈ world.inFlight,
      ∃ fd, Connected world.proxy.clients fd (tid >>> tidShift)
  waits :
    ∀ fd clientIdx,
      Connected world.proxy.clients fd clientIdx →
        ∃ waiting,
          clientView.replay fd world.history = some (.serving waiting) ∧
            waiting.Perm (waitingFor world.inFlight clientIdx)
  shut :
    ∀ fd,
      (∀ clientIdx, ¬ Connected world.proxy.clients fd clientIdx) →
        clientView.replay fd world.history = some .shut

theorem waitingFor_append
    (first second : List Nat)
    (clientIdx : Nat) :
    waitingFor (first ++ second) clientIdx =
      waitingFor first clientIdx ++ waitingFor second clientIdx := by
  simp [waitingFor]

theorem waitingFor_cons
    (tid : Nat)
    (rest : List Nat)
    (clientIdx : Nat) :
    waitingFor (tid :: rest) clientIdx =
      if tid >>> tidShift = clientIdx then
        (tid &&& tidMask) :: waitingFor rest clientIdx
      else waitingFor rest clientIdx := by
  by_cases ofSlot : tid >>> tidShift = clientIdx
  · simp [waitingFor, ofSlot]
  · simp [waitingFor, ofSlot]

/-- A slot waits for the same identifiers in whatever order they are. -/
theorem waitingFor_perm
    {first second : List Nat}
    (perm : first.Perm second)
    (clientIdx : Nat) :
    (waitingFor first clientIdx).Perm (waitingFor second clientIdx) :=
  (perm.filter _).map _

/-- Nothing is in flight for a slot that is not in use. -/
theorem waitingFor_eq_nil
    {inFlight : List Nat}
    {clientIdx : Nat}
    (nothing : ∀ tid ∈ inFlight, tid >>> tidShift ≠ clientIdx) :
    waitingFor inFlight clientIdx = [] := by
  have none : inFlight.filter (· >>> tidShift = clientIdx) = [] :=
    List.filter_eq_nil_iff.mpr fun tid member =>
      by simpa using nothing tid member
  rw [waitingFor, none, List.map_nil]

namespace Routed

variable {world : World}

/-- The open descriptors are those that a turn may read from. -/
theorem connected_of_exists
    {clients : List CmClient}
    {fd : Int}
    (present :
      ∃ client ∈ clients, client.clientFd = fd ∧ 0 < fd) :
    ∃ clientIdx, Connected clients fd clientIdx := by
  obtain ⟨client, member, rfl, isOpen⟩ := present
  exact ⟨client.clientIdx, isOpen, member⟩

/-- A step that changes neither the slots nor what is in flight. -/
theorem of_entries
    {entries : List Entry}
    {inFlight : List Nat}
    {outputs : List Output}
    {fd : Int}
    {clientIdx : Nat}
    {waiting : List Nat}
    (routed : Routed world)
    (connected : Connected world.proxy.clients fd clientIdx)
    (ofFd : ∀ entry ∈ entries, entry.fd = fd)
    (owner :
      ∀ tid ∈ inFlight ++ sent outputs,
        ∃ other, Connected world.proxy.clients other (tid >>> tidShift))
    (seen :
      clientView.replay fd (world.history ++ entries) =
        some (.serving waiting))
    (waits :
      waiting.Perm (waitingFor (inFlight ++ sent outputs) clientIdx))
    (others :
      ∀ number, number ≠ clientIdx →
        (waitingFor world.inFlight number).Perm
          (waitingFor (inFlight ++ sent outputs) number)) :
    Routed (world.after (world.proxy, outputs) inFlight entries) := by
  refine ⟨routed.serving, routed.slots, owner, ?_, ?_⟩
  · intro other number otherConnected
    by_cases isIt : other = fd
    · subst isIt
      obtain rfl := routed.slots.idx_unique otherConnected connected
      exact ⟨waiting, seen, waits⟩
    · have different : number ≠ clientIdx := by
        rintro rfl
        exact isIt (routed.slots.fd_unique otherConnected connected)
      obtain ⟨before, seenBefore, waitsBefore⟩ :=
        routed.waits other number otherConnected
      refine ⟨before, ?_, waitsBefore.trans (others number different)⟩
      simp only [World.after]
      rw [Observer.replay_append_other, seenBefore]
      intro entry member
      rw [show clientView.party entry = fd from ofFd entry member]
      exact Ne.symm isIt
  · intro other notConnected
    simp only [World.after]
    rw [Observer.replay_append_other, routed.shut other notConnected]
    intro entry member same
    have isFd : fd = other := (ofFd entry member).symm.trans same
    exact notConnected clientIdx (isFd ▸ connected)

/-- The answer of the modem goes to the client that it is for. -/
theorem answer
    {message : List Byte}
    {next : World}
    (routed : Routed world)
    (stepped : worldStep? world (.answer message) = some next) :
    Routed next := by
  simp only [worldStep?, turn?, routed.serving, if_true, Option.map_some,
    Option.ite_none_right_eq_some, Option.some.injEq] at stepped
  obtain ⟨⟨hasHeader, member⟩, rfl⟩ := stepped
  obtain ⟨fd, connected⟩ := routed.owner _ member
  have notZero : transactionId message ≠ 0 := by
    intro isZero
    have noSlot := routed.slots.idx_ne_zero connected
    rw [isZero] at noSlot
    exact noSlot (Nat.zero_shiftRight tidShift)
  have delivered :
      handleDeviceResponse world.proxy.clients message =
        [.toClient fd
          (setTransactionId message
            (transactionId message &&& tidMask))] := by
    simp only [handleDeviceResponse, notZero, if_false,
      routed.slots.slotClient?_eq connected]
  have small : transactionId message &&& tidMask < 4294967296 :=
    Nat.lt_of_le_of_lt Nat.and_le_right (by decide)
  have answered :
      answers
          [.toClient fd
            (setTransactionId message
              (transactionId message &&& tidMask))] =
        [.answered fd (transactionId message &&& tidMask)] := by
    simp only [answers, List.filterMap_cons, List.filterMap_nil,
      transactionId_setTransactionId hasHeader, Nat.mod_eq_of_lt small]
  have split := List.perm_cons_erase member
  obtain ⟨waiting, seen, waits⟩ := routed.waits _ _ connected
  have waitsSplit := waits.trans (waitingFor_perm split _)
  rw [waitingFor_cons, if_pos rfl] at waitsSplit
  have isAwaited : transactionId message &&& tidMask ∈ waiting :=
    waitsSplit.mem_iff.mpr (.head _)
  have served :
      clientView.next? (.serving waiting)
          (.answered fd (transactionId message &&& tidMask)) =
        some (.serving
          (waiting.erase (transactionId message &&& tidMask))) :=
    if_pos isAwaited
  rw [delivered, answered]
  refine routed.of_entries connected ?_ ?_
    (Observer.replay_snoc rfl seen served) ?_ ?_
  · intro entry isAnswer
    rw [List.mem_singleton.mp isAnswer]
    rfl
  · intro tid inFlight
    have stillInFlight :
        tid ∈ world.inFlight.erase (transactionId message) := by
      simpa [sent] using inFlight
    exact routed.owner tid (List.mem_of_mem_erase stillInFlight)
  · have erased := waitsSplit.erase (transactionId message &&& tidMask)
    rw [List.erase_cons_head] at erased
    simpa [sent] using erased
  · intro number different
    have others := waitingFor_perm split number
    rw [waitingFor_cons, if_neg (Ne.symm different)] at others
    simpa [sent] using others

/-- A request of a connected client goes to the modem, or is answered. -/
theorem request
    {fd : Int}
    {message : List Byte}
    {next : World}
    (routed : Routed world)
    (hasHeader : 12 ≤ message.length)
    (fits : transactionId message < 0x1000000)
    (stepped : worldStep? world (.request fd message) = some next) :
    Routed next := by
  simp only [worldStep?, turn?, routed.serving, true_and, Option.map_eq_some_iff,
    Option.ite_none_right_eq_some, Option.some.injEq] at stepped
  obtain ⟨_, ⟨present, rfl⟩, rfl⟩ := stepped
  obtain ⟨clientIdx, connected⟩ := connected_of_exists present
  obtain ⟨waiting, seen, waits⟩ := routed.waits _ _ connected
  have asked :
      clientView.replay fd
          (world.history ++ [.asked fd (transactionId message)]) =
        some (.serving (waiting ++ [transactionId message])) :=
    Observer.replay_snoc rfl seen rfl
  rw [handleClientRequest, routed.slots.clientIdx?_eq connected]
  dsimp only
  by_cases isOpen :
      messageType message = mbimOpenMsg ∨ messageType message = mbimCloseMsg
  · rw [if_pos isOpen]
    have answered :
        answers [.toClient fd (openDone message)] =
          [.answered fd (transactionId message)] := by
      simp only [answers, List.filterMap_cons, List.filterMap_nil,
        transactionId_openDone]
    have isAwaited :
        transactionId message ∈ waiting ++ [transactionId message] :=
      List.mem_append_right waiting (.head [])
    have served :
        clientView.next? (.serving (waiting ++ [transactionId message]))
            (.answered fd (transactionId message)) =
          some (.serving
            ((waiting ++ [transactionId message]).erase
              (transactionId message))) :=
      if_pos isAwaited
    have answeredSeen := Observer.replay_snoc rfl asked served
    rw [List.append_assoc] at answeredSeen
    rw [answered]
    refine routed.of_entries connected ?_ ?_ answeredSeen ?_ ?_
    · intro entry member
      rcases List.mem_cons.mp member with rfl | isAnswer
      · rfl
      · rw [List.mem_singleton.mp isAnswer]
        rfl
    · simpa [sent] using routed.owner
    · have added :
          (waiting ++ [transactionId message]).Perm
            (transactionId message :: waiting) :=
        List.perm_append_comm
      have erased := added.erase (transactionId message)
      rw [List.erase_cons_head] at erased
      simpa [sent] using erased.trans waits
    · intro number _
      simp [sent]
  · rw [if_neg isOpen]
    have numbered := routed.slots.idx_le connected
    have proxied :
        sent
            [.toDevice
              (setTransactionId message
                (proxyTid (transactionId message) clientIdx))] =
          [proxyTid (transactionId message) clientIdx] := by
      have inField :=
        Nat.mod_eq_of_lt
          (proxyTid_lt (le32At_lt message 8) numbered)
      simp only [sent, List.filterMap_cons, List.filterMap_nil,
        transactionId_setTransactionId hasHeader]
      exact congrArg (fun tid => [tid]) inField
    have slotOf :
        proxyTid (transactionId message) clientIdx >>> tidShift =
          clientIdx :=
      proxyTid_shiftRight fits
    refine routed.of_entries connected ?_ ?_ asked ?_ ?_
    · intro entry member
      rw [List.mem_singleton.mp member]
      rfl
    · rw [proxied]
      intro tid member
      rcases List.mem_append.mp member with isOld | isNew
      · exact routed.owner tid isOld
      · rw [List.mem_singleton.mp isNew, slotOf]
        exact ⟨fd, connected⟩
    · rw [proxied, waitingFor_append, waitingFor_cons, slotOf, if_pos rfl,
        proxyTid_mask, Nat.mod_eq_of_lt fits]
      exact waits.append_right [transactionId message]
    · intro number different
      rw [proxied, waitingFor_append, waitingFor_cons, slotOf,
        if_neg (Ne.symm different)]
      exact List.Perm.of_eq (List.append_nil _).symm

/-- An unsolicited message is no answer. -/
theorem notify
    {message : List Byte}
    {next : World}
    (routed : Routed world)
    (stepped : worldStep? world (.notify message) = some next) :
    Routed next := by
  simp only [worldStep?, turn?, routed.serving, if_true, Option.map_some,
    Option.ite_none_right_eq_some, Option.some.injEq] at stepped
  obtain ⟨isZero, rfl⟩ := stepped
  have nothingSent :
      sent (handleDeviceResponse world.proxy.clients message) = [] := by
    simp only [handleDeviceResponse, isZero, if_true]
    refine List.filterMap_eq_nil_iff.mpr fun output member => ?_
    obtain ⟨client, -, rfl⟩ := List.mem_map.mp member
    rfl
  refine ⟨routed.serving, routed.slots, ?_, ?_, ?_⟩
  · simpa only [World.after, nothingSent, List.append_nil] using routed.owner
  · simpa only [World.after, nothingSent, List.append_nil] using routed.waits
  · simpa only [World.after, List.append_nil] using routed.shut

/-- A new client waits for nothing. -/
theorem connect
    {fd : Int}
    {next : World}
    (routed : Routed world)
    (stepped : worldStep? world (.connect fd) = some next) :
    Routed next := by
  simp only [worldStep?, turn?, routed.serving, if_true, Option.map_some,
    Option.ite_none_left_eq_some, Option.some.injEq] at stepped
  obtain ⟨acceptable, rfl⟩ := stepped
  obtain ⟨notClosed, notPresent⟩ := not_or.mp acceptable
  have isOpen : 0 < fd := Int.not_le.mp notClosed
  have fresh : ∀ clientIdx, ¬ Connected world.proxy.clients fd clientIdx :=
    fun clientIdx connected => notPresent ⟨_, connected.2, rfl⟩
  unfold handleClientConnect
  cases took : takeSlot fd 1 world.proxy.clients with
  | none =>
      refine ⟨rfl, routed.slots, ?_, ?_, ?_⟩
      · simpa [World.after, sent] using routed.owner
      · simpa [World.after, sent] using routed.waits
      · simpa [World.after] using routed.shut
  | some taken =>
      obtain ⟨slots, clientIdx, nobody, connected⟩ :=
        routed.slots.take isOpen fresh took
      have noOpened : Output.close fd ∉ ([] : List Output) := List.not_mem_nil
      simp only [noOpened, if_false]
      have kept
          {other : Int}
          {number : Nat}
          (wasConnected : Connected world.proxy.clients other number) :
          other ≠ fd ∧ number ≠ clientIdx := by
        constructor
        · rintro rfl
          exact fresh number wasConnected
        · rintro rfl
          exact nobody other wasConnected
      refine ⟨rfl, slots, ?_, ?_, ?_⟩
      · intro tid member
        obtain ⟨other, wasConnected⟩ :=
          routed.owner tid (by simpa [World.after, sent] using member)
        exact ⟨other, (connected other _).mpr (.inl wasConnected)⟩
      · intro other number isConnected
        simp only [World.after, sent, List.filterMap_nil, List.append_nil]
        rcases (connected other number).mp isConnected with
          wasConnected | ⟨rfl, rfl⟩
        · obtain ⟨waiting, seen, waits⟩ :=
            routed.waits other number wasConnected
          refine ⟨waiting, ?_, waits⟩
          rw [Observer.replay_append_other, seen]
          intro entry member
          rw [List.mem_singleton.mp member]
          exact Ne.symm (kept wasConnected).1
        · have nothing :
              waitingFor world.inFlight number = [] := by
            refine waitingFor_eq_nil fun tid member ofSlot => ?_
            obtain ⟨owner, wasConnected⟩ := routed.owner tid member
            exact (kept wasConnected).2 ofSlot
          refine ⟨[], Observer.replay_snoc rfl (routed.shut other fresh) rfl,
            ?_⟩
          rw [nothing]
      · intro other notConnected
        have notNew : fd ≠ other := by
          rintro rfl
          exact notConnected clientIdx
            ((connected fd clientIdx).mpr (.inr ⟨rfl, rfl⟩))
        have wasNotConnected :
            ∀ number, ¬ Connected world.proxy.clients other number :=
          fun number wasConnected =>
            notConnected number
              ((connected other number).mpr (.inl wasConnected))
        simp only [World.after]
        rw [Observer.replay_append_other, routed.shut other wasNotConnected]
        intro entry member
        rw [List.mem_singleton.mp member]
        exact notNew

/-- A client that waits for nothing can be lost. -/
theorem disconnect
    {fd : Int}
    {next : World}
    (routed : Routed world)
    (idle :
      ∀ tid ∈ world.inFlight,
        clientIdx? world.proxy.clients fd ≠ some (tid >>> tidShift))
    (stepped : worldStep? world (.disconnect fd) = some next) :
    Routed next := by
  simp only [worldStep?, turn?, routed.serving, true_and,
    Option.map_eq_some_iff, Option.ite_none_right_eq_some,
    Option.some.injEq] at stepped
  obtain ⟨_, ⟨present, rfl⟩, rfl⟩ := stepped
  obtain ⟨clientIdx, connected⟩ := connected_of_exists present
  obtain ⟨closed, slots, left⟩ := routed.slots.leave connected
  have notFor :
      ∀ tid ∈ world.inFlight, tid >>> tidShift ≠ clientIdx := by
    intro tid member ofSlot
    refine idle tid member ?_
    rw [routed.slots.clientIdx?_eq connected, ofSlot]
  have nothingSent : sent [.close fd] = [] := rfl
  refine ⟨rfl, slots, ?_, ?_, ?_⟩
  · intro tid member
    have wasInFlight : tid ∈ world.inFlight := by
      simpa only [World.after, closed, nothingSent, List.append_nil] using
        member
    obtain ⟨other, wasConnected⟩ := routed.owner tid wasInFlight
    refine ⟨other, (left other _).mpr ⟨wasConnected, ?_⟩⟩
    rintro rfl
    exact notFor tid wasInFlight
      (routed.slots.idx_unique wasConnected connected)
  · intro other number isConnected
    obtain ⟨wasConnected, notLost⟩ := (left other number).mp isConnected
    obtain ⟨waiting, seen, waits⟩ := routed.waits other number wasConnected
    simp only [World.after, closed, nothingSent, List.append_nil]
    refine ⟨waiting, ?_, waits⟩
    rw [Observer.replay_append_other, seen]
    intro entry member
    rw [List.mem_singleton.mp member]
    exact Ne.symm notLost
  · intro other notConnected
    simp only [World.after]
    by_cases isLost : fd = other
    · subst isLost
      obtain ⟨waiting, seen, waits⟩ := routed.waits fd clientIdx connected
      rw [waitingFor_eq_nil notFor] at waits
      obtain rfl := List.Perm.eq_nil waits
      exact Observer.replay_snoc rfl seen rfl
    · have wasNotConnected :
          ∀ number, ¬ Connected world.proxy.clients other number :=
        fun number wasConnected =>
          notConnected number
            ((left other number).mpr ⟨wasConnected, Ne.symm isLost⟩)
      rw [Observer.replay_append_other, routed.shut other wasNotConnected]
      intro entry member
      rw [List.mem_singleton.mp member]
      exact isLost

end Routed

/-- No slot is in use at first. -/
theorem routed_initial
    {world : World}
    (isInitial : worlds.Initial world) :
    Routed world := by
  obtain ⟨proxyEq, nothing, noHistory⟩ := isInitial
  have allFree :
      ∀ client ∈ world.proxy.clients, client.clientFd = 0 := by
    intro client member
    rw [proxyEq] at member
    rw [List.eq_of_mem_replicate member]
  have free
      {i : Nat}
      {client : CmClient}
      (found : world.proxy.clients[i]? = some client) :
      ¬ 0 < client.clientFd := by
    rw [allFree client (List.mem_of_getElem? found)]
    exact Int.lt_irrefl 0
  have notConnected :
      ∀ fd clientIdx, ¬ Connected world.proxy.clients fd clientIdx := by
    rintro fd clientIdx ⟨isOpen, member⟩
    have isZero : fd = 0 := allFree _ member
    rw [isZero] at isOpen
    exact Int.lt_irrefl 0 isOpen
  refine ⟨by rw [proxyEq], ⟨by rw [proxyEq]; rfl, ?_, ?_⟩, ?_, ?_, ?_⟩
  · intro i client found isOpen
    exact absurd isOpen (free found)
  · intro i j client other found _ isOpen
    exact absurd isOpen (free found)
  · simp [nothing]
  · intro fd clientIdx connected
    exact absurd connected (notConnected fd clientIdx)
  · intro fd _
    rw [noHistory]
    rfl

/-- One patient step keeps the routes. -/
theorem routed_step
    {world next : World}
    {event : WorldEvent}
    (routed : Routed world)
    (patient : Patient world event)
    (stepped : worldStep? world event = some next) :
    Routed next := by
  cases event with
  | connect fd =>
      exact routed.connect stepped
  | request fd message =>
      exact routed.request patient.1 patient.2 stepped
  | answer message =>
      exact routed.answer stepped
  | notify message =>
      exact routed.notify stepped
  | disconnect fd =>
      exact routed.disconnect patient stepped

/-- Every patient run keeps the routes. -/
theorem routed_run
    {source target : World}
    {events : List WorldEvent}
    (isInitial : worlds.Initial source)
    (run : worlds.GuardedRun Patient source events target) :
    Routed target :=
  run.invariant Routed
    (fun _ _ _ routed patient stepped => routed_step routed patient stepped)
    (routed_initial isInitial)

/-- A message of the modem changes no slot. -/
theorem readDevice_clients
    {proxy : ProxyState}
    {message : List Byte}
    {outcome : ProxyState × List Output}
    (turned : turn? proxy (.readDevice message) = some outcome) :
    proxy.clients = outcome.1.clients := by
  simp only [turn?] at turned
  split at turned
  · rw [← Option.some.inj turned]
  · split at turned
    · obtain ⟨-, started⟩ := Option.ite_none_right_eq_some.mp turned
      rw [← Option.some.inj started]
    · rw [← Option.some.inj turned]

/-- The table of slots is sound in every state that the proxy reaches. -/
theorem slots_run
    {source target : World}
    {events : List WorldEvent}
    (isInitial : worlds.Initial source)
    (run : worlds.Run source events target) :
    Slots target.proxy.clients := by
  refine run.invariant (fun world => Slots world.proxy.clients) ?_
    (routed_initial isInitial).slots
  intro world event next slots _ stepped
  cases event with
  | connect fd =>
      simp only [worlds, worldStep?, turn?, Option.ite_none_left_eq_some,
        Option.map_eq_some_iff, Option.ite_none_right_eq_some,
        Option.some.injEq] at stepped
      obtain ⟨acceptable, _, ⟨-, rfl⟩, rfl⟩ := stepped
      obtain ⟨notClosed, notPresent⟩ := not_or.mp acceptable
      unfold handleClientConnect
      cases took : takeSlot fd 1 world.proxy.clients with
      | none =>
          exact slots
      | some taken =>
          exact
            (slots.take (Int.not_le.mp notClosed)
              (fun _ connected => notPresent ⟨_, connected.2, rfl⟩) took).1
  | request fd message =>
      simp only [worlds, worldStep?, turn?, Option.map_eq_some_iff,
        Option.ite_none_right_eq_some, Option.some.injEq] at stepped
      obtain ⟨_, ⟨-, rfl⟩, rfl⟩ := stepped
      exact slots
  | answer message =>
      simp only [worlds, worldStep?, Option.ite_none_right_eq_some,
        Option.map_eq_some_iff] at stepped
      obtain ⟨-, outcome, turned, rfl⟩ := stepped
      exact readDevice_clients turned ▸ slots
  | notify message =>
      simp only [worlds, worldStep?, Option.ite_none_right_eq_some,
        Option.map_eq_some_iff] at stepped
      obtain ⟨-, outcome, turned, rfl⟩ := stepped
      exact readDevice_clients turned ▸ slots
  | disconnect fd =>
      simp only [worlds, worldStep?, turn?, Option.map_eq_some_iff,
        Option.ite_none_right_eq_some, Option.some.injEq] at stepped
      obtain ⟨_, ⟨⟨-, present⟩, rfl⟩, rfl⟩ := stepped
      obtain ⟨clientIdx, connected⟩ := Routed.connected_of_exists present
      exact (slots.leave connected).2.1

/-- Two clients that use the same identifier at the same time. -/
def exampleCommand (tid : Byte) : List Byte :=
  [3, 0, 0, 0, 12, 0, 0, 0, tid, 0, 0, 0]

def exampleAnswer (tid slot : Byte) : List Byte :=
  [3, 0, 0, 0x80, 12, 0, 0, 0, tid, 0, 0, slot]

def exampleWorld : World where
  proxy := ⟨noClients, true⟩
  inFlight := []
  history := []

/-- The modem answers the second client first, and the second one leaves. -/
def exampleEvents : List WorldEvent :=
  [.connect 5, .connect 6,
    .request 5 (exampleCommand 7), .request 6 (exampleCommand 7),
    .answer (exampleAnswer 7 2), .disconnect 6]

theorem exampleWorld_initial : worlds.Initial exampleWorld :=
  ⟨rfl, rfl, rfl⟩

end RecomputerGateway.MbimProxy
