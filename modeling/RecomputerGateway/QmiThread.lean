import RecomputerGateway.CyclicIds
import RecomputerGateway.QmiProxy
import RecomputerGateway.QmuxStartRequest
import RecomputerGateway.Transition

namespace RecomputerGateway.QmiThread

open CyclicIds
open Hexadecimal (Byte)
open LittleEndian
open QmiProxy (QmiMessage qmuxTypeCtl revokeClientIdInd)
open QmuxStartRequest

/-!
# Requests to the modem and their responses

The main thread sends a request with `QmiThreadSendQMITimeout` and waits; the
thread that reads from the device hands every message to `QmiThreadRecvQMI`,
which takes it for the response, reports it to the main loop, or drops it.
Both share the request in hand and the response under one mutex.
-/

/-- The control service has a counter of its own. -/
inductive Kind where
  | control
  | service
  deriving DecidableEq

/-- The largest identifier of a kind. -/
def Kind.period : Kind → Nat
  | .control => 0xFF
  | .service => 0xFFFF

def kindOf (qmiType : Byte) : Kind :=
  if qmiType = qmuxTypeCtl then .control else .service

/-- `GetQCTLTransactionId` and `GetQMUXTransactionId`. -/
def nextTransactionId (kind : Kind) (counter : Nat) : Nat :=
  if kind.period < counter + 1 then 1 else counter + 1

/-- The identifier stands in one byte or in two. -/
def transactionId (message : QmiMessage) : Nat :=
  if message.qmiType = qmuxTypeCtl then message.transactionId.toNat
  else le16At message.bytes 7

/-- `is_response`. -/
def isResponse (request response : QmiMessage) : Bool :=
  if request.qmiType = response.qmiType ∧
      request.clientId = response.clientId then
    if request.qmiType = qmuxTypeCtl then
      decide (request.transactionId = response.transactionId)
    else decide (le16At request.bytes 7 = le16At response.bytes 7)
  else false

/-- What a response has in common with its request. -/
def ids (message : QmiMessage) : Byte × Byte × Nat :=
  (message.qmiType, message.clientId, transactionId message)

theorem isResponse_iff (request response : QmiMessage) :
    isResponse request response = true ↔ ids request = ids response := by
  unfold isResponse ids transactionId
  rw [Prod.mk.injEq, Prod.mk.injEq, ← and_assoc]
  by_cases same :
      request.qmiType = response.qmiType ∧
        request.clientId = response.clientId
  · rw [if_pos same, ← same.1, and_iff_right ⟨rfl, same.2⟩]
    split
    · exact decide_eq_true_iff.trans BitVec.toNat_inj.symm
    · exact decide_eq_true_iff
  · rw [if_neg same]
    exact iff_of_false Bool.false_ne_true fun all => same all.1

/-- A request before it has an identifier; it stays in the buffer. -/
structure Request where
  qmiType : Byte
  type : Nat
  body : List Byte
  short : body.length ≤ 243

/-- The header of `ComposeQCTLMsg`. -/
def qctlHeader (transactionId type length : Nat) : List Byte :=
  (1 :: le16 (length + 11)) ++ [0, 0, 0] ++
    [0, BitVec.ofNat 8 transactionId] ++ le16 type ++ le16 length

/-- `ComposeQCTLMsg` and `ComposeQMUXMsg`. -/
def compose (asked : Request) (tid : Nat) : QmiMessage :=
  if asked.qmiType = qmuxTypeCtl then
    ⟨qctlHeader tid asked.type asked.body.length ++ asked.body, by
      have size :
          le16At (qctlHeader tid asked.type asked.body.length ++ asked.body)
              1 =
            (asked.body.length + 11) % 65536 :=
        (le16At_append [1] _ 0).trans (le16At_le16 _ _)
      have short := asked.short
      have whole :
          (qctlHeader tid asked.type asked.body.length).length = 12 :=
        rfl
      rw [size, List.length_append, whole]
      omega⟩
  else
    ⟨header asked.qmiType tid asked.type asked.body.length ++ asked.body, by
      have short := asked.short
      rw [header_size, List.length_append, length_header]
      omega⟩

theorem qmiType_compose (asked : Request) (tid : Nat) :
    (compose asked tid).qmiType = asked.qmiType := by
  unfold compose
  split
  · rename_i isControl
    exact isControl.symm
  · rfl

/-- A composed request has its identifier. -/
theorem transactionId_compose
    (asked : Request)
    {tid : Nat}
    (small : tid ≤ (kindOf asked.qmiType).period) :
    transactionId (compose asked tid) = tid := by
  rw [transactionId, qmiType_compose, compose]
  unfold kindOf at small
  by_cases isControl : asked.qmiType = qmuxTypeCtl
  · simp only [if_pos isControl] at small ⊢
    exact (BitVec.toNat_ofNat tid 8).trans (Nat.mod_eq_of_lt
      (Nat.lt_succ_of_le small))
  · simp only [if_neg isControl] at small ⊢
    rw [header_transactionId]
    exact Nat.mod_eq_of_lt (Nat.lt_succ_of_le small)

theorem byteAt_set_of_ne
    (bytes : List Byte)
    {offset other : Nat}
    (value : Byte)
    (differ : offset ≠ other) :
    byteAt (bytes.set offset value) other = byteAt bytes other := by
  rw [byteAt, List.getD_eq_getElem?_getD, List.getElem?_set_ne differ,
    ← List.getD_eq_getElem?_getD, byteAt]

/-- A message keeps its length when a byte behind that is changed. -/
theorem sized_set
    (message : QmiMessage)
    {offset : Nat}
    (value : Byte)
    (behind : 3 ≤ offset) :
    (message.bytes.set offset value).length =
      le16At (message.bytes.set offset value) 1 + 1 := by
  have low : offset ≠ 1 := by omega
  have high : offset ≠ 2 := by omega
  rw [List.length_set, le16At, byteAt_set_of_ne _ value low,
    byteAt_set_of_ne _ value high]
  exact message.sized

/-- A byte behind the length of a message is changed. -/
def setByte
    (message : QmiMessage)
    (offset : Nat)
    (value : Byte)
    (behind : 3 ≤ offset) : QmiMessage :=
  ⟨message.bytes.set offset value, sized_set message value behind⟩

theorem le16At_setByte_of_lt
    (message : QmiMessage)
    {offset other : Nat}
    (value : Byte)
    (behind : 3 ≤ offset)
    (before : offset < other) :
    le16At (setByte message offset value behind).bytes other =
      le16At message.bytes other := by
  rw [le16At, setByte, byteAt_set_of_ne _ value (Nat.ne_of_lt before),
    byteAt_set_of_ne _ value (Nat.ne_of_lt (Nat.lt_succ_of_lt before)),
    le16At]

/-- `s_pRequest`, `s_pResponse`, and what `QmiWwanCM.c` keeps. -/
structure Statics where
  pRequest : Option QmiMessage
  pResponse : Option QmiMessage
  counter : Kind → Nat
  qmiClientId : Byte → Byte
  deviceOpen : Bool

def qmuxTypeWdsIpv6 : Byte := 0x11

/-- `QmiWwanSendQMI`: the request afterwards, and whether it was written. -/
def qmiWwanSendQmi
    (state : Statics)
    (message : QmiMessage)
    (writes : Bool) : QmiMessage × Bool :=
  if state.deviceOpen = false then (message, false)
  else if message.qmiType = qmuxTypeCtl then (message, writes)
  else
    let client := state.qmiClientId message.qmiType
    let addressed := setByte message 5 client (by decide)
    if client = 0 then (addressed, false)
    else if message.qmiType = qmuxTypeWdsIpv6 then
      (setByte addressed 4 qmuxTypeWds (by decide), writes)
    else (addressed, writes)

/-- What the main loop is told about. -/
inductive Report where
  | modemReset
  | networkStateChanged
  | dataCallListChanged
  | loopbackConfig (setLoopBackInd : List Byte)
  deriving DecidableEq

def qmuxTypeNas : Byte := 0x03

def qmuxTypeWdsAdmin : Byte := 0x1A

/-- The indications that are reported. -/
def servingSystemInd : Nat := 0x0024

def getPktSrvcStatusInd : Nat := 0x0022

def sysInfoInd : Nat := 0x004E

def setLoopbackConfigInd : Nat := 0x002F

/-- The report that `QmiThreadRecvQMI` makes of a message, if any. -/
def reportOf (message : QmiMessage) : Option Report :=
  if message.qmiType = qmuxTypeCtl ∧
      message.qmiCtlType = revokeClientIdInd then
    some .modemReset
  else if message.qmiType = qmuxTypeNas ∧
      le16At message.bytes 9 = servingSystemInd then
    some .networkStateChanged
  else if message.qmiType = qmuxTypeWds ∧
      le16At message.bytes 9 = getPktSrvcStatusInd then
    some .dataCallListChanged
  else if message.qmiType = qmuxTypeNas ∧
      le16At message.bytes 9 = sysInfoInd then
    some .networkStateChanged
  else if message.qmiType = qmuxTypeWdsAdmin ∧
      le16At message.bytes 9 = setLoopbackConfigInd then
    some (.loopbackConfig ((message.bytes.drop 9).take 15))
  else none

/-- There is a request in hand, and the message is its response. -/
def takes (state : Statics) (message : QmiMessage) : Bool :=
  state.pRequest.any fun request => isResponse request message

/-- `QmiThreadRecvQMI` of a message. -/
def qmiThreadRecvQmi
    (state : Statics)
    (message : QmiMessage) : Statics × Option Report :=
  if takes state message then
    ({ state with pRequest := none, pResponse := some message }, none)
  else (state, reportOf message)

/-- `QmiThreadRecvQMI(NULL)`. -/
def qmiThreadRecvNull (state : Statics) : Statics :=
  if state.pRequest.isSome then
    { state with pRequest := none, pResponse := none }
  else state

/-- Which request of its kind it is. -/
structure Ticket where
  kind : Kind
  number : Nat
  deriving DecidableEq

structure Entry where
  ticket : Ticket
  message : QmiMessage
  deriving DecidableEq

/-- A call of `QmiThreadSendQMITimeout` that has returned from its wait. -/
structure Completion where
  ticket : Ticket
  response : Option QmiMessage
  deriving DecidableEq

/-- The two threads and what they have exchanged with the modem. -/
structure World where
  state : Statics
  composed : Kind → Nat
  /-- The request of `s_pRequest`, also after it was answered. -/
  last : Option Ticket
  waiting : Option Ticket
  written : List Entry
  answers : List Entry
  indications : List QmiMessage
  completed : List Completion
  reports : List Report

inductive Event where
  | request (asked : Request) (writes : Bool)
  | answer (ticket : Ticket) (message : QmiMessage)
  | indicate (message : QmiMessage)
  /-- The wait ends, with a signal or by itself. -/
  | woken
  | timeout
  | closed
  | granted (qmiType clientId : Byte)
  | device (isOpen : Bool)

/-- A request is composed and `QmiThreadSendQMITimeout` is called. -/
def World.request
    (world : World)
    (asked : Request)
    (writes : Bool) : World :=
  let kind := kindOf asked.qmiType
  let tid := nextTransactionId kind (world.state.counter kind)
  let sent := qmiWwanSendQmi world.state (compose asked tid) writes
  let ticket := ⟨kind, world.composed kind⟩
  { world with
    state :=
      { world.state with
        pRequest := some sent.1
        pResponse := none
        counter := Function.update world.state.counter kind tid }
    composed :=
      Function.update world.composed kind (world.composed kind + 1)
    last := some ticket
    waiting := if sent.2 then some ticket else none
    written :=
      if sent.2 then world.written ++ [⟨ticket, sent.1⟩]
      else world.written }

def World.receive (world : World) (message : QmiMessage) : World :=
  let received := qmiThreadRecvQmi world.state message
  { world with
    state := received.1
    reports := world.reports ++ received.2.toList }

/-- The wait is over. -/
def World.complete
    (world : World)
    (ticket : Ticket)
    (response : Option QmiMessage) : World :=
  { world with
    waiting := none
    completed := world.completed ++ [⟨ticket, response⟩] }

def step? (world : World) : Event → Option World
  | .request asked writes =>
      if world.waiting = none then some (world.request asked writes)
      else none
  | .answer ticket message =>
      if ∃ entry ∈ world.written,
          entry.ticket = ticket ∧ ids entry.message = ids message then
        some
          { world.receive message with
            answers := world.answers ++ [⟨ticket, message⟩] }
      else none
  | .indicate message =>
      some
        { world.receive message with
          indications := world.indications ++ [message] }
  | .woken =>
      world.waiting.map fun ticket =>
        world.complete ticket world.state.pResponse
  | .timeout =>
      -- `s_pRequest` stays, so that a late answer is still taken for it
      world.waiting.map fun ticket => world.complete ticket none
  | .closed =>
      some { world with state := qmiThreadRecvNull world.state }
  | .granted qmiType clientId =>
      some
        { world with
          state :=
            { world.state with
              qmiClientId :=
                Function.update world.state.qmiClientId qmiType clientId } }
  | .device isOpen =>
      some { world with state := { world.state with deviceOpen := isOpen } }

/-- The program before its first request. -/
def booted : World where
  state := ⟨none, none, fun _ => 0, fun _ => 0, false⟩
  composed := fun _ => 0
  last := none
  waiting := none
  written := []
  answers := []
  indications := []
  completed := []
  reports := []

def threads : System World Event where
  Initial world := world = booted
  step? := step?

/-- Sending changes neither the kind nor the identifier of a request. -/
theorem qmiWwanSendQmi_keeps
    (state : Statics)
    (message : QmiMessage)
    (writes : Bool) :
    kindOf (qmiWwanSendQmi state message writes).1.qmiType =
        kindOf message.qmiType ∧
      transactionId (qmiWwanSendQmi state message writes).1 =
        transactionId message := by
  unfold qmiWwanSendQmi
  by_cases isOpen : state.deviceOpen = false
  · rw [if_pos isOpen]
    exact ⟨rfl, rfl⟩
  by_cases isControl : message.qmiType = qmuxTypeCtl
  · rw [if_neg isOpen, if_pos isControl]
    exact ⟨rfl, rfl⟩
  rw [if_neg isOpen, if_neg isControl]
  dsimp only
  generalize state.qmiClientId message.qmiType = client
  have addressedType :
      (setByte message 5 client (by decide)).qmiType = message.qmiType :=
    byteAt_set_of_ne message.bytes client (by decide)
  have addressedId :
      le16At (setByte message 5 client (by decide)).bytes 7 =
        le16At message.bytes 7 :=
    le16At_setByte_of_lt message client (by decide) (by decide)
  have addressedKeeps :
      kindOf (setByte message 5 client (by decide)).qmiType =
          kindOf message.qmiType ∧
        transactionId (setByte message 5 client (by decide)) =
          transactionId message := by
    unfold transactionId
    rw [addressedType, if_neg isControl, if_neg isControl, addressedId]
    exact ⟨rfl, rfl⟩
  by_cases noClient : client = 0
  · rw [if_pos noClient]
    exact addressedKeeps
  by_cases isIpv6 : message.qmiType = qmuxTypeWdsIpv6
  · rw [if_neg noClient, if_pos isIpv6]
    have long : 4 < message.bytes.length := by
      by_contra short
      have zero : message.qmiType = 0 :=
        List.getD_eq_default _ _ (Nat.le_of_not_lt short)
      exact isControl zero
    have isWds :
        (setByte (setByte message 5 client (by decide)) 4 qmuxTypeWds
          (by decide)).qmiType = qmuxTypeWds := by
      rw [QmiMessage.qmiType, byteAt, setByte, List.getD_eq_getElem?_getD,
        List.getElem?_set_self (by rwa [setByte, List.length_set])]
      rfl
    have keepsId :
        le16At
            (setByte (setByte message 5 client (by decide)) 4 qmuxTypeWds
              (by decide)).bytes 7 =
          le16At message.bytes 7 :=
      (le16At_setByte_of_lt _ qmuxTypeWds (by decide) (by decide)).trans
        addressedId
    unfold transactionId
    rw [isWds, keepsId, if_neg isControl, kindOf, kindOf, if_neg isControl]
    exact ⟨rfl, rfl⟩
  · rw [if_neg noClient, if_neg isIpv6]
    exact addressedKeeps

/-- The counter holds the identifier of the request before. -/
def Counts (period : Nat) : Nat → Nat → Prop
  | 0, counter => counter = 0
  | number + 1, counter => counter = idOf period number

theorem Counts.next
    {kind : Kind}
    {composed counter : Nat}
    (counts : Counts kind.period composed counter) :
    nextTransactionId kind counter = idOf kind.period composed := by
  have positive : 0 < kind.period := by
    cases kind <;> decide
  cases composed with
  | zero =>
      obtain rfl := counts
      rw [nextTransactionId, if_neg (Nat.not_lt.mpr positive), idOf,
        Nat.zero_mod]
  | succ number =>
      obtain rfl := counts
      have bounded := idOf_le kind.period number positive
      rw [idOf_succ _ _ positive, nextTransactionId]
      by_cases last : idOf kind.period number = kind.period
      · rw [if_pos last, if_pos (by omega)]
      · rw [if_neg last, if_neg (by omega)]

/-- The ticket of the request that is composed next. -/
def World.nextTicket (world : World) (asked : Request) : Ticket :=
  ⟨kindOf asked.qmiType, world.composed (kindOf asked.qmiType)⟩

/-- The request as it is sent, and whether it was written. -/
def World.sent
    (world : World)
    (asked : Request)
    (writes : Bool) : QmiMessage × Bool :=
  qmiWwanSendQmi world.state
    (compose asked
      (nextTransactionId (kindOf asked.qmiType)
        (world.state.counter (kindOf asked.qmiType)))) writes

section Requests

variable
  (world : World)
  {asked : Request}
  {writes : Bool}

/-- A request is added to what was written if the write succeeds. -/
theorem World.mem_written_request {entry : Entry} :
    entry ∈ (world.request asked writes).written ↔
      entry ∈ world.written ∨
        (world.sent asked writes).2 = true ∧
          entry =
            ⟨world.nextTicket asked, (world.sent asked writes).1⟩ := by
  change
    entry ∈
        (if (world.sent asked writes).2 then
          world.written ++
            [⟨world.nextTicket asked, (world.sent asked writes).1⟩]
        else world.written) ↔ _
  cases (world.sent asked writes).2 with
  | true =>
      rw [if_pos rfl, List.mem_append, List.mem_singleton]
      exact or_congr_right (and_iff_right rfl).symm
  | false =>
      exact (or_iff_left fun both => Bool.false_ne_true both.1).symm

theorem World.mem_waiting_request {ticket : Ticket} :
    ticket ∈ (world.request asked writes).waiting ↔
      (world.sent asked writes).2 = true ∧
        ticket = world.nextTicket asked := by
  change
    (if (world.sent asked writes).2 then some (world.nextTicket asked)
      else none) = some ticket ↔ _
  cases (world.sent asked writes).2 with
  | true =>
      rw [if_pos rfl, Option.some_inj]
      exact eq_comm.trans (and_iff_right rfl).symm
  | false =>
      exact
        iff_of_false (fun none => nomatch none) fun both =>
          Bool.false_ne_true both.1

theorem World.composed_nextTicket (asked : Request) (writes : Bool) :
    (world.request asked writes).composed (world.nextTicket asked).kind =
      (world.nextTicket asked).number + 1 :=
  Function.update_self _ _ _

/-- More requests of a kind only move its count up. -/
theorem World.composed_le_request
    (asked : Request)
    (writes : Bool)
    (kind : Kind) :
    world.composed kind ≤ (world.request asked writes).composed kind := by
  unfold World.request
  dsimp only
  by_cases same : kind = kindOf asked.qmiType
  · obtain rfl := same
    rw [Function.update_self]
    exact Nat.le_succ _
  · rw [Function.update_of_ne same]

end Requests

/-- Receiving a message that is not taken changes nothing but the reports. -/
theorem receive_of_not_takes
    {world : World}
    {message : QmiMessage}
    (notTaken : takes world.state message = false) :
    world.receive message =
      { world with
        reports := world.reports ++ (reportOf message).toList } := by
  unfold World.receive qmiThreadRecvQmi
  rw [notTaken]
  rfl

theorem receive_of_takes
    {world : World}
    {message : QmiMessage}
    (taken : takes world.state message = true) :
    world.receive message =
      { world with
        state :=
          { world.state with
            pRequest := none
            pResponse := some message } } := by
  unfold World.receive qmiThreadRecvQmi
  rw [taken]
  dsimp only
  rw [if_pos rfl, Option.toList_none, List.append_nil]

/-- A message that is taken has what the request in hand has. -/
theorem ids_of_takes
    {state : Statics}
    {message : QmiMessage}
    (taken : takes state message = true) :
    ∃ request ∈ state.pRequest, ids request = ids message := by
  obtain ⟨request, isPending, isTaken⟩ := (Option.any_eq_true _ _).mp taken
  exact ⟨request, isPending, (isResponse_iff _ _).mp isTaken⟩

/--
The modem answers none of the requests that a whole period has been composed
after, and an indication does not look like the response to the request in
hand.
-/
def Timely (world : World) : Event → Prop
  | .answer ticket _ =>
      world.composed ticket.kind ≤ ticket.number + ticket.kind.period
  | .indicate message => takes world.state message = false
  | _ => True

instance (world : World) (event : Event) :
    Decidable (Timely world event) :=
  match event with
  | .answer _ _ => inferInstanceAs (Decidable (_ ≤ _))
  | .indicate _ => inferInstanceAs (Decidable (_ = _))
  | .request _ _ => .isTrue trivial
  | .woken => .isTrue trivial
  | .timeout => .isTrue trivial
  | .closed => .isTrue trivial
  | .granted _ _ => .isTrue trivial
  | .device _ => .isTrue trivial

/-- A message has the kind and the identifier of the request of a ticket. -/
def Names (ticket : Ticket) (message : QmiMessage) : Prop :=
  kindOf message.qmiType = ticket.kind ∧
    transactionId message = idOf ticket.kind.period ticket.number

theorem Names.of_ids
    {ticket : Ticket}
    {message other : QmiMessage}
    (names : Names ticket message)
    (same : ids message = ids other) :
    Names ticket other := by
  obtain ⟨sameType, sameRest⟩ := Prod.mk.inj same
  obtain ⟨-, sameId⟩ := Prod.mk.inj sameRest
  exact ⟨sameType ▸ names.1, sameId.symm.trans names.2⟩

/-- Less than a period apart, a message names one request. -/
theorem Names.unique
    {older newer : Ticket}
    {message : QmiMessage}
    (ofOlder : Names older message)
    (ofNewer : Names newer message)
    {composed : Kind → Nat}
    (isLast : composed newer.kind = newer.number + 1)
    (bounded : older.number < composed older.kind)
    (near : composed older.kind ≤ older.number + older.kind.period) :
    newer = older := by
  obtain ⟨kind, number⟩ := older
  obtain ⟨newerKind, newerNumber⟩ := newer
  obtain rfl : newerKind = kind := ofNewer.1.symm.trans ofOlder.1
  dsimp only at isLast bounded near
  have same :
      idOf newerKind.period newerNumber = idOf newerKind.period number :=
    ofNewer.2.symm.trans ofOlder.2
  have isIt : newerNumber = number :=
    eq_of_idOf_eq (by omega) (by omega) same
  rw [isIt]

/--
The requests have the identifiers of their tickets, the request in hand is the
last one, and what is held for it or was returned is an answer to it.
-/
structure Matched (world : World) : Prop where
  counts :
    ∀ kind : Kind,
      Counts kind.period (world.composed kind) (world.state.counter kind)
  names :
    ∀ entry ∈ world.written,
      Names entry.ticket entry.message ∧
        entry.ticket.number < world.composed entry.ticket.kind
  latest :
    ∀ ticket ∈ world.last, world.composed ticket.kind = ticket.number + 1
  pending :
    ∀ request ∈ world.state.pRequest,
      ∃ ticket ∈ world.last, Names ticket request
  held :
    ∀ message ∈ world.state.pResponse,
      ∃ ticket ∈ world.last, ⟨ticket, message⟩ ∈ world.answers
  waits :
    ∀ ticket ∈ world.waiting,
      world.last = some ticket ∧
        (∃ entry ∈ world.written, entry.ticket = ticket) ∧
        ∀ completion ∈ world.completed, completion.ticket ≠ ticket
  returned :
    ∀ completion ∈ world.completed,
      completion.ticket.number < world.composed completion.ticket.kind ∧
        (∃ entry ∈ world.written, entry.ticket = completion.ticket) ∧
        ∀ message ∈ completion.response,
          ⟨completion.ticket, message⟩ ∈ world.answers
  once : (world.completed.map (·.ticket)).Nodup

namespace Matched

theorem initial : Matched booted where
  counts := fun _ => rfl
  names := fun _ member => nomatch member
  latest := fun _ none => nomatch none
  pending := fun _ none => nomatch none
  held := fun _ none => nomatch none
  waits := fun _ none => nomatch none
  returned := fun _ member => nomatch member
  once := .nil

variable {world : World}

/-- What is sent has the kind and the identifier of its ticket. -/
theorem names_sent
    (matched : Matched world)
    (asked : Request)
    (writes : Bool) :
    Names (world.nextTicket asked) (world.sent asked writes).1 := by
  have isNext := (matched.counts (kindOf asked.qmiType)).next
  have positive : 0 < (kindOf asked.qmiType).period := by
    cases kindOf asked.qmiType <;> decide
  have small :
      nextTransactionId (kindOf asked.qmiType)
          (world.state.counter (kindOf asked.qmiType)) ≤
        (kindOf asked.qmiType).period := by
    rw [isNext]
    exact idOf_le _ _ positive
  obtain ⟨sameKind, sameId⟩ :=
    qmiWwanSendQmi_keeps world.state
      (compose asked
        (nextTransactionId (kindOf asked.qmiType)
          (world.state.counter (kindOf asked.qmiType)))) writes
  rw [qmiType_compose] at sameKind
  exact
    ⟨sameKind, sameId.trans ((transactionId_compose asked small).trans isNext)⟩

theorem counts_request
    (matched : Matched world)
    (asked : Request)
    (writes : Bool)
    (kind : Kind) :
    Counts kind.period ((world.request asked writes).composed kind)
      ((world.request asked writes).state.counter kind) := by
  unfold World.request
  dsimp only
  by_cases same : kind = kindOf asked.qmiType
  · obtain rfl := same
    rw [Function.update_self, Function.update_self]
    exact (matched.counts (kindOf asked.qmiType)).next
  · rw [Function.update_of_ne same, Function.update_of_ne same]
    exact matched.counts kind

theorem request
    (matched : Matched world)
    (asked : Request)
    (writes : Bool) :
    Matched (world.request asked writes) := by
  have newest := world.composed_nextTicket asked writes
  have later := world.composed_le_request asked writes
  have named := matched.names_sent asked writes
  have isNew :
      ∀ completion ∈ world.completed,
        completion.ticket ≠ world.nextTicket asked := by
    rintro completion member same
    have bounded := (matched.returned completion member).1
    rw [same] at bounded
    exact Nat.lt_irrefl _ bounded
  constructor
  case counts => exact matched.counts_request asked writes
  case names =>
    intro entry member
    rcases world.mem_written_request.mp member with earlier | ⟨-, rfl⟩
    · obtain ⟨names, bounded⟩ := matched.names entry earlier
      exact ⟨names, Nat.lt_of_lt_of_le bounded (later _)⟩
    · exact ⟨named, Nat.lt_of_lt_of_eq (Nat.lt_succ_self _) newest.symm⟩
  case latest =>
    intro ticket isLast
    obtain rfl := Option.some.inj isLast
    exact newest
  case pending =>
    intro message isPending
    obtain rfl := Option.some.inj isPending
    exact ⟨_, rfl, named⟩
  case held => exact fun _ none => nomatch none
  case waits =>
    intro ticket isWaiting
    obtain ⟨wrote, rfl⟩ := world.mem_waiting_request.mp isWaiting
    exact
      ⟨rfl,
        ⟨_, world.mem_written_request.mpr (Or.inr ⟨wrote, rfl⟩), rfl⟩,
        isNew⟩
  case returned =>
    intro completion member
    obtain ⟨bounded, ⟨entry, isEntry, ofTicket⟩, answered⟩ :=
      matched.returned completion member
    exact
      ⟨Nat.lt_of_lt_of_le bounded (later _),
        ⟨entry, world.mem_written_request.mpr (Or.inl isEntry), ofTicket⟩,
        answered⟩
  case once => exact matched.once

theorem answer
    {ticket : Ticket}
    {message : QmiMessage}
    (matched : Matched world)
    (timely : Timely world (.answer ticket message))
    (asked :
      ∃ entry ∈ world.written,
        entry.ticket = ticket ∧ ids entry.message = ids message) :
    Matched
      { world.receive message with
        answers := world.answers ++ [⟨ticket, message⟩] } := by
  have returned :
      ∀ completion ∈ world.completed,
        completion.ticket.number < world.composed completion.ticket.kind ∧
          (∃ entry ∈ world.written, entry.ticket = completion.ticket) ∧
          ∀ response ∈ completion.response,
            ⟨completion.ticket, response⟩ ∈
              world.answers ++ [⟨ticket, message⟩] := by
    intro completion member
    obtain ⟨bounded, isWritten, answered⟩ :=
      matched.returned completion member
    exact
      ⟨bounded, isWritten, fun response isResponse =>
        List.mem_append_left _ (answered response isResponse)⟩
  cases taken : takes world.state message with
  | false =>
      rw [receive_of_not_takes taken]
      refine
        ⟨matched.counts, matched.names, matched.latest, matched.pending, ?_,
          matched.waits, returned, matched.once⟩
      intro response isHeld
      obtain ⟨last, isLast, given⟩ := matched.held response isHeld
      exact ⟨last, isLast, List.mem_append_left _ given⟩
  | true =>
      -- The identifiers agree, so that the answer is for the last request.
      obtain ⟨request, isPending, sameRequest⟩ := ids_of_takes taken
      obtain ⟨last, isLast, ofLast⟩ := matched.pending request isPending
      obtain ⟨entry, isWritten, rfl, sameEntry⟩ := asked
      obtain ⟨ofEntry, bounded⟩ := matched.names entry isWritten
      have isIt : last = entry.ticket :=
        (ofEntry.of_ids sameEntry).unique (ofLast.of_ids sameRequest)
          (matched.latest last isLast) bounded timely
      rw [receive_of_takes taken]
      refine
        ⟨matched.counts, matched.names, matched.latest,
          fun _ none => (nomatch none), ?_, matched.waits, returned,
          matched.once⟩
      intro response isHeld
      obtain rfl := Option.some.inj isHeld
      exact
        ⟨last, isLast,
          List.mem_append_right _ (List.mem_singleton.mpr (isIt ▸ rfl))⟩

/-- The wait is over, with what is held or with nothing. -/
theorem complete
    {ticket : Ticket}
    {response : Option QmiMessage}
    (matched : Matched world)
    (isWaiting : world.waiting = some ticket)
    (isHeld : ∀ message ∈ response, message ∈ world.state.pResponse) :
    Matched (world.complete ticket response) := by
  obtain ⟨isLast, isWritten, isNew⟩ := matched.waits ticket isWaiting
  refine
    ⟨matched.counts, matched.names, matched.latest, matched.pending,
      matched.held, fun _ none => (nomatch none), ?_, ?_⟩
  · intro completion member
    rcases List.mem_append.mp member with earlier | isThis
    · exact matched.returned completion earlier
    · obtain rfl := List.mem_singleton.mp isThis
      have isLatest := matched.latest ticket isLast
      have bounded :
          ticket.number < world.composed ticket.kind := by
        rw [isLatest]
        exact Nat.lt_succ_self _
      refine ⟨bounded, isWritten, ?_⟩
      intro message isResponse
      obtain ⟨last, isLast', given⟩ :=
        matched.held message (isHeld message isResponse)
      obtain rfl := Option.some.inj (isLast.symm.trans isLast')
      exact given
  · have separate :
        ∀ earlier ∈ world.completed.map (·.ticket),
          earlier ≠ ticket := by
      intro earlier member
      obtain ⟨completion, isCompletion, rfl⟩ := List.mem_map.mp member
      exact isNew completion isCompletion
    rw [World.complete, List.map_append]
    refine List.nodup_append.mpr ⟨matched.once, List.pairwise_singleton _ _, ?_⟩
    intro earlier member new isThis
    rw [List.mem_singleton.mp isThis]
    exact separate earlier member


/-- One step keeps the requests and their answers matched. -/
theorem step
    {next : World}
    {event : Event}
    (matched : Matched world)
    (timely : Timely world event)
    (stepped : threads.step? world event = some next) :
    Matched next := by
  cases event with
  | request asked writes =>
      obtain ⟨-, moved⟩ := Option.ite_none_right_eq_some.mp stepped
      obtain rfl := Option.some.inj moved
      exact matched.request asked writes
  | answer ticket message =>
      obtain ⟨asked, moved⟩ := Option.ite_none_right_eq_some.mp stepped
      obtain rfl := Option.some.inj moved
      exact matched.answer timely asked
  | indicate message =>
      obtain rfl := Option.some.inj stepped
      rw [receive_of_not_takes timely]
      exact
        ⟨matched.counts, matched.names, matched.latest, matched.pending,
          matched.held, matched.waits, matched.returned, matched.once⟩
  | woken =>
      obtain ⟨ticket, isWaiting, rfl⟩ := Option.map_eq_some_iff.mp stepped
      exact matched.complete isWaiting fun _ isHeld => isHeld
  | timeout =>
      obtain ⟨ticket, isWaiting, rfl⟩ := Option.map_eq_some_iff.mp stepped
      exact matched.complete isWaiting fun _ none => nomatch none
  | closed =>
      obtain rfl := Option.some.inj stepped
      unfold qmiThreadRecvNull
      split
      · exact
          ⟨matched.counts, matched.names, matched.latest,
            fun _ none => (nomatch none), fun _ none => (nomatch none),
            matched.waits, matched.returned, matched.once⟩
      · exact matched
  | granted qmiType clientId =>
      obtain rfl := Option.some.inj stepped
      exact
        ⟨matched.counts, matched.names, matched.latest, matched.pending,
          matched.held, matched.waits, matched.returned, matched.once⟩
  | device isOpen =>
      obtain rfl := Option.some.inj stepped
      exact
        ⟨matched.counts, matched.names, matched.latest, matched.pending,
          matched.held, matched.waits, matched.returned, matched.once⟩

end Matched

/--
In a timely run every call returns from its wait at most once, for a request
that was written, and a response that it returns is an answer of the modem to
that very request.
-/
theorem sends_get_own_response
    {target : World}
    {events : List Event}
    (run : threads.GuardedRun Timely booted events target) :
    (target.completed.map (·.ticket)).Nodup ∧
      ∀ completion ∈ target.completed,
        (∃ entry ∈ target.written, entry.ticket = completion.ticket) ∧
          ∀ message ∈ completion.response,
            ⟨completion.ticket, message⟩ ∈ target.answers := by
  have matched : Matched target :=
    run.invariant Matched
      (fun _ _ _ matched timely stepped => matched.step timely stepped)
      Matched.initial
  exact
    ⟨matched.once,
      fun completion member => (matched.returned completion member).2⟩

/-- A question for the state of the data call, and two answers to it. -/
def statusRequest : Request := ⟨qmuxTypeWds, 0x22, [], Nat.zero_le _⟩

def statusAnswer (tid : Byte) : QmiMessage :=
  ⟨[1, 12, 0, 0x80, 1, 5, 2, tid, 0, 0x22, 0, 0, 0], rfl⟩

def lateEvents : List Event :=
  [.device true, .granted qmuxTypeWds 5, .request statusRequest true,
    .timeout, .request statusRequest true,
    .answer ⟨.service, 0⟩ (statusAnswer 1),
    .answer ⟨.service, 1⟩ (statusAnswer 2), .woken]

/-- The late answer to the first request is not the response to the second. -/
theorem sends_get_own_response_late :
    ∃ target,
      threads.GuardedRun Timely booted lateEvents target ∧
        target.completed =
          [⟨⟨.service, 0⟩, none⟩,
            ⟨⟨.service, 1⟩, some (statusAnswer 2)⟩] ∧
        ⟨⟨.service, 1⟩, statusAnswer 2⟩ ∈ target.answers := by
  have accepted :
      (threads.runWhile? (fun world event => decide (Timely world event))
          booted lateEvents).map (·.completed) =
        some
          [⟨⟨.service, 0⟩, none⟩,
            ⟨⟨.service, 1⟩, some (statusAnswer 2)⟩] := by
    decide +kernel
  obtain ⟨target, reached, completed⟩ := Option.map_eq_some_iff.mp accepted
  have run :=
    System.guardedRun_of_runWhile? Timely
      (fun world event checked => of_decide_eq_true checked) reached
  have second :
      (⟨⟨.service, 1⟩, some (statusAnswer 2)⟩ : Completion) ∈
        target.completed := by
    rw [completed]
    exact .tail _ (.head _)
  exact
    ⟨target, run, completed,
      ((sends_get_own_response run).2 _ second).2 _ rfl⟩

end RecomputerGateway.QmiThread
