import Mathlib.Data.List.Nodup
import RecomputerGateway.KeyedReplay
import RecomputerGateway.QmiProxy
import RecomputerGateway.Transition

namespace RecomputerGateway.QmiProxy

open Hexadecimal (Byte)

/-!
# What each client of the QMI proxy sees

The proxy runs between its clients and a modem that answers the control
requests written to it one after the other.  A client should see a server of
its own: every request that the proxy takes is answered once, in the order of
sending, and nothing else is answered to it.  `Session` says so from the point
of view of one descriptor; the invariant `Orderly` connects it to the queue of
the proxy.  The history has all that is read from the clients, also what the
proxy drops.
-/

/-- What happens on the descriptors, in the order in which it happens. -/
inductive Entry where
  | opened (fd : Int)
  | requested (fd : Int) (message : QmiMessage)
  | passed (fd : Int) (message : QmiMessage)
  | dropped (fd : Int) (bytes : List Byte)
  | answered (fd : Int) (message : QmiMessage)
  | closed (fd : Int)
  deriving DecidableEq

/-- The descriptor of an entry. -/
def Entry.fd : Entry → Int
  | .opened fd => fd
  | .requested fd _ => fd
  | .passed fd _ => fd
  | .dropped fd _ => fd
  | .answered fd _ => fd
  | .closed fd => fd

/-- A client's own server: the requests that it has yet to answer. -/
inductive Session where
  | shut
  | serving (waiting : List QmiMessage)
  deriving DecidableEq

/--
A server that answers in order, and is left when it owes no answer; what is
dropped or for another service is owed none.
-/
def Session.serve : Session → Entry → Option Session
  | .shut, .opened _ => some (.serving [])
  | .serving waiting, .requested _ message =>
      some (.serving (waiting ++ [message]))
  | .serving waiting, .passed _ _ => some (.serving waiting)
  | .serving waiting, .dropped _ _ => some (.serving waiting)
  | .serving (first :: rest), .answered _ message =>
      if Answers message first then some (.serving rest) else none
  | .serving [], .closed _ => some .shut
  | _, _ => none

/-- What the client of a descriptor sees of its own server. -/
def clientView : Observer Int Entry Session where
  party := Entry.fd
  start := .shut
  next? := Session.serve

/-- The proxy, the modem, and what has happened on the descriptors. -/
structure World where
  proxy : ProxyState
  -- The control requests that the modem has got and not answered.
  pending : List QmiMessage
  -- The client identifiers that the modem has granted and not got back.
  allocated : List (Byte × Byte)
  history : List Entry

/-- Events of the clients and of the modem. -/
inductive WorldEvent where
  | connect (fd : Int)
  | request (ready : Readiness) (fd : Int) (bytes : List Byte)
  | answer (ready : Readiness) (bytes : List Byte)
  | notify (ready : Readiness) (bytes : List Byte)
  | disconnect (ready : Readiness) (fd : Int)
  deriving DecidableEq

/-- The control requests among the outputs of the proxy. -/
def written (outputs : List Output) : List QmiMessage :=
  outputs.filterMap fun output =>
    match output with
    | .toDevice message =>
        if message.qmiType = qmuxTypeCtl then some message else none
    | .toClient _ _ => none
    | .close _ => none

/-- The answers among the outputs of the proxy. -/
def answers (outputs : List Output) : List Entry :=
  outputs.filterMap fun output =>
    match output with
    | .toClient fd message => some (.answered fd message)
    | .toDevice _ => none
    | .close _ => none

/-- Whether the modem reports success. -/
def Succeeded (answer : QmiMessage) : Prop :=
  answer.qmiResult = 0 ∧ answer.qmiError = 0

instance (answer : QmiMessage) : Decidable (Succeeded answer) :=
  inferInstanceAs (Decidable (_ ∧ _))

/--
The identifiers that the modem keeps after an answer; `none` for an answer
that it does not give: it grants identifiers that are not in use, and takes
back exactly those that are.
-/
def allocate?
    (allocated : List (Byte × Byte))
    (request answer : QmiMessage) : Option (List (Byte × Byte)) :=
  if request.qmiCtlType = getClientIdType then
    if Succeeded answer then
      if answer.answerClient ∈ allocated then none
      else some (allocated ++ [answer.answerClient])
    else some allocated
  else if request.qmiCtlType = releaseClientIdType then
    if request.releaseClient ∈ allocated then
      if Succeeded answer ∧ answer.answerClient = request.releaseClient then
        some (allocated.erase request.releaseClient)
      else none
    else if Succeeded answer then none
    else some allocated
  else some allocated

/-- An answer of the control service. -/
def IsCtlAnswer (message : QmiMessage) : Prop :=
  message.qmiType = qmuxTypeCtl ∧ message.ctlFlags = qmiCtlFlagRsp

instance (message : QmiMessage) : Decidable (IsCtlAnswer message) :=
  inferInstanceAs (Decidable (_ ∧ _))

/-- What becomes of the bytes that one `read` gets from a client. -/
def readEntry (fd : Int) (bytes : List Byte) : Entry :=
  match QmiMessage.read? bytes with
  | none => .dropped fd bytes
  | some message =>
      if message.qmiType = qmuxTypeCtl then
        if message.qmiCtlType = syncReq then .dropped fd bytes
        else .requested fd message
      else .passed fd message

/-- The bytes that were read for an entry. -/
def Entry.bytes? : Entry → Option (Int × List Byte)
  | .opened _ => none
  | .requested fd message => some (fd, message.bytes)
  | .passed fd message => some (fd, message.bytes)
  | .dropped fd bytes => some (fd, bytes)
  | .answered _ _ => none
  | .closed _ => none

/-- The bytes that a client has sent. -/
def WorldEvent.bytes? : WorldEvent → Option (Int × List Byte)
  | .connect _ => none
  | .request _ fd bytes => some (fd, bytes)
  | .answer _ _ => none
  | .notify _ _ => none
  | .disconnect _ _ => none

/--
A read is dropped that does not hold exactly one message, such as two messages
at once, and so is a request to synchronize; of the others, the messages of
the control service are requests.
-/
def Filed : Entry → Prop
  | .requested _ message =>
      message.qmiType = qmuxTypeCtl ∧ message.qmiCtlType ≠ syncReq
  | .passed _ message => message.qmiType ≠ qmuxTypeCtl
  | .dropped _ bytes =>
      ∀ message ∈ QmiMessage.read? bytes,
        message.qmiType = qmuxTypeCtl ∧ message.qmiCtlType = syncReq
  | _ => True

/-- The world after a turn of the proxy. -/
def World.after
    (world : World)
    (outcome : ProxyState × List Output)
    (pending : List QmiMessage)
    (allocated : List (Byte × Byte))
    (entries : List Entry) : World where
  proxy := outcome.1
  pending := pending ++ written outcome.2
  allocated := allocated
  history := world.history ++ entries

/-- The descriptors of the connections. -/
def ProxyState.fds (proxy : ProxyState) : List Int :=
  proxy.connections.map (·.clientFd)

/-- One event of the proxy and its surroundings. -/
def worldStep? (world : World) : WorldEvent → Option World
  | .connect fd =>
      -- The kernel hands out descriptors that are not open.
      if fd < 0 ∨ fd = world.proxy.serverFd ∨ fd ∈ world.proxy.fds then none
      else
        (turn? world.proxy (.accepted fd)).map fun outcome =>
          world.after outcome world.pending world.allocated [.opened fd]
  | .request ready fd bytes =>
      (turn? world.proxy (.readClient ready fd bytes)).map fun outcome =>
        world.after outcome world.pending world.allocated
          [readEntry fd bytes]
  | .answer ready bytes =>
      match world.pending, QmiMessage.read? bytes with
      | oldest :: later, some message =>
          if IsCtlAnswer message ∧ Answers message oldest then
            match allocate? world.allocated oldest message with
            | none => none
            | some allocated =>
                (turn? world.proxy (.readDevice ready bytes)).map
                  fun outcome =>
                    world.after outcome later allocated (answers outcome.2)
          else none
      | _, _ => none
  | .notify ready bytes =>
      match QmiMessage.read? bytes with
      | none => none
      | some message =>
          if IsCtlAnswer message then none
          else
            (turn? world.proxy (.readDevice ready bytes)).map fun outcome =>
              world.after outcome world.pending world.allocated []
  | .disconnect ready fd =>
      (turn? world.proxy (.lostClient ready fd)).map fun outcome =>
        world.after outcome world.pending world.allocated [.closed fd]

/-- The proxy when its server is open and no client has come yet. -/
def worlds : System World WorldEvent where
  Initial world :=
    0 < world.proxy.serverFd ∧ world.proxy.connections = [] ∧
      world.proxy.ctlMsgs = [] ∧ world.proxy.modemResetFlag = false ∧
      world.pending = [] ∧ world.allocated = [] ∧ world.history = []
  step? := worldStep?

/-- No descriptor stays busy. -/
def AllReady (ready : Readiness) : Prop :=
  ready = ⟨false, []⟩

/-- Descriptors take what is written, and clients wait for their answers. -/
def Patient (world : World) : WorldEvent → Prop
  | .connect _ => True
  | .request ready _ _ => AllReady ready
  | .answer ready _ => AllReady ready
  | .notify ready _ => AllReady ready
  | .disconnect ready fd =>
      AllReady ready ∧ ∀ message ∈ world.proxy.ctlMsgs, message.clientFd ≠ fd

instance (world : World) (event : WorldEvent) :
    Decidable (Patient world event) :=
  match event with
  | .connect _ => .isTrue trivial
  | .request ready _ _ => inferInstanceAs (Decidable (ready = _))
  | .answer ready _ => inferInstanceAs (Decidable (ready = _))
  | .notify ready _ => inferInstanceAs (Decidable (ready = _))
  | .disconnect ready _ =>
      inferInstanceAs (Decidable (ready = _ ∧ ∀ _ ∈ _, _))

/-- The requests of a descriptor that the proxy has queued. -/
def waiting (queue : List QmiProxyMsg) (fd : Int) : List QmiMessage :=
  (queue.filter (·.clientFd = fd)).map (·.qmi)

/-- The session of a descriptor as the proxy holds it. -/
def sessionOf (proxy : ProxyState) (fd : Int) : Session :=
  if fd ∈ proxy.fds then .serving (waiting proxy.ctlMsgs fd) else .shut

/--
The queue of the proxy is what its clients wait for, and the modem has the
oldest message of it and no other.
-/
structure Orderly (world : World) : Prop where
  serverOpen : 0 < world.proxy.serverFd
  running : world.proxy.modemResetFlag = false
  distinct : (world.proxy.serverFd :: world.proxy.fds).Nodup
  asked :
    ∀ message ∈ world.proxy.ctlMsgs,
      message.clientFd ∈ world.proxy.serverFd :: world.proxy.fds
  control :
    ∀ message ∈ world.proxy.ctlMsgs, message.qmi.qmiType = qmuxTypeCtl
  oldest :
    world.pending = (world.proxy.ctlMsgs.take 1).map (·.qmi)
  sessions :
    ∀ fd, fd ≠ world.proxy.serverFd →
      clientView.replay fd world.history = some (sessionOf world.proxy fd)

@[simp] theorem written_append (first second : List Output) :
    written (first ++ second) = written first ++ written second :=
  List.filterMap_append

@[simp] theorem answers_append (first second : List Output) :
    answers (first ++ second) = answers first ++ answers second :=
  List.filterMap_append

/-- The next request is written, when the device takes it. -/
theorem written_sendNext
    {ready : Readiness}
    {queue : List QmiProxyMsg}
    (allReady : AllReady ready)
    (control : ∀ message ∈ queue, message.qmi.qmiType = qmuxTypeCtl) :
    written (sendNext ready queue) = (queue.take 1).map (·.qmi) := by
  cases queue with
  | nil =>
      rfl
  | cons next rest =>
      have isCtl := control next (.head rest)
      simp [sendNext, sendQmiToCdcWdm, show ready = _ from allReady, written,
        isCtl]

@[simp] theorem answers_sendNext
    (ready : Readiness)
    (queue : List QmiProxyMsg) :
    answers (sendNext ready queue) = [] := by
  cases queue with
  | nil =>
      rfl
  | cons next rest =>
      simp only [sendNext, sendQmiToCdcWdm]
      split <;> rfl

/-- Exactly one connection has the descriptor that an answer is for. -/
theorem handAnswer_outputs
    {ready : Readiness}
    {connections : List QmiProxyConnection}
    {fd : Int}
    (answer : QmiMessage)
    (allReady : AllReady ready)
    (distinct : (connections.map (·.clientFd)).Nodup)
    (member : fd ∈ connections.map (·.clientFd)) :
    (handAnswer ready connections fd answer).2 =
      [.toClient fd answer] := by
  unfold handAnswer
  induction connections with
  | nil =>
      cases member
  | cons connection rest inductionHypothesis =>
      obtain ⟨firstOutside, restDistinct⟩ := List.nodup_cons.mp distinct
      by_cases isFirst : connection.clientFd = fd
      · -- No later connection has the descriptor.
        have later :
            (rest.flatMap fun other =>
              if other.clientFd = fd then
                sendQmiToClient ready answer fd
              else []) = [] := by
          refine List.flatMap_eq_nil_iff.mpr fun other isLater => ?_
          refine if_neg fun same => firstOutside ?_
          exact List.mem_map.mpr ⟨other, isLater, same.trans isFirst.symm⟩
        simp only [List.flatMap_cons, isFirst, if_true, later]
        simp [sendQmiToClient, show ready = _ from allReady]
      · have isLater : fd ∈ rest.map (·.clientFd) :=
          (List.mem_cons.mp member).resolve_left (Ne.symm isFirst)
        simpa [isFirst] using inductionHypothesis restDistinct isLater

@[simp] theorem fds_handAnswer
    (ready : Readiness)
    (connections : List QmiProxyConnection)
    (fd : Int)
    (answer : QmiMessage) :
    (handAnswer ready connections fd answer).1.map (·.clientFd) =
      connections.map (·.clientFd) := by
  simp only [handAnswer, List.map_map]
  refine List.map_congr_left fun connection _ => ?_
  simp only [Function.comp_apply]
  split_ifs with isAsker
  · exact takeAnswer_clientFd answer connection
  · rfl

theorem waiting_cons
    (message : QmiProxyMsg)
    (queue : List QmiProxyMsg)
    (fd : Int) :
    waiting (message :: queue) fd =
      if message.clientFd = fd then message.qmi :: waiting queue fd
      else waiting queue fd := by
  unfold waiting
  by_cases ofFd : message.clientFd = fd
  · simp [ofFd]
  · simp [ofFd]

theorem waiting_append
    (first second : List QmiProxyMsg)
    (fd : Int) :
    waiting (first ++ second) fd =
      waiting first fd ++ waiting second fd := by
  simp [waiting]

/-- Nothing waits for a descriptor that has asked nothing. -/
theorem waiting_eq_nil
    {queue : List QmiProxyMsg}
    {fd : Int}
    (nothing : ∀ message ∈ queue, message.clientFd ≠ fd) :
    waiting queue fd = [] := by
  have none : queue.filter (·.clientFd = fd) = [] :=
    List.filter_eq_nil_iff.mpr fun message member =>
      by simpa using nothing message member
  rw [waiting, none, List.map_nil]

namespace Orderly

variable {world : World}

/-- The queue behind the request that the modem has. -/
theorem queue_of_pending
    (orderly : Orderly world)
    {oldest : QmiMessage}
    {later : List QmiMessage}
    (hasOldest : world.pending = oldest :: later) :
    later = [] ∧
      ∃ first rest,
        world.proxy.ctlMsgs = first :: rest ∧ first.qmi = oldest := by
  have shape := orderly.oldest
  rw [hasOldest] at shape
  cases queued : world.proxy.ctlMsgs with
  | nil =>
      simp [queued] at shape
  | cons first rest =>
      simp only [queued, List.take_succ_cons, List.take_zero,
        List.map_cons, List.map_nil, List.cons.injEq] at shape
      exact ⟨shape.2, first, rest, rfl, shape.1.symm⟩

/-- What the world is after the modem has answered its oldest request. -/
theorem answer_cases
    {ready : Readiness}
    {bytes : List Byte}
    {next : World}
    (orderly : Orderly world)
    (stepped : worldStep? world (.answer ready bytes) = some next) :
    ∃ first rest message allocated,
      world.proxy.ctlMsgs = first :: rest ∧
        IsCtlAnswer message ∧ Answers message first.qmi ∧
        allocate? world.allocated first.qmi message = some allocated ∧
        next =
          world.after (recvQmiFromDev ready world.proxy message) [] allocated
            (answers (recvQmiFromDev ready world.proxy message).2) := by
  unfold worldStep? at stepped
  cases hasOldest : world.pending with
  | nil =>
      simp [hasOldest] at stepped
  | cons oldest later =>
      cases read : QmiMessage.read? bytes with
      | none =>
          simp [hasOldest, read] at stepped
      | some message =>
          simp only [hasOldest, read, Option.ite_none_right_eq_some] at stepped
          obtain ⟨⟨isAnswer, answersOldest⟩, continued⟩ := stepped
          obtain ⟨rfl, first, rest, queued, rfl⟩ :=
            orderly.queue_of_pending hasOldest
          cases granted : allocate? world.allocated first.qmi message with
          | none =>
              simp [granted] at continued
          | some allocated =>
              rw [granted] at continued
              obtain ⟨outcome, turned, rfl⟩ :=
                Option.map_eq_some_iff.mp continued
              obtain rfl := turn?_readDevice read turned
              exact ⟨first, rest, message, allocated, queued, isAnswer,
                answersOldest, granted, rfl⟩

/-- The proxy after an answer, when everyone takes what is written. -/
theorem recv_answer
    {ready : Readiness}
    {message : QmiMessage}
    {first : QmiProxyMsg}
    {rest : List QmiProxyMsg}
    (orderly : Orderly world)
    (allReady : AllReady ready)
    (queued : world.proxy.ctlMsgs = first :: rest)
    (isAnswer : IsCtlAnswer message)
    (answersFirst : Answers message first.qmi) :
    recvQmiFromDev ready world.proxy message =
      if first.clientFd = world.proxy.serverFd then
        ({ world.proxy with ctlMsgs := rest }, sendNext ready rest)
      else
        ({ world.proxy with
            connections :=
              (handAnswer ready world.proxy.connections first.clientFd
                message).1
            ctlMsgs := rest },
          .toClient first.clientFd message :: sendNext ready rest) := by
  rw [recvQmiFromDev_answer orderly.serverOpen isAnswer.1 isAnswer.2 queued
    answersFirst]
  split_ifs with ofServer
  · rfl
  · have asker : first.clientFd ∈ world.proxy.fds := by
      have member := orderly.asked first (by rw [queued]; exact .head rest)
      exact (List.mem_cons.mp member).resolve_left ofServer
    rw [handAnswer_outputs message allReady
      (List.nodup_cons.mp orderly.distinct).2 asker]
    rfl

/-- An answer of the modem keeps the order. -/
theorem answer
    {ready : Readiness}
    {bytes : List Byte}
    {next : World}
    (orderly : Orderly world)
    (allReady : AllReady ready)
    (stepped : worldStep? world (.answer ready bytes) = some next) :
    Orderly next := by
  obtain ⟨first, rest, message, allocated, queued, isAnswer, answersFirst,
    -, rfl⟩ := orderly.answer_cases stepped
  have restSubset : ∀ other ∈ rest, other ∈ world.proxy.ctlMsgs := by
    intro other member
    rw [queued]
    exact .tail first member
  have restAsked := fun other member =>
    orderly.asked other (restSubset other member)
  have restControl := fun other member =>
    orderly.control other (restSubset other member)
  rw [orderly.recv_answer allReady queued isAnswer answersFirst]
  by_cases ofServer : first.clientFd = world.proxy.serverFd
  · rw [if_pos ofServer]
    refine ⟨orderly.serverOpen, orderly.running, orderly.distinct, restAsked,
      restControl, written_sendNext allReady restControl, ?_⟩
    intro fd notServer
    have seen := orderly.sessions fd notServer
    have sameWaiting : waiting world.proxy.ctlMsgs fd = waiting rest fd := by
      rw [queued, waiting_cons, if_neg]
      exact fun ofFd => notServer (ofFd.symm.trans ofServer)
    simp only [World.after, answers_sendNext, List.append_nil, seen,
      sessionOf, sameWaiting]
    rfl
  · rw [if_neg ofServer]
    have sameFds :
        (handAnswer ready world.proxy.connections first.clientFd
          message).1.map (·.clientFd) = world.proxy.fds :=
      fds_handAnswer ..
    refine ⟨orderly.serverOpen, orderly.running, ?_, ?_, restControl, ?_, ?_⟩
    · simpa only [World.after, ProxyState.fds, sameFds] using orderly.distinct
    · simpa only [World.after, ProxyState.fds, sameFds] using restAsked
    · exact written_sendNext allReady restControl
    · intro fd notServer
      have seen := orderly.sessions fd notServer
      have sameSession :
          sessionOf
              { world.proxy with
                connections :=
                  (handAnswer ready world.proxy.connections first.clientFd
                    message).1
                ctlMsgs := rest } fd =
            if fd ∈ world.proxy.fds then .serving (waiting rest fd)
            else .shut := by
        simp only [sessionOf, ProxyState.fds, fds_handAnswer]
        rfl
      have onlyAnswer :
          answers (.toClient first.clientFd message :: sendNext ready rest) =
            [.answered first.clientFd message] := by
        rw [← List.singleton_append, answers_append, answers_sendNext]
        rfl
      simp only [World.after, onlyAnswer, sameSession]
      by_cases ofFd : first.clientFd = fd
      · subst ofFd
        have asker : first.clientFd ∈ world.proxy.fds :=
          (List.mem_cons.mp
            (orderly.asked first (by rw [queued]; exact .head rest))
            ).resolve_left ofServer
        rw [sessionOf, if_pos asker, queued, waiting_cons, if_pos rfl] at seen
        rw [if_pos asker]
        exact Observer.replay_snoc rfl seen (if_pos answersFirst)
      · rw [Observer.replay_append_other, seen, sessionOf, queued, waiting_cons,
          if_neg ofFd]
        intro entry member
        rw [List.mem_singleton.mp member]
        exact ofFd

/-- What the world is after a client has connected. -/
theorem connect_cases
    {fd : Int}
    {next : World}
    (orderly : Orderly world)
    (stepped : worldStep? world (.connect fd) = some next) :
    fd ∉ world.proxy.serverFd :: world.proxy.fds ∧
      next =
        world.after (acceptQmiConnection world.proxy fd, [])
          world.pending world.allocated [.opened fd] := by
  unfold worldStep? at stepped
  simp only [turn?, Option.ite_none_left_eq_some] at stepped
  obtain ⟨fresh, taken⟩ := stepped
  have isOpen : ¬ world.proxy.serverFd ≤ 0 :=
    Int.not_le.mpr orderly.serverOpen
  simp only [orderly.running, isOpen, Bool.false_eq_true, or_self,
    if_false, Option.map_some, Option.some.injEq] at taken
  refine ⟨fun member => fresh (.inr ?_), taken.symm⟩
  exact List.mem_cons.mp member

/-- A new connection keeps the order. -/
theorem connect
    {fd : Int}
    {next : World}
    (orderly : Orderly world)
    (stepped : worldStep? world (.connect fd) = some next) :
    Orderly next := by
  obtain ⟨fresh, rfl⟩ := orderly.connect_cases stepped
  have fdsAfter :
      (acceptQmiConnection world.proxy fd).fds =
        world.proxy.fds ++ [fd] := by
    simp [acceptQmiConnection, ProxyState.fds]
  refine ⟨orderly.serverOpen, orderly.running, ?_, ?_, orderly.control, ?_,
    ?_⟩
  · have extended :
        ((world.proxy.serverFd :: world.proxy.fds) ++ [fd]).Nodup :=
      List.Nodup.append orderly.distinct (List.nodup_singleton fd)
        (List.disjoint_singleton.mpr fresh)
    simp only [World.after, fdsAfter]
    exact extended
  · intro message member
    have before := orderly.asked message member
    simp only [World.after, fdsAfter]
    exact List.mem_append_left [fd] before
  · simpa [World.after, written, acceptQmiConnection] using orderly.oldest
  · intro other notServer
    have seen := orderly.sessions other notServer
    by_cases isNew : fd = other
    · subst isNew
      have notOpen : fd ∉ world.proxy.fds :=
        fun member => fresh (.tail _ member)
      have nothing : waiting world.proxy.ctlMsgs fd = [] :=
        waiting_eq_nil fun message member ofFd =>
          fresh (ofFd ▸ orderly.asked message member)
      rw [sessionOf, if_neg notOpen] at seen
      have opened : sessionOf (acceptQmiConnection world.proxy fd) fd =
          .serving [] := by
        rw [sessionOf, fdsAfter, if_pos (List.mem_append_right _ (.head []))]
        exact congrArg Session.serving nothing
      simp only [World.after, opened]
      exact Observer.replay_snoc rfl seen rfl
    · have sameSession :
          sessionOf (acceptQmiConnection world.proxy fd) other =
            sessionOf world.proxy other := by
        simp only [sessionOf, fdsAfter, List.mem_append, List.mem_singleton,
          Ne.symm isNew, or_false]
        rfl
      simp only [World.after, sameSession]
      rw [Observer.replay_append_other, seen]
      intro entry member
      rw [List.mem_singleton.mp member]
      exact isNew

/-- What a turn does with a message of a client. -/
theorem request_cases
    {ready : Readiness}
    {fd : Int}
    {bytes : List Byte}
    {next : World}
    (orderly : Orderly world)
    (stepped : worldStep? world (.request ready fd bytes) = some next) :
    fd ∈ world.proxy.fds ∧
      (next =
          world.after (world.proxy, []) world.pending world.allocated
            [.dropped fd bytes] ∨
        (∃ message,
          message.qmiType ≠ qmuxTypeCtl ∧
            next =
              world.after (world.proxy, sendQmiToCdcWdm ready message)
                world.pending world.allocated [.passed fd message]) ∨
        ∃ message,
          QmiMessage.read? bytes = some message ∧
            message.qmiType = qmuxTypeCtl ∧
            next =
              world.after
                ({ world.proxy with
                    ctlMsgs := world.proxy.ctlMsgs ++ [⟨fd, message⟩] },
                  sendIfFirst ready world.proxy.ctlMsgs message)
                world.pending world.allocated [.requested fd message]) := by
  have isOpen : world.proxy.serverFd ≠ -1 := by
    intro shut
    exact absurd (shut ▸ orderly.serverOpen) (by decide)
  obtain ⟨outcome, turned, rfl⟩ := Option.map_eq_some_iff.mp stepped
  obtain ⟨accepts, taken⟩ := Option.ite_none_left_eq_some.mp turned
  have polls : world.proxy.Polls fd :=
    Decidable.byContradiction fun unseen => accepts (.inr (.inr unseen))
  refine ⟨List.mem_map.mpr polls.connected, ?_⟩
  cases read : QmiMessage.read? bytes with
  | none =>
      rw [read] at taken
      obtain rfl := Option.some.inj taken
      simp only [readEntry, read]
      exact .inl trivial
  | some message =>
      rw [read] at taken
      obtain rfl := Option.some.inj taken
      simp only [readEntry, read, recvQmiFromClient, isOpen, if_false]
      by_cases isCtl : message.qmiType = qmuxTypeCtl
      · by_cases isSync : message.qmiCtlType = syncReq
        · simp only [isCtl, isSync, if_true]
          exact .inl trivial
        · simp only [isCtl, isSync, if_true, if_false]
          exact .inr (.inr ⟨message, rfl, isCtl, rfl⟩)
      · simp only [isCtl, if_false]
        exact .inr (.inl ⟨message, isCtl, rfl⟩)

/-- A step that only writes messages of other services keeps the order. -/
theorem unchanged
    {outputs : List Output}
    (orderly : Orderly world)
    (nothing : written outputs = []) :
    Orderly
      (world.after (world.proxy, outputs) world.pending world.allocated
        []) := by
  refine ⟨orderly.serverOpen, orderly.running, orderly.distinct,
    orderly.asked, orderly.control, ?_, ?_⟩
  · simpa [World.after, nothing] using orderly.oldest
  · intro fd notServer
    simpa [World.after] using orderly.sessions fd notServer

/-- A read that is owed no answer keeps the order. -/
theorem owedNone
    {outputs : List Output}
    {entry : Entry}
    (orderly : Orderly world)
    (nothing : written outputs = [])
    (connected : entry.fd ∈ world.proxy.fds)
    (owes :
      ∀ waiting,
        Session.serve (.serving waiting) entry = some (.serving waiting)) :
    Orderly
      (world.after (world.proxy, outputs) world.pending world.allocated
        [entry]) := by
  refine ⟨orderly.serverOpen, orderly.running, orderly.distinct,
    orderly.asked, orderly.control, ?_, ?_⟩
  · simpa [World.after, nothing] using orderly.oldest
  · intro fd notServer
    have seen := orderly.sessions fd notServer
    by_cases ofFd : entry.fd = fd
    · rw [sessionOf, if_pos (ofFd ▸ connected)] at seen
      refine (Observer.replay_snoc ofFd seen (owes _)).trans ?_
      exact congrArg some (if_pos (ofFd ▸ connected)).symm
    · simp only [World.after]
      rw [Observer.replay_append_other, seen]
      intro other member
      rw [List.mem_singleton.mp member]
      exact ofFd

/-- A message of a client keeps the order. -/
theorem request
    {ready : Readiness}
    {fd : Int}
    {bytes : List Byte}
    {next : World}
    (orderly : Orderly world)
    (allReady : AllReady ready)
    (stepped : worldStep? world (.request ready fd bytes) = some next) :
    Orderly next := by
  obtain ⟨connected, rfl | ⟨message, notCtl, rfl⟩ | ⟨message, -, isCtl, rfl⟩⟩ :=
    orderly.request_cases stepped
  · exact orderly.owedNone rfl connected fun waiting => rfl
  · refine orderly.owedNone ?_ connected fun waiting => rfl
    simp [sendQmiToCdcWdm, show ready = _ from allReady, written, notCtl]
  · refine ⟨orderly.serverOpen, orderly.running, orderly.distinct, ?_, ?_, ?_,
      ?_⟩
    · intro queued member
      rcases List.mem_append.mp member with isOld | isNew
      · exact orderly.asked queued isOld
      · rw [List.mem_singleton.mp isNew]
        exact .tail _ connected
    · intro queued member
      rcases List.mem_append.mp member with isOld | isNew
      · exact orderly.control queued isOld
      · rw [List.mem_singleton.mp isNew]
        exact isCtl
    · have before := orderly.oldest
      simp only [World.after]
      rw [before]
      cases world.proxy.ctlMsgs with
      | nil =>
          simp [sendIfFirst, sendQmiToCdcWdm, show ready = _ from allReady,
            written, isCtl]
      | cons first rest =>
          simp [sendIfFirst, written]
    · intro other notServer
      have seen := orderly.sessions other notServer
      by_cases ofFd : fd = other
      · subst ofFd
        rw [sessionOf, if_pos connected] at seen
        have asked :
            clientView.next? (.serving (waiting world.proxy.ctlMsgs fd))
                (.requested fd message) =
              some (.serving
                (waiting world.proxy.ctlMsgs fd ++ [message])) :=
          rfl
        have longer :
            waiting (world.proxy.ctlMsgs ++ [⟨fd, message⟩]) fd =
              waiting world.proxy.ctlMsgs fd ++ [message] := by
          simp [waiting]
        have ofFd :
            clientView.party (.requested fd message) = fd :=
          rfl
        refine (Observer.replay_snoc ofFd seen asked).trans (congrArg some ?_)
        rw [← longer]
        exact (if_pos connected).symm
      · simp only [World.after]
        rw [Observer.replay_append_other, seen]
        · simp only [sessionOf, waiting_append, waiting_cons, ofFd, if_false]
          simp [waiting, ProxyState.fds]
        · intro entry member
          rw [List.mem_singleton.mp member]
          exact ofFd

/-- Messages for clients are no requests. -/
theorem written_deliver
    (ready : Readiness)
    (connections : List QmiProxyConnection)
    (message : QmiMessage) :
    written (deliver ready connections message) = [] := by
  refine List.filterMap_eq_nil_iff.mpr fun output member => ?_
  obtain ⟨connection, -, ofConnection⟩ := List.mem_flatMap.mp member
  obtain ⟨client, -, ofClient⟩ := List.mem_flatMap.mp ofConnection
  unfold sendQmiToClient at ofClient
  split_ifs at ofClient
  · cases ofClient
  · rw [List.mem_singleton.mp ofClient]
  · cases ofClient

/-- What a turn does with a message of the modem that is no answer. -/
theorem notify_cases
    {ready : Readiness}
    {bytes : List Byte}
    {next : World}
    (orderly : Orderly world)
    (stepped : worldStep? world (.notify ready bytes) = some next) :
    ∃ message,
      QmiMessage.read? bytes = some message ∧ ¬ IsCtlAnswer message ∧
        next =
          world.after
            (world.proxy,
              if message.qmiType = qmuxTypeCtl then []
              else deliver ready world.proxy.connections message)
            world.pending world.allocated [] := by
  unfold worldStep? at stepped
  have isOpen : world.proxy.serverFd ≠ -1 := by
    intro shut
    exact absurd (shut ▸ orderly.serverOpen) (by decide)
  cases read : QmiMessage.read? bytes with
  | none =>
      simp [read] at stepped
  | some message =>
      simp only [read, Option.ite_none_left_eq_some] at stepped
      obtain ⟨noAnswer, continued⟩ := stepped
      obtain ⟨outcome, turned, rfl⟩ := Option.map_eq_some_iff.mp continued
      obtain rfl := turn?_readDevice read turned
      refine ⟨message, rfl, noAnswer, ?_⟩
      unfold recvQmiFromDev
      rw [if_neg isOpen]
      by_cases isCtl : message.qmiType = qmuxTypeCtl
      · -- The indications of the control service are compared with a service
        -- type that they do not have.
        have notAnswer : message.ctlFlags ≠ qmiCtlFlagRsp :=
          fun isAnswer => noAnswer ⟨isCtl, isAnswer⟩
        have notInd : qmuxTypeCtl ≠ qmiCtlFlagInd := by decide
        simp [isCtl, notAnswer, notInd]
      · simp [isCtl]

/-- A message that is no answer keeps the order. -/
theorem notify
    {ready : Readiness}
    {bytes : List Byte}
    {next : World}
    (orderly : Orderly world)
    (stepped : worldStep? world (.notify ready bytes) = some next) :
    Orderly next := by
  obtain ⟨message, -, -, rfl⟩ := orderly.notify_cases stepped
  refine orderly.unchanged ?_
  split_ifs
  · rfl
  · exact written_deliver ready world.proxy.connections message

/-- What the world is after a connection is lost. -/
theorem lost_cases
    {ready : Readiness}
    {fd : Int}
    {next : World}
    (stepped : worldStep? world (.disconnect ready fd) = some next) :
    ∃ before connection later,
      world.proxy.connections = before ++ connection :: later ∧
        connection.clientFd = fd ∧
        next =
          world.after
            ({ world.proxy with
                connections := before ++ later
                ctlMsgs :=
                  (world.proxy.ctlMsgs ++
                    releases world.proxy.serverFd connection.clients).eraseP
                    (·.clientFd = fd) },
              (if world.proxy.ctlMsgs = [] then
                sendNext ready
                  (releases world.proxy.serverFd connection.clients)
              else []) ++ [.close fd])
            world.pending world.allocated [.closed fd] := by
  obtain ⟨outcome, turned, rfl⟩ := Option.map_eq_some_iff.mp stepped
  obtain ⟨accepts, taken⟩ := Option.ite_none_left_eq_some.mp turned
  have polls : world.proxy.Polls fd :=
    Decidable.byContradiction fun unseen => accepts (.inr unseen)
  have lost := Option.some.inj taken
  rw [cleanupQmiConnection] at lost
  cases found : world.proxy.connections.find? (·.clientFd = fd) with
  | none =>
      obtain ⟨connection, member, ofFd⟩ := polls.connected
      have missed := List.find?_eq_none.mp found connection member
      simp [ofFd] at missed
  | some connection =>
      obtain ⟨ofFd, before, later, split, others⟩ :=
        List.find?_eq_some_iff_append.mp found
      have erased :
          world.proxy.connections.eraseP (·.clientFd = fd) =
            before ++ later := by
        rw [split, List.eraseP_append_right _
          (fun other member => by simpa using others other member),
          List.eraseP_cons_of_pos (by simpa using ofFd)]
      rw [found] at lost
      simp only [if_true, releaseAll_eq, erased] at lost
      exact ⟨before, connection, later, split, by simpa using ofFd, lost ▸ rfl⟩

/-- What the world is after a connection with no queued request is lost. -/
theorem disconnect_cases
    {ready : Readiness}
    {fd : Int}
    {next : World}
    (orderly : Orderly world)
    (idle : ∀ message ∈ world.proxy.ctlMsgs, message.clientFd ≠ fd)
    (stepped : worldStep? world (.disconnect ready fd) = some next) :
    ∃ before connection later,
      world.proxy.connections = before ++ connection :: later ∧
        connection.clientFd = fd ∧
        next =
          world.after
            ({ world.proxy with
                connections := before ++ later
                ctlMsgs :=
                  world.proxy.ctlMsgs ++
                    releases world.proxy.serverFd connection.clients },
              (if world.proxy.ctlMsgs = [] then
                sendNext ready
                  (releases world.proxy.serverFd connection.clients)
              else []) ++ [.close fd])
            world.pending world.allocated [.closed fd] := by
  obtain ⟨before, connection, later, split, ofFd, rfl⟩ :=
    lost_cases stepped
  refine ⟨before, connection, later, split, ofFd, ?_⟩
  have serverNotFd : world.proxy.serverFd ≠ fd := by
    intro same
    refine (List.nodup_cons.mp orderly.distinct).1 ?_
    rw [same, ProxyState.fds, split, List.map_append, List.map_cons, ofFd]
    exact List.mem_append_right _ (.head _)
  rw [List.eraseP_of_forall_not fun message member => ?_]
  rcases List.mem_append.mp member with isOld | isRelease
  · simpa using idle message isOld
  · obtain ⟨client, -, rfl⟩ := List.mem_map.mp isRelease
    simpa using serverNotFd

/-- A connection that waits for nothing can be lost. -/
theorem disconnect
    {ready : Readiness}
    {fd : Int}
    {next : World}
    (orderly : Orderly world)
    (allReady : AllReady ready)
    (idle : ∀ message ∈ world.proxy.ctlMsgs, message.clientFd ≠ fd)
    (stepped : worldStep? world (.disconnect ready fd) = some next) :
    Orderly next := by
  obtain ⟨before, connection, later, split, ofFd, rfl⟩ :=
    orderly.disconnect_cases idle stepped
  have fdsBefore :
      world.proxy.fds =
        before.map (·.clientFd) ++ fd :: later.map (·.clientFd) := by
    rw [ProxyState.fds, split, List.map_append, List.map_cons, ofFd]
  have fdsAfter :
      (before ++ later).map (·.clientFd) =
        before.map (·.clientFd) ++ later.map (·.clientFd) :=
    List.map_append
  obtain ⟨serverOutside, distinct⟩ := List.nodup_cons.mp orderly.distinct
  have fdOutside :
      fd ∉ before.map (·.clientFd) ++ later.map (·.clientFd) := by
    rw [fdsBefore] at distinct
    exact (List.nodup_cons.mp (List.nodup_middle.mp distinct)).1
  have serverNotFd : world.proxy.serverFd ≠ fd := by
    rintro rfl
    exact serverOutside (by rw [fdsBefore]; simp)
  have control :
      ∀ message ∈ world.proxy.ctlMsgs ++
          releases world.proxy.serverFd connection.clients,
        message.qmi.qmiType = qmuxTypeCtl := by
    intro message member
    rcases List.mem_append.mp member with isOld | isRelease
    · exact orderly.control message isOld
    · obtain ⟨client, -, rfl⟩ := List.mem_map.mp isRelease
      rfl
  have shorter :
      List.Sublist
        (before.map (·.clientFd) ++ later.map (·.clientFd))
        (before.map (·.clientFd) ++ fd :: later.map (·.clientFd)) :=
    (List.sublist_cons_self fd _).append_left _
  refine ⟨orderly.serverOpen, orderly.running, ?_, ?_, control, ?_, ?_⟩
  · simp only [World.after, ProxyState.fds, fdsAfter]
    rw [fdsBefore] at serverOutside distinct
    exact List.nodup_cons.mpr
      ⟨fun member => serverOutside (shorter.subset member),
        distinct.sublist shorter⟩
  · intro message member
    simp only [World.after, ProxyState.fds, fdsAfter]
    rcases List.mem_append.mp member with isOld | isRelease
    · have before := orderly.asked message isOld
      have notFd := idle message isOld
      rw [fdsBefore] at before
      simp only [List.mem_cons, List.mem_append, notFd, false_or]
        at before ⊢
      exact before
    · obtain ⟨client, -, rfl⟩ := List.mem_map.mp isRelease
      exact .head _
  · have before := orderly.oldest
    simp only [World.after, written_append]
    rw [before]
    cases queued : world.proxy.ctlMsgs with
    | nil =>
        rw [queued, List.nil_append] at control
        rw [if_pos rfl, written_sendNext allReady control]
        exact List.append_nil _
    | cons first rest =>
        rfl
  · intro other notServer
    have seen := orderly.sessions other notServer
    by_cases isLost : fd = other
    · subst isLost
      have connected : fd ∈ world.proxy.fds := by
        rw [fdsBefore]
        exact List.mem_append_right _ (.head _)
      rw [sessionOf, if_pos connected, waiting_eq_nil idle] at seen
      have ofLost : clientView.party (.closed fd) = fd := rfl
      refine (Observer.replay_snoc ofLost seen rfl).trans (congrArg some ?_)
      simp only [World.after, sessionOf, ProxyState.fds, fdsAfter]
      exact (if_neg fdOutside).symm
    · have sameMember :
          other ∈ world.proxy.fds ↔
            other ∈ (before ++ later).map (·.clientFd) := by
        rw [fdsBefore, fdsAfter]
        simp [Ne.symm isLost]
      have noRelease :
          waiting (releases world.proxy.serverFd connection.clients) other =
            [] := by
        refine waiting_eq_nil fun message member => ?_
        obtain ⟨client, -, rfl⟩ := List.mem_map.mp member
        exact Ne.symm notServer
      simp only [World.after]
      rw [Observer.replay_append_other, seen]
      · refine congrArg some (if_congr sameMember ?_ rfl)
        rw [waiting_append, noRelease, List.append_nil]
      · intro entry member
        rw [List.mem_singleton.mp member]
        exact isLost

end Orderly

/-- A server that has just been opened is in order. -/
theorem orderly_initial
    {world : World}
    (isInitial : worlds.Initial world) :
    Orderly world := by
  obtain ⟨serverOpen, noConnections, noMessages, running, noPending, -,
    noHistory⟩ := isInitial
  refine ⟨serverOpen, running, ?_, ?_, ?_, ?_, ?_⟩
  · simp [ProxyState.fds, noConnections]
  · simp [noMessages]
  · simp [noMessages]
  · simp [noMessages, noPending]
  · intro fd _
    simp [noHistory, sessionOf, ProxyState.fds, noConnections,
      Observer.replay_nil, clientView]

/-- One patient step keeps the order. -/
theorem orderly_step
    {world next : World}
    {event : WorldEvent}
    (orderly : Orderly world)
    (patient : Patient world event)
    (stepped : worldStep? world event = some next) :
    Orderly next := by
  cases event with
  | connect fd =>
      exact orderly.connect stepped
  | request ready fd bytes =>
      exact orderly.request patient stepped
  | answer ready bytes =>
      exact orderly.answer patient stepped
  | notify ready bytes =>
      exact orderly.notify stepped
  | disconnect ready fd =>
      exact orderly.disconnect patient.1 patient.2 stepped

/-- Every patient run ends in order. -/
theorem orderly_run
    {source target : World}
    {events : List WorldEvent}
    (isInitial : worlds.Initial source)
    (run : worlds.GuardedRun Patient source events target) :
    Orderly target :=
  run.invariant Orderly
    (fun _ _ _ orderly patient stepped =>
      orderly_step orderly patient stepped)
    (orderly_initial isInitial)

/-- What is read from a client is filed as what becomes of it. -/
theorem filed_readEntry (fd : Int) (bytes : List Byte) :
    Filed (readEntry fd bytes) := by
  unfold readEntry
  cases read : QmiMessage.read? bytes with
  | none =>
      intro message none
      exact nomatch read.symm.trans none
  | some message =>
      by_cases isCtl : message.qmiType = qmuxTypeCtl
      · by_cases isSync : message.qmiCtlType = syncReq
        · simp only [isCtl, isSync, if_true]
          intro other isIt
          obtain rfl := Option.some.inj (read.symm.trans isIt)
          exact ⟨isCtl, isSync⟩
        · simp only [isCtl, isSync, if_true, if_false]
          exact ⟨isCtl, isSync⟩
      · simp only [isCtl, if_false]
        exact isCtl

theorem bytes?_readEntry (fd : Int) (bytes : List Byte) :
    (readEntry fd bytes).bytes? = some (fd, bytes) := by
  unfold readEntry
  cases read : QmiMessage.read? bytes with
  | none => rfl
  | some message =>
      have same := QmiMessage.read?_bytes read
      dsimp only
      split_ifs
      · rfl
      · exact congrArg (fun read => some (fd, read)) same
      · exact congrArg (fun read => some (fd, read)) same

/-- An answer is not read from a client. -/
theorem mem_answers
    {outputs : List Output}
    {entry : Entry}
    (member : entry ∈ answers outputs) :
    Filed entry ∧ entry.bytes? = none := by
  obtain ⟨output, -, isAnswer⟩ := List.mem_filterMap.mp member
  cases output with
  | toDevice message => exact nomatch isAnswer
  | toClient fd message =>
      obtain rfl := Option.some.inj isAnswer
      exact ⟨trivial, rfl⟩
  | close fd => exact nomatch isAnswer

/-- One step adds to the history what it reads, and files it. -/
theorem history_step
    {world next : World}
    {event : WorldEvent}
    (stepped : worldStep? world event = some next) :
    ∃ entries,
      next.history = world.history ++ entries ∧
        (∀ entry ∈ entries, Filed entry) ∧
        entries.filterMap Entry.bytes? = event.bytes?.toList := by
  cases event with
  | connect fd =>
      obtain ⟨-, turned⟩ := Option.ite_none_left_eq_some.mp stepped
      obtain ⟨outcome, -, rfl⟩ := Option.map_eq_some_iff.mp turned
      exact ⟨_, rfl, List.forall_mem_singleton.mpr trivial, rfl⟩
  | request ready fd bytes =>
      obtain ⟨outcome, -, rfl⟩ := Option.map_eq_some_iff.mp stepped
      refine
        ⟨_, rfl, List.forall_mem_singleton.mpr (filed_readEntry fd bytes), ?_⟩
      exact List.filterMap_cons_some (bytes?_readEntry fd bytes)
  | answer ready bytes =>
      simp only [worldStep?] at stepped
      split at stepped
      · obtain ⟨-, continued⟩ := Option.ite_none_right_eq_some.mp stepped
        split at continued
        · exact nomatch continued
        · obtain ⟨outcome, -, rfl⟩ := Option.map_eq_some_iff.mp continued
          exact
            ⟨_, rfl, fun entry member => (mem_answers member).1,
              List.filterMap_eq_nil_iff.mpr fun entry member =>
                (mem_answers member).2⟩
      · exact nomatch stepped
  | notify ready bytes =>
      simp only [worldStep?] at stepped
      split at stepped
      · exact nomatch stepped
      · obtain ⟨-, turned⟩ := Option.ite_none_left_eq_some.mp stepped
        obtain ⟨outcome, -, rfl⟩ := Option.map_eq_some_iff.mp turned
        exact ⟨[], rfl, List.forall_mem_nil _, rfl⟩
  | disconnect ready fd =>
      obtain ⟨outcome, -, rfl⟩ := Option.map_eq_some_iff.mp stepped
      exact ⟨_, rfl, List.forall_mem_singleton.mpr trivial, rfl⟩

/-- The history of a run has what was read, each read filed. -/
theorem history_run
    {guard : World → WorldEvent → Prop}
    {source target : World}
    {events : List WorldEvent}
    (run : worlds.GuardedRun guard source events target)
    (filed : ∀ entry ∈ source.history, Filed entry) :
    (∀ entry ∈ target.history, Filed entry) ∧
      target.history.filterMap Entry.bytes? =
        source.history.filterMap Entry.bytes? ++
          events.filterMap WorldEvent.bytes? := by
  induction run with
  | done state => exact ⟨filed, (List.append_nil _).symm⟩
  | step event rest _ stepped _ inductionHypothesis =>
      obtain ⟨entries, history, newFiled, read⟩ := history_step stepped
      obtain ⟨allFiled, allRead⟩ := inductionHypothesis (by
        rw [history]
        exact List.forall_mem_append.mpr ⟨filed, newFiled⟩)
      refine ⟨allFiled, allRead.trans ?_⟩
      rw [history, List.filterMap_append, read, List.append_assoc]
      refine congrArg _ ?_
      cases isRead : event.bytes? with
      | none => exact (List.filterMap_cons_none isRead).symm
      | some bytes => exact (List.filterMap_cons_some isRead).symm

/-- A proxy whose server has the descriptor 4. -/
def exampleWorld : World where
  proxy :=
    { serverFd := 4
      connections := []
      ctlMsgs := []
      qmiSyncDone := true
      modemResetFlag := false }
  pending := []
  allocated := []
  history := []

def exampleReady : Readiness := ⟨false, []⟩

/-- `GetClientIdReq` for the service `WDS`. -/
def exampleGet (transactionId : Byte) : List Byte :=
  [0x01, 15, 0, 0, 0, 0, 0x00, transactionId, 0x22, 0, 4, 0, 0x01, 1, 0, 1]

/-- `GetClientIdRsp` that grants an identifier. -/
def exampleGranted (transactionId client : Byte) : List Byte :=
  [0x01, 23, 0, 0x80, 0, 0, 0x01, transactionId, 0x22, 0, 12, 0,
    0x02, 4, 0, 0, 0, 0, 0, 0x01, 2, 0, 1, client]

/--
Two clients ask before the first is answered; the first leaves later.  Two
requests that are read at once are dropped.
-/
def exampleEvents : List WorldEvent :=
  [.connect 5, .connect 6,
    .request exampleReady 5 (exampleGet 1),
    .request exampleReady 6 (exampleGet 2 ++ exampleGet 3),
    .request exampleReady 6 (exampleGet 1),
    .answer exampleReady (exampleGranted 1 10),
    .disconnect exampleReady 5]

end RecomputerGateway.QmiProxy
