import RecomputerGateway.QmiProxySessions

namespace RecomputerGateway.QmiProxy

open Hexadecimal (Byte)

/-!
# Client identifiers of the QMI proxy

The modem grants client identifiers, and the proxy keeps for each connection
those that were granted to it.  Every identifier in use at the modem belongs
to exactly one connection, or the proxy is about to give it back; so a message
for one client reaches exactly that client, and no identifier is lost.
-/

/-- The identifiers of all connections. -/
def owned (connections : List QmiProxyConnection) : List (Byte × Byte) :=
  connections.flatMap (·.clients)

/-- The identifiers that the proxy itself is giving back. -/
def returning
    (serverFd : Int)
    (queue : List QmiProxyMsg) : List (Byte × Byte) :=
  (queue.filter (·.clientFd = serverFd)).map (·.qmi.releaseClient)

/-- Whether a queued message is a request to release a client. -/
def IsRelease (message : QmiProxyMsg) : Prop :=
  message.qmi.qmiCtlType = releaseClientIdType

instance (message : QmiProxyMsg) : Decidable (IsRelease message) :=
  inferInstanceAs (Decidable (_ = _))

/-- The identifiers in the queued requests to release one. -/
def releasing (queue : List QmiProxyMsg) : List (Byte × Byte) :=
  (queue.filter (IsRelease ·)).map (·.qmi.releaseClient)

/-- A connection asks for the release of an identifier that it has. -/
def OwnRelease
    (connections : List QmiProxyConnection)
    (message : QmiProxyMsg) : Prop :=
  ∃ connection ∈ connections,
    connection.clientFd = message.clientFd ∧
      message.qmi.releaseClient ∈ connection.clients

instance
    (connections : List QmiProxyConnection)
    (message : QmiProxyMsg) :
    Decidable (OwnRelease connections message) :=
  inferInstanceAs (Decidable (∃ _ ∈ _, _))

/--
Patient clients that release only what they have, and each identifier once.
-/
def Careful (world : World) : WorldEvent → Prop
  | .request ready fd bytes =>
      Patient world (.request ready fd bytes) ∧
        ∀ message ∈ QmiMessage.read? bytes,
          IsRelease ⟨fd, message⟩ →
            OwnRelease world.proxy.connections ⟨fd, message⟩ ∧
              message.releaseClient ∉ releasing world.proxy.ctlMsgs
  | event => Patient world event

instance (world : World) (event : WorldEvent) :
    Decidable (Careful world event) :=
  match event with
  | .connect _ => .isTrue trivial
  | .request ready fd bytes =>
      inferInstanceAs
        (Decidable
          (ready = _ ∧
            ∀ message ∈ QmiMessage.read? bytes,
              IsRelease ⟨fd, message⟩ →
                OwnRelease world.proxy.connections ⟨fd, message⟩ ∧
                  message.releaseClient ∉ releasing world.proxy.ctlMsgs))
  | .answer ready _ => inferInstanceAs (Decidable (ready = _))
  | .notify ready _ => inferInstanceAs (Decidable (ready = _))
  | .disconnect ready _ =>
      inferInstanceAs (Decidable (ready = _ ∧ ∀ _ ∈ _, _))

/-- Careful clients are patient. -/
theorem Careful.patient
    {world : World}
    {event : WorldEvent}
    (careful : Careful world event) :
    Patient world event := by
  cases event with
  | connect fd =>
      exact careful
  | request ready fd bytes =>
      exact careful.1
  | answer ready bytes =>
      exact careful
  | notify ready bytes =>
      exact careful
  | disconnect ready fd =>
      exact careful

/-- The identifiers in use at the modem are accounted for. -/
structure Accounted (world : World) : Prop where
  distinct : world.allocated.Nodup
  granted :
    world.allocated.Perm
      (owned world.proxy.connections ++
        returning world.proxy.serverFd world.proxy.ctlMsgs)
  ownReleases :
    ∀ message ∈ world.proxy.ctlMsgs,
      message.clientFd ≠ world.proxy.serverFd →
        IsRelease message → OwnRelease world.proxy.connections message
  serverReleases :
    ∀ message ∈ world.proxy.ctlMsgs,
      message.clientFd = world.proxy.serverFd →
        ∃ client, message.qmi = releaseClientIdReq client
  once : (releasing world.proxy.ctlMsgs).Nodup

@[simp] theorem releaseClient_releaseClientIdReq (client : Byte × Byte) :
    (releaseClientIdReq client).releaseClient = client :=
  rfl

theorem isRelease_releaseClientIdReq (fd : Int) (client : Byte × Byte) :
    IsRelease ⟨fd, releaseClientIdReq client⟩ :=
  rfl

@[simp] theorem owned_append (first second : List QmiProxyConnection) :
    owned (first ++ second) = owned first ++ owned second :=
  List.flatMap_append

theorem owned_cons
    (connection : QmiProxyConnection)
    (rest : List QmiProxyConnection) :
    owned (connection :: rest) = connection.clients ++ owned rest :=
  List.flatMap_cons

@[simp] theorem returning_append
    (serverFd : Int)
    (first second : List QmiProxyMsg) :
    returning serverFd (first ++ second) =
      returning serverFd first ++ returning serverFd second := by
  simp [returning]

@[simp] theorem releasing_append (first second : List QmiProxyMsg) :
    releasing (first ++ second) = releasing first ++ releasing second := by
  simp [releasing]

/-- The proxy's own releases give back exactly the clients of the lost one. -/
theorem returning_releases
    (serverFd : Int)
    (clients : List (Byte × Byte)) :
    returning serverFd (releases serverFd clients) = clients := by
  induction clients with
  | nil =>
      rfl
  | cons client rest inductionHypothesis =>
      have head :
          returning serverFd (releases serverFd (client :: rest)) =
            client :: returning serverFd (releases serverFd rest) := by
        simp [releases, returning]
      rw [head, inductionHypothesis]

theorem releasing_releases
    (serverFd : Int)
    (clients : List (Byte × Byte)) :
    releasing (releases serverFd clients) = clients := by
  induction clients with
  | nil =>
      rfl
  | cons client rest inductionHypothesis =>
      have head :
          releasing (releases serverFd (client :: rest)) =
            client :: releasing (releases serverFd rest) := by
        simp [releases, releasing, isRelease_releaseClientIdReq]
      rw [head, inductionHypothesis]

/-- A message of a client gives nothing back for the proxy. -/
theorem returning_cons_client
    {serverFd : Int}
    {message : QmiProxyMsg}
    (notServer : message.clientFd ≠ serverFd)
    (queue : List QmiProxyMsg) :
    returning serverFd (message :: queue) = returning serverFd queue := by
  simp [returning, notServer]

/-- A part of a queue gives back a part of the identifiers. -/
theorem mem_returning_of_subset
    {serverFd : Int}
    {part queue : List QmiProxyMsg}
    {client : Byte × Byte}
    (subset : part ⊆ queue)
    (member : client ∈ returning serverFd part) :
    client ∈ returning serverFd queue := by
  obtain ⟨message, isListed, rfl⟩ := List.mem_map.mp member
  obtain ⟨isPart, ofServer⟩ := List.mem_filter.mp isListed
  exact List.mem_map.mpr
    ⟨message, List.mem_filter.mpr ⟨subset isPart, ofServer⟩, rfl⟩

/-- The identifier of a queued release is among those being released. -/
theorem mem_releasing
    {queue : List QmiProxyMsg}
    {message : QmiProxyMsg}
    (member : message ∈ queue)
    (isRelease : IsRelease message) :
    message.qmi.releaseClient ∈ releasing queue :=
  List.mem_map.mpr
    ⟨message, List.mem_filter.mpr ⟨member, by simpa using isRelease⟩, rfl⟩

/-- The identifier that an own release names is one of the connections'. -/
theorem OwnRelease.mem_owned
    {connections : List QmiProxyConnection}
    {message : QmiProxyMsg}
    (own : OwnRelease connections message) :
    message.qmi.releaseClient ∈ owned connections := by
  obtain ⟨connection, member, -, has⟩ := own
  exact List.mem_flatMap.mpr ⟨connection, member, has⟩

/-- What a connection has after the answer to its request for a client. -/
theorem takeAnswer_get
    {answer : QmiMessage}
    (connection : QmiProxyConnection)
    (isGet : answer.qmiCtlType = getClientIdType) :
    takeAnswer answer connection =
      if Succeeded answer then
        { connection with
          clients := connection.clients ++ [answer.answerClient] }
      else connection := by
  rw [takeAnswer, if_pos isGet]
  rfl

/-- What a connection has after the answer to its release of a client. -/
theorem takeAnswer_release
    {answer : QmiMessage}
    (connection : QmiProxyConnection)
    (isRelease : answer.qmiCtlType = releaseClientIdType) :
    takeAnswer answer connection =
      if Succeeded answer then
        { connection with
          clients := connection.clients.erase answer.answerClient }
      else connection := by
  have notGet : answer.qmiCtlType ≠ getClientIdType := by
    rw [isRelease]
    decide
  rw [takeAnswer, if_neg notGet, if_pos isRelease]
  rfl

/-- A connection that keeps the identifier may be changed. -/
theorem OwnRelease.replace
    {before later : List QmiProxyConnection}
    {connection changed : QmiProxyConnection}
    {message : QmiProxyMsg}
    (own : OwnRelease (before ++ connection :: later) message)
    (sameFd : changed.clientFd = connection.clientFd)
    (keeps :
      message.qmi.releaseClient ∈ connection.clients →
        message.qmi.releaseClient ∈ changed.clients) :
    OwnRelease (before ++ changed :: later) message := by
  obtain ⟨owner, isOwner, ofFd, has⟩ := own
  rcases List.mem_append.mp isOwner with isBefore | isRest
  · exact ⟨owner, List.mem_append_left _ isBefore, ofFd, has⟩
  · rcases List.mem_cons.mp isRest with rfl | isLater
    · exact ⟨changed, List.mem_append_right _ (.head _),
        sameFd.trans ofFd, keeps has⟩
    · exact ⟨owner, List.mem_append_right _ (.tail _ isLater), ofFd, has⟩

/-- Only the connection with the descriptor is changed by an answer. -/
theorem handAnswer_connections
    (ready : Readiness)
    {connections : List QmiProxyConnection}
    {fd : Int}
    (answer : QmiMessage)
    (distinct : (connections.map (·.clientFd)).Nodup)
    (member : fd ∈ connections.map (·.clientFd)) :
    ∃ before connection later,
      connections = before ++ connection :: later ∧
        connection.clientFd = fd ∧
        (handAnswer ready connections fd answer).1 =
          before ++ takeAnswer answer connection :: later := by
  obtain ⟨connection, isOne, ofFd⟩ := List.mem_map.mp member
  obtain ⟨before, later, rfl⟩ := List.append_of_mem isOne
  refine ⟨before, connection, later, rfl, ofFd, ?_⟩
  rw [List.map_append, List.map_cons, ofFd, List.nodup_middle] at distinct
  have outside := (List.nodup_cons.mp distinct).1
  have others
      {other : QmiProxyConnection}
      (isOther : other ∈ before ++ later) :
      other.clientFd ≠ fd := by
    intro same
    refine outside ?_
    rw [← List.map_append]
    exact List.mem_map.mpr ⟨other, isOther, same⟩
  have unchanged
      {part : List QmiProxyConnection}
      (within : ∀ other ∈ part, other ∈ before ++ later) :
      (part.map fun other =>
        if other.clientFd = fd then takeAnswer answer other else other) =
        part := by
    refine (List.map_congr_left fun other isPart => ?_).trans
      (List.map_id part)
    exact if_neg (others (within other isPart))
  simp only [handAnswer, List.map_append, List.map_cons, ofFd, if_true]
  rw [unchanged fun other isPart => List.mem_append_left later isPart,
    unchanged fun other isPart => List.mem_append_right before isPart]

/-- The modem takes back an identifier that is in use. -/
theorem allocate?_release
    {allocated kept : List (Byte × Byte)}
    {request answer : QmiMessage}
    (isRelease : request.qmiCtlType = releaseClientIdType)
    (inUse : request.releaseClient ∈ allocated)
    (allows : allocate? allocated request answer = some kept) :
    Succeeded answer ∧ answer.answerClient = request.releaseClient ∧
      kept = allocated.erase request.releaseClient := by
  have notGet : request.qmiCtlType ≠ getClientIdType := by
    rw [isRelease]
    decide
  rw [allocate?, if_neg notGet, if_pos isRelease, if_pos inUse] at allows
  obtain ⟨⟨succeeded, sameClient⟩, same⟩ :=
    Option.ite_none_right_eq_some.mp allows
  exact ⟨succeeded, sameClient, (Option.some.inj same).symm⟩

/-- The modem grants identifiers that are not in use. -/
theorem allocate?_get
    {allocated kept : List (Byte × Byte)}
    {request answer : QmiMessage}
    (isGet : request.qmiCtlType = getClientIdType)
    (allows : allocate? allocated request answer = some kept) :
    (Succeeded answer ∧ answer.answerClient ∉ allocated ∧
        kept = allocated ++ [answer.answerClient]) ∨
      (¬ Succeeded answer ∧ kept = allocated) := by
  rw [allocate?, if_pos isGet] at allows
  by_cases succeeded : Succeeded answer
  · rw [if_pos succeeded] at allows
    obtain ⟨unused, same⟩ := Option.ite_none_left_eq_some.mp allows
    exact .inl ⟨succeeded, unused, (Option.some.inj same).symm⟩
  · rw [if_neg succeeded] at allows
    exact .inr ⟨succeeded, (Option.some.inj allows).symm⟩

namespace Accounted

variable {world : World}

/-- No identifier is in two places. -/
theorem nodup
    (accounted : Accounted world) :
    (owned world.proxy.connections ++
      returning world.proxy.serverFd world.proxy.ctlMsgs).Nodup :=
  accounted.granted.nodup_iff.mp accounted.distinct

/-- A step that leaves the connections and the queue as they are. -/
theorem unchanged
    (accounted : Accounted world)
    (outputs : List Output)
    (pending : List QmiMessage)
    (entries : List Entry) :
    Accounted
      (world.after (world.proxy, outputs) pending world.allocated entries) :=
  ⟨accounted.distinct, accounted.granted, accounted.ownReleases,
    accounted.serverReleases, accounted.once⟩

/-- A new connection has no identifiers yet. -/
theorem connect
    {fd : Int}
    {next : World}
    (accounted : Accounted world)
    (orderly : Orderly world)
    (stepped : worldStep? world (.connect fd) = some next) :
    Accounted next := by
  obtain ⟨-, rfl⟩ := orderly.connect_cases stepped
  have sameOwned :
      owned (world.proxy.connections ++ [⟨fd, []⟩]) =
        owned world.proxy.connections := by
    simp [owned]
  refine ⟨accounted.distinct, ?_, ?_, accounted.serverReleases,
    accounted.once⟩
  · simpa only [World.after, acceptQmiConnection, sameOwned] using
      accounted.granted
  · intro message queued notServer isRelease
    obtain ⟨connection, member, has⟩ :=
      accounted.ownReleases message queued notServer isRelease
    exact ⟨connection, List.mem_append_left _ member, has⟩

/-- A request of a careful client. -/
theorem request
    {ready : Readiness}
    {fd : Int}
    {bytes : List Byte}
    {next : World}
    (accounted : Accounted world)
    (orderly : Orderly world)
    (careful : Careful world (.request ready fd bytes))
    (stepped : worldStep? world (.request ready fd bytes) = some next) :
    Accounted next := by
  obtain ⟨connected, rfl | ⟨message, -, rfl⟩ | ⟨message, read, -, rfl⟩⟩ :=
    orderly.request_cases stepped
  · exact accounted.unchanged _ _ _
  · exact accounted.unchanged _ _ _
  · have notServer : fd ≠ world.proxy.serverFd := by
      rintro rfl
      exact (List.nodup_cons.mp orderly.distinct).1 connected
    have nothingReturned :
        returning world.proxy.serverFd [⟨fd, message⟩] = [] :=
      returning_cons_client notServer []
    refine ⟨accounted.distinct, ?_, ?_, ?_, ?_⟩
    · simpa only [World.after, returning_append, nothingReturned,
        List.append_nil] using accounted.granted
    · intro queued member queuedNotServer isRelease
      rcases List.mem_append.mp member with isOld | isNew
      · exact accounted.ownReleases queued isOld queuedNotServer isRelease
      · obtain rfl := List.mem_singleton.mp isNew
        exact (careful.2 message read isRelease).1
    · intro queued member ofServer
      rcases List.mem_append.mp member with isOld | isNew
      · exact accounted.serverReleases queued isOld ofServer
      · obtain rfl := List.mem_singleton.mp isNew
        exact absurd ofServer notServer
    · simp only [World.after, releasing_append]
      by_cases isRelease : IsRelease ⟨fd, message⟩
      · have onlyIt :
            releasing [⟨fd, message⟩] = [message.releaseClient] := by
          simp [releasing, isRelease]
        rw [onlyIt]
        exact accounted.once.append (List.nodup_singleton _)
          (List.disjoint_singleton.mpr (careful.2 message read isRelease).2)
      · have nothing : releasing [⟨fd, message⟩] = [] := by
          simp [releasing, isRelease]
        rw [nothing, List.append_nil]
        exact accounted.once

/-- A message of the modem that is no answer. -/
theorem notify
    {ready : Readiness}
    {bytes : List Byte}
    {next : World}
    (accounted : Accounted world)
    (orderly : Orderly world)
    (stepped : worldStep? world (.notify ready bytes) = some next) :
    Accounted next := by
  obtain ⟨message, -, -, rfl⟩ := orderly.notify_cases stepped
  exact accounted.unchanged _ _ _

/-- The identifiers of a lost connection are given back. -/
theorem disconnect
    {ready : Readiness}
    {fd : Int}
    {next : World}
    (accounted : Accounted world)
    (orderly : Orderly world)
    (idle : ∀ message ∈ world.proxy.ctlMsgs, message.clientFd ≠ fd)
    (stepped : worldStep? world (.disconnect ready fd) = some next) :
    Accounted next := by
  obtain ⟨before, connection, later, split, ofFd, rfl⟩ :=
    orderly.disconnect_cases idle stepped
  have nodup := accounted.nodup
  have granted := accounted.granted
  rw [split, owned_append, owned_cons] at nodup granted
  have moved :
      (owned before ++ (connection.clients ++ owned later) ++
          returning world.proxy.serverFd world.proxy.ctlMsgs).Perm
        (owned before ++ owned later ++
          (returning world.proxy.serverFd world.proxy.ctlMsgs ++
            connection.clients)) := by
    refine List.perm_iff_count.mpr fun client => ?_
    simp only [List.count_append]
    omega
  have kept :
      ∀ message ∈ world.proxy.ctlMsgs,
        message.clientFd ≠ world.proxy.serverFd →
          IsRelease message → OwnRelease (before ++ later) message := by
    intro message queued notServer isRelease
    obtain ⟨owner, isOwner, sameFd, has⟩ :=
      accounted.ownReleases message queued notServer isRelease
    refine ⟨owner, ?_, sameFd, has⟩
    rw [split] at isOwner
    rcases List.mem_append.mp isOwner with isBefore | isRest
    · exact List.mem_append_left _ isBefore
    · rcases List.mem_cons.mp isRest with isLost | isLater
      · rw [isLost, ofFd] at sameFd
        exact absurd sameFd.symm (idle message queued)
      · exact List.mem_append_right _ isLater
  have apart := moved.nodup_iff.mp nodup
  refine ⟨accounted.distinct, ?_, ?_, ?_, ?_⟩
  · simp only [World.after, owned_append, returning_append,
      returning_releases]
    exact granted.trans moved
  · intro message member notServer isRelease
    rcases List.mem_append.mp member with isOld | isNew
    · exact kept message isOld notServer isRelease
    · obtain ⟨client, -, rfl⟩ := List.mem_map.mp isNew
      exact absurd rfl notServer
  · intro message member ofServer
    rcases List.mem_append.mp member with isOld | isNew
    · exact accounted.serverReleases message isOld ofServer
    · obtain ⟨client, -, rfl⟩ := List.mem_map.mp isNew
      exact ⟨client, rfl⟩
  · simp only [World.after, releasing_append, releasing_releases]
    rw [← List.append_assoc] at apart
    have clientsNodup := (List.nodup_append.mp apart).2.1
    refine accounted.once.append clientsNodup fun client isReleased isLost => ?_
    -- An identifier being released belongs to another connection, or the
    -- proxy is already giving it back.
    have elsewhere := List.disjoint_of_nodup_append apart
    obtain ⟨message, isListed, rfl⟩ := List.mem_map.mp isReleased
    obtain ⟨queued, isRelease⟩ := List.mem_filter.mp isListed
    refine elsewhere (List.mem_append.mpr ?_) isLost
    by_cases ofServer : message.clientFd = world.proxy.serverFd
    · refine .inr (List.mem_map.mpr ⟨message, ?_, rfl⟩)
      exact List.mem_filter.mpr ⟨queued, by simpa using ofServer⟩
    · refine .inl ?_
      rw [← owned_append]
      exact (kept message queued ofServer (by simpa using isRelease)).mem_owned

/-- Behind the answered request, the queue is accounted for as before. -/
theorem of_rest
    {first : QmiProxyMsg}
    {rest : List QmiProxyMsg}
    {connections : List QmiProxyConnection}
    {allocated : List (Byte × Byte)}
    {outputs : List Output}
    {pending : List QmiMessage}
    {entries : List Entry}
    (accounted : Accounted world)
    (queued : world.proxy.ctlMsgs = first :: rest)
    (distinct : allocated.Nodup)
    (granted :
      allocated.Perm
        (owned connections ++ returning world.proxy.serverFd rest))
    (keeps :
      ∀ message ∈ rest,
        IsRelease message →
          OwnRelease world.proxy.connections message →
            OwnRelease connections message) :
    Accounted
      (world.after
        ({ world.proxy with connections := connections, ctlMsgs := rest },
          outputs)
        pending allocated entries) := by
  have restSubset : ∀ message ∈ rest, message ∈ world.proxy.ctlMsgs := by
    intro message member
    rw [queued]
    exact .tail first member
  refine ⟨distinct, granted, ?_, ?_, ?_⟩
  · intro message member notServer isRelease
    exact keeps message member isRelease
      (accounted.ownReleases message (restSubset message member) notServer
        isRelease)
  · intro message member ofServer
    exact accounted.serverReleases message (restSubset message member)
      ofServer
  · have once := accounted.once
    rw [queued, ← List.singleton_append, releasing_append] at once
    exact (List.nodup_append.mp once).2.1

/-- The modem takes back what the proxy gives back. -/
theorem answer_server
    {first : QmiProxyMsg}
    {rest : List QmiProxyMsg}
    {message : QmiMessage}
    {allocated : List (Byte × Byte)}
    {outputs : List Output}
    {pending : List QmiMessage}
    {entries : List Entry}
    (accounted : Accounted world)
    (queued : world.proxy.ctlMsgs = first :: rest)
    (ofServer : first.clientFd = world.proxy.serverFd)
    (allows : allocate? world.allocated first.qmi message = some allocated) :
    Accounted
      (world.after ({ world.proxy with ctlMsgs := rest }, outputs) pending
        allocated entries) := by
  obtain ⟨client, isRelease⟩ :=
    accounted.serverReleases first (by rw [queued]; exact .head rest) ofServer
  have returned :
      returning world.proxy.serverFd world.proxy.ctlMsgs =
        client :: returning world.proxy.serverFd rest := by
    rw [queued]
    simp [returning, ofServer, isRelease]
  have before :
      world.allocated.Perm
        (client ::
          (owned world.proxy.connections ++
            returning world.proxy.serverFd rest)) := by
    have granted := accounted.granted
    rw [returned] at granted
    exact granted.trans List.perm_middle
  have inUse : client ∈ world.allocated := before.mem_iff.mpr (.head _)
  rw [isRelease] at allows
  obtain ⟨-, -, rfl⟩ := allocate?_release rfl inUse allows
  refine accounted.of_rest queued (accounted.distinct.erase client) ?_
    (fun _ _ _ own => own)
  have erased := before.erase client
  rwa [List.erase_cons_head] at erased

/-- An answer to a connection changes what that connection has. -/
theorem answer_client
    {ready : Readiness}
    {first : QmiProxyMsg}
    {rest : List QmiProxyMsg}
    {message : QmiMessage}
    {allocated : List (Byte × Byte)}
    {outputs : List Output}
    {pending : List QmiMessage}
    {entries : List Entry}
    (accounted : Accounted world)
    (orderly : Orderly world)
    (queued : world.proxy.ctlMsgs = first :: rest)
    (notServer : first.clientFd ≠ world.proxy.serverFd)
    (answersFirst : Answers message first.qmi)
    (allows : allocate? world.allocated first.qmi message = some allocated) :
    Accounted
      (world.after
        ({ world.proxy with
            connections :=
              (handAnswer ready world.proxy.connections first.clientFd
                message).1
            ctlMsgs := rest },
          outputs)
        pending allocated entries) := by
  have isFirst : first ∈ world.proxy.ctlMsgs := by
    rw [queued]
    exact .head rest
  have asker : first.clientFd ∈ world.proxy.fds :=
    (List.mem_cons.mp (orderly.asked first isFirst)).resolve_left notServer
  obtain ⟨before, connection, later, split, ofFd, changed⟩ :=
    handAnswer_connections ready message
      (List.nodup_cons.mp orderly.distinct).2 asker
  have granted := accounted.granted
  have restReturned :
      returning world.proxy.serverFd world.proxy.ctlMsgs =
        returning world.proxy.serverFd rest := by
    rw [queued]
    exact returning_cons_client notServer rest
  rw [split, restReturned] at granted
  have keep
      (sameClients :
        ∀ queuedMessage ∈ rest,
          IsRelease queuedMessage →
            queuedMessage.qmi.releaseClient ∈ connection.clients →
              queuedMessage.qmi.releaseClient ∈
                (takeAnswer message connection).clients) :
      ∀ queuedMessage ∈ rest,
        IsRelease queuedMessage →
          OwnRelease world.proxy.connections queuedMessage →
            OwnRelease (before ++ takeAnswer message connection :: later)
              queuedMessage := by
    intro queuedMessage member isRelease own
    rw [split] at own
    exact own.replace (takeAnswer_clientFd message connection)
      (sameClients queuedMessage member isRelease)
  have unchanged
      (same : takeAnswer message connection = connection)
      (allSame : allocated = world.allocated) :
      Accounted
        (world.after
          ({ world.proxy with
              connections := before ++ takeAnswer message connection :: later
              ctlMsgs := rest },
            outputs)
          pending allocated entries) := by
    refine accounted.of_rest queued (allSame ▸ accounted.distinct) ?_
      (keep fun _ _ _ has => by rwa [same])
    rw [same, allSame]
    exact granted
  rw [changed]
  have answerType : message.qmiCtlType = first.qmi.qmiCtlType :=
    answersFirst.2.symm
  by_cases isGet : first.qmi.qmiCtlType = getClientIdType
  · rcases allocate?_get isGet allows with
      ⟨succeeded, unused, rfl⟩ | ⟨failed, allSame⟩
    · have taken :
          takeAnswer message connection =
            { connection with
              clients := connection.clients ++ [message.answerClient] } := by
        rw [takeAnswer_get connection (answerType.trans isGet),
          if_pos succeeded]
      refine accounted.of_rest queued
        (accounted.distinct.append (List.nodup_singleton _)
          (List.disjoint_singleton.mpr unused)) ?_
        (keep fun _ _ _ has => by
          rw [taken]
          exact List.mem_append_left _ has)
      refine List.perm_iff_count.mpr fun client => ?_
      have counted := granted.count_eq client
      simp only [owned_append, owned_cons, List.count_append, taken]
        at counted ⊢
      omega
    · refine unchanged ?_ allSame
      rw [takeAnswer_get connection (answerType.trans isGet),
        if_neg failed]
  · by_cases isRelease : first.qmi.qmiCtlType = releaseClientIdType
    · obtain ⟨owner, isOwner, ownerFd, has⟩ :=
        accounted.ownReleases first isFirst notServer isRelease
      obtain rfl : owner = connection := by
        refine List.inj_on_of_nodup_map
          (List.nodup_cons.mp orderly.distinct).2 isOwner ?_
          (ownerFd.trans ofFd.symm)
        rw [split]
        exact List.mem_append_right _ (.head _)
      have inUse : first.qmi.releaseClient ∈ world.allocated := by
        rw [granted.mem_iff]
        simp [owned_cons, has]
      obtain ⟨succeeded, sameClient, rfl⟩ :=
        allocate?_release isRelease inUse allows
      have taken :
          takeAnswer message owner =
            { owner with
              clients := owner.clients.erase first.qmi.releaseClient } := by
        rw [takeAnswer_release owner (answerType.trans isRelease),
          if_pos succeeded, sameClient]
      refine accounted.of_rest queued
        (accounted.distinct.erase first.qmi.releaseClient) ?_
        (keep fun queuedMessage member releases hasIt => ?_)
      · have oneLess := (List.perm_cons_erase has).count_eq
        have removed :
            world.allocated.Perm
              (first.qmi.releaseClient ::
                (owned (before ++ takeAnswer message owner :: later) ++
                  returning world.proxy.serverFd rest)) := by
          refine List.perm_iff_count.mpr fun client => ?_
          have counted := granted.count_eq client
          have less := oneLess client
          simp only [owned_append, owned_cons, List.count_append, taken,
            List.count_cons] at counted less ⊢
          omega
        have erased := removed.erase first.qmi.releaseClient
        rwa [List.erase_cons_head] at erased
      · -- No identifier is released twice.
        have once := accounted.once
        have firstReleased :
            releasing world.proxy.ctlMsgs =
              first.qmi.releaseClient :: releasing rest := by
          rw [queued]
          simp [releasing, IsRelease, isRelease]
        rw [firstReleased] at once
        have different :
            queuedMessage.qmi.releaseClient ≠ first.qmi.releaseClient := by
          intro same
          exact (List.nodup_cons.mp once).1
            (same ▸ mem_releasing member releases)
        rw [taken]
        exact (List.mem_erase_of_ne different).mpr hasIt
    · refine unchanged ?_ ?_
      · rw [takeAnswer, if_neg (fun same => isGet (answerType.symm.trans same)),
          if_neg (fun same => isRelease (answerType.symm.trans same))]
      · rw [allocate?, if_neg isGet, if_neg isRelease] at allows
        exact (Option.some.inj allows).symm

/-- An answer of the modem. -/
theorem answer
    {ready : Readiness}
    {bytes : List Byte}
    {next : World}
    (accounted : Accounted world)
    (orderly : Orderly world)
    (allReady : AllReady ready)
    (stepped : worldStep? world (.answer ready bytes) = some next) :
    Accounted next := by
  obtain ⟨first, rest, message, allocated, queued, isAnswer, answersFirst,
    allows, rfl⟩ := orderly.answer_cases stepped
  rw [orderly.recv_answer allReady queued isAnswer answersFirst]
  by_cases ofServer : first.clientFd = world.proxy.serverFd
  · rw [if_pos ofServer]
    exact accounted.answer_server queued ofServer allows
  · rw [if_neg ofServer]
    exact accounted.answer_client orderly queued ofServer answersFirst allows

end Accounted

/-- Both invariants hold along careful runs. -/
theorem accounted_run
    {source target : World}
    {events : List WorldEvent}
    (isInitial : worlds.Initial source)
    (run : worlds.GuardedRun Careful source events target) :
    Orderly target ∧ Accounted target := by
  refine run.invariant (fun world => Orderly world ∧ Accounted world) ?_
    ⟨orderly_initial isInitial, ?_⟩
  · rintro world event next ⟨orderly, accounted⟩ careful stepped
    refine ⟨orderly_step orderly careful.patient stepped, ?_⟩
    cases event with
    | connect fd =>
        exact accounted.connect orderly stepped
    | request ready fd bytes =>
        exact accounted.request orderly careful stepped
    | answer ready bytes =>
        exact accounted.answer orderly careful stepped
    | notify ready bytes =>
        exact accounted.notify orderly stepped
    | disconnect ready fd =>
        exact accounted.disconnect orderly careful.2 stepped
  · obtain ⟨-, noConnections, noMessages, -, -, noneInUse, -⟩ := isInitial
    refine ⟨?_, ?_, ?_, ?_, ?_⟩
    · simp [noneInUse]
    · simp [noneInUse, noConnections, noMessages, owned, returning]
    · simp [noMessages]
    · simp [noMessages]
    · simp [noMessages, releasing]

/--
In every careful run, each identifier in use at the modem belongs to exactly
one connection or is being given back, and no identifier is lost.
-/
theorem client_ids_accounted
    {source target : World}
    {events : List WorldEvent}
    (isInitial : worlds.Initial source)
    (run : worlds.GuardedRun Careful source events target) :
    target.allocated.Nodup ∧
      target.allocated.Perm
        (owned target.proxy.connections ++
          returning target.proxy.serverFd target.proxy.ctlMsgs) :=
  have accounted := (accounted_run isInitial run).2
  ⟨accounted.distinct, accounted.granted⟩

/-- Two clients get an identifier each, and the first one leaves. -/
def exampleGrants : List WorldEvent :=
  [.connect 5, .connect 6,
    .request exampleReady 5 (exampleGet 1),
    .request exampleReady 6 (exampleGet 1),
    .answer exampleReady (exampleGranted 1 10),
    .answer exampleReady (exampleGranted 1 11),
    .disconnect exampleReady 5]

/-- A checked execution is a careful run. -/
theorem carefulRun
    {events : List WorldEvent}
    {target : World}
    (accepted :
      worlds.runWhile? (fun world event => decide (Careful world event))
        exampleWorld events = some target) :
    worlds.GuardedRun Careful exampleWorld events target :=
  System.guardedRun_of_runWhile? Careful
    (fun _ _ checked => of_decide_eq_true checked) accepted

theorem exampleWorld_initial : worlds.Initial exampleWorld :=
  ⟨by decide, rfl, rfl, rfl, rfl, rfl, rfl⟩

theorem client_ids_accounted_leaving :
    ∃ target,
      worlds.GuardedRun Careful exampleWorld exampleGrants target ∧
        target.allocated.Perm ([(1, 11)] ++ [(1, 10)]) := by
  have accepted :
      (worlds.runWhile? (fun world event => decide (Careful world event))
          exampleWorld exampleGrants).map
        (fun target =>
          (owned target.proxy.connections,
            returning target.proxy.serverFd target.proxy.ctlMsgs)) =
        some ([(1, 11)], [(1, 10)]) := by
    decide +kernel
  obtain ⟨target, reached, ends⟩ := Option.map_eq_some_iff.mp accepted
  simp only [Prod.mk.injEq] at ends
  have accounted :=
    client_ids_accounted exampleWorld_initial (carefulRun reached)
  rw [ends.1, ends.2] at accounted
  exact ⟨target, carefulRun reached, accounted.2⟩

/-- A message for one client goes to the only connection that has it. -/
theorem deliver_eq
    {connections : List QmiProxyConnection}
    {message : QmiMessage}
    {ready : Readiness}
    (allReady : AllReady ready)
    (distinct : (owned connections).Nodup)
    (oneClient : message.clientId ≠ 0) :
    deliver ready connections message =
      (connections.filter fun connection =>
          (message.qmiType, message.clientId) ∈ connection.clients).map
        fun connection => .toClient connection.clientFd message := by
  induction connections with
  | nil =>
      rfl
  | cons connection rest inductionHypothesis =>
      rw [owned_cons] at distinct
      obtain ⟨ownDistinct, restDistinct, -⟩ := List.nodup_append.mp distinct
      have later := inductionHypothesis restDistinct
      have own :
          (connection.clients.flatMap fun client =>
            if message.qmiType = client.1 ∧
                (message.clientId = 0 ∨ message.clientId = client.2) then
              sendQmiToClient ready message connection.clientFd
            else []) =
            if (message.qmiType, message.clientId) ∈ connection.clients then
              [.toClient connection.clientFd message]
            else [] := by
        clear distinct later
        generalize connection.clients = clients at ownDistinct ⊢
        induction clients with
        | nil =>
            rfl
        | cons client others othersHypothesis =>
            obtain ⟨outside, othersDistinct⟩ := List.nodup_cons.mp ownDistinct
            rw [List.flatMap_cons, othersHypothesis othersDistinct]
            by_cases isIt : (message.qmiType, message.clientId) = client
            · subst isIt
              simp [outside, sendQmiToClient, show ready = _ from allReady]
            · have notIt :
                  ¬ (message.qmiType = client.1 ∧
                    (message.clientId = 0 ∨ message.clientId = client.2)) := by
                rintro ⟨sameType, noClient | sameId⟩
                · exact oneClient noClient
                · exact isIt (Prod.ext sameType sameId)
              simp only [notIt, if_false, List.nil_append, List.mem_cons,
                isIt, false_or]
      rw [deliver, List.flatMap_cons, own]
      rw [deliver] at later
      rw [later]
      by_cases has :
          (message.qmiType, message.clientId) ∈ connection.clients
      · simp [has]
      · simp [has]

/--
In every careful run, a message of another service for one client is written
to the connection that the client was granted to, once, and to no other; when
the client was given back, it is written to none.
-/
theorem message_reaches_owner
    {source target : World}
    {events : List WorldEvent}
    {message : QmiMessage}
    {ready : Readiness}
    (isInitial : worlds.Initial source)
    (run : worlds.GuardedRun Careful source events target)
    (allReady : AllReady ready)
    (otherService : message.qmiType ≠ qmuxTypeCtl)
    (oneClient : message.clientId ≠ 0) :
    (∀ connection ∈ target.proxy.connections,
        (message.qmiType, message.clientId) ∈ connection.clients →
          (recvQmiFromDev ready target.proxy message).2 =
            [.toClient connection.clientFd message]) ∧
      ((message.qmiType, message.clientId) ∉
          owned target.proxy.connections →
        (recvQmiFromDev ready target.proxy message).2 = []) := by
  obtain ⟨orderly, accounted⟩ := accounted_run isInitial run
  have distinct := (List.nodup_append.mp accounted.nodup).1
  have isOpen : target.proxy.serverFd ≠ -1 := by
    intro shut
    exact absurd (shut ▸ orderly.serverOpen) (by decide)
  have delivered :
      (recvQmiFromDev ready target.proxy message).2 =
        deliver ready target.proxy.connections message := by
    rw [recvQmiFromDev, if_neg isOpen, if_neg otherService]
  rw [delivered, deliver_eq allReady distinct oneClient]
  constructor
  · intro connection member has
    obtain ⟨before, later, split⟩ := List.append_of_mem member
    rw [split, owned_append, owned_cons] at distinct
    have absent
        {other : QmiProxyConnection}
        (isOther : other ∈ before ++ later) :
        (message.qmiType, message.clientId) ∉ other.clients := by
      intro alsoHas
      have elsewhere :
          (message.qmiType, message.clientId) ∈ owned (before ++ later) :=
        List.mem_flatMap.mpr ⟨other, isOther, alsoHas⟩
      have counted :=
        List.nodup_iff_count_le_one.mp distinct
          (message.qmiType, message.clientId)
      have here := List.count_pos_iff.mpr has
      have there := List.count_pos_iff.mpr elsewhere
      simp only [owned_append, List.count_append] at counted there
      omega
    rw [split, List.filter_append, List.filter_cons_of_pos (by simpa using has)]
    have noneBefore :
        before.filter (fun other =>
          (message.qmiType, message.clientId) ∈ other.clients) = [] :=
      List.filter_eq_nil_iff.mpr fun other isBefore =>
        by simpa using absent (List.mem_append_left later isBefore)
    have noneLater :
        later.filter (fun other =>
          (message.qmiType, message.clientId) ∈ other.clients) = [] :=
      List.filter_eq_nil_iff.mpr fun other isLater =>
        by simpa using absent (List.mem_append_right before isLater)
    rw [noneBefore, noneLater]
    rfl
  · intro notOwned
    have noConnection :
        target.proxy.connections.filter (fun connection =>
          (message.qmiType, message.clientId) ∈ connection.clients) = [] := by
      refine List.filter_eq_nil_iff.mpr fun connection member => ?_
      have absent :
          (message.qmiType, message.clientId) ∉ connection.clients :=
        fun has => notOwned (List.mem_flatMap.mpr ⟨connection, member, has⟩)
      simpa using absent
    rw [noConnection]
    rfl

/-- A message of `WDS` for the client 11. -/
def exampleIndication : QmiMessage where
  bytes := [0x01, 5, 0, 0x80, 1, 11]
  sized := rfl

theorem message_reaches_owner_second :
    ∃ target,
      worlds.GuardedRun Careful exampleWorld exampleGrants target ∧
        (recvQmiFromDev exampleReady target.proxy exampleIndication).2 =
          [.toClient 6 exampleIndication] := by
  have accepted :
      (worlds.runWhile? (fun world event => decide (Careful world event))
          exampleWorld exampleGrants).map (·.proxy.connections) =
        some [⟨6, [(1, 11)]⟩] := by
    decide +kernel
  obtain ⟨target, reached, connections⟩ := Option.map_eq_some_iff.mp accepted
  refine ⟨target, carefulRun reached, ?_⟩
  exact
    (message_reaches_owner exampleWorld_initial (carefulRun reached) rfl
      (by decide) (by decide)).1 ⟨6, [(1, 11)]⟩
      (by rw [connections]; exact .head _) (.head _)

/-- A client is lost while the modem has its request. -/
theorem hangup_of_first
    {world after : World}
    {ready : Readiness}
    {first : QmiProxyMsg}
    {rest : List QmiProxyMsg}
    (queued : world.proxy.ctlMsgs = first :: rest)
    (gone :
      worldStep? world (.disconnect ready first.clientFd) = some after) :
    ∃ before connection later,
      world.proxy.connections = before ++ connection :: later ∧
        after =
          world.after
            ({ world.proxy with
                connections := before ++ later
                ctlMsgs :=
                  rest ++
                    releases world.proxy.serverFd connection.clients },
              [.close first.clientFd])
            world.pending world.allocated [.closed first.clientFd] := by
  obtain ⟨before, connection, later, split, -, rfl⟩ :=
    Orderly.lost_cases gone
  refine ⟨before, connection, later, split, ?_⟩
  simp only [queued, List.cons_append, reduceCtorEq, if_false,
    List.nil_append, decide_true, List.eraseP_cons_of_pos]

/-- An answer that the queue does not expect uses up what it expects. -/
theorem recvQmiFromDev_unexpected
    {ready : Readiness}
    {proxy : ProxyState}
    {answer : QmiMessage}
    (serverOpen : 0 < proxy.serverFd)
    (isAnswer : IsCtlAnswer answer)
    (different : ∀ next ∈ proxy.ctlMsgs.head?, ¬ Answers answer next.qmi) :
    recvQmiFromDev ready proxy answer =
      ({ proxy with ctlMsgs := proxy.ctlMsgs.tail },
        sendNext ready proxy.ctlMsgs.tail) := by
  have isOpen : proxy.serverFd ≠ -1 := by
    intro shut
    exact absurd (shut ▸ serverOpen) (by decide)
  unfold recvQmiFromDev
  rw [if_neg isOpen, if_pos isAnswer.1, if_pos isAnswer.2]
  obtain ⟨serverFd, connections, ctlMsgs, syncDone, resetFlag⟩ := proxy
  cases ctlMsgs with
  | nil =>
      rfl
  | cons next others =>
      have mismatch := different next rfl
      simp [recvCtlAnswer, mismatch]

/--
A client that is lost while the modem has its request takes another request
with it: the answer removes the request that is next in the queue, although
the modem has never got that one, and an identifier that the answer grants
stays in use with no connection that could give it back.
-/
theorem hangup_loses_next
    {source world after final : World}
    {events : List WorldEvent}
    {ready answerReady : Readiness}
    {first : QmiProxyMsg}
    {rest : List QmiProxyMsg}
    {bytes : List Byte}
    {message : QmiMessage}
    (isInitial : worlds.Initial source)
    (run : worlds.GuardedRun Careful source events world)
    (queued : world.proxy.ctlMsgs = first :: rest)
    (gone :
      worldStep? world (.disconnect ready first.clientFd) = some after)
    (answered : worldStep? after (.answer answerReady bytes) = some final)
    (allReady : AllReady answerReady)
    (read : QmiMessage.read? bytes = some message)
    (different :
      ∀ next ∈ after.proxy.ctlMsgs.head?, ¬ Answers message next.qmi) :
    after.pending = [first.qmi] ∧
      final.proxy.ctlMsgs = after.proxy.ctlMsgs.tail ∧
      final.pending = (after.proxy.ctlMsgs.tail.take 1).map (·.qmi) ∧
      final.history = after.history ∧
      (first.qmi.qmiCtlType = getClientIdType →
        Succeeded message →
          message.answerClient ∈ final.allocated ∧
            message.answerClient ∉
              owned final.proxy.connections ++
                returning final.proxy.serverFd final.proxy.ctlMsgs) := by
  obtain ⟨orderly, accounted⟩ := accounted_run isInitial run
  obtain ⟨before, connection, later, split, rfl⟩ :=
    hangup_of_first queued gone
  have withModem : world.pending = [first.qmi] := by
    rw [orderly.oldest, queued]
    rfl
  have queueSubset :
      ∀ queuedMessage ∈ rest, queuedMessage ∈ world.proxy.ctlMsgs := by
    intro queuedMessage member
    rw [queued]
    exact .tail first member
  have control :
      ∀ queuedMessage ∈
          (rest ++
            releases world.proxy.serverFd connection.clients).tail,
        queuedMessage.qmi.qmiType = qmuxTypeCtl := by
    intro queuedMessage member
    rcases List.mem_append.mp (List.mem_of_mem_tail member) with
      isOld | isRelease
    · exact orderly.control queuedMessage (queueSubset queuedMessage isOld)
    · obtain ⟨client, -, rfl⟩ := List.mem_map.mp isRelease
      rfl
  simp only [worldStep?, World.after, withModem, written, read,
    List.filterMap_cons, List.filterMap_nil, List.append_nil,
    Option.ite_none_right_eq_some] at answered
  obtain ⟨⟨isAnswer, -⟩, continued⟩ := answered
  cases allows : allocate? world.allocated first.qmi message with
  | none =>
      simp [allows] at continued
  | some allocated =>
      rw [allows] at continued
      obtain ⟨outcome, turned, rfl⟩ := Option.map_eq_some_iff.mp continued
      have received := turn?_readDevice read turned
      rw [recvQmiFromDev_unexpected (by exact orderly.serverOpen) isAnswer
        (by exact different)] at received
      obtain rfl := received
      simp only [answers_sendNext, List.append_nil]
      refine ⟨by simp [World.after, withModem, written], rfl, ?_, rfl, ?_⟩
      · simp only [World.after]
        exact written_sendNext allReady control
      · intro isGet succeeded
        obtain ⟨-, unused, rfl⟩ | ⟨failed, -⟩ := allocate?_get isGet allows
        · refine ⟨List.mem_append_right _ (.head []), fun member => ?_⟩
          -- Everything owned or given back was in use before the answer.
          refine unused (accounted.granted.mem_iff.mpr ?_)
          rw [split, owned_append, owned_cons]
          simp only [owned_append, List.mem_append] at member ⊢
          rcases member with (isBefore | isLater) | isReturned
          · exact .inl (.inl isBefore)
          · exact .inl (.inr (.inr isLater))
          · have inQueue :=
              mem_returning_of_subset
                (fun _ inTail => List.mem_of_mem_tail inTail) isReturned
            rw [returning_append, returning_releases, List.mem_append]
              at inQueue
            rcases inQueue with isOld | wasOwned
            · exact .inr (mem_returning_of_subset queueSubset isOld)
            · exact .inl (.inr (.inl wasOwned))
        · exact absurd succeeded failed

/-- `GetVersionReq` with another transaction identifier. -/
def exampleVersion : List Byte :=
  [0x01, 15, 0, 0, 0, 0, 0x00, 2, 0x21, 0, 4, 0, 0x01, 1, 0, 0xFF]

/-- The second client asks while the modem has the request of the first. -/
def exampleAsked : List WorldEvent :=
  [.connect 5, .connect 6,
    .request exampleReady 5 (exampleGet 1),
    .request exampleReady 6 exampleVersion]

theorem hangup_loses_next_version :
    ∃ world after final,
      worlds.GuardedRun Careful exampleWorld exampleAsked world ∧
        worldStep? world (.disconnect exampleReady 5) = some after ∧
        worldStep? after (.answer exampleReady (exampleGranted 1 10)) =
          some final ∧
        after.proxy.ctlMsgs = [⟨6, ⟨exampleVersion, rfl⟩⟩] ∧
        final.proxy.ctlMsgs = [] ∧ final.history = after.history ∧
        (1, 10) ∈ final.allocated := by
  have accepted :
      ((worlds.runWhile? (fun world event => decide (Careful world event))
          exampleWorld exampleAsked).bind fun world =>
        (worldStep? world (.disconnect exampleReady 5)).bind fun after =>
          (worldStep? after
            (.answer exampleReady (exampleGranted 1 10))).map fun _ =>
              (world.proxy.ctlMsgs, after.proxy.ctlMsgs)) =
        some
          ([⟨5, ⟨exampleGet 1, rfl⟩⟩, ⟨6, ⟨exampleVersion, rfl⟩⟩],
            [⟨6, ⟨exampleVersion, rfl⟩⟩]) := by
    decide +kernel
  obtain ⟨world, reached, rest⟩ := Option.bind_eq_some_iff.mp accepted
  obtain ⟨after, gone, rest⟩ := Option.bind_eq_some_iff.mp rest
  obtain ⟨final, answered, ends⟩ := Option.map_eq_some_iff.mp rest
  simp only [Prod.mk.injEq] at ends
  have read :
      QmiMessage.read? (exampleGranted 1 10) =
        some ⟨exampleGranted 1 10, rfl⟩ := by
    decide
  have lost :=
    hangup_loses_next exampleWorld_initial (carefulRun reached) ends.1 gone
      answered rfl read
      (by
        rw [ends.2]
        rintro next ⟨⟩
        decide)
  refine ⟨world, after, final, carefulRun reached, gone, answered, ends.2,
    ?_, lost.2.2.2.1, (lost.2.2.2.2 (by decide) (by decide)).1⟩
  rw [lost.2.1, ends.2]
  rfl

end RecomputerGateway.QmiProxy
