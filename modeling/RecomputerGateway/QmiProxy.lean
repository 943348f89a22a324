import RecomputerGateway.LittleEndian

namespace RecomputerGateway.QmiProxy

open Hexadecimal (Byte)
open LittleEndian

/-!
# The QMI proxy

Several programs share one modem through `quectel-qmi-proxy`.  Messages of the
control service are queued, and the oldest is with the modem; the answer goes
to the connection that asked, and the client identifiers that the modem grants
on the way decide which connections get the messages of the other services.
-/

/-- A `QCQMIMSG` whose length field agrees with the bytes that were read. -/
structure QmiMessage where
  bytes : List Byte
  sized : bytes.length = le16At bytes 1 + 1
  deriving DecidableEq

namespace QmiMessage

/-- The check of the loop before it looks at a message. -/
def read? (bytes : List Byte) : Option QmiMessage :=
  if sized : bytes.length = le16At bytes 1 + 1 then some ⟨bytes, sized⟩
  else none

/-- `QMIHdr.QMIType`. -/
def qmiType (message : QmiMessage) : Byte :=
  byteAt message.bytes 4

/-- `QMIHdr.ClientId`. -/
def clientId (message : QmiMessage) : Byte :=
  byteAt message.bytes 5

/-- `CTLMsg.QMICTLMsgHdr.CtlFlags`. -/
def ctlFlags (message : QmiMessage) : Byte :=
  byteAt message.bytes 6

/-- `CTLMsg.QMICTLMsgHdr.TransactionId`. -/
def transactionId (message : QmiMessage) : Byte :=
  byteAt message.bytes 7

/-- `CTLMsg.QMICTLMsgHdr.QMICTLType`. -/
def qmiCtlType (message : QmiMessage) : Nat :=
  le16At message.bytes 8

/-- `QMIResult` of the answers to the requests for and releases of clients. -/
def qmiResult (message : QmiMessage) : Nat :=
  le16At message.bytes 15

/-- `QMIError` of the same answers. -/
def qmiError (message : QmiMessage) : Nat :=
  le16At message.bytes 17

/-- `QMIType` and `ClientId` in the second TLV of the same answers. -/
def answerClient (message : QmiMessage) : Byte × Byte :=
  (byteAt message.bytes 22, byteAt message.bytes 23)

/-- `QMIType` and `ClientId` of `ReleaseClientIdReq`. -/
def releaseClient (message : QmiMessage) : Byte × Byte :=
  (byteAt message.bytes 15, byteAt message.bytes 16)

end QmiMessage

/-- `QMUX_TYPE_CTL`. -/
def qmuxTypeCtl : Byte := 0x00

/-- `QMICTL_CTL_FLAG_RSP` and `QMICTL_CTL_FLAG_IND`. -/
def qmiCtlFlagRsp : Byte := 0x01

def qmiCtlFlagInd : Byte := 0x02

/-- The message types of the control service that the proxy tells apart. -/
def getClientIdType : Nat := 0x0022

def releaseClientIdType : Nat := 0x0023

def revokeClientIdInd : Nat := 0x0024

def syncReq : Nat := 0x0027

/-- The `ReleaseClientIdReq` that the proxy makes up for a lost client. -/
def releaseClientIdReq (client : Byte × Byte) : QmiMessage where
  bytes :=
    [0x01, 16, 0, 0x00, 0x00, 0x00,
      0x00, 255, 0x23, 0x00, 5, 0,
      0x01, 2, 0, client.1, client.2]
  sized := rfl

/-- `QMI_PROXY_CONNECTION`, with the list of its `QMI_PROXY_CLINET` items. -/
structure QmiProxyConnection where
  clientFd : Int
  clients : List (Byte × Byte)
  deriving DecidableEq

/-- `QMI_PROXY_MSG`. -/
structure QmiProxyMsg where
  clientFd : Int
  qmi : QmiMessage
  deriving DecidableEq

/-- The global variables of the proxy. -/
structure ProxyState where
  serverFd : Int
  connections : List QmiProxyConnection
  ctlMsgs : List QmiProxyMsg
  qmiSyncDone : Bool
  modemResetFlag : Bool
  deriving DecidableEq

/-- What the proxy does to its descriptors. -/
inductive Output where
  | toDevice (message : QmiMessage)
  | toClient (fd : Int) (message : QmiMessage)
  | close (fd : Int)
  deriving DecidableEq

/-- Which descriptors are still busy when `poll` gives up on them. -/
structure Readiness where
  deviceBusy : Bool
  busyClients : List Int
  deriving DecidableEq

/-- `send_qmi_to_cdc_wdm`: a message is dropped when the device stays busy. -/
def sendQmiToCdcWdm
    (ready : Readiness)
    (message : QmiMessage) : List Output :=
  if ready.deviceBusy then [] else [.toDevice message]

/-- `send_qmi_to_client`. -/
def sendQmiToClient
    (ready : Readiness)
    (message : QmiMessage)
    (fd : Int) : List Output :=
  if fd ∈ ready.busyClients then [] else [.toClient fd message]

/-- Send a message to the device if nothing is queued before it. -/
def sendIfFirst
    (ready : Readiness)
    (queue : List QmiProxyMsg)
    (message : QmiMessage) : List Output :=
  match queue with
  | [] => sendQmiToCdcWdm ready message
  | _ :: _ => []

/-- `get_client_id`. -/
def getClientId
    (connection : QmiProxyConnection)
    (answer : QmiMessage) : QmiProxyConnection :=
  if answer.qmiResult = 0 ∧ answer.qmiError = 0 then
    { connection with
      clients := connection.clients ++ [answer.answerClient] }
  else connection

/-- `release_client_id`. -/
def releaseClientId
    (connection : QmiProxyConnection)
    (answer : QmiMessage) : QmiProxyConnection :=
  if answer.qmiResult = 0 ∧ answer.qmiError = 0 then
    { connection with
      clients := connection.clients.erase answer.answerClient }
  else connection

/-- What an answer of the control service does to the one who asked. -/
def takeAnswer
    (answer : QmiMessage)
    (connection : QmiProxyConnection) : QmiProxyConnection :=
  if answer.qmiCtlType = getClientIdType then
    getClientId connection answer
  else if answer.qmiCtlType = releaseClientIdType then
    releaseClientId connection answer
  else connection

/-- Whether an answer is taken for the answer to a request. -/
def Answers (answer request : QmiMessage) : Prop :=
  request.transactionId = answer.transactionId ∧
    request.qmiCtlType = answer.qmiCtlType

instance (answer request : QmiMessage) : Decidable (Answers answer request) :=
  inferInstanceAs (Decidable (_ ∧ _))

/-- An answer is handed to every connection with the descriptor that asked. -/
def handAnswer
    (ready : Readiness)
    (connections : List QmiProxyConnection)
    (fd : Int)
    (answer : QmiMessage) :
    List QmiProxyConnection × List Output :=
  (connections.map fun connection =>
      if connection.clientFd = fd then takeAnswer answer connection
      else connection,
    connections.flatMap fun connection =>
      if connection.clientFd = fd then sendQmiToClient ready answer fd
      else [])

/-- The request that comes first when an answer has removed the old one. -/
def sendNext
    (ready : Readiness) : List QmiProxyMsg → List Output
  | [] => []
  | next :: _ => sendQmiToCdcWdm ready next.qmi

/-- The part of `recv_qmi_from_dev` for the answers of the control service. -/
def recvCtlAnswer
    (ready : Readiness)
    (proxy : ProxyState)
    (answer : QmiMessage) : ProxyState × List Output :=
  match proxy.ctlMsgs with
  | [] => (proxy, [])
  | first :: rest =>
      let (connections, handed) :=
        if ¬ Answers answer first.qmi ∨ first.clientFd = proxy.serverFd then
          (proxy.connections, [])
        else handAnswer ready proxy.connections first.clientFd answer
      ({ proxy with connections := connections, ctlMsgs := rest },
        handed ++ sendNext ready rest)

/-- Each client of the service gets a message for it, or for all clients. -/
def deliver
    (ready : Readiness)
    (connections : List QmiProxyConnection)
    (message : QmiMessage) : List Output :=
  connections.flatMap fun connection =>
    connection.clients.flatMap fun client =>
      if message.qmiType = client.1 ∧
          (message.clientId = 0 ∨ message.clientId = client.2) then
        sendQmiToClient ready message connection.clientFd
      else []

/-- `recv_qmi_from_dev`. -/
def recvQmiFromDev
    (ready : Readiness)
    (proxy : ProxyState)
    (message : QmiMessage) : ProxyState × List Output :=
  if proxy.serverFd = -1 then ({ proxy with qmiSyncDone := true }, [])
  else if message.qmiType = qmuxTypeCtl then
    if message.ctlFlags = qmiCtlFlagRsp then
      recvCtlAnswer ready proxy message
    -- The flag is compared with the service type, as the source has it.
    else if message.qmiType = qmiCtlFlagInd then
      if message.qmiCtlType = revokeClientIdInd then
        ({ proxy with modemResetFlag := true }, [])
      else (proxy, [])
    else (proxy, [])
  else (proxy, deliver ready proxy.connections message)

/-- `recv_qmi_from_client`. -/
def recvQmiFromClient
    (ready : Readiness)
    (proxy : ProxyState)
    (message : QmiMessage)
    (clientFd : Int) : ProxyState × List Output :=
  if proxy.serverFd = -1 then (proxy, [])
  else if message.qmiType = qmuxTypeCtl then
    if message.qmiCtlType = syncReq then (proxy, [])
    else
      ({ proxy with
          ctlMsgs := proxy.ctlMsgs ++ [⟨clientFd, message⟩] },
        sendIfFirst ready proxy.ctlMsgs message)
  else (proxy, sendQmiToCdcWdm ready message)

/-- The requests that release the clients of a lost connection. -/
def releaseAll
    (ready : Readiness)
    (serverFd : Int) :
    List QmiProxyMsg → List (Byte × Byte) →
      List QmiProxyMsg × List Output
  | queue, [] => (queue, [])
  | queue, client :: rest =>
      let request := releaseClientIdReq client
      let (longer, later) :=
        releaseAll ready serverFd (queue ++ [⟨serverFd, request⟩]) rest
      (longer, sendIfFirst ready queue request ++ later)

/-- `cleanup_qmi_connection`. -/
def cleanupQmiConnection
    (ready : Readiness)
    (proxy : ProxyState)
    (clientFd : Int)
    (clientDisconnect : Bool) : ProxyState × List Output :=
  match proxy.connections.find? (·.clientFd = clientFd) with
  | none => (proxy, [])
  | some connection =>
      let (queue, sent) :=
        if clientDisconnect then
          releaseAll ready proxy.serverFd proxy.ctlMsgs connection.clients
        else (proxy.ctlMsgs, [])
      ({ proxy with
          connections :=
            proxy.connections.eraseP (·.clientFd = clientFd)
          -- Only the oldest message of the connection is taken back.
          ctlMsgs := queue.eraseP (·.clientFd = clientFd) },
        sent ++ [.close clientFd])

/-- `accept_qmi_connection`. -/
def acceptQmiConnection
    (proxy : ProxyState)
    (clientFd : Int) : ProxyState :=
  { proxy with
    connections := proxy.connections ++ [⟨clientFd, []⟩] }

/-- `sizeof(qmi_buf)`, the most that one `read` returns. -/
def qmiBufSize : Nat := 4096

/-- What a `read` can return. -/
def Readable (bytes : List Byte) : Prop :=
  bytes ≠ [] ∧ bytes.length ≤ qmiBufSize

instance (bytes : List Byte) : Decidable (Readable bytes) :=
  inferInstanceAs (Decidable (_ ∧ _))

/-- The entries of `pollfds`. -/
def pollfdsSize : Nat := 2 + 64

/--
The connections that `poll` looks at: `pollfds` has the device and the server
first, and as many connections as there is room for behind them.
-/
def ProxyState.polled (proxy : ProxyState) : List QmiProxyConnection :=
  proxy.connections.take
    (pollfdsSize - if 0 < proxy.serverFd then 2 else 1)

/-- Whether `poll` looks at a descriptor. -/
def ProxyState.Polls (proxy : ProxyState) (fd : Int) : Prop :=
  ∃ connection ∈ proxy.polled, connection.clientFd = fd

instance (proxy : ProxyState) (fd : Int) : Decidable (proxy.Polls fd) :=
  inferInstanceAs (Decidable (∃ _ ∈ _, _))

/-- What the loop of the proxy learns from `poll`, `accept` and `read`. -/
inductive ProxyEvent where
  | accepted (clientFd : Int)
  | readDevice (ready : Readiness) (bytes : List Byte)
  | readClient (ready : Readiness) (clientFd : Int) (bytes : List Byte)
  | lostClient (ready : Readiness) (clientFd : Int)
  deriving DecidableEq

/-- One turn of `qmi_proxy_loop`; `none` when the loop does not take it. -/
def turn? (proxy : ProxyState) :
    ProxyEvent → Option (ProxyState × List Output)
  | .accepted clientFd =>
      if proxy.modemResetFlag ∨ proxy.serverFd ≤ 0 then none
      else some (acceptQmiConnection proxy clientFd, [])
  | .readDevice ready bytes =>
      if proxy.modemResetFlag ∨ ¬ Readable bytes then none
      else
        match QmiMessage.read? bytes with
        | none => some (proxy, [])
        | some message => some (recvQmiFromDev ready proxy message)
  | .readClient ready clientFd bytes =>
      if proxy.modemResetFlag ∨ ¬ Readable bytes ∨ ¬ proxy.Polls clientFd then
        none
      else
        match QmiMessage.read? bytes with
        | none => some (proxy, [])
        | some message =>
            some (recvQmiFromClient ready proxy message clientFd)
  | .lostClient ready clientFd =>
      if proxy.modemResetFlag ∨ ¬ proxy.Polls clientFd then none
      else some (cleanupQmiConnection ready proxy clientFd true)

/-- The queued requests that release a list of clients. -/
def releases
    (serverFd : Int)
    (clients : List (Byte × Byte)) : List QmiProxyMsg :=
  clients.map fun client => ⟨serverFd, releaseClientIdReq client⟩

/-- Only the first release can be the first message of the queue. -/
theorem releaseAll_eq
    (ready : Readiness)
    (serverFd : Int)
    (queue : List QmiProxyMsg)
    (clients : List (Byte × Byte)) :
    releaseAll ready serverFd queue clients =
      (queue ++ releases serverFd clients,
        if queue = [] then sendNext ready (releases serverFd clients)
        else []) := by
  induction clients generalizing queue with
  | nil =>
      simp [releaseAll, releases, sendNext]
  | cons client rest inductionHypothesis =>
      rw [releaseAll, inductionHypothesis]
      cases queue with
      | nil =>
          simp [releases, sendNext, sendIfFirst]
      | cons first others =>
          simp [releases, sendIfFirst]

/-- An answer changes no descriptor of a connection. -/
@[simp] theorem takeAnswer_clientFd
    (answer : QmiMessage)
    (connection : QmiProxyConnection) :
    (takeAnswer answer connection).clientFd = connection.clientFd := by
  unfold takeAnswer getClientId releaseClientId
  split_ifs <;> rfl

/-- What a turn does with a message of the device. -/
theorem turn?_readDevice
    {ready : Readiness}
    {proxy : ProxyState}
    {bytes : List Byte}
    {message : QmiMessage}
    {outcome : ProxyState × List Output}
    (read : QmiMessage.read? bytes = some message)
    (turned : turn? proxy (.readDevice ready bytes) = some outcome) :
    outcome = recvQmiFromDev ready proxy message := by
  obtain ⟨-, taken⟩ := Option.ite_none_left_eq_some.mp turned
  rw [read] at taken
  exact (Option.some.inj taken).symm

/-- A connection that `poll` looks at is one of the connections. -/
theorem ProxyState.Polls.connected
    {proxy : ProxyState}
    {fd : Int}
    (polls : proxy.Polls fd) :
    ∃ connection ∈ proxy.connections, connection.clientFd = fd := by
  obtain ⟨connection, member, ofFd⟩ := polls
  exact ⟨connection, List.mem_of_mem_take member, ofFd⟩

theorem QmiMessage.read?_bytes
    {bytes : List Byte}
    {message : QmiMessage}
    (read : QmiMessage.read? bytes = some message) :
    message.bytes = bytes := by
  unfold QmiMessage.read? at read
  split at read
  · obtain rfl := Option.some.inj read
    rfl
  · exact nomatch read

/-- The oldest request leaves the queue when it is answered. -/
theorem recvQmiFromDev_answer
    {ready : Readiness}
    {proxy : ProxyState}
    {answer : QmiMessage}
    {first : QmiProxyMsg}
    {rest : List QmiProxyMsg}
    (serverOpen : 0 < proxy.serverFd)
    (isCtl : answer.qmiType = qmuxTypeCtl)
    (isAnswer : answer.ctlFlags = qmiCtlFlagRsp)
    (queued : proxy.ctlMsgs = first :: rest)
    (answers : Answers answer first.qmi) :
    recvQmiFromDev ready proxy answer =
      if first.clientFd = proxy.serverFd then
        ({ proxy with ctlMsgs := rest }, sendNext ready rest)
      else
        ({ proxy with
            connections :=
              (handAnswer ready proxy.connections first.clientFd answer).1
            ctlMsgs := rest },
          (handAnswer ready proxy.connections first.clientFd answer).2 ++
            sendNext ready rest) := by
  have open' : proxy.serverFd ≠ -1 := by
    intro shut
    rw [shut] at serverOpen
    exact absurd serverOpen (by decide)
  unfold recvQmiFromDev recvCtlAnswer
  rw [if_neg open', if_pos isCtl, if_pos isAnswer, queued]
  by_cases ofServer : first.clientFd = proxy.serverFd
  · simp [ofServer]
  · simp [ofServer, answers]

end RecomputerGateway.QmiProxy
