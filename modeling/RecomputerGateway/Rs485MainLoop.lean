import RecomputerGateway.BoundedChannel
import RecomputerGateway.Rs485Modbus
import RecomputerGateway.Transition

namespace RecomputerGateway.Rs485

/-!
# The main loop of `rs485-module`

`main` is one task.  Every point at which it waits, and every access to a
file, is a place of its own; between two places it runs without interruption.
The events say what the environment answers: the configuration, the broker,
the serial port, the Modbus slave and the files.
-/

abbrev Byte := BitVec 8

/-- RS485 -> MQTT. -/
structure UplinkMessage where
  data : String
  deriving DecidableEq

/-- MQTT -> RS485. -/
structure DownlinkMessage where
  data : String
  deriving DecidableEq

/-- A request to the MQTT client. -/
inductive Request where
  | subscribe (topic : String) (qos : QoS)
  | publish (topic : String) (qos : QoS) (retain : Bool) (payload : String)
  deriving DecidableEq

/-- The functions of the libraries that the program calls. -/
structure External where
  /-- `serde_json::to_string`. -/
  toJson : UplinkMessage → Option String
  /-- `serde_json::from_str`. -/
  fromJson : String → Option DownlinkMessage
  /-- Whether the client finds the topic of a request valid. -/
  accepts : Request → Bool

/-- The capacity in `AsyncClient::new(mqttoptions, 10)`. -/
def capacity : Nat := 10

/-- The event loop that one call of `setup_mqtt_client` makes. -/
structure EventLoop where
  session : Nat
  /-- The channel from the client of the same call. -/
  requests : Channel Request capacity
  /-- Requests taken out of the channel and not settled yet. -/
  sent : List Request
  deriving DecidableEq

/-- A new event loop. -/
def EventLoop.new (session : Nat) : EventLoop where
  session := session
  requests := .empty
  sent := []

/-- What `poll` does before it returns or is dropped. -/
structure PollActivity where
  /-- The requests that it takes out of the channel. -/
  taken : Nat
  /-- The requests that are acknowledged or need no acknowledgement. -/
  settled : List Request
  deriving DecidableEq

def EventLoop.advance
    (eventloop : EventLoop)
    (activity : PollActivity) :
    EventLoop :=
  { eventloop with
    requests := eventloop.requests.receive activity.taken
    sent :=
      (eventloop.sent ++
        eventloop.requests.items.take activity.taken).diff
          activity.settled }

/-- What `poll` returns. -/
inductive PollResult where
  | connAck
  | publish (payload : List Byte)
  | subAck
  | disconnect
  | otherIncoming
  | outgoing
  | error
  deriving DecidableEq

/-- What reading from the serial port returns. -/
inductive SerialResult where
  | bytes (buffer : List Byte)
  | wouldBlock
  | error
  deriving DecidableEq

inductive MqttState where
  | notConnect
  | successConnect
  | failedConnect
  deriving DecidableEq

/-- Where `main` is. -/
inductive Pc where
  /-- In front of the loop. -/
  | startUp
  | loadConfig
  /-- `setup_mqtt_client` in the state `not_connect`. -/
  | setUp
  /-- In `select!`, between `poll` and the serial port. -/
  | select
  /-- `client.subscribe(..).await` or `client.publish(..).await`. -/
  | requestAwait (request : Request)
  /-- `write_all` of a downlink message. -/
  | serialWrite (data : String)
  /-- The reconnect timer, then `setup_mqtt_client`. -/
  | reconnect
  | testTrigger
  /-- The trigger file was there. -/
  | startRead
  | readAwait (request : ReadRequest)
  | writeResult (result : Except String String)
  | removeTrigger
  | sleep
  /-- `main` has returned an error. -/
  | returned
  deriving DecidableEq

structure State where
  pc : Pc
  config : Config
  /-- Whether `serial_port` holds a port. -/
  serialPort : Bool
  modbusCtx : Option ModbusContext
  /-- The session of the client. -/
  mqttClient : Option Nat
  mqttEventloop : Option EventLoop
  mqttState : MqttState
  /-- How many calls of `setup_mqtt_client` were successful. -/
  sessions : Nat
  /-- Whether `/tmp/rs485_trigger` exists. -/
  trigger : Bool
  /-- The content of `/tmp/rs485_result`. -/
  result : Option String
  deriving DecidableEq

inductive Event where
  /-- The first configuration, and whether the serial port can be opened. -/
  | startUp (uci : Uci) (opens : Bool)
  | loadConfig (uci : Uci)
  /-- `setup_mqtt_client` returns. -/
  | setUp (successful : Bool)
  /-- `poll` wins in `select!`. -/
  | polled (activity : PollActivity) (result : PollResult)
  /-- The serial port wins, and the future of `poll` is dropped. -/
  | serialRead (activity : PollActivity) (result : SerialResult)
  /-- The client returns from a request. -/
  | requested
  | serialWritten
  | testTrigger
  | startRead
  | readDone (outcome : ReadOutcome)
  | writeResult (successful : Bool)
  | removeTrigger (successful : Bool)
  /-- The loop goes on after its sleep. -/
  | wake
  /-- Another process creates the trigger file. -/
  | createTrigger

/-- Behind the MQTT part of the loop. -/
def afterMqtt (state : State) : State :=
  { state with
    pc := if state.config.protocol.enabled then .testTrigger else .sleep }

/-- Opening the serial port in front of the loop. -/
def startUp (state : State) (uci : Uci) (opens : Bool) : State :=
  let config := loadConfigFromUci uci
  let loaded := { state with config := config, pc := .loadConfig }
  if config.serial.enabled then
    if opens then
      if config.protocol.enabled then
        -- `rtu::attach` starts with the broadcast address.
        { loaded with modbusCtx := some { slave := 0 } }
      else { loaded with serialPort := true }
    else { loaded with pc := .returned }
  else loaded

/-- The branches of the loop on `mqtt_state`. -/
def loadConfig (state : State) (uci : Uci) : State :=
  let loaded := { state with config := loadConfigFromUci uci }
  if loaded.config.mqtt.enabled then
    match loaded.mqttState with
    | .notConnect => { loaded with pc := .setUp }
    | .successConnect => { loaded with pc := .select }
    | .failedConnect => { loaded with pc := .reconnect }
  else afterMqtt loaded

/-- `setup_mqtt_client` has returned a client and its event loop. -/
def connected (state : State) : State :=
  { state with
    mqttClient := some state.sessions
    mqttEventloop := some (.new state.sessions)
    mqttState := .successConnect
    sessions := state.sessions + 1 }

/-- `setup_mqtt_client` has failed; only the reconnect drops the client. -/
def setUpFailed (state : State) (reconnecting : Bool) : State :=
  if reconnecting then
    { state with
      mqttClient := none, mqttEventloop := none,
      mqttState := .failedConnect }
  else { state with mqttState := .failedConnect }

/-- The event loop works while `select!` waits; without one nothing happens. -/
def pollWhile? (state : State) (activity : PollActivity) : Option State :=
  match state.mqttEventloop with
  | some eventloop =>
      if activity.taken ≤ eventloop.requests.items.length then
        some
          { state with mqttEventloop := some (eventloop.advance activity) }
      else none
  | none =>
      if activity.taken = 0 then some state else none

/-- The request that a `ConnAck` leads to. -/
def downlinkRequest (config : Config) : Request :=
  .subscribe config.mqtt.downlinkTopic config.mqtt.qosLevel

/-- The request that a read of the serial port leads to, if it leads to one. -/
def uplinkRequest?
    (external : External)
    (config : Config) :
    SerialResult → Option Request
  | .bytes [] => none
  | .bytes buffer =>
      let dataStr := RustText.trim (RustText.fromUtf8Lossy buffer)
      (external.toJson { data := dataStr }).map fun json =>
        .publish config.mqtt.uplinkTopic config.mqtt.qosLevel false json
  | .wouldBlock => none
  | .error => none

/-- Await a request on the client, if there is a client. -/
def awaitRequest (state : State) (request? : Option Request) : State :=
  match state.mqttClient, request? with
  | some _, some request => { state with pc := .requestAwait request }
  | _, _ => afterMqtt state

/-- The branch of `select!` for `poll`. -/
def handlePoll
    (external : External)
    (state : State) :
    PollResult → State
  | .connAck => awaitRequest state (some (downlinkRequest state.config))
  | .publish payload =>
      match external.fromJson (RustText.fromUtf8Lossy payload) with
      | some message =>
          if state.serialPort then
            { state with pc := .serialWrite message.data }
          else afterMqtt state
      | none => afterMqtt state
  | .subAck => afterMqtt state
  | .disconnect => afterMqtt { state with mqttState := .failedConnect }
  | .otherIncoming => afterMqtt state
  | .outgoing => afterMqtt state
  | .error => afterMqtt { state with mqttState := .failedConnect }

/-- The size of the buffer that is read into. -/
def serialBuffer : Nat := 1024

def SerialResult.fits : SerialResult → Bool
  | .bytes buffer => buffer.length ≤ serialBuffer
  | .wouldBlock => true
  | .error => true

/--
A request on the client.  An invalid topic, or a channel without its receiver,
is an error at once; otherwise the client waits for room in the channel.
-/
def request?
    (external : External)
    (state : State)
    (request : Request) :
    Option State :=
  if external.accepts request then
    match state.mqttEventloop with
    | some eventloop =>
        if state.mqttClient = some eventloop.session then
          (eventloop.requests.send? request).map fun requests =>
            { state with
              mqttEventloop := some { eventloop with requests := requests } }
        else some state
    | none => some state
  else some state

/-- The read of the Modbus data, up to the point where it waits. -/
def startRead (state : State) : State :=
  match state.modbusCtx with
  | none => { state with pc := .writeResult (.error notInitialized) }
  | some _ =>
      let addressed :=
        { state with
          modbusCtx := some { slave := state.config.protocol.deviceAddress } }
      match readRequest? state.config.protocol with
      | some request => { addressed with pc := .readAwait request }
      | none =>
          { addressed with
            pc := .writeResult (.error
              (unsupportedFunction state.config.protocol.functionCode)) }

/-- `.await??` on a read call: both kinds of error leave `main`. -/
def readDone?
    (state : State)
    (request : ReadRequest) :
    ReadOutcome → Option State
  | .error _ => some { state with pc := .returned }
  | .ok (.error _) => some { state with pc := .returned }
  | .ok (.ok data) =>
      if request.returns data then
        some { state with pc := .writeResult (.ok (formatData data)) }
      else none

/-- `setup_mqtt_client` returns, at the first call or at a reconnect. -/
def setUp (state : State) (successful reconnecting : Bool) : State :=
  if successful then connected state else setUpFailed state reconnecting

/-- One event, at the place where it can happen. -/
def step? (external : External) (state : State) (event : Event) :
    Option State :=
  match event with
  | .createTrigger => some { state with trigger := true }
  | .startUp uci opens =>
      if state.pc = .startUp then some (startUp state uci opens) else none
  | .loadConfig uci =>
      if state.pc = .loadConfig then some (loadConfig state uci) else none
  | .setUp successful =>
      if state.pc = .setUp then
        some (afterMqtt (setUp state successful false))
      else if state.pc = .reconnect then
        some (afterMqtt (setUp state successful true))
      else none
  | .polled activity result =>
      if state.pc = .select ∧ state.mqttEventloop.isSome then
        (pollWhile? state activity).map fun polled =>
          handlePoll external polled result
      else none
  | .serialRead activity result =>
      if state.pc = .select ∧ state.serialPort ∧ result.fits then
        (pollWhile? state activity).map fun polled =>
          awaitRequest polled (uplinkRequest? external state.config result)
      else none
  | .requested =>
      match state.pc with
      | .requestAwait request =>
          (request? external state request).map afterMqtt
      | _ => none
  | .serialWritten =>
      match state.pc with
      | .serialWrite _ => some (afterMqtt state)
      | _ => none
  | .testTrigger =>
      if state.pc = .testTrigger then
        some { state with pc := if state.trigger then .startRead else .sleep }
      else none
  | .startRead =>
      if state.pc = .startRead then some (startRead state) else none
  | .readDone outcome =>
      match state.pc with
      | .readAwait request => readDone? state request outcome
      | _ => none
  | .writeResult successful =>
      match state.pc with
      | .writeResult result =>
          some
            { state with
              result := if successful then some (resultText result)
                else state.result
              pc := .removeTrigger }
      | _ => none
  | .removeTrigger successful =>
      if state.pc = .removeTrigger then
        some
          { state with
            trigger := if successful then false else state.trigger
            pc := .sleep }
      else none
  | .wake =>
      if state.pc = .sleep then some { state with pc := .loadConfig }
      else none

/-- Nothing has been set up; the files may be there from before. -/
structure Initial (state : State) : Prop where
  pc : state.pc = .startUp
  serialPort : state.serialPort = false
  modbusCtx : state.modbusCtx = none
  mqttClient : state.mqttClient = none
  mqttEventloop : state.mqttEventloop = none
  mqttState : state.mqttState = .notConnect

/-- The program and its environment. -/
def bridge (external : External) : System State Event where
  Initial := Initial
  step? := step? external

/-- A start with no options set and no files. -/
def booted : State where
  pc := .startUp
  config := loadConfigFromUci fun _ _ => none
  serialPort := false
  modbusCtx := none
  mqttClient := none
  mqttEventloop := none
  mqttState := .notConnect
  sessions := 0
  trigger := false
  result := none

theorem initial_booted : Initial booted where
  pc := rfl
  serialPort := rfl
  modbusCtx := rfl
  mqttClient := rfl
  mqttEventloop := rfl
  mqttState := rfl

/-- The libraries on texts without characters that have to be escaped. -/
def plainExternal : External where
  toJson message := some ("\x7b\"data\":\"" ++ message.data ++ "\"\x7d")
  fromJson _ := none
  accepts
    | .subscribe _ _ => true
    | .publish topic _ _ _ =>
        topic.toList.all fun char => char ≠ '+' && char ≠ '#'

/-! ## What the steps do -/

/-- Behind the MQTT part, the trigger is tested if the protocol is enabled. -/
theorem afterMqtt_pc (state : State) :
    ((afterMqtt state).pc = .testTrigger ∧
        state.config.protocol.enabled = true) ∨
      (afterMqtt state).pc = .sleep := by
  unfold afterMqtt
  cases state.config.protocol.enabled <;> simp

/-- The program starts, or cannot open its serial port. -/
theorem startUp_cases (state : State) (uci : Uci) (opens : Bool) :
    ∃ pc modbusCtx serialPort,
      (pc = .loadConfig ∨ pc = .returned) ∧
        startUp state uci opens =
          { state with
            config := loadConfigFromUci uci
            modbusCtx := modbusCtx, serialPort := serialPort, pc := pc } := by
  unfold startUp
  dsimp only
  split
  · split
    · split
      · exact ⟨.loadConfig, _, _, .inl rfl, rfl⟩
      · exact ⟨.loadConfig, _, _, .inl rfl, rfl⟩
    · exact ⟨.returned, _, _, .inr rfl, rfl⟩
  · exact ⟨.loadConfig, _, _, .inl rfl, rfl⟩

/-- While `select!` waits, the event loop advances, if there is one. -/
theorem pollWhile?_cases
    {state polled : State}
    {activity : PollActivity}
    (works : pollWhile? state activity = some polled) :
    (∃ eventloop,
      state.mqttEventloop = some eventloop ∧
        polled =
          { state with mqttEventloop := some (eventloop.advance activity) }) ∨
      state.mqttEventloop = none ∧ polled = state := by
  unfold pollWhile? at works
  split at works
  next eventloop isLoop =>
    obtain ⟨-, continued⟩ := Option.ite_none_right_eq_some.mp works
    exact .inl ⟨eventloop, isLoop, (Option.some.inj continued).symm⟩
  next noLoop =>
    obtain ⟨-, continued⟩ := Option.ite_none_right_eq_some.mp works
    exact .inr ⟨noLoop, (Option.some.inj continued).symm⟩

/-- Where the loop goes with its configuration. -/
theorem loadConfig_cases (state : State) (uci : Uci) :
    (∃ pc,
      (pc = .setUp ∨ pc = .reconnect ∨
          pc = .select ∧ state.mqttState = .successConnect) ∧
        loadConfig state uci =
          { state with config := loadConfigFromUci uci, pc := pc }) ∨
      loadConfig state uci =
        afterMqtt { state with config := loadConfigFromUci uci } := by
  unfold loadConfig
  dsimp only
  split
  · split
    · exact .inl ⟨.setUp, .inl rfl, rfl⟩
    next connects =>
      exact .inl ⟨.select, .inr (.inr ⟨rfl, connects⟩), rfl⟩
    · exact .inl ⟨.reconnect, .inr (.inl rfl), rfl⟩
  · exact .inr rfl

/-- Starting a read waits for it or has its result. -/
theorem startRead_cases (state : State) :
    ∃ pc modbusCtx,
      ((∃ request, pc = .readAwait request) ∨
          ∃ result, pc = .writeResult result) ∧
        startRead state =
          { state with modbusCtx := modbusCtx, pc := pc } := by
  unfold startRead
  split
  · exact ⟨_, _, .inr ⟨_, rfl⟩, rfl⟩
  · dsimp only
    split
    · exact ⟨_, _, .inl ⟨_, rfl⟩, rfl⟩
    · exact ⟨_, _, .inr ⟨_, rfl⟩, rfl⟩

/-- A finished read has a result, or `main` returns. -/
theorem readDone?_cases
    {state next : State}
    {request : ReadRequest}
    {outcome : ReadOutcome}
    (answered : readDone? state request outcome = some next) :
    ∃ pc,
      (pc = .returned ∨ ∃ result, pc = .writeResult result) ∧
        next = { state with pc := pc } := by
  match outcome with
  | .error error =>
      cases answered
      exact ⟨_, .inl rfl, rfl⟩
  | .ok (.error exception) =>
      cases answered
      exact ⟨_, .inl rfl, rfl⟩
  | .ok (.ok data) =>
      obtain ⟨-, continued⟩ := Option.ite_none_right_eq_some.mp answered
      cases continued
      exact ⟨_, .inr ⟨_, rfl⟩, rfl⟩

/-- A request is awaited, or the MQTT part is over. -/
theorem awaitRequest_cases (state : State) (request? : Option Request) :
    (∃ request,
      request? = some request ∧
        awaitRequest state request? =
          { state with pc := .requestAwait request }) ∨
      (state.mqttClient = none ∨ request? = none) ∧
        awaitRequest state request? = afterMqtt state := by
  unfold awaitRequest
  cases state.mqttClient with
  | none =>
      exact .inr ⟨.inl rfl, rfl⟩
  | some session =>
      cases request? with
      | none =>
          exact .inr ⟨.inr rfl, rfl⟩
      | some request =>
          exact .inl ⟨request, rfl, rfl⟩

/-- What `main` does with the outcome of `poll`. -/
theorem handlePoll_cases
    (external : External)
    (state : State)
    (result : PollResult) :
    (result = .connAck ∧
      handlePoll external state result =
        awaitRequest state (some (downlinkRequest state.config))) ∨
      (result ≠ .connAck ∧
        ∃ data,
          handlePoll external state result =
            { state with pc := .serialWrite data }) ∨
        (result ≠ .connAck ∧
          ∃ mqttState,
            (mqttState = state.mqttState ∨ mqttState = .failedConnect) ∧
              handlePoll external state result =
                afterMqtt { state with mqttState := mqttState }) := by
  cases result with
  | connAck =>
      exact .inl ⟨rfl, rfl⟩
  | publish payload =>
      refine .inr ?_
      simp only [handlePoll]
      split
      next message isMessage =>
        split
        · exact .inl ⟨by simp, message.data, rfl⟩
        · exact .inr ⟨by simp, state.mqttState, .inl rfl, rfl⟩
      next =>
        exact .inr ⟨by simp, state.mqttState, .inl rfl, rfl⟩
  | subAck =>
      exact .inr (.inr ⟨by simp, state.mqttState, .inl rfl, rfl⟩)
  | disconnect =>
      exact .inr (.inr ⟨by simp, .failedConnect, .inr rfl, rfl⟩)
  | otherIncoming =>
      exact .inr (.inr ⟨by simp, state.mqttState, .inl rfl, rfl⟩)
  | outgoing =>
      exact .inr (.inr ⟨by simp, state.mqttState, .inl rfl, rfl⟩)
  | error =>
      exact .inr (.inr ⟨by simp, .failedConnect, .inr rfl, rfl⟩)

/-- A step: where the program is, and what it makes of the event. -/
def Moves
    (external : External)
    (state : State)
    (event : Event)
    (next : State) :
    Prop :=
  match event with
  | .createTrigger => next = { state with trigger := true }
  | .startUp uci opens =>
      state.pc = .startUp ∧ next = startUp state uci opens
  | .loadConfig uci =>
      state.pc = .loadConfig ∧ next = loadConfig state uci
  | .setUp successful =>
      ∃ reconnecting,
        state.pc = (if reconnecting then .reconnect else .setUp) ∧
          next = afterMqtt (setUp state successful reconnecting)
  | .polled activity result =>
      (state.pc = .select ∧ state.mqttEventloop.isSome = true) ∧
        ∃ polled,
          pollWhile? state activity = some polled ∧
            next = handlePoll external polled result
  | .serialRead activity result =>
      (state.pc = .select ∧ state.serialPort = true ∧
          result.fits = true) ∧
        ∃ polled,
          pollWhile? state activity = some polled ∧
            next =
              awaitRequest polled
                (uplinkRequest? external state.config result)
  | .requested =>
      ∃ request done,
        state.pc = .requestAwait request ∧
          request? external state request = some done ∧
            next = afterMqtt done
  | .serialWritten =>
      (∃ data, state.pc = .serialWrite data) ∧ next = afterMqtt state
  | .testTrigger =>
      state.pc = .testTrigger ∧
        next =
          { state with
            pc := if state.trigger then .startRead else .sleep }
  | .startRead => state.pc = .startRead ∧ next = startRead state
  | .readDone outcome =>
      ∃ request,
        state.pc = .readAwait request ∧
          readDone? state request outcome = some next
  | .writeResult successful =>
      ∃ result,
        state.pc = .writeResult result ∧
          next =
            { state with
              result := if successful then some (resultText result)
                else state.result
              pc := .removeTrigger }
  | .removeTrigger successful =>
      state.pc = .removeTrigger ∧
        next =
          { state with
            trigger := if successful then false else state.trigger
            pc := .sleep }
  | .wake =>
      state.pc = .sleep ∧ next = { state with pc := .loadConfig }

/-- An event that can only happen at its place. -/
theorem of_place
    {place : Prop}
    [Decidable place]
    {moved next : State}
    (stepped : (if place then some moved else none) = some next) :
    place ∧ next = moved := by
  obtain ⟨atPlace, continued⟩ := Option.ite_none_right_eq_some.mp stepped
  exact ⟨atPlace, (Option.some.inj continued).symm⟩

/-- Every step is one of these. -/
theorem moves_of_step?
    {external : External}
    {state next : State}
    {event : Event}
    (stepped : step? external state event = some next) :
    Moves external state event next := by
  cases event with
  | createTrigger =>
      exact (Option.some.inj stepped).symm
  | startUp uci opens =>
      exact of_place stepped
  | loadConfig uci =>
      exact of_place stepped
  | setUp successful =>
      simp only [step?] at stepped
      split at stepped
      next atSetUp =>
        exact ⟨false, atSetUp, (Option.some.inj stepped).symm⟩
      next =>
        obtain ⟨atReconnect, continued⟩ :=
          Option.ite_none_right_eq_some.mp stepped
        exact ⟨true, atReconnect, (Option.some.inj continued).symm⟩
  | polled activity result =>
      obtain ⟨enabled, continued⟩ :=
        Option.ite_none_right_eq_some.mp stepped
      obtain ⟨polled, works, rfl⟩ := Option.map_eq_some_iff.mp continued
      exact ⟨enabled, polled, works, rfl⟩
  | serialRead activity result =>
      obtain ⟨enabled, continued⟩ :=
        Option.ite_none_right_eq_some.mp stepped
      obtain ⟨polled, works, rfl⟩ := Option.map_eq_some_iff.mp continued
      exact ⟨enabled, polled, works, rfl⟩
  | requested =>
      simp only [step?] at stepped
      split at stepped
      next request atPc =>
        obtain ⟨done, isDone, rfl⟩ := Option.map_eq_some_iff.mp stepped
        exact ⟨request, done, atPc, isDone, rfl⟩
      next =>
        cases stepped
  | serialWritten =>
      simp only [step?] at stepped
      split at stepped
      next data atPc =>
        exact ⟨⟨data, atPc⟩, (Option.some.inj stepped).symm⟩
      next =>
        cases stepped
  | testTrigger =>
      exact of_place stepped
  | startRead =>
      exact of_place stepped
  | readDone outcome =>
      simp only [step?] at stepped
      split at stepped
      next request atPc =>
        exact ⟨request, atPc, stepped⟩
      next =>
        cases stepped
  | writeResult successful =>
      simp only [step?] at stepped
      split at stepped
      next result atPc =>
        exact ⟨result, atPc, (Option.some.inj stepped).symm⟩
      next =>
        cases stepped
  | removeTrigger successful =>
      exact of_place stepped
  | wake =>
      exact of_place stepped

end RecomputerGateway.Rs485
