import RecomputerGateway.Rs485MainLoop

namespace RecomputerGateway.Rs485

/-!
# What the steps leave alone

Each part of the state is changed by a few events only: the serial handles at
start-up and when a read sets the slave's address, the connection by
`setup_mqtt_client`, `poll` and requests, the trigger by its creation and
removal.
-/

/-- The events that change the serial handles. -/
def Event.usesPorts : Event → Bool
  | .startUp _ _ => true
  | .startRead => true
  | _ => false

/-- The events that change the client, its event loop or `mqtt_state`. -/
def Event.usesConnection : Event → Bool
  | .setUp _ => true
  | .polled _ _ => true
  | .serialRead _ _ => true
  | .requested => true
  | _ => false

/-- The events that create or remove the trigger file. -/
def Event.usesTrigger : Event → Bool
  | .createTrigger => true
  | .removeTrigger _ => true
  | _ => false

/-- The serial handles are the same. -/
def SamePorts (state next : State) : Prop :=
  next.serialPort = state.serialPort ∧ next.modbusCtx = state.modbusCtx

/-- The client, its event loop and what is known about them are the same. -/
def SameConnection (state next : State) : Prop :=
  next.mqttClient = state.mqttClient ∧
    next.mqttEventloop = state.mqttEventloop ∧
      next.mqttState = state.mqttState ∧ next.sessions = state.sessions

/-- The parts of the state that a step does not change. -/
structure Leaves (state : State) (event : Event) (next : State) : Prop where
  ports : event.usesPorts = false → SamePorts state next
  connection : event.usesConnection = false → SameConnection state next
  trigger : event.usesTrigger = false → next.trigger = state.trigger
  started :
    next.pc = .startUp → state.pc = .startUp ∧ event = .createTrigger

/-- Going to another place leaves everything else alone. -/
theorem Leaves.goTo
    {state : State}
    {event : Event}
    (config : Config)
    (result : Option String)
    {pc : Pc}
    (notStart : pc ≠ .startUp) :
    Leaves state event
      { state with config := config, result := result, pc := pc } where
  ports _ := ⟨rfl, rfl⟩
  connection _ := ⟨rfl, rfl, rfl, rfl⟩
  trigger _ := rfl
  started atStart := absurd atStart notStart

theorem afterMqtt_pc_ne_startUp (state : State) :
    (afterMqtt state).pc ≠ .startUp := by
  rcases afterMqtt_pc state with ⟨atTest, -⟩ | atSleep
  · rw [atTest]
    exact Pc.noConfusion
  · rw [atSleep]
    exact Pc.noConfusion

/-- Awaiting a request leaves everything but the place alone. -/
theorem awaitRequest_fields (state : State) (request? : Option Request) :
    ∃ pc,
      pc ≠ .startUp ∧
        awaitRequest state request? = { state with pc := pc } := by
  rcases awaitRequest_cases state request? with ⟨request, -, awaits⟩ | ⟨-, isOver⟩
  · exact ⟨_, Pc.noConfusion, awaits⟩
  · exact ⟨_, afterMqtt_pc_ne_startUp state, isOver⟩

/-- Handling a poll changes the place and, if the connection is lost, its state. -/
theorem handlePoll_fields
    (external : External)
    (state : State)
    (result : PollResult) :
    ∃ pc mqttState,
      pc ≠ .startUp ∧
        (mqttState = state.mqttState ∨ mqttState = .failedConnect) ∧
          handlePoll external state result =
            { state with mqttState := mqttState, pc := pc } := by
  rcases handlePoll_cases external state result with
    ⟨-, awaits⟩ | ⟨-, data, writes⟩ | ⟨-, mqttState, isKept, isOver⟩
  · obtain ⟨pc, notStart, goes⟩ :=
      awaitRequest_fields state (some (downlinkRequest state.config))
    exact ⟨pc, _, notStart, .inl rfl, awaits.trans goes⟩
  · exact ⟨_, _, Pc.noConfusion, .inl rfl, writes⟩
  · exact ⟨_, mqttState, afterMqtt_pc_ne_startUp _, isKept, isOver⟩

/-- While `select!` waits, only the event loop changes. -/
theorem pollWhile?_fields
    {state polled : State}
    {activity : PollActivity}
    (works : pollWhile? state activity = some polled) :
    ∃ mqttEventloop,
      polled = { state with mqttEventloop := mqttEventloop } := by
  rcases pollWhile?_cases works with ⟨eventloop, -, advanced⟩ | ⟨-, same⟩
  · exact ⟨some (eventloop.advance activity), advanced⟩
  · exact ⟨state.mqttEventloop, same⟩

/-- A request changes at most the event loop. -/
theorem request?_fields
    {external : External}
    {state done : State}
    {request : Request}
    (isDone : request? external state request = some done) :
    ∃ mqttEventloop,
      done = { state with mqttEventloop := mqttEventloop } := by
  unfold request? at isDone
  split at isDone
  · split at isDone
    · split at isDone
      · obtain ⟨requests, -, rfl⟩ := Option.map_eq_some_iff.mp isDone
        exact ⟨_, rfl⟩
      · cases isDone
        exact ⟨_, rfl⟩
    · cases isDone
      exact ⟨_, rfl⟩
  · cases isDone
    exact ⟨_, rfl⟩

/-- A call of `setup_mqtt_client` changes the connection only. -/
theorem setUp_fields
    (state : State)
    (successful reconnecting : Bool) :
    ∃ mqttClient mqttEventloop mqttState sessions,
      setUp state successful reconnecting =
        { state with
          mqttClient := mqttClient
          mqttEventloop := mqttEventloop
          mqttState := mqttState
          sessions := sessions } := by
  cases successful with
  | true =>
      exact ⟨_, _, _, _, rfl⟩
  | false =>
      cases reconnecting with
      | true => exact ⟨_, _, _, _, rfl⟩
      | false => exact ⟨_, _, _, _, rfl⟩

/-- Every step leaves alone what its event does not use. -/
theorem leaves_of_step?
    {external : External}
    {state next : State}
    {event : Event}
    (stepped : step? external state event = some next) :
    Leaves state event next := by
  have moved := moves_of_step? stepped
  cases event with
  | createTrigger =>
      cases moved
      exact
        { ports := fun _ => ⟨rfl, rfl⟩
          connection := fun _ => ⟨rfl, rfl, rfl, rfl⟩
          trigger := Bool.noConfusion
          started := fun atStart => ⟨atStart, rfl⟩ }
  | startUp uci opens =>
      obtain ⟨pc, modbusCtx, serialPort, atPc, started⟩ :=
        startUp_cases state uci opens
      rw [moved.2, started]
      exact
        { ports := Bool.noConfusion
          connection := fun _ => ⟨rfl, rfl, rfl, rfl⟩
          trigger := fun _ => rfl
          started := by rcases atPc with rfl | rfl <;> exact Pc.noConfusion }
  | loadConfig uci =>
      rw [moved.2]
      rcases loadConfig_cases state uci with ⟨pc, atPc, loaded⟩ | isOver
      · rw [loaded]
        refine .goTo _ _ ?_
        rcases atPc with rfl | rfl | ⟨rfl, -⟩ <;> exact Pc.noConfusion
      · rw [isOver]
        exact .goTo _ _ (afterMqtt_pc_ne_startUp _)
  | setUp successful =>
      obtain ⟨reconnecting, -, rfl⟩ := moved
      obtain ⟨mqttClient, mqttEventloop, mqttState, sessions, isSetUp⟩ :=
        setUp_fields state successful reconnecting
      rw [isSetUp]
      exact
        { ports := fun _ => ⟨rfl, rfl⟩
          connection := Bool.noConfusion
          trigger := fun _ => rfl
          started := fun atStart =>
            absurd atStart (afterMqtt_pc_ne_startUp _) }
  | polled activity result =>
      obtain ⟨-, polled, works, rfl⟩ := moved
      obtain ⟨mqttEventloop, rfl⟩ := pollWhile?_fields works
      obtain ⟨pc, mqttState, notStart, -, handled⟩ :=
        handlePoll_fields external
          { state with mqttEventloop := mqttEventloop } result
      rw [handled]
      exact
        { ports := fun _ => ⟨rfl, rfl⟩
          connection := Bool.noConfusion
          trigger := fun _ => rfl
          started := fun atStart => absurd atStart notStart }
  | serialRead activity result =>
      obtain ⟨-, polled, works, rfl⟩ := moved
      obtain ⟨mqttEventloop, rfl⟩ := pollWhile?_fields works
      obtain ⟨pc, notStart, goes⟩ :=
        awaitRequest_fields { state with mqttEventloop := mqttEventloop }
          (uplinkRequest? external state.config result)
      rw [goes]
      exact
        { ports := fun _ => ⟨rfl, rfl⟩
          connection := Bool.noConfusion
          trigger := fun _ => rfl
          started := fun atStart => absurd atStart notStart }
  | requested =>
      obtain ⟨request, done, -, isDone, rfl⟩ := moved
      obtain ⟨mqttEventloop, rfl⟩ := request?_fields isDone
      exact
        { ports := fun _ => ⟨rfl, rfl⟩
          connection := Bool.noConfusion
          trigger := fun _ => rfl
          started := fun atStart =>
            absurd atStart (afterMqtt_pc_ne_startUp _) }
  | serialWritten =>
      obtain ⟨-, rfl⟩ := moved
      exact .goTo _ _ (afterMqtt_pc_ne_startUp _)
  | testTrigger =>
      obtain ⟨-, rfl⟩ := moved
      refine .goTo _ _ ?_
      cases state.trigger <;> exact Pc.noConfusion
  | startRead =>
      obtain ⟨pc, modbusCtx, atPc, started⟩ := startRead_cases state
      rw [moved.2, started]
      exact
        { ports := Bool.noConfusion
          connection := fun _ => ⟨rfl, rfl, rfl, rfl⟩
          trigger := fun _ => rfl
          started := by
            rcases atPc with ⟨request, rfl⟩ | ⟨result, rfl⟩ <;>
              exact Pc.noConfusion }
  | readDone outcome =>
      obtain ⟨request, -, answered⟩ := moved
      obtain ⟨pc, atNext, rfl⟩ := readDone?_cases answered
      refine .goTo _ _ ?_
      rcases atNext with rfl | ⟨result, rfl⟩ <;> exact Pc.noConfusion
  | writeResult successful =>
      obtain ⟨result, -, rfl⟩ := moved
      exact .goTo _ _ Pc.noConfusion
  | removeTrigger successful =>
      obtain ⟨-, rfl⟩ := moved
      exact
        { ports := fun _ => ⟨rfl, rfl⟩
          connection := fun _ => ⟨rfl, rfl, rfl, rfl⟩
          trigger := Bool.noConfusion
          started := Pc.noConfusion }
  | wake =>
      obtain ⟨-, rfl⟩ := moved
      exact .goTo _ _ Pc.noConfusion

/-! ## Where the steps lead -/

/-- The places between the start of a read and the removal of the trigger. -/
def Pc.isReading : Pc → Bool
  | .readAwait _ => true
  | .writeResult _ => true
  | .removeTrigger => true
  | _ => false

/-- The places that are not bound to a condition. -/
def Pc.isPlain : Pc → Bool
  | .startUp => false
  | .requestAwait _ => false
  | .returned => false
  | pc => !pc.isReading

theorem Pc.isReading_of_isPlain
    {pc : Pc}
    (isPlain : pc.isPlain = true) :
    pc.isReading = false := by
  cases pc <;> first | rfl | cases isPlain

/-- Where a step leads, and under which condition. -/
inductive Arrives (state : State) (event : Event) (next : State) : Prop where
  | stays
      (isCreated : event = .createTrigger)
      (isSame : next = { state with trigger := true })
  | awaits
      (request : Request)
      (atRequest : next.pc = .requestAwait request)
      (hasReason :
        (∃ topic qos, request = .subscribe topic qos) ∨
          state.serialPort = true ∧ next.serialPort = true)
  | reads
      (isReading : next.pc.isReading = true)
      (hasContext :
        ∀ request, next.pc = .readAwait request →
          next.modbusCtx.isSome = true)
      (isStarted :
        event = .startRead ∨
          event ≠ .startRead ∧ state.pc.isReading = true)
  | returns
      (atEnd : next.pc = .returned)
      (cannotGoOn :
        state.pc = .startUp ∨ ∃ request, state.pc = .readAwait request)
  | goesOn
      (isPlain : next.pc.isPlain = true)
      (isEnabled :
        next.pc = .testTrigger → next.config.protocol.enabled = true)

/-- The trigger is only tested if the protocol is enabled. -/
theorem Arrives.afterMqtt
    {state : State}
    {event : Event}
    (finished : State) :
    Arrives state event (afterMqtt finished) := by
  rcases afterMqtt_pc finished with ⟨atTest, isEnabled⟩ | atSleep
  · exact .goesOn (by rw [atTest]; rfl) (fun _ => isEnabled)
  · exact
      .goesOn (by rw [atSleep]; rfl)
        (fun atTest => by cases atSleep.symm.trans atTest)

/-- A read call is only made with a context. -/
theorem arrives_startRead (state : State) :
    Arrives state .startRead (startRead state) := by
  unfold startRead
  split
  · exact .reads rfl (fun _ => Pc.noConfusion) (.inl rfl)
  · dsimp only
    split
    · exact .reads rfl (fun _ _ => rfl) (.inl rfl)
    · exact .reads rfl (fun _ => Pc.noConfusion) (.inl rfl)

theorem arrives_of_step?
    {external : External}
    {state next : State}
    {event : Event}
    (stepped : step? external state event = some next) :
    Arrives state event next := by
  have moved := moves_of_step? stepped
  cases event with
  | createTrigger =>
      exact .stays rfl moved
  | startUp uci opens =>
      obtain ⟨pc, modbusCtx, serialPort, atPc, started⟩ :=
        startUp_cases state uci opens
      rw [moved.2, started]
      rcases atPc with rfl | rfl
      · exact .goesOn rfl Pc.noConfusion
      · exact .returns rfl (.inl moved.1)
  | loadConfig uci =>
      rw [moved.2]
      rcases loadConfig_cases state uci with ⟨pc, atPc, loaded⟩ | isOver
      · rw [loaded]
        rcases atPc with rfl | rfl | ⟨rfl, -⟩
        · exact .goesOn rfl Pc.noConfusion
        · exact .goesOn rfl Pc.noConfusion
        · exact .goesOn rfl Pc.noConfusion
      · rw [isOver]
        exact .afterMqtt _
  | setUp successful =>
      obtain ⟨reconnecting, -, rfl⟩ := moved
      exact .afterMqtt _
  | polled activity result =>
      obtain ⟨-, polled, -, rfl⟩ := moved
      rcases handlePoll_cases external polled result with
        ⟨-, awaits⟩ | ⟨-, data, writes⟩ | ⟨-, mqttState, -, isOver⟩
      · rw [awaits]
        rcases awaitRequest_cases polled
            (some (downlinkRequest polled.config)) with
          ⟨request, isRequest, waits⟩ | ⟨-, isOver⟩
        · rw [waits]
          cases isRequest
          exact .awaits _ rfl (.inl ⟨_, _, rfl⟩)
        · rw [isOver]
          exact .afterMqtt _
      · rw [writes]
        exact .goesOn rfl Pc.noConfusion
      · rw [isOver]
        exact .afterMqtt _
  | serialRead activity result =>
      obtain ⟨⟨-, hasPort, -⟩, polled, works, rfl⟩ := moved
      obtain ⟨mqttEventloop, rfl⟩ := pollWhile?_fields works
      rcases awaitRequest_cases { state with mqttEventloop := mqttEventloop }
          (uplinkRequest? external state.config result) with
        ⟨request, -, waits⟩ | ⟨-, isOver⟩
      · rw [waits]
        exact .awaits request rfl (.inr ⟨hasPort, hasPort⟩)
      · rw [isOver]
        exact .afterMqtt _
  | requested =>
      obtain ⟨request, done, -, -, rfl⟩ := moved
      exact .afterMqtt _
  | serialWritten =>
      obtain ⟨-, rfl⟩ := moved
      exact .afterMqtt _
  | testTrigger =>
      obtain ⟨-, rfl⟩ := moved
      cases state.trigger with
      | false => exact .goesOn rfl Pc.noConfusion
      | true => exact .goesOn rfl Pc.noConfusion
  | startRead =>
      rw [moved.2]
      exact arrives_startRead state
  | readDone outcome =>
      obtain ⟨request, atRead, answered⟩ := moved
      obtain ⟨pc, atNext, rfl⟩ := readDone?_cases answered
      rcases atNext with rfl | ⟨result, rfl⟩
      · exact .returns rfl (.inr ⟨request, atRead⟩)
      · exact
          .reads rfl (fun _ => Pc.noConfusion)
            (.inr ⟨Event.noConfusion, by rw [atRead]; rfl⟩)
  | writeResult successful =>
      obtain ⟨result, atWrite, rfl⟩ := moved
      exact
        .reads rfl (fun _ => Pc.noConfusion)
          (.inr ⟨Event.noConfusion, by rw [atWrite]; rfl⟩)
  | removeTrigger successful =>
      obtain ⟨-, rfl⟩ := moved
      exact .goesOn rfl Pc.noConfusion
  | wake =>
      obtain ⟨-, rfl⟩ := moved
      exact .goesOn rfl Pc.noConfusion

end RecomputerGateway.Rs485
