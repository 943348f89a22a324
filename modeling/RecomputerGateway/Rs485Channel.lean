import RecomputerGateway.Rs485MainLoop

namespace RecomputerGateway.Rs485

/-!
# The request channel

`main` sends requests to the MQTT client and is also the only one to poll the
event loop that receives them.  How many requests wait in the channel follows
from the events alone: each serial chunk and each `ConnAck` adds one, each
request that a poll takes out removes one, and a new connection starts with
an empty channel.
-/

/-- The places that a request needs in the channel. -/
def External.places (external : External) (request : Request) : Nat :=
  if external.accepts request then 1 else 0

/-- What the events so far ask of the channel. -/
structure Demand where
  config : Config
  /-- The places for the request that `main` is about to make. -/
  pending : Nat
  /-- The requests made on this connection and not taken out. -/
  backlog : Nat

/-- The demand after one more event. -/
def Demand.observe
    (external : External)
    (demand : Demand) :
    Event → Demand
  | .startUp uci _ => { demand with config := loadConfigFromUci uci }
  | .loadConfig uci => { demand with config := loadConfigFromUci uci }
  | .setUp true => { demand with backlog := 0 }
  | .polled activity result =>
      { demand with
        backlog := demand.backlog - activity.taken
        pending :=
          if result = .connAck then
            external.places (downlinkRequest demand.config)
          else 0 }
  | .serialRead activity result =>
      { demand with
        backlog := demand.backlog - activity.taken
        pending :=
          (uplinkRequest? external demand.config result).elim 0
            external.places }
  | .requested =>
      { demand with
        backlog := demand.backlog + demand.pending, pending := 0 }
  | _ => demand

/-- The demand of the events of a run. -/
def demandOf
    (external : External)
    (start : State)
    (events : List Event) :
    Demand :=
  events.foldl (Demand.observe external)
    { config := start.config, pending := 0, backlog := 0 }

/-- The channel to the event loop in use has room. -/
def HasRoom (state : State) : Prop :=
  ∃ eventloop,
    state.mqttEventloop = some eventloop ∧ eventloop.requests.HasRoom

/-! ## The demand is what the channel holds -/

/-- Client and event loop belong together, and hold the backlog. -/
structure Holds (demand : Demand) (state : State) : Prop where
  config : demand.config = state.config
  backlog :
    ∀ eventloop,
      state.mqttEventloop = some eventloop →
        eventloop.requests.items.length = demand.backlog
  session :
    state.mqttState = .successConnect →
      ∃ eventloop,
        state.mqttEventloop = some eventloop ∧
          state.mqttClient = some eventloop.session

/-- Requests are only made, and waited for, on a connection. -/
def AtPlace
    (external : External)
    (demand : Demand)
    (state : State) :
    Prop :=
  match state.pc with
  | .select => demand.pending = 0 ∧ state.mqttState = .successConnect
  | .requestAwait request =>
      demand.pending = external.places request ∧
        state.mqttState = .successConnect
  | _ => demand.pending = 0

/-- The events so far and the state agree. -/
structure Agrees
    (external : External)
    (demand : Demand)
    (state : State) :
    Prop where
  holds : Holds demand state
  place : AtPlace external demand state

theorem agrees_afterMqtt
    {external : External}
    {demand : Demand}
    {state : State}
    (holds : Holds demand state)
    (nonePending : demand.pending = 0) :
    Agrees external demand (afterMqtt state) := by
  refine ⟨⟨holds.config, holds.backlog, holds.session⟩, ?_⟩
  unfold AtPlace
  rcases afterMqtt_pc state with ⟨atTest, -⟩ | atSleep
  · rw [atTest]
    exact nonePending
  · rw [atSleep]
    exact nonePending

/-- The request that `main` is about to make is the pending one. -/
theorem agrees_awaitRequest
    {external : External}
    {demand : Demand}
    {state : State}
    {request? : Option Request}
    (holds : Holds demand state)
    (connects : state.mqttState = .successConnect)
    (pending : demand.pending = request?.elim 0 external.places) :
    Agrees external demand (awaitRequest state request?) := by
  rcases awaitRequest_cases state request? with
    ⟨request, rfl, awaits⟩ | ⟨noRequest, isOver⟩
  · rw [awaits]
    exact
      ⟨⟨holds.config, holds.backlog, holds.session⟩, pending, connects⟩
  · rw [isOver]
    obtain ⟨eventloop, -, hasClient⟩ := holds.session connects
    rcases noRequest with noClient | rfl
    · cases hasClient.symm.trans noClient
    · exact agrees_afterMqtt holds pending

/-- While `select!` waits, the backlog shrinks by what is taken out. -/
theorem Holds.pollWhile
    {demand : Demand}
    {state polled : State}
    {activity : PollActivity}
    (holds : Holds demand state)
    (works : pollWhile? state activity = some polled)
    (pending : Nat) :
    Holds
        { demand with
          backlog := demand.backlog - activity.taken, pending := pending }
        polled ∧
      polled.mqttState = state.mqttState ∧
        polled.config = state.config := by
  rcases pollWhile?_cases works with
    ⟨eventloop, isLoop, rfl⟩ | ⟨noLoop, rfl⟩
  · refine ⟨⟨holds.config, ?_, ?_⟩, rfl, rfl⟩
    · rintro _ ⟨⟩
      rw [EventLoop.advance, Channel.length_receive,
        holds.backlog eventloop isLoop]
    · intro connects
      obtain ⟨other, isOther, hasClient⟩ := holds.session connects
      cases isLoop.symm.trans isOther
      exact ⟨_, rfl, hasClient⟩
  · refine ⟨⟨holds.config, ?_, holds.session⟩, rfl, rfl⟩
    intro eventloop isLoop
    cases noLoop.symm.trans isLoop

/-- A request fills as many places as it needs. -/
theorem Holds.request
    {external : External}
    {demand : Demand}
    {state done : State}
    {request : Request}
    (holds : Holds demand state)
    (connects : state.mqttState = .successConnect)
    (isDone : request? external state request = some done) :
    Holds
      { demand with
        backlog := demand.backlog + external.places request, pending := 0 }
      done := by
  obtain ⟨eventloop, isLoop, hasClient⟩ := holds.session connects
  cases accepted : external.accepts request with
  | false =>
      simp only [request?, accepted, Bool.false_eq_true, ↓reduceIte,
        Option.some.injEq] at isDone
      subst done
      refine ⟨holds.config, ?_, holds.session⟩
      simpa [External.places, accepted] using holds.backlog
  | true =>
      simp only [request?, accepted, ↓reduceIte, isLoop, hasClient] at isDone
      obtain ⟨requests, sends, rfl⟩ := Option.map_eq_some_iff.mp isDone
      refine ⟨holds.config, ?_, fun _ => ⟨_, rfl, rfl⟩⟩
      rintro _ ⟨⟩
      simp [External.places, accepted, Channel.length_send? sends,
        holds.backlog eventloop isLoop]

/-- A new connection starts with an empty channel. -/
theorem Holds.setUp
    {external : External}
    {demand : Demand}
    {state : State}
    (holds : Holds demand state)
    (successful reconnecting : Bool) :
    Holds (demand.observe external (.setUp successful))
      (setUp state successful reconnecting) := by
  cases successful with
  | true =>
      refine ⟨holds.config, ?_, fun _ => ⟨_, rfl, rfl⟩⟩
      rintro _ ⟨⟩
      rfl
  | false =>
      cases reconnecting with
      | true =>
          exact
            ⟨holds.config, fun _ isLoop => (by cases isLoop),
              fun connects => (by cases connects)⟩
      | false =>
          exact
            ⟨holds.config, holds.backlog,
              fun connects => (by cases connects)⟩

/-- Every step keeps the demand of the events in line with the state. -/
theorem Agrees.step
    {external : External}
    {demand : Demand}
    {state next : State}
    {event : Event}
    (agrees : Agrees external demand state)
    (stepped : step? external state event = some next) :
    Agrees external (demand.observe external event) next := by
  have moved := moves_of_step? stepped
  have holds := agrees.holds
  have place := agrees.place
  unfold AtPlace at place
  cases event with
  | createTrigger =>
      cases moved
      exact ⟨⟨holds.config, holds.backlog, holds.session⟩, agrees.place⟩
  | startUp uci opens =>
      obtain ⟨pc, modbusCtx, serialPort, atPc, started⟩ :=
        startUp_cases state uci opens
      rw [moved.1] at place
      rw [moved.2, started]
      refine ⟨⟨rfl, holds.backlog, holds.session⟩, ?_⟩
      rcases atPc with rfl | rfl <;> exact place
  | loadConfig uci =>
      rw [moved.1] at place
      rw [moved.2]
      rcases loadConfig_cases state uci with ⟨pc, atPc, loaded⟩ | isOver
      · rw [loaded]
        refine ⟨⟨rfl, holds.backlog, holds.session⟩, ?_⟩
        rcases atPc with rfl | rfl | ⟨rfl, connects⟩
        · exact place
        · exact place
        · exact ⟨place, connects⟩
      · rw [isOver]
        exact agrees_afterMqtt ⟨rfl, holds.backlog, holds.session⟩ place
  | setUp successful =>
      obtain ⟨reconnecting, atPc, rfl⟩ := moved
      have nonePending : demand.pending = 0 := by
        cases reconnecting <;> simpa [atPc] using place
      refine agrees_afterMqtt (holds.setUp successful reconnecting) ?_
      cases successful <;> exact nonePending
  | polled activity result =>
      obtain ⟨⟨atSelect, -⟩, polled, works, rfl⟩ := moved
      rw [atSelect] at place
      obtain ⟨polledHolds, sameState, sameConfig⟩ :=
        holds.pollWhile works
          (if result = .connAck then
            external.places (downlinkRequest demand.config) else 0)
      rcases handlePoll_cases external polled result with
        ⟨rfl, awaits⟩ | ⟨notAck, data, writes⟩ |
        ⟨notAck, mqttState, isKept, isOver⟩
      · rw [awaits]
        refine agrees_awaitRequest polledHolds
          (sameState.trans place.2) ?_
        simp [Demand.observe, holds.config, sameConfig]
      · rw [writes]
        exact
          ⟨⟨polledHolds.config, polledHolds.backlog, polledHolds.session⟩,
            if_neg notAck⟩
      · rw [isOver]
        refine agrees_afterMqtt
          ⟨polledHolds.config, polledHolds.backlog, ?_⟩ (if_neg notAck)
        intro connects
        rcases isKept with rfl | rfl
        · exact polledHolds.session connects
        · cases connects
  | serialRead activity result =>
      obtain ⟨⟨atSelect, -⟩, polled, works, rfl⟩ := moved
      rw [atSelect] at place
      obtain ⟨polledHolds, sameState, -⟩ :=
        holds.pollWhile works
          ((uplinkRequest? external demand.config result).elim 0
            external.places)
      refine agrees_awaitRequest polledHolds
        (sameState.trans place.2) ?_
      rw [← holds.config]
      rfl
  | requested =>
      obtain ⟨request, done, atPc, isDone, rfl⟩ := moved
      rw [atPc] at place
      have filled := holds.request place.2 isDone
      rw [← place.1] at filled
      exact agrees_afterMqtt filled rfl
  | serialWritten =>
      obtain ⟨⟨data, atPc⟩, rfl⟩ := moved
      rw [atPc] at place
      exact agrees_afterMqtt holds place
  | testTrigger =>
      obtain ⟨atPc, rfl⟩ := moved
      rw [atPc] at place
      refine ⟨⟨holds.config, holds.backlog, holds.session⟩, ?_⟩
      cases state.trigger <;> exact place
  | startRead =>
      obtain ⟨pc, modbusCtx, atPc, started⟩ := startRead_cases state
      rw [moved.1] at place
      rw [moved.2, started]
      refine ⟨⟨holds.config, holds.backlog, holds.session⟩, ?_⟩
      rcases atPc with ⟨request, rfl⟩ | ⟨result, rfl⟩ <;> exact place
  | readDone outcome =>
      obtain ⟨request, atPc, answered⟩ := moved
      rw [atPc] at place
      obtain ⟨pc, atNext, rfl⟩ := readDone?_cases answered
      refine ⟨⟨holds.config, holds.backlog, holds.session⟩, ?_⟩
      rcases atNext with rfl | ⟨result, rfl⟩ <;> exact place
  | writeResult successful =>
      obtain ⟨result, atPc, rfl⟩ := moved
      rw [atPc] at place
      exact ⟨⟨holds.config, holds.backlog, holds.session⟩, place⟩
  | removeTrigger successful =>
      obtain ⟨atPc, rfl⟩ := moved
      rw [atPc] at place
      exact ⟨⟨holds.config, holds.backlog, holds.session⟩, place⟩
  | wake =>
      obtain ⟨atPc, rfl⟩ := moved
      rw [atPc] at place
      exact ⟨⟨holds.config, holds.backlog, holds.session⟩, place⟩

/-- The demand of a run's events agrees with the state it ends in. -/
theorem agrees_of_run
    {external : External}
    {start state : State}
    {events : List Event}
    (isInitial : Initial start)
    (run : (bridge external).Run start events state) :
    Agrees external (demandOf external start events) state := by
  have begins : Agrees external (demandOf external start []) start := by
    refine ⟨⟨rfl, ?_, ?_⟩, ?_⟩
    · intro eventloop isLoop
      cases isInitial.mqttEventloop.symm.trans isLoop
    · intro connects
      cases isInitial.mqttState.symm.trans connects
    · unfold AtPlace
      rw [isInitial.pc]
      rfl
  refine run.history
    (fun earlier current =>
      Agrees external (demandOf external start earlier) current) ?_ begins
  intro earlier current event next agrees _ stepped
  simp only [demandOf, List.foldl_append, List.foldl_cons,
    List.foldl_nil] at agrees ⊢
  exact agrees.step stepped

/-- The channel has room exactly while the backlog is below its capacity. -/
theorem hasRoom_iff
    {external : External}
    {demand : Demand}
    {state : State}
    {request : Request}
    (agrees : Agrees external demand state)
    (awaits : state.pc = .requestAwait request) :
    HasRoom state ↔ demand.backlog ≤ 9 := by
  have place := agrees.place
  simp only [AtPlace, awaits] at place
  obtain ⟨eventloop, isLoop, -⟩ := agrees.holds.session place.2
  rw [← agrees.holds.backlog eventloop isLoop]
  constructor
  · rintro ⟨other, isOther, room⟩
    cases isLoop.symm.trans isOther
    exact Nat.le_of_lt_succ room
  · intro below
    exact ⟨eventloop, isLoop, Nat.lt_succ_of_le below⟩

/-- When a request has to wait for room. -/
structure Waits
    (external : External)
    (state : State)
    (request : Request) :
    Prop where
  awaits : state.pc = .requestAwait request
  accepted : external.accepts request = true
  full :
    ∃ eventloop,
      state.mqttEventloop = some eventloop ∧
        state.mqttClient = some eventloop.session ∧
          ¬ eventloop.requests.HasRoom

/-- A request that waits does not return. -/
theorem Waits.request
    {external : External}
    {state : State}
    {request : Request}
    (waits : Waits external state request) :
    request? external state request = none := by
  obtain ⟨eventloop, isLoop, hasClient, full⟩ := waits.full
  simp only [request?, waits.accepted, ↓reduceIte, isLoop, hasClient,
    Option.map_eq_none_iff]
  exact Channel.send?_eq_none_iff.mpr full

/-- Nothing but the trigger file changes while `main` waits for room. -/
theorem Waits.step
    {external : External}
    {state next : State}
    {event : Event}
    {request : Request}
    (waits : Waits external state request)
    (stepped : step? external state event = some next) :
    next = { state with trigger := true } := by
  have moved := moves_of_step? stepped
  have awaits := waits.awaits
  cases event with
  | createTrigger =>
      exact moved
  | setUp successful =>
      obtain ⟨reconnecting, atPc, -⟩ := moved
      cases reconnecting <;> cases awaits.symm.trans atPc
  | polled activity result =>
      cases awaits.symm.trans moved.1.1
  | serialRead activity result =>
      cases awaits.symm.trans moved.1.1
  | requested =>
      obtain ⟨other, done, atPc, isDone, -⟩ := moved
      cases awaits.symm.trans atPc
      cases waits.request.symm.trans isDone
  | serialWritten =>
      obtain ⟨⟨data, atPc⟩, -⟩ := moved
      cases awaits.symm.trans atPc
  | readDone outcome =>
      obtain ⟨read, atPc, -⟩ := moved
      cases awaits.symm.trans atPc
  | writeResult successful =>
      obtain ⟨result, atPc, -⟩ := moved
      cases awaits.symm.trans atPc
  | startUp uci opens =>
      cases awaits.symm.trans moved.1
  | loadConfig uci =>
      cases awaits.symm.trans moved.1
  | testTrigger =>
      cases awaits.symm.trans moved.1
  | startRead =>
      cases awaits.symm.trans moved.1
  | removeTrigger successful =>
      cases awaits.symm.trans moved.1
  | wake =>
      cases awaits.symm.trans moved.1

/-- `main` waits for ever: nobody else takes requests out of the channel. -/
theorem Waits.run
    {external : External}
    {state final : State}
    {events : List Event}
    {request : Request}
    (waits : Waits external state request)
    (run : (bridge external).Run state events final) :
    Waits external final request := by
  refine run.invariant
    (fun current => Waits external current request) ?_ waits
  intro current event next waitsHere _ stepped
  cases waitsHere.step stepped
  exact ⟨waitsHere.awaits, waitsHere.accepted, waitsHere.full⟩

/--
Whenever `main` awaits a request, the channel has room exactly if at most 9
requests of this connection have been made and not been taken out before.
-/
theorem request_has_room_iff
    {external : External}
    {start state : State}
    {events : List Event}
    {request : Request}
    (isInitial : Initial start)
    (run : (bridge external).Run start events state)
    (awaits : state.pc = .requestAwait request) :
    HasRoom state ↔ (demandOf external start events).backlog ≤ 9 :=
  hasRoom_iff (agrees_of_run isInitial run) awaits

/-- The bridge is enabled, with its defaults. -/
def bridgeUci : Uci := fun sectionName option =>
  if sectionName ≠ "protocol" ∧ option = "enabled" then some "1\n" else none

/-- A poll that is pending and dropped. -/
def idle : PollActivity where
  taken := 0
  settled := []

/-- The start, and the first connection. -/
def connectingRun : List Event :=
  [.startUp bridgeUci true, .loadConfig bridgeUci, .setUp true, .wake]

/-- An iteration in which one byte arrives before anything from the broker. -/
def serialIteration : List Event :=
  [.loadConfig bridgeUci, .serialRead idle (.bytes [65]), .requested, .wake]

/-- One byte after `count` iterations. -/
def serialRun (count : Nat) : List Event :=
  connectingRun ++ (List.replicate count serialIteration).flatten ++
    [.loadConfig bridgeUci, .serialRead idle (.bytes [65])]

/-- The request for one byte. -/
def byteRequest : Request :=
  .publish "rs485/uplink" .atMostOnce false "\x7b\"data\":\"A\"\x7d"

/-- The first byte finds room. -/
theorem request_has_room_of_first :
    ∃ state,
      (bridge plainExternal).Run booted (serialRun 0) state ∧
        state.pc = .requestAwait byteRequest ∧ HasRoom state := by
  have executed :
      ((bridge plainExternal).run? booted (serialRun 0)).map
          (fun state => state.pc) =
        some (.requestAwait byteRequest) := by
    decide +kernel
  obtain ⟨state, reached, awaits⟩ := Option.map_eq_some_iff.mp executed
  have run := System.run?_eq_some_iff.mp reached
  exact
    ⟨state, run, awaits,
      (request_has_room_iff initial_booted run awaits).mpr
        (by decide +kernel)⟩

/-- The eleventh byte does not, and `main` waits for ever. -/
theorem request_without_room :
    ∃ state,
      (bridge plainExternal).Run booted (serialRun 10) state ∧
        state.pc = .requestAwait byteRequest ∧ ¬ HasRoom state ∧
          ∀ events final,
            (bridge plainExternal).Run state events final →
              final.pc = .requestAwait byteRequest := by
  have executed :
      ((bridge plainExternal).run? booted (serialRun 10)).map
          (fun state =>
            (state.pc, state.mqttClient,
              state.mqttEventloop.map fun eventloop =>
                (eventloop.session, eventloop.requests.items.length))) =
        some (.requestAwait byteRequest, some 0, some (0, 10)) := by
    decide +kernel
  obtain ⟨state, reached, ends⟩ := Option.map_eq_some_iff.mp executed
  simp only [Prod.mk.injEq] at ends
  obtain ⟨awaits, hasClient, isLoop⟩ := ends
  obtain ⟨eventloop, isLoop, counts⟩ := Option.map_eq_some_iff.mp isLoop
  simp only [Prod.mk.injEq] at counts
  have full : ¬ eventloop.requests.HasRoom := by
    rw [Channel.HasRoom, counts.2]
    decide
  have waits : Waits plainExternal state byteRequest :=
    { awaits := awaits
      accepted := by decide +kernel
      full := ⟨eventloop, isLoop, by rw [counts.1, hasClient], full⟩ }
  refine
    ⟨state, System.run?_eq_some_iff.mp reached, awaits, ?_,
      fun events final run => (waits.run run).awaits⟩
  rintro ⟨other, isOther, room⟩
  cases isLoop.symm.trans isOther
  exact full room

end RecomputerGateway.Rs485
