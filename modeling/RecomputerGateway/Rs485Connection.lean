import RecomputerGateway.Rs485Channel
import RecomputerGateway.Rs485Frames

namespace RecomputerGateway.Rs485

/-!
# The serial handles and the connection

Which serial handle there is, is decided at start-up.  The client, its event
loop and `mqtt_state` are three variables; the loop polls and makes requests
only while they belong together.
-/

/-- The client and the event loop are those of one `setup_mqtt_client` call. -/
def FromOneCall (state : State) : Prop :=
  ∃ eventloop,
    state.mqttEventloop = some eventloop ∧
      state.mqttClient = some eventloop.session

/-- The request is put into the channel to the event loop in use. -/
def QueuesOnLoop
    (state : State)
    (request : Request)
    (next : State) :
    Prop :=
  ∃ eventloop requests,
    state.mqttEventloop = some eventloop ∧
      next.mqttEventloop = some { eventloop with requests := requests } ∧
        requests.items = eventloop.requests.items ++ [request]

/-- What holds in every state of the main loop. -/
structure WellConnected (external : External) (state : State) : Prop where
  exclusive :
    ¬ (state.serialPort = true ∧ state.modbusCtx.isSome = true)
  /-- Behind the start-up, no serial handle appears or disappears. -/
  kept :
    state.pc ≠ .startUp →
      ∀ events later,
        (bridge external).Run state events later →
          later.serialPort = state.serialPort ∧
            later.modbusCtx.isSome = state.modbusCtx.isSome
  connected : state.mqttState = .successConnect → FromOneCall state
  /-- No iteration waits without an event loop. -/
  polls : state.pc = .select → FromOneCall state
  queued :
    ∀ request next,
      state.pc = .requestAwait request →
        external.accepts request = true →
          step? external state .requested = some next →
            QueuesOnLoop state request next

/-! ## The serial handles -/

/-- The address of the slave is set on the context that is there. -/
theorem startRead_ports (state : State) :
    (startRead state).serialPort = state.serialPort ∧
      (startRead state).modbusCtx.isSome = state.modbusCtx.isSome := by
  unfold startRead
  cases state.modbusCtx with
  | none =>
      exact ⟨rfl, rfl⟩
  | some ctx =>
      dsimp only
      cases readRequest? state.config.protocol with
      | none => exact ⟨rfl, rfl⟩
      | some request => exact ⟨rfl, rfl⟩

/-- Behind the start-up, a step keeps both handles. -/
theorem ports_of_step?
    {external : External}
    {state next : State}
    {event : Event}
    (behindStart : state.pc ≠ .startUp)
    (stepped : step? external state event = some next) :
    next.serialPort = state.serialPort ∧
      next.modbusCtx.isSome = state.modbusCtx.isSome := by
  have moved := moves_of_step? stepped
  cases usesPorts : event.usesPorts with
  | false =>
      obtain ⟨samePort, sameContext⟩ :=
        (leaves_of_step? stepped).ports usesPorts
      exact ⟨samePort, by rw [sameContext]⟩
  | true =>
      cases event with
      | startUp uci opens =>
          exact absurd moved.1 behindStart
      | startRead =>
          rw [moved.2]
          exact startRead_ports state
      | _ =>
          cases usesPorts

/-- No step leads back to the start-up. -/
theorem behindStart_of_step?
    {external : External}
    {state next : State}
    {event : Event}
    (behindStart : state.pc ≠ .startUp)
    (stepped : step? external state event = some next) :
    next.pc ≠ .startUp := by
  intro atStart
  exact behindStart ((leaves_of_step? stepped).started atStart).1

/-- Behind the start-up, a run keeps both handles. -/
theorem ports_of_run
    {external : External}
    {state later : State}
    {events : List Event}
    (behindStart : state.pc ≠ .startUp)
    (run : (bridge external).Run state events later) :
    later.serialPort = state.serialPort ∧
      later.modbusCtx.isSome = state.modbusCtx.isSome := by
  have preserved :=
    run.invariant
      (fun current =>
        current.pc ≠ .startUp ∧
          current.serialPort = state.serialPort ∧
            current.modbusCtx.isSome = state.modbusCtx.isSome)
      (by
        rintro current event next ⟨behind, samePort, sameContext⟩ - stepped
        obtain ⟨nextPort, nextContext⟩ := ports_of_step? behind stepped
        exact
          ⟨behindStart_of_step? behind stepped, nextPort.trans samePort,
            nextContext.trans sameContext⟩)
      ⟨behindStart, rfl, rfl⟩
  exact preserved.2

/-- Before the start-up there is no handle, and then at most one. -/
structure OneHandle (state : State) : Prop where
  unopened :
    state.pc = .startUp →
      state.serialPort = false ∧ state.modbusCtx.isSome = false
  exclusive :
    ¬ (state.serialPort = true ∧ state.modbusCtx.isSome = true)

/-- Opening the port gives the handle of the mode. -/
theorem OneHandle.startUp
    {state : State}
    (oneHandle : OneHandle state)
    (atStart : state.pc = .startUp)
    (uci : Uci)
    (opens : Bool) :
    OneHandle (startUp state uci opens) := by
  obtain ⟨noPort, noContext⟩ := oneHandle.unopened atStart
  unfold Rs485.startUp
  dsimp only
  split
  · split
    · split
      · exact ⟨Pc.noConfusion, by simp [noPort]⟩
      · exact ⟨Pc.noConfusion, by simp [noContext]⟩
    · exact ⟨Pc.noConfusion, oneHandle.exclusive⟩
  · exact ⟨Pc.noConfusion, oneHandle.exclusive⟩

theorem OneHandle.step
    {external : External}
    {state next : State}
    {event : Event}
    (oneHandle : OneHandle state)
    (stepped : step? external state event = some next) :
    OneHandle next := by
  by_cases atStart : state.pc = .startUp
  · have moved := moves_of_step? stepped
    cases usesPorts : event.usesPorts with
    | false =>
        obtain ⟨samePort, sameContext⟩ :=
          (leaves_of_step? stepped).ports usesPorts
        refine ⟨fun _ => ?_, ?_⟩
        · rw [samePort, sameContext]
          exact oneHandle.unopened atStart
        · rw [samePort, sameContext]
          exact oneHandle.exclusive
    | true =>
        cases event with
        | startUp uci opens =>
            rw [moved.2]
            exact oneHandle.startUp atStart uci opens
        | startRead =>
            cases atStart.symm.trans moved.1
        | _ =>
            cases usesPorts
  · obtain ⟨samePort, sameContext⟩ := ports_of_step? atStart stepped
    refine ⟨fun again => ?_, ?_⟩
    · exact absurd again (behindStart_of_step? atStart stepped)
    · rw [samePort, sameContext]
      exact oneHandle.exclusive

theorem oneHandle_of_run
    {external : External}
    {start state : State}
    {events : List Event}
    (isInitial : Initial start)
    (run : (bridge external).Run start events state) :
    OneHandle state := by
  refine
    run.invariant OneHandle
      (fun _ _ _ oneHandle _ stepped => oneHandle.step stepped) ?_
  refine ⟨fun _ => ⟨isInitial.serialPort, ?_⟩, ?_⟩
  · rw [isInitial.modbusCtx]
    rfl
  · rw [isInitial.modbusCtx]
    simp

/-! ## The connection -/

/-- An accepted request goes to the event loop of its client. -/
theorem queuesOnLoop_of_requested
    {external : External}
    {state next : State}
    {request : Request}
    (together : FromOneCall state)
    (awaits : state.pc = .requestAwait request)
    (accepted : external.accepts request = true)
    (stepped : step? external state .requested = some next) :
    QueuesOnLoop state request next := by
  obtain ⟨eventloop, isLoop, hasClient⟩ := together
  obtain ⟨other, done, atPc, isDone, rfl⟩ := moves_of_step? stepped
  cases awaits.symm.trans atPc
  simp only [request?, accepted, ↓reduceIte, isLoop, hasClient] at isDone
  obtain ⟨requests, sends, rfl⟩ := Option.map_eq_some_iff.mp isDone
  exact ⟨eventloop, requests, isLoop, rfl, Channel.items_send? sends⟩

/--
In every run, whatever is configured, answered or lost: the handles exclude
each other and stay, and in the connected state the client and the event loop
belong together, so that polling and requests use the same connection.
-/
theorem wellConnected_of_run
    {external : External}
    {start state : State}
    {events : List Event}
    (isInitial : Initial start)
    (run : (bridge external).Run start events state) :
    WellConnected external state := by
  have agrees := agrees_of_run isInitial run
  have place := agrees.place
  refine ⟨(oneHandle_of_run isInitial run).exclusive, ?_, ?_, ?_, ?_⟩
  · intro behindStart later final laterRun
    exact ports_of_run behindStart laterRun
  · exact agrees.holds.session
  · intro atSelect
    simp only [AtPlace, atSelect] at place
    exact agrees.holds.session place.2
  · intro request next awaits accepted stepped
    simp only [AtPlace, awaits] at place
    exact
      queuesOnLoop_of_requested (agrees.holds.session place.2) awaits
        accepted stepped

/-- The tenth byte of a connection is queued. -/
theorem wellConnected_of_serialRun :
    ∃ state,
      (bridge plainExternal).Run booted (serialRun 9) state ∧
        WellConnected plainExternal state := by
  have executed :
      ((bridge plainExternal).run? booted (serialRun 9)).isSome = true := by
    decide +kernel
  obtain ⟨state, reached⟩ := Option.isSome_iff_exists.mp executed
  have run := System.run?_eq_some_iff.mp reached
  exact ⟨state, run, wellConnected_of_run initial_booted run⟩

end RecomputerGateway.Rs485
