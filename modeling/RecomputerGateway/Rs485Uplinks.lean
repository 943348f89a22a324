import Mathlib.Data.List.Count
import Mathlib.Data.List.Lattice
import RecomputerGateway.Rs485Connection
import RecomputerGateway.RunRecord

namespace RecomputerGateway.Rs485

/-!
# Uplinks across reconnects

A message that `client.publish` has accepted waits in the channel or is in
flight until the broker acknowledges it.  A reconnect makes a new client with a
new event loop; what the old event loop still holds is gone with it.
-/

/-- A message that is to be acknowledged by the broker. -/
def Request.isUplink : Request → Bool
  | .subscribe _ _ => false
  | .publish _ qos _ _ => qos ≠ .atMostOnce

/-- The requests that an event loop has not settled. -/
def EventLoop.unsettled (eventloop : EventLoop) : List Request :=
  eventloop.sent ++ eventloop.requests.items

def unsettled (state : State) : List Request :=
  match state.mqttEventloop with
  | some eventloop => eventloop.unsettled
  | none => []

/-- What the pair of client and event loop in use still holds. -/
def held (state : State) : List Request :=
  if state.pc = .returned then [] else unsettled state

/-- Whether the client has the event loop that receives its requests. -/
def reachesLoop (state : State) : Bool :=
  match state.mqttEventloop with
  | some eventloop => state.mqttClient = some eventloop.session
  | none => false

/-- `client.publish` returns `Ok`, and the message is logged as published. -/
def published (external : External) (state : State) (event : Event) :
    List Request :=
  match event, state.pc with
  | .requested, .requestAwait request =>
      if external.accepts request && reachesLoop state then [request] else []
  | _, _ => []

/-- What the broker acknowledges, out of what it has been sent. -/
def EventLoop.acknowledged
    (eventloop : EventLoop)
    (activity : PollActivity) :
    List Request :=
  (eventloop.sent ++
    eventloop.requests.items.take activity.taken).bagInter activity.settled

/-- What is acknowledged while `select!` waits. -/
def acknowledgedWhile (state : State) (activity : PollActivity) :
    List Request :=
  match state.mqttEventloop with
  | some eventloop => eventloop.acknowledged activity
  | none => []

def acknowledged (state : State) : Event → List Request
  | .polled activity _ => acknowledgedWhile state activity
  | .serialRead activity _ => acknowledgedWhile state activity
  | _ => []

/-- The calls of `setup_mqtt_client` that drop the event loop in use. -/
def replaces (state : State) : Event → Bool
  | .setUp successful => successful || state.pc = .reconnect
  | _ => false

/-- The uplinks that are dropped with the event loop. -/
def dropped (state : State) (event : Event) : List Request :=
  if replaces state event then (held state).filter Request.isUplink else []

/--
Every message that was published is acknowledged or still held; equal messages
are counted.
-/
def KeepsUplinks
    (external : External)
    (start : State)
    (events : List Event)
    (state : State) :
    Prop :=
  ∀ request,
    request.isUplink = true →
      ((bridge external).record (published external) start events).count
          request =
        ((bridge external).record acknowledged start events).count request +
          (held state).count request

/-- A reconnect finds no uplink in the event loop that it drops. -/
def DropsNone (state : State) (event : Event) : Prop :=
  replaces state event = true →
    ∀ request ∈ held state, request.isUplink = false

theorem dropped_eq_nil_iff (state : State) (event : Event) :
    dropped state event = [] ↔ DropsNone state event := by
  unfold dropped DropsNone
  cases replaces state event <;> simp

/-! ## Where the requests go -/

/-- What a poll does not acknowledge stays with the event loop. -/
theorem EventLoop.count_unsettled
    (eventloop : EventLoop)
    (activity : PollActivity)
    (request : Request) :
    eventloop.unsettled.count request =
      (eventloop.acknowledged activity).count request +
        (eventloop.advance activity).unsettled.count request := by
  have split :
      eventloop.requests.items.count request =
        (eventloop.requests.items.take activity.taken).count request +
          (eventloop.requests.items.drop activity.taken).count request := by
    rw [← List.count_append, List.take_append_drop]
  simp only [unsettled, acknowledged, advance, Channel.receive,
    List.count_append, List.count_diff, List.count_bagInter]
  omega

/-- The same for the state while `select!` waits. -/
theorem count_unsettled_pollWhile
    {state polled : State}
    {activity : PollActivity}
    (works : pollWhile? state activity = some polled)
    (request : Request) :
    (unsettled state).count request =
      (acknowledgedWhile state activity).count request +
        (unsettled polled).count request := by
  rcases pollWhile?_cases works with
    ⟨eventloop, isLoop, rfl⟩ | ⟨noLoop, rfl⟩
  · simp only [unsettled, acknowledgedWhile, isLoop]
    exact eventloop.count_unsettled activity request
  · simp [unsettled, acknowledgedWhile, noLoop]

/-- A request that is accepted is one more to settle. -/
theorem count_unsettled_request
    {external : External}
    {state done : State}
    {request : Request}
    (isDone : request? external state request = some done)
    (other : Request) :
    (unsettled done).count other =
      (if external.accepts request && reachesLoop state then [request]
        else []).count other +
        (unsettled state).count other := by
  unfold request? at isDone
  cases accepted : external.accepts request with
  | false =>
      simp only [accepted, Bool.false_eq_true, ↓reduceIte,
        Option.some.injEq] at isDone
      subst done
      simp
  | true =>
      simp only [accepted, ↓reduceIte] at isDone
      cases isLoop : state.mqttEventloop with
      | none =>
          simp only [isLoop, Option.some.injEq] at isDone
          subst done
          simp [reachesLoop, isLoop]
      | some eventloop =>
          simp only [isLoop] at isDone
          by_cases hasClient : state.mqttClient = some eventloop.session
          · simp only [hasClient, ↓reduceIte] at isDone
            obtain ⟨requests, sends, rfl⟩ :=
              Option.map_eq_some_iff.mp isDone
            simp only [unsettled, isLoop, EventLoop.unsettled,
              Channel.items_send? sends, reachesLoop, hasClient,
              decide_true, Bool.and_self, ↓reduceIte, List.count_append]
            omega
          · simp only [hasClient, ↓reduceIte, Option.some.injEq] at isDone
            subst done
            simp [reachesLoop, isLoop, hasClient]

/-- The client of a successful call has a new event loop. -/
theorem count_unsettled_setUp
    (state : State)
    (successful reconnecting : Bool)
    {request : Request}
    (isUplink : request.isUplink = true) :
    (unsettled state).count request =
      (if successful || reconnecting then
          (unsettled state).filter Request.isUplink
        else []).count request +
        (unsettled (setUp state successful reconnecting)).count request := by
  cases successful with
  | true =>
      simp [isUplink, setUp, connected, unsettled, EventLoop.unsettled,
        EventLoop.new, Channel.empty]
  | false =>
      cases reconnecting with
      | true =>
          simp [isUplink, setUp, setUpFailed, unsettled]
      | false =>
          simp [setUp, setUpFailed, unsettled]

theorem unsettled_of_mqttEventloop
    {state next : State}
    (same : next.mqttEventloop = state.mqttEventloop) :
    unsettled next = unsettled state := by
  unfold unsettled
  rw [same]

/-- Each uplink goes from one place to the next, or is dropped. -/
theorem count_unsettled_step?
    {external : External}
    {state next : State}
    {event : Event}
    (stepped : step? external state event = some next)
    (request : Request)
    (isUplink : request.isUplink = true) :
    (published external state event).count request +
        (unsettled state).count request =
      (acknowledged state event).count request +
          (dropped state event).count request +
        (unsettled next).count request := by
  have moved := moves_of_step? stepped
  cases usesConnection : event.usesConnection with
  | false =>
      obtain ⟨-, sameLoop, -⟩ :=
        (leaves_of_step? stepped).connection usesConnection
      rw [unsettled_of_mqttEventloop sameLoop]
      cases event with
      | setUp successful => cases usesConnection
      | polled activity result => cases usesConnection
      | serialRead activity result => cases usesConnection
      | requested => cases usesConnection
      | _ => simp [published, acknowledged, dropped, replaces]
  | true =>
      cases event with
      | setUp successful =>
          obtain ⟨reconnecting, atPc, rfl⟩ := moved
          have isDropped :
              dropped state (.setUp successful) =
                if successful || reconnecting then
                  (unsettled state).filter Request.isUplink
                else [] := by
            cases reconnecting <;> simp [dropped, replaces, held, atPc]
          have same :
              unsettled (afterMqtt (setUp state successful reconnecting)) =
                unsettled (setUp state successful reconnecting) :=
            rfl
          rw [isDropped, same,
            count_unsettled_setUp state successful reconnecting isUplink]
          simp only [published, acknowledged, List.count_nil, Nat.zero_add]
      | polled activity result =>
          obtain ⟨-, polled, works, rfl⟩ := moved
          obtain ⟨pc, mqttState, -, -, handled⟩ :=
            handlePoll_fields external polled result
          rw [count_unsettled_pollWhile works request, handled]
          simp [published, acknowledged, dropped, replaces, unsettled]
      | serialRead activity result =>
          obtain ⟨-, polled, works, rfl⟩ := moved
          obtain ⟨pc, -, goes⟩ :=
            awaitRequest_fields polled
              (uplinkRequest? external state.config result)
          rw [count_unsettled_pollWhile works request, goes]
          simp [published, acknowledged, dropped, replaces, unsettled]
      | requested =>
          obtain ⟨awaited, done, atPc, isDone, rfl⟩ := moved
          have counted := count_unsettled_request isDone request
          have same : unsettled (afterMqtt done) = unsettled done := rfl
          rw [same, counted]
          simp [published, atPc, acknowledged, dropped, replaces]
      | _ =>
          cases usesConnection

/-! ## Uplinks need the serial port -/

/-- Uplinks come from the serial port, and reads need the other handle. -/
structure UplinksHavePort (state : State) : Prop where
  unconnected : state.pc = .startUp → state.mqttEventloop = none
  queued :
    ∀ request ∈ unsettled state,
      request.isUplink = true → state.serialPort = true
  awaited :
    ∀ request,
      state.pc = .requestAwait request →
        request.isUplink = true → state.serialPort = true
  reading :
    ∀ request, state.pc = .readAwait request → state.modbusCtx.isSome = true
  returned :
    state.pc = .returned →
      ∀ request ∈ unsettled state, request.isUplink = false

/-- The serial port is not closed. -/
theorem serialPort_of_step?
    {external : External}
    {state next : State}
    {event : Event}
    (stepped : step? external state event = some next)
    (hasPort : state.serialPort = true) :
    next.serialPort = true := by
  have moved := moves_of_step? stepped
  cases usesPorts : event.usesPorts with
  | false =>
      obtain ⟨samePort, -⟩ := (leaves_of_step? stepped).ports usesPorts
      exact samePort.trans hasPort
  | true =>
      cases event with
      | startUp uci opens =>
          rw [moved.2]
          unfold startUp
          dsimp only
          split
          · split
            · split
              · exact hasPort
              · rfl
            · exact hasPort
          · exact hasPort
      | startRead =>
          rw [moved.2]
          exact (startRead_ports state).1.trans hasPort
      | _ =>
          cases usesPorts

/-- An unsettled uplink was unsettled before, or is published now. -/
theorem mem_unsettled_step?
    {external : External}
    {state next : State}
    {event : Event}
    {request : Request}
    (stepped : step? external state event = some next)
    (isUplink : request.isUplink = true)
    (member : request ∈ unsettled next) :
    request ∈ unsettled state ∨ state.pc = .requestAwait request := by
  have counted := count_unsettled_step? stepped request isUplink
  have occurs := List.count_pos_iff.mpr member
  by_cases isPublished : request ∈ published external state event
  · refine .inr ?_
    unfold published at isPublished
    split at isPublished
    next awaited atRequest =>
      split at isPublished
      · rw [List.mem_singleton] at isPublished
        rw [atRequest, isPublished]
      · cases isPublished
    next =>
      cases isPublished
  · refine .inl (List.count_pos_iff.mp ?_)
    have notCounted := List.count_eq_zero.mpr isPublished
    omega

/-- Nothing that needs an acknowledgement waits while `main` can return. -/
theorem UplinksHavePort.none_of_returns
    {state : State}
    (havePort : UplinksHavePort state)
    (oneHandle : OneHandle state)
    (cannotGoOn :
      state.pc = .startUp ∨ ∃ request, state.pc = .readAwait request)
    (request : Request)
    (member : request ∈ unsettled state) :
    request.isUplink = false := by
  cases isUplink : request.isUplink with
  | false =>
      rfl
  | true =>
      rcases cannotGoOn with atStart | ⟨read, atRead⟩
      · simp [unsettled, havePort.unconnected atStart] at member
      · have hasPort := havePort.queued request member isUplink
        exact
          absurd ⟨hasPort, havePort.reading read atRead⟩ oneHandle.exclusive

theorem UplinksHavePort.step
    {external : External}
    {state next : State}
    {event : Event}
    (havePort : UplinksHavePort state)
    (oneHandle : OneHandle state)
    (stepped : step? external state event = some next) :
    UplinksHavePort next := by
  have queued :
      ∀ request ∈ unsettled next,
        request.isUplink = true → next.serialPort = true := by
    intro request member isUplink
    apply serialPort_of_step? stepped
    rcases mem_unsettled_step? stepped isUplink member with
      wasThere | isAwaited
    · exact havePort.queued request wasThere isUplink
    · exact havePort.awaited request isAwaited isUplink
  cases arrives_of_step? stepped with
  | stays isCreated isSame =>
      subst isSame
      exact
        ⟨havePort.unconnected, havePort.queued, havePort.awaited,
          havePort.reading, havePort.returned⟩
  | awaits request atRequest hasReason =>
      refine
        ⟨by simp [atRequest], queued, ?_, by simp [atRequest],
          by simp [atRequest]⟩
      intro other atOther isUplink
      cases atRequest.symm.trans atOther
      rcases hasReason with ⟨topic, qos, rfl⟩ | ⟨-, hasPort⟩
      · cases isUplink
      · exact hasPort
  | reads isReading hasContext isStarted =>
      refine ⟨?_, queued, ?_, hasContext, ?_⟩
      · intro atStart
        rw [atStart] at isReading
        cases isReading
      · intro request atRequest
        rw [atRequest] at isReading
        cases isReading
      · intro atEnd
        rw [atEnd] at isReading
        cases isReading
  | returns atEnd cannotGoOn =>
      refine
        ⟨by simp [atEnd], queued, by simp [atEnd], by simp [atEnd],
          fun _ request member => ?_⟩
      cases isUplink : request.isUplink with
      | false =>
          rfl
      | true =>
          rcases mem_unsettled_step? stepped isUplink member with
            wasThere | isAwaited
          · have noUplink :=
              havePort.none_of_returns oneHandle cannotGoOn request wasThere
            exact isUplink.symm.trans noUplink
          · rcases cannotGoOn with atStart | ⟨read, atRead⟩
            · cases atStart.symm.trans isAwaited
            · cases atRead.symm.trans isAwaited
  | goesOn isPlain isEnabled =>
      refine ⟨?_, queued, ?_, ?_, ?_⟩
      · intro atStart
        rw [atStart] at isPlain
        cases isPlain
      · intro request atRequest
        rw [atRequest] at isPlain
        cases isPlain
      · intro request atRead
        rw [atRead] at isPlain
        cases isPlain
      · intro atEnd
        rw [atEnd] at isPlain
        cases isPlain

theorem uplinksHavePort_of_run
    {external : External}
    {start state : State}
    {events : List Event}
    (isInitial : Initial start)
    (run : (bridge external).Run start events state) :
    UplinksHavePort state := by
  have begins : UplinksHavePort start := by
    have noLoop := isInitial.mqttEventloop
    have atStart := isInitial.pc
    exact
      ⟨fun _ => noLoop, by simp [unsettled, noLoop], by simp [atStart],
        by simp [atStart], by simp [atStart]⟩
  refine
    run.recorded (fun _ current => UplinksHavePort current) begins ?_
  intro earlier current event next before havePort stepped
  exact havePort.step (oneHandle_of_run isInitial before) stepped

/-- Of uplinks, all that is unsettled is held by the pair in use. -/
theorem UplinksHavePort.count_held
    {state : State}
    (havePort : UplinksHavePort state)
    (request : Request)
    (isUplink : request.isUplink = true) :
    (held state).count request = (unsettled state).count request := by
  unfold held
  split
  next atEnd =>
    have notThere : request ∉ unsettled state := by
      intro member
      have noUplink := havePort.returned atEnd request member
      cases isUplink.symm.trans noUplink
    rw [List.count_eq_zero.mpr notThere, List.count_nil]
  next =>
    rfl

/-! ## Whole runs -/

/-- Every uplink is acknowledged, dropped or held. -/
theorem count_published_of_run
    {external : External}
    {start state : State}
    {events : List Event}
    (isInitial : Initial start)
    (run : (bridge external).Run start events state)
    (request : Request)
    (isUplink : request.isUplink = true) :
    ((bridge external).record (published external) start events).count
        request =
      ((bridge external).record acknowledged start events).count request +
          ((bridge external).record dropped start events).count request +
        (held state).count request := by
  have conserved :=
    run.recorded
      (fun earlier current =>
        ((bridge external).record (published external) start earlier).count
            request =
          ((bridge external).record acknowledged start earlier).count
                request +
              ((bridge external).record dropped start earlier).count
                request +
            (unsettled current).count request)
      (by simp [System.record, unsettled, isInitial.mqttEventloop])
      (by
        intro earlier current event next before holds stepped
        have counted := count_unsettled_step? stepped request isUplink
        simp only [System.record_snoc before, List.count_append]
        omega)
  rw [(uplinksHavePort_of_run isInitial run).count_held request isUplink]
  exact conserved

/-- Only uplinks are noted as dropped. -/
theorem isUplink_of_mem_dropped
    {state : State}
    {event : Event}
    {request : Request}
    (member : request ∈ dropped state event) :
    request.isUplink = true := by
  unfold dropped at member
  split at member
  · exact (List.mem_filter.mp member).2
  · cases member

theorem isUplink_of_mem_record_dropped
    (external : External)
    {events : List Event}
    {start : State}
    {request : Request}
    (member : request ∈ (bridge external).record dropped start events) :
    request.isUplink = true := by
  induction events generalizing start with
  | nil =>
      cases member
  | cons event rest inductionHypothesis =>
      rcases List.mem_append.mp member with isNow | isLater
      · exact isUplink_of_mem_dropped isNow
      · split at isLater
        · cases isLater
        · exact inductionHypothesis isLater

/--
Every published uplink is acknowledged or held, exactly in the runs in which
no reconnect drops an event loop that still holds an uplink.
-/
theorem keepsUplinks_iff
    {external : External}
    {start state : State}
    {events : List Event}
    (isInitial : Initial start)
    (run : (bridge external).Run start events state) :
    KeepsUplinks external start events state ↔
      (bridge external).GuardedRun DropsNone start events state := by
  rw [← System.record_eq_nil_iff dropped_eq_nil_iff run]
  constructor
  · intro keeps
    by_contra notNone
    obtain ⟨request, member⟩ := List.exists_mem_of_ne_nil _ notNone
    have isUplink := isUplink_of_mem_record_dropped external member
    have counted := count_published_of_run isInitial run request isUplink
    have kept := keeps request isUplink
    have occurs := List.count_pos_iff.mpr member
    omega
  · intro none request isUplink
    have counted := count_published_of_run isInitial run request isUplink
    rw [none, List.count_nil] at counted
    omega

/-- The bridge with messages that are to be acknowledged. -/
def acknowledgedUci : Uci := fun sectionName option =>
  if option = "qos" then some "1\n" else bridgeUci sectionName option

/-- One byte is published before the connection fails and is made again. -/
def reconnectingRun : List Event :=
  [.startUp acknowledgedUci true, .loadConfig acknowledgedUci, .setUp true,
    .wake, .loadConfig acknowledgedUci, .serialRead idle (.bytes [65]),
    .requested, .wake, .loadConfig acknowledgedUci, .polled idle .error,
    .wake, .loadConfig acknowledgedUci]

/-- The request for the byte. -/
def acknowledgedRequest : Request :=
  .publish "rs485/uplink" .atLeastOnce false "\x7b\"data\":\"A\"\x7d"

/-- In front of the reconnect, the old event loop holds the message. -/
theorem keepsUplinks_of_reconnectingRun :
    ∃ state,
      (bridge plainExternal).Run booted reconnectingRun state ∧
        KeepsUplinks plainExternal booted reconnectingRun state := by
  have executed :
      ((bridge plainExternal).run? booted reconnectingRun).isSome = true := by
    decide +kernel
  have noneDropped :
      (bridge plainExternal).record dropped booted reconnectingRun = [] := by
    decide +kernel
  obtain ⟨state, reached⟩ := Option.isSome_iff_exists.mp executed
  have run := System.run?_eq_some_iff.mp reached
  exact
    ⟨state, run,
      (keepsUplinks_iff initial_booted run).mpr
        ((System.record_eq_nil_iff dropped_eq_nil_iff run).mp noneDropped)⟩

/-- With the reconnect, it is neither acknowledged nor held. -/
theorem not_keepsUplinks :
    ∃ state,
      (bridge plainExternal).Run booted (reconnectingRun ++ [.setUp true])
          state ∧
        ¬ KeepsUplinks plainExternal booted
            (reconnectingRun ++ [.setUp true]) state := by
  have executed :
      ((bridge plainExternal).run? booted
          (reconnectingRun ++ [.setUp true])).map held =
        some [] := by
    decide +kernel
  have isPublished :
      (bridge plainExternal).record (published plainExternal) booted
          (reconnectingRun ++ [.setUp true]) =
        [acknowledgedRequest] := by
    decide +kernel
  have noneAcknowledged :
      (bridge plainExternal).record acknowledged booted
          (reconnectingRun ++ [.setUp true]) =
        [] := by
    decide +kernel
  obtain ⟨state, reached, holds⟩ := Option.map_eq_some_iff.mp executed
  refine ⟨state, System.run?_eq_some_iff.mp reached, fun keeps => ?_⟩
  have counted := keeps acknowledgedRequest rfl
  rw [isPublished, noneAcknowledged, holds] at counted
  simp at counted

end RecomputerGateway.Rs485
