import RecomputerGateway.Rs485Frames

namespace RecomputerGateway.Rs485

/-!
# Serving the trigger file

An iteration that finds the trigger file should write the outcome of its
Modbus read and remove the trigger.  A read that fails leaves `main` instead:
the second question mark of `.await??` passes on an exception response of the
slave, the first one an error of the transport.
-/

/-- The steps of an iteration whose read, if it makes one, has this outcome. -/
def Performs (outcome : ReadOutcome) : Event → Prop
  | .testTrigger => True
  | .startRead => True
  | .readDone done => done = outcome
  | .writeResult successful => successful = true
  | .removeTrigger successful => successful = true
  | .wake => True
  | _ => False

theorem performs_readDone (outcome : ReadOutcome) :
    Performs outcome (.readDone outcome) :=
  rfl

/-- What an iteration that starts here has to report. -/
def expectedResult
    (state : State)
    (outcome : ReadOutcome) :
    Except String String :=
  match state.modbusCtx with
  | none => .error notInitialized
  | some _ =>
      match readRequest? state.config.protocol with
      | none =>
          .error (unsupportedFunction state.config.protocol.functionCode)
      | some _ =>
          match outcome with
          | .error error => .error error
          | .ok (.error exception) => .error exception
          | .ok (.ok data) => .ok (formatData data)

/-- The iterations of `main` that start here serve the trigger. -/
structure Served
    (external : External)
    (state : State)
    (outcome : ReadOutcome) :
    Prop where
  /-- The loop can go on to its next iteration. -/
  goesOn :
    ∃ events final,
      (bridge external).GuardedRun
          (fun _ event => Performs outcome event) state events final ∧
        final.pc = .loadConfig
  /-- It does not end otherwise, and only goes on with its work done. -/
  done :
    ∀ events final,
      (bridge external).GuardedRun
          (fun _ event => Performs outcome event) state events final →
        final.pc ≠ .returned ∧
          (final.pc = .loadConfig →
            final.result =
                some (resultText (expectedResult state outcome)) ∧
              final.trigger = false)

/-- No read is made, or it delivers data. -/
def Delivered (state : State) (outcome : ReadOutcome) : Prop :=
  state.modbusCtx = none ∨
    readRequest? state.config.protocol = none ∨
      ∃ data, outcome = .ok (.ok data)

/-- The data of a read call has the type of the call. -/
def OutcomeFits (protocol : ProtocolConfig) (outcome : ReadOutcome) : Prop :=
  ∀ request data,
    readRequest? protocol = some request →
      outcome = .ok (.ok data) →
        request.returns data = true

/-- The states that an iteration passes through. -/
inductive Progress (start : State) (outcome : ReadOutcome) : State → Prop where
  | tested :
      Progress start outcome start
  | triggered :
      Progress start outcome { start with pc := .startRead }
  | reading
      (ctx : ModbusContext)
      (request : ReadRequest)
      (isPresent : start.modbusCtx = some ctx)
      (asks : readRequest? start.config.protocol = some request) :
      Progress start outcome
        { start with
          modbusCtx := some { slave := start.config.protocol.deviceAddress }
          pc := .readAwait request }
  | left
      (ctx : Option ModbusContext)
      (lost : ¬ Delivered start outcome) :
      Progress start outcome
        { start with modbusCtx := ctx, pc := .returned }
  | writing
      (ctx : Option ModbusContext) :
      Progress start outcome
        { start with
          modbusCtx := ctx
          pc := .writeResult (expectedResult start outcome) }
  | removing
      (ctx : Option ModbusContext) :
      Progress start outcome
        { start with
          modbusCtx := ctx
          result := some (resultText (expectedResult start outcome))
          pc := .removeTrigger }
  | served
      (ctx : Option ModbusContext)
      (pc : Pc)
      (atEnd : pc = .sleep ∨ pc = .loadConfig) :
      Progress start outcome
        { start with
          modbusCtx := ctx
          result := some (resultText (expectedResult start outcome))
          trigger := false
          pc := pc }

/-- A read that fails is not delivered. -/
theorem not_delivered
    {state : State}
    {outcome : ReadOutcome}
    {ctx : ModbusContext}
    {request : ReadRequest}
    (isPresent : state.modbusCtx = some ctx)
    (asks : readRequest? state.config.protocol = some request)
    (fails : ∀ data, outcome ≠ .ok (.ok data)) :
    ¬ Delivered state outcome := by
  rintro (absent | unsupported | ⟨data, delivered⟩)
  · cases isPresent.symm.trans absent
  · cases asks.symm.trans unsupported
  · exact fails data delivered

/-- Starting the read leads to the read call or past it. -/
theorem Progress.startRead
    (start : State)
    (outcome : ReadOutcome) :
    Progress start outcome (startRead { start with pc := .startRead }) := by
  unfold Rs485.startRead
  cases present : start.modbusCtx with
  | none =>
      have expected :
          expectedResult start outcome = .error notInitialized := by
        simp [expectedResult, present]
      simp only [← expected]
      exact .writing none
  | some ctx =>
      cases asks : readRequest? start.config.protocol with
      | some request =>
          exact .reading ctx request present asks
      | none =>
          have expected :
              expectedResult start outcome =
                .error
                  (unsupportedFunction
                    start.config.protocol.functionCode) := by
            simp [expectedResult, present, asks]
          simp only [← expected]
          exact .writing _

/-- Where the iteration goes on from a state, if it does. -/
def continue? (outcome : ReadOutcome) (state : State) : Option State :=
  match state.pc with
  | .testTrigger =>
      some { state with pc := if state.trigger then .startRead else .sleep }
  | .startRead => some (startRead state)
  | .readAwait request => readDone? state request outcome
  | .writeResult result =>
      some
        { state with
          result := some (resultText result), pc := .removeTrigger }
  | .removeTrigger => some { state with trigger := false, pc := .sleep }
  | .sleep => some { state with pc := .loadConfig }
  | _ => none

theorem continue?_of_performs
    {external : External}
    {state next : State}
    {outcome : ReadOutcome}
    {event : Event}
    (performs : Performs outcome event)
    (stepped : step? external state event = some next) :
    continue? outcome state = some next := by
  have moved := moves_of_step? stepped
  cases event with
  | testTrigger =>
      simp [continue?, moved.1, moved.2]
  | startRead =>
      simp [continue?, moved.1, moved.2]
  | readDone done =>
      obtain ⟨request, atPc, answered⟩ := moved
      cases performs
      simp [continue?, atPc, answered]
  | writeResult successful =>
      obtain ⟨result, atPc, rfl⟩ := moved
      cases performs
      simp [continue?, atPc]
  | removeTrigger successful =>
      obtain ⟨atPc, rfl⟩ := moved
      cases performs
      simp [continue?, atPc]
  | wake =>
      simp [continue?, moved.1, moved.2]
  | _ =>
      exact performs.elim

/-- A step of the iteration leads from one of these states to another. -/
theorem Progress.step
    {start state next : State}
    {outcome : ReadOutcome}
    (atTest : start.pc = .testTrigger)
    (present : start.trigger = true)
    (progress : Progress start outcome state)
    (continued : continue? outcome state = some next) :
    Progress start outcome next := by
  cases progress with
  | tested =>
      have found :
          continue? outcome start =
            some { start with pc := .startRead } := by
        simp [continue?, atTest, present]
      cases found.symm.trans continued
      exact .triggered
  | triggered =>
      cases continued
      exact .startRead start outcome
  | reading ctx request isPresent asks =>
      simp only [continue?] at continued
      match outcome with
      | .error error =>
          cases continued
          exact .left _ (not_delivered isPresent asks (by simp))
      | .ok (.error exception) =>
          cases continued
          exact .left _ (not_delivered isPresent asks (by simp))
      | .ok (.ok data) =>
          simp only [readDone?, Option.ite_none_right_eq_some,
            Option.some.injEq] at continued
          obtain ⟨-, rfl⟩ := continued
          have expected :
              expectedResult start (.ok (.ok data)) =
                .ok (formatData data) := by
            simp [expectedResult, isPresent, asks]
          rw [← expected]
          exact .writing _
  | left ctx lost =>
      cases continued
  | writing ctx =>
      cases continued
      exact .removing ctx
  | removing ctx =>
      cases continued
      exact .served ctx .sleep (.inl rfl)
  | served ctx pc atEnd =>
      rcases atEnd with rfl | rfl
      · cases continued
        exact .served ctx .loadConfig (.inr rfl)
      · cases continued

/-- All runs of the iteration stay in these states. -/
theorem Progress.run
    {external : External}
    {start final : State}
    {outcome : ReadOutcome}
    {events : List Event}
    (atTest : start.pc = .testTrigger)
    (present : start.trigger = true)
    (run :
      (bridge external).GuardedRun
        (fun _ event => Performs outcome event) start events final) :
    Progress start outcome final :=
  run.invariant
    (Progress start outcome)
    (fun _ _ _ progress performs stepped =>
      progress.step atTest present (continue?_of_performs performs stepped))
    .tested

/-- From the result of the read on, the iteration goes to its end. -/
theorem goesOn_of_writeResult
    (external : External)
    (outcome : ReadOutcome)
    (state : State)
    {result : Except String String}
    (atWrite : state.pc = .writeResult result) :
    ∃ final,
      (bridge external).GuardedRun
          (fun _ event => Performs outcome event) state
          [.writeResult true, .removeTrigger true, .wake] final ∧
        final.pc = .loadConfig := by
  refine
    ⟨{ state with
       result := some (resultText result), trigger := false,
       pc := .loadConfig }, ?_, rfl⟩
  exact
    .step _ _ rfl (by simp [bridge, step?, atWrite]; rfl)
      (.step _ _ rfl rfl (.step _ _ trivial rfl (.done _)))

/-- The iteration finds the trigger and starts its read. -/
theorem run_startRead
    (external : External)
    (outcome : ReadOutcome)
    {start : State}
    (atTest : start.pc = .testTrigger)
    (present : start.trigger = true) :
    (bridge external).GuardedRun
      (fun _ event => Performs outcome event) start
      [.testTrigger, .startRead]
      (startRead { start with pc := .startRead }) := by
  have found :
      step? external start .testTrigger =
        some { start with pc := .startRead } := by
    simp [step?, atTest, present]
  exact .step _ _ trivial found (.step _ _ trivial rfl (.done _))

/-- When a read call is made, the iteration waits for it. -/
theorem startRead_readAwait
    {start : State}
    {ctx : ModbusContext}
    {request : ReadRequest}
    (isPresent : start.modbusCtx = some ctx)
    (asks : readRequest? start.config.protocol = some request) :
    (startRead { start with pc := .startRead }).pc =
      .readAwait request := by
  simp [startRead, isPresent, asks]

/-- A read that is delivered lets the loop go on. -/
theorem goesOn_of_delivered
    {external : External}
    {start : State}
    {outcome : ReadOutcome}
    (atTest : start.pc = .testTrigger)
    (present : start.trigger = true)
    (fits : OutcomeFits start.config.protocol outcome)
    (delivered : Delivered start outcome) :
    ∃ events final,
      (bridge external).GuardedRun
          (fun _ event => Performs outcome event) start events final ∧
        final.pc = .loadConfig := by
  have started := run_startRead external outcome atTest present
  cases isPresent : start.modbusCtx with
  | none =>
      obtain ⟨final, run, atEnd⟩ :=
        goesOn_of_writeResult external outcome
          (startRead { start with pc := .startRead })
          (by simp [startRead, isPresent]; rfl)
      exact ⟨_, final, started.trans run, atEnd⟩
  | some ctx =>
      cases asks : readRequest? start.config.protocol with
      | none =>
          obtain ⟨final, run, atEnd⟩ :=
            goesOn_of_writeResult external outcome
              (startRead { start with pc := .startRead })
              (by simp [startRead, isPresent, asks]; rfl)
          exact ⟨_, final, started.trans run, atEnd⟩
      | some request =>
          obtain absent | unsupported | ⟨data, rfl⟩ := delivered
          · cases isPresent.symm.trans absent
          · cases asks.symm.trans unsupported
          · have waiting := startRead_readAwait isPresent asks
            have answered :
                step? external (startRead { start with pc := .startRead })
                    (.readDone (.ok (.ok data))) =
                  some
                    { startRead { start with pc := .startRead } with
                      pc := .writeResult (.ok (formatData data)) } := by
              simp [step?, waiting, readDone?, fits request data asks rfl]
            obtain ⟨final, run, atEnd⟩ :=
              goesOn_of_writeResult external (.ok (.ok data))
                { startRead { start with pc := .startRead } with
                  pc := .writeResult (.ok (formatData data)) } rfl
            exact
              ⟨_, final,
                started.trans
                  (.step (Event.readDone _) _ (performs_readDone _) answered run),
                atEnd⟩

/-- A read that fails makes `main` return with its work undone. -/
theorem returns_of_not_delivered
    (external : External)
    {start : State}
    {outcome : ReadOutcome}
    (atTest : start.pc = .testTrigger)
    (present : start.trigger = true)
    (lost : ¬ Delivered start outcome) :
    ∃ final,
      (bridge external).GuardedRun
          (fun _ event => Performs outcome event) start
          [.testTrigger, .startRead, .readDone outcome] final ∧
        final.pc = .returned ∧ final.trigger = true ∧
          final.result = start.result := by
  simp only [Delivered, not_or, not_exists] at lost
  obtain ⟨hasContext, supported, fails⟩ := lost
  obtain ⟨ctx, isPresent⟩ := Option.ne_none_iff_exists'.mp hasContext
  obtain ⟨request, asks⟩ := Option.ne_none_iff_exists'.mp supported
  have waiting := startRead_readAwait isPresent asks
  have answered :
      step? external (startRead { start with pc := .startRead })
          (.readDone outcome) =
        some
          { startRead { start with pc := .startRead } with
            pc := .returned } := by
    match outcome with
    | .error error =>
        simp [step?, waiting, readDone?]
    | .ok (.error exception) =>
        simp [step?, waiting, readDone?]
    | .ok (.ok data) =>
        exact absurd rfl (fails data)
  obtain ⟨pc, modbusCtx, -, started⟩ :=
    startRead_cases { start with pc := .startRead }
  refine
    ⟨_, (run_startRead external outcome atTest present).trans
      (.step (Event.readDone _) _ (performs_readDone _) answered
        (.done _)), rfl, ?_, ?_⟩
  · rw [started]
    exact present
  · rw [started]

/-- The trigger is served exactly when the read delivers data. -/
theorem served_iff
    {external : External}
    {start : State}
    {outcome : ReadOutcome}
    (atTest : start.pc = .testTrigger)
    (present : start.trigger = true)
    (fits : OutcomeFits start.config.protocol outcome) :
    Served external start outcome ↔ Delivered start outcome := by
  constructor
  · intro served
    by_contra lost
    obtain ⟨final, run, hasReturned, -⟩ :=
      returns_of_not_delivered external atTest present lost
    exact (served.done _ final run).1 hasReturned
  · intro delivered
    refine
      { goesOn := goesOn_of_delivered atTest present fits delivered
        done := ?_ }
    intro events final run
    cases Progress.run atTest present run with
    | tested =>
        simp [atTest]
    | triggered =>
        simp
    | reading ctx request isPresent asks =>
        simp
    | left ctx lost =>
        exact absurd delivered lost
    | writing ctx =>
        simp
    | removing ctx =>
        simp
    | served ctx pc atEnd =>
        rcases atEnd with rfl | rfl <;> simp

/-- The trigger is only tested when the protocol is enabled. -/
def TestsEnabled (state : State) : Prop :=
  state.pc = .testTrigger → state.config.protocol.enabled = true

theorem TestsEnabled.step
    {external : External}
    {state next : State}
    {event : Event}
    (holds : TestsEnabled state)
    (stepped : step? external state event = some next) :
    TestsEnabled next := by
  cases arrives_of_step? stepped with
  | stays isCreated isSame =>
      subst isSame
      exact holds
  | awaits request atRequest hasReason =>
      intro atTest
      cases atRequest.symm.trans atTest
  | reads isReading hasContext isStarted =>
      intro atTest
      rw [atTest] at isReading
      cases isReading
  | returns atEnd cannotGoOn =>
      intro atTest
      cases atEnd.symm.trans atTest
  | goesOn isPlain isEnabled =>
      exact isEnabled

theorem testsEnabled_of_reachable
    {external : External}
    {state : State}
    (reachable : (bridge external).Reachable state) :
    TestsEnabled state := by
  refine reachable.invariant _ ?_ ?_
  · intro start isInitial atTest
    cases isInitial.pc.symm.trans atTest
  · intro current event next _ holds _ stepped
    exact holds.step stepped

/--
In every reachable state in which the trigger is found, and for every outcome
of the read, the iteration serves the trigger exactly when no read is made or
the read delivers data.
-/
theorem trigger_served_iff
    {external : External}
    {state : State}
    {outcome : ReadOutcome}
    (reachable : (bridge external).Reachable state)
    (atTest : state.pc = .testTrigger)
    (present : state.trigger = true)
    (fits : OutcomeFits state.config.protocol outcome) :
    state.config.protocol.enabled = true ∧
      (Served external state outcome ↔ Delivered state outcome) :=
  ⟨testsEnabled_of_reachable reachable atTest,
    served_iff atTest present fits⟩

/-- The serial port and the protocol are enabled, with their defaults. -/
def protocolUci : Uci := fun sectionName option =>
  if sectionName ≠ "mqtt" ∧ option = "enabled" then some "1\n" else none

/-- The first iteration, up to its test of a trigger that is there. -/
def triggeredRun : List Event :=
  [.createTrigger, .startUp protocolUci true, .loadConfig protocolUci]

theorem triggeredRun_reaches :
    ∃ state,
      (bridge plainExternal).Reachable state ∧
        state.pc = .testTrigger ∧ state.trigger = true ∧
          state.result = none ∧
            state.modbusCtx = some { slave := 0 } ∧
              state.config.protocol =
                loadProtocolConfig protocolUci := by
  have executed :
      ((bridge plainExternal).run? booted triggeredRun).map
          (fun state =>
            (state.pc, state.trigger, state.result, state.modbusCtx,
              state.config.protocol)) =
        some (.testTrigger, true, none, some { slave := 0 },
          loadProtocolConfig protocolUci) := by
    decide +kernel
  obtain ⟨state, reached, ends⟩ := Option.map_eq_some_iff.mp executed
  simp only [Prod.mk.injEq] at ends
  exact
    ⟨state, ⟨booted, _, initial_booted,
      System.run?_eq_some_iff.mp reached⟩, ends⟩

theorem readRequest?_protocolUci :
    readRequest? (loadProtocolConfig protocolUci) =
      some (.readHoldingRegisters 40000 10) := by
  decide +kernel

/-- Ten registers are read, and the trigger is served. -/
theorem trigger_served_of_data :
    ∃ state,
      (bridge plainExternal).Reachable state ∧
        state.trigger = true ∧
          Served plainExternal state
            (.ok (.ok (.registers (List.replicate 10 0x00FF)))) := by
  obtain ⟨state, reachable, atTest, present, -, -, protocol⟩ :=
    triggeredRun_reaches
  have fits :
      OutcomeFits state.config.protocol
        (.ok (.ok (.registers (List.replicate 10 0x00FF)))) := by
    intro request data asks delivered
    rw [protocol, readRequest?_protocolUci] at asks
    cases asks
    cases delivered
    rfl
  exact
    ⟨state, reachable, present,
      (trigger_served_iff reachable atTest present fits).2.mpr
        (.inr (.inr ⟨_, rfl⟩))⟩

/-- The slave answers with an exception, and `main` returns. -/
theorem trigger_left_by_exception :
    ∃ state,
      (bridge plainExternal).Reachable state ∧
        state.pc = .testTrigger ∧ state.trigger = true ∧
          state.config.protocol.enabled = true ∧
            ¬ Served plainExternal state
              (.ok (.error "Illegal data address")) ∧
              ∃ final,
                (bridge plainExternal).Run state
                  [.testTrigger, .startRead,
                    .readDone (.ok (.error "Illegal data address"))]
                  final ∧
                  final.pc = .returned ∧ final.trigger = true ∧
                    final.result = none := by
  obtain ⟨state, reachable, atTest, present, noResult, isPresent,
    protocol⟩ := triggeredRun_reaches
  have asks := readRequest?_protocolUci
  rw [← protocol] at asks
  have lost :
      ¬ Delivered state (.ok (.error "Illegal data address")) :=
    not_delivered isPresent asks (by simp)
  obtain ⟨final, run, hasReturned, stillPresent, sameResult⟩ :=
    returns_of_not_delivered plainExternal atTest present lost
  exact
    ⟨state, reachable, atTest, present,
      testsEnabled_of_reachable reachable atTest,
      fun served => (served.done _ final run).1 hasReturned,
      final, run.forget, hasReturned, stillPresent,
      sameResult.trans noResult⟩

end RecomputerGateway.Rs485
