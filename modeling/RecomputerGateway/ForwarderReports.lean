import RecomputerGateway.UbusServe

namespace RecomputerGateway.ForwarderReports

/-!
# The connection state of the packet forwarder

`server_connect_state` reports a state only if it differs from the last one
that it was called with.  The service that holds the reported state is another
process: the command may fail, and the service may start anew.
-/

open Ubus (LuaValue Message Store ubusCall)

/-- The packet forwarder and the service. -/
structure State where
  /-- The variable `last_state` of `server_connect_state`. -/
  lastState : BitVec 8
  /-- The variables of `ubus-serve`. -/
  service : Store Int

def initial : State where
  lastState := 0xFF
  service := Ubus.initial

inductive Event where
  /-- A call; `accepts` says whether the service accepts calls meanwhile. -/
  | call (state : BitVec 8) (accepts : Bool)
  /-- The service is started anew. -/
  | restart
  deriving DecidableEq

/-- The argument of the command. -/
def report (state : BitVec 8) : Message Int where
  entries := [("lora_pkt_fwd", .number state.toNat)]
  nodup := List.nodup_singleton _

/-- `ubus -S call sensecap lora_network_connect`, run by `system`. -/
def system (accepts : Bool) (state : BitVec 8) (service : Store Int) :
    Store Int :=
  if accepts then
    match ubusCall "sensecap" "lora_network_connect" service
        (report state) with
    | some outcome => outcome.store
    | none => service
  else service

/-- `server_connect_state`, which does not look at what `system` returns. -/
def serverConnectState
    (current : State)
    (state : BitVec 8)
    (accepts : Bool) :
    State :=
  if current.lastState ≠ state then
    { lastState := state
      service := system accepts state current.service }
  else current

def step (current : State) : Event → State
  | .call state accepts => serverConnectState current state accepts
  | .restart => { current with service := Ubus.initial }

/-- The state after a history, which has its newest event first. -/
def after : List Event → State
  | [] => initial
  | event :: earlier => step (after earlier) event

/-- The state of the latest call, or the first value of `last_state`. -/
def latest : List Event → BitVec 8
  | [] => 0xFF
  | .call state _ :: _ => state
  | .restart :: earlier => latest earlier

/--
The state of the latest command that has reached the service since its start,
or the value it starts with.
-/
def delivered : List Event → BitVec 8
  | [] => 0
  | .call state accepts :: earlier =>
      if accepts = true ∧ state ≠ latest earlier then state
      else delivered earlier
  | .restart :: _ => 0

/-- The service holds the state. -/
def Holds (current : State) (state : BitVec 8) : Prop :=
  current.service .loraPktFwd = .number state.toNat

/-! ## What the two processes remember -/

/-- The command stores the state. -/
theorem system_apply
    (accepts : Bool)
    (state : BitVec 8)
    (service : Store Int) :
    system accepts state service .loraPktFwd =
      if accepts then .number state.toNat else service .loraPktFwd := by
  cases accepts with
  | false => rfl
  | true => rfl

theorem lastState_after (history : List Event) :
    (after history).lastState = latest history := by
  induction history with
  | nil =>
      rfl
  | cons event earlier inductionHypothesis =>
      cases event with
      | restart =>
          exact inductionHypothesis
      | call state accepts =>
          simp only [after, step, serverConnectState, latest]
          split
          · rfl
          next isSame =>
            exact not_not.mp isSame

/-- The service holds what has reached it last. -/
theorem holds_delivered (history : List Event) :
    Holds (after history) (delivered history) := by
  induction history with
  | nil =>
      rfl
  | cons event earlier inductionHypothesis =>
      cases event with
      | restart =>
          rfl
      | call state accepts =>
          unfold Holds at inductionHypothesis ⊢
          simp only [after, step, serverConnectState, lastState_after,
            delivered]
          by_cases isSame : latest earlier = state
          · simp [isSame, inductionHypothesis]
          · have differs : state ≠ latest earlier := fun same =>
              isSame same.symm
            simp only [ne_eq, isSame, not_false_eq_true, ↓reduceIte,
              system_apply, differs, and_true]
            cases accepts with
            | false => exact inductionHypothesis
            | true => rfl

theorem holds_iff (history : List Event) (state : BitVec 8) :
    Holds (after history) state ↔ delivered history = state := by
  have isHeld := holds_delivered history
  unfold Holds at isHeld ⊢
  rw [isHeld]
  constructor
  · intro same
    have sameNumber :
        ((delivered history).toNat : Int) = (state.toNat : Int) :=
      LuaValue.number.inj same
    exact BitVec.eq_of_toNat_eq (Int.ofNat.inj sameNumber)
  · rintro rfl
    rfl

/--
After a call that the service accepts, it holds the state of the call, exactly
if the call changes the state or the latest command that reached the service
carried it.
-/
theorem holds_call_iff (history : List Event) (state : BitVec 8) :
    Holds (after (.call state true :: history)) state ↔
      state ≠ latest history ∨ delivered history = state := by
  rw [holds_iff]
  by_cases isSame : state = latest history
  · simp [delivered, isSame]
  · simp [delivered, isSame]

/-- The report of a connection fails, and the repeated call sends none. -/
theorem not_holds_of_failed_report :
    ¬ Holds (after [.call 1 true, .call 1 false, .call 0 true]) 1 := by
  rw [holds_iff]
  decide

end RecomputerGateway.ForwarderReports
