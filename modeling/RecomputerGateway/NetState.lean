import Mathlib.Data.List.Induction
import RecomputerGateway.UbusServe

namespace RecomputerGateway.NetState

/-!
# Reporting the state of the network

`mwan3` runs `mwan3.user` when an interface goes up or down.  The script keeps
a file for each interface, reads some of them back, and reports the outcome
with `ubus call gateway net_state`.
-/

open Ubus (LuaValue Message Store ubusCall)

/-- The interfaces that the firmware configures in `mwan3`. -/
inductive Interface where
  | wan
  | wwan
  | lte
  /-- `LTE`, in capital letters, of `luci-app-gateway`. -/
  | lteCapital
  | wlan
  deriving DecidableEq

/-- The name of the section, which is also that of the state file. -/
def Interface.name : Interface → String
  | .wan => "wan"
  | .wwan => "wwan"
  | .lte => "lte"
  | .lteCapital => "LTE"
  | .wlan => "wlan"

/-- `$ACTION`. -/
inductive Action where
  | connected
  | disconnected
  deriving DecidableEq

/-- A run of `mwan3.user`. -/
structure Event where
  action : Action
  interface : Interface
  deriving DecidableEq

structure World where
  /-- What the files in `/tmp/state` contain, by their names. -/
  files : String → Option Nat
  /-- The variables of `ubus-serve`. -/
  service : Store Int

/-- The device is up, and nothing has been reported yet. -/
def booted : World where
  files _ := none
  service := Ubus.initial

/-- The number that is written for an action. -/
def Action.state : Action → Nat
  | .connected => 1
  | .disconnected => 0

/-- The content of a state file, or 0. -/
def readState (files : String → Option Nat) (name : String) : Nat :=
  (files name).getD 0

/-- `$net_st`. -/
def netSt (files : String → Option Nat) : Nat :=
  if readState files "wan" = 0 ∧ readState files "wwan" = 0 ∧
      readState files "lte" = 0 then 0
  else 1

/-- The argument of the report. -/
def report (netSt : Nat) : Message Int where
  entries := [("state", .number netSt)]
  nodup := List.nodup_singleton _

/-- `ubus call gateway net_state`; its failure is ignored. -/
def callNetState (netSt : Nat) (service : Store Int) : Store Int :=
  match ubusCall "gateway" "net_state" service (report netSt) with
  | some outcome => outcome.store
  | none => service

/-- `mwan3.user`, which reports twice. -/
def mwan3User (world : World) (event : Event) : World :=
  let files :=
    Function.update world.files event.interface.name
      (some event.action.state)
  let netSt := netSt files
  { files := files
    service := callNetState netSt (callNetState netSt world.service) }

/-- The world after a sequence of runs. -/
def after (events : List Event) : World :=
  events.foldl mwan3User booted

/-- The latest event of the interface says that it is connected. -/
def IsConnected (events : List Event) (interface : Interface) : Prop :=
  ((events.filter fun event => event.interface = interface).getLast?.map
      fun event => event.action) = some .connected

instance (events : List Event) (interface : Interface) :
    Decidable (IsConnected events interface) :=
  inferInstanceAs (Decidable (_ = _))

/-- The service has 1 exactly if some interface is connected. -/
def ReportsState (events : List Event) : Prop :=
  ((∃ interface, IsConnected events interface) →
      (after events).service .netStateV = .number 1) ∧
    ((¬ ∃ interface, IsConnected events interface) →
      (after events).service .netStateV = .number 0)

/-! ## The state files -/

theorem after_concat (events : List Event) (event : Event) :
    after (events ++ [event]) = mwan3User (after events) event := by
  rw [after, List.foldl_append]
  rfl

theorem isConnected_concat
    (events : List Event)
    (event : Event)
    (interface : Interface) :
    IsConnected (events ++ [event]) interface ↔
      if event.interface = interface then event.action = .connected
      else IsConnected events interface := by
  unfold IsConnected
  rw [List.filter_append]
  by_cases isSame : event.interface = interface <;> simp [isSame]

theorem name_injective : Function.Injective Interface.name := by
  intro first second same
  cases first <;> cases second <;> simp [Interface.name] at same ⊢

/-- The file of an interface has 1 exactly if it is connected. -/
theorem readState_after
    (events : List Event)
    (interface : Interface) :
    readState (after events).files interface.name =
      if IsConnected events interface then 1 else 0 := by
  induction events using List.reverseRecOn with
  | nil =>
      rfl
  | append_singleton events event inductionHypothesis =>
      simp only [after_concat, isConnected_concat, mwan3User, readState]
      by_cases isSame : event.interface = interface
      · subst isSame
        cases event.action <;> simp [Action.state]
      · have otherFile : interface.name ≠ event.interface.name :=
          fun same => isSame (name_injective same).symm
        rw [Function.update_of_ne otherFile]
        simp only [isSame, ↓reduceIte]
        exact inductionHypothesis

/-- The script finds the network up if `wan`, `wwan` or `lte` is connected. -/
theorem netSt_after (events : List Event) :
    netSt (after events).files =
      if IsConnected events .wan ∨ IsConnected events .wwan ∨
          IsConnected events .lte then 1
      else 0 := by
  have wan := readState_after events .wan
  have wwan := readState_after events .wwan
  have lte := readState_after events .lte
  simp only [Interface.name] at wan wwan lte
  unfold netSt
  rw [wan, wwan, lte]
  by_cases isWan : IsConnected events .wan <;>
    by_cases isWwan : IsConnected events .wwan <;>
      by_cases isLte : IsConnected events .lte <;>
        simp [isWan, isWwan, isLte]

/-! ## The report -/

/-- No object of the service has the name that the script calls. -/
theorem callNetState_eq (netSt : Nat) (service : Store Int) :
    callNetState netSt service = service :=
  rfl

/-- The service never hears of the network. -/
theorem service_after (events : List Event) :
    (after events).service = Ubus.initial := by
  induction events using List.reverseRecOn with
  | nil =>
      rfl
  | append_singleton events event inductionHypothesis =>
      rw [after_concat]
      simp only [mwan3User, callNetState_eq]
      exact inductionHypothesis

/-- The state is right exactly as long as no interface is connected. -/
theorem reportsState_iff (events : List Event) :
    ReportsState events ↔ ∀ interface, ¬ IsConnected events interface := by
  have isZero : (after events).service .netStateV = .number 0 := by
    rw [service_after]
    rfl
  unfold ReportsState
  rw [isZero, ← not_exists]
  constructor
  · rintro ⟨ifConnected, -⟩ connects
    cases ifConnected connects
  · intro noneConnected
    exact ⟨fun connects => absurd connects noneConnected, fun _ => rfl⟩

/-- After the first interface is connected, the state is wrong. -/
theorem not_reportsState :
    ¬ ReportsState [{ action := .connected, interface := .wan }] := by
  intro reports
  have isOne :=
    reports.1 ⟨.wan, by decide⟩
  cases isOne

end RecomputerGateway.NetState
