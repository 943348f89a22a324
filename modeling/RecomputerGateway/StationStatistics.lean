import Mathlib.Data.BitVec
import RecomputerGateway.DifferenceMeter

namespace RecomputerGateway.StationStatistics

/-!
# The packet statistics of the Basic Station

The station counts the packets that it receives and transmits, and a timer
reports from time to time how far the counters have come.  The two directions
are counted in the same way, in counters of 32 bits that wrap around.
-/

open DifferenceMeter (Meter amount amountSince readings)

/-- `lora_statistics_t`. -/
structure LoraStatistics where
  txCnt : BitVec 32
  rxCnt : BitVec 32
  deriving DecidableEq

/-- The arguments of a call of `lora_statistics_inform`. -/
structure Report where
  rx : BitVec 32
  tx : BitVec 32
  time : BitVec 32
  deriving DecidableEq

structure Station where
  /-- `lora_statistics_info`. -/
  info : LoraStatistics
  /-- `lora_statistics_last`. -/
  last : LoraStatistics
  /-- The reports so far, the newest one last. -/
  reports : List Report
  deriving DecidableEq

def initial : Station where
  info := { txCnt := 0, rxCnt := 0 }
  last := { txCnt := 0, rxCnt := 0 }
  reports := []

inductive Event where
  /-- `s2e_flushRxjobs` passes a packet on. -/
  | receive
  /-- `s2e_nextTxAction` hands a packet to the radio. -/
  | transmit
  /-- The timer calls `lora_info_inform_cb`. -/
  | inform (time : BitVec 32)
  deriving DecidableEq

/-- `lora_info_inform_cb`. -/
def loraInfoInformCb (station : Station) (time : BitVec 32) : Station :=
  let rx := station.info.rxCnt - station.last.rxCnt
  let tx := station.info.txCnt - station.last.txCnt
  { station with
    last :=
      { rxCnt := station.info.rxCnt
        txCnt := station.info.txCnt }
    reports := station.reports ++ [{ rx := rx, tx := tx, time := time }] }

def step (station : Station) : Event → Station
  | .receive =>
      { station with
        info := { station.info with rxCnt := station.info.rxCnt + 1 } }
  | .transmit =>
      { station with
        info := { station.info with txCnt := station.info.txCnt + 1 } }
  | .inform time => loraInfoInformCb station time

/-- The station after a history, which has its newest event first. -/
def after : List Event → Station
  | [] => initial
  | event :: earlier => step (after earlier) event

/-! ## Directions -/

/-- One of the two counters. -/
inductive Direction where
  | rx
  | tx
  deriving DecidableEq

namespace Direction

def counter : Direction → LoraStatistics → BitVec 32
  | .rx, statistics => statistics.rxCnt
  | .tx, statistics => statistics.txCnt

def value : Direction → Report → BitVec 32
  | .rx, report => report.rx
  | .tx, report => report.tx

/-- How many packets of the direction an event is. -/
def weight : Direction → Event → Nat
  | .rx, .receive => 1
  | .tx, .transmit => 1
  | _, _ => 0

end Direction

/-- How many packets of a direction a history has. -/
def packets (direction : Direction) : List Event → Nat
  | [] => 0
  | event :: earlier => packets direction earlier + direction.weight event

/-- How many of them have come since the last report, or the start. -/
def packetsSince (direction : Direction) : List Event → Nat
  | [] => 0
  | .inform _ :: _ => 0
  | event :: earlier => packetsSince direction earlier + direction.weight event

/-- The values of a direction in all reports. -/
def reported (direction : Direction) (station : Station) : List (BitVec 32) :=
  station.reports.map direction.value

/-- What is not yet reported. -/
def unreported (direction : Direction) (station : Station) : BitVec 32 :=
  direction.counter station.info - direction.counter station.last

/-! ## One meter for each direction -/

/-- The counter of a direction and its last value, as a meter. -/
def meter (direction : Direction) (station : Station) : Meter (BitVec 32) where
  total := direction.counter station.info
  last := direction.counter station.last

theorem pending_meter
    (direction : Direction)
    (station : Station) :
    (meter direction station).pending = unreported direction station :=
  rfl

/-- What an event does to the meter of a direction. -/
def meterEvent
    (direction : Direction) :
    Event → DifferenceMeter.Event (BitVec 32)
  | .inform _ => .read
  | event => .add (BitVec.ofNat 32 (direction.weight event))

theorem meter_step
    (direction : Direction)
    (station : Station)
    (event : Event) :
    meter direction (step station event) =
      (meter direction station).step (meterEvent direction event) := by
  -- A packet of the other direction adds nothing.
  have unchanged (total last : BitVec 32) :
      ({ total := total, last := last } : Meter (BitVec 32)) =
        { total := total + 0, last := last } := by
    rw [add_zero]
  cases direction with
  | rx =>
      cases event with
      | receive => rfl
      | transmit => exact unchanged _ _
      | inform time => rfl
  | tx =>
      cases event with
      | receive => exact unchanged _ _
      | transmit => rfl
      | inform time => rfl

theorem meter_after
    (direction : Direction)
    (history : List Event) :
    meter direction (after history) =
      DifferenceMeter.after (history.map (meterEvent direction)) := by
  induction history with
  | nil =>
      cases direction with
      | rx => rfl
      | tx => rfl
  | cons event earlier inductionHypothesis =>
      rw [after, meter_step, inductionHypothesis]
      rfl

/-- A report carries what is not yet reported of each direction. -/
theorem step_inform
    (station : Station)
    (time : BitVec 32) :
    ∃ report,
      (step station (.inform time)).reports = station.reports ++ [report] ∧
        report.time = time ∧
          ∀ direction,
            direction.value report = unreported direction station := by
  refine ⟨_, rfl, rfl, ?_⟩
  intro direction
  cases direction with
  | rx => rfl
  | tx => rfl

theorem reported_inform
    (direction : Direction)
    (station : Station)
    (time : BitVec 32) :
    reported direction (step station (.inform time)) =
      reported direction station ++ [unreported direction station] := by
  obtain ⟨report, appended, -, carries⟩ := step_inform station time
  rw [reported, appended, List.map_append, List.map_singleton,
    carries direction]
  rfl

theorem reported_after
    (direction : Direction)
    (history : List Event) :
    reported direction (after history) =
      readings (history.map (meterEvent direction)) := by
  induction history with
  | nil =>
      rfl
  | cons event earlier inductionHypothesis =>
      cases event with
      | receive =>
          exact inductionHypothesis
      | transmit =>
          exact inductionHypothesis
      | inform time =>
          rw [after, reported_inform, inductionHypothesis, ← pending_meter,
            meter_after]
          rfl

/-- The meter adds up the packets, as far as 32 bits can tell. -/
theorem amount_eq_packets
    (direction : Direction)
    (history : List Event) :
    amount (history.map (meterEvent direction)) =
      BitVec.ofNat 32 (packets direction history) := by
  induction history with
  | nil =>
      rfl
  | cons event earlier inductionHypothesis =>
      rw [List.map_cons, packets, BitVec.ofNat_add, ← inductionHypothesis]
      cases event with
      | receive =>
          rfl
      | transmit =>
          rfl
      | inform time =>
          cases direction with
          | rx => exact (add_zero _).symm
          | tx => exact (add_zero _).symm

theorem amountSince_eq_packetsSince
    (direction : Direction)
    (history : List Event) :
    amountSince (history.map (meterEvent direction)) =
      BitVec.ofNat 32 (packetsSince direction history) := by
  induction history with
  | nil =>
      rfl
  | cons event earlier inductionHypothesis =>
      rw [List.map_cons]
      cases event with
      | receive =>
          rw [packetsSince, BitVec.ofNat_add, ← inductionHypothesis]
          · rfl
          · exact nofun
      | transmit =>
          rw [packetsSince, BitVec.ofNat_add, ← inductionHypothesis]
          · rfl
          · exact nofun
      | inform time =>
          rfl

/-- The two counters differ by the packets since the last report. -/
theorem unreported_after
    (direction : Direction)
    (history : List Event) :
    unreported direction (after history) =
      BitVec.ofNat 32 (packetsSince direction history) := by
  rw [← pending_meter, meter_after, DifferenceMeter.pending_after,
    amountSince_eq_packetsSince]

/--
After every history, the reports and what is not yet reported add up to the
packets, modulo `2 ^ 32`; and the next report of a direction is the number of
its packets since the report before, when 32 bits can hold that number.
-/
theorem reports_account
    (direction : Direction)
    (history : List Event) :
    (reported direction (after history)).sum +
          unreported direction (after history) =
        BitVec.ofNat 32 (packets direction history) ∧
      ∀ time, ∃ report,
        (after (.inform time :: history)).reports =
            (after history).reports ++ [report] ∧
          report.time = time ∧
          direction.value report =
            BitVec.ofNat 32 (packetsSince direction history) ∧
          (packetsSince direction history < 4294967296 →
            (direction.value report).toNat =
              packetsSince direction history) := by
  constructor
  · rw [← pending_meter, reported_after, meter_after,
      DifferenceMeter.sum_readings_add_pending, amount_eq_packets]
  · intro time
    obtain ⟨report, appended, atTime, carries⟩ :=
      step_inform (after history) time
    have value :
        direction.value report =
          BitVec.ofNat 32 (packetsSince direction history) := by
      rw [carries direction, unreported_after]
    refine ⟨report, appended, atTime, value, ?_⟩
    intro fits
    rw [value, BitVec.toNat_ofNat]
    exact Nat.mod_eq_of_lt fits

end RecomputerGateway.StationStatistics
