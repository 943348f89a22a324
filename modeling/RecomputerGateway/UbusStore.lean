import Mathlib.Data.List.Induction
import RecomputerGateway.UbusServe

namespace RecomputerGateway.Ubus

/-!
# The last writer wins

Each variable of the service belongs to one method and is written under one
key of it.  Over any sequence of calls it has the value that was written last.
-/

variable {Number : Type}

/-- The methods of the object `sensecap`. -/
inductive MethodName where
  | gps
  | lora
  | netState
  | loraNetworkConnect
  | loraModule
  deriving DecidableEq

def MethodName.text : MethodName → String
  | .gps => "gps"
  | .lora => "lora"
  | .netState => "net_state"
  | .loraNetworkConnect => "lora_network_connect"
  | .loraModule => "lora_module"

def MethodName.method : MethodName → Method
  | .gps => Ubus.gps
  | .lora => Ubus.lora
  | .netState => Ubus.netState
  | .loraNetworkConnect => Ubus.loraNetworkConnect
  | .loraModule => Ubus.loraModule

/-- A call of a method of the service. -/
structure Call (Number : Type) where
  name : MethodName
  message : Message Number

def serve (store : Store Number) (call : Call Number) : Outcome Number :=
  call.name.method.handle store call.message

/-- The method that a variable belongs to. -/
def Field.owner : Field → MethodName
  | .gpsLongitudeV => .gps
  | .gpsLatitudeV => .gps
  | .gpsAltitudeV => .gps
  | .gpsTimeV => .gps
  | .gpsStateV => .gps
  | .loraTxSumV => .lora
  | .loraRxSumV => .lora
  | .loraReportTimeV => .lora
  | .loraTemperatureV => .lora
  | .loraStateV => .lora
  | .netStateV => .netState
  | .loraModuleState => .loraModule
  | .loraPktFwd => .loraNetworkConnect
  | .station => .loraNetworkConnect

/-- The key that a variable is written and shown under. -/
def Field.key : Field → String
  | .gpsLongitudeV => "longitude"
  | .gpsLatitudeV => "latitude"
  | .gpsAltitudeV => "altitude"
  | .gpsTimeV => "gps_time"
  | .gpsStateV => "state"
  | .loraTxSumV => "tx_sum"
  | .loraRxSumV => "rx_sum"
  | .loraReportTimeV => "report_time"
  | .loraTemperatureV => "temperature"
  | .loraStateV => "state"
  | .netStateV => "state"
  | .loraModuleState => "state"
  | .loraPktFwd => "lora_pkt_fwd"
  | .station => "station"

/-- The variables after a sequence of calls. -/
def storeAfter [NatCast Number] (calls : List (Call Number)) : Store Number :=
  calls.foldl (fun store call => (serve store call).store) initial

/-- The value that a call gives to a variable. -/
def supplied (field : Field) (call : Call Number) :
    Option (LuaValue Number) :=
  if call.name = field.owner then call.message.entries.lookup field.key
  else none

/-- The value that was given last, or the first one. -/
def lastSupplied
    [NatCast Number]
    (field : Field)
    (calls : List (Call Number)) :
    LuaValue Number :=
  (calls.filterMap (supplied field)).getLast?.getD (initial field)

/-- The reply shows exactly the variables of the method. -/
def ShowsFields
    (name : MethodName)
    (store : Store Number)
    (reply : List (String × LuaValue Number)) :
    Prop :=
  (reply.map Prod.fst).Nodup ∧
    ∀ key value,
      (key, value) ∈ reply ↔
        ∃ field : Field,
          field.owner = name ∧ field.key = key ∧ store field = value

/-- What the service is for. -/
structure LastWriterWins
    [NatCast Number]
    (calls : List (Call Number)) :
    Prop where
  fields : ∀ field, storeAfter calls field = lastSupplied field calls
  replies :
    ∀ before call after,
      calls = before ++ call :: after →
        ∃ reply,
          (serve (storeAfter before) call).reply = some reply ∧
            ShowsFields call.name (storeAfter (before ++ [call])) reply
  frames :
    ∀ before call after,
      calls = before ++ call :: after →
        ∀ field : Field,
          field.owner ≠ call.name →
            storeAfter (before ++ [call]) field = storeAfter before field

/-! ## The wiring -/

/-- The service answers calls of its object by the handlers. -/
theorem ubusCall_sensecap
    (store : Store Number)
    (call : Call Number) :
    ubusCall "sensecap" call.name.text store call.message =
      some (serve store call) := by
  obtain ⟨name, message⟩ := call
  cases name <;> rfl

theorem mem_stores_iff
    (name : MethodName)
    (key : String)
    (field : Field) :
    (key, field) ∈ name.method.stores ↔
      field.owner = name ∧ field.key = key := by
  cases name <;> cases field <;>
    simp [MethodName.method, gps, lora, netState, loraNetworkConnect,
      loraModule, Field.owner, Field.key, eq_comm]

/-- What is stored is what is shown. -/
theorem replies_eq_stores (name : MethodName) :
    name.method.replies = name.method.stores := by
  cases name <;> rfl

theorem nodup_replies (name : MethodName) :
    (name.method.replies.map Prod.fst).Nodup := by
  cases name <;> decide

/-! ## One call -/

/-- A variable of another method stays. -/
theorem serve_of_other
    (store : Store Number)
    {call : Call Number}
    {field : Field}
    (isOther : field.owner ≠ call.name) :
    (serve store call).store field = store field := by
  rw [serve, Method.handle_store]
  apply LastWriter.writeAll_of_unwritten
  intro entry _ wired
  exact isOther ((mem_stores_iff call.name entry.1 field).mp wired).1

/-- A variable of the method has the value that the call gives, if any. -/
theorem serve_field
    (store : Store Number)
    {call : Call Number}
    (isPlain : call.message.isPlain = true)
    (field : Field) :
    (serve store call).store field =
      (supplied field call).getD (store field) := by
  unfold supplied
  split
  next isOwn =>
    have wired :
        (field.key, field) ∈ call.name.method.stores :=
      (mem_stores_iff call.name field.key field).mpr ⟨isOwn.symm, rfl⟩
    have onlyKey :
        ∀ other, (other, field) ∈ call.name.method.stores →
          other = field.key := by
      intro other otherWired
      exact ((mem_stores_iff call.name other field).mp otherWired).2.symm
    rw [serve, Method.handle_store, Message.logged_of_isPlain isPlain]
    exact
      LastWriter.writeAll_of_wired wired onlyKey store call.message.nodup
  next isOther =>
    exact serve_of_other store fun same => isOther same.symm

/-- The reply shows the variables behind the call. -/
theorem serve_reply
    (store : Store Number)
    {call : Call Number}
    (isPlain : call.message.isPlain = true) :
    ∃ reply,
      (serve store call).reply = some reply ∧
        ShowsFields call.name (serve store call).store reply := by
  refine
    ⟨call.name.method.replies.map fun entry =>
      (entry.1, (serve store call).store entry.2), ?_, ?_, ?_⟩
  · unfold serve
    rw [Method.handle_reply, if_pos isPlain]
  · rw [List.map_map]
    exact nodup_replies call.name
  · intro key value
    simp only [List.mem_map, Prod.mk.injEq, Prod.exists, replies_eq_stores,
      mem_stores_iff]
    constructor
    · rintro ⟨name, field, ⟨isOwn, isKey⟩, rfl, isValue⟩
      exact ⟨field, isOwn, isKey, isValue⟩
    · rintro ⟨field, isOwn, isKey, isValue⟩
      exact ⟨key, field, ⟨isOwn, isKey⟩, rfl, isValue⟩

/-! ## All calls -/

theorem storeAfter_concat
    [NatCast Number]
    (calls : List (Call Number))
    (call : Call Number) :
    storeAfter (calls ++ [call]) = (serve (storeAfter calls) call).store := by
  rw [storeAfter, List.foldl_append]
  rfl

theorem lastSupplied_concat
    [NatCast Number]
    (field : Field)
    (calls : List (Call Number))
    (call : Call Number) :
    lastSupplied field (calls ++ [call]) =
      (supplied field call).getD (lastSupplied field calls) := by
  unfold lastSupplied
  rw [List.filterMap_append]
  cases given : supplied field call <;> simp [given]

/-- Every variable has the value that was given last. -/
theorem storeAfter_eq_lastSupplied
    [NatCast Number]
    {calls : List (Call Number)}
    (isPlain : ∀ call ∈ calls, call.message.isPlain = true)
    (field : Field) :
    storeAfter calls field = lastSupplied field calls := by
  induction calls using List.reverseRecOn with
  | nil =>
      rfl
  | append_singleton calls call inductionHypothesis =>
      have earlier :=
        inductionHypothesis fun other member =>
          isPlain other (List.mem_append_left _ member)
      have isPlainLast : call.message.isPlain = true :=
        isPlain call (by simp)
      rw [storeAfter_concat, serve_field _ isPlainLast, earlier,
        lastSupplied_concat]

/--
Over every sequence of calls with strings and numbers, in whatever order their
arguments are visited, the last writer wins.
-/
theorem lastWriterWins_of_isPlain
    [NatCast Number]
    {calls : List (Call Number)}
    (isPlain : ∀ call ∈ calls, call.message.isPlain = true) :
    LastWriterWins calls := by
  refine ⟨storeAfter_eq_lastSupplied isPlain, ?_, ?_⟩
  · rintro before call after rfl
    rw [storeAfter_concat]
    exact serve_reply _ (isPlain call (by simp))
  · intro before call after _ field isOther
    rw [storeAfter_concat]
    exact serve_of_other _ isOther

/-- Two calls: the state of the network, and a position with another key. -/
def reportCalls : List (Call Int) :=
  [{ name := .netState
     message :=
      { entries := [("state", .number 1)], nodup := by decide } },
    { name := .gps
      message :=
        { entries :=
            [("latitude", .string "22.5"), ("satellites", .number 7),
              ("state", .number 1)]
          nodup := by decide } }]

/-- The last writers of the two calls win. -/
theorem lastWriterWins_of_reportCalls :
    LastWriterWins reportCalls ∧
      storeAfter reportCalls .gpsLatitudeV = .string "22.5" ∧
        storeAfter reportCalls .netStateV = .number 1 ∧
          storeAfter reportCalls .loraStateV = .number 0 := by
  have isPlain : ∀ call ∈ reportCalls, call.message.isPlain = true :=
    List.forall_mem_cons.mpr
      ⟨rfl, List.forall_mem_cons.mpr ⟨rfl, List.forall_mem_nil _⟩⟩
  exact ⟨lastWriterWins_of_isPlain isPlain, by decide +kernel⟩

end RecomputerGateway.Ubus
