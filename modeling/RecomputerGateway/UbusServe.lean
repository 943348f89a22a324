import Mathlib.Data.List.TakeWhile
import RecomputerGateway.LastWriter

namespace RecomputerGateway.Ubus

/-!
# `ubus-serve`

The service keeps what other programs report and shows it.  Its five handlers
are one loop over the arguments, which logs each argument and then stores it
under its key; they differ in their keys, in the variables these are stored
in, and in what they reply.
-/

/-- A value of Lua that the binding can deliver; the numbers are left open. -/
inductive LuaValue (Number : Type) where
  | boolean (value : Bool)
  | number (value : Number)
  | string (value : String)
  | table
  deriving DecidableEq

/-- The operand of `..` has to be a string or a number. -/
def LuaValue.concatenates {Number : Type} : LuaValue Number → Bool
  | .boolean _ => false
  | .number _ => true
  | .string _ => true
  | .table => false

/-- The types in the signature of a method. -/
inductive UbusType where
  | int8
  | int32
  | string
  deriving DecidableEq

/-- What the binding delivers for a type. -/
def LuaValue.HasType {Number : Type} : LuaValue Number → UbusType → Prop
  | .boolean _, .int8 => True
  | .number _, .int32 => True
  | .string _, .string => True
  | _, _ => False

/-- The variables of the script that the handlers store to. -/
inductive Field where
  | gpsLongitudeV
  | gpsLatitudeV
  | gpsAltitudeV
  | gpsTimeV
  | gpsStateV
  | loraTxSumV
  | loraRxSumV
  | loraReportTimeV
  | loraTemperatureV
  | loraStateV
  | netStateV
  | loraModuleState
  /-- `lora_network_connect.lora_pkt_fwd`. -/
  | loraPktFwd
  /-- `lora_network_connect.station`. -/
  | station
  deriving DecidableEq

abbrev Store (Number : Type) := Field → LuaValue Number

/-- The values that the script starts with. -/
def initial {Number : Type} [NatCast Number] : Store Number
  | .loraModuleState => .number (1 : Nat)
  | _ => .number (0 : Nat)

/-- The arguments of a call, in the order in which `pairs` visits them. -/
structure Message (Number : Type) where
  entries : List (String × LuaValue Number)
  nodup : (entries.map Prod.fst).Nodup

/-- A handler and its signature. -/
structure Method where
  /-- The keys, and where the loop stores their values. -/
  stores : List (String × Field)
  /-- The table that is replied. -/
  replies : List (String × Field)
  signature : List (String × UbusType)
  deriving DecidableEq

def gps : Method where
  stores :=
    [("longitude", .gpsLongitudeV), ("latitude", .gpsLatitudeV),
      ("altitude", .gpsAltitudeV), ("state", .gpsStateV),
      ("gps_time", .gpsTimeV)]
  replies :=
    [("longitude", .gpsLongitudeV), ("latitude", .gpsLatitudeV),
      ("altitude", .gpsAltitudeV), ("state", .gpsStateV),
      ("gps_time", .gpsTimeV)]
  -- `gps_time=INT32` names no variable, so that the table has no such key.
  signature :=
    [("longitude", .string), ("latitude", .string), ("altitude", .string),
      ("state", .int8)]

def lora : Method where
  stores :=
    [("rx_sum", .loraRxSumV), ("tx_sum", .loraTxSumV),
      ("temperature", .loraTemperatureV),
      ("report_time", .loraReportTimeV), ("state", .loraStateV)]
  replies :=
    [("rx_sum", .loraRxSumV), ("tx_sum", .loraTxSumV),
      ("temperature", .loraTemperatureV),
      ("report_time", .loraReportTimeV), ("state", .loraStateV)]
  signature :=
    [("rx_sum", .int32), ("tx_sum", .int32), ("temperature", .string),
      ("report_time", .int32), ("state", .int8)]

def netState : Method where
  stores := [("state", .netStateV)]
  replies := [("state", .netStateV)]
  signature := [("state", .int8)]

/-- The reply is the table `lora_network_connect` itself. -/
def loraNetworkConnect : Method where
  stores := [("lora_pkt_fwd", .loraPktFwd), ("station", .station)]
  replies := [("lora_pkt_fwd", .loraPktFwd), ("station", .station)]
  signature := [("lora_pkt_fwd", .int8), ("station", .int8)]

def loraModule : Method where
  stores := [("state", .loraModuleState)]
  replies := [("state", .loraModuleState)]
  signature := [("state", .int8)]

/-- The object `sensecap` of `my_method`. -/
def sensecap : List (String × Method) :=
  [("gps", gps), ("lora", lora), ("net_state", netState),
    ("lora_network_connect", loraNetworkConnect),
    ("lora_module", loraModule)]

/-- `my_method`, the objects that `conn:add` registers. -/
def myMethod : List (String × List (String × Method)) :=
  [("sensecap", sensecap)]

/-- What a call of a handler leaves behind; without a reply it has failed. -/
structure Outcome (Number : Type) where
  store : Store Number
  reply : Option (List (String × LuaValue Number))

variable {Number : Type}

/--
The loop over the arguments.  Logging a value that is neither a string nor a
number raises an error, in front of the stores for its key.
-/
def loop
    (method : Method)
    (store : Store Number) :
    List (String × LuaValue Number) → Store Number × Bool
  | [] => (store, true)
  | (key, value) :: rest =>
      if value.concatenates then
        loop method (LastWriter.write method.stores store key value) rest
      else (store, false)

/-- The handler of a method. -/
def Method.handle
    (method : Method)
    (store : Store Number)
    (message : Message Number) :
    Outcome Number :=
  match loop method store message.entries with
  | (stored, true) =>
      { store := stored
        reply :=
          some (method.replies.map fun entry => (entry.1, stored entry.2)) }
  | (stored, false) => { store := stored, reply := none }

/--
`ubus call <object> <method> <message>`, answered by the service: `none` means
that there is no such object or method.
-/
def ubusCall
    (object name : String)
    (store : Store Number)
    (message : Message Number) :
    Option (Outcome Number) :=
  (myMethod.lookup object).bind fun methods =>
    (methods.lookup name).map fun method => method.handle store message

/-! ## What a handler does -/

/-- The values are strings and numbers. -/
def Message.isPlain (message : Message Number) : Bool :=
  message.entries.all fun entry => entry.2.concatenates

/-- The arguments in front of the first one that cannot be logged. -/
def Message.logged (message : Message Number) :
    List (String × LuaValue Number) :=
  message.entries.takeWhile fun entry => entry.2.concatenates

/-- The loop stores what it can log, and fails at anything else. -/
theorem loop_eq
    (method : Method)
    (store : Store Number)
    (entries : List (String × LuaValue Number)) :
    loop method store entries =
      (LastWriter.writeAll method.stores store
          (entries.takeWhile fun entry => entry.2.concatenates),
        entries.all fun entry => entry.2.concatenates) := by
  induction entries generalizing store with
  | nil =>
      rfl
  | cons entry rest inductionHypothesis =>
      cases canLog : entry.2.concatenates with
      | true =>
          simp [loop, canLog, inductionHypothesis, LastWriter.writeAll]
      | false =>
          simp [loop, canLog, LastWriter.writeAll]

theorem Method.handle_store
    (method : Method)
    (store : Store Number)
    (message : Message Number) :
    (method.handle store message).store =
      LastWriter.writeAll method.stores store message.logged := by
  unfold handle
  rw [loop_eq]
  cases message.entries.all fun entry => entry.2.concatenates <;> rfl

/-- A handler replies exactly to strings and numbers. -/
theorem Method.handle_reply
    (method : Method)
    (store : Store Number)
    (message : Message Number) :
    (method.handle store message).reply =
      if message.isPlain then
        some
          (method.replies.map fun entry =>
            (entry.1, (method.handle store message).store entry.2))
      else none := by
  rw [handle_store]
  unfold handle Message.isPlain Message.logged
  rw [loop_eq]
  cases message.entries.all fun entry => entry.2.concatenates <;> rfl

/-- A message of strings and numbers is logged as a whole. -/
theorem Message.logged_of_isPlain
    {message : Message Number}
    (isPlain : message.isPlain = true) :
    message.logged = message.entries := by
  rw [logged, List.takeWhile_eq_self_iff]
  intro entry member
  exact List.all_eq_true.mp isPlain entry member

end RecomputerGateway.Ubus
