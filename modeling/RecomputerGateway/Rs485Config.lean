import RecomputerGateway.RustText

namespace RecomputerGateway.Rs485

/-!
# The configuration of `rs485-module`

Every option that is missing or cannot be parsed has a default, so that
loading the configuration always gives one.
-/

open RustText (trim parseUnsigned parseI32)

inductive QoS where
  | atMostOnce
  | atLeastOnce
  | exactlyOnce
  deriving DecidableEq

inductive DataBits where
  | five
  | six
  | seven
  | eight
  deriving DecidableEq

inductive StopBits where
  | one
  | two
  deriving DecidableEq

inductive Parity where
  | none
  | odd
  | even
  deriving DecidableEq

inductive FlowControl where
  | none
  | software
  | hardware
  deriving DecidableEq

structure MqttConfig where
  enabled : Bool
  transport : String
  host : String
  port : Nat
  username : Option String
  password : Option String
  clientId : String
  keepalive : Nat
  uplinkTopic : String
  downlinkTopic : String
  qosLevel : QoS
  reconnectDelay : Nat
  authMode : String
  caCert : Option String
  clientCert : Option String
  clientKey : Option String
  token : Option String
  deriving DecidableEq

structure SerialConfig where
  enabled : Bool
  device : String
  baudrate : Nat
  databit : DataBits
  stopbit : StopBits
  checkbit : Parity
  flowcontrol : FlowControl
  /-- In milliseconds. -/
  timeout : Nat
  deriving DecidableEq

structure ProtocolConfig where
  enabled : Bool
  protocolType : String
  deviceAddress : Nat
  functionCode : Nat
  registerAddress : Nat
  dataLength : Nat
  deriving DecidableEq

structure Config where
  mqtt : MqttConfig
  serial : SerialConfig
  protocol : ProtocolConfig
  deriving DecidableEq

/--
What `uci get rs485-module.<section>.<option>` prints; `none` when it fails or
prints something that is not UTF-8.
-/
abbrev Uci := String → String → Option String

/-- `uci_get`. -/
def uciGet (uci : Uci) (sectionName option : String) : Option String :=
  (uci sectionName option).map trim

def uciGetOr
    (uci : Uci)
    (sectionName option default : String) :
    String :=
  (uciGet uci sectionName option).getD default

/-- An option of an unsigned type with values below `bound`. -/
def uciParseOr
    (bound : Nat)
    (uci : Uci)
    (sectionName option : String)
    (default : Nat) :
    Nat :=
  ((uciGet uci sectionName option).bind (parseUnsigned bound)).getD default

def u8Bound : Nat := 0x100

def u16Bound : Nat := 0x10000

def u32Bound : Nat := 0x100000000

def u64Bound : Nat := 0x10000000000000000

def uciEnabled (uci : Uci) (sectionName : String) : Bool :=
  uciParseOr u8Bound uci sectionName "enabled" 0 == 1

def loadMqttConfig (uci : Uci) : MqttConfig where
  enabled := uciEnabled uci "mqtt"
  host := uciGetOr uci "mqtt" "host" ""
  port := uciParseOr u16Bound uci "mqtt" "port" 1883
  username := uciGet uci "mqtt" "username"
  password := uciGet uci "mqtt" "password"
  clientId := uciGetOr uci "mqtt" "client_id" "rs485_bridge"
  keepalive := uciParseOr u64Bound uci "mqtt" "keepalive" 30
  uplinkTopic := uciGetOr uci "mqtt" "uplink_topic" "rs485/uplink"
  downlinkTopic := uciGetOr uci "mqtt" "downlink_topic" "rs485/downlink"
  qosLevel :=
    match uciParseOr u8Bound uci "mqtt" "qos" 0 with
    | 1 => .atLeastOnce
    | 2 => .exactlyOnce
    | _ => .atMostOnce
  reconnectDelay := uciParseOr u64Bound uci "mqtt" "reconnect_delay" 30
  transport := uciGetOr uci "mqtt" "transport" "tcp"
  authMode := uciGetOr uci "mqtt" "auth_mode" "none"
  caCert := uciGet uci "mqtt" "ca_cert"
  clientCert := uciGet uci "mqtt" "client_cert"
  clientKey := uciGet uci "mqtt" "client_key"
  token := uciGet uci "mqtt" "token"

def loadSerialConfig (uci : Uci) : SerialConfig where
  enabled := uciEnabled uci "serial"
  device := "/dev/" ++ uciGetOr uci "serial" "device" "ttyAMA2"
  baudrate := uciParseOr u32Bound uci "serial" "baudrate" 9600
  databit :=
    match ((uciGet uci "serial" "databit").bind parseI32).getD 8 with
    | 5 => .five
    | 6 => .six
    | 7 => .seven
    | _ => .eight
  stopbit :=
    if uciGetOr uci "serial" "stopbit" "1" = "2" then .two else .one
  checkbit :=
    let checkbit := uciGetOr uci "serial" "checkbit" "none"
    if checkbit = "odd" then .odd
    else if checkbit = "even" then .even
    else .none
  flowcontrol :=
    let flowcontrol := uciGetOr uci "serial" "flowcontrol" "none"
    if flowcontrol = "rtscts" then .hardware
    else if flowcontrol = "xonxoff" then .software
    else .none
  timeout := uciParseOr u64Bound uci "serial" "timeout" 1000

def loadProtocolConfig (uci : Uci) : ProtocolConfig where
  enabled := uciEnabled uci "protocol"
  protocolType := uciGetOr uci "protocol" "type" "modbus-rtu"
  deviceAddress := uciParseOr u8Bound uci "protocol" "device_address" 1
  functionCode := uciParseOr u8Bound uci "protocol" "function_code" 3
  registerAddress :=
    uciParseOr u16Bound uci "protocol" "register_address" 40001
  dataLength := uciParseOr u16Bound uci "protocol" "data_length" 10

/-- `load_config_from_uci`, which never fails. -/
def loadConfigFromUci (uci : Uci) : Config where
  mqtt := loadMqttConfig uci
  serial := loadSerialConfig uci
  protocol := loadProtocolConfig uci

/-- A parsed option is below the bound of its type, like its default. -/
theorem uciParseOr_lt
    {bound default : Nat}
    (fits : default < bound)
    (uci : Uci)
    (sectionName option : String) :
    uciParseOr bound uci sectionName option default < bound := by
  unfold uciParseOr
  cases value : (uciGet uci sectionName option).bind (parseUnsigned bound) with
  | none =>
      exact fits
  | some parsed =>
      obtain ⟨text, -, isParsed⟩ := Option.bind_eq_some_iff.mp value
      have bounded := (Option.filter_eq_some_iff.mp isParsed).2
      exact of_decide_eq_true bounded

/-- The numbers of the protocol section fit the fields of a Modbus request. -/
theorem loadProtocolConfig_fits (uci : Uci) :
    (loadProtocolConfig uci).deviceAddress < u8Bound ∧
      (loadProtocolConfig uci).functionCode < u8Bound ∧
        (loadProtocolConfig uci).registerAddress < u16Bound ∧
          (loadProtocolConfig uci).dataLength < u16Bound :=
  ⟨uciParseOr_lt (by decide) uci "protocol" "device_address",
    uciParseOr_lt (by decide) uci "protocol" "function_code",
    uciParseOr_lt (by decide) uci "protocol" "register_address",
    uciParseOr_lt (by decide) uci "protocol" "data_length"⟩

end RecomputerGateway.Rs485
