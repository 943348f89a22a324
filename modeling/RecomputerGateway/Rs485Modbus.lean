import RecomputerGateway.Rs485Config

namespace RecomputerGateway.Rs485

/-!
# Modbus requests on demand

Which read a protocol configuration asks for, and how its outcome is printed.
-/

/-- The context made by `rtu::attach`, with the slave it talks to. -/
structure ModbusContext where
  slave : Nat
  deriving DecidableEq

/-- A read call of the context, with its address and its length. -/
inductive ReadRequest where
  | readHoldingRegisters (addr cnt : Nat)
  | readInputRegisters (addr cnt : Nat)
  | readCoils (addr cnt : Nat)
  | readDiscreteInputs (addr cnt : Nat)
  deriving DecidableEq

/-- Register addresses count from 1, those of a request from 0. -/
def requestAddr (registerAddress : Nat) : Nat :=
  if 0 < registerAddress then registerAddress - 1 else 0

/-- The arms of the `match` on the function code. -/
def readRequest? (protocol : ProtocolConfig) : Option ReadRequest :=
  let addr := requestAddr protocol.registerAddress
  match protocol.functionCode with
  | 3 => some (.readHoldingRegisters addr protocol.dataLength)
  | 4 => some (.readInputRegisters addr protocol.dataLength)
  | 1 => some (.readCoils addr protocol.dataLength)
  | 2 => some (.readDiscreteInputs addr protocol.dataLength)
  | _ => none

/-- What a slave sends back. -/
inductive ReadData where
  | registers (values : List (BitVec 16))
  | bits (values : List Bool)
  deriving DecidableEq

/-- The type of the data that a read call returns. -/
def ReadRequest.returns : ReadRequest → ReadData → Bool
  | .readHoldingRegisters _ _, .registers _ => true
  | .readInputRegisters _ _, .registers _ => true
  | .readCoils _ _, .bits _ => true
  | .readDiscreteInputs _ _, .bits _ => true
  | _, _ => false

/--
The result of a read call: an error of the transport, an exception response of
the slave, or data.
-/
abbrev ReadOutcome := Except String (Except String ReadData)

/-- `{:04X}`. -/
def upperHex (value : BitVec 16) : String :=
  String.ofList
    ([4096, 256, 16, 1].map fun place =>
      (Nat.digitChar (value.toNat / place % 16)).toUpper)

/-- The text of the data. -/
def formatData : ReadData → String
  | .registers values =>
      "Registers: [" ++
        ", ".intercalate (values.map fun value => "0x" ++ upperHex value) ++
        "]"
  | .bits values =>
      "Coils: [" ++
        ", ".intercalate
          (values.map fun value => if value then "1" else "0") ++ "]"

def notInitialized : String := "Modbus context not initialized"

def unsupportedFunction (functionCode : Nat) : String :=
  "Unsupported function code: " ++ toString functionCode

/-- What is written to the result file. -/
def resultText : Except String String → String
  | .ok data => data
  | .error error => "Error: " ++ error

end RecomputerGateway.Rs485
