import ModbusBasic.Protocol.ReadContext
import ModbusBasic.Protocol.ProtocolRtu
import ModbusBasic.Registers.RegisterControl

namespace Modbus

open Memory

/-!
# The slave

`SlaveProtocolBase` and `ProtocolRtuSlave`.  The receive buffer `frame_data_`
of 256 bytes is the array of `framein`.  The checksum function, a constant
member of the protocol, is an argument of the operations that use it.
-/

structure SlaveProtocolBase where
  response : Response := {}
  responseValid : Bool := false
  framein : Frame 256 := { dataArray := Vector.replicate 256 0 }
  context : ReadContext := {}
deriving DecidableEq

namespace SlaveProtocolBase

def processCharacter (slave : SlaveProtocolBase) (pt : UInt8) : Checked SlaveProtocolBase := do
  let (context, framein) <- slave.context.processCharacter slave.framein pt
  return { slave with context := context, framein := framein }

/-- The old response is reset and then overwritten. -/
def setResponse (slave : SlaveProtocolBase) (response : Response) : SlaveProtocolBase :=
  { slave with response := response }

def setResponseValid (slave : SlaveProtocolBase) (on : Bool) : SlaveProtocolBase :=
  { slave with responseValid := on }

def sendErrorResponse [TypeConversion] (crc16 : Crc16) (slave : SlaveProtocolBase) {n : Nat}
    (frame : Frame n) (exception : Exception) : Checked SlaveProtocolBase := do
  let errorFrame : Frame 0 :=
    { address := frame.address, function := getErrorFunction frame.function, dataArray := #v[] }
  let response := slave.response.reset
  let response := response.set (Command.kHeaderEnd + 1) exception.code
  let response := response.setLength (Command.kHeaderEnd + 2)
  let response <- ProtocolRtu.frameResponse crc16 errorFrame response
  return (slave.setResponse response).setResponseValid true

def resetResponse (slave : SlaveProtocolBase) : SlaveProtocolBase :=
  { slave.setResponseValid false with response := slave.response.reset }

def resetRead (slave : SlaveProtocolBase) : SlaveProtocolBase :=
  let slave := { slave with context := slave.context.reset }
  let slave := slave.resetResponse
  let slave := { slave with response := slave.response.reset }
  { slave with framein := slave.framein.reset }

end SlaveProtocolBase

/-- The slave over a holding register store `H` and an input register store `I`. -/
structure ProtocolRtuSlave (H I : Type) where
  slave : SlaveProtocolBase := {}
  slaveAddress : UInt8
  holdingRegisterController : HoldingRegisterController H
  inputRegisterController : InputRegisterController I
deriving DecidableEq

namespace ProtocolRtuSlave

variable {H I : Type} {n : Nat}

def implimentedFunctions : List Function :=
  [.kReadMultipleHoldingRegisters, .kReadInputRegisters, .kWriteSingleHoldingRegister,
    .kWriteMultipleHoldingRegisters]

def getFrameIn (slave : ProtocolRtuSlave H I) : Frame 256 := slave.slave.framein
def getResponse (slave : ProtocolRtuSlave H I) : Response := slave.slave.response
def getResponseValid (slave : ProtocolRtuSlave H I) : Bool := slave.slave.responseValid
def getAddress (slave : ProtocolRtuSlave H I) : UInt8 := slave.slaveAddress
def getContext (slave : ProtocolRtuSlave H I) : ReadContext := slave.slave.context

def setAddress (slave : ProtocolRtuSlave H I) (slaveAddress : UInt8) : ProtocolRtuSlave H I :=
  { slave with slaveAddress := slaveAddress }

def processCharacter (slave : ProtocolRtuSlave H I) (pt : UInt8) :
    Checked (ProtocolRtuSlave H I) := do
  let base <- slave.slave.processCharacter pt
  return { slave with slave := base }

def reset (slave : ProtocolRtuSlave H I) : ProtocolRtuSlave H I :=
  let slave := { slave with slave := slave.slave.resetResponse }
  { slave with slave := slave.slave.resetRead }

section

variable [TypeConversion] [RegisterCallbacks H] [RegisterData I]

def runCommand (crc16 : Crc16) (slave : ProtocolRtuSlave H I) (frame : Frame n) :
    Checked (Int × ProtocolRtuSlave H I) := do
  let response : Response := {}
  let (responseCode, slave, response) <-
    match getAddressSpaceFromFunction frame.function with
    | .kInputRegister => do
        let (code, response) <- slave.inputRegisterController.readFrame frame response
        pure (code, slave, response)
    | .kHoldingRegister => do
        let (code, controller, response) <- slave.holdingRegisterController.readFrame frame response
        pure (code, { slave with holdingRegisterController := controller }, response)
    | _ => pure (-1, slave, response)
  if responseCode = 0 then
    let response <- ProtocolRtu.frameResponse crc16 frame response
    let base := (slave.slave.setResponseValid true).setResponse response
    return (responseCode, { slave with slave := base })
  else
    return (responseCode, { slave with slave := slave.slave.setResponse response })

def validateMessage (slave : ProtocolRtuSlave H I) (frame : Frame n) : Checked Exception :=
  if frame.function ∉ implimentedFunctions then .ok .kIllegalFunction
  else
    match getAddressSpaceFromFunction frame.function with
    | .kInputRegister => slave.inputRegisterController.validateFrame frame
    | .kHoldingRegister => slave.holdingRegisterController.validateFrame frame
    | _ => .ok .kIllegalFunction

def processMessage (crc16 : Crc16) (slave : ProtocolRtuSlave H I) (filterAddress : Bool := true) :
    Checked (ProtocolRtuSlave H I) := do
  let frame := slave.getFrameIn
  let exception <- slave.validateMessage frame
  if slave.getAddress = frame.address ∨ filterAddress = false then
    if <- ProtocolRtu.frameCrcIsValid crc16 frame then
      if exception = .kAck then
        let (_, slave) <- slave.runCommand crc16 frame
        return slave
      else
        let base <- slave.slave.sendErrorResponse crc16 frame exception
        return { slave with slave := base }
    else return slave
  else return slave

def processMessageNoAddress (crc16 : Crc16) (slave : ProtocolRtuSlave H I) :
    Checked (ProtocolRtuSlave H I) :=
  slave.processMessage crc16 false

end

end ProtocolRtuSlave

end Modbus
