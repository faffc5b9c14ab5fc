import ModbusBasic.Protocol.Commands
import ModbusBasic.Registers.RegisterDataStore

namespace Modbus

open Memory TypeConversion

/-!
# Register controllers

`HoldingRegisterController` and `InputRegisterController`: the checks a request
must pass and the handlers that answer it.  Both are generic in the data store.
The controllers hold a pointer to their store; here the store is a field, and
the operations that write it return the controller with the new store.
-/

/-- A controller and the store it points to. -/
structure HoldingRegisterController (T : Type) where
  registerData : T
deriving DecidableEq

structure InputRegisterController (T : Type) where
  registerData : T
deriving DecidableEq

variable [TypeConversion] {T : Type} {n m : Nat}

namespace HoldingRegisterController

section Validation

variable [RegisterData T]

def writeLocationValid (controller : HoldingRegisterController T) (address count : Nat) : Bool :=
  RegisterData.writeLocationValid controller.registerData address count

def readLocationValid (controller : HoldingRegisterController T) (address count : Nat) : Bool :=
  RegisterData.readLocationValid controller.registerData address count

def readRegister (controller : HoldingRegisterController T) (address : UInt16) : Checked UInt16 :=
  RegisterData.getRegister controller.registerData address.toNat

def validateWriteSingleHoldingRegister (controller : HoldingRegisterController T)
    (dataArray : Vector UInt8 n) : Checked Exception := do
  let address <- DataCommand.readAddressStart dataArray
  if !controller.writeLocationValid address.toNat 1 then
    return .kIllegalDataAddress
  return .kAck

def validateReadMultipleHoldingRegisters (controller : HoldingRegisterController T)
    (dataArray : Vector UInt8 n) : Checked Exception := do
  let address <- DataCommand.readAddressStart dataArray
  let registerCount <- ReadMultipleRegistersCommandBase.readRegisterCount dataArray
  if !controller.readLocationValid address.toNat registerCount.toNat then
    return .kIllegalDataAddress
  return .kAck

def validateWriteMultipleHoldingRegisters (controller : HoldingRegisterController T)
    (dataArray : Vector UInt8 n) : Checked Exception := do
  let registerCount <- WriteMultipleHoldingRegistersCommand.readRegisterCount dataArray
  let numDataBytes <- WriteMultipleHoldingRegistersCommand.readDataByteCount dataArray
  let address <- DataCommand.readAddressStart dataArray
  if !controller.writeLocationValid address.toNat registerCount.toNat then
    return .kIllegalDataAddress
  else if registerCount.toNat * 2 ≠ numDataBytes then
    return .kIllegalDataValue
  return .kAck

/-- Any other function fails an assertion and is acknowledged. -/
def validateFrame (controller : HoldingRegisterController T) (frame : Frame n) :
    Checked Exception :=
  if frame.function = .kReadMultipleHoldingRegisters then
    controller.validateReadMultipleHoldingRegisters frame.dataArray
  else if frame.function = .kWriteSingleHoldingRegister then
    controller.validateWriteSingleHoldingRegister frame.dataArray
  else if frame.function = .kWriteMultipleHoldingRegisters then
    controller.validateWriteMultipleHoldingRegisters frame.dataArray
  else .ok .kAck

def readRegisters (controller : HoldingRegisterController T)
    (startingAddress registerCount : UInt16) (responseData : Window UInt8 m) :
    Checked (Window UInt8 m) :=
  if !controller.readLocationValid startingAddress.toNat registerCount.toNat then
    .ok responseData
  else RegisterData.getRegisters controller.registerData startingAddress.toNat
    registerCount.toNat responseData

/-- The reply length is first set to a packet size computed in eight bits and
then replaced by the header; the window takes what the header left. -/
def runReadMultipleHoldingRegisters (controller : HoldingRegisterController T) (frame : Frame n)
    (response : Response) : Checked (Int × Response) := do
  let address <- DataCommand.readAddressStart frame.dataArray
  let registerCount <- ReadMultipleRegistersCommandBase.readRegisterCount frame.dataArray
  let kDataBytes := UInt8.ofNat (2 * registerCount.toNat)
  let kPacketSize := kDataBytes.toNat +
    ReadMultipleRegistersCommandBase.ResponsePacket.kHeaderSize + Command.kFooterLength
  let response := response.setLength (min response.size kPacketSize)
  let response := ReadMultipleHoldingRegistersCommand.fillResponseHeader frame.address
    registerCount.toNat response
  let responseData <- controller.readRegisters address registerCount
    { cells := response.data
      start := ReadMultipleRegistersCommandBase.ResponsePacket.kHeaderSize
      size := response.getLength - ReadMultipleRegistersCommandBase.ResponsePacket.kHeaderSize }
  return (0, { response with data := responseData.cells })

end Validation

section Writing

variable [RegisterCallbacks T]

def writeRegister (controller : HoldingRegisterController T) (address value : UInt16) :
    Checked (HoldingRegisterController T) := do
  let registerData <- RegisterData.setRegister controller.registerData address.toNat value
  return ⟨registerData⟩

def runWriteSingleHoldingRegister (controller : HoldingRegisterController T) (frame : Frame n)
    (response : Response) : Checked (Int × HoldingRegisterController T × Response) := do
  let address <- DataCommand.readAddressStart frame.dataArray
  let registerSetting <- WriteSingleHoldingRegisterCommand.readSetting frame.dataArray
  let controller <- controller.writeRegister address registerSetting
  let registerData <- RegisterCallbacks.setRegisterCallback controller.registerData
    address.toNat registerSetting
  let response := WriteSingleHoldingRegisterCommand.fillResponseHeader frame.address address
    registerSetting response
  return (0, ⟨registerData⟩, response)

def runWriteMultipleHoldingRegisters (controller : HoldingRegisterController T) (frame : Frame n)
    (response : Response) : Checked (Int × HoldingRegisterController T × Response) := do
  let address <- DataCommand.readAddressStart frame.dataArray
  let registerCount <- WriteMultipleHoldingRegistersCommand.readRegisterCount frame.dataArray
  let response := WriteMultipleHoldingRegistersCommand.fillResponseHeader frame.address address
    registerCount.toNat response
  let dataView <- readView frame.dataArray
    WriteMultipleHoldingRegistersCommand.CommandPacket.kValueStart (registerCount.toNat * 2)
  let registerData <- RegisterData.setRegisters controller.registerData address.toNat
    registerCount.toNat dataView
  let registerData <- RegisterCallbacks.setRegistersCallback registerData address.toNat
    registerCount.toNat dataView
  return (0, ⟨registerData⟩, response)

def readFrame (controller : HoldingRegisterController T) (frame : Frame n)
    (response : Response) : Checked (Int × HoldingRegisterController T × Response) :=
  if frame.function = .kWriteSingleHoldingRegister then
    controller.runWriteSingleHoldingRegister frame response
  else if frame.function = .kReadMultipleHoldingRegisters then do
    let (code, response) <- controller.runReadMultipleHoldingRegisters frame response
    return (code, controller, response)
  else if frame.function = .kWriteMultipleHoldingRegisters then
    controller.runWriteMultipleHoldingRegisters frame response
  else .ok (-1, controller, response)

end Writing

end HoldingRegisterController

namespace InputRegisterController

variable [RegisterData T]

def readLocationValid (controller : InputRegisterController T) (address count : Nat) : Bool :=
  RegisterData.readLocationValid controller.registerData address count

def readRegister (controller : InputRegisterController T) (address : UInt16) : Checked UInt16 :=
  RegisterData.getRegister controller.registerData address.toNat

def writeRegister (controller : InputRegisterController T) (address value : UInt16) :
    Checked (InputRegisterController T) := do
  let registerData <- RegisterData.setRegister controller.registerData address.toNat value
  return ⟨registerData⟩

def validateReadRegisters (controller : InputRegisterController T) (dataArray : Vector UInt8 n) :
    Checked Exception := do
  let address <- DataCommand.readAddressStart dataArray
  let registerCount <- ReadMultipleRegistersCommandBase.readRegisterCount dataArray
  if !controller.readLocationValid address.toNat registerCount.toNat then
    return .kIllegalDataAddress
  return .kAck

def validateFrame (controller : InputRegisterController T) (frame : Frame n) :
    Checked Exception :=
  if frame.function = .kReadInputRegisters then
    controller.validateReadRegisters frame.dataArray
  else .ok .kIllegalFunction

def readRegisters (controller : InputRegisterController T)
    (startingAddress registerCount : UInt16) (responseData : Window UInt8 m) :
    Checked (Window UInt8 m) :=
  if !controller.readLocationValid startingAddress.toNat registerCount.toNat then
    .ok responseData
  else RegisterData.getRegisters controller.registerData startingAddress.toNat
    registerCount.toNat responseData

/-- Unlike the holding register handler this one fills the window before the
header, so the window still has room for the two checksum bytes. -/
def runReadInputRegisters (controller : InputRegisterController T) (frame : Frame n)
    (response : Response) : Checked (Int × Response) := do
  let registerCount <- ReadMultipleRegistersCommandBase.readRegisterCount frame.dataArray
  let kDataBytes := UInt8.ofNat (2 * registerCount.toNat)
  let kPacketSize := kDataBytes.toNat +
    ReadMultipleRegistersCommandBase.ResponsePacket.kHeaderSize + Command.kFooterLength
  let response := response.setLength (min response.size kPacketSize)
  let address <- DataCommand.readAddressStart frame.dataArray
  let responseData <- controller.readRegisters address registerCount
    { cells := response.data
      start := ReadMultipleRegistersCommandBase.ResponsePacket.kHeaderSize
      size := response.getLength - ReadMultipleRegistersCommandBase.ResponsePacket.kHeaderSize }
  let response := { response with data := responseData.cells }
  let response := ReadInputRegistersCommand.fillResponseHeader frame.address
    registerCount.toNat response
  return (0, response)

def readFrame (controller : InputRegisterController T) (frame : Frame n) (response : Response) :
    Checked (Int × Response) :=
  if frame.function ≠ .kReadInputRegisters then .ok (-1, response)
  else controller.runReadInputRegisters frame response

end InputRegisterController

end Modbus
