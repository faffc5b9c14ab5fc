import ModbusBasic.Protocol.TypeConversion
import ModbusBasic.Protocol.Definitions

namespace Modbus

open Memory TypeConversion

/-!
# Layout of the register commands

The command classes of `DataCommand.h` and `RegisterControl.h`: where each
request keeps its fields behind the function byte, and how the head of each
reply is filled in.  All offsets of requests count from the first byte of
`data_array`, all offsets of replies from the address byte.
-/

variable [TypeConversion] {n : Nat}

/-- The 16-bit value at `data_array[start]`, most significant byte first. -/
def readUInt16 (dataArray : Vector UInt8 n) (start : Nat) : Checked UInt16 := do
  let high <- load dataArray start
  let low <- load dataArray (start + 1)
  return makeMSBUint16FromU8Array high low

theorem readUInt16_ok (dataArray : Vector UInt8 n) {start : Nat} {high low : UInt8}
    (first : dataArray.toList[start]? = some high)
    (second : dataArray.toList[start + 1]? = some low) :
    readUInt16 dataArray start = .ok (makeMSBUint16FromU8Array high low) := by
  rw [readUInt16, load_eq_ok.mpr first, ok_bind, load_eq_ok.mpr second, ok_bind, pure_eq_ok]

namespace DataCommand

def CommandPacket.kDataAddressStart : Nat := 0
def CommandPacket.kDataAddressEnd : Nat := CommandPacket.kDataAddressStart + 2 - 1

def readAddressStart (dataArray : Vector UInt8 n) : Checked UInt16 :=
  readUInt16 dataArray CommandPacket.kDataAddressStart

end DataCommand

namespace WriteSingleHoldingRegisterCommand

def kFunction : Function := .kWriteSingleHoldingRegister
def CommandPacket.kValueStart : Nat := DataCommand.CommandPacket.kDataAddressEnd + 1
def CommandPacket.kPacketSize : Nat := CommandPacket.kValueStart + 2
def ResponsePacket.kDataAddress : Nat := Command.kHeaderEnd + 1
def ResponsePacket.kValueStart : Nat := ResponsePacket.kDataAddress + 2
def ResponsePacket.kPacketSize : Nat := ResponsePacket.kValueStart + 2

def readSetting (dataArray : Vector UInt8 n) : Checked UInt16 :=
  readUInt16 dataArray CommandPacket.kValueStart

def readResponseSetting (dataArray : Vector UInt8 n) : Checked UInt16 :=
  readUInt16 dataArray ResponsePacket.kValueStart

def readResponseAddressStart (dataArray : Vector UInt8 n) : Checked UInt16 :=
  readUInt16 dataArray ResponsePacket.kDataAddress

def fillResponseHeader (slaveAddress : UInt8) (address value : UInt16) (response : Response) :
    Response :=
  let response := response.set Command.kSlaveAddress slaveAddress
  let response := response.set Command.kFunction kFunction.code
  let response := response.set ResponsePacket.kDataAddress (getByte address.toNat 1)
  let response := response.set (ResponsePacket.kDataAddress + 1) (getByte address.toNat 0)
  let response := response.set ResponsePacket.kValueStart (getByte value.toNat 1)
  let response := response.set (ResponsePacket.kValueStart + 1) (getByte value.toNat 0)
  response.setLength ResponsePacket.kPacketSize

def fillFrame (address value : UInt16) (frame : Frame n) : Checked (Int × Frame n) := do
  let frameSize := CommandPacket.kPacketSize
  let dataArray <- store frame.dataArray DataCommand.CommandPacket.kDataAddressStart
    (getByte address.toNat 1)
  let dataArray <- store dataArray (DataCommand.CommandPacket.kDataAddressStart + 1)
    (getByte address.toNat 0)
  let dataArray <- store dataArray CommandPacket.kValueStart (getByte value.toNat 1)
  let dataArray <- store dataArray (CommandPacket.kValueStart + 1) (getByte value.toNat 0)
  return (0, { frame with function := kFunction, dataLength := frameSize, dataArray := dataArray })

end WriteSingleHoldingRegisterCommand

namespace ReadMultipleRegistersCommandBase

def CommandPacket.kRegisterCount : Nat := DataCommand.CommandPacket.kDataAddressEnd + 1
def CommandPacket.kPacketSize : Nat := CommandPacket.kRegisterCount + 2
def ResponsePacket.kNumberOfBytes : Nat := Command.kHeaderEnd + 1
def ResponsePacket.kHeaderSize : Nat := ResponsePacket.kNumberOfBytes + 1

def readRegisterCount (dataArray : Vector UInt8 n) : Checked UInt16 :=
  readUInt16 dataArray CommandPacket.kRegisterCount

def readResponseByteCount (dataArray : Vector UInt8 n) : Checked UInt8 :=
  load dataArray ResponsePacket.kNumberOfBytes

def fillResponseHeaderBase (slaveAddress : UInt8) (registerCount : Nat) (response : Response)
    (function : Function) : Response :=
  let response := response.set Command.kSlaveAddress slaveAddress
  let response := response.set Command.kFunction function.code
  let numberOfDataBytes := registerCount * 2
  let response := response.set ResponsePacket.kNumberOfBytes (UInt8.ofNat numberOfDataBytes)
  response.setLength (ResponsePacket.kHeaderSize + numberOfDataBytes)

def fillFrameBase (address value : UInt16) (frame : Frame n) (function : Function) :
    Checked (Int × Frame n) := do
  let dataArray <- store frame.dataArray DataCommand.CommandPacket.kDataAddressStart
    (getByte address.toNat 1)
  let dataArray <- store dataArray (DataCommand.CommandPacket.kDataAddressStart + 1)
    (getByte address.toNat 0)
  let dataArray <- store dataArray CommandPacket.kRegisterCount (getByte value.toNat 1)
  let dataArray <- store dataArray (CommandPacket.kRegisterCount + 1) (getByte value.toNat 0)
  return (0, { frame with
    function := function, dataLength := CommandPacket.kPacketSize, dataArray := dataArray })

end ReadMultipleRegistersCommandBase

namespace ReadMultipleHoldingRegistersCommand

def kFunction : Function := .kReadMultipleHoldingRegisters

def fillFrame (address value : UInt16) (frame : Frame n) : Checked (Int × Frame n) :=
  ReadMultipleRegistersCommandBase.fillFrameBase address value frame kFunction

def fillResponseHeader (slaveAddress : UInt8) (registerCount : Nat) (response : Response) :
    Response :=
  ReadMultipleRegistersCommandBase.fillResponseHeaderBase slaveAddress registerCount response
    kFunction

end ReadMultipleHoldingRegistersCommand

namespace ReadInputRegistersCommand

def kFunction : Function := .kReadInputRegisters

def fillFrame (address value : UInt16) (frame : Frame n) : Checked (Int × Frame n) :=
  ReadMultipleRegistersCommandBase.fillFrameBase address value frame kFunction

def fillResponseHeader (slaveAddress : UInt8) (registerCount : Nat) (response : Response) :
    Response :=
  ReadMultipleRegistersCommandBase.fillResponseHeaderBase slaveAddress registerCount response
    kFunction

end ReadInputRegistersCommand

namespace WriteMultipleHoldingRegistersCommand

def kFunction : Function := .kWriteMultipleHoldingRegisters
def CommandPacket.kRegisterCount : Nat := DataCommand.CommandPacket.kDataAddressEnd + 1
def CommandPacket.kNumberOfDataBytes : Nat := CommandPacket.kRegisterCount + 2
def CommandPacket.kValueStart : Nat := CommandPacket.kNumberOfDataBytes + 1
def CommandPacket.kHeaderSize : Nat := CommandPacket.kValueStart
def ResponsePacket.kDataAddress : Nat := Command.kHeaderEnd + 1
def ResponsePacket.kRegisterCount : Nat := ResponsePacket.kDataAddress + 2
def ResponsePacket.kPacketSize : Nat := ResponsePacket.kRegisterCount + 2

def readRegisterCount (dataArray : Vector UInt8 n) : Checked UInt16 :=
  readUInt16 dataArray CommandPacket.kRegisterCount

def readDataByteCount (dataArray : Vector UInt8 n) : Checked Nat := do
  let count <- load dataArray CommandPacket.kNumberOfDataBytes
  return count.toNat

def readResponseRegisterCount (dataArray : Vector UInt8 n) : Checked UInt16 :=
  readUInt16 dataArray ResponsePacket.kRegisterCount

def readResponseAddressStart (dataArray : Vector UInt8 n) : Checked UInt16 :=
  readUInt16 dataArray ResponsePacket.kDataAddress

def fillResponseHeader (slaveAddress : UInt8) (startingAddress : UInt16) (registerCount : Nat)
    (response : Response) : Response :=
  let response := response.set Command.kSlaveAddress slaveAddress
  let response := response.set Command.kFunction kFunction.code
  let response := response.set ResponsePacket.kDataAddress (getByte startingAddress.toNat 1)
  let response := response.set (ResponsePacket.kDataAddress + 1)
    (getByte startingAddress.toNat 0)
  let response := response.set ResponsePacket.kRegisterCount (getByte registerCount 1)
  let response := response.set (ResponsePacket.kRegisterCount + 1) (getByte registerCount 0)
  response.setLength ResponsePacket.kPacketSize

/-- One round of the copying loop, with its running index. -/
def fillValue (cursor : Nat × Vector UInt8 n) (pt : UInt16) : Checked (Nat × Vector UInt8 n) := do
  let dataArray <- store cursor.2 cursor.1 (getByte pt.toNat 1)
  let dataArray <- store dataArray (cursor.1 + 1) (getByte pt.toNat 0)
  return (cursor.1 + 2, dataArray)

/-- The number of data bytes is narrowed to eight bits before the frame size is
computed from it, while the loop runs over all of `data`. -/
def fillFrame (startingAddress registerCount : UInt16) (data : List UInt16) (frame : Frame n) :
    Checked (Int × Frame n) := do
  let numberOfDataBytes := UInt8.ofNat (data.length * 2)
  let frameSize := CommandPacket.kHeaderSize + numberOfDataBytes.toNat
  let dataArray <- store frame.dataArray DataCommand.CommandPacket.kDataAddressStart
    (getByte startingAddress.toNat 1)
  let dataArray <- store dataArray (DataCommand.CommandPacket.kDataAddressStart + 1)
    (getByte startingAddress.toNat 0)
  let dataArray <- store dataArray CommandPacket.kRegisterCount (getByte registerCount.toNat 1)
  let dataArray <- store dataArray (CommandPacket.kRegisterCount + 1)
    (getByte registerCount.toNat 0)
  let dataArray <- store dataArray CommandPacket.kNumberOfDataBytes numberOfDataBytes
  let cursor <- data.foldlM fillValue (CommandPacket.kValueStart, dataArray)
  return (0, { frame with function := kFunction, dataLength := frameSize, dataArray := cursor.2 })

end WriteMultipleHoldingRegistersCommand

end Modbus
