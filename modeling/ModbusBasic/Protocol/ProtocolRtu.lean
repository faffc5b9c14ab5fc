import Mathlib.Logic.Function.Iterate
import ModbusBasic.Memory.SizeT
import ModbusBasic.Protocol.Commands

namespace Modbus

open Memory TypeConversion

/-!
# Framing and the checksum

`ProtocolRtu` of `ModbusRtuProtocol.h`.  The checksum function is the function
pointer the protocol is built with.  It receives a view and a number of bytes
and, like every implementation in use, looks at no byte of the view behind
that number (`DependsOnPrefix`).
-/

/-- `uint16_t (*)(const ArrayView<uint8_t> &, std::size_t)`. -/
abbrev Crc16 := List UInt8 -> Nat -> UInt16

/-- The checksum of `length` bytes is a function of those bytes alone. -/
def Crc16.DependsOnPrefix (crc16 : Crc16) : Prop :=
  forall first second length, length ≤ first.length -> length ≤ second.length ->
    first.take length = second.take length -> crc16 first length = crc16 second length

/-- The checksum of the standard over the first `length` bytes, with the byte
that travels first as the most significant one. -/
def Crc16.modbus : Crc16 := fun bytes length =>
  let shift := fun crc : UInt16 => if crc &&& 1 = 1 then (crc >>> 1) ^^^ 0xA001 else crc >>> 1
  let crc := (bytes.take length).foldl
    (fun crc byte => shift^[8] (crc ^^^ byte.toUInt16)) 0xFFFF
  (crc <<< 8) ||| (crc >>> 8)

theorem Crc16.modbus_dependsOnPrefix : Crc16.modbus.DependsOnPrefix := by
  intro first second length _ _ same
  unfold Crc16.modbus
  rw [same]

def getRequiredPacketSize {n : Nat} (packet : Frame n) : Nat :=
  Command.kHeaderLength + packet.dataLength + Command.kFooterLength

namespace ProtocolRtu

variable [TypeConversion] {n m : Nat}

def kHeaderLength : Nat := Command.kHeaderLength
def kFooterLength : Nat := Command.kFooterLength
def kAddressLocation : Nat := Command.kSlaveAddress
def kFunctionLocation : Nat := Command.kFunction

/-- `FrameCrcIsValid(const ArrayView<uint8_t> &)`. -/
def frameCrcIsValidView (crc16 : Crc16) (frameBuffer : List UInt8) : Checked Bool := do
  let footer := SizeT.sub frameBuffer.length 2
  let high <- loadView frameBuffer footer
  let low <- loadView frameBuffer (footer + 1)
  let frameCrc := makeMSBUint16FromU8Array high low
  let calculatedCrc := crc16 frameBuffer (frameBuffer.length - kFooterLength)
  if frameCrc ≠ calculatedCrc then return false
  return true

/-- `FrameCrcIsValid(const Modbus::Frame &)`: the frame is laid out again in a
scratch array of 256 bytes before its checksum is taken. -/
def frameCrcIsValid (crc16 : Crc16) (frame : Frame n) : Checked Bool := do
  let data : Vector UInt8 256 := Vector.replicate 256 0
  let data <- store data kAddressLocation frame.address
  let data <- store data kFunctionLocation frame.function.code
  let data <- forRange (fun index data => do
    let byte <- load frame.dataArray index
    store data (index + kHeaderLength) byte) (min frame.dataLength 256) data
  let frameBuffer <- readView data 0 (frame.dataLength + 2)
  frameCrcIsValidView crc16 frameBuffer

/-- `Frame(packet, frame_buffer)`. -/
def frame (crc16 : Crc16) (packet : Frame n) (frameBuffer : Vector UInt8 m) :
    Checked (Vector UInt8 m) := do
  let frameBuffer <- store frameBuffer kAddressLocation packet.address
  let frameBuffer <- store frameBuffer kFunctionLocation packet.function.code
  let frameBuffer <- forRange (fun index frameBuffer => do
    let byte <- load packet.dataArray index
    store frameBuffer (index + kHeaderLength) byte) packet.dataLength frameBuffer
  let crc := crc16 frameBuffer.toList (packet.dataLength + kHeaderLength)
  let crcStart := getRequiredPacketSize packet - 2
  let frameBuffer <- store frameBuffer crcStart (getByte crc.toNat 1)
  store frameBuffer (crcStart + 1) (getByte crc.toNat 0)

def frameResponse (crc16 : Crc16) (packet : Frame n) (response : Response) :
    Checked Response := do
  let response := response.set Command.kSlaveAddress packet.address
  let response := response.set Command.kFunction packet.function.code
  let view <- response.getArrayView
  let crc := crc16 view response.getLength
  let response := response.setLength (response.getLength + 2)
  let crcStart := response.getLength - 2
  let response := response.set crcStart (getByte crc.toNat 1)
  return response.set (crcStart + 1) (getByte crc.toNat 0)

/-- `ReadFrame(frame_buffer, packet)`. -/
def readFrame (frameBuffer : List UInt8) (packet : Frame n) : Checked (Frame n) := do
  let dataLength := SizeT.sub frameBuffer.length (kHeaderLength + kFooterLength)
  let frameFunction <- loadView frameBuffer kFunctionLocation
  let address <- loadView frameBuffer kAddressLocation
  let dataArray <- forRange (fun index dataArray => do
    let byte <- loadView frameBuffer (index + kHeaderLength)
    store dataArray index byte) dataLength packet.dataArray
  return { address := address, function := ⟨frameFunction⟩, dataLength := dataLength,
           dataArray := dataArray }

end ProtocolRtu

end Modbus
