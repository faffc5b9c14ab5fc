import ModbusBasic.Protocol.Commands

namespace Modbus

open Memory

/-!
# The byte-by-byte frame reader

`ReadContext` and its two length tables from `ModbusRtuProtocol.h`.  The
context counts down the bytes still to come; the bytes themselves go into the
frame, whose length the reader never resets.
-/

variable {n : Nat}

def calculateMetaDataBytesRemaining (function : Function) : Int :=
  if function = .kReadMultipleHoldingRegisters then
    ReadMultipleRegistersCommandBase.CommandPacket.kPacketSize
  else if function = .kReadInputRegisters then
    ReadMultipleRegistersCommandBase.CommandPacket.kPacketSize
  else if function = .kWriteSingleHoldingRegister then
    WriteSingleHoldingRegisterCommand.CommandPacket.kValueStart
  else if function = .kWriteMultipleHoldingRegisters then
    WriteMultipleHoldingRegistersCommand.CommandPacket.kValueStart
  else 0

def calculateBytesRemaining (frame : Frame n) : Checked Int :=
  if frame.function = .kReadMultipleHoldingRegisters then .ok 0
  else if frame.function = .kReadInputRegisters then .ok 0
  else if frame.function = .kWriteSingleHoldingRegister then .ok 2
  else if frame.function = .kWriteMultipleHoldingRegisters then do
    let count <- load frame.dataArray
      WriteMultipleHoldingRegistersCommand.CommandPacket.kNumberOfDataBytes
    return count.toNat
  else .ok 0

structure ReadContext where
  state : PacketState := .kAddress
  bytesToRead : Int := Command.kHeaderLength + 1
deriving DecidableEq

namespace ReadContext

def getState (context : ReadContext) : PacketState := context.state

def reset (_context : ReadContext) : ReadContext :=
  { bytesToRead := Command.kHeaderLength + 1, state := .kAddress }

def packetReceived (context : ReadContext) : Bool := context.state == .kDone

def processCharacter (context : ReadContext) (frame : Frame n) (pt : UInt8) :
    Checked (ReadContext × Frame n) :=
  let context := { context with bytesToRead := context.bytesToRead - 1 }
  match context.state with
  | .kAddress => .ok ({ context with state := .kFunction }, { frame with address := pt })
  | .kFunction =>
      if functionCodeIsValid pt then
        let frame := { frame with function := getFunction pt }
        .ok ({ state := .kMeta, bytesToRead := calculateMetaDataBytesRemaining frame.function },
          frame)
      else .ok (context.reset, frame)
  | .kMeta => do
      let frame <- frame.append pt
      if context.bytesToRead ≤ 0 then
        let remaining <- calculateBytesRemaining frame
        let bytesToRead := remaining + Command.kFooterLength
        let state := if bytesToRead = 0 then PacketState.kDone else PacketState.kData
        return ({ state := state, bytesToRead := bytesToRead }, frame)
      else return (context, frame)
  | .kData => do
      let frame <- frame.append pt
      if context.bytesToRead ≤ 0 then return ({ context with state := .kDone }, frame)
      else return (context, frame)
  -- `assert(0)` has no effect here, and the frame keeps its old length.
  | .kDone => .ok (context.reset, frame)

end ReadContext

end Modbus
