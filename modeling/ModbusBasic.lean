import ModbusBasic.Memory.Checked
import ModbusBasic.Memory.Cells
import ModbusBasic.Memory.SizeT
import ModbusBasic.Memory.Extents
import ModbusBasic.Transition.Runs
import ModbusBasic.Transition.LastWrite
import ModbusBasic.Transition.Composition
import ModbusBasic.Protocol.Definitions
import ModbusBasic.Protocol.TypeConversion
import ModbusBasic.Protocol.Commands
import ModbusBasic.Protocol.ReadContext
import ModbusBasic.Protocol.ProtocolRtu
import ModbusBasic.Protocol.Framing
import ModbusBasic.Protocol.ResponseFrames
import ModbusBasic.Reader.Progress
import ModbusBasic.Reader.Simulation
import ModbusBasic.Reader.Decoding
import ModbusBasic.Reader.Completed
import ModbusBasic.Registers.RegisterDataStore
import ModbusBasic.Registers.RegisterControl
import ModbusBasic.Registers.RegisterFile
import ModbusBasic.Registers.StoreAccess
import ModbusBasic.Registers.WriteHistory
import ModbusBasic.Registers.AddressRange
import ModbusBasic.Registers.RequestHandling
import ModbusBasic.Registers.RequestEncoding
import ModbusBasic.Registers.Execution
import ModbusBasic.Registers.DirtyFlags
import ModbusBasic.Registers.MappedRegisterDataStore
import ModbusBasic.Registers.MappedValidation
import ModbusBasic.Registers.MappedReading
import ModbusBasic.Registers.MappedFields
import ModbusBasic.Registers.Calls
import ModbusBasic.Blocks.ByteFieldController
import ModbusBasic.Blocks.BlockLookup
import ModbusBasic.Blocks.AccessValid
import ModbusBasic.Blocks.RegisterController
import ModbusBasic.Blocks.Transfer
import ModbusBasic.Blocks.RegisterArray
import ModbusBasic.Blocks.RegisterWrites
import ModbusBasic.Blocks.BlockAccess
import ModbusBasic.Blocks.Accessor
import ModbusBasic.Slave.ProtocolRtuSlave
import ModbusBasic.Slave.InStep
import ModbusBasic.Slave.Processing
import ModbusBasic.Slave.Driver
import ModbusBasic.Slave.Session
import ModbusBasic.Slave.Replies
import ModbusBasic.Slave.Capacity
import ModbusBasic.Slave.Traffic
import ModbusBasic.Slave.Unsupported
import ModbusBasic.Slave.Independence
import ModbusBasic.Slave.PendingReply
import ModbusBasic.Slave.Station
import ModbusBasic.Slave.Device
import ModbusBasic.Slave.History
import ModbusBasic.Slave.Overruns
import ModbusBasic.Slave.LineRequests
import ModbusBasic.Slave.SharedLine
import ModbusBasic.Slave.TwoWire
import ModbusBasic.Slave.Exchange
import ModbusBasic.Slave.Retries
import ModbusBasic.Slave.LossyLine
import ModbusBasic.Slave.Pieces
import ModbusBasic.Slave.Network
import ModbusBasic.Slave.LinuxSlave
import ModbusBasic.Slave.MappedInput
