import ModbusBasic.Memory.Cells

namespace Modbus

open Memory

/-!
# Function codes, frames and responses

The shared definitions of `Modbus.h`.  A `Function` is any byte, because
`static_cast<Modbus::Function>` makes one of any byte and both the codec and
the error replies rely on it; the enumerators are constants of that type.

An `ArrayView` over `n` bytes of owned storage is a `Vector` of them.  The
build is the one with `NDEBUG`: `assert` has no effect, so a failed assertion
shows only in what the code does next.
-/

/-! ## Enumerations -/

/-- `enum class Function : uint8_t`. -/
structure Function where
  code : UInt8
deriving DecidableEq, Repr

namespace Function

@[match_pattern] def kReadCoils : Function := ⟨1⟩
@[match_pattern] def kReadDiscreteInputs : Function := ⟨2⟩
@[match_pattern] def kReadMultipleHoldingRegisters : Function := ⟨3⟩
@[match_pattern] def kReadInputRegisters : Function := ⟨4⟩
@[match_pattern] def kWriteSingleCoil : Function := ⟨5⟩
@[match_pattern] def kWriteSingleHoldingRegister : Function := ⟨6⟩
@[match_pattern] def kReadExceptionStatus : Function := ⟨7⟩
@[match_pattern] def kDiagnostic : Function := ⟨8⟩
@[match_pattern] def kGetComEventCounter : Function := ⟨11⟩
@[match_pattern] def kGetComEventLog : Function := ⟨12⟩
@[match_pattern] def kWriteMultipleCoils : Function := ⟨15⟩
@[match_pattern] def kWriteMultipleHoldingRegisters : Function := ⟨16⟩
@[match_pattern] def kReportSlaveId : Function := ⟨17⟩
@[match_pattern] def kReadFileRecord : Function := ⟨20⟩
@[match_pattern] def kWriteFileRecord : Function := ⟨21⟩
@[match_pattern] def kMaskWriteRegister : Function := ⟨22⟩
@[match_pattern] def kReadWriteMultipleRegisters : Function := ⟨23⟩
@[match_pattern] def kReadFifoQueue : Function := ⟨24⟩
@[match_pattern] def kReadDeviceIdentification : Function := ⟨43⟩
@[match_pattern] def kNone : Function := ⟨0xff⟩

end Function

/-- `enum class Exception : uint8_t`. -/
inductive Exception
  | kNoException
  | kIllegalFunction
  | kIllegalDataAddress
  | kIllegalDataValue
  | kSlaveDeviceFailure
  | kAck
  | kSlaveDeviceBusy
  | kNak
  | kMemoryParityError
  | kGatewayPathUnavailable
  | kGatewayPathDeviceNoResponse
  | kCrcFailure
deriving DecidableEq, Repr

/-- `static_cast<uint8_t>(exception)`. -/
def Exception.code : Exception -> UInt8
  | kNoException => 0
  | kIllegalFunction => 1
  | kIllegalDataAddress => 2
  | kIllegalDataValue => 3
  | kSlaveDeviceFailure => 4
  | kAck => 5
  | kSlaveDeviceBusy => 6
  | kNak => 7
  | kMemoryParityError => 8
  | kGatewayPathUnavailable => 9
  | kGatewayPathDeviceNoResponse => 10
  | kCrcFailure => 11

inductive AddressSpace
  | kCoil
  | kDiscreteInput
  | kInputRegister
  | kHoldingRegister
  | kSystemStatus
  | kDeviceIdentifier
  | kUnmapped
deriving DecidableEq, Repr

inductive PacketState
  | kAddress
  | kFunction
  | kMeta
  | kData
  | kDone
deriving DecidableEq, Repr

/-! ## Classification of function codes -/

def kStatusResponseAddValue : UInt8 := 0x80

def getErrorFunction (function : Function) : Function :=
  if function.code ≥ kStatusResponseAddValue then function
  else ⟨function.code + kStatusResponseAddValue⟩

def getValidFunctions : List Function :=
  [.kReadCoils, .kReadDiscreteInputs, .kReadMultipleHoldingRegisters, .kReadInputRegisters,
    .kWriteSingleCoil, .kWriteSingleHoldingRegister, .kReadExceptionStatus, .kDiagnostic,
    .kGetComEventCounter, .kGetComEventLog, .kWriteMultipleCoils,
    .kWriteMultipleHoldingRegisters, .kReportSlaveId, .kReadFileRecord, .kWriteFileRecord,
    .kMaskWriteRegister, .kReadWriteMultipleRegisters, .kReadFifoQueue,
    .kReadDeviceIdentification]

def getSupportedFunctions : List Function :=
  [.kReadMultipleHoldingRegisters, .kReadInputRegisters, .kWriteSingleHoldingRegister,
    .kWriteMultipleHoldingRegisters]

/-- The `default` branch asserts and then returns `kUnmapped`. -/
def getAddressSpaceFromFunction (function : Function) : AddressSpace :=
  match function with
  | .kReadCoils => .kCoil
  | .kWriteSingleCoil => .kCoil
  | .kWriteMultipleCoils => .kCoil
  | .kReadDiscreteInputs => .kDiscreteInput
  | .kReadInputRegisters => .kInputRegister
  | .kReadMultipleHoldingRegisters => .kHoldingRegister
  | .kWriteSingleHoldingRegister => .kHoldingRegister
  | .kWriteMultipleHoldingRegisters => .kHoldingRegister
  | .kReadWriteMultipleRegisters => .kHoldingRegister
  | .kMaskWriteRegister => .kHoldingRegister
  | .kReadExceptionStatus => .kSystemStatus
  | .kDiagnostic => .kSystemStatus
  | .kGetComEventCounter => .kSystemStatus
  | .kGetComEventLog => .kSystemStatus
  | .kReportSlaveId => .kDeviceIdentifier
  | .kReadFileRecord => .kUnmapped
  | .kWriteFileRecord => .kUnmapped
  | .kReadFifoQueue => .kUnmapped
  | .kReadDeviceIdentification => .kDeviceIdentifier
  | .kNone => .kUnmapped
  | _ => .kUnmapped

def getFunction (code : UInt8) : Function :=
  match getValidFunctions.find? (fun valid => code == valid.code) with
  | some valid => valid
  | none => .kNone

def functionCodeIsValid (code : UInt8) : Bool :=
  if code > Function.kReadDeviceIdentification.code then false
  else getValidFunctions.any (fun valid => valid.code == code)

/-- The codes the reader accepts are those of the listed functions. -/
theorem functionCodeIsValid_iff (code : UInt8) :
    functionCodeIsValid code = true <-> ⟨code⟩ ∈ getValidFunctions := by
  unfold functionCodeIsValid
  constructor
  · intro valid
    split at valid
    · cases valid
    · rcases List.any_eq_true.mp valid with ⟨listed, member, same⟩
      rw [← beq_iff_eq.mp same]
      exact member
  · intro member
    have small : forall listed, listed ∈ getValidFunctions ->
        ¬ listed.code > Function.kReadDeviceIdentification.code := by decide
    rw [if_neg (small _ member)]
    exact List.any_eq_true.mpr ⟨_, member, beq_iff_eq.mpr rfl⟩

/-- A valid code is decoded to the function with that code. -/
theorem getFunction_valid {code : UInt8} (valid : functionCodeIsValid code = true) :
    getFunction code = ⟨code⟩ := by
  have member := (functionCodeIsValid_iff code).mp valid
  unfold getFunction
  cases found : getValidFunctions.find? (fun listed => code == listed.code) with
  | none =>
      have differs := List.find?_eq_none.mp found _ member
      exact absurd (beq_iff_eq.mpr rfl) differs
  | some listed =>
      have matched := List.find?_some found
      simp only [beq_iff_eq] at matched
      rw [matched]

/-! ## Frames -/

namespace Command

def kHeaderLength : Nat := 2
def kFooterLength : Nat := 2
def kSlaveAddress : Nat := 0
def kFunction : Nat := 1
def kHeaderEnd : Nat := kFunction

end Command

/-- A frame over a view of `n` bytes. -/
structure Frame (n : Nat) where
  address : UInt8 := 0
  function : Function := .kNone
  dataLength : Nat := 0
  dataArray : Vector UInt8 n
deriving DecidableEq

namespace Frame

variable {n : Nat}

def reset (_frame : Frame n) : Frame n :=
  { address := 0, function := .kNone, dataLength := 0, dataArray := Vector.replicate n 0 }

/-- `data_array[data_length++] = pt`. -/
def append (frame : Frame n) (pt : UInt8) : Checked (Frame n) := do
  let dataArray <- store frame.dataArray frame.dataLength pt
  return { frame with dataArray := dataArray, dataLength := frame.dataLength + 1 }

theorem append_ok (frame : Frame n) (pt : UInt8) (room : frame.dataLength < n) :
    frame.append pt = .ok { frame with
      dataArray := frame.dataArray.set frame.dataLength pt,
      dataLength := frame.dataLength + 1 } := by
  simp [append, store_ok frame.dataArray pt room]

theorem append_dataLength {frame longer : Frame n} {pt : UInt8}
    (appended : frame.append pt = .ok longer) : longer.dataLength = frame.dataLength + 1 := by
  rcases bind_eq_ok.mp appended with ⟨dataArray, _, same⟩
  cases same
  rfl

end Frame

/-- The frame has this address and function, and its buffer starts with the
bytes of `body`, which its length counts. -/
structure Holds {n : Nat} (frame : Frame n) (address : UInt8) (function : Function)
    (body : List UInt8) : Prop where
  address_eq : frame.address = address
  function_eq : frame.function = function
  dataLength_eq : frame.dataLength = body.length
  dataArray_eq : frame.dataArray.toList.take body.length = body

namespace Holds

variable {n : Nat} {frame : Frame n} {address : UInt8} {function : Function} {body : List UInt8}

/-- A body that is held fits the buffer. -/
theorem length_le (holds : Holds frame address function body) : body.length ≤ n := by
  have taken := congrArg List.length holds.dataArray_eq
  rw [List.length_take, Vector.length_toList] at taken
  omega

theorem getElem? (holds : Holds frame address function body) {index : Nat}
    (inside : index < body.length) : frame.dataArray.toList[index]? = body[index]? := by
  conv => rhs; rw [← holds.dataArray_eq]
  rw [List.getElem?_take_of_lt inside]

/-- Appending one byte while there is room. -/
theorem append (holds : Holds frame address function body) (byte : UInt8)
    (room : body.length < n) :
    Exists fun next => frame.append byte = .ok next ∧
      Holds next address function (body ++ [byte]) := by
  have inside : frame.dataLength < n := holds.dataLength_eq ▸ room
  refine ⟨_, frame.append_ok byte inside, holds.address_eq, holds.function_eq, ?_, ?_⟩
  · change frame.dataLength + 1 = (body ++ [byte]).length
    rw [List.length_append, List.length_singleton, holds.dataLength_eq]
  · simp only [Vector.toList_set, holds.dataLength_eq]
    rw [List.length_append, List.length_singleton, List.take_succ_eq_append_getElem
      (by rw [List.length_set, Vector.length_toList]; exact room), List.take_set,
      List.getElem_set_self, holds.dataArray_eq, List.set_eq_of_length_le (Nat.le_refl _)]

end Holds

/-- A packet that holds a payload and nothing else. -/
def requestFrame (address : UInt8) (function : Function) (payload : List UInt8) :
    Frame payload.length :=
  { address := address, function := function, dataLength := payload.length,
    dataArray := ⟨payload.toArray, List.size_toArray⟩ }

theorem requestFrame_holds (address : UInt8) (function : Function) (payload : List UInt8) :
    Holds (requestFrame address function payload) address function payload :=
  ⟨rfl, rfl, rfl, List.take_length⟩

/-! ## Responses -/

/-- A reply under construction.  `touched` is a ghost: it lists the indices
handed to `operator[]` for writing since the last reset, in order. -/
structure Response where
  length : Nat := 0
  data : Vector UInt8 256 := Vector.replicate 256 0
  ready : Bool := false
  touched : List Nat := []
deriving DecidableEq

namespace Response

def getLength (response : Response) : Nat := response.length

def setLength (response : Response) (length : Nat) : Response :=
  { response with length := length }

/-- `kMaxFrameLength`, the size of the array. -/
def size (_response : Response) : Nat := 256

/-- The cell `operator[]` refers to: every index past the array names cell 0. -/
def cell (index : Nat) : Nat := if index < 256 then index else 0

theorem cell_lt (index : Nat) : cell index < 256 := by
  unfold cell
  split <;> omega

theorem cell_of_lt {index : Nat} (inside : index < 256) : cell index = index :=
  if_pos inside

/-- `response[index] = value`. -/
def set (response : Response) (index : Nat) (value : UInt8) : Response :=
  { response with
    data := response.data.set (cell index) value (cell_lt index)
    touched := response.touched ++ [index] }

/-- `GetArrayView`, handed to code that reads all of it. -/
def getArrayView (response : Response) : Checked (List UInt8) :=
  readView response.data 0 response.getLength

def reset (_response : Response) : Response :=
  { length := 0, data := Vector.replicate 256 0, ready := false, touched := [] }

end Response

end Modbus
