import ModbusBasic.Reader.Completed
import ModbusBasic.Slave.Session

namespace Modbus

open Memory TypeConversion

/-!
# Handlers use the bytes of the request only

The receive buffer is longer than a frame, and behind the payload it holds a
checksum and whatever earlier frames left.  The handlers read it at fixed
offsets, and for a multiple write as far as the register count tells; they never
look at the length of the frame.

Three facts together keep them inside the payload: a completed frame is as long
as its function and byte count tell (`Frame.Completed.long`), validation compares
the byte count with the register count, and every access lies below one of them.
-/

variable {n length : Nat} {first second : Frame n}

/-! ## Frames that agree -/

/-- The same header, and the same cells up to a length. -/
structure AgreeUpTo (length : Nat) (first second : Frame n) : Prop where
  address_eq : first.address = second.address
  function_eq : first.function = second.function
  cells_eq : first.dataArray.toList.take length = second.dataArray.toList.take length

namespace AgreeUpTo

theorem load (agree : AgreeUpTo length first second) {index : Nat} (inside : index < length) :
    load first.dataArray index = load second.dataArray index := by
  apply load_congr
  rw [← List.getElem?_take_of_lt inside, agree.cells_eq, List.getElem?_take_of_lt inside]

theorem readView (agree : AgreeUpTo length first second) {start size : Nat}
    (within : start + size ≤ length) :
    readView first.dataArray start size = readView second.dataArray start size :=
  readView_congr agree.cells_eq within

variable [TypeConversion]

theorem readUInt16 (agree : AgreeUpTo length first second) {start : Nat}
    (inside : start + 1 < length) :
    readUInt16 first.dataArray start = readUInt16 second.dataArray start := by
  rw [Modbus.readUInt16, agree.load (by omega), agree.load inside]
  rfl

theorem readAddressStart (agree : AgreeUpTo length first second) (long : 4 ≤ length) :
    DataCommand.readAddressStart first.dataArray = DataCommand.readAddressStart second.dataArray :=
  agree.readUInt16 (Nat.lt_of_lt_of_le (by decide) long)

/-- The second field: a register count, or the value of a single write. -/
theorem readSecond (agree : AgreeUpTo length first second) (long : 4 ≤ length) :
    Modbus.readUInt16 first.dataArray 2 = Modbus.readUInt16 second.dataArray 2 :=
  agree.readUInt16 (Nat.lt_of_lt_of_le (by decide) long)

end AgreeUpTo

/-- The fields of a request that have a fixed place lie in front of the length;
two more bytes are the checksum. -/
def FieldsWithin (function : Function) (length : Nat) : Prop :=
  expectedLength function [] ≤ length + 2

theorem expectedLength_nil_le (function : Function) (body : List UInt8) :
    expectedLength function [] ≤ expectedLength function body := by
  rcases function_cases function with rfl | rfl | rfl | rfl | other
  · exact Nat.le_refl 6
  · exact Nat.le_refl 6
  · exact Nat.le_refl 6
  · exact Nat.le_add_right 7 _
  · exact Nat.le_of_eq
      ((expectedLength_other other []).trans (expectedLength_other other body).symm)

/-- Every function the handlers read a field of has four bytes of fields. -/
theorem FieldsWithin.four {function : Function} (fields : FieldsWithin function length)
    (known : ¬ UnknownLength function) : 4 ≤ length := by
  unfold FieldsWithin at fields
  rcases function_cases function with rfl | rfl | rfl | rfl | other
  · change 6 ≤ length + 2 at fields
    omega
  · change 6 ≤ length + 2 at fields
    omega
  · change 6 ≤ length + 2 at fields
    omega
  · change 7 ≤ length + 2 at fields
    omega
  · exact absurd other known

/-! ## The controllers -/

section Controllers

variable [TypeConversion] {T : Type}

theorem HoldingRegisterController.validateFrame_agree [RegisterData T]
    (controller : HoldingRegisterController T) (agree : AgreeUpTo length first second)
    (fields : FieldsWithin second.function length) :
    controller.validateFrame first = controller.validateFrame second := by
  unfold validateFrame
  rw [agree.function_eq]
  split
  · next isRead =>
      have long := fields.four (by rw [isRead]; exact fun other => other.1 rfl)
      have count : ReadMultipleRegistersCommandBase.readRegisterCount first.dataArray =
          ReadMultipleRegistersCommandBase.readRegisterCount second.dataArray :=
        agree.readSecond long
      rw [validateReadMultipleHoldingRegisters, agree.readAddressStart long, count]
      rfl
  · split
    · next isSingle =>
        have long := fields.four (by rw [isSingle]; exact fun other => other.2.2.1 rfl)
        rw [validateWriteSingleHoldingRegister, agree.readAddressStart long]
        rfl
    · split
      · next isMultiple =>
          have long := fields.four (by rw [isMultiple]; exact fun other => other.2.2.2 rfl)
          rw [isMultiple] at fields
          change 7 ≤ length + 2 at fields
          have count : WriteMultipleHoldingRegistersCommand.readRegisterCount first.dataArray =
              WriteMultipleHoldingRegistersCommand.readRegisterCount second.dataArray :=
            agree.readSecond long
          have bytes : WriteMultipleHoldingRegistersCommand.readDataByteCount first.dataArray =
              WriteMultipleHoldingRegistersCommand.readDataByteCount second.dataArray :=
            congrArg (· >>= fun count : UInt8 => pure count.toNat)
              (agree.load (by omega : 4 < length))
          rw [validateWriteMultipleHoldingRegisters, count, bytes, agree.readAddressStart long]
          rfl
      · rfl

theorem InputRegisterController.validateFrame_agree [RegisterData T]
    (controller : InputRegisterController T) (agree : AgreeUpTo length first second)
    (fields : FieldsWithin second.function length) :
    controller.validateFrame first = controller.validateFrame second := by
  unfold validateFrame
  rw [agree.function_eq]
  split
  · next isRead =>
      have long := fields.four (by rw [isRead]; exact fun other => other.2.1 rfl)
      have count : ReadMultipleRegistersCommandBase.readRegisterCount first.dataArray =
          ReadMultipleRegistersCommandBase.readRegisterCount second.dataArray :=
        agree.readSecond long
      rw [validateReadRegisters, agree.readAddressStart long, count]
      rfl
  · rfl

/-- A multiple write that is acknowledged counts the bytes of its registers. -/
theorem HoldingRegisterController.acknowledged_count [RegisterData T]
    (controller : HoldingRegisterController T) {frame : Frame n}
    (function : frame.function = .kWriteMultipleHoldingRegisters)
    (acknowledged : controller.validateFrame frame = .ok .kAck) {count : UInt16} {bytes : UInt8}
    (counted : WriteMultipleHoldingRegistersCommand.readRegisterCount frame.dataArray = .ok count)
    (loaded : Memory.load frame.dataArray 4 = .ok bytes) : count.toNat * 2 = bytes.toNat := by
  have data : WriteMultipleHoldingRegistersCommand.readDataByteCount frame.dataArray =
      .ok bytes.toNat := by
    change (Memory.load frame.dataArray 4 >>= fun count : UInt8 => pure count.toNat) = _
    rw [loaded, ok_bind, pure_eq_ok]
  unfold validateFrame at acknowledged
  rw [if_neg (by rw [function]; decide), if_neg (by rw [function]; decide), if_pos function,
    validateWriteMultipleHoldingRegisters, counted, ok_bind, data, ok_bind] at acknowledged
  rcases bind_eq_ok.mp acknowledged with ⟨address, _, decided⟩
  split at decided
  · cases decided
  · split at decided
    · cases decided
    · next agrees => exact Classical.byContradiction agrees

theorem HoldingRegisterController.readFrame_agree [RegisterCallbacks T]
    (controller : HoldingRegisterController T) (agree : AgreeUpTo length first second)
    (fields : FieldsWithin second.function length)
    (data : second.function = .kWriteMultipleHoldingRegisters -> forall count : UInt16,
      WriteMultipleHoldingRegistersCommand.readRegisterCount second.dataArray = .ok count ->
        5 + count.toNat * 2 ≤ length) (response : Response) :
    controller.readFrame first response = controller.readFrame second response := by
  unfold readFrame
  rw [agree.function_eq]
  split
  · next isSingle =>
      have long := fields.four (by rw [isSingle]; exact fun other => other.2.2.1 rfl)
      have value : WriteSingleHoldingRegisterCommand.readSetting first.dataArray =
          WriteSingleHoldingRegisterCommand.readSetting second.dataArray :=
        agree.readSecond long
      rw [runWriteSingleHoldingRegister, agree.readAddressStart long, value, agree.address_eq]
      rfl
  · split
    · next isRead =>
        have long := fields.four (by rw [isRead]; exact fun other => other.1 rfl)
        have count : ReadMultipleRegistersCommandBase.readRegisterCount first.dataArray =
            ReadMultipleRegistersCommandBase.readRegisterCount second.dataArray :=
          agree.readSecond long
        rw [runReadMultipleHoldingRegisters, agree.readAddressStart long, count, agree.address_eq]
        rfl
    · split
      · next isMultiple =>
          have long := fields.four (by rw [isMultiple]; exact fun other => other.2.2.2 rfl)
          have count : WriteMultipleHoldingRegistersCommand.readRegisterCount first.dataArray =
              WriteMultipleHoldingRegistersCommand.readRegisterCount second.dataArray :=
            agree.readSecond long
          rw [runWriteMultipleHoldingRegisters, runWriteMultipleHoldingRegisters,
            agree.readAddressStart long, count, agree.address_eq]
          cases counted : WriteMultipleHoldingRegistersCommand.readRegisterCount
              second.dataArray with
          | error fault => rfl
          | ok registerCount =>
              -- The data ends where the byte count tells, so the view is the same.
              have view := agree.readView (data isMultiple registerCount counted)
              have start : WriteMultipleHoldingRegistersCommand.CommandPacket.kValueStart = 5 := rfl
              simp only [ok_bind, start, view]
      · rfl

theorem InputRegisterController.readFrame_agree [RegisterData T]
    (controller : InputRegisterController T) (agree : AgreeUpTo length first second)
    (fields : FieldsWithin second.function length) (response : Response) :
    controller.readFrame first response = controller.readFrame second response := by
  unfold readFrame
  rw [agree.function_eq]
  split
  · rfl
  · next isRead =>
      have isRead := Classical.not_not.mp isRead
      have long := fields.four (by rw [isRead]; exact fun other => other.2.1 rfl)
      have count : ReadMultipleRegistersCommandBase.readRegisterCount first.dataArray =
          ReadMultipleRegistersCommandBase.readRegisterCount second.dataArray :=
        agree.readSecond long
      rw [runReadInputRegisters, count, agree.readAddressStart long, agree.address_eq]
      rfl

end Controllers

/-! ## The slave -/

namespace ProtocolRtuSlave

variable [TypeConversion] {H I : Type} [RegisterCallbacks H] [RegisterData I]
  {slave other : ProtocolRtuSlave H I}

theorem validateMessage_agree (holding : slave.holdingRegisterController =
    other.holdingRegisterController)
    (input : slave.inputRegisterController = other.inputRegisterController)
    (agree : AgreeUpTo length first second) (fields : FieldsWithin second.function length) :
    slave.validateMessage first = other.validateMessage second := by
  unfold validateMessage
  rw [agree.function_eq, holding, input, other.holdingRegisterController.validateFrame_agree agree
    fields, other.inputRegisterController.validateFrame_agree agree fields]

/-- What a command returns and leaves behind, the reader apart. -/
def outcome (result : Int × ProtocolRtuSlave H I) :
    Int × HoldingRegisterController H × InputRegisterController I × Response :=
  (result.1, result.2.holdingRegisterController, result.2.inputRegisterController,
    result.2.getResponse)

omit [RegisterCallbacks H] [RegisterData I] in
theorem frameResponse_agree (crc16 : Crc16) (agree : AgreeUpTo length first second)
    (response : Response) : ProtocolRtu.frameResponse crc16 first response =
      ProtocolRtu.frameResponse crc16 second response := by
  rw [ProtocolRtu.frameResponse, agree.address_eq, agree.function_eq]
  rfl

theorem handle_agree (holding : slave.holdingRegisterController = other.holdingRegisterController)
    (input : slave.inputRegisterController = other.inputRegisterController)
    (agree : AgreeUpTo length first second) (fields : FieldsWithin second.function length)
    (data : second.function = .kWriteMultipleHoldingRegisters -> forall count : UInt16,
      WriteMultipleHoldingRegistersCommand.readRegisterCount second.dataArray = .ok count ->
        5 + count.toNat * 2 ≤ length) : slave.handle first = other.handle second := by
  unfold handle
  rw [agree.function_eq, holding, input,
    other.holdingRegisterController.readFrame_agree agree fields data,
    other.inputRegisterController.readFrame_agree agree fields]

omit [RegisterCallbacks H] [RegisterData I] in
theorem publish_agree (crc16 : Crc16)
    (input : slave.inputRegisterController = other.inputRegisterController)
    (agree : AgreeUpTo length first second)
    (handled : Int × HoldingRegisterController H × Response) :
    (slave.publish crc16 first handled).map outcome =
      (other.publish crc16 second handled).map outcome := by
  unfold publish
  rw [frameResponse_agree crc16 agree]
  split
  · cases ProtocolRtu.frameResponse crc16 second handled.2.2 with
    | error fault => rfl
    | ok response =>
        change Except.ok (_, _, slave.inputRegisterController, _) = _
        rw [input]
        rfl
  · change Except.ok (_, _, slave.inputRegisterController, _) = _
    rw [input]
    rfl

/-- A frame of a reader and any frame that agrees with it up to the checksum are
validated alike, and a command that is acknowledged has the same outcome, or the
same fault. -/
theorem commands_see_payload_only (crc16 : Crc16)
    (holding : slave.holdingRegisterController = other.holdingRegisterController)
    (input : slave.inputRegisterController = other.inputRegisterController)
    (secondCompleted : second.Completed)
    (address : first.address = second.address) (function : first.function = second.function)
    (dataLength : first.dataLength = second.dataLength)
    (payload : first.dataArray.toList.take (first.dataLength - 2) =
      second.dataArray.toList.take (second.dataLength - 2)) :
    slave.validateMessage first = other.validateMessage second ∧
      (slave.validateMessage first = .ok .kAck ->
        (slave.runCommand crc16 first).map outcome =
          (other.runCommand crc16 second).map outcome) := by
  rcases secondCompleted.long with ⟨body, holds, long⟩
  rw [dataLength] at payload
  have agree : AgreeUpTo (second.dataLength - 2) first second := ⟨address, function, payload⟩
  have size := holds.dataLength_eq
  have fields : FieldsWithin second.function (second.dataLength - 2) := by
    have least := expectedLength_nil_le second.function body
    unfold FieldsWithin
    omega
  have same := validateMessage_agree holding input agree fields
  refine ⟨same, fun acknowledged => ?_⟩
  have data : second.function = .kWriteMultipleHoldingRegisters -> forall count : UInt16,
      WriteMultipleHoldingRegistersCommand.readRegisterCount second.dataArray = .ok count ->
        5 + count.toNat * 2 ≤ second.dataLength - 2 := by
    intro isMultiple count counted
    have whole : 7 + (body.getD 4 0).toNat ≤ body.length := by
      rw [isMultiple] at long
      exact long
    have loaded : load second.dataArray 4 = .ok (body.getD 4 0) := by
      apply load_eq_ok.mpr
      rw [holds.getElem? (by omega), List.getD_eq_getElem?_getD,
        List.getElem?_eq_getElem (by omega), Option.getD_some]
    have valid : other.holdingRegisterController.validateFrame second = .ok .kAck := by
      rw [← same.symm.trans acknowledged, validateMessage, isMultiple]
      rfl
    rw [other.holdingRegisterController.acknowledged_count isMultiple valid counted loaded]
    omega
  rw [runCommand_eq, runCommand_eq, handle_agree holding input agree fields data]
  cases other.handle second with
  | error fault => rfl
  | ok handled => exact publish_agree crc16 input agree handled

omit [TypeConversion] [RegisterCallbacks H] [RegisterData I] in
/-- The same write with two checksums, into an empty and into a used buffer. -/
theorem commands_see_payload_write :
    letI := TypeConversion.shifting
    letI slave := zeroSlave 4 4
    letI received := fun (stale high low : UInt8) =>
      ({ address := 1, function := .kWriteSingleHoldingRegister, dataLength := 6,
         dataArray := ((((((Vector.replicate 256 stale).set 0 0).set 1 2).set 2 0).set 3 5).set
          4 high).set 5 low } : Frame 256)
    slave.validateMessage (received 0 88 9) = slave.validateMessage (received 7 1 1) ∧
      (slave.runCommand .modbus (received 0 88 9)).map outcome =
        (slave.runCommand .modbus (received 7 1 1)).map outcome := by
  let conversion := TypeConversion.shifting
  let slave := zeroSlave 4 4
  let received := fun (stale high low : UInt8) =>
    ({ address := 1, function := .kWriteSingleHoldingRegister, dataLength := 6,
       dataArray := ((((((Vector.replicate 256 stale).set 0 0).set 1 2).set 2 0).set 3 5).set
        4 high).set 5 low } : Frame 256)
  have completed : forall stale high low, (received stale high low).Completed :=
    fun stale high low => ⟨({}, { dataArray := Vector.replicate 256 stale }),
      [1, 6, 0, 2, 0, 5, high, low], { state := .kDone, bytesToRead := 0 }, rfl, rfl, rfl⟩
  have both : slave.validateMessage (received 0 88 9) = slave.validateMessage (received 7 1 1) ∧
      (slave.validateMessage (received 0 88 9) = .ok .kAck -> _) :=
    commands_see_payload_only .modbus rfl rfl (completed 7 1 1) rfl rfl rfl rfl
  exact ⟨both.1, both.2 rfl⟩

end ProtocolRtuSlave

end Modbus
