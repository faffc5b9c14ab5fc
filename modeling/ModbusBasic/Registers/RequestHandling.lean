import ModbusBasic.Protocol.ResponseFrames
import ModbusBasic.Registers.RegisterControl
import ModbusBasic.Registers.StoreAccess

namespace Modbus

open Memory TypeConversion

/-!
# Controllers serve requests

A frame whose buffer starts with the payload of a `Request` is validated and
handled as that request.  `Ranged` is what validation needs of a store, and
`Executes` what a handler needs: that the operations it calls on the store
complete.  Both are stated for any store; the last section proves them of the
two stores of the library.
-/

variable [TypeConversion] {T H I : Type} {n h i : Nat}

/-! ## The fields of a request -/

section Fields

variable {frame : Frame n} {slaveAddress : UInt8} {function : Function} {body : List UInt8}

/-- A 16-bit field at its place in the body. -/
theorem Holds.readUInt16 (holds : Holds frame slaveAddress function body)
    {front rest : List UInt8} {value : UInt16}
    (split : body = front ++ (bigEndian value.toNat ++ rest)) :
    readUInt16 frame.dataArray front.length = .ok value := by
  have size : body.length = front.length + (2 + rest.length) := by
    rw [split, List.length_append, List.length_append]
    rfl
  have first : body[front.length]? = some (UInt8.ofNat (value.toNat / 256)) := by
    rw [split, List.getElem?_append_right (Nat.le_refl _), Nat.sub_self]
    rfl
  have second : body[front.length + 1]? = some (UInt8.ofNat value.toNat) := by
    rw [split, List.getElem?_append_right (Nat.le_add_right _ 1), Nat.add_sub_cancel_left]
    rfl
  rw [readUInt16_ok frame.dataArray ((holds.getElem? (by omega)).trans first)
    ((holds.getElem? (by omega)).trans second), make_getByte]

/-- The first two fields of every request. -/
theorem Holds.readFields {first second : UInt16} {rest : List UInt8}
    (holds : Holds frame slaveAddress function
      (bigEndian first.toNat ++ (bigEndian second.toNat ++ rest))) :
    Modbus.readUInt16 frame.dataArray 0 = .ok first ∧
      Modbus.readUInt16 frame.dataArray 2 = .ok second := by
  have start : bigEndian first.toNat ++ (bigEndian second.toNat ++ rest) =
      [] ++ (bigEndian first.toNat ++ (bigEndian second.toNat ++ rest)) := rfl
  exact ⟨holds.readUInt16 start, holds.readUInt16 rfl⟩

end Fields

/-! ## Validation -/

/-- Validation of this store decides whether a range lies in `n` registers. -/
structure Ranged [RegisterData T] (data : T) (n : Nat) : Prop where
  read : forall address count : UInt16,
    RegisterData.readLocationValid data address.toNat count.toNat =
      decide (InRange n address.toNat count.toNat)
  write : forall address count : UInt16,
    RegisterData.writeLocationValid data address.toNat count.toNat =
      decide (InRange n address.toNat count.toNat)

/-- A byte can count the data bytes of the request. -/
def Request.Countable : Request -> Prop
  | .writeMultiple _ _ data => data.length < 256
  | _ => True

section Validation

variable {frame : Frame n} {slaveAddress : UInt8} {footer : List UInt8}

theorem HoldingRegisterController.validateFrame_request [RegisterData T]
    (controller : HoldingRegisterController T) (ranged : Ranged controller.registerData h)
    {request : Request} (countable : request.Countable)
    (holding : getAddressSpaceFromFunction request.function = .kHoldingRegister)
    (holds : Holds frame slaveAddress request.function (request.payload ++ footer)) (i : Nat) :
    controller.validateFrame frame = .ok (request.verdict h i) := by
  cases request with
  | readInput address count => cases holding
  | readHolding address count =>
      have fields : Holds frame slaveAddress .kReadMultipleHoldingRegisters
        (bigEndian address.toNat ++ (bigEndian count.toNat ++ footer)) := holds
      have first : DataCommand.readAddressStart frame.dataArray = .ok address := fields.readFields.1
      have second : ReadMultipleRegistersCommandBase.readRegisterCount frame.dataArray = .ok count :=
        fields.readFields.2
      rw [validateFrame, if_pos fields.function_eq, validateReadMultipleHoldingRegisters, first,
        ok_bind, second, ok_bind, readLocationValid, ranged.read]
      by_cases inRange : InRange h address.toNat count.toNat
      · simp [Request.verdict, inRange]
      · simp [Request.verdict, inRange]
  | writeSingle address value =>
      have fields : Holds frame slaveAddress .kWriteSingleHoldingRegister
        (bigEndian address.toNat ++ (bigEndian value.toNat ++ footer)) := holds
      have first : DataCommand.readAddressStart frame.dataArray = .ok address := fields.readFields.1
      have notRead : frame.function ≠ .kReadMultipleHoldingRegisters := by
        rw [fields.function_eq]
        decide
      have checked := ranged.write address 1
      rw [show (1 : UInt16).toNat = 1 from rfl] at checked
      rw [validateFrame, if_neg notRead, if_pos fields.function_eq,
        validateWriteSingleHoldingRegister, first, ok_bind, writeLocationValid, checked]
      by_cases inRange : InRange h address.toNat 1
      · simp [Request.verdict, inRange]
      · simp [Request.verdict, inRange]
  | writeMultiple address count data =>
      have fields : Holds frame slaveAddress .kWriteMultipleHoldingRegisters
        (bigEndian address.toNat ++ (bigEndian count.toNat ++
          (UInt8.ofNat data.length :: (data ++ footer)))) := holds
      have first : DataCommand.readAddressStart frame.dataArray = .ok address := fields.readFields.1
      have second : WriteMultipleHoldingRegistersCommand.readRegisterCount frame.dataArray =
        .ok count := fields.readFields.2
      have loaded : load frame.dataArray 4 = .ok (UInt8.ofNat data.length) :=
        load_eq_ok.mpr (fields.getElem? (Nat.lt_add_of_pos_left (Nat.succ_pos _)))
      have counted : WriteMultipleHoldingRegistersCommand.readDataByteCount frame.dataArray =
          .ok data.length := by
        change (load frame.dataArray 4 >>= fun count => pure count.toNat) = _
        rw [loaded, ok_bind, UInt8.toNat_ofNat_of_lt' countable, pure_eq_ok]
      have notRead : frame.function ≠ .kReadMultipleHoldingRegisters := by
        rw [fields.function_eq]
        decide
      have notSingle : frame.function ≠ .kWriteSingleHoldingRegister := by
        rw [fields.function_eq]
        decide
      rw [validateFrame, if_neg notRead, if_neg notSingle, if_pos fields.function_eq,
        validateWriteMultipleHoldingRegisters, second, ok_bind, counted, ok_bind, first, ok_bind,
        writeLocationValid, ranged.write]
      by_cases inRange : InRange h address.toNat count.toNat
      · by_cases agree : count.toNat * 2 = data.length
        · simp [Request.verdict, inRange, agree]
        · simp [Request.verdict, inRange, agree]
      · simp [Request.verdict, inRange]

theorem InputRegisterController.validateFrame_request [RegisterData T]
    (controller : InputRegisterController T) (ranged : Ranged controller.registerData i)
    {address count : UInt16}
    (holds : Holds frame slaveAddress (Request.readInput address count).function
      ((Request.readInput address count).payload ++ footer)) (h : Nat) :
    controller.validateFrame frame = .ok ((Request.readInput address count).verdict h i) := by
  have fields : Holds frame slaveAddress .kReadInputRegisters
    (bigEndian address.toNat ++ (bigEndian count.toNat ++ footer)) := holds
  have first : DataCommand.readAddressStart frame.dataArray = .ok address := fields.readFields.1
  have second : ReadMultipleRegistersCommandBase.readRegisterCount frame.dataArray = .ok count :=
    fields.readFields.2
  rw [validateFrame, if_pos fields.function_eq, validateReadRegisters, first, ok_bind, second,
    ok_bind, readLocationValid, ranged.read]
  by_cases inRange : InRange i address.toNat count.toNat
  · simp [Request.verdict, inRange]
  · simp [Request.verdict, inRange]

end Validation

/-! ## Reply headers -/

section Headers

variable {response : Response}

/-- The address, the function and two 16-bit fields. -/
private theorem filled_two_fields (inside : response.Inside) (slaveAddress code : UInt8)
    {first second : Nat} (firstFits : first < 65536) (secondFits : second < 65536) :
    Filled (((((((response.set 0 slaveAddress).set 1 code).set 2 (getByte first 1)).set 3
      (getByte first 0)).set 4 (getByte second 1)).set 5 (getByte second 0)).setLength 6)
      (bigEndian first ++ bigEndian second) := by
  let header := (response.set 0 slaveAddress).set 1 code
  let named := (header.set 2 (getByte first 1)).set 3 (getByte first 0)
  let whole := (named.set 4 (getByte second 1)).set 5 (getByte second 0)
  have headerInside : header.Inside := (inside.set _ (by decide)).set _ (by decide)
  have namedInside : named.Inside := (headerInside.set _ (by decide)).set _ (by decide)
  have wholeInside : whole.Inside := (namedInside.set _ (by decide)).set _ (by decide)
  have headerSize : header.data.toList.length = 256 := Vector.length_toList
  have fits : 2 + (bigEndian first ++ bigEndian second).length ≤ 256 := by simp
  have namedData : named.data.toList = splice header.data.toList 2 (bigEndian first) := by
    rw [Response.set_data _ _ (by decide), Response.set_data _ _ (by decide),
      ← getByte_pair firstFits]
    exact set_pair _ _ _ (by rw [headerSize]; decide)
  have namedSize : named.data.toList.length = 256 := Vector.length_toList
  have wholeData : whole.data.toList =
      splice header.data.toList 2 (bigEndian first ++ bigEndian second) := by
    rw [Response.set_data _ _ (by decide), Response.set_data _ _ (by decide),
      set_pair _ _ _ (by rw [namedSize]; decide), getByte_pair secondFits, namedData]
    exact splice_splice _ (by rw [headerSize]; exact fits)
  exact Filled.of_splice rfl wholeInside headerSize fits wholeData

theorem WriteSingleHoldingRegisterCommand.fillResponseHeader_filled (inside : response.Inside)
    (slaveAddress : UInt8) (address value : UInt16) :
    Filled (fillResponseHeader slaveAddress address value response)
      (bigEndian address.toNat ++ bigEndian value.toNat) :=
  filled_two_fields inside slaveAddress kFunction.code address.toNat_lt value.toNat_lt

theorem WriteMultipleHoldingRegistersCommand.fillResponseHeader_filled (inside : response.Inside)
    (slaveAddress : UInt8) (address count : UInt16) :
    Filled (fillResponseHeader slaveAddress address count.toNat response)
      (bigEndian address.toNat ++ bigEndian count.toNat) :=
  filled_two_fields inside slaveAddress kFunction.code address.toNat_lt count.toNat_lt

omit [TypeConversion] in
theorem ReadMultipleRegistersCommandBase.fillResponseHeaderBase_data (slaveAddress : UInt8)
    (registerCount : Nat) (response : Response) (function : Function) :
    (fillResponseHeaderBase slaveAddress registerCount response function).data.toList =
      ((response.data.toList.set 0 slaveAddress).set 1 function.code).set 2
        (UInt8.ofNat (registerCount * 2)) := by
  change (((response.set 0 _).set 1 _).set 2 _).data.toList = _
  rw [Response.set_data _ _ (by decide), Response.set_data _ _ (by decide),
    Response.set_data _ _ (by decide)]

omit [TypeConversion] in
theorem ReadMultipleRegistersCommandBase.fillResponseHeaderBase_inside
    (inside : response.Inside) (slaveAddress : UInt8) (registerCount : Nat) (function : Function) :
    (fillResponseHeaderBase slaveAddress registerCount response function).Inside := by
  have header : ((response.set 0 slaveAddress).set 1 function.code).Inside :=
    (inside.set slaveAddress (by decide)).set function.code (by decide)
  exact header.set (UInt8.ofNat (registerCount * 2)) (by decide)

omit [TypeConversion] in
/-- A reply to a read: its header and, behind that, the values. -/
private theorem filled_reading {reply : Response} {cells bytes : List UInt8}
    {slaveAddress code number : UInt8} (size : cells.length = 256)
    (fits : 3 + bytes.length ≤ 256) (length_eq : reply.length = 3 + bytes.length)
    (inside : reply.Inside)
    (written : reply.data.toList =
      splice (((cells.set 0 slaveAddress).set 1 code).set 2 number) 3 bytes) :
    Filled reply (number :: bytes) := by
  let header := (cells.set 0 slaveAddress).set 1 code
  have headerSize : header.length = 256 := by
    simp only [header, List.length_set, size]
  apply Filled.of_splice _ inside headerSize
  · rw [List.length_cons]
    omega
  · rw [written, set_eq_splice header number (by omega)]
    exact splice_splice header (by rw [headerSize, List.length_append, List.length_singleton]; omega)
  · rw [length_eq, List.length_cons]
    omega

end Headers

/-! ## Handlers -/

section Handlers

variable {frame : Frame n} {slaveAddress : UInt8} {function : Function} {rest bytes : List UInt8}
  {address count value : UInt16} {response : Response}

theorem HoldingRegisterController.runReadMultipleHoldingRegisters_ok [RegisterData T]
    (controller : HoldingRegisterController T) (inside : response.Inside)
    (holds : Holds frame slaveAddress function
      (bigEndian address.toNat ++ (bigEndian count.toNat ++ rest)))
    (valid : controller.readLocationValid address.toNat count.toNat = true)
    (reads : Reads controller.registerData address.toNat count.toNat bytes)
    (short : count.toNat ≤ 126) :
    Exists fun reply => controller.runReadMultipleHoldingRegisters frame response = .ok (0, reply) ∧
      Filled reply (UInt8.ofNat (count.toNat * 2) :: bytes) := by
  have first : DataCommand.readAddressStart frame.dataArray = .ok address := holds.readFields.1
  have second : ReadMultipleRegistersCommandBase.readRegisterCount frame.dataArray = .ok count :=
    holds.readFields.2
  let sized := response.setLength (min response.size ((UInt8.ofNat (2 * count.toNat)).toNat +
    ReadMultipleRegistersCommandBase.ResponsePacket.kHeaderSize + Command.kFooterLength))
  let headed := ReadMultipleHoldingRegistersCommand.fillResponseHeader frame.address count.toNat sized
  let window : Window UInt8 256 :=
    { cells := headed.data, start := 3, size := headed.getLength - 3 }
  have headedLength : headed.length = 3 + count.toNat * 2 := rfl
  have headedInside : headed.Inside :=
    ReadMultipleRegistersCommandBase.fillResponseHeaderBase_inside (inside : sized.Inside)
      frame.address count.toNat .kReadMultipleHoldingRegisters
  have headedData : window.cells.toList =
      ((response.data.toList.set 0 frame.address).set 1 3).set 2 (UInt8.ofNat (count.toNat * 2)) :=
    ReadMultipleRegistersCommandBase.fillResponseHeaderBase_data frame.address count.toNat sized
      .kReadMultipleHoldingRegisters
  have size : window.size = 2 * count.toNat := by
    change headed.length - 3 = _
    rw [headedLength, Nat.add_sub_cancel_left, Nat.mul_comm]
  rcases reads.2 256 window (Nat.le_of_eq size.symm) (by change 3 + _ ≤ 256; omega) with
    ⟨result, completes, written⟩
  have read : controller.readRegisters address count window = .ok result := by
    rw [readRegisters, valid]
    exact completes
  refine ⟨{ headed with data := result.cells }, ?_, ?_⟩
  · rw [runReadMultipleHoldingRegisters, first, ok_bind, second, ok_bind]
    change (controller.readRegisters address count window >>= _) = _
    rw [read, ok_bind, pure_eq_ok]
  · rw [headedData] at written
    have total : headed.length = 3 + bytes.length := by
      rw [headedLength, reads.1, Nat.mul_comm]
    have fits : 3 + bytes.length ≤ 256 := by
      rw [reads.1]
      omega
    exact filled_reading Vector.length_toList fits total headedInside written

/-- Here the window is filled before the header; the header is in front of it. -/
theorem InputRegisterController.runReadInputRegisters_ok [RegisterData T]
    (controller : InputRegisterController T) (inside : response.Inside)
    (holds : Holds frame slaveAddress function
      (bigEndian address.toNat ++ (bigEndian count.toNat ++ rest)))
    (valid : controller.readLocationValid address.toNat count.toNat = true)
    (reads : Reads controller.registerData address.toNat count.toNat bytes)
    (short : count.toNat ≤ 126) :
    Exists fun reply => controller.runReadInputRegisters frame response = .ok (0, reply) ∧
      Filled reply (UInt8.ofNat (count.toNat * 2) :: bytes) := by
  have first : DataCommand.readAddressStart frame.dataArray = .ok address := holds.readFields.1
  have second : ReadMultipleRegistersCommandBase.readRegisterCount frame.dataArray = .ok count :=
    holds.readFields.2
  have packetSize : (UInt8.ofNat (2 * count.toNat)).toNat = 2 * count.toNat := by
    rw [UInt8.toNat_ofNat']
    omega
  let sized := response.setLength (min response.size ((UInt8.ofNat (2 * count.toNat)).toNat +
    ReadMultipleRegistersCommandBase.ResponsePacket.kHeaderSize + Command.kFooterLength))
  let window : Window UInt8 256 :=
    { cells := sized.data, start := 3, size := sized.getLength - 3 }
  have room : 2 * count.toNat ≤ window.size := by
    change _ ≤ min 256 ((UInt8.ofNat (2 * count.toNat)).toNat + 3 + 2) - 3
    rw [packetSize]
    omega
  rcases reads.2 256 window room (by change 3 + _ ≤ 256; omega) with ⟨result, completes, written⟩
  have read : controller.readRegisters address count window = .ok result := by
    rw [readRegisters, valid]
    exact completes
  let body : Response := { sized with data := result.cells }
  let headed := ReadInputRegistersCommand.fillResponseHeader frame.address count.toNat body
  have fits : 3 + bytes.length ≤ 256 := by
    rw [reads.1]
    omega
  have cells : response.data.toList.length = 256 := Vector.length_toList
  have headedLength : headed.length = 3 + count.toNat * 2 := rfl
  have headedInside : headed.Inside :=
    ReadMultipleRegistersCommandBase.fillResponseHeaderBase_inside (inside : body.Inside)
      frame.address count.toNat .kReadInputRegisters
  have headedData : headed.data.toList =
      ((result.cells.toList.set 0 frame.address).set 1 4).set 2 (UInt8.ofNat (count.toNat * 2)) :=
    ReadMultipleRegistersCommandBase.fillResponseHeaderBase_data frame.address count.toNat body
      .kReadInputRegisters
  refine ⟨headed, ?_, ?_⟩
  · rw [runReadInputRegisters, second, ok_bind, first, ok_bind]
    change (controller.readRegisters address count window >>= _) = _
    rw [read, ok_bind, pure_eq_ok]
  · have total : headed.length = 3 + bytes.length := by
      rw [headedLength, reads.1, Nat.mul_comm]
    change result.cells.toList = splice response.data.toList 3 bytes at written
    rw [written, set_before_splice _ _ (by decide) (by rw [cells]; exact fits),
      set_before_splice _ _ (by decide) (by rw [List.length_set, cells]; exact fits),
      set_before_splice _ _ (by decide)
        (by rw [List.length_set, List.length_set, cells]; exact fits)] at headedData
    exact filled_reading cells fits total headedInside headedData

/-- A read that completes leaves the length its header announces, whether or
not a reply of that length fits. -/
theorem HoldingRegisterController.runReadMultipleHoldingRegisters_length [RegisterData T]
    (controller : HoldingRegisterController T)
    (holds : Holds frame slaveAddress function
      (bigEndian address.toNat ++ (bigEndian count.toNat ++ rest)))
    {result : Int × Response}
    (completes : controller.runReadMultipleHoldingRegisters frame response = .ok result) :
    result.1 = 0 ∧ result.2.length = 3 + count.toNat * 2 := by
  have first : DataCommand.readAddressStart frame.dataArray = .ok address := holds.readFields.1
  have second : ReadMultipleRegistersCommandBase.readRegisterCount frame.dataArray = .ok count :=
    holds.readFields.2
  rw [runReadMultipleHoldingRegisters, first, ok_bind, second, ok_bind] at completes
  rcases bind_eq_ok.mp completes with ⟨window, _, same⟩
  cases same
  exact ⟨rfl, rfl⟩

theorem InputRegisterController.runReadInputRegisters_length [RegisterData T]
    (controller : InputRegisterController T)
    (holds : Holds frame slaveAddress function
      (bigEndian address.toNat ++ (bigEndian count.toNat ++ rest)))
    {result : Int × Response}
    (completes : controller.runReadInputRegisters frame response = .ok result) :
    result.1 = 0 ∧ result.2.length = 3 + count.toNat * 2 := by
  have first : DataCommand.readAddressStart frame.dataArray = .ok address := holds.readFields.1
  have second : ReadMultipleRegistersCommandBase.readRegisterCount frame.dataArray = .ok count :=
    holds.readFields.2
  rw [runReadInputRegisters, second, ok_bind, first, ok_bind] at completes
  rcases bind_eq_ok.mp completes with ⟨window, _, same⟩
  cases same
  exact ⟨rfl, rfl⟩

theorem HoldingRegisterController.runWriteSingleHoldingRegister_ok [RegisterCallbacks T]
    (controller : HoldingRegisterController T) {middle result : T} (inside : response.Inside)
    (holds : Holds frame slaveAddress function
      (bigEndian address.toNat ++ (bigEndian value.toNat ++ rest)))
    (stored : RegisterData.setRegister controller.registerData address.toNat value = .ok middle)
    (notified : RegisterCallbacks.setRegisterCallback middle address.toNat value = .ok result) :
    Exists fun reply =>
      controller.runWriteSingleHoldingRegister frame response = .ok (0, ⟨result⟩, reply) ∧
        Filled reply (bigEndian address.toNat ++ bigEndian value.toNat) := by
  have first : DataCommand.readAddressStart frame.dataArray = .ok address := holds.readFields.1
  have second : WriteSingleHoldingRegisterCommand.readSetting frame.dataArray = .ok value :=
    holds.readFields.2
  refine ⟨_, ?_, WriteSingleHoldingRegisterCommand.fillResponseHeader_filled inside frame.address
    address value⟩
  rw [runWriteSingleHoldingRegister, first, ok_bind, second, ok_bind, writeRegister, stored,
    ok_bind, pure_eq_ok, ok_bind, notified, ok_bind, pure_eq_ok]

theorem HoldingRegisterController.runWriteMultipleHoldingRegisters_ok [RegisterCallbacks T]
    (controller : HoldingRegisterController T) {middle result : T} {number : UInt8}
    {data : List UInt8} (inside : response.Inside)
    (holds : Holds frame slaveAddress function
      (bigEndian address.toNat ++ (bigEndian count.toNat ++ number :: (data ++ rest))))
    (size : data.length = count.toNat * 2)
    (stored : RegisterData.setRegisters controller.registerData address.toNat count.toNat data =
      .ok middle)
    (notified : RegisterCallbacks.setRegistersCallback middle address.toNat count.toNat data =
      .ok result) :
    Exists fun reply =>
      controller.runWriteMultipleHoldingRegisters frame response = .ok (0, ⟨result⟩, reply) ∧
        Filled reply (bigEndian address.toNat ++ bigEndian count.toNat) := by
  have first : DataCommand.readAddressStart frame.dataArray = .ok address := holds.readFields.1
  have second : WriteMultipleHoldingRegistersCommand.readRegisterCount frame.dataArray =
    .ok count := holds.readFields.2
  have bodyLength : (bigEndian address.toNat ++ (bigEndian count.toNat ++ number :: (data ++ rest))).length =
      5 + (data.length + rest.length) := by
    simp only [List.length_append, List.length_cons, bigEndian_length]
    omega
  have viewed : readView frame.dataArray 5 (count.toNat * 2) = .ok data := by
    have capacity := holds.length_le
    rw [readView_ok _ (by omega), ← size]
    have contents := congrArg (fun cells => (cells.drop 5).take data.length) holds.dataArray_eq
    simp only [bodyLength, List.drop_take, List.take_take] at contents
    rw [Nat.min_eq_left (by omega)] at contents
    have behind : (data ++ rest).take data.length = data := List.take_left' rfl
    rw [contents]
    exact congrArg Except.ok behind
  refine ⟨_, ?_, WriteMultipleHoldingRegistersCommand.fillResponseHeader_filled inside
    frame.address address count⟩
  rw [runWriteMultipleHoldingRegisters, first, ok_bind, second, ok_bind]
  change (readView frame.dataArray 5 (count.toNat * 2) >>= _) = _
  rw [viewed, ok_bind, stored, ok_bind, notified, ok_bind, pure_eq_ok]

end Handlers

end Modbus
