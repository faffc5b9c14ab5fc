import ModbusBasic.Reader.Progress
import ModbusBasic.Registers.Execution
import ModbusBasic.Slave.ProtocolRtuSlave

namespace Modbus

open Memory TypeConversion

/-!
# What the slave does with a complete frame

The frame in the receive buffer is ignored unless it is addressed to the slave
and ends with its checksum.  Otherwise it is refused with the exception that
validation found (`processMessage_refused`), or performed when the request in
it executes on the stores (`processMessage_performed`).

Everything here holds for any pair of stores.
-/

variable [TypeConversion] {H I : Type} [RegisterCallbacks H] [RegisterData I] {n h i : Nat}

/-! ## Requests in frames -/

omit [RegisterCallbacks H] [RegisterData I] in
/-- Four bytes are two fields. -/
private theorem two_fields {body : List UInt8} (long : 4 ≤ body.length) :
    Exists fun first : UInt16 => Exists fun second : UInt16 => Exists fun rest : List UInt8 =>
      body = bigEndian first.toNat ++ (bigEndian second.toNat ++ rest) ∧
        body.length = 4 + rest.length := by
  rcases body with _ | ⟨firstHigh, _ | ⟨firstLow, _ | ⟨secondHigh, _ | ⟨secondLow, rest⟩⟩⟩⟩
  · exact absurd long (by decide)
  · exact absurd long (by simp)
  · exact absurd long (by simp)
  · exact absurd long (by simp)
  · refine ⟨makeMSBUint16FromU8Array firstHigh firstLow,
      makeMSBUint16FromU8Array secondHigh secondLow, rest, ?_, ?_⟩
    · rw [bigEndian_make, bigEndian_make]
      rfl
    · exact Nat.add_comm rest.length 4

omit [RegisterCallbacks H] [RegisterData I] in
/-- A complete frame of a function the slave implements holds a request. -/
theorem request_of_complete {function : Function}
    (implemented : function ∈ ProtocolRtuSlave.implimentedFunctions) {body : List UInt8}
    (whole : body.length = expectedLength function body) :
    Exists fun request : Request => Exists fun footer : List UInt8 =>
      request.function = function ∧ body = request.payload ++ footer ∧ footer.length = 2 ∧
        request.Countable := by
  have listed : function = .kReadMultipleHoldingRegisters ∨ function = .kReadInputRegisters ∨
      function = .kWriteSingleHoldingRegister ∨ function = .kWriteMultipleHoldingRegisters := by
    simpa [ProtocolRtuSlave.implimentedFunctions] using implemented
  rcases listed with rfl | rfl | rfl | rfl
  · change body.length = 6 at whole
    rcases two_fields (by omega : 4 ≤ body.length) with ⟨address, count, footer, rfl, size⟩
    exact ⟨.readHolding address count, footer, rfl, rfl, by omega, True.intro⟩
  · change body.length = 6 at whole
    rcases two_fields (by omega : 4 ≤ body.length) with ⟨address, count, footer, rfl, size⟩
    exact ⟨.readInput address count, footer, rfl, rfl, by omega, True.intro⟩
  · change body.length = 6 at whole
    rcases two_fields (by omega : 4 ≤ body.length) with ⟨address, value, footer, rfl, size⟩
    exact ⟨.writeSingle address value, footer, rfl, rfl, by omega, True.intro⟩
  · change body.length = 7 + (body.getD 4 0).toNat at whole
    rcases two_fields (by omega : 4 ≤ body.length) with ⟨address, count, rest, rfl, _⟩
    rcases rest with _ | ⟨number, rest⟩
    · cases whole
    · change rest.length + 5 = 7 + number.toNat at whole
      have size : (rest.take number.toNat).length = number.toNat := by
        rw [List.length_take]
        omega
      refine ⟨.writeMultiple address count (rest.take number.toNat), rest.drop number.toNat, rfl,
        ?_, ?_, ?_⟩
      · change _ = bigEndian address.toNat ++ (bigEndian count.toNat ++
          (UInt8.ofNat (rest.take number.toNat).length ::
            (rest.take number.toNat ++ rest.drop number.toNat)))
        rw [List.take_append_drop, size, UInt8.ofNat_toNat]
      · rw [List.length_drop]
        omega
      · change (rest.take number.toNat).length < 256
        rw [size]
        exact number.toNat_lt

/-! ## Validation -/

namespace ProtocolRtuSlave

variable {frame : Frame n} {slave : ProtocolRtuSlave H I} {address : UInt8} {request : Request}
  {footer : List UInt8}

omit [TypeConversion] in
theorem function_implemented (request : Request) : request.function ∈ implimentedFunctions := by
  cases request with
  | readHolding address count => exact List.mem_cons_self
  | readInput address count => exact List.mem_cons_of_mem _ List.mem_cons_self
  | writeSingle address value => simp [implimentedFunctions, Request.function]
  | writeMultiple address count data => simp [implimentedFunctions, Request.function]

theorem validateMessage_request (holding : Ranged slave.holdingRegisterController.registerData h)
    (input : Ranged slave.inputRegisterController.registerData i) (countable : request.Countable)
    (holds : Holds frame address request.function (request.payload ++ footer)) :
    slave.validateMessage frame = .ok (request.verdict h i) := by
  rw [validateMessage, holds.function_eq, if_neg (not_not.mpr (function_implemented request))]
  cases request with
  | readInput start count =>
      exact slave.inputRegisterController.validateFrame_request input holds h
  | readHolding start count =>
      exact slave.holdingRegisterController.validateFrame_request holding countable rfl holds i
  | writeSingle start value =>
      exact slave.holdingRegisterController.validateFrame_request holding countable rfl holds i
  | writeMultiple start count data =>
      exact slave.holdingRegisterController.validateFrame_request holding countable rfl holds i

theorem validateMessage_unsupported (unsupported : frame.function ∉ implimentedFunctions) :
    slave.validateMessage frame = .ok .kIllegalFunction := by
  rw [validateMessage, if_pos unsupported]

/-! ## Processing -/

/-- The slave with this response, marked as valid. -/
def respond (slave : ProtocolRtuSlave H I) (response : Response) : ProtocolRtuSlave H I :=
  { slave with slave := { slave.slave with response := response, responseValid := true } }

/-- The slave over another holding register store. -/
def withHolding (slave : ProtocolRtuSlave H I) (next : H) : ProtocolRtuSlave H I :=
  { slave with holdingRegisterController := ⟨next⟩ }

/-- The first half of `RunCommand`: what the handlers return for the frame. -/
def handle (slave : ProtocolRtuSlave H I) (frame : Frame n) :
    Checked (Int × HoldingRegisterController H × Response) :=
  match getAddressSpaceFromFunction frame.function with
  | .kInputRegister => slave.inputRegisterController.readFrame frame {} >>= fun handled =>
      .ok (handled.1, slave.holdingRegisterController, handled.2)
  | .kHoldingRegister => slave.holdingRegisterController.readFrame frame {}
  | _ => .ok (-1, slave.holdingRegisterController, {})

/-- The second half: a response without an error is framed and published, any
other is only stored. -/
def publish (crc16 : Crc16) (slave : ProtocolRtuSlave H I) (frame : Frame n)
    (handled : Int × HoldingRegisterController H × Response) :
    Checked (Int × ProtocolRtuSlave H I) :=
  let after := { slave with holdingRegisterController := handled.2.1 }
  if handled.1 = 0 then
    ProtocolRtu.frameResponse crc16 frame handled.2.2 >>= fun response =>
      .ok (handled.1, after.respond response)
  else .ok (handled.1, { after with slave := slave.slave.setResponse handled.2.2 })

theorem runCommand_eq (crc16 : Crc16) (slave : ProtocolRtuSlave H I) (frame : Frame n) :
    slave.runCommand crc16 frame = slave.handle frame >>= slave.publish crc16 frame := by
  simp only [runCommand, handle]
  cases getAddressSpaceFromFunction frame.function with
  | kInputRegister =>
      cases slave.inputRegisterController.readFrame frame {} with
      | error fault => rfl
      | ok handled => rfl
  | kHoldingRegister =>
      cases slave.holdingRegisterController.readFrame frame {} with
      | error fault => rfl
      | ok handled => rfl
  | _ => rfl

omit [RegisterCallbacks H] [RegisterData I] in
/-- What is published when there is no error. -/
theorem publish_completes {crc16 : Crc16} (slave : ProtocolRtuSlave H I)
    {handled : Int × HoldingRegisterController H × Response} (code : handled.1 = 0)
    {result : Int × ProtocolRtuSlave H I}
    (completes : slave.publish crc16 frame handled = .ok result) :
    Exists fun response => ProtocolRtu.frameResponse crc16 frame handled.2.2 = .ok response ∧
      result = (handled.1,
        { slave with holdingRegisterController := handled.2.1 }.respond response) := by
  rw [publish, if_pos code] at completes
  rcases bind_eq_ok.mp completes with ⟨response, framed, same⟩
  exact ⟨response, framed, (Except.ok.inj same).symm⟩

/-- The handlers execute a request that is received. -/
theorem handle_executes {next : H} {data : List UInt8}
    (executes : Executes slave.holdingRegisterController.registerData
      slave.inputRegisterController.registerData request next data)
    (holds : Holds frame address request.function (request.payload ++ footer)) :
    Exists fun reply => slave.handle frame = .ok (0, ⟨next⟩, reply) ∧ Filled reply data := by
  by_cases mapped : getAddressSpaceFromFunction request.function = .kInputRegister
  · rcases InputRegisterController.readFrame_executes executes mapped holds Response.inside_empty
      with ⟨same, reply, completes, filled⟩
    have handled : slave.inputRegisterController.readFrame frame {} = .ok (0, reply) := completes
    refine ⟨reply, ?_, filled⟩
    simp only [handle, holds.function_eq, mapped, handled, ok_bind]
    rw [same]
  · have holding : getAddressSpaceFromFunction request.function = .kHoldingRegister := by
      cases request with
      | readInput start count => exact absurd rfl mapped
      | readHolding start count => rfl
      | writeSingle start value => rfl
      | writeMultiple start count data => rfl
    rcases HoldingRegisterController.readFrame_executes executes holding holds
      Response.inside_empty with ⟨reply, completes, filled⟩
    refine ⟨reply, ?_, filled⟩
    simp only [handle, holds.function_eq, holding]
    exact completes

theorem runCommand_executes (crc16 : Crc16) {next : H} {data : List UInt8}
    (executes : Executes slave.holdingRegisterController.registerData
      slave.inputRegisterController.registerData request next data)
    (holds : Holds frame address request.function (request.payload ++ footer))
    (fits : data.length + 4 ≤ 256) :
    Exists fun response =>
      slave.runCommand crc16 frame = .ok (0, (slave.withHolding next).respond response) ∧
        Carries response (withChecksum crc16 (address :: request.function.code :: data)) := by
  rcases handle_executes executes holds with ⟨reply, handled, filled⟩
  rcases frameResponse_ok crc16 frame filled fits with ⟨response, framed, carries⟩
  rw [holds.address_eq, holds.function_eq] at carries
  refine ⟨response, ?_, carries⟩
  rw [runCommand_eq, handled, ok_bind, publish, if_pos rfl, framed, ok_bind]
  rfl

/-- A read that completes has the length its header announces. -/
theorem handle_read {request : Request}
    (read : request.function = .kReadMultipleHoldingRegisters ∨
      request.function = .kReadInputRegisters)
    (holds : Holds frame address request.function (request.payload ++ footer)) :
    Ensures (slave.handle frame) fun handled =>
      handled.1 = 0 ∧ handled.2.2.length = 3 + request.readCount * 2 := by
  cases request with
  | writeSingle start value =>
      rcases read with same | same
      · cases same
      · cases same
  | writeMultiple start count data =>
      rcases read with same | same
      · cases same
      · cases same
  | readHolding start count =>
      have isRead : frame.function = .kReadMultipleHoldingRegisters := holds.function_eq
      have notSingle : frame.function ≠ .kWriteSingleHoldingRegister := by
        rw [isRead]
        decide
      rw [handle, isRead]
      change Ensures (slave.holdingRegisterController.readFrame frame {}) _
      rw [HoldingRegisterController.readFrame, if_neg notSingle, if_pos isRead]
      exact .bind fun reply filled => .ok
        (slave.holdingRegisterController.runReadMultipleHoldingRegisters_length holds filled)
  | readInput start count =>
      have isInput : frame.function = .kReadInputRegisters := holds.function_eq
      rw [handle, isInput]
      change Ensures (slave.inputRegisterController.readFrame frame {} >>= _) _
      rw [InputRegisterController.readFrame, if_neg (not_not.mpr isInput)]
      exact .bind fun handled served => .ok
        (slave.inputRegisterController.runReadInputRegisters_length holds served)

/-- It is published with two bytes more. -/
theorem runCommand_read {crc16 : Crc16} {request : Request}
    (read : request.function = .kReadMultipleHoldingRegisters ∨
      request.function = .kReadInputRegisters)
    (holds : Holds frame address request.function (request.payload ++ footer))
    {result : Int × ProtocolRtuSlave H I} (completes : slave.runCommand crc16 frame = .ok result) :
    result.2.getResponseValid = true ∧
      result.2.getResponse.getLength = 3 + request.readCount * 2 + 2 := by
  rw [runCommand_eq] at completes
  rcases bind_eq_ok.mp completes with ⟨handled, served, published⟩
  have lengths := handle_read read holds handled served
  rcases slave.publish_completes lengths.1 published with ⟨response, framed, rfl⟩
  refine ⟨rfl, (frameResponse_length framed).trans ?_⟩
  rw [lengths.2]

section Processing

variable {crc16 : Crc16} {exception : Exception} {function : Function} {body : List UInt8}

/-- The frame is for this slave and undamaged. -/
def Accepts (crc16 : Crc16) (slave : ProtocolRtuSlave H I) (raw : List UInt8) : Prop :=
  raw.head? = some slave.slaveAddress ∧ EndsWithChecksum crc16 raw

instance (crc16 : Crc16) (slave : ProtocolRtuSlave H I) (raw : List UInt8) :
    Decidable (slave.Accepts crc16 raw) :=
  inferInstanceAs (Decidable (_ ∧ _))

variable (depends : crc16.DependsOnPrefix)
  (holds : Holds slave.slave.framein address function body) (fits : body.length ≤ 254)
  (validated : slave.validateMessage slave.slave.framein = .ok exception)

include depends holds fits validated

/-- The two checks in front of the dispatch. -/
theorem processMessage_eq :
    slave.processMessage crc16 =
      if slave.Accepts crc16 (address :: function.code :: body) then
        if exception = .kAck then
          slave.runCommand crc16 slave.slave.framein >>= fun result => .ok result.2
        else
          slave.slave.sendErrorResponse crc16 slave.slave.framein exception >>= fun base =>
            .ok { slave with slave := base }
      else .ok slave := by
  have checked := (frameCrcIsValid_eq crc16 holds fits).trans
    (frameCrcIsValidView_eq depends (by simp))
  have valid : slave.validateMessage slave.getFrameIn = .ok exception := validated
  simp only [processMessage, valid, ok_bind, Bool.true_eq_false, or_false]
  rw [show slave.getFrameIn = slave.slave.framein from rfl, checked, ok_bind, holds.address_eq]
  by_cases matched : slave.getAddress = address
  · by_cases whole : EndsWithChecksum crc16 (address :: function.code :: body)
    · have accepts : slave.Accepts crc16 (address :: function.code :: body) :=
        ⟨congrArg some matched.symm, whole⟩
      simp only [matched, whole, accepts, decide_true, if_true, pure_eq_ok]
    · have rejects : ¬ slave.Accepts crc16 (address :: function.code :: body) :=
        fun accepts => whole accepts.2
      simp [matched, whole, rejects]
  · have rejects : ¬ slave.Accepts crc16 (address :: function.code :: body) :=
      fun accepts => matched (Option.some.inj accepts.1).symm
    simp [matched, rejects]

theorem processMessage_ignored
    (rejects : ¬ slave.Accepts crc16 (address :: function.code :: body)) :
    slave.processMessage crc16 = .ok slave := by
  rw [processMessage_eq depends holds fits validated, if_neg rejects]

theorem processMessage_refused
    (accepts : slave.Accepts crc16 (address :: function.code :: body))
    (refused : exception ≠ .kAck) :
    Exists fun response => slave.processMessage crc16 = .ok (slave.respond response) ∧
      Carries response
        (withChecksum crc16 [address, (getErrorFunction function).code, exception.code]) := by
  let errorFrame : Frame 0 :=
    { address := slave.slave.framein.address
      function := getErrorFunction slave.slave.framein.function, dataArray := #v[] }
  let coded := slave.slave.response.reset.set 2 exception.code
  have size : slave.slave.response.reset.data.toList.length = 256 := Vector.length_toList
  have inside : slave.slave.response.reset.Inside := Response.inside_empty
  have codedInside : coded.Inside := inside.set exception.code (by decide)
  have codedData : coded.data.toList =
      splice slave.slave.response.reset.data.toList 2 [exception.code] :=
    (Response.set_data _ _ (by decide)).trans (set_eq_splice _ _ (by rw [size]; decide))
  have filled : Filled (coded.setLength 3) [exception.code] :=
    Filled.of_splice rfl codedInside size (by simp) codedData
  rcases frameResponse_ok crc16 errorFrame filled (by simp) with ⟨response, framed, carries⟩
  refine ⟨response, ?_, ?_⟩
  · rw [processMessage_eq depends holds fits validated, if_pos accepts, if_neg refused]
    have sent : slave.slave.sendErrorResponse crc16 slave.slave.framein exception =
        .ok { slave.slave with response := response, responseValid := true } := by
      change (ProtocolRtu.frameResponse crc16 errorFrame (coded.setLength 3) >>= _) = _
      rw [framed, ok_bind]
      rfl
    rw [sent, ok_bind]
    rfl
  · have header : errorFrame.address = address ∧ errorFrame.function = getErrorFunction function :=
      ⟨holds.address_eq, congrArg getErrorFunction holds.function_eq⟩
    rw [header.1, header.2] at carries
    exact carries

omit holds fits validated in
theorem processMessage_performed {next : H} {data : List UInt8}
    (holds : Holds slave.slave.framein address request.function (request.payload ++ footer))
    (fits : (request.payload ++ footer).length ≤ 254)
    (validated : slave.validateMessage slave.slave.framein = .ok .kAck)
    (accepts : slave.Accepts crc16 (address :: request.function.code :: (request.payload ++ footer)))
    (executes : Executes slave.holdingRegisterController.registerData
      slave.inputRegisterController.registerData request next data)
    (short : data.length + 4 ≤ 256) :
    Exists fun response =>
      slave.processMessage crc16 = .ok ((slave.withHolding next).respond response) ∧
        Carries response (withChecksum crc16 (address :: request.function.code :: data)) := by
  rcases runCommand_executes crc16 executes holds short with ⟨response, completes, carries⟩
  refine ⟨response, ?_, carries⟩
  rw [processMessage_eq depends holds fits validated, if_pos accepts, if_pos rfl, completes,
    ok_bind]

end Processing

/-! ## Without the address check -/

/-- The address of the slave is not looked at when a frame is performed. -/
theorem runCommand_setAddress (crc16 : Crc16) (slave : ProtocolRtuSlave H I) (address : UInt8)
    (frame : Frame n) :
    (slave.setAddress address).runCommand crc16 frame =
      slave.runCommand crc16 frame >>= fun result => .ok (result.1, result.2.setAddress address) := by
  have handled : (slave.setAddress address).handle frame = slave.handle frame := rfl
  rw [runCommand_eq, runCommand_eq, handled]
  cases slave.handle frame with
  | error fault => rfl
  | ok handled =>
      rw [ok_bind, ok_bind, publish, publish]
      by_cases code : handled.1 = 0
      · rw [if_pos code, if_pos code]
        cases ProtocolRtu.frameResponse crc16 frame handled.2.2 with
        | error fault => rfl
        | ok response => rfl
      · rw [if_neg code, if_neg code]
        rfl

theorem runCommand_slaveAddress {crc16 : Crc16} {result : Int × ProtocolRtuSlave H I}
    (completes : slave.runCommand crc16 frame = .ok result) :
    result.2.setAddress slave.getAddress = result.2 := by
  have kept := runCommand_setAddress crc16 slave slave.getAddress frame
  have own : slave.setAddress slave.getAddress = slave := rfl
  rw [own, completes, ok_bind] at kept
  exact (congrArg Prod.snd (Except.ok.inj kept)).symm

/-- Without the address check a slave does what the slave with the address of the
frame does, and keeps its own address. -/
theorem processMessageNoAddress_eq (crc16 : Crc16) (slave : ProtocolRtuSlave H I) :
    slave.processMessageNoAddress crc16 =
      (slave.setAddress slave.getFrameIn.address).processMessage crc16 >>= fun next =>
        .ok (next.setAddress slave.getAddress) := by
  let addressed := slave.setAddress slave.getFrameIn.address
  have sameFrame : addressed.getFrameIn = slave.getFrameIn := rfl
  have forIt : addressed.getAddress = slave.getFrameIn.address := rfl
  have validated : addressed.validateMessage slave.getFrameIn =
      slave.validateMessage slave.getFrameIn := rfl
  have performed : addressed.runCommand crc16 slave.getFrameIn = _ :=
    runCommand_setAddress crc16 slave slave.getFrameIn.address slave.getFrameIn
  have sent : addressed.slave = slave.slave := rfl
  change _ = addressed.processMessage crc16 >>= _
  rw [processMessageNoAddress, processMessage, processMessage]
  simp only [sameFrame, forIt, validated, performed, sent, or_true, true_or, if_true]
  cases slave.validateMessage slave.getFrameIn with
  | error fault => rfl
  | ok exception =>
      simp only [ok_bind]
      cases ProtocolRtu.frameCrcIsValid crc16 slave.getFrameIn with
      | error fault => rfl
      | ok valid =>
          cases valid with
          | false => rfl
          | true =>
              by_cases acknowledged : exception = .kAck
              · simp only [acknowledged, ok_bind, if_true]
                cases completes : slave.runCommand crc16 slave.getFrameIn with
                | error fault => rfl
                | ok result => exact congrArg Except.ok (runCommand_slaveAddress completes).symm
              · simp only [acknowledged, ok_bind, if_true, if_false]
                cases slave.slave.sendErrorResponse crc16 slave.getFrameIn exception with
                | error fault => rfl
                | ok base => rfl

end ProtocolRtuSlave

end Modbus
