import ModbusBasic.Slave.Session

namespace Modbus

open Memory Transition

/-!
# Which reply is pending

The stored response and the flag that it is valid are separate fields.  A
command that succeeds writes both, and so does an error reply; a reset clears
both.  A command that fails overwrites the response with an empty one and leaves
the flag alone, so it must not come while a reply is still pending.
-/

/-- A call of the public interface of a slave. -/
inductive Call
  | runCommand {n : Nat} (frame : Frame n)
  | processMessage (filterAddress : Bool)
  | processCharacter (pt : UInt8)
  | reset

/-- A slave, and the reply to the most recent command run or error sent.  That
reply is made from the frame and the registers; the stored response and its flag
have no part in it. -/
structure Attended (H I : Type) where
  slave : ProtocolRtuSlave H I
  reply : Option Response := none

variable [TypeConversion] {H I : Type} [RegisterCallbacks H] [RegisterData I] {n : Nat}
  {crc16 : Crc16}

/-! ## Handlers fail for functions that are not supported, and for no other -/

section Codes

variable {T : Type} {frame : Frame n} {response : Response}

theorem HoldingRegisterController.readFrame_code [RegisterCallbacks T]
    (controller : HoldingRegisterController T)
    (supported : frame.function = .kWriteSingleHoldingRegister ∨
      frame.function = .kReadMultipleHoldingRegisters ∨
      frame.function = .kWriteMultipleHoldingRegisters) :
    Ensures (controller.readFrame frame response) fun result => result.1 = 0 := by
  unfold readFrame
  split
  · exact .bind fun _ _ => .bind fun _ _ => .bind fun _ _ => .bind fun _ _ => .ok rfl
  · next notSingle =>
      split
      · have code : Ensures (controller.runReadMultipleHoldingRegisters frame response)
            fun result => result.1 = 0 :=
          .bind fun _ _ => .bind fun _ _ => .bind fun _ _ => .ok rfl
        exact .bind fun handled read => .ok (code handled read)
      · next notRead =>
          split
          · exact .bind fun _ _ => .bind fun _ _ => .bind fun _ _ => .bind fun _ _ =>
              .bind fun _ _ => .ok rfl
          · next notMultiple =>
              rcases supported with same | same | same
              · exact absurd same notSingle
              · exact absurd same notRead
              · exact absurd same notMultiple

theorem InputRegisterController.readFrame_code [RegisterData T]
    (controller : InputRegisterController T) (supported : frame.function = .kReadInputRegisters) :
    Ensures (controller.readFrame frame response) fun result => result.1 = 0 := by
  rw [readFrame, if_neg (not_not.mpr supported)]
  exact .bind fun _ _ => .bind fun _ _ => .bind fun _ _ => .ok rfl

end Codes

namespace ProtocolRtuSlave

variable {slave : ProtocolRtuSlave H I} {frame : Frame n}

theorem handle_supported (slave : ProtocolRtuSlave H I)
    (supported : frame.function ∈ getSupportedFunctions) :
    Ensures (slave.handle frame) fun handled => handled.1 = 0 := by
  have listed : frame.function = .kReadMultipleHoldingRegisters ∨
      frame.function = .kReadInputRegisters ∨ frame.function = .kWriteSingleHoldingRegister ∨
      frame.function = .kWriteMultipleHoldingRegisters := by
    simpa [getSupportedFunctions] using supported
  unfold handle
  rcases listed with same | same | same | same
  · rw [same]
    exact slave.holdingRegisterController.readFrame_code (Or.inr (Or.inl same))
  · rw [same]
    exact .bind fun read done =>
      .ok (slave.inputRegisterController.readFrame_code same read done)
  · rw [same]
    exact slave.holdingRegisterController.readFrame_code (Or.inl same)
  · rw [same]
    exact slave.holdingRegisterController.readFrame_code (Or.inr (Or.inr same))

theorem handle_unsupported (unsupported : frame.function ∉ getSupportedFunctions) :
    slave.handle frame = .ok (-1, slave.holdingRegisterController, {}) := by
  have other : forall listed, listed ∈ getSupportedFunctions -> frame.function ≠ listed :=
    fun listed member same => unsupported (same ▸ member)
  unfold handle
  cases getAddressSpaceFromFunction frame.function with
  | kInputRegister =>
      have notRead := other .kReadInputRegisters (by decide)
      change (slave.inputRegisterController.readFrame frame {} >>= _) = _
      rw [InputRegisterController.readFrame, if_pos notRead, ok_bind]
  | kHoldingRegister =>
      have notSingle := other .kWriteSingleHoldingRegister (by decide)
      have notRead := other .kReadMultipleHoldingRegisters (by decide)
      have notMultiple := other .kWriteMultipleHoldingRegisters (by decide)
      change slave.holdingRegisterController.readFrame frame {} = _
      rw [HoldingRegisterController.readFrame, if_neg notSingle, if_neg notRead, if_neg notMultiple]
  | _ => rfl

/-! ## Replies made from frames and registers -/

/-- The reply to a command, if it does not fail. -/
def commandReply (crc16 : Crc16) (slave : ProtocolRtuSlave H I) (frame : Frame n) :
    Option Response :=
  (slave.handle frame >>= fun handled =>
    if handled.1 = 0 then ProtocolRtu.frameResponse crc16 frame handled.2.2
    else .error ⟨0, 0⟩).toOption

/-- The reply that reports an exception. -/
def errorReply (crc16 : Crc16) (frame : Frame n) (exception : Exception) : Option Response :=
  let errorFrame : Frame 0 :=
    { address := frame.address, function := getErrorFunction frame.function,
      dataArray := Vector.replicate 0 0 }
  (ProtocolRtu.frameResponse crc16 errorFrame
    ((({} : Response).set 2 exception.code).setLength 3)).toOption

/-- The reply to the frame received.  A frame for another slave or with a wrong
checksum leaves the reply there was. -/
def messageReply (crc16 : Crc16) (slave : ProtocolRtuSlave H I) (filterAddress : Bool)
    (before : Option Response) : Option Response :=
  let frame := slave.getFrameIn
  if (slave.getAddress = frame.address ∨ filterAddress = false) ∧
      ProtocolRtu.frameCrcIsValid crc16 frame = .ok true then
    match slave.validateMessage frame with
    | .ok exception =>
        if exception = .kAck then slave.commandReply crc16 frame
        else errorReply crc16 frame exception
    | .error _ => before
  else before

end ProtocolRtuSlave

namespace Attended

/-- One public call. -/
def call (crc16 : Crc16) (state : Attended H I) : Call -> Checked (Attended H I)
  | .runCommand frame => state.slave.runCommand crc16 frame >>= fun result =>
      .ok ⟨result.2, state.slave.commandReply crc16 frame⟩
  | .processMessage filterAddress =>
      state.slave.processMessage crc16 filterAddress >>= fun slave =>
        .ok ⟨slave, state.slave.messageReply crc16 filterAddress state.reply⟩
  | .processCharacter pt => state.slave.processCharacter pt >>= fun slave =>
      .ok { state with slave := slave }
  | .reset => .ok { state with slave := state.slave.reset }

/-- A response marked as valid is not empty, and it is the reply to the most
recent command run or error sent. -/
def ReplyIsCurrent (state : Attended H I) : Prop :=
  state.slave.getResponseValid = true ->
    state.slave.getResponse.getLength ≠ 0 ∧ state.reply = some state.slave.getResponse

/-- A command that returns a nonzero code leaves no valid response, and the
registers and their flags as they were. -/
def FailsCleanly (crc16 : Crc16) (state : Attended H I) : Call -> Prop
  | .runCommand frame => forall result, state.slave.runCommand crc16 frame = .ok result ->
      result.1 ≠ 0 -> result.2.getResponseValid = false ∧
        result.2.holdingRegisterController = state.slave.holdingRegisterController ∧
        result.2.inputRegisterController = state.slave.inputRegisterController
  | _ => True

/-- A command that is not supported comes only while no reply is pending. -/
def NothingPending (state : Attended H I) : Call -> Prop
  | .runCommand frame => frame.function ∉ getSupportedFunctions ->
      state.slave.getResponseValid = false
  | _ => True

/-! ## One call -/

variable {state next : Attended H I}

theorem runCommand_unsupported (crc16 : Crc16) (slave : ProtocolRtuSlave H I) {frame : Frame n}
    (unsupported : frame.function ∉ getSupportedFunctions) :
    slave.runCommand crc16 frame =
      .ok (-1, { slave with slave := slave.slave.setResponse {} }) := by
  rw [ProtocolRtuSlave.runCommand_eq, ProtocolRtuSlave.handle_unsupported unsupported, ok_bind]
  rfl

/-- A supported command that completes returns zero, and publishes its reply. -/
theorem runCommand_supported {slave : ProtocolRtuSlave H I} {frame : Frame n}
    (supported : frame.function ∈ getSupportedFunctions) {result : Int × ProtocolRtuSlave H I}
    (completes : slave.runCommand crc16 frame = .ok result) :
    result.1 = 0 ∧ result.2.getResponse.getLength ≠ 0 ∧
      slave.commandReply crc16 frame = some result.2.getResponse := by
  rw [ProtocolRtuSlave.runCommand_eq] at completes
  rcases bind_eq_ok.mp completes with ⟨handled, handles, published⟩
  have code := slave.handle_supported supported handled handles
  rcases slave.publish_completes code published with ⟨response, framed, rfl⟩
  refine ⟨code, ?_, ?_⟩
  · change response.length ≠ 0
    rw [frameResponse_length framed]
    exact Nat.succ_ne_zero _
  · rw [ProtocolRtuSlave.commandReply, handles, ok_bind, if_pos code, framed]
    rfl

theorem failsCleanly_iff (crc16 : Crc16) (state : Attended H I) (made : Call) :
    state.FailsCleanly crc16 made <-> state.NothingPending made := by
  cases made with
  | runCommand frame =>
      constructor
      · intro clean unsupported
        exact (clean _ (runCommand_unsupported crc16 state.slave unsupported)
          (by decide : (-1 : Int) ≠ 0)).1
      · intro nothing result completes failed
        by_cases supported : frame.function ∈ getSupportedFunctions
        · exact absurd (runCommand_supported supported completes).1 failed
        · rw [runCommand_unsupported crc16 state.slave supported] at completes
          cases completes
          exact ⟨nothing supported, rfl, rfl⟩
  | _ => exact Iff.rfl

/-- Only frames with a supported function are acknowledged. -/
theorem acknowledged_supported {slave : ProtocolRtuSlave H I} {frame : Frame n}
    (acknowledged : slave.validateMessage frame = .ok .kAck) :
    frame.function ∈ getSupportedFunctions := by
  by_cases supported : frame.function ∈ getSupportedFunctions
  · exact supported
  · rw [ProtocolRtuSlave.validateMessage_unsupported supported] at acknowledged
    cases acknowledged

theorem sendErrorResponse_reply {slave base : SlaveProtocolBase} {frame : Frame n}
    {exception : Exception} (sent : slave.sendErrorResponse crc16 frame exception = .ok base) :
    base.response.length ≠ 0 ∧
      ProtocolRtuSlave.errorReply crc16 frame exception = some base.response := by
  rcases bind_eq_ok.mp sent with ⟨response, framed, same⟩
  cases same
  constructor
  · change response.length ≠ 0
    rw [frameResponse_length framed]
    exact Nat.succ_ne_zero _
  · exact congrArg Except.toOption framed

theorem processMessage_current (current : state.ReplyIsCurrent) {filterAddress : Bool}
    (called : state.call crc16 (.processMessage filterAddress) = .ok next) :
    next.ReplyIsCurrent := by
  rcases bind_eq_ok.mp called with ⟨slave, completes, same⟩
  cases same
  unfold ProtocolRtuSlave.processMessage at completes
  rcases bind_eq_ok.mp completes with ⟨exception, validated, completes⟩
  change _ -> _ ∧ state.slave.messageReply crc16 filterAddress state.reply = _
  unfold ProtocolRtuSlave.messageReply
  simp only [validated]
  split at completes
  · next addressed =>
      rcases bind_eq_ok.mp completes with ⟨valid, checked, completes⟩
      cases valid with
      | false =>
          cases completes
          rw [if_neg (by rw [checked]; rintro ⟨_, other⟩; cases other)]
          exact current
      | true =>
          rw [if_pos ⟨addressed, checked⟩]
          simp only [if_true] at completes
          split at completes
          · next acknowledged =>
              rw [if_pos acknowledged]
              rcases bind_eq_ok.mp completes with ⟨result, ran, same⟩
              cases same
              rw [acknowledged] at validated
              exact fun _ => (runCommand_supported (acknowledged_supported validated) ran).2
          · next refused =>
              rw [if_neg refused]
              rcases bind_eq_ok.mp completes with ⟨base, sent, same⟩
              cases same
              exact fun _ => sendErrorResponse_reply sent
  · next notAddressed =>
      cases completes
      rw [if_neg (fun both => notAddressed both.1)]
      exact current

/-- What one call keeps, if it is no unsupported command while a reply is
pending. -/
theorem call_current {made : Call} (current : state.ReplyIsCurrent)
    (nothing : state.NothingPending made) (called : state.call crc16 made = .ok next) :
    next.ReplyIsCurrent := by
  cases made with
  | runCommand frame =>
      rcases bind_eq_ok.mp called with ⟨result, completes, same⟩
      cases same
      intro valid
      by_cases supported : frame.function ∈ getSupportedFunctions
      · exact (runCommand_supported supported completes).2
      · rw [runCommand_unsupported crc16 state.slave supported] at completes
        cases completes
        have pending : state.slave.getResponseValid = true := valid
        rw [nothing supported] at pending
        cases pending
  | processMessage filterAddress => exact processMessage_current current called
  | processCharacter pt =>
      rcases bind_eq_ok.mp called with ⟨slave, completes, same⟩
      cases same
      rw [ProtocolRtuSlave.processCharacter_eq, bind_eq_ok] at completes
      rcases completes with ⟨reader, _, same⟩
      cases same
      exact current
  | reset =>
      cases called
      intro valid
      cases valid

/-! ## Any calls in any order -/

/-- In a run from a slave without a valid response, every failing command is
clean and every pending reply is current, exactly when no unsupported command is
run while a reply is pending. -/
theorem pendingReply_iff (crc16 : Crc16) {start : Attended H I}
    (silent : start.slave.getResponseValid = false) (calls : List Call) :
    Admitted (call crc16) (FailsCleanly crc16) start calls ∧
        Always (call crc16) ReplyIsCurrent start calls <->
      Admitted (call crc16) NothingPending start calls := by
  have current : start.ReplyIsCurrent := by
    intro valid
    rw [silent] at valid
    cases valid
  constructor
  · rintro ⟨clean, _⟩ front made rest reached split completes
    exact (failsCleanly_iff crc16 reached made).mp (clean front made rest reached split completes)
  · intro nothing
    constructor
    · intro front made rest reached split completes
      exact (failsCleanly_iff crc16 reached made).mpr
        (nothing front made rest reached split completes)
    · exact nothing.always_reached ReplyIsCurrent
        (fun state made next current nothing called => call_current current nothing called) current

omit [TypeConversion] [RegisterCallbacks H] [RegisterData I] in
/-- Commands for coils around a read, with a reset in between. -/
theorem pendingReply_read :
    letI := TypeConversion.shifting
    letI coils : Frame 0 := { address := 1, function := .kReadCoils, dataArray := #v[] }
    letI read : Frame 4 :=
      { address := 1, function := .kReadMultipleHoldingRegisters, dataLength := 4,
        dataArray := #v[0, 0, 0, 1] }
    letI start : Attended (UpdatingRegisterDataStore 2) (RegisterDataStore 1) :=
      ⟨zeroSlave 2 1, none⟩
    letI calls : List Call :=
      [.runCommand coils, .runCommand read, .processCharacter 1, .reset, .runCommand coils]
    Admitted (call .modbus) (FailsCleanly .modbus) start calls ∧
      Always (call .modbus) ReplyIsCurrent start calls := by
  let conversion := TypeConversion.shifting
  let coils : Frame 0 := { address := 1, function := .kReadCoils, dataArray := #v[] }
  let read : Frame 4 :=
    { address := 1, function := .kReadMultipleHoldingRegisters, dataLength := 4,
      dataArray := #v[0, 0, 0, 1] }
  refine (pendingReply_iff .modbus rfl _).mpr (admitted_cons_iff.mpr ⟨fun _ => rfl, ?_⟩)
  intro _ _
  refine admitted_cons_iff.mpr ⟨fun unsupported => absurd (by decide) unsupported, ?_⟩
  intro _ _
  refine admitted_cons_iff.mpr ⟨True.intro, ?_⟩
  intro _ _
  refine admitted_cons_iff.mpr ⟨True.intro, ?_⟩
  intro _ called
  cases called
  exact admitted_cons_iff.mpr ⟨fun _ => rfl, fun _ _ => admitted_nil⟩

omit [TypeConversion] [RegisterCallbacks H] [RegisterData I] in
/-- A command for coils after a read whose reply nobody has taken: it fails, and
an empty response is marked as valid. -/
theorem pendingReply_overwritten :
    letI := TypeConversion.shifting
    letI coils : Frame 0 := { address := 1, function := .kReadCoils, dataArray := #v[] }
    letI read : Frame 4 :=
      { address := 1, function := .kReadMultipleHoldingRegisters, dataLength := 4,
        dataArray := #v[0, 0, 0, 1] }
    letI start : Attended (UpdatingRegisterDataStore 2) (RegisterDataStore 1) :=
      ⟨zeroSlave 2 1, none⟩
    ¬ Admitted (call .modbus) (FailsCleanly .modbus) start [.runCommand read, .runCommand coils] ∧
      ¬ Always (call .modbus) ReplyIsCurrent start [.runCommand read, .runCommand coils] := by
  let conversion := TypeConversion.shifting
  constructor
  · intro clean
    have second := (admitted_cons_iff.mp ((admitted_cons_iff.mp clean).2 _ rfl)).1
    cases (second _ rfl (by decide : (-1 : Int) ≠ 0)).1
  · intro current
    have last := (always_cons_iff.mp ((always_cons_iff.mp current).2 _ rfl)).2 _ rfl
    exact (always_nil_iff.mp last rfl).1 rfl

end Attended

end Modbus
