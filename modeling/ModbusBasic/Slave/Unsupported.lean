import ModbusBasic.Slave.Session

namespace Modbus

open Memory TypeConversion Transition

/-!
# Functions the slave does not implement

Such a request is to be answered with the exception for an illegal function.
The reader does not know the format of these requests; it takes one byte behind
the function byte for the whole payload.  A request of that length is answered
as it should be.  A shorter one is never complete, and a longer one is complete
too early: whatever follows its fifth byte is read as the start of a new frame.
-/

variable {H I : Type}

theorem unknownLength_of_unsupported {function : Function}
    (unsupported : function ∉ ProtocolRtuSlave.implimentedFunctions) :
    UnknownLength function := by
  refine ⟨?_, ?_, ?_, ?_⟩
  · rintro rfl
    exact unsupported (by decide)
  · rintro rfl
    exact unsupported (by decide)
  · rintro rfl
    exact unsupported (by decide)
  · rintro rfl
    exact unsupported (by decide)

namespace ProtocolRtuSlave

variable [TypeConversion] [RegisterCallbacks H] [RegisterData I]

/-- The bytes `Frame` writes for the request, served one by one: nothing is
written to the line until the last byte, and then the exception reply is; no
register changes, and the slave waits for the next frame. -/
def AnswersOnLast (crc16 : Crc16) (slave : ProtocolRtuSlave H I) (function : Function)
    (payload : List UInt8) : Prop :=
  Exists fun buffer : Vector UInt8 (payload.length + 4) =>
    ProtocolRtu.frame crc16 (requestFrame slave.slaveAddress function payload)
      (Vector.replicate _ 0) = .ok buffer ∧
    Exists fun final : ProtocolRtuSlave H I =>
      trace (serve crc16) slave.reset (buffer.toList.map .character) =
        .ok (final, List.replicate (payload.length + 3) none ++
          [some (withChecksum crc16 [slave.slaveAddress, function.code ||| 0x80, 1])]) ∧
      final.Waiting ∧ final.holdingRegisterController = slave.holdingRegisterController ∧
      final.inputRegisterController = slave.inputRegisterController

section Answered

variable {crc16 : Crc16} {slave : ProtocolRtuSlave H I} {function : Function}
  {payload : List UInt8}

/-- What the buffer holds is the request with its checksum. -/
theorem answersOnLast_iff (depends : crc16.DependsOnPrefix) :
    slave.AnswersOnLast crc16 function payload <->
      Exists fun final : ProtocolRtuSlave H I =>
        trace (serve crc16) slave.reset
          ((withChecksum crc16 (slave.slaveAddress :: function.code :: payload)).map .character) =
          .ok (final, List.replicate (payload.length + 3) none ++
            [some (withChecksum crc16 [slave.slaveAddress, function.code ||| 0x80, 1])]) ∧
        final.Waiting ∧ final.holdingRegisterController = slave.holdingRegisterController ∧
        final.inputRegisterController = slave.inputRegisterController := by
  rcases frame_eq depends (requestFrame_holds slave.slaveAddress function payload)
    (Vector.replicate (payload.length + 4) 0) rfl with ⟨buffer, encoded, wire⟩
  constructor
  · rintro ⟨other, same, answered⟩
    rw [encoded] at same
    cases same
    rw [← wire]
    exact answered
  · intro answered
    rw [← wire] at answered
    exact ⟨buffer, encoded, answered⟩

/-- Five bytes that end with their checksum are a frame, and it is answered. -/
theorem trace_unsupported (depends : crc16.DependsOnPrefix) (waiting : slave.Waiting)
    (listed : functionCodeIsValid function.code = true)
    (unsupported : function ∉ implimentedFunctions) {first second third : UInt8}
    (valid : EndsWithChecksum crc16 [slave.slaveAddress, function.code, first, second, third]) :
    Exists fun final : ProtocolRtuSlave H I =>
      trace (serve crc16) slave
        ([slave.slaveAddress, function.code, first, second, third].map .character) =
        .ok (final, List.replicate 4 none ++
          [some (withChecksum crc16 [slave.slaveAddress, function.code ||| 0x80, 1])]) ∧
      final.Waiting ∧ final.holdingRegisterController = slave.holdingRegisterController ∧
      final.inputRegisterController = slave.inputRegisterController := by
  have unknown := unknownLength_of_unsupported unsupported
  have whole : [first, second, third].length = expectedLength function [first, second, third] :=
    (expectedLength_other unknown _).symm
  have fits : [first, second, third].length ≤ 256 := by simp
  rcases trace_frame crc16 waiting slave.slaveAddress listed whole fits with
    ⟨reader, inReader, answered⟩
  let received := slave.withReader reader
  have holds : Holds received.slave.framein slave.slaveAddress function [first, second, third] :=
    inReader
  have validated : received.validateMessage received.slave.framein = .ok .kIllegalFunction := by
    apply validateMessage_unsupported
    rw [holds.function_eq]
    exact unsupported
  have accepts : received.Accepts crc16 [slave.slaveAddress, function.code, first, second, third] :=
    ⟨rfl, valid⟩
  rcases processMessage_refused depends holds (by simp) validated accepts (by decide) with
    ⟨response, processed, carries⟩
  have marks : forall code, code ∈ getValidFunctions ->
      (getErrorFunction code).code = code.code ||| 0x80 := by decide
  rw [marks function ((functionCodeIsValid_iff function.code).mp listed)] at carries
  refine ⟨(received.respond response).reset, ?_, reset_waiting _, rfl, rfl⟩
  rw [answered _ processed, published_respond _ carries]
  rfl

end Answered

/-- The checksum that is zero except over three bytes. -/
def threeByteCrc (value : UInt16) : Crc16 := fun _ length => if length = 3 then value else 0

omit [TypeConversion] in
theorem threeByteCrc_dependsOnPrefix (value : UInt16) : (threeByteCrc value).DependsOnPrefix :=
  fun _ _ _ _ _ _ => rfl

omit [TypeConversion] in
theorem withChecksum_threeByteCrc (value : UInt16) {bytes : List UInt8}
    (other : bytes.length ≠ 3) :
    withChecksum (threeByteCrc value) bytes = bytes ++ [0, 0] := by
  have zero : checksum (threeByteCrc value) bytes = 0 := if_neg other
  rw [withChecksum, zero]
  rfl

section Unanswered

variable (slave : ProtocolRtuSlave H I) {function : Function}

/-- Without a payload the four bytes of a request complete no frame. -/
theorem not_answered_empty (listed : functionCodeIsValid function.code = true)
    (unsupported : function ∉ implimentedFunctions) {crc16 : Crc16}
    (depends : crc16.DependsOnPrefix) : ¬ slave.AnswersOnLast crc16 function [] := by
  have unknown := unknownLength_of_unsupported unsupported
  rw [answersOnLast_iff depends]
  rintro ⟨final, answered, _⟩
  let field := bigEndian (checksum crc16 [slave.slaveAddress, function.code]).toNat
  have whole : (field ++ [0]).length = expectedLength function (field ++ [0]) :=
    (expectedLength_other unknown _).symm
  have room : Permitted Progress.advance (HasRoom 256) .idle
      ((slave.slaveAddress :: function.code :: field) ++ [0]) :=
    permitted_frame slave.slaveAddress listed whole (by simp [field])
  have started := Progress.foldl_frame_front slave.slaveAddress listed (List.cons_ne_nil 0 []) whole
  rcases trace_incomplete crc16 slave.reset_waiting (permitted_front room) (by rw [started]; rfl)
    with ⟨reader, read, _⟩
  change trace _ slave.reset ((withChecksum crc16 [slave.slaveAddress, function.code]).map
    LineEvent.character) = _ at read
  rw [read] at answered
  cases congrArg (fun outputs => outputs[3]?) (congrArg Prod.snd (Except.ok.inj answered))

/-- With a longer payload the checksum may take the first five bytes for a frame,
and then there is a reply before the last byte. -/
theorem not_answered_long (listed : functionCodeIsValid function.code = true)
    (unsupported : function ∉ implimentedFunctions) (first second : UInt8) (rest : List UInt8) :
    Exists fun crc16 : Crc16 => crc16.DependsOnPrefix ∧
      ¬ slave.AnswersOnLast crc16 function (first :: second :: rest) := by
  rcases split : rest ++ [0, 0] with _ | ⟨third, tail⟩
  · exact absurd split (by simp)
  have depends := threeByteCrc_dependsOnPrefix (makeMSBUint16FromU8Array second third)
  refine ⟨_, depends, ?_⟩
  rw [answersOnLast_iff depends]
  rintro ⟨final, answered, _⟩
  have long : (slave.slaveAddress :: function.code :: first :: second :: rest).length ≠ 3 := by
    simp only [List.length_cons]
    omega
  have wire : slave.slaveAddress :: function.code :: first :: second :: rest ++ [0, 0] =
      [slave.slaveAddress, function.code, first, second, third] ++ tail := by
    simp only [List.cons_append, List.nil_append, split]
  have valid : EndsWithChecksum (threeByteCrc (makeMSBUint16FromU8Array second third))
      [slave.slaveAddress, function.code, first, second, third] := by
    change _ = [slave.slaveAddress, function.code, first] ++
      bigEndian (makeMSBUint16FromU8Array second third).toNat
    rw [bigEndian_make]
    rfl
  rcases trace_unsupported depends slave.reset_waiting listed unsupported valid with
    ⟨early, read, _⟩
  rw [reset_slaveAddress] at read
  rw [withChecksum_threeByteCrc _ long, wire, List.map_append, trace_append, read, ok_bind,
    bind_eq_ok] at answered
  rcases answered with ⟨last, _, outputs⟩
  have fifth := congrArg (fun outputs => outputs[4]?) (congrArg Prod.snd (Except.ok.inj outputs))
  simp at fifth

end Unanswered

/-- The requests that are answered as the design asks, whatever checksum is in
use, are those with exactly one byte of payload. -/
theorem unsupported_answered_iff (slave : ProtocolRtuSlave H I) {function : Function}
    (listed : functionCodeIsValid function.code = true)
    (unsupported : function ∉ implimentedFunctions) (payload : List UInt8) :
    (forall crc16 : Crc16, crc16.DependsOnPrefix -> slave.AnswersOnLast crc16 function payload) <->
      payload.length = 1 := by
  constructor
  · intro answers
    rcases payload with _ | ⟨first, _ | ⟨second, rest⟩⟩
    · exact absurd (answers _ (threeByteCrc_dependsOnPrefix 0))
        (not_answered_empty slave listed unsupported (threeByteCrc_dependsOnPrefix 0))
    · rfl
    · rcases not_answered_long slave listed unsupported first second rest with
        ⟨crc16, depends, unanswered⟩
      exact absurd (answers crc16 depends) unanswered
  · intro single crc16 depends
    rcases List.length_eq_one_iff.mp single with ⟨first, rfl⟩
    rw [answersOnLast_iff depends]
    exact trace_unsupported depends slave.reset_waiting listed unsupported
      (endsWithChecksum_withChecksum crc16 [slave.slaveAddress, function.code, first])

omit [TypeConversion] in
theorem unsupported_answered_reportSlaveId :
    letI := TypeConversion.shifting
    (zeroSlave 1 1).AnswersOnLast .modbus .kReportSlaveId [0] :=
  let conversion := TypeConversion.shifting
  (unsupported_answered_iff (zeroSlave 1 1) (by decide) (by decide) [0]).mpr rfl .modbus
    Crc16.modbus_dependsOnPrefix

omit [TypeConversion] in
/-- A request to read eight coils: the fifth byte ends the frame, its checksum
fails, and the last byte is the third of a frame that never arrives. -/
theorem readCoils_not_answered :
    letI := TypeConversion.shifting
    ¬ (zeroSlave 1 1).AnswersOnLast .modbus .kReadCoils [0, 0, 0, 8] := by
  let conversion := TypeConversion.shifting
  rw [answersOnLast_iff Crc16.modbus_dependsOnPrefix]
  rintro ⟨final, answered, _⟩
  have silent : (trace (serve .modbus) (zeroSlave 1 1).reset
      ((withChecksum .modbus [1, 1, 0, 0, 0, 8]).map .character)).toOption.map Prod.snd =
      some (List.replicate 8 none) := by
    decide +kernel
  change trace _ _ ((withChecksum .modbus [1, 1, 0, 0, 0, 8]).map LineEvent.character) = _
    at answered
  rw [answered] at silent
  cases congrArg (fun outputs => outputs.map fun outputs => outputs[7]?) silent

end ProtocolRtuSlave

end Modbus
