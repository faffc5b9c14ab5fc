import ModbusBasic.Slave.Session

namespace Modbus

open Memory TypeConversion Transition

/-!
# Published replies

A reply is well formed when it fits the response array, was written inside it,
ends with its checksum and repeats the address and the function of the request.
The slave publishes only such replies, with one exception: validation bounds
the count of a read by the size of the store alone, so a store of more than 125
registers admits reads whose reply does not fit.  `OverlongRead` names them, and
`reply_wellFormed_iff` says that they are exactly the requests that fail.
-/

variable {h i : Nat}

/-- The bytes of a response as far as its length counts them. -/
def Response.bytes (response : Response) : List UInt8 :=
  response.data.toList.take response.length

/-- What a reply to this frame has to be. -/
structure WellFormedReply (crc16 : Crc16) (address : UInt8) (function : Function)
    (body : List UInt8) (response : Response) : Prop where
  fits : response.length ≤ 256
  inside : response.Inside
  checksum : EndsWithChecksum crc16 response.bytes
  address_eq : response.bytes[0]? = some address
  function_eq : response.bytes[1]? = some function.code ∨
    response.bytes[1]? = some (function.code ||| 0x80)
  byteCount : function = .kReadMultipleHoldingRegisters ∨ function = .kReadInputRegisters ->
    response.bytes[1]? = some function.code ->
    Exists fun number : UInt8 => response.bytes[2]? = some number ∧
      number.toNat = 2 * (wordAt body 1).toNat ∧
      response.length = 3 + 2 * (wordAt body 1).toNat + 2

/-- A read of more than 125 registers, all of which the store has. -/
def OverlongRead (h i : Nat) (function : Function) (body : List UInt8) : Prop :=
  126 ≤ (wordAt body 1).toNat ∧
    (function = .kReadMultipleHoldingRegisters ∧
        InRange h (wordAt body 0).toNat (wordAt body 1).toNat ∨
      function = .kReadInputRegisters ∧
        InRange i (wordAt body 0).toNat (wordAt body 1).toNat)

instance (h i : Nat) (function : Function) (body : List UInt8) :
    Decidable (OverlongRead h i function body) :=
  inferInstanceAs (Decidable (_ ∧ _))

variable [TypeConversion]

/-- The two fields of a body that starts with them. -/
theorem wordAt_fields (first second : UInt16) (rest : List UInt8) :
    wordAt (bigEndian first.toNat ++ (bigEndian second.toNat ++ rest)) 0 = first ∧
      wordAt (bigEndian first.toNat ++ (bigEndian second.toNat ++ rest)) 1 = second := by
  constructor
  · exact (make_eq _ _).symm.trans (make_getByte first)
  · exact (make_eq _ _).symm.trans (make_getByte second)

namespace Request

/-- Among the acknowledged requests the overlong reads are those of more than
125 registers. -/
theorem overlongRead_iff (request : Request) (footer : List UInt8) :
    OverlongRead h i request.function (request.payload ++ footer) <->
      request.verdict h i = .kAck ∧ 126 ≤ request.readCount := by
  cases request with
  | readHolding address count =>
      have fields := wordAt_fields address count footer
      change 126 ≤ (wordAt (bigEndian _ ++ (bigEndian _ ++ footer)) 1).toNat ∧
        (_ ∧ InRange h (wordAt (bigEndian _ ++ (bigEndian _ ++ footer)) 0).toNat
          (wordAt (bigEndian _ ++ (bigEndian _ ++ footer)) 1).toNat ∨ _) <-> _
      rw [fields.1, fields.2, readHolding_acknowledged]
      constructor
      · rintro ⟨long, ⟨_, inRange⟩ | ⟨other, _⟩⟩
        · exact ⟨inRange, long⟩
        · cases other
      · rintro ⟨inRange, long⟩
        exact ⟨long, Or.inl ⟨rfl, inRange⟩⟩
  | readInput address count =>
      have fields := wordAt_fields address count footer
      change 126 ≤ (wordAt (bigEndian _ ++ (bigEndian _ ++ footer)) 1).toNat ∧
        (_ ∨ _ ∧ InRange i (wordAt (bigEndian _ ++ (bigEndian _ ++ footer)) 0).toNat
          (wordAt (bigEndian _ ++ (bigEndian _ ++ footer)) 1).toNat) <-> _
      rw [fields.1, fields.2, readInput_acknowledged]
      constructor
      · rintro ⟨long, ⟨other, _⟩ | ⟨_, inRange⟩⟩
        · cases other
        · exact ⟨inRange, long⟩
      · rintro ⟨inRange, long⟩
        exact ⟨long, Or.inr ⟨rfl, inRange⟩⟩
  | writeSingle address value =>
      constructor
      · rintro ⟨_, ⟨other, _⟩ | ⟨other, _⟩⟩
        · cases other
        · cases other
      · rintro ⟨_, long⟩
        exact absurd long (Nat.not_succ_le_zero 125)
  | writeMultiple address count data =>
      constructor
      · rintro ⟨_, ⟨other, _⟩ | ⟨other, _⟩⟩
        · cases other
        · cases other
      · rintro ⟨_, long⟩
        exact absurd long (Nat.not_succ_le_zero 125)

end Request

/-! ## Replies that fit -/

section Replies

variable {crc16 : Crc16} {address : UInt8} {function : Function} {body : List UInt8}

omit [TypeConversion] in
theorem Carries.bytes_eq {response : Response} {bytes : List UInt8}
    (carries : Carries response bytes) : response.bytes = bytes := by
  rw [Response.bytes, carries.length_eq, carries.data_eq]

omit [TypeConversion] in
/-- An exception reply is well formed. -/
private theorem wellFormedReply_refused {response : Response} {exception : Exception}
    (valid : functionCodeIsValid function.code = true)
    (carries : Carries response
      (withChecksum crc16 [address, (getErrorFunction function).code, exception.code])) :
    WellFormedReply crc16 address function body response := by
  have marks : forall listed, listed ∈ getValidFunctions ->
      (getErrorFunction listed).code = listed.code ||| 0x80 ∧
        (getErrorFunction listed).code ≠ listed.code := by decide
  have marked := marks function ((functionCodeIsValid_iff function.code).mp valid)
  have contents := carries.bytes_eq
  refine ⟨carries.length_le, carries.inside, ?_, ?_, Or.inr ?_, fun _ plain => ?_⟩
  · rw [contents]
    exact endsWithChecksum_withChecksum crc16 _
  · rw [contents]
    rfl
  · rw [contents, ← marked.1]
    rfl
  · rw [contents] at plain
    exact absurd (Option.some.inj plain) marked.2

omit [TypeConversion] in
/-- A reply that starts like the request is well formed when, for a read, its
data are the byte count and the values. -/
private theorem wellFormedReply_performed {response : Response} {data : List UInt8}
    (carries : Carries response (withChecksum crc16 (address :: function.code :: data)))
    (counted : function = .kReadMultipleHoldingRegisters ∨ function = .kReadInputRegisters ->
      Exists fun number : UInt8 => Exists fun values : List UInt8 => data = number :: values ∧
        number.toNat = 2 * (wordAt body 1).toNat ∧ values.length = 2 * (wordAt body 1).toNat) :
    WellFormedReply crc16 address function body response := by
  have contents := carries.bytes_eq
  refine ⟨carries.length_le, carries.inside, ?_, ?_, Or.inl ?_, fun read _ => ?_⟩
  · rw [contents]
    exact endsWithChecksum_withChecksum crc16 _
  · rw [contents]
    rfl
  · rw [contents]
    rfl
  · rcases counted read with ⟨number, values, split, numberEq, length⟩
    refine ⟨number, ?_, numberEq, ?_⟩
    · rw [contents, split]
      rfl
    · rw [carries.length_eq, withChecksum_length, split, List.length_cons, List.length_cons,
        List.length_cons, length]
      omega

end Replies

/-- The byte count and the values behind it, when a read executes. -/
theorem Executes.reading {H I : Type} [RegisterCallbacks H] [RegisterData I] {holding next : H}
    {input : I} {request : Request} {data : List UInt8}
    (executes : Executes holding input request next data) (short : request.readCount ≤ 125)
    (footer : List UInt8)
    (read : request.function = .kReadMultipleHoldingRegisters ∨
      request.function = .kReadInputRegisters) :
    Exists fun number : UInt8 => Exists fun values : List UInt8 => data = number :: values ∧
      number.toNat = 2 * (wordAt (request.payload ++ footer) 1).toNat ∧
      values.length = 2 * (wordAt (request.payload ++ footer) 1).toNat := by
  cases executes with
  | @readHolding address count bytes valid bound reads =>
      have field : wordAt ((Request.readHolding address count).payload ++ footer) 1 = count :=
        (wordAt_fields address count footer).2
      have few : count.toNat ≤ 125 := short
      rw [field]
      refine ⟨_, bytes, rfl, ?_, reads.1⟩
      rw [UInt8.toNat_ofNat']
      omega
  | @readInput address count bytes valid bound reads =>
      have field : wordAt ((Request.readInput address count).payload ++ footer) 1 = count :=
        (wordAt_fields address count footer).2
      have few : count.toNat ≤ 125 := short
      rw [field]
      refine ⟨_, bytes, rfl, ?_, reads.1⟩
      rw [UInt8.toNat_ofNat']
      omega
  | writeSingle stored notified =>
      rcases read with same | same
      · cases same
      · cases same
  | writeMultiple size stored notified =>
      rcases read with same | same
      · cases same
      · cases same

namespace ProtocolRtuSlave

section Outcomes

variable {crc16 : Crc16} (depends : crc16.DependsOnPrefix) {slave : Stores h i}
  {function : Function} {body : List UInt8}
  (holds : Holds slave.slave.framein slave.slaveAddress function body)
  (whole : body.length = expectedLength function body) (fits : body.length ≤ 254)
  (valid : EndsWithChecksum crc16 (slave.slaveAddress :: function.code :: body))

include depends holds whole fits valid

theorem processMessage_replies (listed : functionCodeIsValid function.code = true)
    (short : ¬ OverlongRead h i function body) :
    Exists fun result => slave.processMessage crc16 = .ok result ∧
      WellFormedReply crc16 slave.slaveAddress function body result.getResponse := by
  have accepts : slave.Accepts crc16 (slave.slaveAddress :: function.code :: body) := ⟨rfl, valid⟩
  rcases validateMessage_complete holds whole with
    ⟨request, footer, rfl, rfl, acknowledged, validated⟩ | ⟨exception, validated, refused⟩
  · have few : request.readCount ≤ 125 := by
      apply Nat.le_of_not_lt
      intro long
      exact short ((request.overlongRead_iff footer).mpr ⟨acknowledged, long⟩)
    rcases executes_acknowledged slave.holdingRegisterController.registerData
      slave.inputRegisterController.registerData acknowledged (Nat.le_succ_of_le few) with
      ⟨next, data, executes, _⟩
    have answerLength : data.length + 4 ≤ 256 := by
      have lengths := executes.data_length
      omega
    rcases processMessage_performed depends holds fits validated accepts executes answerLength
      with ⟨response, completes, carries⟩
    exact ⟨_, completes, wellFormedReply_performed carries (executes.reading few footer)⟩
  · rcases processMessage_refused depends holds fits validated accepts refused with
      ⟨response, completes, carries⟩
    exact ⟨_, completes, wellFormedReply_refused listed carries⟩

/-- An overlong read, if it completes at all, publishes more than 256 bytes. -/
theorem processMessage_overlong (long : OverlongRead h i function body) {result : Stores h i}
    (completes : slave.processMessage crc16 = .ok result) :
    result.getResponseValid = true ∧ 256 < result.getResponse.getLength := by
  have accepts : slave.Accepts crc16 (slave.slaveAddress :: function.code :: body) := ⟨rfl, valid⟩
  have read : function = .kReadMultipleHoldingRegisters ∨ function = .kReadInputRegisters :=
    long.2.imp And.left And.left
  have implemented : function ∈ implimentedFunctions := by
    rcases read with rfl | rfl
    · decide
    · decide
  rcases request_of_complete implemented whole with
    ⟨request, footer, rfl, rfl, twoBytes, countable⟩
  have acknowledged := (request.overlongRead_iff footer).mp long
  have validated := validateMessage_verdict countable holds
  rw [processMessage_eq depends holds fits validated, if_pos accepts,
    if_pos acknowledged.1] at completes
  rcases bind_eq_ok.mp completes with ⟨handled, ran, same⟩
  cases same
  have published := runCommand_read read holds ran
  refine ⟨published.1, ?_⟩
  rw [published.2]
  omega

end Outcomes

end ProtocolRtuSlave

open ProtocolRtuSlave in
/-- The slave answers a frame with a well-formed reply, or not at all, exactly
when the frame is not an overlong read. -/
theorem reply_wellFormed_iff {crc16 : Crc16} (depends : crc16.DependsOnPrefix)
    (slave : Stores h i) {bytes : List UInt8} (within : WithinFrames bytes) {function : Function}
    {body : List UInt8}
    (received : bytes.foldl Progress.advance .idle = .complete slave.slaveAddress function body)
    (valid : EndsWithChecksum crc16 (slave.slaveAddress :: function.code :: body)) :
    (Exists fun fed => run processCharacter slave.reset bytes = .ok fed ∧
      Exists fun result => fed.processMessage crc16 = .ok result ∧
        (result.getResponseValid = true ->
          WellFormedReply crc16 slave.slaveAddress function body result.getResponse)) <->
      ¬ OverlongRead h i function body := by
  rcases run_complete slave.reset_waiting within received with
    ⟨reader, completes, holds, whole, fits, listed⟩
  let fed := slave.reset.withReader reader
  have inBuffer : Holds fed.slave.framein fed.slaveAddress function body := holds
  constructor
  · rintro ⟨other, sameFed, result, processed, answered⟩ long
    rw [completes] at sameFed
    cases sameFed
    have published := processMessage_overlong depends inBuffer whole fits valid long processed
    exact absurd (answered published.1).fits (Nat.not_le_of_lt published.2)
  · intro short
    rcases processMessage_replies depends inBuffer whole fits valid listed short with
      ⟨result, processed, answered⟩
    exact ⟨fed, completes, result, processed, fun _ => answered⟩

omit [TypeConversion] in
open ProtocolRtuSlave in
/-- A read of two registers is answered well. -/
theorem reply_wellFormed_modbus :
    letI := TypeConversion.shifting
    Exists fun fed => run processCharacter (zeroSlave 2 1).reset [1, 3, 0, 0, 0, 2, 196, 11] =
        .ok fed ∧
      Exists fun result => fed.processMessage .modbus = .ok result ∧
        (result.getResponseValid = true -> WellFormedReply .modbus 1 .kReadMultipleHoldingRegisters
          [0, 0, 0, 2, 196, 11] result.getResponse) := by
  let conversion := TypeConversion.shifting
  let body : List UInt8 := [0, 0, 0, 2, 196, 11]
  have whole : body.length = expectedLength ⟨3⟩ body := rfl
  have within : WithinFrames (1 :: 3 :: body) := permitted_frame 1 (by decide) whole (by decide)
  have received : (1 :: 3 :: body).foldl Progress.advance .idle =
    .complete 1 .kReadMultipleHoldingRegisters body := by decide
  exact (reply_wellFormed_iff Crc16.modbus_dependsOnPrefix (zeroSlave 2 1) within received
    (by decide +kernel)).mpr (by decide)

omit [TypeConversion] in
open ProtocolRtuSlave in
/-- A read of 126 registers is answered with 257 bytes, and the last byte of the
checksum is written to the first cell. -/
theorem reply_of_126_registers :
    letI := TypeConversion.shifting
    EndsWithChecksum .modbus [1, 3, 0, 0, 0, 126, 197, 234] ∧
      Exists fun fed => run processCharacter (zeroSlave 126 1).reset
        [1, 3, 0, 0, 0, 126, 197, 234] = .ok fed ∧
      Exists fun result => fed.processMessage .modbus = .ok result ∧
        result.getResponseValid = true ∧ result.getResponse.getLength = 257 ∧
        256 ∈ result.getResponse.touched ∧
        ¬ WellFormedReply .modbus 1 .kReadMultipleHoldingRegisters [0, 0, 0, 126, 197, 234]
          result.getResponse := by
  let conversion := TypeConversion.shifting
  let answered := run processCharacter (zeroSlave 126 1).reset [1, 3, 0, 0, 0, 126, 197, 234] >>=
    fun fed => fed.processMessage .modbus >>= fun result =>
      .ok (result.getResponseValid, result.getResponse.getLength,
        decide (256 ∈ result.getResponse.touched))
  have evaluated : answered = .ok (true, 257, true) := by decide +kernel
  rcases bind_eq_ok.mp evaluated with ⟨fed, completes, later⟩
  rcases bind_eq_ok.mp later with ⟨result, processed, seen⟩
  have parts := Except.ok.inj seen
  simp only [Prod.mk.injEq, decide_eq_true_eq] at parts
  refine ⟨by decide +kernel, fed, completes, result, processed, parts.1, parts.2.1, parts.2.2, ?_⟩
  intro wellFormed
  have fits := wellFormed.fits
  rw [show result.getResponse.length = 257 from parts.2.1] at fits
  exact absurd fits (by decide)

end Modbus
