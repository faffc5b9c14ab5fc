import ModbusBasic.Slave.Driver

namespace Modbus

open Memory TypeConversion Transition

/-!
# Sessions refine the register file

A master sends requests, each fed byte by byte and then processed, and may give
up in the middle of any frame, after which the slave is reset.  After every
request the registers and the reply are those of the register file machine.
-/

variable {h i : Nat}

/-- A request as it travels to the slave with this address. -/
def Request.wire (crc16 : Crc16) (address : UInt8) (request : Request) : List UInt8 :=
  withChecksum crc16 (address :: request.function.code :: request.payload)

inductive SessionEvent
  | request (request : Request)
  | abandoned (bytes : List UInt8)
deriving DecidableEq

/-- A proper front of a frame of at most 256 bytes, to any slave. -/
def IncompleteFrame (bytes : List UInt8) : Prop :=
  Exists fun rest : List UInt8 => Exists fun address : UInt8 => Exists fun code : UInt8 =>
    Exists fun body : List UInt8 => rest ≠ [] ∧ bytes ++ rest = address :: code :: body ∧
      functionCodeIsValid code = true ∧ body.length = expectedLength ⟨code⟩ body ∧
      body.length + 2 ≤ 256

/-- The requests of a session: at most 125 registers read, at most 246 data
bytes written. -/
def SessionEvent.WellFormed : SessionEvent -> Prop
  | request (.writeMultiple _ _ data) => data.length ≤ 246
  | request other => other.readCount ≤ 125
  | abandoned bytes => IncompleteFrame bytes

/-- What can be seen after a request. -/
structure Observation (h i : Nat) where
  holding : Bank h
  input : Bank i
  reply : Option (List UInt8)

namespace ProtocolRtuSlave

/-- The slave over the two stores of the library. -/
abbrev Stores (h i : Nat) := ProtocolRtuSlave (UpdatingRegisterDataStore h) (RegisterDataStore i)

/-- The register file the slave keeps. -/
def file (slave : Stores h i) : RegisterFile h i :=
  registerFile slave.holdingRegisterController.registerData
    slave.inputRegisterController.registerData

def observe (slave : Stores h i) : Observation h i :=
  { holding := slave.file.holding, input := slave.file.input, reply := slave.published }

def attend [TypeConversion] (crc16 : Crc16) (slave : Stores h i) :
    SessionEvent -> Checked (Stores h i × Option (Observation h i))
  | .request request => do
      let slave <- run processCharacter slave (request.wire crc16 slave.getAddress)
      let slave <- slave.processMessage crc16
      return (slave.reset, some slave.observe)
  | .abandoned bytes => do
      let slave <- run processCharacter slave bytes
      return (slave.reset, none)

end ProtocolRtuSlave

/-- The slave at address 1 with this many registers, all zero. -/
def zeroSlave (h i : Nat) : ProtocolRtuSlave.Stores h i :=
  { slaveAddress := 1
    holdingRegisterController :=
      ⟨{ dataStore := Vector.replicate h 0, flags := Vector.replicate h false }⟩
    inputRegisterController := ⟨{ dataStore := Vector.replicate i 0 }⟩ }

/-- The same for the register file; an abandoned frame leaves no trace. -/
def RegisterFile.attend (crc16 : Crc16) (address : UInt8) (file : RegisterFile h i) :
    SessionEvent -> RegisterFile h i × Option (Observation h i)
  | .request request =>
      let next := file.perform request
      (next.1, some { holding := next.1.holding, input := next.1.input,
                      reply := some (withChecksum crc16 (address :: next.2)) })
  | .abandoned _ => (file, none)

/-! ## One request -/

theorem Request.wellFormedPayload {request : Request} (countable : request.Countable) :
    WellFormedPayload request.function request.payload := by
  cases request with
  | readHolding address count => rfl
  | readInput address count => rfl
  | writeSingle address value => rfl
  | writeMultiple address count data =>
      refine ⟨UInt8.ofNat data.length, rfl, ?_⟩
      rw [UInt8.toNat_ofNat_of_lt' countable]
      exact Nat.add_comm data.length 5

theorem Request.supported (request : Request) : request.function ∈ getSupportedFunctions :=
  ProtocolRtuSlave.function_implemented request

namespace ProtocolRtuSlave

variable {H I : Type}

/-- Feeding a request to a waiting slave completes exactly that frame. -/
theorem run_request {slave : ProtocolRtuSlave H I} (waiting : slave.Waiting) (crc16 : Crc16)
    (address : UInt8) {request : Request} (countable : request.Countable)
    (fits : request.payload.length ≤ 252) :
    Exists fun reader =>
      run processCharacter slave (request.wire crc16 address) = .ok (slave.withReader reader) ∧
        Holds reader.2 address request.function (request.payload ++
          bigEndian (checksum crc16 (address :: request.function.code :: request.payload)).toNat) := by
  let footer := bigEndian (checksum crc16 (address :: request.function.code :: request.payload)).toNat
  have whole : (request.payload ++ footer).length =
      expectedLength request.function (request.payload ++ footer) :=
    expectedLength_request request.supported (request.wellFormedPayload countable)
      (bigEndian_length _)
  have size : (request.payload ++ footer).length = request.payload.length + 2 := by
    rw [List.length_append]
    rfl
  have valid := supported_valid request.supported
  rcases run_represents waiting (permitted_frame address valid whole (by omega)) with
    ⟨reader, completes, represents⟩
  rw [Progress.foldl_frame address valid whole] at represents
  exact ⟨reader, completes, represents.1⟩

/-- A published response is the bytes it carries. -/
theorem published_respond (slave : ProtocolRtuSlave H I) {response : Response}
    {bytes : List UInt8} (carries : Carries response bytes) :
    (slave.respond response).published = some bytes := by
  change some (response.data.toList.take response.length) = _
  rw [carries.length_eq, carries.data_eq]

end ProtocolRtuSlave

/-! ## Refinement -/

variable [TypeConversion]

namespace ProtocolRtuSlave

/-- A waiting slave with this address that keeps this register file. -/
def Keeps (address : UInt8) (file : RegisterFile h i) (slave : Stores h i) : Prop :=
  slave.Waiting ∧ slave.slaveAddress = address ∧ slave.file = file

/-- What validation finds about a request on the two stores. -/
theorem validateMessage_verdict {slave : Stores h i} {address : UInt8} {request : Request}
    {footer : List UInt8} (countable : request.Countable)
    (holds : Holds slave.slave.framein address request.function (request.payload ++ footer)) :
    slave.validateMessage slave.slave.framein = .ok (request.verdict h i) :=
  validateMessage_request slave.holdingRegisterController.registerData.ranged
    slave.inputRegisterController.registerData.ranged countable holds

/-- A complete frame holds a request that is acknowledged, or it is refused. -/
theorem validateMessage_complete {slave : Stores h i} {address : UInt8} {function : Function}
    {body : List UInt8} (holds : Holds slave.slave.framein address function body)
    (whole : body.length = expectedLength function body) :
    (Exists fun request : Request => Exists fun footer : List UInt8 =>
      request.function = function ∧ body = request.payload ++ footer ∧
        request.verdict h i = .kAck ∧ slave.validateMessage slave.slave.framein = .ok .kAck) ∨
    Exists fun exception : Exception =>
      slave.validateMessage slave.slave.framein = .ok exception ∧ exception ≠ .kAck := by
  by_cases implemented : function ∈ implimentedFunctions
  · rcases request_of_complete implemented whole with ⟨request, footer, rfl, rfl, _, countable⟩
    have validated := validateMessage_verdict countable holds
    by_cases acknowledged : request.verdict h i = .kAck
    · rw [acknowledged] at validated
      exact Or.inl ⟨request, footer, rfl, rfl, acknowledged, validated⟩
    · exact Or.inr ⟨_, validated, acknowledged⟩
  · right
    refine ⟨.kIllegalFunction, validateMessage_unsupported ?_, by decide⟩
    rw [holds.function_eq]
    exact implemented

/-- Processing a request that has been received: the registers and the reply
are those of the register file machine. -/
theorem processMessage_refines {crc16 : Crc16} (depends : crc16.DependsOnPrefix)
    (holdingSmall : h ≤ 65536) (inputSmall : i ≤ 65536) {slave : Stores h i} {request : Request}
    (countable : request.Countable) (short : request.readCount ≤ 125)
    (fits : request.payload.length ≤ 252)
    (holds : Holds slave.slave.framein slave.slaveAddress request.function (request.payload ++
      bigEndian (checksum crc16
        (slave.slaveAddress :: request.function.code :: request.payload)).toNat)) :
    Exists fun result => slave.processMessage crc16 = .ok result ∧
      result.slaveAddress = slave.slaveAddress ∧
      result.file = (slave.file.perform request).1 ∧
      result.published =
        some (withChecksum crc16 (slave.slaveAddress :: (slave.file.perform request).2)) := by
  let raw := slave.slaveAddress :: request.function.code :: request.payload
  have accepts : slave.Accepts crc16 (raw ++ bigEndian (checksum crc16 raw).toNat) :=
    ⟨rfl, endsWithChecksum_withChecksum crc16 raw⟩
  have size : (request.payload ++ bigEndian (checksum crc16 raw).toNat).length ≤ 254 := by
    rw [List.length_append]
    exact Nat.add_le_add_right fits 2
  have validated := validateMessage_verdict countable holds
  by_cases acknowledged : request.verdict h i = .kAck
  · rcases executes_registerFile slave.holdingRegisterController.registerData
      slave.inputRegisterController.registerData holdingSmall inputSmall acknowledged
      (Nat.le_succ_of_le short) with ⟨next, executes, written, _⟩
    have answerLength : (slave.file.answer request).length + 4 ≤ 256 := by
      have lengths := executes.data_length
      change (slave.file.answer request).length = _ ∨ (slave.file.answer request).length = _ at lengths
      omega
    rw [acknowledged] at validated
    rcases processMessage_performed depends holds size validated accepts executes answerLength with
      ⟨response, completes, carries⟩
    rw [RegisterFile.perform_ack _ acknowledged]
    refine ⟨_, completes, rfl, ?_, published_respond _ carries⟩
    change ({ holding := next.toRegisterDataStore.bank, input := _ } : RegisterFile h i) = _
    rw [written]
    rfl
  · rcases processMessage_refused depends holds size validated accepts acknowledged with
      ⟨response, completes, carries⟩
    have marked : (getErrorFunction request.function).code = request.function.code + 0x80 := by
      cases request <;> rfl
    rw [marked] at carries
    rw [RegisterFile.perform_refused _ acknowledged]
    exact ⟨_, completes, rfl, rfl, published_respond _ carries⟩

/-- One event of a session. -/
theorem attend_refines {crc16 : Crc16} (depends : crc16.DependsOnPrefix)
    (holdingSmall : h ≤ 65536) (inputSmall : i ≤ 65536) {address : UInt8}
    {file : RegisterFile h i} {slave : Stores h i} {event : SessionEvent}
    (keeps : Keeps address file slave) (wellFormed : event.WellFormed) :
    Exists fun next =>
      slave.attend crc16 event = .ok (next, (file.attend crc16 address event).2) ∧
        Keeps address (file.attend crc16 address event).1 next := by
  rcases keeps with ⟨waiting, rfl, rfl⟩
  cases event with
  | abandoned bytes =>
      rcases wellFormed with ⟨rest, other, code, body, proper, split, valid, whole, fits⟩
      have room : Permitted Progress.advance (HasRoom 256) .idle (bytes ++ rest) := by
        rw [split]
        exact permitted_frame other valid whole (by omega)
      rcases run_represents waiting (permitted_front room) with ⟨reader, completes, _⟩
      refine ⟨(slave.withReader reader).reset, ?_, reset_waiting _, rfl, rfl⟩
      simp only [attend, completes, ok_bind, pure_eq_ok]
      rfl
  | request request =>
      have bounds : request.Countable ∧ request.readCount ≤ 125 ∧ request.payload.length ≤ 252 := by
        cases request with
        | readHolding start count => exact ⟨True.intro, wellFormed, by simp [Request.payload]⟩
        | readInput start count => exact ⟨True.intro, wellFormed, by simp [Request.payload]⟩
        | writeSingle start value => exact ⟨True.intro, wellFormed, by simp [Request.payload]⟩
        | writeMultiple start count data =>
            have few : data.length ≤ 246 := wellFormed
            exact ⟨by change data.length < 256; omega, Nat.zero_le _,
              by change data.length + 5 ≤ 252; omega⟩
      rcases run_request waiting crc16 slave.slaveAddress bounds.1 bounds.2.2 with
        ⟨reader, completes, holds⟩
      have received : Holds (slave.withReader reader).slave.framein
        (slave.withReader reader).slaveAddress request.function _ := holds
      rcases processMessage_refines depends holdingSmall inputSmall bounds.1 bounds.2.1 bounds.2.2
        received with ⟨result, processed, sameAddress, sameFile, published⟩
      refine ⟨result.reset, ?_, reset_waiting _, sameAddress, sameFile⟩
      have fed : run processCharacter slave (request.wire crc16 slave.getAddress) =
        .ok (slave.withReader reader) := completes
      simp only [attend, fed, ok_bind, processed, pure_eq_ok, observe, sameFile, published]
      rfl

end ProtocolRtuSlave

open ProtocolRtuSlave in
/-- After every request of a session the two register arrays and the reply are
those of the register file machine, whatever was abandoned in between. -/
theorem session_refines_registerFile {crc16 : Crc16} (depends : crc16.DependsOnPrefix)
    (holdingSmall : h ≤ 65536) (inputSmall : i ≤ 65536) (address : UInt8)
    (holding : UpdatingRegisterDataStore h) (input : RegisterDataStore i)
    (events : List SessionEvent) (wellFormed : forall event, event ∈ events -> event.WellFormed) :
    Exists fun final : Stores h i =>
      trace (attend crc16) { slaveAddress := address, holdingRegisterController := ⟨holding⟩,
                             inputRegisterController := ⟨input⟩ } events =
        .ok (final, (behaviour (RegisterFile.attend crc16 address) (registerFile holding input)
          events).2) ∧
      final.file =
        (behaviour (RegisterFile.attend crc16 address) (registerFile holding input) events).1 := by
  have start : Keeps address (registerFile holding input)
      { slaveAddress := address, holdingRegisterController := ⟨holding⟩,
        inputRegisterController := ⟨input⟩ } := ⟨⟨rfl, rfl⟩, rfl, rfl⟩
  rcases trace_refines (attend crc16) (RegisterFile.attend crc16 address) SessionEvent.WellFormed
    (Keeps address) (fun _ _ _ => attend_refines depends holdingSmall inputSmall) start wellFormed
    with ⟨final, completes, keeps⟩
  exact ⟨final, completes, keeps.2.2⟩

omit [TypeConversion] in
open ProtocolRtuSlave in
/-- A read that is given up, a write and a read of two registers. -/
theorem session_refines_registerFile_modbus :
    letI := TypeConversion.shifting
    letI slave : Stores 2 1 :=
      { slaveAddress := 1
        holdingRegisterController := ⟨{ dataStore := #v[5, 6], flags := #v[false, false] }⟩
        inputRegisterController := ⟨{ dataStore := #v[9] }⟩ }
    Exists fun final => Exists fun observations =>
      trace (attend .modbus) slave [.abandoned [1, 3, 0], .request (.writeSingle 1 0x0207),
        .request (.readHolding 0 2)] = .ok (final, observations) ∧
      observations.map (fun observation => observation.bind fun seen => seen.reply) =
        [none, some [1, 6, 0, 1, 2, 7, 0x98, 0xA8],
          some [1, 3, 4, 0, 5, 2, 7, 0xAA, 0x90]] := by
  let conversion := TypeConversion.shifting
  have incomplete : IncompleteFrame [1, 3, 0] :=
    ⟨[0, 0, 1, 0, 0], 1, 3, [0, 0, 0, 1, 0, 0], by decide, rfl, by decide, rfl, by decide⟩
  rcases session_refines_registerFile Crc16.modbus_dependsOnPrefix (by decide) (by decide) 1
    { dataStore := #v[5, 6], flags := #v[false, false] } { dataStore := #v[9] }
    [.abandoned [1, 3, 0], .request (.writeSingle 1 0x0207), .request (.readHolding 0 2)] (by
      intro event member
      rcases List.mem_cons.mp member with rfl | member
      · exact incomplete
      · rcases List.mem_cons.mp member with rfl | member
        · exact Nat.zero_le _
        · rw [List.mem_singleton.mp member]
          exact (by decide : 2 ≤ 125)) with ⟨final, completes, _⟩
  exact ⟨final, _, completes, by decide +kernel⟩

end Modbus
