import ModbusBasic.Reader.Simulation
import ModbusBasic.Protocol.Framing

namespace Modbus

open Memory TypeConversion Transition

/-!
# The streaming reader and the buffer codec

A request that `ProtocolRtu::Frame` wrote, fed byte by byte to a reader that
has just been reset, is decoded to what `ReadFrame` finds in the same buffer.
Pairs of an address and an invalid function byte in front of it change nothing.
-/

variable [TypeConversion] {n : Nat}

/-- The payloads of the supported requests: four bytes, or for a multiple write
five bytes of which the last counts the data bytes behind it. -/
def WellFormedPayload (function : Function) (payload : List UInt8) : Prop :=
  if function = .kWriteMultipleHoldingRegisters then
    Exists fun count : UInt8 => payload[4]? = some count ∧ payload.length = 5 + count.toNat
  else payload.length = 4

omit [TypeConversion] in
/-- With its checksum a supported request is as long as the reader expects. -/
theorem expectedLength_request {function : Function} (supported : function ∈ getSupportedFunctions)
    {payload footer : List UInt8} (wellFormed : WellFormedPayload function payload)
    (twoBytes : footer.length = 2) :
    (payload ++ footer).length = expectedLength function (payload ++ footer) := by
  rw [List.length_append, twoBytes]
  unfold WellFormedPayload at wellFormed
  rcases function_cases function with rfl | rfl | rfl | rfl | other
  · change payload.length = 4 at wellFormed
    rw [wellFormed]
    rfl
  · change payload.length = 4 at wellFormed
    rw [wellFormed]
    rfl
  · change payload.length = 4 at wellFormed
    rw [wellFormed]
    rfl
  · rw [if_pos rfl] at wellFormed
    rcases wellFormed with ⟨count, counted, size⟩
    change payload.length + 2 = 7 + ((payload ++ footer).getD 4 0).toNat
    rw [List.getD_append _ _ _ _ (by omega), List.getD_eq_getElem?_getD, counted, size]
    change 5 + count.toNat + 2 = 7 + count.toNat
    omega
  · have listed : function = .kReadMultipleHoldingRegisters ∨ function = .kReadInputRegisters ∨
        function = .kWriteSingleHoldingRegister ∨ function = .kWriteMultipleHoldingRegisters := by
      simpa [getSupportedFunctions] using supported
    rcases listed with same | same | same | same
    · exact absurd same other.1
    · exact absurd same other.2.1
    · exact absurd same other.2.2.1
    · exact absurd same other.2.2.2

omit [TypeConversion] in
theorem supported_valid {function : Function} (supported : function ∈ getSupportedFunctions) :
    functionCodeIsValid function.code = true := by
  rw [functionCodeIsValid_iff]
  have all : forall listed, listed ∈ getSupportedFunctions -> listed ∈ getValidFunctions := by
    decide
  exact all function supported

/-- The bytes of some junk pairs. -/
def junkBytes (junk : List (UInt8 × UInt8)) : List UInt8 :=
  junk.flatMap fun pair => [pair.1, pair.2]

omit [TypeConversion] in
/-- Feeding junk and then a whole frame to a fresh reader: no packet is reported
before the last byte, and the last byte completes the frame. -/
theorem read_frame_after_junk (context : ReadContext) {frame : Frame n}
    (junk : List (UInt8 × UInt8))
    (invalid : forall pair, pair ∈ junk -> functionCodeIsValid pair.2 = false)
    (empty : frame.dataLength = 0) (address : UInt8) {function : Function} {body : List UInt8}
    (valid : functionCodeIsValid function.code)
    (whole : body.length = expectedLength function body) (fits : body.length ≤ n) :
    (forall front rest, junkBytes junk ++ address :: function.code :: body = front ++ rest ->
      rest ≠ [] -> Exists fun result => run readStep (context.reset, frame) front = .ok result ∧
        result.1.packetReceived = false) ∧
    Exists fun result =>
      run readStep (context.reset, frame) (junkBytes junk ++ address :: function.code :: body) =
        .ok result ∧ result.1.packetReceived = true ∧ Holds result.2 address function body := by
  have start : Represents .idle (context.reset, frame) := ⟨rfl, empty⟩
  have skipped := Progress.foldl_junk junk invalid
  have room : Permitted Progress.advance (HasRoom n) .idle
      (junkBytes junk ++ address :: function.code :: body) := by
    apply (permitted_append _ _ _ _ _).mpr
    refine ⟨permitted_junk n junk invalid, ?_⟩
    rw [junkBytes, skipped]
    exact permitted_frame address valid whole fits
  constructor
  · intro front rest split proper
    rw [split] at room
    rcases read_simulates start (permitted_front room) with ⟨result, completes, represents⟩
    refine ⟨result, completes, ?_⟩
    rw [represents.packetReceived]
    cases finished : (front.foldl Progress.advance .idle).isComplete with
    | false => rfl
    | true =>
        -- A complete frame leaves no room for the byte that follows.
        have next := ((permitted_append _ _ _ _ _).mp room).2
        cases rest with
        | nil => exact absurd rfl proper
        | cons byte tail =>
            have blocked := next.1
            cases reached : front.foldl Progress.advance .idle with
            | idle => rw [reached] at finished; cases finished
            | addressed => rw [reached] at finished; cases finished
            | receiving => rw [reached] at finished; cases finished
            | complete =>
                rw [reached] at blocked
                exact False.elim blocked
  · rcases read_simulates start room with ⟨result, completes, represents⟩
    have finished : (junkBytes junk ++ address :: function.code :: body).foldl Progress.advance
        .idle = .complete address function body := by
      rw [List.foldl_append, junkBytes, skipped]
      exact Progress.foldl_frame address valid whole
    have received := represents.packetReceived
    rw [finished] at represents received
    exact ⟨result, completes, received, represents.1⟩

/-- The two decoders agree on every supported request, after any junk. -/
theorem reader_agrees_with_readFrame {crc16 : Crc16} (depends : crc16.DependsOnPrefix)
    (context : ReadContext) (frame : Frame 256) (empty : frame.dataLength = 0)
    (junk : List (UInt8 × UInt8))
    (invalid : forall pair, pair ∈ junk -> functionCodeIsValid pair.2 = false)
    {packet : Frame n} {address : UInt8} {function : Function} {payload : List UInt8}
    (holds : Holds packet address function payload) (supported : function ∈ getSupportedFunctions)
    (wellFormed : WellFormedPayload function payload) (short : payload.length + 4 ≤ 256)
    (frameBuffer : Vector UInt8 (payload.length + 4)) :
    Exists fun buffer => ProtocolRtu.frame crc16 packet frameBuffer = .ok buffer ∧
      (forall front rest, junkBytes junk ++ buffer.toList = front ++ rest -> rest ≠ [] ->
        Exists fun result => run readStep (context.reset, frame) front = .ok result ∧
          result.1.packetReceived = false) ∧
      Exists fun result =>
        run readStep (context.reset, frame) (junkBytes junk ++ buffer.toList) = .ok result ∧
        result.1.packetReceived = true ∧
        ProtocolRtu.frameCrcIsValid crc16 result.2 = .ok true ∧
        forall (m : Nat) (target : Frame m), payload.length ≤ m ->
          Exists fun decoded => ProtocolRtu.readFrame buffer.toList target = .ok decoded ∧
            result.2.address = decoded.address ∧ result.2.function = decoded.function ∧
            result.2.dataLength = decoded.dataLength + 2 ∧
            result.2.dataArray.toList.take result.2.dataLength =
              decoded.dataArray.toList.take decoded.dataLength ++
                buffer.toList.drop (payload.length + 2) := by
  rcases frame_eq depends holds frameBuffer rfl with ⟨buffer, encoded, wire⟩
  let footer := bigEndian (checksum crc16 (address :: function.code :: payload)).toNat
  have split : buffer.toList = address :: function.code :: (payload ++ footer) := wire
  have bodyLength : (payload ++ footer).length = payload.length + 2 := by
    rw [List.length_append]
    rfl
  have whole : (payload ++ footer).length = expectedLength function (payload ++ footer) :=
    expectedLength_request supported wellFormed (bigEndian_length _)
  have read := read_frame_after_junk context junk invalid empty address (supported_valid supported)
    whole (by omega)
  rw [← split] at read
  rcases read with ⟨earlier, result, completes, received, body⟩
  refine ⟨buffer, encoded, earlier, result, completes, received, ?_, ?_⟩
  · rw [frameCrcIsValid_eq crc16 body (by omega), ← split,
      frameCrcIsValidView_eq depends (by rw [Vector.length_toList]; omega), wire,
      decide_eq_true (endsWithChecksum_withChecksum crc16 _)]
  · intro m target capacity
    rcases readFrame_eq wire rfl target capacity with ⟨decoded, taken, parts⟩
    refine ⟨decoded, taken, body.address_eq.trans parts.address_eq.symm,
      body.function_eq.trans parts.function_eq.symm, ?_, ?_⟩
    · rw [body.dataLength_eq, parts.dataLength_eq, bodyLength]
    · rw [body.dataLength_eq, body.dataArray_eq, parts.dataLength_eq, parts.dataArray_eq, split]
      change payload ++ footer = payload ++ (payload ++ footer).drop payload.length
      rw [List.drop_left' rfl]

omit [TypeConversion] in
/-- A request to read one register behind one junk pair. -/
theorem reader_agrees_with_readFrame_modbus :
    letI := TypeConversion.shifting
    letI packet : Frame 4 :=
      { address := 1, function := .kReadMultipleHoldingRegisters, dataLength := 4,
        dataArray := #v[0, 0, 0, 1] }
    letI fresh : Frame 256 := { dataArray := Vector.replicate 256 0 }
    Exists fun buffer : Vector UInt8 8 =>
      ProtocolRtu.frame .modbus packet (Vector.replicate 8 0) = .ok buffer ∧
      Exists fun result : ReadContext × Frame 256 =>
        run readStep (({} : ReadContext).reset, fresh) ([9, 0x80] ++ buffer.toList) = .ok result ∧
        result.1.packetReceived = true ∧
        ProtocolRtu.frameCrcIsValid .modbus result.2 = .ok true := by
  let conversion := TypeConversion.shifting
  let packet : Frame 4 :=
    { address := 1, function := .kReadMultipleHoldingRegisters, dataLength := 4,
      dataArray := #v[0, 0, 0, 1] }
  let fresh : Frame 256 := { dataArray := Vector.replicate 256 0 }
  have holds : Holds packet 1 .kReadMultipleHoldingRegisters [0, 0, 0, 1] :=
    ⟨rfl, rfl, rfl, rfl⟩
  have junk : forall pair : UInt8 × UInt8, pair ∈ [((9 : UInt8), (0x80 : UInt8))] ->
      functionCodeIsValid pair.2 = false := by
    intro pair member
    rw [List.mem_singleton.mp member]
    decide
  rcases reader_agrees_with_readFrame Crc16.modbus_dependsOnPrefix {} fresh rfl
    [(9, 0x80)] junk holds (by decide) rfl (by decide) (Vector.replicate 8 0) with
    ⟨buffer, encoded, _, result, completes, received, valid, _⟩
  exact ⟨buffer, encoded, result, completes, received, valid⟩

end Modbus
