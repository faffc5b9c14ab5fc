import ModbusBasic.Reader.Completed
import ModbusBasic.Slave.History

namespace Modbus

open Memory TypeConversion Transition

/-!
# What takes a slave out of its arrays

Three things do: a byte for which the receive buffer has no room, a frame for
the slave that is too long for the scratch array of the checksum, and a valid
read whose reply does not fit the response array.  `Harmless` excludes just
these.  Frames for other slaves may be longer.

There is nothing else: a slave completes exactly the runs in which every byte is
harmless when it comes, and answers them as its station does
(`survives_iff_harmless`).
-/

variable {h i : Nat}

def Harmless (crc16 : Crc16) (h i : Nat) (slaveAddress : UInt8) : Progress -> LineEvent -> Prop
  | progress, .character pt => HasRoom 256 progress pt ∧
      forall function body, progress.advance pt = .complete slaveAddress function body ->
        body.length ≤ 254 ∧ (EndsWithChecksum crc16 (slaveAddress :: function.code :: body) ->
          ¬ OverlongRead h i function body)
  | _, .timeout => True

instance (crc16 : Crc16) (h i : Nat) (slaveAddress : UInt8) (progress : Progress) :
    (event : LineEvent) -> Decidable (Harmless crc16 h i slaveAddress progress event)
  | .timeout => isTrue True.intro
  | .character pt =>
      match finished : progress.advance pt with
      | .complete address function body =>
          decidable_of_iff (HasRoom 256 progress pt ∧ (address = slaveAddress ->
              body.length ≤ 254 ∧ (EndsWithChecksum crc16 (slaveAddress :: function.code :: body) ->
                ¬ OverlongRead h i function body))) <| by
            refine and_congr_right fun _ => ⟨fun short function body same => ?_, fun short same => ?_⟩
            · rw [finished] at same
              cases same
              exact short rfl
            · subst same
              exact short function body finished
      | .idle | .addressed _ | .receiving _ _ _ =>
          decidable_of_iff (HasRoom 256 progress pt) <| by
            refine (and_iff_left fun function body same => ?_).symm
            rw [finished] at same
            cases same

namespace ProtocolRtuSlave

/-! ## The loop, with every access to the response array -/

/-- `iodev_.write` is given the response array and the length of the response. -/
def writeResponse {H I : Type} (slave : ProtocolRtuSlave H I) : Checked Outgoing :=
  if slave.getResponseValid then do
    let bytes <- (List.range slave.getResponse.getLength).mapM (load slave.getResponse.data)
    return .reply bytes
  else return .nothing

section Loop

variable [TypeConversion]

def serveChecked (crc16 : Crc16) (slave : Stores h i) (event : LineEvent) :
    Checked (Stores h i × Outgoing) := do
  let slave <- slave.receive event
  if slave.getContext.packetReceived then
    let slave <- slave.processMessage crc16
    let outgoing <- slave.writeResponse
    return (slave.reset, outgoing)
  else return (slave, .nothing)

end Loop

/-- A response that fits its array is written as it is. -/
theorem writeResponse_eq {slave : Stores h i}
    (fits : slave.getResponseValid = true -> slave.getResponse.getLength ≤ 256) :
    slave.writeResponse = .ok (.written slave.published) := by
  unfold writeResponse published
  by_cases valid : slave.getResponseValid = true
  · have short := fits valid
    have size : slave.getResponse.data.toList.length = 256 := Vector.length_toList
    have each : forall index, index ∈ List.range slave.getResponse.getLength ->
        load slave.getResponse.data index = .ok (slave.getResponse.data.toList.getD index 0) := by
      intro index listed
      have inside := List.mem_range.mp listed
      rw [load_eq_ok, List.getD_eq_getElem _ _ (by omega)]
      exact List.getElem?_eq_getElem (by omega)
    have whole : (List.range slave.getResponse.getLength).map
        (fun index => slave.getResponse.data.toList.getD index 0) =
          slave.getResponse.data.toList.take slave.getResponse.getLength := by
      apply List.ext_getElem
      · rw [List.length_map, List.length_range, List.length_take, size, Nat.min_eq_left short]
      · intro index inside _
        rw [List.length_map, List.length_range] at inside
        rw [List.getElem_map, List.getElem_range, List.getElem_take,
          List.getD_eq_getElem _ _ (by omega)]
    rw [if_pos valid, if_pos valid, mapM_ok each, whole]
    rfl
  · rw [if_neg valid, if_neg valid]
    rfl

/-- What is written was in the array. -/
theorem writeResponse_fits {slave : Stores h i} {outgoing : Outgoing}
    (completes : slave.writeResponse = .ok outgoing) (valid : slave.getResponseValid = true) :
    slave.getResponse.getLength ≤ 256 := by
  apply Nat.le_of_not_lt
  intro long
  rw [writeResponse, if_pos valid] at completes
  rcases bind_eq_ok.mp completes with ⟨bytes, loaded, _⟩
  rcases mapM_each loaded (List.mem_range.mpr long) with ⟨byte, read⟩
  rw [load, dif_neg (Nat.lt_irrefl 256)] at read
  cases read

/-- Where nothing is read outside the response, this is a turn of the loop. -/
theorem serve_of_serveChecked [TypeConversion] {crc16 : Crc16} {slave next : Stores h i}
    {event : LineEvent} {outgoing : Outgoing}
    (served : slave.serveChecked crc16 event = .ok (next, outgoing)) :
    Exists fun reply => slave.serve crc16 event = .ok (next, reply) ∧
      Outgoing.written reply = outgoing := by
  rcases bind_eq_ok.mp served with ⟨received, fed, continued⟩
  by_cases packet : received.getContext.packetReceived = true
  · rw [if_pos packet] at continued
    rcases bind_eq_ok.mp continued with ⟨processed, completes, published⟩
    rcases bind_eq_ok.mp published with ⟨said, written, same⟩
    cases same
    have kept := writeResponse_eq (writeResponse_fits written)
    refine ⟨processed.published, ?_, Except.ok.inj (kept.symm.trans written)⟩
    rw [serve, fed, ok_bind, if_pos packet, processPacket, completes, ok_bind]
    rfl
  · rw [if_neg packet] at continued
    cases continued
    refine ⟨none, ?_, rfl⟩
    rw [serve, fed, ok_bind, if_neg packet]
    rfl

/-! ## One complete frame -/

section Processing

variable [TypeConversion] {crc16 : Crc16} {slave : Stores h i} {address : UInt8}
  {function : Function} {body : List UInt8}
  (holds : Holds slave.slave.framein address function body)
  (whole : body.length = expectedLength function body)

include holds whole

theorem processMessage_other (other : address ≠ slave.slaveAddress) :
    slave.processMessage crc16 = .ok slave := by
  have apart : ¬ (slave.getAddress = slave.getFrameIn.address ∨ true = false) := by
    rintro (same | never)
    · exact other (holds.address_eq.symm.trans same.symm)
    · cases never
  have validated : Exists fun exception =>
      slave.validateMessage slave.getFrameIn = .ok exception := by
    rcases validateMessage_complete holds whole with
      ⟨_, _, _, _, _, validated⟩ | ⟨exception, validated, _⟩
    · exact ⟨_, validated⟩
    · exact ⟨exception, validated⟩
  rcases validated with ⟨exception, validated⟩
  simp only [processMessage, validated, ok_bind, if_neg apart]
  rfl

omit whole in
/-- A frame for this slave is not too long for the checksum. -/
theorem processMessage_short (own : address = slave.slaveAddress) {processed : Stores h i}
    (completes : slave.processMessage crc16 = .ok processed) : body.length ≤ 254 := by
  apply Nat.le_of_not_lt
  intro long
  have matched : slave.getAddress = slave.getFrameIn.address ∨ true = false :=
    Or.inl (own.symm.trans holds.address_eq.symm)
  unfold processMessage at completes
  rcases bind_eq_ok.mp completes with ⟨exception, _, addressed⟩
  rw [if_pos matched] at addressed
  rcases bind_eq_ok.mp addressed with ⟨valid, checked, _⟩
  rw [show slave.getFrameIn = slave.slave.framein from rfl,
    frameCrcIsValid_overrun crc16 holds long] at checked
  cases checked

/-- A frame for this slave that is harmless is considered as the station
considers it. -/
theorem processMessage_written (depends : crc16.DependsOnPrefix)
    (listed : functionCodeIsValid function.code = true)
    (quiet : slave.getResponseValid = false) (holdingSmall : h ≤ 65536) (inputSmall : i ≤ 65536)
    (harmless : address = slave.slaveAddress -> body.length ≤ 254 ∧
      (EndsWithChecksum crc16 (address :: function.code :: body) ->
        ¬ OverlongRead h i function body)) (progress : Progress) :
    Exists fun processed => slave.processMessage crc16 = .ok processed ∧
      processed.station progress =
        ((slave.station progress).consider crc16 address function body).1 ∧
      processed.writeResponse =
        .ok ((slave.station progress).consider crc16 address function body).2 := by
  by_cases own : address = slave.slaveAddress
  · rcases harmless own with ⟨fits, short⟩
    have notLong : slave.Accepts crc16 (address :: function.code :: body) ->
        ¬ OverlongRead h i function body := fun accepts => short accepts.2
    rcases processMessage_considers depends holds whole fits listed quiet holdingSmall inputSmall
      notLong progress with ⟨processed, completes, after, published⟩
    refine ⟨processed, completes, after, ?_⟩
    rw [← published]
    apply writeResponse_eq
    intro valid
    by_cases intact : EndsWithChecksum crc16 (address :: function.code :: body)
    · subst own
      rcases processMessage_replies depends holds whole fits intact listed (short intact) with
        ⟨result, same, wellFormed⟩
      cases completes.symm.trans same
      exact wellFormed.fits
    · have rejects : ¬ slave.Accepts crc16 (address :: function.code :: body) :=
        fun accepts => intact accepts.2
      rcases validateMessage_complete holds whole with
        ⟨_, _, _, _, _, validated⟩ | ⟨exception, validated, _⟩
      · cases completes.symm.trans (processMessage_ignored depends holds fits validated rejects)
        rw [quiet] at valid
        cases valid
      · cases completes.symm.trans (processMessage_ignored depends holds fits validated rejects)
        rw [quiet] at valid
        cases valid
  · have passed : (slave.station progress).consider crc16 address function body =
        (slave.station progress, .nothing) := if_neg fun taken => own taken.1
    refine ⟨slave, processMessage_other holds whole own, ?_, ?_⟩
    · rw [passed]
    · rw [passed, writeResponse, quiet]
      rfl

/-- A slave that processes a frame and writes its reply was given a harmless one. -/
theorem processMessage_harmless (depends : crc16.DependsOnPrefix) {processed : Stores h i}
    {outgoing : Outgoing} (completes : slave.processMessage crc16 = .ok processed)
    (written : processed.writeResponse = .ok outgoing) (own : address = slave.slaveAddress) :
    body.length ≤ 254 ∧ (EndsWithChecksum crc16 (address :: function.code :: body) ->
      ¬ OverlongRead h i function body) := by
  have fits := processMessage_short holds own completes
  refine ⟨fits, fun intact long => ?_⟩
  subst own
  rcases processMessage_overlong depends holds whole fits intact long completes with ⟨valid, excess⟩
  exact Nat.not_le_of_lt excess (writeResponse_fits written valid)

end Processing

/-! ## One event -/

/-- The slave between two turns of the loop; frames for others may be longer than
254 bytes. -/
structure Follows (slave : Stores h i) (station : Station h i) : Prop where
  represents : Represents station.progress slave.reader
  sound : station.progress.Sound
  incomplete : station.progress.isComplete = false
  quiet : slave.getResponseValid = false
  same : slave.station station.progress = station

theorem reset_follows (slave : Stores h i) : slave.reset.Follows (slave.station .idle) :=
  ⟨slave.reset_waiting, True.intro, rfl, rfl, rfl⟩

section Events

variable [TypeConversion] {crc16 : Crc16} {slave : Stores h i} {station : Station h i}

theorem serveChecked_hears (depends : crc16.DependsOnPrefix) (holdingSmall : h ≤ 65536)
    (inputSmall : i ≤ 65536) {event : LineEvent} (follows : slave.Follows station)
    (harmless : Harmless crc16 h i station.slaveAddress station.progress event) :
    Exists fun next => slave.serveChecked crc16 event =
        .ok (next, (station.hear crc16 event).2) ∧
      next.Follows (station.hear crc16 event).1 := by
  rcases follows with ⟨represents, sound, incomplete, quiet, same⟩
  cases event with
  | timeout =>
      refine ⟨slave.reset, rfl, ?_⟩
      rw [← same]
      exact reset_follows slave
  | character pt =>
      rcases processCharacter_represents represents harmless.1 with ⟨reader, fed, after⟩
      let received := slave.withReader reader
      have packet : received.getContext.packetReceived = (station.progress.advance pt).isComplete :=
        after.packetReceived
      have continues := Progress.sound_advance sound pt
      have stood : received.station station.progress = station := same
      have begins : slave.serveChecked crc16 (.character pt) =
          if received.getContext.packetReceived then
            received.processMessage crc16 >>= fun processed =>
              processed.writeResponse >>= fun outgoing => .ok (processed.reset, outgoing)
          else .ok (received, .nothing) := by
        change (slave.processCharacter pt >>= _) = _
        rw [fed]
        rfl
      rw [Station.hear]
      cases finished : station.progress.advance pt with
      | complete address function body =>
          rw [finished] at after continues packet
          have addressed : received.slaveAddress = station.slaveAddress :=
            congrArg Station.slaveAddress same
          have inBuffer : Holds received.slave.framein address function body := after.1
          rcases processMessage_written inBuffer continues.2 depends continues.1 quiet holdingSmall
            inputSmall (fun own => by
              rw [own.trans addressed]
              exact harmless.2 function body (by rw [finished, own.trans addressed]))
            station.progress with ⟨processed, completes, changed, written⟩
          rw [stood] at changed written
          refine ⟨processed.reset, ?_, ?_⟩
          · rw [begins, packet, completes, ok_bind, written, ok_bind]
            rfl
          · have reset := reset_follows processed
            rw [show processed.station .idle =
              { processed.station station.progress with progress := .idle } from rfl, changed] at reset
            exact reset
      | _ =>
          rw [finished] at after continues packet
          refine ⟨received, ?_, after, continues, rfl, quiet, ?_⟩
          · rw [begins, packet]
            rfl
          · conv => rhs; rw [← same]
            rfl

theorem serveChecked_harmless (depends : crc16.DependsOnPrefix) {event : LineEvent}
    (follows : slave.Follows station) {next : Stores h i × Outgoing}
    (served : slave.serveChecked crc16 event = .ok next) :
    Harmless crc16 h i station.slaveAddress station.progress event := by
  rcases follows with ⟨represents, sound, incomplete, quiet, same⟩
  cases event with
  | timeout => exact True.intro
  | character pt =>
      have notYet : slave.reader.1.packetReceived = false := by
        rw [represents.packetReceived]
        exact incomplete
      rcases bind_eq_ok.mp served with ⟨received, fed, continued⟩
      have stored : slave.processCharacter pt = .ok received := fed
      rw [processCharacter_eq] at stored
      rcases bind_eq_ok.mp stored with ⟨reader, stepped, taken⟩
      have room := hasRoom_of_stored represents notYet stepped
      refine ⟨room, fun function body finished => ?_⟩
      rcases processCharacter_represents represents room with ⟨other, again, after⟩
      cases fed.symm.trans again
      rw [finished] at after
      have continues := Progress.sound_advance sound pt
      rw [finished] at continues
      have packet : (slave.withReader other).getContext.packetReceived = true :=
        after.packetReceived
      rw [if_pos packet] at continued
      rcases bind_eq_ok.mp continued with ⟨processed, completes, published⟩
      rcases bind_eq_ok.mp published with ⟨outgoing, written, _⟩
      have own : station.slaveAddress = (slave.withReader other).slaveAddress :=
        (congrArg Station.slaveAddress same).symm
      exact processMessage_harmless after.1 continues.2 depends completes written own

end Events

end ProtocolRtuSlave

end Modbus
