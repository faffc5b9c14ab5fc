import ModbusBasic.Slave.Replies

namespace Modbus

open Memory TypeConversion Transition

/-!
# Arbitrary traffic

Bytes and timeouts reach the slave in any order.  `Progress.hear` follows them
with the abstract receiver, which the loop resets after every complete frame,
so `rawBytes` are the bytes of the frame just completed as they came in.

A frame has an effect only if it is addressed to the slave and ends with its
checksum (`Effect`).  The checksum is taken of a frame laid out again from the
decoded fields; that it is the checksum of the raw bytes is part of what
`processMessage_effect` shows.
-/

variable {h i : Nat}

/-- The receiver of the loop: complete frames are processed and forgotten. -/
def Progress.hear (progress : Progress) : LineEvent -> Progress
  | .character pt => if (progress.advance pt).isComplete then .idle else progress.advance pt
  | .timeout => .idle

/-- The registers a frame of this function and body asks to write. -/
def NamesRegister (function : Function) (body : List UInt8) (index : Nat) : Prop :=
  function = .kWriteSingleHoldingRegister ∧ Covers (wordAt body 0).toNat 1 index ∨
    function = .kWriteMultipleHoldingRegisters ∧
      Covers (wordAt body 0).toNat (wordAt body 1).toNat index

theorem Request.names_iff [TypeConversion] (request : Request) (footer : List UInt8)
    (index : Nat) :
    NamesRegister request.function (request.payload ++ footer) index <-> request.Names index := by
  cases request with
  | readHolding address count =>
      constructor
      · rintro (⟨other, _⟩ | ⟨other, _⟩)
        · cases other
        · cases other
      · exact False.elim
  | readInput address count =>
      constructor
      · rintro (⟨other, _⟩ | ⟨other, _⟩)
        · cases other
        · cases other
      · exact False.elim
  | writeSingle address value =>
      have fields := wordAt_fields address value footer
      change _ ∧ Covers (wordAt (bigEndian _ ++ (bigEndian _ ++ footer)) 0).toNat 1 index ∨ _ <->
        Covers address.toNat 1 index
      rw [fields.1]
      constructor
      · rintro (⟨_, covered⟩ | ⟨other, _⟩)
        · exact covered
        · cases other
      · exact fun covered => Or.inl ⟨rfl, covered⟩
  | writeMultiple address count data =>
      have fields := wordAt_fields address count (UInt8.ofNat data.length :: (data ++ footer))
      change _ ∨ _ ∧ Covers
        (wordAt (bigEndian _ ++ (bigEndian _ ++ UInt8.ofNat data.length :: (data ++ footer))) 0).toNat
        (wordAt (bigEndian _ ++ (bigEndian _ ++ UInt8.ofNat data.length :: (data ++ footer))) 1).toNat
        index <-> Covers address.toNat count.toNat index
      rw [fields.1, fields.2]
      constructor
      · rintro (⟨other, _⟩ | ⟨_, covered⟩)
        · cases other
        · exact covered
      · exact fun covered => Or.inr ⟨rfl, covered⟩

namespace ProtocolRtuSlave

/-- Neither store has changed, nor any flag. -/
def KeepsStores (before after : Stores h i) : Prop :=
  after.holdingRegisterController = before.holdingRegisterController ∧
    after.inputRegisterController = before.inputRegisterController

/-- A holding register or its flag has changed. -/
def Changes (before after : Stores h i) (register : Fin h) : Prop :=
  after.file.holding register ≠ before.file.holding register ∨
    after.holdingRegisterController.registerData.flagged register ≠
      before.holdingRegisterController.registerData.flagged register

/-- What processing the frame of `raw` bytes may do. -/
structure Effect [TypeConversion] (crc16 : Crc16) (raw : List UInt8) (function : Function)
    (body : List UInt8) (received processed : Stores h i) : Prop where
  valid_iff : processed.getResponseValid = true <-> received.Accepts crc16 raw
  input_eq : processed.inputRegisterController = received.inputRegisterController
  changed : forall register, Changes received processed register ->
    received.Accepts crc16 raw ∧ received.validateMessage received.getFrameIn = .ok .kAck ∧
      NamesRegister function body register

section Processing

variable [TypeConversion] {crc16 : Crc16} (depends : crc16.DependsOnPrefix)
  {slave : Stores h i} {address : UInt8} {function : Function} {body : List UInt8}
  (holds : Holds slave.slave.framein address function body)
  (whole : body.length = expectedLength function body) (fits : body.length ≤ 254)
  (quiet : slave.getResponseValid = false)

/-- A response alone changes no register. -/
private theorem effect_respond {raw : List UInt8} (accepts : slave.Accepts crc16 raw)
    (response : Response) : Effect crc16 raw function body slave (slave.respond response) where
  valid_iff := iff_of_true rfl accepts
  input_eq := rfl
  changed register changes := by
    rcases changes with differs | differs
    · exact absurd rfl differs
    · exact absurd rfl differs

include depends holds whole fits quiet

theorem processMessage_effect (holdingSmall : h ≤ 65536) (inputSmall : i ≤ 65536)
    (short : slave.Accepts crc16 (address :: function.code :: body) ->
      ¬ OverlongRead h i function body) :
    Exists fun processed => slave.processMessage crc16 = .ok processed ∧
      processed.slaveAddress = slave.slaveAddress ∧
      Effect crc16 (address :: function.code :: body) function body slave processed := by
  let raw := address :: function.code :: body
  have ignored {exception : Exception}
      (validated : slave.validateMessage slave.slave.framein = .ok exception)
      (rejects : ¬ slave.Accepts crc16 raw) :
      Exists fun processed => slave.processMessage crc16 = .ok processed ∧
        processed.slaveAddress = slave.slaveAddress ∧
        Effect crc16 raw function body slave processed := by
    refine ⟨slave, processMessage_ignored depends holds fits validated rejects, rfl, ?_, rfl, ?_⟩
    · rw [quiet]
      exact iff_of_false (fun valid => by cases valid) rejects
    · rintro register (differs | differs)
      · exact absurd rfl differs
      · exact absurd rfl differs
  rcases validateMessage_complete holds whole with
    ⟨request, footer, rfl, rfl, acknowledged, validated⟩ | ⟨exception, validated, refused⟩
  · by_cases accepts : slave.Accepts crc16 raw
    · have few : request.readCount ≤ 125 := by
        apply Nat.le_of_not_lt
        intro long
        exact short accepts ((request.overlongRead_iff footer).mpr ⟨acknowledged, long⟩)
      rcases executes_registerFile slave.holdingRegisterController.registerData
        slave.inputRegisterController.registerData holdingSmall inputSmall acknowledged
        (Nat.le_succ_of_le few) with ⟨next, executes, written, flags⟩
      have answerLength := executes.data_length
      rcases processMessage_performed depends holds fits validated accepts executes (by omega)
        with ⟨response, completes, _⟩
      refine ⟨_, completes, rfl, iff_of_true rfl accepts, rfl, fun register changes => ?_⟩
      refine ⟨accepts, validated, (request.names_iff footer register.val).mpr ?_⟩
      by_contra outside
      rcases changes with differs | differs
      · apply differs
        exact (congrFun written register).trans (RegisterFile.update_outside _ outside)
      · apply differs
        have same := (flags register).trans (or_iff_left outside)
        exact Bool.eq_iff_iff.mpr same
    · exact ignored validated accepts
  · by_cases accepts : slave.Accepts crc16 raw
    · rcases processMessage_refused depends holds fits validated accepts refused with
        ⟨response, completes, _⟩
      exact ⟨_, completes, rfl, effect_respond accepts response⟩
    · exact ignored validated accepts

end Processing

/-! ## Whole histories -/

/-- The traffic considered: frames of at most 256 bytes, and no valid read of
this slave whose reply would be longer than that. -/
def Serviceable (crc16 : Crc16) (slaveAddress : UInt8) (h i : Nat) : Progress -> LineEvent -> Prop
  | progress, .character pt => HasRoom 254 progress pt ∧
      forall function body, progress.advance pt = .complete slaveAddress function body ->
        EndsWithChecksum crc16 (slaveAddress :: function.code :: body) ->
        ¬ OverlongRead h i function body
  | _, .timeout => True

/-- The slave between two turns of the loop. -/
structure Tracks (slaveAddress : UInt8) (progress : Progress) (slave : Stores h i) : Prop where
  represents : Represents progress slave.reader
  sound : progress.Sound
  short : progress.body.length ≤ 254
  incomplete : progress.isComplete = false
  address_eq : slave.slaveAddress = slaveAddress
  quiet : slave.getResponseValid = false

theorem tracks_reset (slave : Stores h i) : Tracks slave.slaveAddress .idle slave.reset :=
  ⟨slave.reset_waiting, True.intro, Nat.zero_le 254, rfl, rfl, rfl⟩

/-- What one event may do to a slave that has read as far as `progress`. -/
def Outcome [TypeConversion] (crc16 : Crc16) (progress : Progress) (slave : Stores h i) :
    LineEvent -> Prop
  | .timeout => Exists fun after =>
      slave.serve crc16 .timeout = .ok (after, none) ∧ KeepsStores slave after
  | .character pt => Exists fun received =>
      slave.processCharacter pt = .ok received ∧ KeepsStores slave received ∧
      ((progress.advance pt).isComplete = false ->
        slave.serve crc16 (.character pt) = .ok (received, none)) ∧
      forall address function body, progress.advance pt = .complete address function body ->
        Exists fun processed => received.processMessage crc16 = .ok processed ∧
          slave.serve crc16 (.character pt) = .ok (processed.reset, processed.published) ∧
          Effect crc16 (progress.advance pt).rawBytes function body received processed ∧
          KeepsStores processed processed.reset

variable [TypeConversion] {crc16 : Crc16}

/-- One event: its outcome, and where it leaves the slave. -/
theorem serve_tracks (depends : crc16.DependsOnPrefix) (holdingSmall : h ≤ 65536)
    (inputSmall : i ≤ 65536) {slaveAddress : UInt8} {progress : Progress} {slave : Stores h i}
    {event : LineEvent} (tracks : Tracks slaveAddress progress slave)
    (serviceable : Serviceable crc16 slaveAddress h i progress event) :
    Outcome crc16 progress slave event ∧
      Exists fun next => slave.serve crc16 event = .ok next ∧
        Tracks slaveAddress (progress.hear event) next.1 := by
  cases event with
  | timeout =>
      have served : slave.serve crc16 .timeout = .ok (slave.reset, none) := rfl
      have reset := tracks_reset slave
      rw [tracks.address_eq] at reset
      exact ⟨⟨slave.reset, served, rfl, rfl⟩, _, served, reset⟩
  | character pt =>
      have room : HasRoom 256 progress pt :=
        hasRoom_le (by decide) progress pt serviceable.1
      rcases processCharacter_represents tracks.represents room with ⟨reader, fed, represents⟩
      let received := slave.withReader reader
      have packet : received.getContext.packetReceived = (progress.advance pt).isComplete :=
        represents.packetReceived
      have sound := Progress.sound_advance tracks.sound pt
      have short := body_length_advance tracks.short serviceable.1
      cases finished : progress.advance pt with
      | complete address function body =>
          rw [finished] at represents sound short packet
          have addressed : received.slaveAddress = slaveAddress := tracks.address_eq
          have notLong : received.Accepts crc16 (address :: function.code :: body) ->
              ¬ OverlongRead h i function body := by
            intro accepts
            have matched : address = slaveAddress :=
              (Option.some.inj accepts.1).trans addressed
            subst matched
            exact serviceable.2 function body finished accepts.2
          have inBuffer : Holds received.slave.framein address function body := represents.1
          have quiet : received.getResponseValid = false := tracks.quiet
          rcases processMessage_effect depends inBuffer sound.2 short quiet holdingSmall inputSmall
            notLong with ⟨processed, completes, sameAddress, effect⟩
          have served := serve_complete fed packet completes
          constructor
          · refine ⟨received, fed, ⟨rfl, rfl⟩, ?_, ?_⟩
            · rw [finished]
              intro incomplete
              cases incomplete
            · intro otherAddress otherFunction otherBody same
              rw [finished] at same ⊢
              cases same
              exact ⟨processed, completes, served, effect, rfl, rfl⟩
          · have reset := tracks_reset processed
            rw [sameAddress, addressed] at reset
            rw [Progress.hear, finished]
            exact ⟨_, served, reset⟩
      | _ =>
          rw [finished] at represents sound short packet
          have served : slave.serve crc16 (.character pt) = .ok (received, none) :=
            serve_incomplete fed packet
          constructor
          · refine ⟨received, fed, ⟨rfl, rfl⟩, fun _ => served, ?_⟩
            intro otherAddress otherFunction otherBody same
            rw [finished] at same
            cases same
          · rw [Progress.hear, finished]
            exact ⟨_, served, represents, sound, short, rfl, tracks.address_eq, tracks.quiet⟩

/-- After any history of serviceable traffic, any further event has its outcome:
nothing changes but by processing a valid request to this slave. -/
theorem traffic_outcome (depends : crc16.DependsOnPrefix) (holdingSmall : h ≤ 65536)
    (inputSmall : i ≤ 65536) (slave : Stores h i) (past : List LineEvent) (event : LineEvent)
    (serviceable : Permitted Progress.hear (Serviceable crc16 slave.slaveAddress h i) .idle
      (past ++ [event])) :
    Exists fun reached => trace (serve crc16) slave.reset past = .ok reached ∧
      Outcome crc16 (past.foldl Progress.hear .idle) reached.1 event := by
  have parts := (permitted_append _ _ _ _ _).mp serviceable
  rcases trace_simulates (serve crc16) Progress.hear (Serviceable crc16 slave.slaveAddress h i)
    (Tracks slave.slaveAddress)
    (fun _ _ _ tracks permitted => (serve_tracks depends holdingSmall inputSmall tracks permitted).2)
    (tracks_reset slave) parts.1 with ⟨reached, completes, tracks⟩
  exact ⟨reached, completes,
    (serve_tracks depends holdingSmall inputSmall tracks parts.2.1).1⟩

omit [TypeConversion] in
/-- A write to register 1, byte by byte. -/
theorem traffic_outcome_modbus :
    letI := TypeConversion.shifting
    letI past : List LineEvent := [.character 1, .character 6, .character 0, .character 1,
      .character 2, .character 7, .character 0x98]
    Exists fun reached => trace (serve .modbus) (zeroSlave 2 1).reset past = .ok reached ∧
      Outcome .modbus (past.foldl Progress.hear .idle) reached.1 (.character 0xA8) := by
  let conversion := TypeConversion.shifting
  have incomplete {progress : Progress} {pt : UInt8} (room : HasRoom 254 progress pt)
      (unfinished : (progress.advance pt).isComplete = false) :
      Serviceable .modbus 1 2 1 progress (.character pt) := by
    refine ⟨room, fun function body same => ?_⟩
    rw [same] at unfinished
    cases unfinished
  refine traffic_outcome Crc16.modbus_dependsOnPrefix (by decide) (by decide) (zeroSlave 2 1) _ _
    ⟨incomplete True.intro rfl, incomplete True.intro rfl,
      incomplete (by decide : 0 < 254) rfl, incomplete (by decide : 1 < 254) rfl,
      incomplete (by decide : 2 < 254) rfl, incomplete (by decide : 3 < 254) rfl,
      incomplete (by decide : 4 < 254) rfl, ⟨(by decide : 5 < 254), ?_⟩, True.intro⟩
  intro function body same _
  cases same
  decide

end ProtocolRtuSlave

end Modbus
