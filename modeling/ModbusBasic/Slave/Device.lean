import ModbusBasic.Registers.DirtyFlags
import ModbusBasic.Slave.Station

namespace Modbus

open Memory TypeConversion Transition

/-!
# The slave refines its station

`turn` is one turn of the loop around a slave or one call of the program it
runs in.  The turns answer exactly what the station answers, whatever comes in
on the line and whenever the calls are made; the bounds are those of
`Serviceable`, and that the owner names registers that are there.
-/

variable {h i : Nat}

/-- What a turn of the loop has written to the line. -/
def Outgoing.written : Option (List UInt8) -> Outgoing
  | some bytes => .reply bytes
  | none => .nothing

section Stores

variable [TypeConversion] {address : UInt16}

theorem HoldingRegisterController.writeRegister_bank
    (controller : HoldingRegisterController (UpdatingRegisterDataStore h))
    (names : address.toNat < h) (value : UInt16) :
    Exists fun next => controller.writeRegister address value = .ok ⟨next⟩ ∧
      next.toRegisterDataStore.bank =
        controller.registerData.toRegisterDataStore.bank.overwrite address.toNat 1 (fun _ => value) ∧
      next.flagged = controller.registerData.flagged := by
  rcases controller.registerData.toRegisterDataStore.setRegister_bank names address.toNat_lt
    value with ⟨base, stored, written⟩
  refine ⟨{ controller.registerData with toRegisterDataStore := base }, ?_, written, rfl⟩
  change (controller.registerData.setRegister address.toNat value >>= _) = _
  rw [UpdatingRegisterDataStore.setRegister, stored, ok_bind]
  rfl

theorem HoldingRegisterController.readRegister_bank
    (controller : HoldingRegisterController (UpdatingRegisterDataStore h))
    (names : address.toNat < h) :
    controller.readRegister address =
      .ok (controller.registerData.toRegisterDataStore.bank.fetch address.toNat) := by
  have read := controller.registerData.getRegister_wrapped names
  rw [Nat.mod_eq_of_lt address.toNat_lt] at read
  exact read

theorem InputRegisterController.writeRegister_bank
    (controller : InputRegisterController (RegisterDataStore i)) (names : address.toNat < i)
    (value : UInt16) :
    Exists fun next => controller.writeRegister address value = .ok ⟨next⟩ ∧
      next.bank = controller.registerData.bank.overwrite address.toNat 1 fun _ => value := by
  rcases controller.registerData.setRegister_bank names address.toNat_lt value with
    ⟨next, stored, written⟩
  refine ⟨next, ?_, written⟩
  change (controller.registerData.setRegister address.toNat value >>= _) = _
  rw [stored, ok_bind]
  rfl

theorem InputRegisterController.readRegister_bank
    (controller : InputRegisterController (RegisterDataStore i)) (names : address.toNat < i) :
    controller.readRegister address =
      .ok (controller.registerData.bank.fetch address.toNat) := by
  have read := controller.registerData.getRegister_wrapped names
  rw [Nat.mod_eq_of_lt address.toNat_lt] at read
  exact read

end Stores

namespace UpdatingRegisterDataStore

variable (store : UpdatingRegisterDataStore h)

theorem newDataAvailable_decides (nonempty : 0 < h) :
    store.newDataAvailable = .ok (decide (Exists fun register : Fin h =>
      register.val < h - 1 ∧ store.flagged register = true)) := by
  rcases store.newDataAvailable_eq nonempty with ⟨on, called, available⟩
  rw [called, Bool.eq_iff_iff.mpr (available.trans decide_eq_true_iff.symm)]

theorem clearNewDataFlags_flagged (nonempty : 0 < h) :
    Exists fun next => store.clearNewDataFlags = .ok next ∧
      next.toRegisterDataStore = store.toRegisterDataStore ∧
      next.flagged = fun register =>
        decide (register.val = h - 1) && store.flagged register := by
  rcases store.clearNewDataFlags_eq nonempty with ⟨next, called, cleared⟩
  refine ⟨next, called, clearNewDataFlags_registers called, ?_⟩
  funext register
  apply Bool.eq_iff_iff.mpr
  rw [cleared, Bool.and_eq_true, decide_eq_true_iff]

end UpdatingRegisterDataStore

namespace ProtocolRtuSlave

section Calls

variable [TypeConversion]

def ownerCall (slave : Stores h i) : OwnerCall -> Checked (Stores h i × Outgoing)
  | .setAddress slaveAddress => return (slave.setAddress slaveAddress, .nothing)
  | .writeHolding address value => do
      let controller <- slave.holdingRegisterController.writeRegister address value
      return ({ slave with holdingRegisterController := controller }, .nothing)
  | .readHolding address => do
      let value <- slave.holdingRegisterController.readRegister address
      return (slave, .register value)
  | .writeInput address value => do
      let controller <- slave.inputRegisterController.writeRegister address value
      return ({ slave with inputRegisterController := controller }, .nothing)
  | .readInput address => do
      let value <- slave.inputRegisterController.readRegister address
      return (slave, .register value)
  | .flagSet address => do
      let on <- slave.holdingRegisterController.registerData.flagSet address.toNat
      return (slave, .flag on)
  | .newDataAvailable => do
      let on <- slave.holdingRegisterController.registerData.newDataAvailable
      return (slave, .flag on)
  | .clearNewDataFlags => do
      let registerData <- slave.holdingRegisterController.registerData.clearNewDataFlags
      return (slave.withHolding registerData, .nothing)

def turn (crc16 : Crc16) (slave : Stores h i) : DeviceEvent -> Checked (Stores h i × Outgoing)
  | .line event => do
      let served <- slave.serve crc16 event
      return (served.1, .written served.2)
  | .owner call => slave.ownerCall call

end Calls

/-! ## What a slave stands for -/

/-- The station of a slave that has received this much of a frame. -/
def station (slave : Stores h i) (progress : Progress) : Station h i where
  slaveAddress := slave.slaveAddress
  progress := progress
  file := slave.file
  dirty := slave.holdingRegisterController.registerData.flagged

structure StandsFor (slave : Stores h i) (station : Station h i) : Prop where
  tracks : Tracks station.slaveAddress station.progress slave
  same : slave.station station.progress = station

theorem reset_standsFor (slave : Stores h i) : slave.reset.StandsFor (slave.station .idle) :=
  ⟨tracks_reset slave, rfl⟩

/-! ## One complete frame -/

section Processing

variable [TypeConversion] {crc16 : Crc16} (depends : crc16.DependsOnPrefix)
  {slave : Stores h i} {address : UInt8} {function : Function} {body : List UInt8}
  (holds : Holds slave.slave.framein address function body)
  (whole : body.length = expectedLength function body) (fits : body.length ≤ 254)

include depends holds whole fits

/-- An accepted frame is answered as the station answers it. -/
theorem processMessage_answers (listed : functionCodeIsValid function.code = true)
    (holdingSmall : h ≤ 65536) (inputSmall : i ≤ 65536)
    (accepts : slave.Accepts crc16 (address :: function.code :: body))
    (short : ¬ OverlongRead h i function body) (progress : Progress) :
    Exists fun processed => slave.processMessage crc16 = .ok processed ∧
      processed.station progress = ((slave.station progress).answer crc16 function body).1 ∧
      processed.published = some ((slave.station progress).answer crc16 function body).2 := by
  have matched : address = slave.slaveAddress := Option.some.inj accepts.1
  have marks : forall code, code ∈ getValidFunctions ->
      (getErrorFunction code).code = code.code + 0x80 := by decide
  have marked := marks function ((functionCodeIsValid_iff function.code).mp listed)
  by_cases implemented : function ∈ implimentedFunctions
  · rcases request_of_complete implemented whole with ⟨request, footer, rfl, rfl, _, countable⟩
    have validated := validateMessage_verdict countable holds
    by_cases acknowledged : request.verdict h i = .kAck
    · have few : request.readCount ≤ 125 := by
        apply Nat.le_of_not_lt
        intro long
        exact short ((request.overlongRead_iff footer).mpr ⟨acknowledged, long⟩)
      rcases executes_registerFile slave.holdingRegisterController.registerData
        slave.inputRegisterController.registerData holdingSmall inputSmall acknowledged
        (Nat.le_succ_of_le few) with ⟨next, executes, written, flags⟩
      have answerLength := executes.data_length
      rw [acknowledged] at validated
      rcases processMessage_performed depends holds fits validated accepts executes (by omega) with
        ⟨response, completes, carries⟩
      have dirty : next.flagged = (slave.station progress).mark request := by
        funext register
        apply Bool.eq_iff_iff.mpr
        rw [flags, Station.mark, Bool.or_eq_true, decide_eq_true_iff, and_iff_right acknowledged]
        rfl
      rw [Station.answer_payload crc16 _ countable, Station.perform_acknowledged crc16 _ acknowledged]
      refine ⟨_, completes, ?_, ?_⟩
      · change Station.mk slave.slaveAddress progress
          { holding := next.toRegisterDataStore.bank, input := _ } next.flagged = _
        rw [written, dirty]
        rfl
      · rw [published_respond _ carries, matched]
        rfl
    · rcases processMessage_refused depends holds fits validated accepts acknowledged with
        ⟨response, completes, carries⟩
      rw [Station.answer_payload crc16 _ countable, Station.perform_refused crc16 _ acknowledged]
      refine ⟨_, completes, rfl, ?_⟩
      rw [published_respond _ carries, matched, marked]
      rfl
  · have validated : slave.validateMessage slave.slave.framein = .ok .kIllegalFunction := by
      apply validateMessage_unsupported
      rw [holds.function_eq]
      exact implemented
    rcases processMessage_refused depends holds fits validated accepts (by decide) with
      ⟨response, completes, carries⟩
    rw [Station.answer_unsupported crc16 _ implemented]
    refine ⟨_, completes, rfl, ?_⟩
    rw [published_respond _ carries, matched, marked]
    rfl

/-- A complete frame is considered as the station considers it. -/
theorem processMessage_considers (listed : functionCodeIsValid function.code = true)
    (quiet : slave.getResponseValid = false) (holdingSmall : h ≤ 65536) (inputSmall : i ≤ 65536)
    (short : slave.Accepts crc16 (address :: function.code :: body) ->
      ¬ OverlongRead h i function body) (progress : Progress) :
    Exists fun processed => slave.processMessage crc16 = .ok processed ∧
      processed.station progress =
        ((slave.station progress).consider crc16 address function body).1 ∧
      Outgoing.written processed.published =
        ((slave.station progress).consider crc16 address function body).2 := by
  by_cases accepts : slave.Accepts crc16 (address :: function.code :: body)
  · rcases processMessage_answers depends holds whole fits listed holdingSmall inputSmall accepts
      (short accepts) progress with ⟨processed, completes, same, published⟩
    have taken : address = (slave.station progress).slaveAddress ∧
        EndsWithChecksum crc16 (address :: function.code :: body) :=
      ⟨Option.some.inj accepts.1, accepts.2⟩
    rw [Station.consider, if_pos taken]
    exact ⟨processed, completes, same, congrArg Outgoing.written published⟩
  · have passed : ¬ (address = (slave.station progress).slaveAddress ∧
        EndsWithChecksum crc16 (address :: function.code :: body)) :=
      fun taken => accepts ⟨congrArg some taken.1, taken.2⟩
    have silent : slave.published = none := by
      rw [published, quiet]
      rfl
    rw [Station.consider, if_neg passed]
    rcases validateMessage_complete holds whole with
      ⟨_, _, _, _, _, validated⟩ | ⟨_, validated, _⟩
    · exact ⟨slave, processMessage_ignored depends holds fits validated accepts, rfl,
        congrArg Outgoing.written silent⟩
    · exact ⟨slave, processMessage_ignored depends holds fits validated accepts, rfl,
        congrArg Outgoing.written silent⟩

end Processing

/-! ## One event -/

section Events

variable [TypeConversion] {crc16 : Crc16} {slave : Stores h i} {station : Station h i}

/-- One byte or timeout. -/
theorem serve_hears (depends : crc16.DependsOnPrefix) (holdingSmall : h ≤ 65536)
    (inputSmall : i ≤ 65536) {event : LineEvent} (stands : slave.StandsFor station)
    (serviceable : Serviceable crc16 station.slaveAddress h i station.progress event) :
    Exists fun next => Exists fun reply => slave.serve crc16 event = .ok (next, reply) ∧
      Outgoing.written reply = (station.hear crc16 event).2 ∧
      next.StandsFor (station.hear crc16 event).1 := by
  rcases stands with ⟨tracks, same⟩
  cases event with
  | timeout =>
      refine ⟨slave.reset, none, rfl, rfl, ?_⟩
      rw [← same]
      exact reset_standsFor slave
  | character pt =>
      have room : HasRoom 256 station.progress pt :=
        hasRoom_le (by decide) station.progress pt serviceable.1
      rcases processCharacter_represents tracks.represents room with ⟨reader, fed, represents⟩
      let received := slave.withReader reader
      have packet : received.getContext.packetReceived = (station.progress.advance pt).isComplete :=
        represents.packetReceived
      have sound := Progress.sound_advance tracks.sound pt
      have short := body_length_advance tracks.short serviceable.1
      rw [Station.hear]
      cases finished : station.progress.advance pt with
      | complete address function body =>
          rw [finished] at represents sound short packet
          have addressed : received.slaveAddress = station.slaveAddress := tracks.address_eq
          have notLong : received.Accepts crc16 (address :: function.code :: body) ->
              ¬ OverlongRead h i function body := by
            intro accepts
            have matched : address = station.slaveAddress :=
              (Option.some.inj accepts.1).trans addressed
            subst matched
            exact serviceable.2 function body finished accepts.2
          have stood : received.station station.progress = station := same
          have inBuffer : Holds received.slave.framein address function body := represents.1
          rcases processMessage_considers depends inBuffer sound.2 short sound.1 tracks.quiet
            holdingSmall inputSmall notLong station.progress with
            ⟨processed, completes, after, published⟩
          rw [stood] at after published
          refine ⟨_, _, serve_complete fed packet completes, published, ?_⟩
          have reset := reset_standsFor processed
          rw [show processed.station .idle =
            { processed.station station.progress with progress := .idle } from rfl, after] at reset
          exact reset
      | _ =>
          rw [finished] at represents sound short packet
          refine ⟨_, none, serve_incomplete fed packet, rfl, ?_, ?_⟩
          · exact ⟨represents, sound, short, rfl, tracks.address_eq, tracks.quiet⟩
          · conv => rhs; rw [← same]
            rfl

/-- The calls of the owner leave the reader alone. -/
theorem ownerCall_obeys {call : OwnerCall} (stands : slave.StandsFor station)
    (names : call.Names h i) :
    Exists fun next => slave.ownerCall call = .ok (next, (station.obey call).2) ∧
      next.StandsFor (station.obey call).1 := by
  rcases station with ⟨slaveAddress, progress, file, dirty⟩
  rcases stands with ⟨⟨represents, sound, short, incomplete, address_eq, quiet⟩, same⟩
  cases same
  cases call with
  | setAddress other =>
      exact ⟨slave.setAddress other, rfl, ⟨represents, sound, short, incomplete, rfl, quiet⟩, rfl⟩
  | writeHolding address value =>
      rcases slave.holdingRegisterController.writeRegister_bank names value with
        ⟨next, called, written, kept⟩
      refine ⟨slave.withHolding next, ?_, ⟨represents, sound, short, incomplete, rfl, quiet⟩, ?_⟩
      · rw [ownerCall, called]
        rfl
      · change Station.mk slave.slaveAddress progress
          { holding := next.toRegisterDataStore.bank, input := _ } next.flagged = _
        rw [written, kept]
        rfl
  | readHolding address =>
      refine ⟨slave, ?_, ⟨represents, sound, short, incomplete, rfl, quiet⟩, rfl⟩
      rw [ownerCall, slave.holdingRegisterController.readRegister_bank names]
      rfl
  | writeInput address value =>
      rcases slave.inputRegisterController.writeRegister_bank names value with
        ⟨next, called, written⟩
      refine ⟨{ slave with inputRegisterController := ⟨next⟩ }, ?_,
        ⟨represents, sound, short, incomplete, rfl, quiet⟩, ?_⟩
      · rw [ownerCall, called]
        rfl
      · change Station.mk slave.slaveAddress progress { holding := _, input := next.bank } _ = _
        rw [written]
        rfl
  | readInput address =>
      refine ⟨slave, ?_, ⟨represents, sound, short, incomplete, rfl, quiet⟩, rfl⟩
      rw [ownerCall, slave.inputRegisterController.readRegister_bank names]
      rfl
  | flagSet address =>
      have inside : address.toNat < h := names
      refine ⟨slave, ?_, ⟨represents, sound, short, incomplete, rfl, quiet⟩, rfl⟩
      rw [ownerCall, slave.holdingRegisterController.registerData.flagSet_eq ⟨_, inside⟩, ok_bind,
        Station.obey, dif_pos inside]
      rfl
  | newDataAvailable =>
      refine ⟨slave, ?_, ⟨represents, sound, short, incomplete, rfl, quiet⟩, rfl⟩
      rw [ownerCall, slave.holdingRegisterController.registerData.newDataAvailable_decides names,
        ok_bind]
      rfl
  | clearNewDataFlags =>
      rcases slave.holdingRegisterController.registerData.clearNewDataFlags_flagged names with
        ⟨next, called, registers, cleared⟩
      refine ⟨slave.withHolding next, ?_, ⟨represents, sound, short, incomplete, rfl, quiet⟩, ?_⟩
      · rw [ownerCall, called]
        rfl
      · change Station.mk slave.slaveAddress progress
          { holding := next.toRegisterDataStore.bank, input := _ } next.flagged = _
        rw [registers, cleared]
        rfl

/-- One event of any kind. -/
theorem turn_reacts (depends : crc16.DependsOnPrefix) (holdingSmall : h ≤ 65536)
    (inputSmall : i ≤ 65536) {event : DeviceEvent} (stands : slave.StandsFor station)
    (permits : station.Permits crc16 event) :
    Exists fun next => slave.turn crc16 event = .ok (next, (station.react crc16 event).2) ∧
      next.StandsFor (nextState (Station.react crc16) station event) := by
  cases event with
  | owner call => exact ownerCall_obeys stands permits
  | line event =>
      rcases serve_hears depends holdingSmall inputSmall stands permits with
        ⟨next, reply, served, written, kept⟩
      refine ⟨next, ?_, kept⟩
      rw [turn, served, ok_bind, written]
      rfl

/-- Any number of events. -/
theorem trace_reacts (depends : crc16.DependsOnPrefix) (holdingSmall : h ≤ 65536)
    (inputSmall : i ≤ 65536) (stands : slave.StandsFor station) {events : List DeviceEvent}
    (permitted : Permitted (nextState (Station.react crc16)) (Station.Permits crc16) station
      events) :
    Exists fun final : Stores h i =>
      trace (turn crc16) slave events =
        .ok (final, (behaviour (Station.react crc16) station events).2) ∧
      final.StandsFor (behaviour (Station.react crc16) station events).1 :=
  trace_follows (turn crc16) (Station.react crc16) (Station.Permits crc16)
    (fun station slave => slave.StandsFor station)
    (fun _ _ _ => turn_reacts depends holdingSmall inputSmall) stands permitted

end Events

end ProtocolRtuSlave

open ProtocolRtuSlave in
/-- Whatever comes in on the line, and whenever the owner calls, a slave writes
and returns what its station does, and ends with the station's registers, flags
and address. -/
theorem device_refines_station [TypeConversion] {crc16 : Crc16} (depends : crc16.DependsOnPrefix)
    (holdingSmall : h ≤ 65536) (inputSmall : i ≤ 65536) (slave : Stores h i)
    (events : List DeviceEvent)
    (permitted : Permitted (nextState (Station.react crc16)) (Station.Permits crc16)
      (slave.station .idle) events) :
    Exists fun final : Stores h i =>
      trace (turn crc16) slave.reset events =
        .ok (final, (behaviour (Station.react crc16) (slave.station .idle) events).2) ∧
      final.StandsFor (behaviour (Station.react crc16) (slave.station .idle) events).1 :=
  trace_reacts depends holdingSmall inputSmall (reset_standsFor slave) permitted

open ProtocolRtuSlave in
/-- The owner stores an input register, moves the slave to address 5, and the
register is read there. -/
theorem device_refines_station_moved :
    letI := TypeConversion.shifting
    letI events : List DeviceEvent := [.owner (.writeInput 0 0x0102), .owner (.setAddress 5)] ++
      [5, 4, 0, 0, 0, 1, 0x30, 0x4E].map fun pt => .line (.character pt)
    Exists fun final : Stores 3 1 => Exists fun outputs =>
      trace (turn .modbus) (zeroSlave 3 1).reset events = .ok (final, outputs) ∧
        outputs = List.replicate 9 .nothing ++ [.reply [5, 4, 2, 1, 2, 0xC8, 0xA1]] := by
  let conversion := TypeConversion.shifting
  rcases device_refines_station Crc16.modbus_dependsOnPrefix (by decide) (by decide)
    (zeroSlave 3 1) ([.owner (.writeInput 0 0x0102), .owner (.setAddress 5)] ++
      [5, 4, 0, 0, 0, 1, 0x30, 0x4E].map fun pt => .line (.character pt)) (by decide +kernel) with
    ⟨final, completes, _⟩
  exact ⟨final, _, completes, by decide +kernel⟩

end Modbus
