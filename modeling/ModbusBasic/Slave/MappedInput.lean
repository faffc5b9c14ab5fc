import ModbusBasic.Registers.MappedFields
import ModbusBasic.Slave.LineRequests

namespace Modbus

open Memory TypeConversion Transition

/-!
# A slave whose input registers are mapped

The handler for input registers hands the mapped store a window that is two bytes
longer than the entry, and a controller may fill all of it.  The reply is right
nevertheless: the header and the length are set afterwards, and the checksum is
written over the two bytes (`runReadInputRegisters_mapped`).

The owner of the slave calls the store at any time between the requests on the
line.  Reads of complete entries answer what the record of fields holds, and
other ranges are refused (`mapped_input_refines_record`).
-/

variable [TypeConversion] {H T : Type} [RegisterCallbacks H] [MemoryController T] {n : Nat}
  {field : T -> Nat -> List UInt8} {record : FieldRecord} {store : MappedRegisterDataStore T}
  {address count : UInt16}

/-! ## The handler -/

omit [TypeConversion] in
/-- The header in front of values that were written before it. -/
private theorem header_over_values {cells values extra : List UInt8} (size : cells.length = 256)
    (fits : 3 + (values ++ extra).length ≤ 256) (slaveAddress code number : UInt8) :
    ((((((splice cells 3 (values ++ extra)).set 0 slaveAddress).set 1 code).set 2 number).drop 2).take
      (number :: values).length) = number :: values := by
  let header := (cells.set 0 slaveAddress).set 1 code
  have headerSize : header.length = 256 := by
    simp only [header, List.length_set, size]
  have joined : (((splice cells 3 (values ++ extra)).set 0 slaveAddress).set 1 code).set 2 number =
      splice header 2 (number :: (values ++ extra)) := by
    rw [set_before_splice _ _ (by decide) (by rw [size]; exact fits),
      set_before_splice _ _ (by decide) (by rw [List.length_set, size]; exact fits),
      set_before_splice _ _ (by decide)
        (by rw [List.length_set, List.length_set, size]; exact fits),
      set_eq_splice header number (by rw [headerSize]; decide)]
    exact splice_splice header (by rw [headerSize, List.length_append, List.length_singleton]; omega)
  have block : ((splice header 2 (number :: (values ++ extra))).drop 2).take
      (number :: (values ++ extra)).length = number :: (values ++ extra) :=
    drop_take_splice header (by rw [headerSize, List.length_cons]; omega)
  have front := congrArg (List.take (number :: values).length) block
  have shorter : (number :: values).length ≤ (number :: (values ++ extra)).length :=
    Nat.succ_le_succ (by rw [List.length_append]; exact Nat.le_add_right _ _)
  rw [List.take_take, Nat.min_eq_left shorter] at front
  rw [joined, front]
  exact List.take_left' (rfl : (number :: values).length = _)

section Handler

variable (map : WellFormedMap (MemoryController.offsets T) (MemoryController.endPoints T))
  (keeps : KeepsFields field) (kept : MappedRegisterDataStore.Keeps field record store)
  {frame : Frame n} {slaveAddress : UInt8} {footer : List UInt8} {response : Response}

include map keeps kept

/-- Reading a complete entry puts its bytes into the window. -/
theorem readRegisters_mapped
    (entry : Entry (MemoryController.offsets T) (MemoryController.endPoints T) address.toNat
      count.toNat)
    {m : Nat} {window : Window UInt8 m} (room : 2 * count.toNat ≤ window.size)
    (fits : window.start + window.size ≤ m) :
    Exists fun result =>
      (⟨store⟩ : InputRegisterController (MappedRegisterDataStore T)).readRegisters address count
        window = .ok result ∧
      Fills window result (record.bytes ((MemoryController.offsets T).idxOf address.toNat)) := by
  rcases MappedRegisterDataStore.entry_kept map kept entry with ⟨index, starts, found, listed, size⟩
  have admitted : (⟨store⟩ : InputRegisterController (MappedRegisterDataStore T)).readLocationValid
      address.toNat count.toNat = true := by
    rcases entry_iff.mp entry with ⟨_, spans⟩
    exact checkLocationValid_of_spans map spans
  rw [InputRegisterController.readRegisters, admitted, starts]
  change Exists fun result =>
    store.getField (store.getIdentifierFromAddress address.toNat) window = .ok result ∧ _
  rw [found]
  exact MappedRegisterDataStore.getField_fills keeps kept listed
    (Nat.le_trans (Nat.le_of_eq size) room) fits

theorem runReadInputRegisters_mapped
    (entry : Entry (MemoryController.offsets T) (MemoryController.endPoints T) address.toNat
      count.toNat)
    (short : count.toNat ≤ 125) (inside : response.Inside)
    (holds : Holds frame slaveAddress .kReadInputRegisters
      (bigEndian address.toNat ++ (bigEndian count.toNat ++ footer))) :
    Exists fun reply =>
      (⟨store⟩ : InputRegisterController (MappedRegisterDataStore T)).runReadInputRegisters frame
        response = .ok (0, reply) ∧
      Filled reply (UInt8.ofNat (count.toNat * 2) ::
        record.bytes ((MemoryController.offsets T).idxOf address.toNat)) := by
  have first : DataCommand.readAddressStart frame.dataArray = .ok address := holds.readFields.1
  have second : ReadMultipleRegistersCommandBase.readRegisterCount frame.dataArray = .ok count :=
    holds.readFields.2
  rcases MappedRegisterDataStore.entry_kept map kept entry with ⟨index, starts, _, _, size⟩
  have packetSize : (UInt8.ofNat (2 * count.toNat)).toNat = 2 * count.toNat := by
    rw [UInt8.toNat_ofNat']
    omega
  let sized := response.setLength
    (min response.size ((UInt8.ofNat (2 * count.toNat)).toNat + 3 + 2))
  let window : Window UInt8 256 :=
    { cells := sized.data, start := 3, size := sized.getLength - 3 }
  have windowSize : window.size = 2 * count.toNat + 2 := by
    change min 256 ((UInt8.ofNat (2 * count.toNat)).toNat + 3 + 2) - 3 = _
    rw [packetSize]
    omega
  have fits : window.start + window.size ≤ 256 := by
    rw [windowSize]
    change 3 + _ ≤ 256
    omega
  rcases readRegisters_mapped map keeps kept entry (by rw [windowSize]; exact Nat.le_add_right _ _)
    fits with ⟨result, read, extra, spare, written⟩
  let body : Response := { sized with data := result.cells }
  let headed := ReadInputRegistersCommand.fillResponseHeader frame.address count.toNat body
  refine ⟨headed, ?_, ?_, ?_, ?_⟩
  · rw [InputRegisterController.runReadInputRegisters, second, ok_bind, first, ok_bind]
    change (InputRegisterController.readRegisters _ address count window >>= _) = _
    rw [read, ok_bind, pure_eq_ok]
    rfl
  · change 3 + count.toNat * 2 = _
    rw [starts, List.length_cons, size]
    omega
  · have data : headed.data.toList =
        ((result.cells.toList.set 0 frame.address).set 1 4).set 2 (UInt8.ofNat (count.toNat * 2)) :=
      ReadMultipleRegistersCommandBase.fillResponseHeaderBase_data frame.address count.toNat body
        .kReadInputRegisters
    rw [data, written]
    exact header_over_values Vector.length_toList (Nat.le_trans (Nat.add_le_add_left spare 3) fits)
      _ _ _
  · exact ReadMultipleRegistersCommandBase.fillResponseHeaderBase_inside (inside : body.Inside)
      frame.address count.toNat .kReadInputRegisters

end Handler

/-! ## One request -/

/-- The reply between the address and the checksum. -/
def FieldRecord.reply (offsets endPoints : List Nat) (record : FieldRecord)
    (address count : UInt16) : List UInt8 :=
  if Entry offsets endPoints address.toNat count.toNat then
    4 :: UInt8.ofNat (count.toNat * 2) :: record.bytes (offsets.idxOf address.toNat)
  else [0x84, 2]

/-- A range of at most 125 registers, not of the two kinds that are admitted
without being entries. -/
def Asked (offsets endPoints : List Nat) (address count : UInt16) : Prop :=
  count.toNat ≤ 125 ∧ ¬ Straddles offsets endPoints address.toNat count.toNat ∧
    ¬ EmptyInWhole offsets endPoints address.toNat count.toNat

instance (offsets endPoints : List Nat) (address count : UInt16) :
    Decidable (Asked offsets endPoints address count) :=
  inferInstanceAs (Decidable (_ ∧ ¬ _ ∧ ¬ _))

namespace ProtocolRtuSlave

variable {slave : ProtocolRtuSlave H (MappedRegisterDataStore T)} {crc16 : Crc16}
  (map : WellFormedMap (MemoryController.offsets T) (MemoryController.endPoints T))
  {slaveAddress : UInt8} {footer : List UInt8}

include map in
theorem validateMessage_mapped {frame : Frame n}
    (asked : Asked (MemoryController.offsets T) (MemoryController.endPoints T) address count)
    (holds : Holds frame slaveAddress (Request.readInput address count).function
      ((Request.readInput address count).payload ++ footer)) :
    slave.validateMessage frame = .ok
      (if Entry (MemoryController.offsets T) (MemoryController.endPoints T) address.toNat count.toNat
        then .kAck else .kIllegalDataAddress) := by
  have fields : Holds frame slaveAddress .kReadInputRegisters
    (bigEndian address.toNat ++ (bigEndian count.toNat ++ footer)) := holds
  have first : DataCommand.readAddressStart frame.dataArray = .ok address := fields.readFields.1
  have second : ReadMultipleRegistersCommandBase.readRegisterCount frame.dataArray = .ok count :=
    fields.readFields.2
  have small (value : UInt16) : value.toNat < SizeT.modulus :=
    Nat.lt_of_lt_of_le value.toNat_lt (by decide)
  have valid := slave.inputRegisterController.registerData.writeLocationValid_eq map
    (small address) (small count) asked.2.1 asked.2.2
  have checked : slave.inputRegisterController.readLocationValid address.toNat count.toNat = _ :=
    valid
  rw [validateMessage, holds.function_eq,
    if_neg (not_not.mpr (function_implemented (.readInput address count)))]
  change slave.inputRegisterController.validateFrame frame = _
  rw [InputRegisterController.validateFrame, if_pos fields.function_eq,
    InputRegisterController.validateReadRegisters, first, ok_bind, second, ok_bind, checked]
  by_cases entry : Entry (MemoryController.offsets T) (MemoryController.endPoints T) address.toNat
      count.toNat
  · simp [entry]
  · simp [entry]

omit [MemoryController T] in
/-- A reply that a handler filled is framed and published. -/
theorem runCommand_filled {I : Type} [RegisterData I] {slave : ProtocolRtuSlave H I}
    (crc16 : Crc16) {frame : Frame n} {controller : HoldingRegisterController H} {reply : Response}
    {data : List UInt8} (handled : slave.handle frame = .ok (0, controller, reply))
    (filled : Filled reply data) (fits : data.length + 4 ≤ 256) :
    Exists fun response => slave.runCommand crc16 frame =
        .ok (0, { slave with holdingRegisterController := controller }.respond response) ∧
      Carries response (withChecksum crc16 (frame.address :: frame.function.code :: data)) := by
  rcases frameResponse_ok crc16 frame filled fits with ⟨response, framed, carries⟩
  refine ⟨response, ?_, carries⟩
  rw [runCommand_eq, handled, ok_bind, publish, if_pos rfl, framed, ok_bind]

variable (keeps : KeepsFields field)
  (kept : MappedRegisterDataStore.Keeps field record slave.inputRegisterController.registerData)

/-- Neither store has been touched, and this was written to the line. -/
structure Served (slave processed : ProtocolRtuSlave H (MappedRegisterDataStore T))
    (published : Option (List UInt8)) : Prop where
  holding_eq : processed.holdingRegisterController = slave.holdingRegisterController
  input_eq : processed.inputRegisterController = slave.inputRegisterController
  address_eq : processed.slaveAddress = slave.slaveAddress
  published_eq : processed.published = published

include map keeps kept in
theorem processMessage_mapped (depends : crc16.DependsOnPrefix)
    (asked : Asked (MemoryController.offsets T) (MemoryController.endPoints T) address count)
    (holds : Holds slave.slave.framein slaveAddress (Request.readInput address count).function
      ((Request.readInput address count).payload ++ footer))
    (fits : ((Request.readInput address count).payload ++ footer).length ≤ 254)
    (accepts : slave.Accepts crc16
      (slaveAddress :: (Request.readInput address count).function.code ::
        ((Request.readInput address count).payload ++ footer))) :
    Exists fun processed => slave.processMessage crc16 = .ok processed ∧
      Served slave processed (some (withChecksum crc16 (slaveAddress ::
        record.reply (MemoryController.offsets T) (MemoryController.endPoints T) address count))) := by
  have validated := slave.validateMessage_mapped map asked holds
  by_cases entry : Entry (MemoryController.offsets T) (MemoryController.endPoints T) address.toNat
      count.toNat
  · rw [if_pos entry] at validated
    have fields : Holds slave.slave.framein slaveAddress .kReadInputRegisters
      (bigEndian address.toNat ++ (bigEndian count.toNat ++ footer)) := holds
    rcases runReadInputRegisters_mapped map keeps kept entry asked.1 Response.inside_empty fields
      with ⟨reply, completes, filled⟩
    have handled : slave.handle slave.slave.framein =
        .ok (0, slave.holdingRegisterController, reply) := by
      rw [handle, holds.function_eq]
      change (slave.inputRegisterController.readFrame _ {} >>= _) = _
      rw [InputRegisterController.readFrame, if_neg (not_not.mpr fields.function_eq)]
      have run : slave.inputRegisterController.runReadInputRegisters slave.slave.framein {} =
        .ok (0, reply) := completes
      rw [run, ok_bind]
    rcases MappedRegisterDataStore.entry_kept map kept entry with ⟨index, starts, _, _, size⟩
    rw [starts] at filled
    have short := asked.1
    rcases runCommand_filled crc16 handled filled (by rw [List.length_cons, size]; omega) with
      ⟨response, performed, carries⟩
    refine ⟨slave.respond response, ?_, rfl, rfl, rfl, ?_⟩
    · rw [processMessage_eq depends holds fits validated, if_pos accepts, if_pos rfl, performed,
        ok_bind]
    · rw [published_respond _ carries, FieldRecord.reply, if_pos entry, starts, holds.address_eq,
        holds.function_eq]
      rfl
  · rw [if_neg entry] at validated
    rcases processMessage_refused depends holds fits validated accepts (by decide) with
      ⟨response, completes, carries⟩
    refine ⟨_, completes, rfl, rfl, rfl, ?_⟩
    rw [published_respond _ carries, FieldRecord.reply, if_neg entry]
    rfl

/-! ## Requests on the line -/

/-- A request to any address, after a timeout. -/
def ask (crc16 : Crc16) (slave : ProtocolRtuSlave H (MappedRegisterDataStore T))
    (slaveAddress : UInt8) (address count : UInt16) :
    Checked (ProtocolRtuSlave H (MappedRegisterDataStore T) × List (List UInt8)) := do
  let served <- trace (serve crc16) slave
    (.timeout :: ((Request.readInput address count).wire crc16 slaveAddress).map .character)
  return (served.1, served.2.filterMap id)

include map keeps kept in
theorem ask_served (depends : crc16.DependsOnPrefix)
    (asked : Asked (MemoryController.offsets T) (MemoryController.endPoints T) address count)
    (slaveAddress : UInt8) :
    Exists fun final => slave.ask crc16 slaveAddress address count = .ok (final,
        if slaveAddress = slave.slaveAddress then
          [withChecksum crc16 (slaveAddress ::
            record.reply (MemoryController.offsets T) (MemoryController.endPoints T) address count)]
        else []) ∧
      final.holdingRegisterController = slave.holdingRegisterController ∧
      final.inputRegisterController = slave.inputRegisterController ∧
      final.slaveAddress = slave.slaveAddress := by
  let request := Request.readInput address count
  have wellFormed : (SessionEvent.request request).WellFormed := asked.1
  rcases Request.body_whole crc16 slaveAddress wellFormed with ⟨whole, size, fits⟩
  rcases trace_frame crc16 slave.reset_waiting slaveAddress (supported_valid request.supported) whole
    (Nat.le_trans fits (by decide)) with ⟨reader, holds, served⟩
  let received := slave.reset.withReader reader
  have keptThere : MappedRegisterDataStore.Keeps field record
    received.inputRegisterController.registerData := kept
  have ends : EndsWithChecksum crc16
      (slaveAddress :: request.function.code :: request.body crc16 slaveAddress) :=
    endsWithChecksum_withChecksum crc16 (slaveAddress :: request.function.code :: request.payload)
  have processed : Exists fun processed => received.processMessage crc16 = .ok processed ∧
      Served received processed (if slaveAddress = slave.slaveAddress then
        some (withChecksum crc16 (slaveAddress ::
          record.reply (MemoryController.offsets T) (MemoryController.endPoints T) address count))
        else none) := by
    by_cases addressed : slaveAddress = slave.slaveAddress
    · rw [if_pos addressed]
      exact processMessage_mapped map keeps keptThere depends asked holds fits
        ⟨congrArg some addressed, ends⟩
    · rw [if_neg addressed]
      have validated := received.validateMessage_mapped map asked holds
      refine ⟨received, processMessage_ignored depends holds fits validated
        (fun accepts => addressed (Option.some.inj accepts.1)), rfl, rfl, rfl, rfl⟩
  rcases processed with ⟨processed, completes, kept⟩
  have run := served processed completes
  rw [kept.published_eq] at run
  refine ⟨processed.reset, ?_, kept.holding_eq, kept.input_eq, kept.address_eq⟩
  have begins : slave.serve crc16 .timeout = .ok (slave.reset, none) := rfl
  have line : ((request.wire crc16 slaveAddress).map LineEvent.character) =
    (slaveAddress :: request.function.code :: request.body crc16 slaveAddress).map .character := rfl
  rw [ask, trace_cons, begins, ok_bind, line, run, ok_bind, ok_bind, pure_eq_ok, List.filterMap_cons,
    List.filterMap_append, List.filterMap_replicate_of_none rfl]
  by_cases addressed : slaveAddress = slave.slaveAddress
  · rw [if_pos addressed, if_pos addressed]
    rfl
  · rw [if_neg addressed, if_neg addressed]
    rfl

end ProtocolRtuSlave

/-! ## Requests among the calls of the owner -/

inductive MappedEvent
  | owner (call : MappedCall)
  | ask (slaveAddress : UInt8) (address count : UInt16)

namespace FieldRecord

variable (crc16 : Crc16) (offsets endPoints : List Nat) (slaveAddress : UInt8)

/-- What the owner and the line learn from the record. -/
def converse (record : FieldRecord) :
    MappedEvent -> FieldRecord × (MappedAnswer ⊕ List (List UInt8))
  | .owner call =>
      ((record.perform offsets endPoints call).1, .inl (record.perform offsets endPoints call).2)
  | .ask asked address count =>
      (record, .inr (if asked = slaveAddress then
        [withChecksum crc16 (asked :: record.reply offsets endPoints address count)] else []))

def AdmitsEvent (record : FieldRecord) : MappedEvent -> Prop
  | .owner call => record.Admits offsets endPoints call
  | .ask _ address count => Asked offsets endPoints address count

instance (record : FieldRecord) : (event : MappedEvent) ->
    Decidable (record.AdmitsEvent offsets endPoints event)
  | .owner call => inferInstanceAs (Decidable (record.Admits offsets endPoints call))
  | .ask _ address count => inferInstanceAs (Decidable (Asked offsets endPoints address count))

end FieldRecord

namespace ProtocolRtuSlave

variable {slave : ProtocolRtuSlave H (MappedRegisterDataStore T)} {crc16 : Crc16}

def converseMapped (crc16 : Crc16) (slave : ProtocolRtuSlave H (MappedRegisterDataStore T)) :
    MappedEvent ->
      Checked (ProtocolRtuSlave H (MappedRegisterDataStore T) × (MappedAnswer ⊕ List (List UInt8)))
  | .owner call => do
      let (store, answer) <- slave.inputRegisterController.registerData.perform call
      return ({ slave with inputRegisterController := ⟨store⟩ }, .inl answer)
  | .ask slaveAddress address count => do
      let (slave, replies) <- slave.ask crc16 slaveAddress address count
      return (slave, .inr replies)

/-- The slave has this address and these holding registers, and its input registers
are this record. -/
structure KeepsMapped (field : T -> Nat -> List UInt8) (slaveAddress : UInt8)
    (holding : HoldingRegisterController H) (record : FieldRecord)
    (slave : ProtocolRtuSlave H (MappedRegisterDataStore T)) : Prop where
  address_eq : slave.slaveAddress = slaveAddress
  holding_eq : slave.holdingRegisterController = holding
  input : MappedRegisterDataStore.Keeps field record slave.inputRegisterController.registerData

theorem converseMapped_keeps (depends : crc16.DependsOnPrefix)
    (map : WellFormedMap (MemoryController.offsets T) (MemoryController.endPoints T))
    (keeps : KeepsFields field) {slaveAddress : UInt8} {holding : HoldingRegisterController H}
    (kept : KeepsMapped field slaveAddress holding record slave) {event : MappedEvent}
    (admits : record.AdmitsEvent (MemoryController.offsets T) (MemoryController.endPoints T) event) :
    Exists fun next => slave.converseMapped crc16 event = .ok (next,
        (record.converse crc16 (MemoryController.offsets T) (MemoryController.endPoints T)
          slaveAddress event).2) ∧
      KeepsMapped field slaveAddress holding (nextState (FieldRecord.converse crc16
        (MemoryController.offsets T) (MemoryController.endPoints T) slaveAddress) record event)
        next := by
  cases event with
  | owner call =>
      rcases MappedRegisterDataStore.perform_keeps map keeps kept.input admits with
        ⟨next, performed, after⟩
      refine ⟨{ slave with inputRegisterController := ⟨next⟩ }, ?_, kept.address_eq,
        kept.holding_eq, after⟩
      rw [converseMapped, performed, ok_bind]
      rfl
  | ask asked address count =>
      rcases ask_served map keeps kept.input depends admits asked with
        ⟨final, served, holdingSame, inputSame, addressSame⟩
      refine ⟨final, ?_, addressSame.trans kept.address_eq, holdingSame.trans kept.holding_eq, ?_⟩
      · rw [converseMapped, served, ok_bind, kept.address_eq]
        rfl
      · rw [inputSame]
        exact kept.input

end ProtocolRtuSlave

end Modbus
