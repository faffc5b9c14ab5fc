import ModbusBasic.Registers.Calls
import ModbusBasic.Slave.LineRequests

namespace Modbus

open Memory TypeConversion Transition

/-!
# A master and a slave

The library has both ends of a request.  A master fills a frame, lays it out
with `ProtocolRtu::Frame` in a buffer of just the required size and sends it; of
the reply it checks the checksum of the raw bytes and reads the fields at the
places of `ResponsePacket`, which count from the address byte.  `exchange` puts
the two together over a line that loses nothing, after a timeout.

What a master sees of a slave over any number of calls is what the register file
answers: register values, not bytes.
-/

variable {h i : Nat}

/-- What a master learns from a reply. -/
inductive Answer
  | registers (values : List UInt16)
  | written (address value : UInt16)
  | stored (address count : UInt16)
  | refused (code : UInt8)
  | damaged
  | silent
deriving DecidableEq

/-! ## The register file under calls -/

namespace Bank

variable {n : Nat}

/-- The values of `count` registers. -/
def values (bank : Bank n) (address count : Nat) : List UInt16 :=
  (List.range count).map fun offset => bank.fetch (address + offset)

theorem bytes_eq (bank : Bank n) (address count : Nat) :
    bank.bytes address count = registerBytes (bank.values address count) := by
  rw [bytes, registerBytes, values, List.flatMap_map]

theorem values_length (bank : Bank n) (address count : Nat) :
    (bank.values address count).length = count := by
  rw [values, List.length_map, List.length_range]

end Bank

/-- The register file, called with registers and answering with registers. -/
def RegisterFile.call (file : RegisterFile h i) : RegisterCall -> RegisterFile h i × Answer
  | .readHolding address count =>
      if InRange h address.toNat count.toNat then
        (file, .registers (file.holding.values address.toNat count.toNat))
      else (file, .refused Exception.kIllegalDataAddress.code)
  | .readInput address count =>
      if InRange i address.toNat count.toNat then
        (file, .registers (file.input.values address.toNat count.toNat))
      else (file, .refused Exception.kIllegalDataAddress.code)
  | .writeSingle address value =>
      if InRange h address.toNat 1 then
        ({ file with holding := file.holding.overwrite address.toNat 1 fun _ => value },
          .written address value)
      else (file, .refused Exception.kIllegalDataAddress.code)
  | .writeMultiple address values =>
      if InRange h address.toNat values.length then
        ({ file with holding := file.holding.overwrite address.toNat values.length
                      fun offset => values.getD offset 0 },
          .stored address (UInt16.ofNat values.length))
      else (file, .refused Exception.kIllegalDataAddress.code)

/-! ## Both ends of the line -/

section Ends

variable [TypeConversion] {n : Nat}

/-- The bytes of a frame, in a buffer of just the required size. -/
def transmit (crc16 : Crc16) (packet : Frame n) : Checked (List UInt8) := do
  let buffer <- ProtocolRtu.frame crc16 packet (Vector.replicate (getRequiredPacketSize packet) 0)
  return buffer.toList

/-- The register values of a reply to a read, as many as its byte count says. -/
def readResponseValues (dataArray : Vector UInt8 n) : Checked (List UInt16) := do
  let bytes <- ReadMultipleRegistersCommandBase.readResponseByteCount dataArray
  (List.range (bytes.toNat / 2)).mapM fun offset => readUInt16 dataArray
    (ReadMultipleRegistersCommandBase.ResponsePacket.kHeaderSize + 2 * offset)

/-- The fields of a reply that is not an exception. -/
def RegisterCall.readResponse (dataArray : Vector UInt8 n) : RegisterCall -> Checked Answer
  | readHolding _ _ | readInput _ _ => do
      let values <- readResponseValues dataArray
      return .registers values
  | writeSingle _ _ => do
      let address <- WriteSingleHoldingRegisterCommand.readResponseAddressStart dataArray
      let value <- WriteSingleHoldingRegisterCommand.readResponseSetting dataArray
      return .written address value
  | writeMultiple _ _ => do
      let address <- WriteMultipleHoldingRegistersCommand.readResponseAddressStart dataArray
      let count <- WriteMultipleHoldingRegistersCommand.readResponseRegisterCount dataArray
      return .stored address count

/-- A reply whose function is not the one asked for carries an exception code. -/
def RegisterCall.receive (crc16 : Crc16) (reply : List UInt8) (call : RegisterCall) :
    Checked Answer := do
  let valid <- ProtocolRtu.frameCrcIsValidView crc16 reply
  if valid then
    let function <- loadView reply Command.kFunction
    if function = call.request.function.code then
      call.readResponse (⟨reply.toArray, rfl⟩ : Vector UInt8 reply.toArray.size)
    else
      let code <- loadView reply (Command.kHeaderEnd + 1)
      return .refused code
  else return .damaged

/-- A call of the slave with this address, and what comes back.  The data array
of the frame has the 1024 bytes the tests of the library use. -/
def exchange (crc16 : Crc16) (slaveAddress : UInt8) (slave : ProtocolRtuSlave.Stores h i)
    (call : RegisterCall) : Checked (ProtocolRtuSlave.Stores h i × Answer) := do
  let packet : Frame 1024 := { address := slaveAddress, dataArray := Vector.replicate 1024 0 }
  let filled <- call.fillFrame packet
  let bytes <- transmit crc16 filled.2
  let served <- trace (ProtocolRtuSlave.serve crc16) slave
    (.timeout :: bytes.map LineEvent.character)
  match served.2.filterMap id with
  | [reply] => do
      let answer <- call.receive crc16 reply
      return (served.1, answer)
  | _ => return (served.1, .silent)

end Ends

/-! ## The reply on the line -/

/-- The frame written to the line, if any. -/
def Outgoing.frame : Outgoing -> Option (List UInt8)
  | reply bytes => some bytes
  | _ => none

theorem Outgoing.frames_after_silence (count : Nat) (rest : List Outgoing) :
    (List.replicate count nothing ++ rest).filterMap frame = rest.filterMap frame := by
  rw [List.filterMap_append, List.filterMap_replicate_of_none rfl, List.nil_append]

/-- What is written in a whole run is what the station answers. -/
theorem ProtocolRtuSlave.trace_hears [TypeConversion] {crc16 : Crc16}
    (depends : crc16.DependsOnPrefix) (holdingSmall : h ≤ 65536) (inputSmall : i ≤ 65536)
    {slave : Stores h i} {station : Station h i} (stands : slave.StandsFor station)
    {events : List LineEvent}
    (permitted : Permitted Progress.hear (Serviceable crc16 station.slaveAddress h i)
      station.progress events) :
    Exists fun final => Exists fun replies => trace (serve crc16) slave events =
        .ok (final, replies) ∧
      replies.filterMap id =
        (behaviour (Station.hear crc16) station events).2.filterMap Outgoing.frame ∧
      final.StandsFor (behaviour (Station.hear crc16) station events).1 := by
  induction events generalizing slave station with
  | nil => exact ⟨slave, [], rfl, rfl, stands⟩
  | cons event rest inductionHypothesis =>
      rcases serve_hears depends holdingSmall inputSmall stands permitted.1 with
        ⟨next, reply, served, written, kept⟩
      have progress : (station.hear crc16 event).1.progress = station.progress.hear event :=
        Station.hear_progress event
      have address : (station.hear crc16 event).1.slaveAddress = station.slaveAddress :=
        Station.hear_slaveAddress event
      have later := permitted.2
      rw [← progress, ← address] at later
      rcases inductionHypothesis kept later with ⟨final, replies, completes, same, finished⟩
      refine ⟨final, reply :: replies, ?_, ?_, finished⟩
      · rw [trace_cons, served, ok_bind, completes, ok_bind]
      · rw [behaviour_cons, nextState, ← written]
        cases reply with
        | none => exact same
        | some bytes => exact congrArg (bytes :: ·) same

/-! ## Reading a reply -/

section Replies

variable [TypeConversion] {n : Nat} {dataArray : Vector UInt8 n} {reply : List UInt8}

/-- A 16-bit field of a reply. -/
theorem readUInt16_reply (received : dataArray.toList = reply) {front rest : List UInt8}
    {value : UInt16} (split : reply = front ++ (bigEndian value.toNat ++ rest)) :
    readUInt16 dataArray front.length = .ok value := by
  have holds : Holds { dataLength := reply.length, dataArray := dataArray } 0 .kNone reply :=
    ⟨rfl, rfl, rfl, by rw [received, List.take_length]⟩
  exact holds.readUInt16 split

/-- Two fields behind the header of a reply. -/
theorem readTwoFields_reply {address code : UInt8} {first second : UInt16} {footer : List UInt8}
    (received : dataArray.toList =
      address :: code :: (bigEndian first.toNat ++ bigEndian second.toNat) ++ footer) :
    readUInt16 dataArray 2 = .ok first ∧ readUInt16 dataArray 4 = .ok second := by
  constructor
  · have split : address :: code :: (bigEndian first.toNat ++ bigEndian second.toNat) ++ footer =
        [address, code] ++ (bigEndian first.toNat ++ (bigEndian second.toNat ++ footer)) := rfl
    exact readUInt16_reply received split
  · have split : address :: code :: (bigEndian first.toNat ++ bigEndian second.toNat) ++ footer =
        (address :: code :: bigEndian first.toNat) ++ (bigEndian second.toNat ++ footer) := rfl
    exact readUInt16_reply received split

/-- All values of a reply to a read. -/
theorem readValues_reply {address code number : UInt8} {values : List UInt16}
    {footer : List UInt8} (numbered : number.toNat = 2 * values.length)
    (received : dataArray.toList =
      address :: code :: (number :: registerBytes values) ++ footer) :
    readResponseValues dataArray = .ok values := by
  have loaded : ReadMultipleRegistersCommandBase.readResponseByteCount dataArray = .ok number := by
    apply load_eq_ok.mpr
    rw [received]
    rfl
  have each : forall offset, offset ∈ List.range values.length ->
      readUInt16 dataArray (ReadMultipleRegistersCommandBase.ResponsePacket.kHeaderSize +
        2 * offset) = .ok (values.getD offset 0) := by
    intro offset listed
    have inside := List.mem_range.mp listed
    let front := address :: code :: number :: registerBytes (values.take offset)
    have split : address :: code :: (number :: registerBytes values) ++ footer =
        front ++ (bigEndian values[offset].toNat ++
          (registerBytes (values.drop (offset + 1)) ++ footer)) := by
      rw [WriteMultipleHoldingRegistersCommand.registerBytes_split inside]
      simp only [front, List.append_assoc, List.cons_append]
    have position : front.length =
        ReadMultipleRegistersCommandBase.ResponsePacket.kHeaderSize + 2 * offset := by
      change (registerBytes (values.take offset)).length + 3 = 3 + 2 * offset
      rw [registerBytes_length, List.length_take, Nat.min_eq_left (Nat.le_of_lt inside),
        Nat.add_comm]
    rw [← position, readUInt16_reply received split, List.getD_eq_getElem _ _ inside]
  have whole : (List.range values.length).map (fun offset => values.getD offset 0) = values := by
    apply List.ext_getElem
    · rw [List.length_map, List.length_range]
    · intro offset _ inside
      rw [List.getElem_map, List.getElem_range, List.getD_eq_getElem _ _ inside]
  rw [readResponseValues, loaded, ok_bind, numbered, Nat.mul_div_cancel_left _ (by decide),
    mapM_ok each, whole]

/-- The checksum the slave adds is the one the master checks. -/
theorem frameCrcIsValidView_reply {crc16 : Crc16} (depends : crc16.DependsOnPrefix)
    (bytes : List UInt8) :
    ProtocolRtu.frameCrcIsValidView crc16 (withChecksum crc16 bytes) = .ok true := by
  have long : 2 ≤ (withChecksum crc16 bytes).length := by
    rw [withChecksum_length]
    exact Nat.le_add_left 2 _
  rw [frameCrcIsValidView_eq depends long,
    decide_eq_true (endsWithChecksum_withChecksum crc16 bytes)]

/-- A reply with the function asked for is read by the fields of its call. -/
theorem RegisterCall.receive_answered {crc16 : Crc16} (depends : crc16.DependsOnPrefix)
    (call : RegisterCall) (slaveAddress : UInt8) (rest : List UInt8) {answer : Answer}
    (reads : forall {n : Nat} (dataArray : Vector UInt8 n), dataArray.toList =
      withChecksum crc16 (slaveAddress :: call.request.function.code :: rest) ->
        call.readResponse dataArray = .ok answer) :
    call.receive crc16
      (withChecksum crc16 (slaveAddress :: call.request.function.code :: rest)) = .ok answer := by
  have function : loadView (withChecksum crc16 (slaveAddress :: call.request.function.code :: rest))
      Command.kFunction = .ok call.request.function.code := loadView_ok rfl
  rw [receive, frameCrcIsValidView_reply depends, ok_bind, if_pos rfl, function, ok_bind, if_pos rfl]
  exact reads _ rfl

/-- A reply with the error function carries its exception. -/
theorem RegisterCall.receive_refused {crc16 : Crc16} (depends : crc16.DependsOnPrefix)
    (call : RegisterCall) (slaveAddress exception : UInt8) :
    call.receive crc16 (withChecksum crc16
      [slaveAddress, call.request.function.code + 0x80, exception]) =
        .ok (.refused exception) := by
  let reply := withChecksum crc16 [slaveAddress, call.request.function.code + 0x80, exception]
  have function : loadView reply Command.kFunction = .ok (call.request.function.code + 0x80) :=
    loadView_ok rfl
  have code : loadView reply (Command.kHeaderEnd + 1) = .ok exception := loadView_ok rfl
  have marked : call.request.function.code + 0x80 ≠ call.request.function.code := by
    intro same
    have changed := congrArg UInt8.toNat same
    have bound := call.request.function.code.toNat_lt
    rw [UInt8.toNat_add] at changed
    change (_ + 128) % 256 = _ at changed
    omega
  rw [receive, frameCrcIsValidView_reply depends, ok_bind, if_pos rfl, function, ok_bind,
    if_neg marked, code, ok_bind]
  rfl

end Replies

/-! ## One call -/

section Calls

variable [TypeConversion] {crc16 : Crc16}

theorem wordAt_split {front rest : List UInt8} {value : UInt16} {offset : Nat}
    (position : front.length = 2 * offset) :
    wordAt (front ++ (bigEndian value.toNat ++ rest)) offset = value := by
  have first : (front ++ (bigEndian value.toNat ++ rest)).getD (2 * offset) 0 =
      UInt8.ofNat (value.toNat / 256) := by
    rw [← position, List.getD_append_right _ _ _ _ (Nat.le_refl _), Nat.sub_self]
    rfl
  have second : (front ++ (bigEndian value.toNat ++ rest)).getD (2 * offset + 1) 0 =
      UInt8.ofNat value.toNat := by
    rw [← position, List.getD_append_right _ _ _ _ (Nat.le_add_right _ 1), Nat.add_sub_cancel_left]
    rfl
  rw [wordAt, first, second]
  exact (make_eq _ _).symm.trans (make_getByte value)

/-- The values of a multiple write are what is stored. -/
theorem overwrite_registerBytes {n : Nat} (bank : Bank n) (address : Nat) (values : List UInt16) :
    bank.overwrite address values.length (wordAt (registerBytes values)) =
      bank.overwrite address values.length fun offset => values.getD offset 0 := by
  funext index
  by_cases covered : Covers address values.length index
  · have inside : index - address < values.length := by
      have bounds : address ≤ index ∧ index < address + values.length := covered
      omega
    have front : (registerBytes (values.take (index - address))).length = 2 * (index - address) := by
      rw [registerBytes_length, List.length_take, Nat.min_eq_left (Nat.le_of_lt inside)]
    rw [Bank.overwrite, Bank.overwrite, if_pos covered, if_pos covered,
      WriteMultipleHoldingRegistersCommand.registerBytes_split inside, wordAt_split front,
      List.getD_eq_getElem _ _ inside]
  · rw [Bank.overwrite_outside bank _ covered, Bank.overwrite_outside bank _ covered]

/-- A call that is refused learns why, and changes nothing. -/
theorem receive_performRefused (depends : crc16.DependsOnPrefix) (slaveAddress : UInt8)
    (file : RegisterFile h i) (call : RegisterCall) {exception : Exception}
    (refused : call.request.verdict h i = exception) (fails : exception ≠ .kAck) :
    call.receive crc16 (withChecksum crc16 (slaveAddress :: (file.perform call.request).2)) =
        .ok (.refused exception.code) ∧
      (file.perform call.request).1 = file := by
  have performed := file.perform_refused (by rw [refused]; exact fails)
  rw [performed, refused]
  exact ⟨call.receive_refused depends slaveAddress exception.code, rfl⟩

/-- A call that is performed reads what its fields say. -/
theorem receive_performed (depends : crc16.DependsOnPrefix) (slaveAddress : UInt8)
    (file : RegisterFile h i) (call : RegisterCall) (acknowledged : call.request.verdict h i = .kAck)
    {answer : Answer}
    (reads : forall {n : Nat} (dataArray : Vector UInt8 n) (footer : List UInt8),
      dataArray.toList =
        slaveAddress :: call.request.function.code :: file.answer call.request ++ footer ->
      call.readResponse dataArray = .ok answer) :
    call.receive crc16 (withChecksum crc16 (slaveAddress :: (file.perform call.request).2)) =
        .ok answer ∧
      (file.perform call.request).1 = { file with holding := file.update call.request } := by
  rw [file.perform_ack acknowledged]
  exact ⟨call.receive_answered depends slaveAddress _ fun dataArray received =>
    reads dataArray _ received, rfl⟩

/-- A read of either bank. -/
theorem readResponse_bytes {n m : Nat} {dataArray : Vector UInt8 n} {slaveAddress code : UInt8}
    {bank : Bank m} {address count : UInt16} (few : count.toNat ≤ 125) {footer : List UInt8}
    (received : dataArray.toList = slaveAddress :: code ::
      (UInt8.ofNat (count.toNat * 2) :: bank.bytes address.toNat count.toNat) ++ footer) :
    readResponseValues dataArray = .ok (bank.values address.toNat count.toNat) := by
  rw [bank.bytes_eq] at received
  refine readValues_reply ?_ received
  rw [bank.values_length, UInt8.toNat_ofNat', Nat.mod_eq_of_lt (by omega), Nat.mul_comm]

/-- The reply to a request, as the register file sends it, is read as the
register file answers the call. -/
theorem receive_perform (depends : crc16.DependsOnPrefix) (slaveAddress : UInt8)
    (file : RegisterFile h i) {call : RegisterCall} (bounded : call.Bounded) :
    call.receive crc16 (withChecksum crc16 (slaveAddress :: (file.perform call.request).2)) =
        .ok (file.call call).2 ∧
      (file.perform call.request).1 = (file.call call).1 := by
  cases call with
  | readHolding address count =>
      by_cases inRange : InRange h address.toNat count.toNat
      · rw [RegisterFile.call, if_pos inRange]
        refine receive_performed depends slaveAddress file (.readHolding address count)
          (if_pos inRange) ?_
        intro n dataArray footer received
        rw [RegisterCall.readResponse, readResponse_bytes bounded received, ok_bind, pure_eq_ok]
      · rw [RegisterFile.call, if_neg inRange]
        exact receive_performRefused depends slaveAddress file _ (if_neg inRange) (by decide)
  | readInput address count =>
      by_cases inRange : InRange i address.toNat count.toNat
      · rw [RegisterFile.call, if_pos inRange]
        refine receive_performed depends slaveAddress file (.readInput address count)
          (if_pos inRange) ?_
        intro n dataArray footer received
        rw [RegisterCall.readResponse, readResponse_bytes bounded received, ok_bind, pure_eq_ok]
      · rw [RegisterFile.call, if_neg inRange]
        exact receive_performRefused depends slaveAddress file _ (if_neg inRange) (by decide)
  | writeSingle address value =>
      by_cases inRange : InRange h address.toNat 1
      · rw [RegisterFile.call, if_pos inRange]
        refine receive_performed depends slaveAddress file (.writeSingle address value)
          (if_pos inRange) ?_
        intro n dataArray footer received
        have fields := readTwoFields_reply received
        change (readUInt16 dataArray 2 >>= fun address => readUInt16 dataArray 4 >>= _) = _
        rw [fields.1, ok_bind, fields.2, ok_bind, pure_eq_ok]
      · rw [RegisterFile.call, if_neg inRange]
        exact receive_performRefused depends slaveAddress file _ (if_neg inRange) (by decide)
  | writeMultiple address values =>
      have counted := RegisterCall.bounded_length bounded
      by_cases inRange : InRange h address.toNat values.length
      · have acknowledged :
            (RegisterCall.writeMultiple address values).request.verdict h i = .kAck := by
          apply Request.writeMultiple_acknowledged.mpr
          rw [counted, registerBytes_length]
          exact ⟨inRange, Nat.mul_comm _ 2⟩
        have stored : file.update (RegisterCall.writeMultiple address values).request =
            file.holding.overwrite address.toNat values.length
              fun offset => values.getD offset 0 := by
          change file.holding.overwrite _ (UInt16.ofNat values.length).toNat _ = _
          rw [counted, overwrite_registerBytes]
        rw [RegisterFile.call, if_pos inRange, ← stored]
        refine receive_performed depends slaveAddress file _ acknowledged ?_
        intro n dataArray footer received
        have fields := readTwoFields_reply received
        change (readUInt16 dataArray 2 >>= fun address => readUInt16 dataArray 4 >>= _) = _
        rw [fields.1, ok_bind, fields.2, ok_bind, pure_eq_ok]
      · have outside : ¬ InRange h address.toNat (UInt16.ofNat values.length).toNat := by
          rw [counted]
          exact inRange
        rw [RegisterFile.call, if_neg inRange]
        exact receive_performRefused depends slaveAddress file _ (if_pos outside) (by decide)

omit [TypeConversion] in
/-- The bounds of a call are those of its request. -/
theorem RegisterCall.wellFormed {call : RegisterCall} (bounded : call.Bounded) :
    (SessionEvent.request call.request).WellFormed := by
  cases call with
  | readHolding address count => exact bounded
  | readInput address count => exact bounded
  | writeSingle address value => exact Nat.zero_le 125
  | writeMultiple address values =>
      have few : values.length ≤ 123 := bounded
      change (registerBytes values).length ≤ 246
      rw [registerBytes_length]
      omega

/-- What the encoder and the framing put on the line is the request. -/
theorem transmit_call (depends : crc16.DependsOnPrefix) (slaveAddress : UInt8) {call : RegisterCall}
    (bounded : call.Bounded) :
    Exists fun filled =>
      call.fillFrame ({ address := slaveAddress, dataArray := Vector.replicate 1024 0 } : Frame 1024) =
        .ok (0, filled) ∧
      transmit crc16 filled = .ok (call.request.wire crc16 slaveAddress) := by
  rcases call.fillFrame_holds bounded
    ({ address := slaveAddress, dataArray := Vector.replicate 1024 0 } : Frame 1024) (by decide) with
    ⟨filled, completes, holds⟩
  have size : getRequiredPacketSize filled = call.request.payload.length + 4 := by
    change 2 + filled.dataLength + 2 = _
    rw [holds.dataLength_eq]
    omega
  rcases frame_eq depends holds (Vector.replicate (getRequiredPacketSize filled) 0) size with
    ⟨buffer, framed, contents⟩
  refine ⟨filled, completes, ?_⟩
  rw [transmit, framed, ok_bind, contents]
  rfl

end Calls

/-! ## Any number of calls -/

namespace Station

/-- What a call of this address learns from the station, and what it leaves. -/
def called (station : Station h i) (address : UInt8) (call : RegisterCall) : Station h i × Answer :=
  if address = station.slaveAddress then
    ({ station with progress := .idle, file := (station.file.call call).1,
                    dirty := station.mark call.request }, (station.file.call call).2)
  else ({ station with progress := .idle }, .silent)

end Station

namespace ProtocolRtuSlave

variable [TypeConversion] {crc16 : Crc16}

/-- A call that is sent leaves what the station makes of it, and is replied to at
its address alone. -/
theorem serve_call (depends : crc16.DependsOnPrefix) (holdingSmall : h ≤ 65536)
    (inputSmall : i ≤ 65536) {slave : Stores h i} {station : Station h i}
    (stands : slave.StandsFor station) (address : UInt8) {call : RegisterCall}
    (bounded : call.Bounded) :
    Exists fun final => Exists fun replies => trace (serve crc16) slave
        (.timeout :: (call.request.wire crc16 address).map .character) = .ok (final, replies) ∧
      replies.filterMap id = (if address = station.slaveAddress then
        [withChecksum crc16 (station.slaveAddress :: (station.file.perform call.request).2)]
        else []) ∧
      final.StandsFor (station.called address call).1 := by
  have wellFormed := RegisterCall.wellFormed bounded
  rcases trace_hears depends holdingSmall inputSmall stands
    (permitted_request crc16 station.slaveAddress station.progress address wellFormed) with
    ⟨final, replies, served, written, kept⟩
  rw [Station.behaviour_request crc16 station address wellFormed] at written kept
  refine ⟨final, replies, served, ?_, ?_⟩
  · by_cases addressed : address = station.slaveAddress
    · rw [if_pos addressed] at written ⊢
      exact written.trans (Outgoing.frames_after_silence _ _)
    · rw [if_neg addressed] at written ⊢
      rw [written, ← List.append_nil (List.replicate _ _)]
      exact Outgoing.frames_after_silence _ _
  · by_cases addressed : address = station.slaveAddress
    · rw [if_pos addressed] at kept
      rw [Station.called, if_pos addressed,
        ← (receive_perform depends station.slaveAddress station.file bounded).2]
      exact kept
    · rw [if_neg addressed] at kept
      rw [Station.called, if_neg addressed]
      exact kept

theorem exchange_called (depends : crc16.DependsOnPrefix) (holdingSmall : h ≤ 65536)
    (inputSmall : i ≤ 65536) {slave : Stores h i} {station : Station h i}
    (stands : slave.StandsFor station) (address : UInt8) {call : RegisterCall}
    (bounded : call.Bounded) :
    Exists fun next => exchange crc16 address slave call =
        .ok (next, (station.called address call).2) ∧
      next.StandsFor (station.called address call).1 := by
  rcases transmit_call depends address bounded with ⟨filled, completes, sent⟩
  rcases serve_call depends holdingSmall inputSmall stands address bounded with
    ⟨final, replies, served, written, kept⟩
  have begins : exchange crc16 address slave call =
      match replies.filterMap id with
      | [reply] => call.receive crc16 reply >>= fun answer => .ok (final, answer)
      | _ => .ok (final, .silent) := by
    rw [exchange, completes, ok_bind, sent, ok_bind, served, ok_bind]
    rfl
  refine ⟨final, ?_, kept⟩
  by_cases addressed : address = station.slaveAddress
  · rw [if_pos addressed] at written
    rw [begins, written, Station.called, if_pos addressed]
    change (call.receive crc16 _ >>= fun answer => _) = _
    rw [(receive_perform depends station.slaveAddress station.file bounded).1, ok_bind]
  · rw [if_neg addressed] at written
    rw [begins, written, Station.called, if_neg addressed]

end ProtocolRtuSlave

/-- Calls of a master among everything else that happens to a slave. -/
inductive Conversation
  | device (event : DeviceEvent)
  | call (address : UInt8) (call : RegisterCall)

namespace Station

def converse (crc16 : Crc16) (station : Station h i) :
    Conversation -> Station h i × (Outgoing ⊕ Answer)
  | .device event => ((station.react crc16 event).1, .inl (station.react crc16 event).2)
  | .call address call => ((station.called address call).1, .inr (station.called address call).2)

def Admits (crc16 : Crc16) (station : Station h i) : Conversation -> Prop
  | .device event => station.Permits crc16 event
  | .call _ call => call.Bounded

instance (call : RegisterCall) : Decidable call.Bounded :=
  match call with
  | .readHolding _ count => inferInstanceAs (Decidable (count.toNat ≤ 125))
  | .readInput _ count => inferInstanceAs (Decidable (count.toNat ≤ 125))
  | .writeSingle _ _ => isTrue True.intro
  | .writeMultiple _ values => inferInstanceAs (Decidable (values.length ≤ 123))

instance (crc16 : Crc16) (station : Station h i) : (event : Conversation) ->
    Decidable (station.Admits crc16 event)
  | .device event => inferInstanceAs (Decidable (station.Permits crc16 event))
  | .call _ call => inferInstanceAs (Decidable call.Bounded)

end Station

namespace ProtocolRtuSlave

variable [TypeConversion] {crc16 : Crc16}

def converse (crc16 : Crc16) (slave : Stores h i) :
    Conversation -> Checked (Stores h i × (Outgoing ⊕ Answer))
  | .device event => do
      let turned <- slave.turn crc16 event
      return (turned.1, .inl turned.2)
  | .call address call => do
      let called <- exchange crc16 address slave call
      return (called.1, .inr called.2)

theorem converse_follows (depends : crc16.DependsOnPrefix) (holdingSmall : h ≤ 65536)
    (inputSmall : i ≤ 65536) {slave : Stores h i} {station : Station h i} {event : Conversation}
    (stands : slave.StandsFor station) (admits : station.Admits crc16 event) :
    Exists fun next => slave.converse crc16 event =
        .ok (next, (station.converse crc16 event).2) ∧
      next.StandsFor (nextState (Station.converse crc16) station event) := by
  cases event with
  | device event =>
      rcases turn_reacts depends holdingSmall inputSmall stands admits with ⟨next, turned, kept⟩
      refine ⟨next, ?_, kept⟩
      rw [converse, turned, ok_bind]
      rfl
  | call address call =>
      rcases exchange_called depends holdingSmall inputSmall stands address admits with
        ⟨next, called, kept⟩
      refine ⟨next, ?_, kept⟩
      rw [converse, called, ok_bind]
      rfl

end ProtocolRtuSlave

end Modbus
