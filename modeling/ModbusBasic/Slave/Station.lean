import ModbusBasic.Slave.Traffic
import ModbusBasic.Transition.Composition

namespace Modbus

open Memory TypeConversion Transition

/-!
# A station on the line

What a slave is for, as one machine: an address, the frame it is receiving, a
register file and a mark on every holding register that a request has written.
Bytes and timeouts come in from the line, and the program around the slave may
read and write registers or change the address at any moment.

Nothing here is translated from the source: there is no countdown, no receive
buffer and no response.  `Slave.Device` proves that the slave refines this
machine.
-/

variable {h i : Nat}

/-! ## Requests in frames -/

/-- The request in a complete frame, if its function is one of the four. -/
def Request.ofFrame (function : Function) (body : List UInt8) : Option Request :=
  match function with
  | .kReadMultipleHoldingRegisters => some (.readHolding (wordAt body 0) (wordAt body 1))
  | .kReadInputRegisters => some (.readInput (wordAt body 0) (wordAt body 1))
  | .kWriteSingleHoldingRegister => some (.writeSingle (wordAt body 0) (wordAt body 1))
  | .kWriteMultipleHoldingRegisters =>
      some (.writeMultiple (wordAt body 0) (wordAt body 1)
        ((body.drop 5).take (body.getD 4 0).toNat))
  | _ => none

theorem Request.ofFrame_payload [TypeConversion] {request : Request}
    (countable : request.Countable) (footer : List UInt8) :
    ofFrame request.function (request.payload ++ footer) = some request := by
  cases request with
  | readHolding address count =>
      have fields := wordAt_fields address count footer
      change some (Request.readHolding (wordAt (bigEndian _ ++ (bigEndian _ ++ footer)) 0)
        (wordAt (bigEndian _ ++ (bigEndian _ ++ footer)) 1)) = _
      rw [fields.1, fields.2]
  | readInput address count =>
      have fields := wordAt_fields address count footer
      change some (Request.readInput (wordAt (bigEndian _ ++ (bigEndian _ ++ footer)) 0)
        (wordAt (bigEndian _ ++ (bigEndian _ ++ footer)) 1)) = _
      rw [fields.1, fields.2]
  | writeSingle address value =>
      have fields := wordAt_fields address value footer
      change some (Request.writeSingle (wordAt (bigEndian _ ++ (bigEndian _ ++ footer)) 0)
        (wordAt (bigEndian _ ++ (bigEndian _ ++ footer)) 1)) = _
      rw [fields.1, fields.2]
  | writeMultiple address count data =>
      let rest := UInt8.ofNat data.length :: (data ++ footer)
      have fields := wordAt_fields address count rest
      have bytes : (data ++ footer).take (UInt8.ofNat data.length).toNat = data := by
        rw [UInt8.toNat_ofNat_of_lt' countable, List.take_left' rfl]
      change some (Request.writeMultiple (wordAt (bigEndian _ ++ (bigEndian _ ++ rest)) 0)
        (wordAt (bigEndian _ ++ (bigEndian _ ++ rest)) 1)
        ((data ++ footer).take (UInt8.ofNat data.length).toNat)) = _
      rw [fields.1, fields.2, bytes]

theorem Request.ofFrame_unsupported {function : Function}
    (unsupported : function ∉ ProtocolRtuSlave.implimentedFunctions) (body : List UInt8) :
    ofFrame function body = none := by
  unfold ofFrame
  split
  · exact absurd (by decide) unsupported
  · exact absurd (by decide) unsupported
  · exact absurd (by decide) unsupported
  · exact absurd (by decide) unsupported
  · rfl

/-! ## The traffic considered -/

instance (n : Nat) : (progress : Progress) -> (byte : UInt8) -> Decidable (HasRoom n progress byte)
  | .idle, _ => isTrue True.intro
  | .addressed _, _ => isTrue True.intro
  | .receiving _ _ body, _ => inferInstanceAs (Decidable (body.length < n))
  | .complete _ _ _, _ => isFalse id

/-- Whether traffic is serviceable can be told when the byte is there. -/
instance (crc16 : Crc16) (slaveAddress : UInt8) (h i : Nat) (progress : Progress) :
    (event : LineEvent) ->
      Decidable (ProtocolRtuSlave.Serviceable crc16 slaveAddress h i progress event)
  | .timeout => isTrue True.intro
  | .character pt =>
      match finished : progress.advance pt with
      | .complete address function body =>
          decidable_of_iff (HasRoom 254 progress pt ∧ (address = slaveAddress ->
              EndsWithChecksum crc16 (slaveAddress :: function.code :: body) ->
              ¬ OverlongRead h i function body)) <| by
            refine and_congr_right fun _ => ⟨fun short function body same => ?_, fun short same => ?_⟩
            · rw [finished] at same
              cases same
              exact short rfl
            · subst same
              exact short function body finished
      | .idle | .addressed _ | .receiving _ _ _ =>
          decidable_of_iff (HasRoom 254 progress pt) <| by
            refine (and_iff_left fun function body same => ?_).symm
            rw [finished] at same
            cases same

/-! ## The machine -/

/-- What the program around a slave may call between two turns of the loop. -/
inductive OwnerCall
  | setAddress (slaveAddress : UInt8)
  | writeHolding (address value : UInt16)
  | readHolding (address : UInt16)
  | writeInput (address value : UInt16)
  | readInput (address : UInt16)
  | flagSet (address : UInt16)
  | newDataAvailable
  | clearNewDataFlags
deriving DecidableEq

/-- The register named is there, and one is if all are meant.  None of the calls
checks this itself. -/
def OwnerCall.Names (h i : Nat) : OwnerCall -> Prop
  | setAddress _ => True
  | writeHolding address _ => address.toNat < h
  | readHolding address => address.toNat < h
  | writeInput address _ => address.toNat < i
  | readInput address => address.toNat < i
  | flagSet address => address.toNat < h
  | newDataAvailable => 0 < h
  | clearNewDataFlags => 0 < h

instance (h i : Nat) : (call : OwnerCall) -> Decidable (call.Names h i)
  | .setAddress _ => isTrue True.intro
  | .writeHolding address _ => inferInstanceAs (Decidable (address.toNat < h))
  | .readHolding address => inferInstanceAs (Decidable (address.toNat < h))
  | .writeInput address _ => inferInstanceAs (Decidable (address.toNat < i))
  | .readInput address => inferInstanceAs (Decidable (address.toNat < i))
  | .flagSet address => inferInstanceAs (Decidable (address.toNat < h))
  | .newDataAvailable => inferInstanceAs (Decidable (0 < h))
  | .clearNewDataFlags => inferInstanceAs (Decidable (0 < h))

inductive DeviceEvent
  | line (event : LineEvent)
  | owner (call : OwnerCall)
deriving DecidableEq

/-- What an event leads to: bytes on the line, or a value for the owner. -/
inductive Outgoing
  | nothing
  | reply (bytes : List UInt8)
  | register (value : UInt16)
  | flag (on : Bool)
deriving DecidableEq

structure Station (h i : Nat) where
  slaveAddress : UInt8
  progress : Progress
  file : RegisterFile h i
  dirty : Fin h -> Bool

namespace Station

/-- The registers a request has written, besides those marked before. -/
def mark (station : Station h i) (request : Request) (register : Fin h) : Bool :=
  station.dirty register || decide (request.verdict h i = .kAck ∧ request.Names register)

def perform (crc16 : Crc16) (station : Station h i) (request : Request) :
    Station h i × List UInt8 :=
  ({ station with file := (station.file.perform request).1, dirty := station.mark request },
    withChecksum crc16 (station.slaveAddress :: (station.file.perform request).2))

/-- A request is performed and answered; any other function is refused. -/
def answer (crc16 : Crc16) (station : Station h i) (function : Function) (body : List UInt8) :
    Station h i × List UInt8 :=
  match Request.ofFrame function body with
  | some request => station.perform crc16 request
  | none =>
      (station, withChecksum crc16
        [station.slaveAddress, function.code + 0x80, Exception.kIllegalFunction.code])

/-- A complete frame for another address, or one that is damaged, is passed over. -/
def consider (crc16 : Crc16) (station : Station h i) (address : UInt8) (function : Function)
    (body : List UInt8) : Station h i × Outgoing :=
  if address = station.slaveAddress ∧ EndsWithChecksum crc16 (address :: function.code :: body) then
    ((station.answer crc16 function body).1, .reply (station.answer crc16 function body).2)
  else (station, .nothing)

def hear (crc16 : Crc16) (station : Station h i) : LineEvent -> Station h i × Outgoing
  | .character pt =>
      match station.progress.advance pt with
      | .complete address function body =>
          let next := station.consider crc16 address function body
          ({ next.1 with progress := .idle }, next.2)
      | progress => ({ station with progress := progress }, .nothing)
  | .timeout => ({ station with progress := .idle }, .nothing)

/-- The mark of the last register is not among those asked for and cleared together. -/
def obey (station : Station h i) : OwnerCall -> Station h i × Outgoing
  | .setAddress slaveAddress => ({ station with slaveAddress := slaveAddress }, .nothing)
  | .writeHolding address value =>
      ({ station with
          file.holding := station.file.holding.overwrite address.toNat 1 fun _ => value }, .nothing)
  | .readHolding address => (station, .register (station.file.holding.fetch address.toNat))
  | .writeInput address value =>
      ({ station with
          file.input := station.file.input.overwrite address.toNat 1 fun _ => value }, .nothing)
  | .readInput address => (station, .register (station.file.input.fetch address.toNat))
  | .flagSet address =>
      (station, .flag (if inside : address.toNat < h then station.dirty ⟨_, inside⟩ else false))
  | .newDataAvailable =>
      (station, .flag (decide (Exists fun register : Fin h =>
        register.val < h - 1 ∧ station.dirty register = true)))
  | .clearNewDataFlags =>
      ({ station with
          dirty := fun register => decide (register.val = h - 1) && station.dirty register }, .nothing)

def react (crc16 : Crc16) (station : Station h i) : DeviceEvent -> Station h i × Outgoing
  | .line event => station.hear crc16 event
  | .owner call => station.obey call

/-- The events considered: serviceable traffic, and calls for registers that are
there. -/
def Permits (crc16 : Crc16) (station : Station h i) : DeviceEvent -> Prop
  | .line event => ProtocolRtuSlave.Serviceable crc16 station.slaveAddress h i station.progress event
  | .owner call => call.Names h i

instance (crc16 : Crc16) (station : Station h i) : (event : DeviceEvent) ->
    Decidable (station.Permits crc16 event)
  | .line event =>
      inferInstanceAs (Decidable (ProtocolRtuSlave.Serviceable crc16 _ h i station.progress event))
  | .owner call => inferInstanceAs (Decidable (call.Names h i))

/-! ## The three kinds of answer -/

section Answers

variable [TypeConversion] (crc16 : Crc16) (station : Station h i) {request : Request}

theorem answer_payload (countable : request.Countable) (footer : List UInt8) :
    station.answer crc16 request.function (request.payload ++ footer) =
      station.perform crc16 request := by
  rw [answer, Request.ofFrame_payload countable]

omit [TypeConversion] in
theorem perform_acknowledged (acknowledged : request.verdict h i = .kAck) :
    station.perform crc16 request =
      ({ station with
          file.holding := station.file.update request, dirty := station.mark request },
        withChecksum crc16
          (station.slaveAddress :: request.function.code :: station.file.answer request)) := by
  rw [perform, station.file.perform_ack acknowledged]

omit [TypeConversion] in
theorem perform_refused (refused : request.verdict h i ≠ .kAck) :
    station.perform crc16 request =
      (station, withChecksum crc16
        [station.slaveAddress, request.function.code + 0x80, (request.verdict h i).code]) := by
  have unmarked : station.mark request = station.dirty := by
    funext register
    rw [mark, decide_eq_false (fun both => refused both.1), Bool.or_false]
  rw [perform, station.file.perform_refused refused, unmarked]

omit [TypeConversion] in
theorem answer_unsupported {function : Function}
    (unsupported : function ∉ ProtocolRtuSlave.implimentedFunctions) (body : List UInt8) :
    station.answer crc16 function body =
      (station, withChecksum crc16
        [station.slaveAddress, function.code + 0x80, Exception.kIllegalFunction.code]) := by
  rw [answer, Request.ofFrame_unsupported unsupported]

end Answers

/-! ## What an event leaves as it was -/

section Frame

variable {crc16 : Crc16} {station : Station h i}

@[simp] theorem answer_slaveAddress (function : Function) (body : List UInt8) :
    (station.answer crc16 function body).1.slaveAddress = station.slaveAddress := by
  unfold answer
  split <;> rfl

@[simp] theorem consider_slaveAddress (address : UInt8) (function : Function) (body : List UInt8) :
    (station.consider crc16 address function body).1.slaveAddress = station.slaveAddress := by
  unfold consider
  split
  · exact answer_slaveAddress function body
  · rfl

@[simp] theorem hear_slaveAddress (event : LineEvent) :
    (station.hear crc16 event).1.slaveAddress = station.slaveAddress := by
  cases event with
  | timeout => rfl
  | character pt =>
      rw [hear]
      split
      · exact consider_slaveAddress _ _ _
      · rfl

/-- What is being received depends on the line alone. -/
theorem hear_progress (event : LineEvent) :
    (station.hear crc16 event).1.progress = station.progress.hear event := by
  cases event with
  | timeout => rfl
  | character pt =>
      rw [hear, Progress.hear]
      cases station.progress.advance pt with
      | complete address function body => rfl
      | _ => rfl

/-- What is permitted along a station depends on its address and the line alone. -/
theorem permitted_hear (Permits : UInt8 -> Progress -> LineEvent -> Prop) (station : Station h i)
    (events : List LineEvent) :
    Permitted (nextState (hear crc16)) (fun station => Permits station.slaveAddress station.progress)
        station events <->
      Permitted Progress.hear (Permits station.slaveAddress) station.progress events := by
  induction events generalizing station with
  | nil => exact Iff.rfl
  | cons event rest inductionHypothesis =>
      rw [Permitted, Permitted, inductionHypothesis, nextState, hear_slaveAddress, hear_progress]

end Frame

end Station

end Modbus
