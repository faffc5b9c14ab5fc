import ModbusBasic.Slave.Device
import ModbusBasic.Transition.LastWrite

namespace Modbus

open Memory TypeConversion Transition

/-!
# What the registers tell of the past

A command is a request that a station has accepted or a call of its owner.
Which commands a history holds can be told from the bytes and the calls alone
(`commands`); then every register holds what the last command that wrote it has
written, and every flag is as the last command that set or cleared it has left it.
-/

variable {h i : Nat}

inductive Command
  | request (request : Request)
  | owner (call : OwnerCall)
deriving DecidableEq

/-- A register of either bank. -/
inductive RegisterName (h i : Nat)
  | holding (index : Fin h)
  | input (index : Fin i)
deriving DecidableEq

/-- What a request stores in a register it names. -/
def Request.value : Request -> Nat -> UInt16
  | .writeSingle _ value, _ => value
  | .writeMultiple address _ data, index => wordAt data (index - address.toNat)
  | _, _ => 0

/-- What a command leaves in a register, if it writes it. -/
def Command.written : Command -> RegisterName h i -> Option UInt16
  | .request asked, .holding index =>
      if asked.verdict h i = .kAck ∧ asked.Names index then some (asked.value index) else none
  | .owner (.writeHolding address value), .holding index =>
      if Covers address.toNat 1 index then some value else none
  | .owner (.writeInput address value), .input index =>
      if Covers address.toNat 1 index then some value else none
  | _, _ => none

/-- How a command leaves the flag of a holding register, if it touches it. -/
def Command.marked (i : Nat) : Command -> Fin h -> Option Bool
  | .request asked, index =>
      if asked.verdict h i = .kAck ∧ asked.Names index then some true else none
  | .owner .clearNewDataFlags, index => if index.val = h - 1 then none else some false
  | .owner _, _ => none

/-! ## Applying commands -/

theorem Bank.overwrite_one {n : Nat} (bank : Bank n) (address : Nat) (value : UInt16)
    (index : Fin n) :
    bank.overwrite address 1 (fun _ => value) index =
      (if Covers address 1 index then some value else none).getD (bank index) := by
  by_cases covered : Covers address 1 index
  · rw [if_pos covered]
    exact if_pos covered
  · rw [if_neg covered]
    exact if_neg covered

/-- The registers and the marks of a station. -/
structure Contents (h i : Nat) where
  file : RegisterFile h i
  dirty : Fin h -> Bool

namespace Contents

def register (contents : Contents h i) : RegisterName h i -> UInt16
  | .holding index => contents.file.holding index
  | .input index => contents.file.input index

def apply (contents : Contents h i) : Command -> Contents h i
  | .request request =>
      { file := (contents.file.perform request).1
        dirty := fun register => contents.dirty register ||
          decide (request.verdict h i = .kAck ∧ request.Names register) }
  | .owner (.writeHolding address value) =>
      { contents with
          file.holding := contents.file.holding.overwrite address.toNat 1 fun _ => value }
  | .owner (.writeInput address value) =>
      { contents with
          file.input := contents.file.input.overwrite address.toNat 1 fun _ => value }
  | .owner .clearNewDataFlags =>
      { contents with
          dirty := fun register => decide (register.val = h - 1) && contents.dirty register }
  | .owner _ => contents

theorem apply_request (contents : Contents h i) (request : Request) (name : RegisterName h i) :
    (contents.apply (.request request)).register name =
      ((Command.request request).written name).getD (contents.register name) := by
  change register { file := (contents.file.perform request).1, dirty := _ } name = _
  by_cases acknowledged : request.verdict h i = .kAck
  · rw [contents.file.perform_ack acknowledged]
    cases name with
    | input index => rfl
    | holding index =>
        rw [register, Command.written]
        by_cases names : request.Names index
        · rw [if_pos ⟨acknowledged, names⟩, Option.getD_some]
          cases request with
          | readHolding address count => exact False.elim names
          | readInput address count => exact False.elim names
          | writeSingle address value => exact if_pos names
          | writeMultiple address count data => exact if_pos names
        · rw [if_neg (fun both => names both.2), Option.getD_none]
          exact contents.file.update_outside names
  · rw [contents.file.perform_refused acknowledged]
    cases name with
    | input index => rfl
    | holding index =>
        rw [register, Command.written, if_neg (fun both => acknowledged both.1)]
        rfl

/-- A command changes the registers it writes, and no others. -/
theorem apply_written (contents : Contents h i) (command : Command) (name : RegisterName h i) :
    (contents.apply command).register name =
      (command.written name).getD (contents.register name) := by
  cases command with
  | request request => exact contents.apply_request request name
  | owner call =>
      cases call with
      | writeHolding address value =>
          cases name with
          | input index => rfl
          | holding index => exact contents.file.holding.overwrite_one address.toNat value index
      | writeInput address value =>
          cases name with
          | holding index => rfl
          | input index => exact contents.file.input.overwrite_one address.toNat value index
      | _ => rfl

/-- A command raises or clears the marks it touches, and no others. -/
theorem apply_marked (contents : Contents h i) (command : Command) (register : Fin h) :
    (contents.apply command).dirty register =
      (command.marked i register).getD (contents.dirty register) := by
  cases command with
  | request request =>
      change (contents.dirty register || decide _) = Option.getD (ite _ _ _) _
      by_cases writes : request.verdict h i = .kAck ∧ request.Names register
      · rw [decide_eq_true writes, Bool.or_true, if_pos writes, Option.getD_some]
      · rw [decide_eq_false writes, Bool.or_false, if_neg writes, Option.getD_none]
  | owner call =>
      cases call with
      | clearNewDataFlags =>
          change (decide _ && contents.dirty register) = Option.getD (ite _ _ _) _
          by_cases last : register.val = h - 1
          · rw [decide_eq_true last, Bool.true_and, if_pos last, Option.getD_none]
          · rw [decide_eq_false last, Bool.false_and, if_neg last, Option.getD_some]
      | _ => rfl

end Contents

/-! ## The commands of a history -/

/-- All a station needs to tell which frames are for it. -/
structure Ear where
  slaveAddress : UInt8
  progress : Progress
deriving DecidableEq

namespace Ear

def listen (ear : Ear) : DeviceEvent -> Ear
  | .line event => { ear with progress := ear.progress.hear event }
  | .owner (.setAddress slaveAddress) => { ear with slaveAddress := slaveAddress }
  | .owner _ => ear

/-- The command an event completes. -/
def command (crc16 : Crc16) (ear : Ear) : DeviceEvent -> Option Command
  | .line .timeout => none
  | .line (.character pt) =>
      match ear.progress.advance pt with
      | .complete address function body =>
          if address = ear.slaveAddress ∧
              EndsWithChecksum crc16 (address :: function.code :: body) then
            (Request.ofFrame function body).map .request
          else none
      | _ => none
  | .owner call => some (.owner call)

def commands (crc16 : Crc16) : Ear -> List DeviceEvent -> List Command
  | _, [] => []
  | ear, event :: rest =>
      (ear.command crc16 event).toList ++ commands crc16 (ear.listen event) rest

end Ear

namespace Station

def ear (station : Station h i) : Ear :=
  { slaveAddress := station.slaveAddress, progress := station.progress }

def contents (station : Station h i) : Contents h i :=
  { file := station.file, dirty := station.dirty }

variable {crc16 : Crc16} {station : Station h i}

theorem react_ear (event : DeviceEvent) :
    (nextState (react crc16) station event).ear = station.ear.listen event := by
  cases event with
  | line event =>
      change Ear.mk (station.hear crc16 event).1.slaveAddress
        (station.hear crc16 event).1.progress = _
      rw [hear_slaveAddress, hear_progress]
      rfl
  | owner call => cases call <;> rfl

/-- An accepted frame is a command. -/
theorem consider_contents (address : UInt8) (function : Function) (body : List UInt8) :
    (station.consider crc16 address function body).1.contents =
      (if address = station.slaveAddress ∧
          EndsWithChecksum crc16 (address :: function.code :: body) then
        (Request.ofFrame function body).map Command.request
      else none).toList.foldl Contents.apply station.contents := by
  unfold consider
  split
  · unfold answer
    cases Request.ofFrame function body with
    | none => rfl
    | some request => rfl
  · rfl

theorem react_contents (event : DeviceEvent) :
    (nextState (react crc16) station event).contents =
      (station.ear.command crc16 event).toList.foldl Contents.apply station.contents := by
  cases event with
  | owner call => cases call <;> rfl
  | line event =>
      cases event with
      | timeout => rfl
      | character pt =>
          change (station.hear crc16 (.character pt)).1.contents = _
          rw [hear, Ear.command]
          change _ = List.foldl _ _ (Option.toList (match station.progress.advance pt with
            | .complete address function body => _
            | _ => none))
          cases station.progress.advance pt with
          | complete address function body => exact consider_contents address function body
          | _ => rfl

/-- What a station keeps is what the commands of its history make of it. -/
theorem behaviour_contents (crc16 : Crc16) (station : Station h i) (events : List DeviceEvent) :
    (behaviour (react crc16) station events).1.contents =
      (station.ear.commands crc16 events).foldl Contents.apply station.contents := by
  induction events generalizing station with
  | nil => rfl
  | cons event rest inductionHypothesis =>
      rw [behaviour_cons, inductionHypothesis, react_ear, react_contents, Ear.commands,
        List.foldl_append]

end Station

/-! ## The history of a slave -/

namespace ProtocolRtuSlave

/-- The registers of both stores of a slave, and its flags. -/
def contents (slave : Stores h i) : Contents h i :=
  { file := slave.file, dirty := slave.holdingRegisterController.registerData.flagged }

end ProtocolRtuSlave

open ProtocolRtuSlave in
/-- After any history every register of a slave holds what the last command that
wrote it has written, and every flag is as the last command that touched it has
left it; what no command has touched is as it was at first. -/
theorem registers_tell_history [TypeConversion] {crc16 : Crc16} (depends : crc16.DependsOnPrefix)
    (holdingSmall : h ≤ 65536) (inputSmall : i ≤ 65536) (slave : Stores h i)
    (events : List DeviceEvent)
    (permitted : Permitted (nextState (Station.react crc16)) (Station.Permits crc16)
      (slave.station .idle) events) :
    Exists fun final : Stores h i => Exists fun outputs =>
      trace (turn crc16) slave.reset events = .ok (final, outputs) ∧
      (forall name, final.contents.register name =
        (lastWritten Command.written
          (Ear.commands crc16 ⟨slave.slaveAddress, .idle⟩ events) name).getD
            (slave.contents.register name)) ∧
      forall register, final.contents.dirty register =
        (lastWritten (Command.marked i)
          (Ear.commands crc16 ⟨slave.slaveAddress, .idle⟩ events) register).getD
            (slave.contents.dirty register) := by
  rcases trace_reacts depends holdingSmall inputSmall (reset_standsFor slave) permitted with
    ⟨final, completes, stands⟩
  let commands := Ear.commands crc16 ⟨slave.slaveAddress, .idle⟩ events
  have kept : final.contents = commands.foldl Contents.apply slave.contents := by
    have told := (slave.station .idle).behaviour_contents crc16 events
    rw [← stands.same] at told
    exact told
  refine ⟨final, _, completes, fun name => ?_, fun register => ?_⟩
  · rw [kept]
    exact foldl_lastWritten Contents.apply Contents.register Command.written
      Contents.apply_written slave.contents commands name
  · rw [kept]
    exact foldl_lastWritten Contents.apply Contents.dirty (Command.marked i)
      Contents.apply_marked slave.contents commands register

open ProtocolRtuSlave in
/-- The owner writes a holding register that a request then overwrites, and
clears the flags before another request. -/
theorem registers_tell_history_overwritten :
    letI := TypeConversion.shifting
    letI events : List DeviceEvent := [.owner (.writeHolding 1 0x0506)] ++
      ([1, 6, 0, 1, 2, 7, 0x98, 0xA8].map fun pt => .line (.character pt)) ++
      [.owner .clearNewDataFlags] ++
      [1, 6, 0, 0, 0, 9, 0x49, 0xCC].map fun pt => .line (.character pt)
    Exists fun final : Stores 4 1 => Exists fun outputs =>
      trace (turn .modbus) (zeroSlave 4 1).reset events = .ok (final, outputs) ∧
        final.contents.register (.holding 1) = 0x0207 ∧
        final.contents.dirty 1 = false ∧ final.contents.dirty 0 = true := by
  let conversion := TypeConversion.shifting
  let events : List DeviceEvent := [.owner (.writeHolding 1 0x0506)] ++
    ([1, 6, 0, 1, 2, 7, 0x98, 0xA8].map fun pt => .line (.character pt)) ++
    [.owner .clearNewDataFlags] ++
    [1, 6, 0, 0, 0, 9, 0x49, 0xCC].map fun pt => .line (.character pt)
  have heard : Ear.commands .modbus ⟨1, .idle⟩ events =
      [.owner (.writeHolding 1 0x0506), .request (.writeSingle 1 0x0207),
        .owner .clearNewDataFlags, .request (.writeSingle 0 9)] := by decide +kernel
  rcases registers_tell_history Crc16.modbus_dependsOnPrefix (by decide) (by decide)
    (zeroSlave 4 1) events (by decide +kernel) with ⟨final, outputs, completes, values, flags⟩
  have slaveAddress : (zeroSlave 4 1).slaveAddress = 1 := rfl
  rw [slaveAddress, heard] at values flags
  exact ⟨final, outputs, completes, values (.holding 1), flags 1, flags 0⟩

end Modbus
