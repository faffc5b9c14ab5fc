import Mathlib.Logic.Function.Basic
import ModbusBasic.Slave.Exchange
import ModbusBasic.Slave.TwoWire

namespace Modbus

open Memory TypeConversion Transition

/-!
# A master and several slaves

To a master the slaves on a line are a map from addresses to register files.  A
call changes the file under its address alone, and learns what this file answers;
where there is no slave nothing comes back.

`callTogether` is the master of `exchange` on a line of several slaves.
-/

/-- The registers of a slave, of any number. -/
abbrev Registers := Sigma fun h => Sigma fun i => RegisterFile h i

def Registers.call (registers : Registers) (call : RegisterCall) : Registers × Answer :=
  (⟨registers.1, registers.2.1, (registers.2.2.call call).1⟩, (registers.2.2.call call).2)

abbrev Network := UInt8 -> Option Registers

namespace Network

def call (network : Network) (call : UInt8 × RegisterCall) : Network × Answer :=
  match network call.1 with
  | some registers =>
      (Function.update network call.1 (some (registers.call call.2).1), (registers.call call.2).2)
  | none => (network, .silent)

variable {network : Network} {call : UInt8 × RegisterCall}

theorem call_listed {registers : Registers} (listed : network call.1 = some registers) :
    network.call call =
      (Function.update network call.1 (some (registers.call call.2).1),
        (registers.call call.2).2) := by
  simp only [Network.call, listed]

theorem call_absent (absent : network call.1 = none) : network.call call = (network, .silent) := by
  simp only [Network.call, absent]

/-- No other address is concerned. -/
theorem call_other {address : UInt8} (apart : address ≠ call.1) :
    (network.call call).1 address = network address := by
  cases found : network call.1 with
  | none => rw [call_absent found]
  | some registers =>
      rw [call_listed found]
      exact Function.update_of_ne apart _ _

end Network

namespace Member

def registers (member : Member) : Registers := ⟨member.h, member.i, member.station.file⟩

def isAt (address : UInt8) (member : Member) : Bool := member.station.slaveAddress == address

theorem isAt_iff {address : UInt8} {member : Member} :
    member.isAt address = true <-> member.station.slaveAddress = address :=
  beq_iff_eq

end Member

/-- The first member with an address is found under it. -/
def network (members : List Member) : Network := fun address =>
  (members.find? (Member.isAt address)).map Member.registers

/-! ## Members on a network -/

section Members

variable {members : List Member} {member : Member}

/-- A member with an address of its own is found under it. -/
theorem network_listed (distinct : (members.map fun member => member.station.slaveAddress).Nodup)
    (listed : member ∈ members) :
    network members member.station.slaveAddress = some member.registers := by
  induction members with
  | nil => exact absurd listed List.not_mem_nil
  | cons first rest inductionHypothesis =>
      rw [List.map_cons, List.nodup_cons] at distinct
      rcases List.mem_cons.mp listed with rfl | later
      · rw [network, List.find?_cons_of_pos (Member.isAt_iff.mpr rfl)]
        rfl
      · have apart : ¬ first.isAt member.station.slaveAddress = true := by
          intro same
          apply distinct.1
          rw [Member.isAt_iff.mp same]
          exact List.mem_map_of_mem later
        rw [network, List.find?_cons_of_neg apart]
        exact inductionHypothesis distinct.2 later

theorem network_absent {address : UInt8}
    (absent : forall member, member ∈ members -> address ≠ member.station.slaveAddress) :
    network members address = none := by
  have none : members.find? (Member.isAt address) = none :=
    List.find?_eq_none.mpr fun member listed same =>
      absent member listed (Member.isAt_iff.mp same).symm
  rw [network, none]
  rfl

/-- How much the nodes have received does not matter to their registers. -/
theorem network_nodes (nodes : List Node) (progress other : Progress) :
    network (nodes.map (Node.member progress)) = network (nodes.map (Node.member other)) := by
  funext address
  rw [network, network, List.find?_map, List.find?_map, Option.map_map, Option.map_map]
  rfl

/-- Members that change as their registers are called make the network called. -/
theorem network_called {call : UInt8 × RegisterCall} {change : Member -> Member}
    (keeps : forall member : Member,
      (change member).station.slaveAddress = member.station.slaveAddress)
    (called : forall member : Member, (change member).registers =
      if call.1 = member.station.slaveAddress then (member.registers.call call.2).1
      else member.registers) :
    network (members.map change) = ((network members).call call).1 := by
  funext address
  have same : Member.isAt address ∘ change = Member.isAt address := by
    funext member
    exact congrArg (· == address) (keeps member)
  have changed : network (members.map change) address =
      (members.find? (Member.isAt address)).map fun member => (change member).registers := by
    rw [network, List.find?_map, same, Option.map_map]
    rfl
  rw [changed]
  cases found : members.find? (Member.isAt address) with
  | none =>
      have absent : network members address = none := by
        rw [network, found]
        rfl
      by_cases here : address = call.1
      · rw [Network.call_absent (here ▸ absent)]
        exact absent.symm
      · rw [Network.call_other here, absent]
        rfl
  | some member =>
      have listed : network members address = some member.registers := by
        rw [network, found]
        rfl
      have own : member.station.slaveAddress = address := Member.isAt_iff.mp (List.find?_some found)
      rw [Option.map_some, called, own]
      by_cases here : address = call.1
      · subst here
        rw [Network.call_listed listed, if_pos rfl]
        exact (Function.update_self call.1 (some _) (network members)).symm
      · rw [Network.call_other here, if_neg (Ne.symm here), listed]

end Members

/-! ## The master on the line -/

section Master

variable [TypeConversion] {crc16 : Crc16}

/-- What a master learns from the bytes that come back, if any do. -/
def RegisterCall.listen (crc16 : Crc16) (call : RegisterCall) : List UInt8 -> Checked Answer
  | [] => .ok .silent
  | reply => call.receive crc16 reply

/-- A call of one of the slaves, and what comes back. -/
def callTogether (crc16 : Crc16) (nodes : List Node) (call : UInt8 × RegisterCall) :
    Checked (List Node × Answer) := do
  let packet : Frame 1024 := { address := call.1, dataArray := Vector.replicate 1024 0 }
  let filled <- call.2.fillFrame packet
  let bytes <- transmit crc16 filled.2
  let served <- trace (together (Node.serve crc16)) nodes
    (.timeout :: bytes.map LineEvent.character)
  let answer <- call.2.listen crc16
    ((List.range nodes.length).map (speech served.2)).flatten
  return (served.1, answer)

/-- What a member makes of a whole call. -/
theorem Member.behaviour_registers (depends : crc16.DependsOnPrefix) (member : Member)
    {call : UInt8 × RegisterCall} (bounded : call.2.Bounded) :
    (behaviour (Member.hear crc16) member
        (.timeout :: (call.2.request.wire crc16 call.1).map .character)).1.registers =
      if call.1 = member.station.slaveAddress then (member.registers.call call.2).1
      else member.registers := by
  rw [Member.behaviour_hear,
    Station.behaviour_request crc16 member.station call.1 (RegisterCall.wellFormed bounded)]
  by_cases addressed : call.1 = member.station.slaveAddress
  · rw [if_pos addressed, if_pos addressed]
    have stored := (receive_perform depends member.station.slaveAddress member.station.file
      bounded).2
    exact congrArg (fun file => (⟨member.h, member.i, file⟩ : Registers)) stored
  · rw [if_neg addressed, if_neg addressed]
    rfl

/-- What the members say in answer is read as the answer of the network. -/
theorem listen_attend (depends : crc16.DependsOnPrefix) {members : List Member}
    (distinct : (members.map fun member => member.station.slaveAddress).Nodup)
    {call : UInt8 × RegisterCall} (bounded : call.2.Bounded) :
    call.2.listen crc16
        (members.flatMap fun member => (member.attend crc16 (call.1, call.2.request)).2) =
      .ok ((network members).call call).2 := by
  rcases attend_alone crc16 (call.1, call.2.request) distinct with
    silent | ⟨speaker, listed, own, spoken⟩
  · have absent : network members call.1 = none := by
      apply network_absent
      intro member listed own
      have nothing := List.flatMap_eq_nil_iff.mp silent member listed
      rw [Member.attend, if_pos own] at nothing
      cases nothing
    rw [silent, Network.call_absent absent]
    rfl
  · have found := network_listed distinct listed
    rw [← own] at found
    rw [spoken, Network.call_listed found]
    exact (receive_perform depends speaker.station.slaveAddress speaker.station.file bounded).1

/-- One call. -/
theorem callTogether_calls (depends : crc16.DependsOnPrefix) {members : List Member}
    {nodes : List Node} (stand : StandTogether members nodes)
    (distinct : (members.map fun member => member.station.slaveAddress).Nodup)
    {call : UInt8 × RegisterCall} (bounded : call.2.Bounded) :
    Exists fun nexts => Exists fun later =>
      callTogether crc16 nodes call = .ok (nexts, ((network members).call call).2) ∧
      StandTogether later nexts ∧
      (later.map fun member => member.station.slaveAddress) =
        (members.map fun member => member.station.slaveAddress) ∧
      network later = ((network members).call call).1 := by
  rcases transmit_call depends call.1 bounded with ⟨filled, completes, sent⟩
  have wellFormed := RegisterCall.wellFormed bounded
  rcases traceTogether_hears depends stand
    (permitted_requestTogether crc16 members call.1 wellFormed) with ⟨nexts, served, after⟩
  have count : nodes.length = members.length := by
    rcases stand with ⟨progress, _, rfl⟩
    rw [List.length_map]
  have spoken := speech_attend crc16 members (call.1, call.2.request) wellFormed
  have answered := listen_attend depends distinct bounded
  refine ⟨nexts, _, ?_, after, ?_, ?_⟩
  · rw [callTogether, completes, ok_bind, sent, ok_bind, served, ok_bind, count, spoken]
    change (call.2.listen crc16 (members.flatMap fun member => _) >>= _) = _
    rw [answered, ok_bind]
    rfl
  · exact behaviour_keeps (hearTogether crc16)
      (List.map fun member : Member => member.station.slaveAddress)
      (hearTogether_addresses crc16) members _
  · rw [hearTogether, behaviour_inParallel_state]
    refine network_called (fun member => ?_) fun member => member.behaviour_registers depends bounded
    exact behaviour_keeps (Member.hear crc16) (fun member => member.station.slaveAddress)
      (fun _ event => Station.hear_slaveAddress event) member _

end Master

/-- A slave with four holding registers, and slave 2 with two of each kind. -/
def networkNodes : List Node :=
  [{ h := 4, i := 0, slave := zeroSlave 4 0 },
    { h := 2, i := 2, slave := (zeroSlave 2 2).setAddress 2 }]

end Modbus
