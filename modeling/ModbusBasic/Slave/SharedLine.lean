import ModbusBasic.Slave.History
import ModbusBasic.Slave.LineRequests

namespace Modbus

open Memory TypeConversion Transition

/-!
# Several slaves on one line

Slaves with different addresses, and registers of their own, hear the same bytes
and timeouts.  What a slave is receiving does not depend on its address, so all
of them are in step, and a complete frame has at most one slave that answers it.
-/

/-- A slave and the sizes of its stores. -/
structure Node where
  h : Nat
  i : Nat
  slave : ProtocolRtuSlave.Stores h i

/-- What a node is for. -/
structure Member where
  h : Nat
  i : Nat
  station : Station h i

namespace Member

def hear (crc16 : Crc16) (member : Member) (event : LineEvent) : Member × Outgoing :=
  ({ member with station := (member.station.hear crc16 event).1 },
    (member.station.hear crc16 event).2)

def contents (member : Member) : Sigma fun h => Sigma fun i => Contents h i :=
  ⟨member.h, member.i, member.station.contents⟩

def Serviceable (crc16 : Crc16) (member : Member) (event : LineEvent) : Prop :=
  ProtocolRtuSlave.Serviceable crc16 member.station.slaveAddress member.h member.i
    member.station.progress event

instance (crc16 : Crc16) (member : Member) (event : LineEvent) :
    Decidable (member.Serviceable crc16 event) :=
  inferInstanceAs (Decidable (ProtocolRtuSlave.Serviceable crc16 _ _ _ _ event))

end Member

/-- All members hear the event. -/
def hearTogether (crc16 : Crc16) : List Member -> LineEvent -> List Member × List Outgoing :=
  inParallel (Member.hear crc16)

/-- The traffic considered is serviceable for every member. -/
def ServiceableTogether (crc16 : Crc16) (members : List Member) (event : LineEvent) : Prop :=
  forall member, member ∈ members -> member.Serviceable crc16 event

instance (crc16 : Crc16) (members : List Member) (event : LineEvent) :
    Decidable (ServiceableTogether crc16 members event) :=
  inferInstanceAs (Decidable (forall member, member ∈ members -> _))

namespace Node

def slaveAddress (node : Node) : UInt8 := node.slave.slaveAddress

def reset (node : Node) : Node := { node with slave := node.slave.reset }

def serve [TypeConversion] (crc16 : Crc16) (node : Node) (event : LineEvent) :
    Checked (Node × Outgoing) := do
  let served <- node.slave.serve crc16 event
  return ({ node with slave := served.1 }, .written served.2)

/-- The member a node stands for when this much of a frame is received. -/
def member (progress : Progress) (node : Node) : Member :=
  { h := node.h, i := node.i, station := node.slave.station progress }

def contents (node : Node) : Sigma fun h => Sigma fun i => Contents h i :=
  ⟨node.h, node.i, node.slave.contents⟩

/-- A node with stores of at most `65536` registers. -/
def Small (node : Node) : Prop := node.h ≤ 65536 ∧ node.i ≤ 65536

instance (node : Node) : Decidable node.Small :=
  inferInstanceAs (Decidable (_ ∧ _))

/-- The node is in step with what has been received. -/
def InStep (progress : Progress) (node : Node) : Prop :=
  node.slave.StandsFor (node.slave.station progress) ∧ node.Small

theorem reset_inStep {node : Node} (small : node.Small) : node.reset.InStep .idle :=
  ⟨node.slave.reset_standsFor, small⟩

variable [TypeConversion] {crc16 : Crc16}

theorem serve_hears (depends : crc16.DependsOnPrefix) {progress : Progress} {node : Node}
    {event : LineEvent} (inStep : node.InStep progress)
    (serviceable : (node.member progress).Serviceable crc16 event) :
    Exists fun next => node.serve crc16 event =
        .ok (next, ((node.member progress).hear crc16 event).2) ∧
      next.InStep (progress.hear event) ∧
      next.member (progress.hear event) = ((node.member progress).hear crc16 event).1 := by
  rcases inStep with ⟨stands, small⟩
  rcases ProtocolRtuSlave.serve_hears depends small.1 small.2 stands serviceable with
    ⟨slave, reply, served, written, kept⟩
  have after : slave.station (progress.hear event) =
      ((node.slave.station progress).hear crc16 event).1 := by
    have same := kept.same
    rw [Station.hear_progress] at same
    exact same
  refine ⟨{ node with slave := slave }, ?_, ⟨?_, small⟩, ?_⟩
  · rw [serve, served, ok_bind, written]
    rfl
  · rw [after]
    exact kept
  · rw [member, after]
    rfl

end Node

/-! ## Who answers -/

namespace Station

variable {h i : Nat} {crc16 : Crc16} {station : Station h i} {event : LineEvent}

/-- Nothing but a reply comes of what is heard. -/
theorem hear_answers (crc16 : Crc16) (station : Station h i) (event : LineEvent) :
    (station.hear crc16 event).2 = .nothing ∨
      Exists fun bytes => (station.hear crc16 event).2 = .reply bytes := by
  cases event with
  | timeout => exact Or.inl rfl
  | character pt =>
      rw [hear]
      cases station.progress.advance pt with
      | complete address function body =>
          change (station.consider crc16 address function body).2 = _ ∨
            Exists fun bytes => (station.consider crc16 address function body).2 = _
          unfold consider
          split
          · exact Or.inr ⟨_, rfl⟩
          · exact Or.inl rfl
      | _ => exact Or.inl rfl

theorem answer_signed (function : Function) (body : List UInt8) :
    (station.answer crc16 function body).2.head? = some station.slaveAddress := by
  unfold answer
  cases Request.ofFrame function body with
  | none => rfl
  | some request => rfl

/-- Only a frame that carries the address of the station is answered. -/
theorem hear_reply {bytes : List UInt8} (replied : (station.hear crc16 event).2 = .reply bytes) :
    Exists fun pt => Exists fun function => Exists fun body => event = .character pt ∧
      station.progress.advance pt = .complete station.slaveAddress function body ∧
      bytes.head? = some station.slaveAddress := by
  cases event with
  | timeout => cases replied
  | character pt =>
      rw [hear] at replied
      cases finished : station.progress.advance pt with
      | complete address function body =>
          rw [finished] at replied
          change (station.consider crc16 address function body).2 = _ at replied
          by_cases taken : address = station.slaveAddress ∧
              EndsWithChecksum crc16 (address :: function.code :: body)
          · rw [consider, if_pos taken] at replied
            cases replied
            exact ⟨pt, function, body, rfl, by rw [taken.1] at finished; exact finished,
              answer_signed function body⟩
          · rw [consider, if_neg taken] at replied
            cases replied
      | _ =>
          rw [finished] at replied
          cases replied

/-- A station that does not answer keeps its registers and marks. -/
theorem hear_silent (silent : (station.hear crc16 event).2 = .nothing) :
    (station.hear crc16 event).1.contents = station.contents := by
  cases event with
  | timeout => rfl
  | character pt =>
      rw [hear] at silent ⊢
      cases finished : station.progress.advance pt with
      | complete address function body =>
          rw [finished] at silent
          change (station.consider crc16 address function body).2 = _ at silent
          change (station.consider crc16 address function body).1.contents = _
          by_cases taken : address = station.slaveAddress ∧
              EndsWithChecksum crc16 (address :: function.code :: body)
          · rw [consider, if_pos taken] at silent
            cases silent
          · rw [consider, if_neg taken]
      | _ => rfl

end Station

/-! ## All nodes in step -/

/-- The members that nodes in step stand for. -/
def StandTogether (members : List Member) (nodes : List Node) : Prop :=
  Exists fun progress => (forall node, node ∈ nodes -> node.InStep progress) ∧
    members = nodes.map (Node.member progress)

theorem reset_standTogether {nodes : List Node} (small : forall node, node ∈ nodes -> node.Small) :
    StandTogether (nodes.map (Node.member .idle)) (nodes.map Node.reset) := by
  refine ⟨.idle, fun node listed => ?_, ?_⟩
  · rcases List.mem_map.mp listed with ⟨before, member, rfl⟩
    exact Node.reset_inStep (small before member)
  · rw [List.map_map]
    rfl

section Together

variable [TypeConversion] {crc16 : Crc16} {members : List Member} {nodes : List Node}

/-- One event, heard by all. -/
theorem serveTogether_hears (depends : crc16.DependsOnPrefix) {event : LineEvent}
    (stand : StandTogether members nodes) (serviceable : ServiceableTogether crc16 members event) :
    Exists fun nexts =>
      together (Node.serve crc16) nodes event = .ok (nexts, (hearTogether crc16 members event).2) ∧
      StandTogether (nextState (hearTogether crc16) members event) nexts := by
  rcases stand with ⟨progress, inStep, rfl⟩
  rcases together_completes (Node.serve crc16)
    (fun node => ((node.member progress).hear crc16 event).2)
    (fun node next => next.InStep (progress.hear event) ∧
      next.member (progress.hear event) = ((node.member progress).hear crc16 event).1)
    (fun node listed => Node.serve_hears depends (inStep node listed)
      (serviceable _ (List.mem_map_of_mem listed))) with ⟨nexts, completes, moved⟩
  refine ⟨nexts, ?_, progress.hear event, fun next listed => ?_, ?_⟩
  · rw [completes]
    simp only [hearTogether, inParallel, List.map_map]
    rfl
  · rcases related_before moved listed with ⟨node, _, kept, _⟩
    exact kept
  · rw [map_related (moved.imp fun _ _ both => both.2)]
    exact List.map_map

/-- Any number of events. -/
theorem traceTogether_hears (depends : crc16.DependsOnPrefix) {events : List LineEvent}
    (stand : StandTogether members nodes)
    (permitted : Permitted (nextState (hearTogether crc16)) (ServiceableTogether crc16) members
      events) :
    Exists fun finals =>
      trace (together (Node.serve crc16)) nodes events =
        .ok (finals, (behaviour (hearTogether crc16) members events).2) ∧
      StandTogether (behaviour (hearTogether crc16) members events).1 finals :=
  trace_follows (together (Node.serve crc16)) (hearTogether crc16) (ServiceableTogether crc16)
    StandTogether (fun _ _ _ => serveTogether_hears depends) stand permitted

end Together

/-- Of the nodes at most one has answered, under its own address, and all the
others are as they were. -/
structure OneSpeaker (before after : List Node) (answers : List Outgoing) : Prop where
  each : forall (place : Nat) (node : Node), before[place]? = some node ->
    Exists fun next : Node => after[place]? = some next ∧
      (answers[place]? = some Outgoing.nothing ∧ next.contents = node.contents ∨
        Exists fun bytes : List UInt8 => answers[place]? = some (Outgoing.reply bytes) ∧
          bytes.head? = some node.slaveAddress)
  alone : forall (first second : Nat) (firstBytes secondBytes : List UInt8),
    answers[first]? = some (Outgoing.reply firstBytes) ->
    answers[second]? = some (Outgoing.reply secondBytes) -> first = second

section Speaking

variable {crc16 : Crc16} {progress later : Progress} {nodes nexts : List Node} {event : LineEvent}

/-- Nodes in step with different addresses: only one of them is addressed. -/
theorem hearTogether_alone (distinct : (nodes.map Node.slaveAddress).Nodup) {first second : Nat}
    {firstBytes secondBytes : List UInt8}
    (firstReplied : (hearTogether crc16 (nodes.map (Node.member progress)) event).2[first]? =
      some (.reply firstBytes))
    (secondReplied : (hearTogether crc16 (nodes.map (Node.member progress)) event).2[second]? =
      some (.reply secondBytes)) : first = second := by
  have addressed {place : Nat} {bytes : List UInt8}
      (replied : (hearTogether crc16 (nodes.map (Node.member progress)) event).2[place]? =
        some (.reply bytes)) :
      Exists fun node => nodes[place]? = some node ∧
        Exists fun pt => Exists fun function => Exists fun body => event = .character pt ∧
          progress.advance pt = .complete node.slaveAddress function body := by
    simp only [hearTogether, inParallel, List.map_map, List.getElem?_map] at replied
    rcases Option.map_eq_some_iff.mp replied with ⟨node, found, answered⟩
    rcases Station.hear_reply answered with ⟨pt, function, body, heard, finished, _⟩
    exact ⟨node, found, pt, function, body, heard, finished⟩
  rcases addressed firstReplied with ⟨one, oneFound, pt, _, _, heard, finished⟩
  rcases addressed secondReplied with ⟨two, twoFound, _, _, _, again, completed⟩
  subst heard
  cases again
  rw [finished] at completed
  have sameAddress : one.slaveAddress = two.slaveAddress := (Progress.complete.inj completed).1
  rcases List.getElem?_eq_some_iff.mp oneFound with ⟨inside, _⟩
  have mapped : first < (nodes.map Node.slaveAddress).length := by
    rw [List.length_map]
    exact inside
  apply (List.getElem?_inj mapped distinct).mp
  rw [List.getElem?_map, List.getElem?_map, oneFound, twoFound]
  exact congrArg some sameAddress

theorem hearTogether_oneSpeaker (distinct : (nodes.map Node.slaveAddress).Nodup)
    (moved : nextState (hearTogether crc16) (nodes.map (Node.member progress)) event =
      nexts.map (Node.member later)) :
    OneSpeaker nodes nexts (hearTogether crc16 (nodes.map (Node.member progress)) event).2 where
  alone _ _ _ _ := hearTogether_alone distinct
  each place node found := by
    have member : (nextState (hearTogether crc16) (nodes.map (Node.member progress)) event)[place]? =
        some ((node.member progress).hear crc16 event).1 := by
      rw [nextState, hearTogether, inParallel, List.getElem?_map, List.getElem?_map, found]
      rfl
    rw [moved, List.getElem?_map] at member
    rcases Option.map_eq_some_iff.mp member with ⟨next, listed, same⟩
    have answer : (hearTogether crc16 (nodes.map (Node.member progress)) event).2[place]? =
        some ((node.slave.station progress).hear crc16 event).2 := by
      rw [hearTogether, inParallel, List.getElem?_map, List.getElem?_map, found]
      rfl
    refine ⟨next, listed, ?_⟩
    rw [answer]
    rcases (node.slave.station progress).hear_answers crc16 event with silent | spoke
    · refine Or.inl ⟨congrArg some silent, (congrArg Member.contents same).trans ?_⟩
      have kept := Station.hear_silent silent
      exact congrArg (fun contents => (⟨node.h, node.i, contents⟩ :
        Sigma fun h => Sigma fun i => Contents h i)) kept
    · rcases spoke with ⟨bytes, replied⟩
      rcases Station.hear_reply replied with ⟨_, _, _, _, _, signed⟩
      exact Or.inr ⟨bytes, congrArg some replied, signed⟩

end Speaking

/-! ## Requests to one of them -/

theorem Member.behaviour_hear (crc16 : Crc16) (member : Member) (events : List LineEvent) :
    behaviour (Member.hear crc16) member events =
      ({ member with station := (behaviour (Station.hear crc16) member.station events).1 },
        (behaviour (Station.hear crc16) member.station events).2) := by
  induction events generalizing member with
  | nil => rfl
  | cons event rest inductionHypothesis =>
      rw [behaviour_cons, inductionHypothesis]
      rfl

theorem Member.permitted_hear (crc16 : Crc16) (member : Member) (events : List LineEvent) :
    Permitted (nextState (Member.hear crc16)) (Member.Serviceable crc16) member events <->
      Permitted Progress.hear
        (ProtocolRtuSlave.Serviceable crc16 member.station.slaveAddress member.h member.i)
        member.station.progress events := by
  induction events generalizing member with
  | nil => exact Iff.rfl
  | cons event rest inductionHypothesis =>
      have address : (nextState (Member.hear crc16) member event).station.slaveAddress =
          member.station.slaveAddress := Station.hear_slaveAddress event
      have progress : (nextState (Member.hear crc16) member event).station.progress =
          member.station.progress.hear event := Station.hear_progress event
      rw [Permitted, Permitted, inductionHypothesis, address, progress]
      rfl

/-- What a node keeps and answers, byte by byte, when this request is sent to
this address after a timeout. -/
def Node.performs (crc16 : Crc16) (address : UInt8) (request : Request) (node : Node) :
    (Sigma fun h => Sigma fun i => Contents h i) × List Outgoing :=
  if address = node.slaveAddress then
    (⟨node.h, node.i, node.slave.contents.apply (.request request)⟩,
      List.replicate (request.payload.length + 4) .nothing ++
        [.reply (withChecksum crc16 (address :: (node.slave.file.perform request).2))])
  else (node.contents, List.replicate (request.payload.length + 5) .nothing)

theorem Node.member_performs [TypeConversion] (crc16 : Crc16) (progress : Progress) (node : Node)
    (address : UInt8) {request : Request} (wellFormed : (SessionEvent.request request).WellFormed) :
    ((behaviour (Member.hear crc16) (node.member progress)
        (.timeout :: (request.wire crc16 address).map .character)).1.contents,
      (behaviour (Member.hear crc16) (node.member progress)
        (.timeout :: (request.wire crc16 address).map .character)).2) =
      node.performs crc16 address request := by
  have served := Station.behaviour_request crc16 (node.slave.station progress) address wellFormed
  rw [Member.behaviour_hear]
  refine (congrArg (fun last : Station node.h node.i × List Outgoing =>
    ((⟨node.h, node.i, last.1.contents⟩ : Sigma fun h => Sigma fun i => Contents h i), last.2))
    served).trans ?_
  by_cases addressed : address = node.slaveAddress
  · have same : address = (node.slave.station progress).slaveAddress := addressed
    rw [Node.performs, if_pos addressed, if_pos same, same]
    rfl
  · have other : ¬ address = (node.slave.station progress).slaveAddress := addressed
    rw [Node.performs, if_neg addressed, if_neg other]
    rfl

/-- A request after a timeout is serviceable for all members. -/
theorem permitted_requestTogether [TypeConversion] (crc16 : Crc16) (members : List Member)
    (address : UInt8) {request : Request}
    (wellFormed : (SessionEvent.request request).WellFormed) :
    Permitted (nextState (hearTogether crc16)) (ServiceableTogether crc16) members
      (.timeout :: (request.wire crc16 address).map .character) := by
  refine permitted_inParallel (Member.hear crc16) fun member _ => ?_
  exact (member.permitted_hear crc16 _).mpr (permitted_request crc16 _ _ address wellFormed)

/-! ## Whole histories -/

/-- Nobody's address changes on the line. -/
theorem hearTogether_addresses (crc16 : Crc16) (members : List Member) (event : LineEvent) :
    (nextState (hearTogether crc16) members event).map (fun member => member.station.slaveAddress) =
      members.map fun member => member.station.slaveAddress := by
  rw [nextState, hearTogether, inParallel, List.map_map]
  exact List.map_congr_left fun member _ => Station.hear_slaveAddress event

theorem StandTogether.addresses {members : List Member} {nodes : List Node}
    (stand : StandTogether members nodes) :
    nodes.map Node.slaveAddress = members.map fun member => member.station.slaveAddress := by
  rcases stand with ⟨progress, _, rfl⟩
  rw [List.map_map]
  rfl

/-- Slaves 1 and 2 on one line. -/
def pairOfNodes : List Node :=
  [{ h := 2, i := 1, slave := zeroSlave 2 1 },
    { h := 5, i := 1, slave := (zeroSlave 5 1).setAddress 2 }]

theorem pairOfNodes_small : forall node, node ∈ pairOfNodes -> node.Small := by
  decide

section Lines

variable [TypeConversion] {crc16 : Crc16} (depends : crc16.DependsOnPrefix) {nodes : List Node}
  (small : forall node, node ∈ nodes -> node.Small)

include depends small

/-- Slaves that share a line answer, each for itself, what their stations
answer, and keep what these keep. -/
theorem nodes_refine_members (events : List LineEvent)
    (permitted : Permitted (nextState (hearTogether crc16)) (ServiceableTogether crc16)
      (nodes.map (Node.member .idle)) events) :
    Exists fun finals =>
      trace (together (Node.serve crc16)) (nodes.map Node.reset) events =
        .ok (finals, (behaviour (hearTogether crc16) (nodes.map (Node.member .idle)) events).2) ∧
      StandTogether (behaviour (hearTogether crc16) (nodes.map (Node.member .idle)) events).1
        finals :=
  traceTogether_hears depends (reset_standTogether small) permitted

omit [TypeConversion] depends small in
/-- Both hear the write to slave 2. -/
theorem nodes_refine_members_pair :
    letI := TypeConversion.shifting
    letI events : List LineEvent := [2, 6, 0, 1, 2, 7, 0x98, 0x9B].map LineEvent.character
    Exists fun finals => Exists fun outputs =>
      trace (together (Node.serve .modbus)) (pairOfNodes.map Node.reset) events =
        .ok (finals, outputs) ∧
      outputs = List.replicate 7 [.nothing, .nothing] ++
        [[.nothing, .reply [2, 6, 0, 1, 2, 7, 0x98, 0x9B]]] := by
  let conversion := TypeConversion.shifting
  rcases nodes_refine_members Crc16.modbus_dependsOnPrefix pairOfNodes_small
    ([2, 6, 0, 1, 2, 7, 0x98, 0x9B].map LineEvent.character) (by decide +kernel) with
    ⟨finals, completes, _⟩
  exact ⟨finals, _, completes, by decide +kernel⟩

/-- With different addresses at most one of the slaves answers an event, after
any history, and no other slave is touched. -/
theorem one_slave_answers (distinct : (nodes.map Node.slaveAddress).Nodup)
    (past : List LineEvent) (event : LineEvent)
    (permitted : Permitted (nextState (hearTogether crc16)) (ServiceableTogether crc16)
      (nodes.map (Node.member .idle)) (past ++ [event])) :
    Exists fun reached => Exists fun outputs => Exists fun nexts => Exists fun answers =>
      trace (together (Node.serve crc16)) (nodes.map Node.reset) past = .ok (reached, outputs) ∧
      together (Node.serve crc16) reached event = .ok (nexts, answers) ∧
      reached.map Node.slaveAddress = nodes.map Node.slaveAddress ∧
      OneSpeaker reached nexts answers := by
  rcases (permitted_append _ _ _ _ _).mp permitted with ⟨before, last⟩
  rcases traceTogether_hears depends (reset_standTogether small) before with
    ⟨reached, completes, stand⟩
  rw [← behaviour_state] at last
  rcases serveTogether_hears depends stand last.1 with ⟨nexts, served, after⟩
  have addresses : reached.map Node.slaveAddress = nodes.map Node.slaveAddress := by
    have kept := behaviour_keeps (hearTogether crc16)
      (List.map fun member : Member => member.station.slaveAddress)
      (hearTogether_addresses crc16) (nodes.map (Node.member .idle)) past
    rw [← stand.addresses, List.map_map] at kept
    exact kept
  rcases stand with ⟨progress, _, members⟩
  rcases after with ⟨later, _, moved⟩
  rw [members] at moved served
  rw [← addresses] at distinct
  exact ⟨reached, _, nexts, _, completes, served, addresses,
    hearTogether_oneSpeaker distinct moved⟩

omit [TypeConversion] depends small in
/-- The last byte of a read of slave 2. -/
theorem one_slave_answers_pair :
    letI := TypeConversion.shifting
    letI past : List LineEvent := [2, 3, 0, 0, 0, 2, 0xC4].map LineEvent.character
    Exists fun reached => Exists fun outputs => Exists fun nexts => Exists fun answers =>
      trace (together (Node.serve .modbus)) (pairOfNodes.map Node.reset) past =
        .ok (reached, outputs) ∧
      together (Node.serve .modbus) reached (.character 0x38) = .ok (nexts, answers) ∧
      reached.map Node.slaveAddress = [1, 2] ∧ OneSpeaker reached nexts answers := by
  let conversion := TypeConversion.shifting
  exact one_slave_answers Crc16.modbus_dependsOnPrefix pairOfNodes_small (by decide)
    ([2, 3, 0, 0, 0, 2, 0xC4].map LineEvent.character) (.character 0x38) (by decide +kernel)

/-- After any history and a timeout, a request is performed and answered by the
slaves that have its address, and by no other. -/
theorem line_answers_request (past : List LineEvent)
    (permitted : Permitted (nextState (hearTogether crc16)) (ServiceableTogether crc16)
      (nodes.map (Node.member .idle)) past)
    (address : UInt8) (request : Request) (wellFormed : (SessionEvent.request request).WellFormed) :
    Exists fun reached => Exists fun outputs => Exists fun finals => Exists fun answers =>
      trace (together (Node.serve crc16)) (nodes.map Node.reset) past = .ok (reached, outputs) ∧
      trace (together (Node.serve crc16)) reached
          (.timeout :: (request.wire crc16 address).map .character) = .ok (finals, answers) ∧
      finals.map Node.contents =
        reached.map (fun node => (node.performs crc16 address request).1) ∧
      forall (place : Nat) (node : Node), reached[place]? = some node ->
        answers.map (fun outputs => outputs[place]?) =
          (node.performs crc16 address request).2.map some := by
  rcases traceTogether_hears depends (reset_standTogether small) permitted with
    ⟨reached, completes, stand⟩
  rcases traceTogether_hears depends stand
    (permitted_requestTogether crc16 _ address wellFormed) with ⟨finals, served, later, _, ended⟩
  rcases stand with ⟨progress, _, members⟩
  rw [members] at ended served
  refine ⟨reached, _, finals, _, completes, served, ?_, fun place node found => ?_⟩
  · have contents := congrArg (List.map Member.contents) ended
    rw [hearTogether, behaviour_inParallel_state, List.map_map, List.map_map, List.map_map] at contents
    refine Eq.trans contents.symm (List.map_congr_left fun node _ => ?_)
    exact congrArg Prod.fst (node.member_performs crc16 progress address wellFormed)
  · have listed : (reached.map (Node.member progress))[place]? = some (node.member progress) := by
      rw [List.getElem?_map, found]
      rfl
    rw [hearTogether, behaviour_inParallel_outputs (Member.hear crc16) listed]
    exact congrArg (fun last => last.2.map some)
      (node.member_performs crc16 progress address wellFormed)

omit [TypeConversion] depends small in
/-- Half a frame is given up, and then slave 2 is asked to write. -/
theorem line_answers_request_pair :
    letI := TypeConversion.shifting
    letI past : List LineEvent := [1, 6, 0, 0].map LineEvent.character
    Exists fun reached => Exists fun outputs => Exists fun finals => Exists fun answers =>
      trace (together (Node.serve .modbus)) (pairOfNodes.map Node.reset) past =
        .ok (reached, outputs) ∧
      trace (together (Node.serve .modbus)) reached
          (.timeout :: [2, 6, 0, 1, 2, 7, 0x98, 0x9B].map LineEvent.character) =
        .ok (finals, answers) ∧
      finals.map Node.contents =
        reached.map fun node => (node.performs .modbus 2 (.writeSingle 1 0x0207)).1 := by
  let conversion := TypeConversion.shifting
  rcases line_answers_request Crc16.modbus_dependsOnPrefix pairOfNodes_small
    ([1, 6, 0, 0].map LineEvent.character) (by decide +kernel) 2 (.writeSingle 1 0x0207)
    (Nat.zero_le 125) with ⟨reached, outputs, finals, answers, completes, served, kept, _⟩
  have wire : (Request.writeSingle 1 0x0207).wire .modbus 2 =
      [2, 6, 0, 1, 2, 7, 0x98, 0x9B] := by decide +kernel
  rw [wire] at served
  exact ⟨reached, outputs, finals, answers, completes, served, kept⟩

end Lines

end Modbus
