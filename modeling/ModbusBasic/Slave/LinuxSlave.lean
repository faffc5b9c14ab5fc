import ModbusBasic.Slave.Exchange

namespace Modbus

open Memory TypeConversion Transition

/-!
# The loop with its serial port

A call of `LinuxSlave::Run` sends what the transmit buffer holds, reads what has
arrived, processes the packet that the call before has completed, and then takes
one byte of the receive buffer, or resets the slave when there is none and the
last one is too long ago.  Packets are therefore processed one call late, and
replies are sent one call later still.

`serve` does the same in one turn, a byte or a timeout.  What arrives is heard by
it once and in the order of arrival, and what `Run` sends is what it answers.
-/

variable {h i : Nat} {B : Type}

/-! ## The port -/

/-- What the port uses of `RingBuffer<uint8_t, 1024>`, also behind `IODevice`, whose
`write`, `read` and `rxEmpty` hand on to the two buffers.  It is first in, first out;
of a full buffer nothing is said, and one of the cells may be unused. -/
class RingBuffer (B : Type) where
  isEmpty : B -> Bool
  insert : B -> UInt8 -> B
  pop : B -> UInt8 × B
  contents : B -> List UInt8
  isEmpty_iff : forall buffer, isEmpty buffer = true <-> contents buffer = []
  contents_insert : forall buffer pt, (contents buffer).length < 1023 ->
    contents (insert buffer pt) = contents buffer ++ [pt]
  pop_contents : forall buffer pt rest, contents buffer = pt :: rest ->
    (pop buffer).1 = pt ∧ contents (pop buffer).2 = rest

/-- A list of bytes, the oldest first. -/
@[reducible] def RingBuffer.queue : RingBuffer (List UInt8) where
  isEmpty buffer := buffer.isEmpty
  insert buffer pt := buffer ++ [pt]
  pop buffer := (buffer.headD 0, buffer.tail)
  contents buffer := buffer
  isEmpty_iff _ := List.isEmpty_iff
  contents_insert _ _ _ := rfl
  pop_contents _ _ _ same := by
    rw [same]
    exact ⟨rfl, rfl⟩

namespace RingBuffer

variable [RingBuffer B]

/-- The bytes inserted one after another. -/
def insertAll (buffer : B) (bytes : List UInt8) : B := bytes.foldl insert buffer

/-- `SendTxBuff`: the bytes sent, until the buffer is empty. -/
def sendTxBuff (buffer : B) : List UInt8 × B :=
  if _ : isEmpty buffer = true then ([], buffer)
  else
    let rest := sendTxBuff (pop buffer).2
    ((pop buffer).1 :: rest.1, rest.2)
termination_by (contents buffer).length
decreasing_by
  rename_i full
  cases held : contents buffer with
  | nil => exact absurd ((isEmpty_iff buffer).mpr held) full
  | cons pt rest =>
      rw [(pop_contents buffer pt rest held).2]
      exact Nat.lt_succ_self rest.length

theorem sendTxBuff_contents (buffer : B) :
    (sendTxBuff buffer).1 = contents buffer ∧ contents (sendTxBuff buffer).2 = [] := by
  fun_induction sendTxBuff buffer with
  | case1 buffer empty =>
      have held := (isEmpty_iff buffer).mp empty
      exact ⟨held.symm, held⟩
  | case2 buffer full rest inductionHypothesis =>
      cases held : contents buffer with
      | nil => exact absurd ((isEmpty_iff buffer).mpr held) full
      | cons pt others =>
          rcases pop_contents buffer pt others held with ⟨first, later⟩
          rw [later] at inductionHypothesis
          rw [first, inductionHypothesis.1]
          exact ⟨rfl, inductionHypothesis.2⟩

theorem insertAll_contents {buffer : B} {bytes : List UInt8}
    (room : (contents buffer ++ bytes).length ≤ 1023) :
    contents (insertAll buffer bytes) = contents buffer ++ bytes := by
  induction bytes generalizing buffer with
  | nil => exact (List.append_nil _).symm
  | cons pt rest inductionHypothesis =>
      rw [List.length_append, List.length_cons] at room
      have inserted := contents_insert buffer pt (by omega)
      have shorter : (contents (insert buffer pt) ++ rest).length ≤ 1023 := by
        rw [inserted, List.append_assoc, List.length_append]
        exact room
      rw [insertAll, List.foldl_cons, ← insertAll, inductionHypothesis shorter, inserted,
        List.append_assoc]
      rfl

end RingBuffer

structure Timeval where
  sec : Int
  usec : Int
deriving DecidableEq

def getMicroSecondsSince (first second : Timeval) : Int :=
  (second.sec - first.sec) * 1000000 + (second.usec - first.usec)

/-- Three and a half characters of nine clocks at 9600 baud, cut to microseconds. -/
def kFrameDelay_us : Int := 3281

/-- What a call of `Run` finds: the bytes that have arrived, and the time. -/
structure Turn where
  arrived : List UInt8
  timeStamp : Timeval

structure LinuxSlave (B H I : Type) where
  slave : ProtocolRtuSlave H I
  rxBuff : B
  txBuff : B
  lastCharacterTime : Timeval

namespace LinuxSlave

variable {H I : Type}

def rxCharacterTimeout (device : LinuxSlave B H I) (timestamp : Timeval) : Bool :=
  decide (getMicroSecondsSince device.lastCharacterTime timestamp ≥ 10 * kFrameDelay_us)

variable [RingBuffer B] [TypeConversion] [RegisterCallbacks H] [RegisterData I]

/-- The response is put in the transmit buffer and not sent yet. -/
def processPacket (crc16 : Crc16) (device : LinuxSlave B H I) : Checked (LinuxSlave B H I) := do
  let processed <- device.slave.processPacket crc16
  return { device with
    slave := processed.1
    txBuff := RingBuffer.insertAll device.txBuff (processed.2.getD []) }

/-- One call, and the bytes it sends. -/
def run (crc16 : Crc16) (device : LinuxSlave B H I) (turn : Turn) :
    Checked (LinuxSlave B H I × List UInt8) := do
  let sent := RingBuffer.sendTxBuff device.txBuff
  let device := { device with
    txBuff := sent.2
    rxBuff := RingBuffer.insertAll device.rxBuff turn.arrived }
  let device <- (if device.slave.getContext.packetReceived then device.processPacket crc16
    else pure device)
  if RingBuffer.isEmpty device.rxBuff = false then
    let read := RingBuffer.pop device.rxBuff
    let slave <- device.slave.processCharacter read.1
    return ({ device with
      slave := slave, rxBuff := read.2, lastCharacterTime := turn.timeStamp }, sent.1)
  else if device.rxCharacterTimeout turn.timeStamp then
    return ({ device with slave := device.slave.reset }, sent.1)
  else return (device, sent.1)

end LinuxSlave

/-! ## What is heard -/

/-- All that decides what a call of `Run` takes. -/
structure Port where
  waiting : List UInt8
  lastCharacterTime : Timeval

namespace Port

/-- The event of a call, if any. -/
def event (port : Port) (turn : Turn) : Option LineEvent :=
  match port.waiting ++ turn.arrived with
  | pt :: _ => some (.character pt)
  | [] =>
      if getMicroSecondsSince port.lastCharacterTime turn.timeStamp ≥ 10 * kFrameDelay_us then
        some .timeout
      else none

def next (port : Port) (turn : Turn) : Port :=
  match port.waiting ++ turn.arrived with
  | _ :: rest => { waiting := rest, lastCharacterTime := turn.timeStamp }
  | [] => { port with waiting := [] }

/-- The events of any number of calls. -/
def heard (port : Port) : List Turn -> List LineEvent
  | [] => []
  | turn :: rest => (port.event turn).toList ++ (port.next turn).heard rest

/-- The receive buffer has room for what arrives. -/
def HasSpace (port : Port) (turn : Turn) : Prop := (port.waiting ++ turn.arrived).length ≤ 1023

instance (port : Port) (turn : Turn) : Decidable (port.HasSpace turn) :=
  inferInstanceAs (Decidable (_ ≤ _))

end Port

/-- The byte of an event. -/
def LineEvent.byte : LineEvent -> Option UInt8
  | .character pt => some pt
  | .timeout => none

namespace Port

variable {port : Port} {turn : Turn}

theorem turn_byte {pt : UInt8} {rest : List UInt8} (held : port.waiting ++ turn.arrived = pt :: rest) :
    port.event turn = some (.character pt) ∧
      port.next turn = { waiting := rest, lastCharacterTime := turn.timeStamp } := by
  rw [event, next, held]
  exact ⟨rfl, rfl⟩

theorem turn_empty (held : port.waiting ++ turn.arrived = []) :
    port.event turn =
        (if getMicroSecondsSince port.lastCharacterTime turn.timeStamp ≥ 10 * kFrameDelay_us then
          some .timeout
        else none) ∧
      port.next turn = { port with waiting := [] } := by
  rw [event, next, held]
  exact ⟨rfl, rfl⟩

/-- Bytes are heard once and in the order of their arrival. -/
theorem heard_bytes (port : Port) (turns : List Turn) :
    (port.heard turns).filterMap LineEvent.byte ++ (turns.foldl next port).waiting =
      port.waiting ++ turns.flatMap Turn.arrived := by
  induction turns generalizing port with
  | nil => exact (List.append_nil _).symm
  | cons turn rest inductionHypothesis =>
      have one : (port.event turn).toList.filterMap LineEvent.byte ++ (port.next turn).waiting =
          port.waiting ++ turn.arrived := by
        cases held : port.waiting ++ turn.arrived with
        | cons pt others =>
            rw [(turn_byte held).1, (turn_byte held).2]
            rfl
        | nil =>
            rw [(turn_empty held).1, (turn_empty held).2]
            split <;> rfl
      rw [heard, List.filterMap_append, List.append_assoc, List.foldl_cons, inductionHypothesis,
        List.flatMap_cons, ← List.append_assoc, one, List.append_assoc]

end Port

/-! ## What a device stands for -/

namespace ProtocolRtuSlave

/-- What the next call does before anything else. -/
def settle {H I : Type} [TypeConversion] [RegisterCallbacks H] [RegisterData I] (crc16 : Crc16)
    (slave : ProtocolRtuSlave H I) : Checked (ProtocolRtuSlave H I × Option (List UInt8)) :=
  if slave.getContext.packetReceived then slave.processPacket crc16 else return (slave, none)

variable {H I : Type} [TypeConversion] [RegisterCallbacks H] [RegisterData I] {crc16 : Crc16}
  {slave : ProtocolRtuSlave H I}

theorem serve_eq (event : LineEvent) :
    slave.serve crc16 event = slave.receive event >>= fun received => received.settle crc16 :=
  rfl

/-- A reply is no longer than the response it is taken from. -/
theorem settle_reply_length {settled : ProtocolRtuSlave H I} {reply : Option (List UInt8)}
    (attended : slave.settle crc16 = .ok (settled, reply)) : (reply.getD []).length ≤ 256 := by
  unfold settle at attended
  split at attended
  · rcases bind_eq_ok.mp attended with ⟨processed, _, same⟩
    cases same
    unfold published
    split
    · rw [Option.getD_some, List.length_take, Vector.length_toList]
      exact Nat.min_le_right _ _
    · exact Nat.zero_le 256
  · cases attended
    exact Nat.zero_le 256

end ProtocolRtuSlave

namespace LinuxSlave

variable [RingBuffer B] [TypeConversion]

/-- Once the packet is processed that may be complete, the device is at a station,
with these bytes answered and not sent. -/
structure Follows (crc16 : Crc16)
    (device : LinuxSlave B (UpdatingRegisterDataStore h) (RegisterDataStore i)) (port : Port)
    (station : Station h i) (due : List UInt8) : Prop where
  waiting : RingBuffer.contents device.rxBuff = port.waiting
  lastCharacterTime : device.lastCharacterTime = port.lastCharacterTime
  settles : Exists fun settled => Exists fun reply =>
    device.slave.settle crc16 = .ok (settled, reply) ∧ settled.StandsFor station ∧
      RingBuffer.contents device.txBuff ++ reply.getD [] = due

variable {crc16 : Crc16} {device : LinuxSlave B (UpdatingRegisterDataStore h) (RegisterDataStore i)}

/-- The first half of a call. -/
theorem settle_eq {settled : ProtocolRtuSlave.Stores h i} {reply : Option (List UInt8)}
    (attended : device.slave.settle crc16 = .ok (settled, reply)) :
    (if device.slave.getContext.packetReceived then device.processPacket crc16 else pure device) =
      .ok { device with
        slave := settled, txBuff := RingBuffer.insertAll device.txBuff (reply.getD []) } := by
  unfold ProtocolRtuSlave.settle at attended
  split at attended
  · next received =>
      rw [if_pos received, processPacket, attended, ok_bind]
      rfl
  · next notReceived =>
      rw [if_neg notReceived]
      cases attended
      rfl

end LinuxSlave

/-! ## One call -/

/-- The bytes of the replies to some events. -/
def Station.replies (crc16 : Crc16) (station : Station h i) (events : List LineEvent) :
    List UInt8 :=
  ((behaviour (hear crc16) station events).2.filterMap Outgoing.frame).flatten

theorem Station.replies_append (crc16 : Crc16) (station : Station h i)
    (first second : List LineEvent) :
    station.replies crc16 (first ++ second) = station.replies crc16 first ++
      (behaviour (hear crc16) station first).1.replies crc16 second := by
  simp only [replies, behaviour_append, List.filterMap_append, List.flatten_append]

namespace ProtocolRtuSlave

variable [TypeConversion] {crc16 : Crc16} {slave : Stores h i} {station : Station h i}

/-- An event is received at once and answered when the slave settles. -/
theorem receive_hears (depends : crc16.DependsOnPrefix) (holdingSmall : h ≤ 65536)
    (inputSmall : i ≤ 65536) {event : LineEvent} (stands : slave.StandsFor station)
    (serviceable : Serviceable crc16 station.slaveAddress h i station.progress event) :
    Exists fun received => slave.receive event = .ok received ∧
      Exists fun settled => Exists fun reply => received.settle crc16 = .ok (settled, reply) ∧
        settled.StandsFor (behaviour (Station.hear crc16) station [event]).1 ∧
        reply.getD [] = station.replies crc16 [event] := by
  rcases serve_hears depends holdingSmall inputSmall stands serviceable with
    ⟨settled, reply, served, written, kept⟩
  rw [serve_eq] at served
  rcases bind_eq_ok.mp served with ⟨received, accepted, attended⟩
  refine ⟨received, accepted, settled, reply, attended, kept, ?_⟩
  change _ = (([(station.hear crc16 event).2] : List Outgoing).filterMap Outgoing.frame).flatten
  rw [← written]
  cases reply with
  | none => rfl
  | some bytes => exact (List.append_nil bytes).symm

/-- A slave between two events has nothing to settle. -/
theorem settle_standsFor (stands : slave.StandsFor station) :
    slave.settle crc16 = .ok (slave, none) := by
  have packet : slave.getContext.packetReceived = false :=
    stands.tracks.represents.packetReceived.trans stands.tracks.incomplete
  rw [settle, packet]
  rfl

end ProtocolRtuSlave

namespace LinuxSlave

variable [RingBuffer B] [TypeConversion] {crc16 : Crc16} {port : Port} {station : Station h i}
  {device : LinuxSlave B (UpdatingRegisterDataStore h) (RegisterDataStore i)} {due : List UInt8}

/-- The second half of a call, behind what the first half has reached. -/
theorem run_eq (turn : Turn) {settled : ProtocolRtuSlave.Stores h i} {reply : Option (List UInt8)}
    (attended : device.slave.settle crc16 = .ok (settled, reply)) :
    Exists fun reached : LinuxSlave B (UpdatingRegisterDataStore h) (RegisterDataStore i) =>
      reached.slave = settled ∧ reached.lastCharacterTime = device.lastCharacterTime ∧
      reached.rxBuff = RingBuffer.insertAll device.rxBuff turn.arrived ∧
      RingBuffer.contents reached.txBuff = reply.getD [] ∧
      device.run crc16 turn =
        if RingBuffer.isEmpty reached.rxBuff = false then
          settled.processCharacter (RingBuffer.pop reached.rxBuff).1 >>= fun slave =>
            .ok ({ reached with
              slave := slave, rxBuff := (RingBuffer.pop reached.rxBuff).2,
              lastCharacterTime := turn.timeStamp }, RingBuffer.contents device.txBuff)
        else if reached.rxCharacterTimeout turn.timeStamp then
          .ok ({ reached with slave := settled.reset }, RingBuffer.contents device.txBuff)
        else .ok (reached, RingBuffer.contents device.txBuff) := by
  rcases RingBuffer.sendTxBuff_contents device.txBuff with ⟨sent, emptied⟩
  have room : (RingBuffer.contents (RingBuffer.sendTxBuff device.txBuff).2 ++
      reply.getD []).length ≤ 1023 := by
    have short := ProtocolRtuSlave.settle_reply_length attended
    rw [emptied, List.nil_append]
    omega
  have filled := RingBuffer.insertAll_contents room
  rw [emptied, List.nil_append] at filled
  let begun : LinuxSlave B (UpdatingRegisterDataStore h) (RegisterDataStore i) := { device with
    txBuff := (RingBuffer.sendTxBuff device.txBuff).2
    rxBuff := RingBuffer.insertAll device.rxBuff turn.arrived }
  have attendedBegun : begun.slave.settle crc16 = .ok (settled, reply) := attended
  refine ⟨{ begun with
    slave := settled, txBuff := RingBuffer.insertAll begun.txBuff (reply.getD []) },
    rfl, rfl, rfl, filled, ?_⟩
  rw [← sent]
  change ((if begun.slave.getContext.packetReceived then begun.processPacket crc16
    else pure begun) >>= _) = _
  rw [settle_eq attendedBegun, ok_bind]
  rfl

variable (B) in
/-- An event that is received leaves a device at the next station. -/
theorem receive_follows (depends : crc16.DependsOnPrefix) (holdingSmall : h ≤ 65536)
    (inputSmall : i ≤ 65536) {slave : ProtocolRtuSlave.Stores h i} {event : LineEvent}
    (stands : slave.StandsFor station)
    (serviceable : ProtocolRtuSlave.Serviceable crc16 station.slaveAddress h i station.progress
      event) :
    Exists fun received => slave.receive event = .ok received ∧
      forall (rxBuff txBuff : B) (port : Port), RingBuffer.contents rxBuff = port.waiting ->
        Follows crc16 ⟨received, rxBuff, txBuff, port.lastCharacterTime⟩ port
          (behaviour (Station.hear crc16) station [event]).1
          (RingBuffer.contents txBuff ++ station.replies crc16 [event]) := by
  rcases ProtocolRtuSlave.receive_hears depends holdingSmall inputSmall stands serviceable with
    ⟨received, accepted, settled, reply, settles, kept, told⟩
  refine ⟨received, accepted, fun rxBuff txBuff port waiting => ?_⟩
  exact ⟨waiting, rfl, settled, reply, settles, kept, by rw [told]⟩

theorem run_follows (depends : crc16.DependsOnPrefix) (holdingSmall : h ≤ 65536)
    (inputSmall : i ≤ 65536) {turn : Turn} (follows : device.Follows crc16 port station due)
    (space : port.HasSpace turn)
    (serviceable : forall event, port.event turn = some event ->
      ProtocolRtuSlave.Serviceable crc16 station.slaveAddress h i station.progress event) :
    Exists fun next => Exists fun sent => Exists fun later =>
      device.run crc16 turn = .ok (next, sent) ∧
      sent ++ later = due ++ station.replies crc16 (port.event turn).toList ∧
      next.Follows crc16 (port.next turn)
        (behaviour (Station.hear crc16) station (port.event turn).toList).1 later := by
  rcases follows with ⟨waiting, same, settled, reply, attended, stands, rfl⟩
  rcases run_eq turn attended with ⟨⟨slave, rxBuff, txBuff, time⟩, rfl, rfl, rfl, filled, begins⟩
  have arrived : RingBuffer.contents (RingBuffer.insertAll device.rxBuff turn.arrived) =
      port.waiting ++ turn.arrived := by
    rw [← waiting]
    apply RingBuffer.insertAll_contents
    rw [waiting]
    exact space
  rw [← filled]
  cases held : port.waiting ++ turn.arrived with
  | cons pt rest =>
      rw [held] at arrived
      rcases Port.turn_byte held with ⟨event, next⟩
      rcases RingBuffer.pop_contents _ pt rest arrived with ⟨first, others⟩
      have nonempty : RingBuffer.isEmpty (RingBuffer.insertAll device.rxBuff turn.arrived) = false := by
        apply Bool.eq_false_iff.mpr
        intro empty
        rw [(RingBuffer.isEmpty_iff _).mp empty] at arrived
        cases arrived
      rcases receive_follows B depends holdingSmall inputSmall stands (serviceable _ event) with
        ⟨received, accepted, follows⟩
      have processed : slave.processCharacter pt = .ok received := accepted
      rw [event, next, begins, if_pos nonempty, first, processed, ok_bind]
      exact ⟨_, _, _, rfl, (List.append_assoc _ _ _).symm, follows _ txBuff ⟨rest, turn.timeStamp⟩ others⟩
  | nil =>
      rw [held] at arrived
      rcases Port.turn_empty held with ⟨event, next⟩
      have empty : RingBuffer.isEmpty (RingBuffer.insertAll device.rxBuff turn.arrived) = true :=
        (RingBuffer.isEmpty_iff _).mpr arrived
      rw [begins, if_neg (by rw [empty]; decide), next, rxCharacterTimeout, same]
      by_cases late : getMicroSecondsSince port.lastCharacterTime turn.timeStamp ≥ 10 * kFrameDelay_us
      · rw [if_pos late] at event
        rcases receive_follows B depends holdingSmall inputSmall stands (serviceable _ event) with
          ⟨received, accepted, follows⟩
        cases accepted
        rw [event, if_pos (decide_eq_true late)]
        exact ⟨_, _, _, rfl, (List.append_assoc _ _ _).symm,
          follows _ txBuff ⟨[], port.lastCharacterTime⟩ arrived⟩
      · rw [if_neg late] at event
        rw [event, if_neg (by rw [decide_eq_false late]; decide)]
        exact ⟨_, _, _, rfl, (List.append_nil _).symm, arrived, rfl, slave, none,
          ProtocolRtuSlave.settle_standsFor stands, stands, List.append_nil _⟩

/-! ## Any number of calls -/

theorem trace_run (depends : crc16.DependsOnPrefix) (holdingSmall : h ≤ 65536)
    (inputSmall : i ≤ 65536) {turns : List Turn} (follows : device.Follows crc16 port station due)
    (space : Permitted Port.next Port.HasSpace port turns)
    (serviceable : Permitted (nextState (Station.hear crc16))
      (fun station => ProtocolRtuSlave.Serviceable crc16 station.slaveAddress h i station.progress)
      station (port.heard turns)) :
    Exists fun final => Exists fun sent => Exists fun later =>
      trace (run crc16) device turns = .ok (final, sent) ∧
      sent.flatten ++ later = due ++ station.replies crc16 (port.heard turns) ∧
      final.Follows crc16 (turns.foldl Port.next port)
        (behaviour (Station.hear crc16) station (port.heard turns)).1 later := by
  induction turns generalizing device port station due with
  | nil => exact ⟨device, [], due, rfl, (List.append_nil due).symm, follows⟩
  | cons turn rest inductionHypothesis =>
      rw [Port.heard, permitted_append, ← behaviour_state] at serviceable
      have first : forall event, port.event turn = some event ->
          ProtocolRtuSlave.Serviceable crc16 station.slaveAddress h i station.progress event := by
        intro event found
        rw [found] at serviceable
        exact serviceable.1.1
      rcases run_follows depends holdingSmall inputSmall follows space.1 first with
        ⟨next, sent, later, stepped, accounted, kept⟩
      rcases inductionHypothesis kept space.2 serviceable.2 with
        ⟨final, others, left, completes, balanced, finished⟩
      refine ⟨final, sent :: others, left, ?_, ?_, ?_⟩
      · rw [trace_cons, stepped, ok_bind, completes, ok_bind]
      · rw [List.flatten_cons, List.append_assoc, balanced, ← List.append_assoc, accounted,
          List.append_assoc, Port.heard, Station.replies_append]
      · rw [Port.heard, behaviour_append]
        exact finished

end LinuxSlave

/-- However bytes arrive and time passes, the calls of `Run` hear every byte once and
in order, and what they send, or have still to send, is what the station answers
to the events heard. -/
theorem run_refines_station [RingBuffer B] [TypeConversion] {crc16 : Crc16}
    (depends : crc16.DependsOnPrefix) (holdingSmall : h ≤ 65536) (inputSmall : i ≤ 65536)
    (slave : ProtocolRtuSlave.Stores h i) {rxBuff txBuff : B}
    (nothingReceived : RingBuffer.contents rxBuff = [])
    (nothingToSend : RingBuffer.contents txBuff = []) (start : Timeval) (turns : List Turn)
    (space : Permitted Port.next Port.HasSpace ⟨[], start⟩ turns)
    (serviceable : Permitted Progress.hear
      (ProtocolRtuSlave.Serviceable crc16 slave.slaveAddress h i) .idle
      (Port.heard ⟨[], start⟩ turns)) :
    letI events := Port.heard ⟨[], start⟩ turns
    Exists fun final => Exists fun sent => Exists fun settled => Exists fun reply =>
      trace (LinuxSlave.run crc16) ⟨slave.reset, rxBuff, txBuff, start⟩ turns = .ok (final, sent) ∧
      events.filterMap LineEvent.byte ++ RingBuffer.contents final.rxBuff =
        turns.flatMap Turn.arrived ∧
      final.slave.settle crc16 = .ok (settled, reply) ∧
      settled.StandsFor (behaviour (Station.hear crc16) (slave.station .idle) events).1 ∧
      sent.flatten ++ (RingBuffer.contents final.txBuff ++ reply.getD []) =
        (slave.station .idle).replies crc16 events := by
  have stands := ProtocolRtuSlave.reset_standsFor slave
  have follows : LinuxSlave.Follows crc16 ⟨slave.reset, rxBuff, txBuff, start⟩ ⟨[], start⟩
      (slave.station .idle) [] :=
    ⟨nothingReceived, rfl, slave.reset, none, ProtocolRtuSlave.settle_standsFor stands, stands,
      by rw [nothingToSend]; rfl⟩
  rcases LinuxSlave.trace_run depends holdingSmall inputSmall follows space
    ((Station.permitted_hear (fun address => ProtocolRtuSlave.Serviceable crc16 address h i)
      (slave.station .idle) _).mpr serviceable) with
    ⟨final, sent, later, completes, accounted, waiting, _, settled, reply, attended, kept, rfl⟩
  refine ⟨final, sent, settled, reply, completes, ?_, attended, kept, accounted⟩
  rw [waiting]
  exact Port.heard_bytes ⟨[], start⟩ turns

/-- A request arrives at once, a byte of it is taken in every call, and 40 ms after
the last one the slave is reset. -/
theorem run_refines_station_written :
    letI := TypeConversion.shifting
    letI := RingBuffer.queue
    letI turns : List Turn := ⟨[1, 6, 0, 1, 0, 7, 0x99, 0xC8], ⟨5, 0⟩⟩ ::
      (List.replicate 9 ⟨[], ⟨5, 900⟩⟩ ++ [⟨[], ⟨5, 40900⟩⟩])
    Exists fun final => Exists fun sent => Exists fun unsent =>
      trace (LinuxSlave.run .modbus) ⟨(zeroSlave 2 3).reset, ([] : List UInt8), [], ⟨5, 0⟩⟩ turns =
        .ok (final, sent) ∧
      sent.flatten ++ unsent = [1, 6, 0, 1, 0, 7, 0x99, 0xC8] := by
  let conversion := TypeConversion.shifting
  let queue := RingBuffer.queue
  let turns : List Turn := ⟨[1, 6, 0, 1, 0, 7, 0x99, 0xC8], ⟨5, 0⟩⟩ ::
    (List.replicate 9 ⟨[], ⟨5, 900⟩⟩ ++ [⟨[], ⟨5, 40900⟩⟩])
  have empty : RingBuffer.contents ([] : List UInt8) = [] := rfl
  rcases run_refines_station Crc16.modbus_dependsOnPrefix (by decide) (by decide)
    (zeroSlave 2 3) empty empty ⟨5, 0⟩ turns (by decide +kernel) (by decide +kernel) with
    ⟨final, sent, _, _, completes, _, _, _, accounted⟩
  refine ⟨final, sent, _, completes, accounted.trans ?_⟩
  decide +kernel

end Modbus
