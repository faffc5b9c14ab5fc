import ModbusBasic.Reader.Decoding
import ModbusBasic.Slave.Processing

namespace Modbus

open Memory TypeConversion Transition

/-!
# The loop around the slave

`LinuxSlave::Run` hands each received byte to `ProcessCharacter`.  Once a packet
is received it calls `ProcessMessage`, writes the response to the line if it is
valid, and resets the slave; a timeout resets it as well.  `serve` is one turn
of that loop, and what it returns besides the slave is what was written.

Feeding bytes touches only the reader of a slave, so everything known about the
reader alone carries over (`run_processCharacter`).
-/

/-- What happens on the line. -/
inductive LineEvent
  | character (pt : UInt8)
  | timeout
deriving DecidableEq

namespace ProtocolRtuSlave

variable {H I : Type}

/-- The bytes written to the line: `GetLength()` bytes of a valid response. -/
def published (slave : ProtocolRtuSlave H I) : Option (List UInt8) :=
  if slave.getResponseValid then
    some (slave.getResponse.data.toList.take slave.getResponse.getLength)
  else none

def receive (slave : ProtocolRtuSlave H I) : LineEvent -> Checked (ProtocolRtuSlave H I)
  | .character pt => slave.processCharacter pt
  | .timeout => .ok slave.reset

def processPacket [TypeConversion] [RegisterCallbacks H] [RegisterData I] (crc16 : Crc16)
    (slave : ProtocolRtuSlave H I) : Checked (ProtocolRtuSlave H I × Option (List UInt8)) := do
  let slave <- slave.processMessage crc16
  return (slave.reset, slave.published)

def serve [TypeConversion] [RegisterCallbacks H] [RegisterData I] (crc16 : Crc16)
    (slave : ProtocolRtuSlave H I) (event : LineEvent) :
    Checked (ProtocolRtuSlave H I × Option (List UInt8)) := do
  let slave <- slave.receive event
  if slave.getContext.packetReceived then slave.processPacket crc16
  else return (slave, none)

/-! ## The reader of a slave -/

def reader (slave : ProtocolRtuSlave H I) : ReadContext × Frame 256 :=
  (slave.slave.context, slave.slave.framein)

def withReader (slave : ProtocolRtuSlave H I) (reader : ReadContext × Frame 256) :
    ProtocolRtuSlave H I :=
  { slave with slave := { slave.slave with context := reader.1, framein := reader.2 } }

/-- Waiting for the first byte of a frame. -/
def Waiting (slave : ProtocolRtuSlave H I) : Prop := Represents .idle slave.reader

theorem reset_slaveAddress (slave : ProtocolRtuSlave H I) :
    slave.reset.slaveAddress = slave.slaveAddress :=
  rfl

theorem reset_waiting (slave : ProtocolRtuSlave H I) : slave.reset.Waiting :=
  ⟨rfl, rfl⟩

theorem processCharacter_eq (slave : ProtocolRtuSlave H I) (pt : UInt8) :
    slave.processCharacter pt =
      readStep slave.reader pt >>= fun reader => .ok (slave.withReader reader) := by
  change _ = slave.slave.context.processCharacter slave.slave.framein pt >>= _
  unfold processCharacter SlaveProtocolBase.processCharacter
  cases slave.slave.context.processCharacter slave.slave.framein pt with
  | error fault => rfl
  | ok reader => rfl

/-- Feeding bytes is feeding them to the reader. -/
theorem run_processCharacter (slave : ProtocolRtuSlave H I) (bytes : List UInt8) :
    run processCharacter slave bytes =
      run readStep slave.reader bytes >>= fun reader => .ok (slave.withReader reader) := by
  induction bytes generalizing slave with
  | nil => rfl
  | cons byte rest inductionHypothesis =>
      rw [run_cons, run_cons, processCharacter_eq]
      cases readStep slave.reader byte with
      | error fault => rfl
      | ok reader => exact inductionHypothesis (slave.withReader reader)

/-- A byte for which there is room is read as the abstract receiver reads it. -/
theorem processCharacter_represents {slave : ProtocolRtuSlave H I} {progress : Progress}
    {pt : UInt8} (represents : Represents progress slave.reader)
    (room : HasRoom 256 progress pt) :
    Exists fun reader => slave.processCharacter pt = .ok (slave.withReader reader) ∧
      Represents (progress.advance pt) reader := by
  rcases step_simulates represents room with ⟨reader, stepped, kept⟩
  have read : readStep slave.reader pt = .ok reader := stepped
  refine ⟨reader, ?_, kept⟩
  rw [processCharacter_eq, read, ok_bind]

/-- Bytes for which there is room are read as the abstract receiver reads them. -/
theorem run_represents {slave : ProtocolRtuSlave H I} {progress : Progress} {bytes : List UInt8}
    (represents : Represents progress slave.reader)
    (room : Permitted Progress.advance (HasRoom 256) progress bytes) :
    Exists fun reader => run processCharacter slave bytes = .ok (slave.withReader reader) ∧
      Represents (bytes.foldl Progress.advance progress) reader := by
  rcases read_simulates represents room with ⟨reader, completes, kept⟩
  refine ⟨reader, ?_, kept⟩
  rw [run_processCharacter, completes, ok_bind]

/-! ## Turns of the loop -/

section Turns

variable [TypeConversion] [RegisterCallbacks H] [RegisterData I] {crc16 : Crc16}
  {slave received : ProtocolRtuSlave H I} {pt : UInt8}

theorem serve_incomplete (fed : slave.processCharacter pt = .ok received)
    (incomplete : received.getContext.packetReceived = false) :
    slave.serve crc16 (.character pt) = .ok (received, none) := by
  change (slave.processCharacter pt >>= _) = _
  rw [fed, ok_bind, incomplete]
  rfl

theorem serve_complete {processed : ProtocolRtuSlave H I}
    (fed : slave.processCharacter pt = .ok received)
    (complete : received.getContext.packetReceived = true)
    (completes : received.processMessage crc16 = .ok processed) :
    slave.serve crc16 (.character pt) = .ok (processed.reset, processed.published) := by
  change (slave.processCharacter pt >>= _) = _
  rw [fed, ok_bind, complete]
  change (received.processMessage crc16 >>= _) = _
  rw [completes, ok_bind]
  rfl

variable (crc16) in
/-- Bytes that complete no frame are read and nothing is written. -/
theorem trace_incomplete {progress : Progress} {bytes : List UInt8}
    (represents : Represents progress slave.reader)
    (room : Permitted Progress.advance (HasRoom 256) progress bytes)
    (incomplete : (bytes.foldl Progress.advance progress).isComplete = false) :
    Exists fun reader =>
      trace (serve crc16) slave (bytes.map .character) =
        .ok (slave.withReader reader, List.replicate bytes.length none) ∧
      Represents (bytes.foldl Progress.advance progress) reader := by
  induction bytes generalizing slave progress with
  | nil => exact ⟨slave.reader, rfl, represents⟩
  | cons byte rest inductionHypothesis =>
      rcases processCharacter_represents represents room.1 with ⟨reader, fed, kept⟩
      have unfinished : (progress.advance byte).isComplete = false := by
        cases rest with
        | nil => exact incomplete
        | cons next others =>
            -- A complete frame would leave no room for the byte that follows.
            cases finished : progress.advance byte with
            | complete address function body =>
                have blocked := room.2.1
                rw [finished] at blocked
                exact False.elim blocked
            | _ => rfl
      have notReceived : (slave.withReader reader).getContext.packetReceived = false :=
        kept.packetReceived.trans unfinished
      have next : Represents (progress.advance byte) (slave.withReader reader).reader := kept
      rcases inductionHypothesis next room.2 incomplete with ⟨last, completes, final⟩
      refine ⟨last, ?_, final⟩
      rw [List.map_cons, trace_cons, serve_incomplete fed notReceived, ok_bind, completes, ok_bind]
      rfl

variable (crc16) in
/-- A frame served byte by byte: nothing is written before its last byte, and then
what the slave publishes after processing it. -/
theorem trace_frame (waiting : slave.Waiting) (address : UInt8) {code : UInt8}
    (listed : functionCodeIsValid code = true) {body : List UInt8}
    (whole : body.length = expectedLength ⟨code⟩ body) (fits : body.length ≤ 256) :
    Exists fun reader => Holds reader.2 address ⟨code⟩ body ∧
      forall processed, (slave.withReader reader).processMessage crc16 = .ok processed ->
        trace (serve crc16) slave ((address :: code :: body).map .character) =
          .ok (processed.reset, List.replicate (body.length + 1) none ++ [processed.published]) := by
  rcases List.eq_nil_or_concat body with rfl | ⟨front, last, rfl⟩
  · exact absurd whole (Nat.ne_of_lt (Nat.zero_lt_of_lt (metaLength_lt_expectedLength ⟨code⟩ [])))
  rw [List.concat_eq_append] at whole fits ⊢
  have room : Permitted Progress.advance (HasRoom 256) .idle ((address :: code :: front) ++ [last]) :=
    permitted_frame address listed whole fits
  have started := Progress.foldl_frame_front address listed (List.cons_ne_nil last []) whole
  have finished : ((address :: code :: front) ++ [last]).foldl Progress.advance .idle = _ :=
    Progress.foldl_frame address listed whole
  rw [List.foldl_append, started, List.foldl_cons, List.foldl_nil] at finished
  rcases trace_incomplete crc16 waiting (permitted_front room) (by rw [started]; rfl)
    with ⟨reader, read, represents⟩
  have lastRoom := ((permitted_append _ _ _ _ _).mp room).2.1
  rw [started] at represents lastRoom
  have inReader : Represents (.receiving address ⟨code⟩ front) (slave.withReader reader).reader :=
    represents
  rcases processCharacter_represents inReader lastRoom with ⟨after, fed, completed⟩
  rw [finished] at completed
  refine ⟨after, completed.1, fun processed completes => ?_⟩
  have served := serve_complete fed completed.packetReceived completes
  change trace _ _ (((address :: code :: front) ++ [last]).map LineEvent.character) = _
  rw [List.map_append, trace_append, read, ok_bind, List.map_singleton, trace_cons, served,
    ok_bind, trace_nil, ok_bind, ok_bind, List.length_append]
  rfl

end Turns

end ProtocolRtuSlave

/-! ## Frames of at most 256 bytes -/

/-- No frame among the bytes is longer than 256 bytes, address, function and
checksum included, and no byte follows a complete frame. -/
def WithinFrames (bytes : List UInt8) : Prop :=
  Permitted Progress.advance (HasRoom 254) .idle bytes

theorem hasRoom_le {n m : Nat} (le : n ≤ m) (progress : Progress) (byte : UInt8)
    (room : HasRoom n progress byte) : HasRoom m progress byte := by
  cases progress with
  | idle => exact True.intro
  | addressed address => exact True.intro
  | receiving address function body => exact Nat.lt_of_lt_of_le room le
  | complete address function body => exact room

/-- A frame completed by such bytes is in the receive buffer of the slave. -/
theorem ProtocolRtuSlave.run_complete {H I : Type} {slave : ProtocolRtuSlave H I}
    (waiting : slave.Waiting) {bytes : List UInt8} (within : WithinFrames bytes) {address : UInt8}
    {function : Function} {body : List UInt8}
    (received : bytes.foldl Progress.advance .idle = .complete address function body) :
    Exists fun reader => run processCharacter slave bytes = .ok (slave.withReader reader) ∧
      Holds reader.2 address function body ∧ body.length = expectedLength function body ∧
      body.length ≤ 254 ∧ functionCodeIsValid function.code = true := by
  have room := within.imp (hasRoom_le (by decide : 254 ≤ 256))
  have short := within.invariant (fun progress => progress.body.length ≤ 254)
    (fun _ _ => body_length_advance) (Nat.zero_le 254)
  have start : Progress.idle.Sound := True.intro
  have sound := within.invariant Progress.Sound
    (fun _ byte sound _ => Progress.sound_advance sound byte) start
  rcases run_represents waiting room with ⟨reader, completes, represents⟩
  rw [received] at represents short sound
  exact ⟨reader, completes, represents.1, sound.2, short, sound.1⟩

end Modbus
