import ModbusBasic.Reader.Simulation
import ModbusBasic.Slave.ProtocolRtuSlave

namespace Modbus

open Memory Transition

/-!
# The reader and its frame

The countdown is kept in the context, the bytes in the frame.  Three paths lead
back to waiting for an address: an invalid function byte, a reset by the owner,
and a byte after a complete packet.  The last one starts the context over and
leaves the length of the frame as it is, so the next frame is stored behind the
old one.  Where it is never taken the two stay in step.
-/

/-- What reaches the reader: a byte, or its owner resets it. -/
inductive ReaderEvent
  | character (pt : UInt8)
  | resetRead
deriving DecidableEq

/-- A slave, and the bytes it has consumed since it last waited for an address. -/
structure Reading where
  slave : SlaveProtocolBase
  raw : List UInt8
deriving DecidableEq

namespace Reading

/-- A slave just reset. -/
def start (slave : SlaveProtocolBase) : Reading := ⟨slave.resetRead, []⟩

def hear (reading : Reading) : ReaderEvent -> Checked Reading
  | .character pt => do
      let next <- reading.slave.processCharacter pt
      return ⟨next, if next.context.state = .kAddress then [] else reading.raw ++ [pt]⟩
  | .resetRead => .ok (start reading.slave)

def reader (reading : Reading) : ReadContext × Frame 256 :=
  (reading.slave.context, reading.slave.framein)

/-- The frame holds the bytes consumed since the function byte, and only these. -/
def InStep (reading : Reading) : Prop :=
  if reading.slave.context.state = .kAddress ∨ reading.slave.context.state = .kFunction then
    reading.slave.framein.dataLength = 0
  else
    reading.slave.framein.dataLength = (reading.raw.drop 2).length ∧
      reading.slave.framein.dataArray.toList.take (reading.raw.drop 2).length = reading.raw.drop 2

instance (reading : Reading) : Decidable reading.InStep :=
  inferInstanceAs (Decidable (ite _ _ _))

/-- A complete frame is the one any slave reads that is reset in front of it. -/
def DecodedAsFresh (reading : Reading) : Prop :=
  reading.slave.context.packetReceived = true ->
    forall other : SlaveProtocolBase, Exists fun fresh : SlaveProtocolBase =>
      run SlaveProtocolBase.processCharacter other.resetRead reading.raw = .ok fresh ∧
      fresh.context.packetReceived = true ∧
      Exists fun address => Exists fun function => Exists fun body =>
        Holds reading.slave.framein address function body ∧
          Holds fresh.framein address function body

/-- No more bytes than a frame may have. -/
def WithinFrame (reading : Reading) : Prop := reading.raw.length ≤ 256

instance (reading : Reading) : Decidable reading.WithinFrame :=
  inferInstanceAs (Decidable (reading.raw.length ≤ 256))

/-- A complete packet is taken from the reader before the next byte. -/
def TakenBefore (reading : Reading) : ReaderEvent -> Prop
  | .character _ => reading.slave.context.packetReceived = false
  | .resetRead => True

instance (reading : Reading) : (event : ReaderEvent) -> Decidable (reading.TakenBefore event)
  | .character _ => inferInstanceAs (Decidable (_ = _))
  | .resetRead => isTrue True.intro

end Reading

/-! ## The steps that stay in step -/

theorem SlaveProtocolBase.processCharacter_represents {progress : Progress}
    {slave : SlaveProtocolBase} {pt : UInt8}
    (represents : Represents progress (slave.context, slave.framein))
    (room : HasRoom 256 progress pt) :
    Exists fun next => slave.processCharacter pt = .ok next ∧
      Represents (progress.advance pt) (next.context, next.framein) := by
  rcases step_simulates represents room with ⟨next, fed, kept⟩
  refine ⟨{ slave with context := next.1, framein := next.2 }, ?_, kept⟩
  rw [processCharacter, fed, ok_bind]
  rfl

namespace Reading

/-- The reader is where the abstract receiver is, and both consumed the same bytes. -/
def Follows (progress : Progress) (reading : Reading) : Prop :=
  Represents progress reading.reader ∧ reading.raw = progress.rawBytes ∧ progress.Sound

theorem follows_start (slave : SlaveProtocolBase) : Follows .idle (start slave) :=
  ⟨⟨rfl, rfl⟩, rfl, True.intro⟩

variable {progress : Progress} {reading : Reading}

/-- Consumed bytes are forgotten exactly when the receiver waits for an address. -/
private theorem rawBytes_advance (represents : Represents progress reading.reader)
    (incomplete : reading.slave.context.packetReceived = false) {pt : UInt8}
    {next : SlaveProtocolBase}
    (kept : Represents (progress.advance pt) (next.context, next.framein)) :
    (if next.context.state = .kAddress then [] else progress.rawBytes ++ [pt]) =
      (progress.advance pt).rawBytes := by
  cases progress with
  | idle =>
      have state : next.context.state = .kFunction := kept.1
      rw [state]
      rfl
  | addressed address =>
      by_cases valid : functionCodeIsValid pt = true
      · rw [Progress.advance, if_pos valid] at kept ⊢
        cases kept.2 with
        | inMeta state => rw [state]; rfl
        | inData state => rw [state]; rfl
      · rw [Progress.advance, if_neg valid] at kept ⊢
        rw [if_pos kept.1]
        rfl
  | receiving address function body =>
      by_cases whole : (body ++ [pt]).length = expectedLength function (body ++ [pt])
      · rw [Progress.advance, if_pos whole] at kept ⊢
        rw [kept.2.1]
        rfl
      · rw [Progress.advance, if_neg whole] at kept ⊢
        cases kept.2 with
        | inMeta state => rw [state]; rfl
        | inData state => rw [state]; rfl
  | complete address function body =>
      have received : reading.slave.context.packetReceived = true := represents.packetReceived
      rw [incomplete] at received
      cases received

theorem hear_follows (follows : Follows progress reading) (fits : reading.WithinFrame)
    {event : ReaderEvent} (taken : reading.TakenBefore event) :
    Exists fun next => reading.hear event = .ok next ∧
      Exists fun after => Follows after next := by
  cases event with
  | resetRead => exact ⟨_, rfl, _, follows_start reading.slave⟩
  | character pt =>
      rcases follows with ⟨represents, consumed, sound⟩
      have room : HasRoom 256 progress pt := by
        cases progress with
        | idle => exact True.intro
        | addressed address => exact True.intro
        | receiving address function body =>
            rw [WithinFrame, consumed] at fits
            change body.length + 1 + 1 ≤ 256 at fits
            change body.length < 256
            omega
        | complete address function body =>
            have received : reading.slave.context.packetReceived = true :=
              represents.packetReceived
            rw [show reading.slave.context.packetReceived = false from taken] at received
            cases received
      rcases SlaveProtocolBase.processCharacter_represents represents room with ⟨next, fed, kept⟩
      let heard : Reading :=
        ⟨next, if next.context.state = .kAddress then [] else reading.raw ++ [pt]⟩
      have raw : heard.raw = (progress.advance pt).rawBytes := by
        change (if next.context.state = .kAddress then [] else reading.raw ++ [pt]) = _
        rw [consumed]
        exact rawBytes_advance represents taken kept
      refine ⟨heard, ?_, progress.advance pt, kept, raw, Progress.sound_advance sound pt⟩
      rw [hear, fed, ok_bind, pure_eq_ok]

theorem Follows.inStep (follows : Follows progress reading) : reading.InStep := by
  rcases follows with ⟨represents, consumed, _⟩
  unfold InStep
  rw [consumed]
  cases progress with
  | idle =>
      rw [if_pos (Or.inl represents.1)]
      exact represents.2
  | addressed address =>
      rw [if_pos (Or.inr represents.1)]
      exact represents.2.2
  | receiving address function body =>
      rcases represents with ⟨holds, counts⟩
      rw [if_neg]
      · exact ⟨holds.dataLength_eq, holds.dataArray_eq⟩
      · cases counts with
        | inMeta state => rintro (other | other) <;> cases state.symm.trans other
        | inData state => rintro (other | other) <;> cases state.symm.trans other
  | complete address function body =>
      rcases represents with ⟨holds, state, _⟩
      rw [if_neg]
      · exact ⟨holds.dataLength_eq, holds.dataArray_eq⟩
      · rintro (other | other) <;> cases state.symm.trans other

theorem Follows.decodedAsFresh (follows : Follows progress reading) (fits : reading.WithinFrame) :
    reading.DecodedAsFresh := by
  rcases follows with ⟨represents, consumed, sound⟩
  intro received other
  have complete := represents.packetReceived
  rw [show reading.reader.1.packetReceived = true from received] at complete
  cases progress with
  | complete address function body =>
      rw [WithinFrame, consumed] at fits
      have room : body.length ≤ 256 :=
        Nat.le_trans (Nat.le_add_right body.length 2) fits
      have permitted := permitted_frame address sound.1 sound.2 room
      have idle : Represents .idle (other.resetRead.context, other.resetRead.framein) :=
        ⟨rfl, rfl⟩
      rcases run_simulates SlaveProtocolBase.processCharacter Progress.advance (HasRoom 256)
        (fun progress slave => Represents progress (slave.context, slave.framein))
        (fun _ _ _ represents room => SlaveProtocolBase.processCharacter_represents represents room)
        idle permitted with ⟨fresh, completes, decoded⟩
      rw [Progress.foldl_frame address sound.1 sound.2] at decoded
      refine ⟨fresh, ?_, decoded.packetReceived, address, function, body, represents.1, decoded.1⟩
      rw [consumed]
      exact completes
  | _ => cases complete

end Reading

/-! ## The step that does not -/

/-- A packet completes with a byte stored in the frame. -/
theorem ReadContext.processCharacter_received {n : Nat} {context : ReadContext} {frame : Frame n}
    {pt : UInt8} {next : ReadContext × Frame n}
    (fed : context.processCharacter frame pt = .ok next) (received : next.1.packetReceived = true) :
    next.2.dataLength = frame.dataLength + 1 := by
  have done : next.1.state = .kDone := beq_iff_eq.mp received
  unfold processCharacter at fed
  cases state : context.state with
  | kAddress =>
      simp only [state] at fed
      cases fed
      cases done
  | kFunction =>
      simp only [state] at fed
      split at fed
      · cases fed
        cases done
      · cases fed
        cases done
  | kMeta =>
      simp only [state] at fed
      rcases bind_eq_ok.mp fed with ⟨longer, appended, rest⟩
      have length := Frame.append_dataLength appended
      split at rest
      · rcases bind_eq_ok.mp rest with ⟨remaining, _, same⟩
        cases same
        exact length
      · cases rest
        exact length
  | kData =>
      simp only [state] at fed
      rcases bind_eq_ok.mp fed with ⟨longer, appended, rest⟩
      have length := Frame.append_dataLength appended
      split at rest
      · cases rest
        exact length
      · cases rest
        exact length
  | kDone =>
      simp only [state] at fed
      cases fed
      cases done

namespace Reading

variable {reading : Reading}

/-- A complete frame holds at least one byte. -/
def HoldsByte (reading : Reading) : Prop :=
  reading.slave.context.packetReceived = true -> reading.slave.framein.dataLength ≠ 0

theorem holdsByte_hear {event : ReaderEvent} {next : Reading}
    (heard : reading.hear event = .ok next) : next.HoldsByte := by
  intro received
  cases event with
  | resetRead =>
      cases heard
      cases received
  | character pt =>
      rcases bind_eq_ok.mp heard with ⟨slave, fed, same⟩
      cases same
      rcases bind_eq_ok.mp fed with ⟨reader, read, same⟩
      cases same
      have grown := ReadContext.processCharacter_received read received
      change reader.2.dataLength ≠ 0
      rw [grown]
      exact Nat.succ_ne_zero _

/-- A byte after a complete packet leaves the frame as long as it was. -/
theorem hear_after_packet (received : reading.slave.context.packetReceived = true) (pt : UInt8) :
    reading.hear (.character pt) =
      .ok ⟨{ reading.slave with context := reading.slave.context.reset }, []⟩ := by
  have done : reading.slave.context.state = .kDone := beq_iff_eq.mp received
  rw [hear, SlaveProtocolBase.processCharacter, ReadContext.processCharacter]
  simp only [done]
  rfl

/-- The reader and its frame stay in step, and every frame is decoded as by a
slave just reset, exactly in the runs in which no byte follows a complete packet
before the reader is reset. -/
theorem in_step_iff (slave : SlaveProtocolBase) (events : List ReaderEvent)
    (fits : Always hear WithinFrame (start slave) events) :
    ((Exists fun final => run hear (start slave) events = .ok final) ∧
      Always hear (fun reading => reading.InStep ∧ reading.DecodedAsFresh) (start slave) events) <->
      Admitted hear TakenBefore (start slave) events := by
  constructor
  · rintro ⟨_, always⟩ front event rest reached split completes
    cases event with
    | resetRead => exact True.intro
    | character pt =>
        apply Bool.eq_false_iff.mpr
        intro received
        have nonempty : reached.HoldsByte :=
          run_invariant hear HoldsByte (fun _ _ _ _ heard => holdsByte_hear heard)
            (fun absent => by cases absent) completes
        have heard := hear_after_packet received pt
        have after := always (front ++ [.character pt]) rest _ (by rw [← split]; simp)
          (by rw [run_concat, completes, ok_bind, heard])
        exact nonempty received after.1
  · intro taken
    have admitted := taken.and fits.admitted
    have along := admitted.always (fun reading => Exists fun progress => Follows progress reading)
      (fun _ _ follows allowed =>
        follows.elim fun _ follows => hear_follows follows allowed.2 allowed.1)
      ⟨.idle, follows_start slave⟩
    rcases admitted.completes (fun reading => Exists fun progress => Follows progress reading)
      (fun _ _ follows allowed =>
        follows.elim fun _ follows => hear_follows follows allowed.2 allowed.1)
      ⟨.idle, follows_start slave⟩ with ⟨final, completes, _⟩
    refine ⟨⟨final, completes⟩, fun front rest reached split completes => ?_⟩
    rcases along front rest reached split completes with ⟨progress, follows⟩
    exact ⟨follows.inStep, follows.decodedAsFresh (fits front rest reached split completes)⟩

/-- A read of one register, a reset, and the first byte of the next request. -/
theorem in_step_read :
    letI events : List ReaderEvent :=
      ([1, 3, 0, 0, 0, 1, 132, 10].map .character) ++ [.resetRead, .character 1]
    (Exists fun final => run hear (start {}) events = .ok final) ∧
      Always hear (fun reading => reading.InStep ∧ reading.DecodedAsFresh) (start {}) events :=
  (in_step_iff {} _ (by decide +kernel)).mpr (by decide +kernel)

/-- The same request and one byte more: the reader waits for an address again,
and its frame still has six bytes. -/
theorem out_of_step_after_packet :
    letI events : List ReaderEvent := [1, 3, 0, 0, 0, 1, 132, 10, 0].map .character
    Always hear WithinFrame (start {}) events ∧ ¬ Always hear InStep (start {}) events := by
  decide +kernel

end Reading

end Modbus
