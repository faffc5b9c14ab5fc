import ModbusBasic.Slave.Session

namespace Modbus

open Memory TypeConversion Transition

/-!
# The receive buffer

A slave is driven by three kinds of turns: a byte while no packet is complete,
`ProcessMessage` once one is, and a reset at any time.  The reader takes the
number of bytes still to come from the fifth byte of a multiple write, and
nothing compares it with the size of the buffer.  `AnnouncesWithin` is the
comparison that is missing; in every run whose bytes meet it the buffer is never
overrun, and a single byte that does not meet it lets the frame outgrow it.
-/

variable {H I : Type}

namespace ProtocolRtuSlave

section Turns

variable [TypeConversion] [RegisterCallbacks H] [RegisterData I]

/-- One turn of the owner of a slave; `Admits` restricts the bytes received. -/
inductive Turn (crc16 : Crc16) (Admits : ProtocolRtuSlave H I -> UInt8 -> Prop) :
    ProtocolRtuSlave H I -> ProtocolRtuSlave H I -> Prop
  | character {slave next : ProtocolRtuSlave H I} {pt : UInt8}
      (incomplete : slave.getContext.packetReceived = false) (admitted : Admits slave pt)
      (fed : slave.processCharacter pt = .ok next) : Turn crc16 Admits slave next
  | message {slave next : ProtocolRtuSlave H I} (received : slave.getContext.packetReceived = true)
      (processed : slave.processMessage crc16 = .ok next) : Turn crc16 Admits slave next
  | reset (slave : ProtocolRtuSlave H I) : Turn crc16 Admits slave slave.reset

/-- The byte does not announce more data bytes of a multiple write than fit the
buffer behind the five bytes in front of them and before the checksum. -/
def AnnouncesWithin (slave : ProtocolRtuSlave H I) (pt : UInt8) : Prop :=
  slave.slave.context.state = .kMeta -> slave.slave.context.bytesToRead = 1 ->
    slave.slave.framein.function = .kWriteMultipleHoldingRegisters -> pt.toNat ≤ 249

/-! ## Processing leaves the reader alone -/

omit [RegisterCallbacks H] [RegisterData I] in
theorem publish_reader {n : Nat} {crc16 : Crc16} {frame : Frame n} (slave : ProtocolRtuSlave H I)
    (handled : Int × HoldingRegisterController H × Response) :
    Ensures (slave.publish crc16 frame handled) fun result => result.2.reader = slave.reader := by
  unfold publish
  dsimp only
  split
  · exact .bind fun _ _ => .ok rfl
  · exact .ok rfl

theorem runCommand_reader {n : Nat} {crc16 : Crc16} {frame : Frame n}
    {slave : ProtocolRtuSlave H I} {result : Int × ProtocolRtuSlave H I}
    (completes : slave.runCommand crc16 frame = .ok result) :
    result.2.reader = slave.reader := by
  rw [runCommand_eq] at completes
  rcases bind_eq_ok.mp completes with ⟨handled, _, published⟩
  exact slave.publish_reader handled result published

theorem processMessage_reader {crc16 : Crc16} {slave result : ProtocolRtuSlave H I}
    (completes : slave.processMessage crc16 = .ok result) : result.reader = slave.reader := by
  unfold processMessage at completes
  rcases bind_eq_ok.mp completes with ⟨exception, _, addressed⟩
  split at addressed
  · rcases bind_eq_ok.mp addressed with ⟨valid, _, checked⟩
    split at checked
    · split at checked
      · rcases bind_eq_ok.mp checked with ⟨handled, ran, same⟩
        cases same
        exact runCommand_reader ran
      · rcases bind_eq_ok.mp checked with ⟨base, sent, same⟩
        cases same
        rcases bind_eq_ok.mp sent with ⟨response, _, published⟩
        cases published
        rfl
    · cases checked
      rfl
  · cases addressed
    rfl

end Turns

/-! ## The invariant -/

/-- As soon as the length of the frame can be told, it fits the buffer. -/
def FitsBuffer : Progress -> Prop
  | .receiving _ function body =>
      metaLength function ≤ body.length -> expectedLength function body ≤ 256
  | _ => True

/-- The slave reads as the abstract receiver does, and what it expects fits. -/
def WithinBuffer (slave : ProtocolRtuSlave H I) : Prop :=
  Exists fun progress => Represents progress slave.reader ∧ FitsBuffer progress

variable {slave : ProtocolRtuSlave H I} {progress : Progress} {pt : UInt8}

/-- There is room for the next byte. -/
private theorem hasRoom_of_fits (represents : Represents progress slave.reader)
    (fits : FitsBuffer progress) (incomplete : slave.getContext.packetReceived = false) :
    HasRoom 256 progress pt := by
  cases progress with
  | idle => exact True.intro
  | addressed address => exact True.intro
  | receiving address function body =>
      cases represents.2 with
      | inMeta state short remaining =>
          have small := metaLength_le function
          change body.length < 256
          omega
      | inData state told short remaining => exact Nat.lt_of_lt_of_le short (fits told)
  | complete address function body =>
      have received : slave.getContext.packetReceived = true := represents.packetReceived
      rw [incomplete] at received
      cases received

/-- An admitted byte keeps what is expected within the buffer. -/
private theorem fits_advance (represents : Represents progress slave.reader)
    (fits : FitsBuffer progress) (announced : slave.AnnouncesWithin pt) :
    FitsBuffer (progress.advance pt) := by
  cases progress with
  | idle => exact True.intro
  | complete address function body => exact True.intro
  | addressed address =>
      rw [Progress.advance]
      split
      · intro told
        exact absurd told (Nat.not_le_of_lt (metaLength_pos _))
      · exact True.intro
  | receiving address function body =>
      rw [Progress.advance]
      split
      · exact True.intro
      intro told
      have longer : (body ++ [pt]).length = body.length + 1 := by simp
      rcases represents with ⟨holds, counts⟩
      cases counts with
      | inData state earlier short remaining =>
          rw [expectedLength_append function earlier]
          exact fits earlier
      | inMeta state short remaining =>
          rcases function_cases function with rfl | rfl | rfl | rfl | other
          · exact (by decide : 6 ≤ 256)
          · exact (by decide : 6 ≤ 256)
          · exact (by decide : 6 ≤ 256)
          · -- The fifth byte of the body is the one just received.
            have four : body.length = 4 := by
              change body.length < 5 at short
              change 5 ≤ (body ++ [pt]).length at told
              omega
            have last : (body ++ [pt]).getD 4 0 = pt := by
              rw [← four, List.getD_eq_getElem?_getD, List.getElem?_concat_length,
                Option.getD_some]
            have one : slave.slave.context.bytesToRead = 1 := by
              rw [four] at remaining
              exact remaining
            have bound : pt.toNat ≤ 249 := announced state one holds.function_eq
            change 7 + ((body ++ [pt]).getD 4 0).toNat ≤ 256
            rw [last]
            omega
          · rw [expectedLength_other other]
            decide

theorem withinBuffer_character (within : slave.WithinBuffer)
    (incomplete : slave.getContext.packetReceived = false) (announced : slave.AnnouncesWithin pt) :
    Exists fun next => slave.processCharacter pt = .ok next ∧ next.WithinBuffer := by
  rcases within with ⟨progress, represents, fits⟩
  have room : HasRoom 256 progress pt := hasRoom_of_fits represents fits incomplete
  rcases processCharacter_represents represents room with ⟨reader, fed, kept⟩
  exact ⟨slave.withReader reader, fed, progress.advance pt, kept,
    fits_advance represents fits announced⟩

theorem withinBuffer_dataLength (within : slave.WithinBuffer) :
    slave.slave.framein.dataLength ≤ 256 := by
  rcases within with ⟨progress, represents, _⟩
  cases progress with
  | idle => exact Nat.le_trans (Nat.le_of_eq represents.2) (Nat.zero_le 256)
  | addressed address => exact Nat.le_trans (Nat.le_of_eq represents.2.2) (Nat.zero_le 256)
  | receiving address function body =>
      exact Nat.le_trans (Nat.le_of_eq represents.1.dataLength_eq) represents.1.length_le
  | complete address function body =>
      exact Nat.le_trans (Nat.le_of_eq represents.1.dataLength_eq) represents.1.length_le

variable [TypeConversion] [RegisterCallbacks H] [RegisterData I]

theorem withinBuffer_turn {crc16 : Crc16} {next : ProtocolRtuSlave H I}
    (within : slave.WithinBuffer) (turn : Turn crc16 AnnouncesWithin slave next) :
    next.WithinBuffer := by
  cases turn with
  | character incomplete announced fed =>
      rcases withinBuffer_character within incomplete announced with ⟨other, completes, kept⟩
      rw [fed] at completes
      cases completes
      exact kept
  | message received processed =>
      rcases within with ⟨progress, represents, fits⟩
      refine ⟨progress, ?_, fits⟩
      rw [processMessage_reader processed]
      exact represents
  | reset => exact ⟨.idle, slave.reset_waiting, True.intro⟩

/-- Bytes for which there is room are turns, one by one. -/
theorem turns_represent (crc16 : Crc16) {bytes : List UInt8}
    (represents : Represents progress slave.reader)
    (room : Permitted Progress.advance (HasRoom 256) progress bytes) :
    Exists fun reached =>
      Relation.ReflTransGen (Turn crc16 fun _ _ => True) slave reached ∧
        Represents (bytes.foldl Progress.advance progress) reached.reader := by
  induction bytes generalizing slave progress with
  | nil => exact ⟨slave, .refl, represents⟩
  | cons byte rest inductionHypothesis =>
      have incomplete : slave.getContext.packetReceived = false := by
        have received : slave.getContext.packetReceived = progress.isComplete :=
          represents.packetReceived
        rw [received]
        cases progress with
        | complete address function body => exact False.elim room.1
        | _ => rfl
      rcases processCharacter_represents represents room.1 with ⟨reader, fed, kept⟩
      have next : Represents (progress.advance byte) (slave.withReader reader).reader := kept
      rcases inductionHypothesis next room.2 with ⟨reached, turns, last⟩
      exact ⟨reached, turns.head (.character incomplete True.intro fed), last⟩

/-- A header that announces at least 250 data bytes, and 251 of them: the frame
fills the buffer and is not complete, so the next byte is stored behind it. -/
theorem turns_overrun (crc16 : Crc16) (waiting : slave.Waiting) (address : UInt8)
    {fields more : List UInt8} {count : UInt8} (four : fields.length = 4)
    (announced : 250 ≤ count.toNat) (size : more.length = 251) :
    Exists fun reached =>
      Relation.ReflTransGen (Turn crc16 fun _ _ => True) slave reached ∧
        reached.getContext.packetReceived = false ∧
        forall pt, reached.processCharacter pt = .error ⟨256, 256⟩ := by
  let function : Function := .kWriteMultipleHoldingRegisters
  let body := fields ++ count :: more
  have bodyLength : body.length = 256 := by
    simp only [body, List.length_append, List.length_cons, four, size]
  -- Every front of the body is shorter than the length it tells.
  have short : forall front rest, body = front ++ rest ->
      front.length < expectedLength function front := by
    intro front rest split
    have total : front.length + rest.length = 256 := by
      rw [← List.length_append, ← split, bodyLength]
    by_cases told : 5 ≤ front.length
    · have counted : front.getD 4 0 = count := by
        rw [← List.getD_append front rest 0 4 told, ← split]
        simp only [body, List.getD_eq_getElem?_getD]
        rw [List.getElem?_append_right (Nat.le_of_eq four), four]
        rfl
      change front.length < 7 + (front.getD 4 0).toNat
      rw [counted]
      omega
    · have := metaLength_lt_expectedLength function front
      change 5 < _ at this
      omega
  have room : Permitted Progress.advance (HasRoom 256) .idle (address :: 16 :: body) :=
    ⟨True.intro, True.intro, permitted_receiving address function [] body
      (Nat.le_of_eq bodyLength) fun front rest split _ _ => Nat.ne_of_lt (short front rest split)⟩
  have collected : (address :: 16 :: body).foldl Progress.advance .idle =
      .receiving address function body :=
    Progress.foldl_receiving address function [] body fun front rest split _ =>
      Nat.ne_of_lt (short front rest split)
  rcases turns_represent crc16 waiting room with ⟨reached, turns, represents⟩
  rw [collected] at represents
  refine ⟨reached, turns, represents.packetReceived, fun pt => ?_⟩
  have full : reached.slave.framein.dataLength = 256 :=
    represents.1.dataLength_eq.trans bodyLength
  have state : reached.slave.context.state = .kData := by
    cases represents.2 with
    | inData state told short remaining => exact state
    | inMeta state short remaining =>
        rw [bodyLength] at short
        exact absurd (metaLength_le function) (by omega)
  have outside : reached.slave.framein.append pt = .error ⟨256, 256⟩ := by
    rw [Frame.append, full, store_outside _ _ (Nat.le_refl 256), error_bind]
  have faults : readStep reached.reader pt = .error ⟨256, 256⟩ := by
    change reached.slave.context.processCharacter reached.slave.framein pt = _
    rw [ReadContext.processCharacter, state]
    exact congrArg (· >>= _) outside
  rw [processCharacter_eq, faults, error_bind]

end ProtocolRtuSlave

end Modbus
