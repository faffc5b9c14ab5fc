import Mathlib.Data.List.Induction
import ModbusBasic.Reader.Simulation
import ModbusBasic.Protocol.Framing

namespace Modbus

open Memory TypeConversion Transition

/-!
# Completed frames

What is known of a frame once its reader reports a packet.  A reader that
started fresh, and to which no byte was fed behind a complete frame, holds
exactly the last bytes of the stream: address, function byte and body.

The check of such a frame lays it out again in a scratch array of 256 bytes.
The array has room for the header and 254 bytes, while the longest multiple
write the reader completes has a body of 256.
-/

/-- The bytes a decoded frame stands for. -/
def Frame.received {n : Nat} (frame : Frame n) : List UInt8 :=
  frame.address :: frame.function.code :: frame.dataArray.toList.take frame.dataLength

theorem Frame.holds_received {n : Nat} {frame : Frame n} (fits : frame.dataLength ≤ n) :
    Holds frame frame.address frame.function (frame.dataArray.toList.take frame.dataLength) := by
  have size : (frame.dataArray.toList.take frame.dataLength).length = frame.dataLength := by
    rw [List.length_take, Vector.length_toList]
    exact Nat.min_eq_left fits
  exact ⟨rfl, rfl, size.symm, by rw [size]⟩

/-- A byte that was appended had room. -/
theorem Frame.append_room {n : Nat} {frame longer : Frame n} {byte : UInt8}
    (appended : frame.append byte = .ok longer) : frame.dataLength < n := by
  rcases Nat.lt_or_ge frame.dataLength n with room | full
  · exact room
  · rw [append, store_outside _ _ full, error_bind] at appended
    cases appended

theorem Holds.self {n : Nat} {frame : Frame n} {address : UInt8} {function : Function}
    {body : List UInt8} (holds : Holds frame address function body) :
    Holds frame frame.address frame.function body :=
  ⟨rfl, rfl, holds.dataLength_eq, holds.dataArray_eq⟩

theorem Holds.appended {n : Nat} {frame longer : Frame n} {address byte : UInt8}
    {function : Function} {body : List UInt8} (holds : Holds frame address function body)
    (appended : frame.append byte = .ok longer) :
    Holds longer address function (body ++ [byte]) := by
  rcases holds.append byte (holds.dataLength_eq ▸ Frame.append_room appended) with
    ⟨other, same, kept⟩
  cases appended.symm.trans same
  exact kept

/-! ## The stream a frame was read from -/

/-- The bytes kept are the last ones received. -/
theorem Progress.rawBytes_suffix {progress : Progress} {earlier : List UInt8}
    (suffix : progress.rawBytes <:+ earlier) (byte : UInt8) :
    (progress.advance byte).rawBytes <:+ earlier ++ [byte] := by
  rcases suffix with ⟨front, split⟩
  cases progress with
  | idle => exact ⟨earlier, rfl⟩
  | addressed address =>
      rw [advance]
      split
      · exact ⟨front, by rw [← split, List.append_assoc]; rfl⟩
      · exact List.nil_suffix
  | receiving address function body =>
      rw [advance]
      split
      · exact ⟨front, by rw [← split, List.append_assoc]; rfl⟩
      · exact ⟨front, by rw [← split, List.append_assoc]; rfl⟩
  | complete address function body => exact List.nil_suffix

variable {n : Nat} {start final : ReadContext × Frame n} {stream : List UInt8}

/-- No byte reaches a reader that has a packet to hand over. -/
def TakenAtOnce (start : ReadContext × Frame n) (stream : List UInt8) : Prop :=
  Admitted readStep (fun reader _ => reader.1.packetReceived = false) start stream

/-- A byte that was stored had room. -/
theorem hasRoom_of_stored {progress : Progress} {reader next : ReadContext × Frame n}
    {byte : UInt8} (represents : Represents progress reader)
    (incomplete : reader.1.packetReceived = false) (stored : readStep reader byte = .ok next) :
    HasRoom n progress byte := by
  cases progress with
  | idle => exact True.intro
  | addressed address => exact True.intro
  | complete address function body =>
      have received : reader.1.packetReceived = true := represents.packetReceived
      rw [incomplete] at received
      cases received
  | receiving address function body =>
      rcases represents with ⟨holds, counts⟩
      rw [readStep, ReadContext.processCharacter] at stored
      change body.length < n
      rw [← holds.dataLength_eq]
      cases counts with
      | inMeta state short remaining =>
          simp only [state] at stored
          rcases bind_eq_ok.mp stored with ⟨longer, appended, _⟩
          exact Frame.append_room appended
      | inData state told short remaining =>
          simp only [state] at stored
          rcases bind_eq_ok.mp stored with ⟨longer, appended, _⟩
          exact Frame.append_room appended

/-- Where every packet is taken at once, the reader is where the abstract
receiver is. -/
theorem run_follows {progress : Progress} (represents : Represents progress start)
    (taken : TakenAtOnce start stream) (completes : run readStep start stream = .ok final) :
    Represents (stream.foldl Progress.advance progress) final := by
  induction stream generalizing start progress with
  | nil =>
      cases completes
      exact represents
  | cons byte rest inductionHypothesis =>
      rw [run_cons, bind_eq_ok] at completes
      rcases completes with ⟨next, stored, continued⟩
      have room := hasRoom_of_stored represents (taken [] byte rest start rfl rfl) stored
      rcases step_simulates represents room with ⟨other, same, kept⟩
      rw [show readStep start byte = .ok other from same] at stored
      cases stored
      exact inductionHypothesis kept (taken.next same) continued

theorem foldl_rawBytes_suffix (stream : List UInt8) :
    (stream.foldl Progress.advance .idle).rawBytes <:+ stream := by
  induction stream using List.reverseRecOn with
  | nil => exact List.suffix_refl []
  | append_singleton stream byte inductionHypothesis =>
      rw [List.foldl_append]
      exact Progress.rawBytes_suffix inductionHypothesis byte

/-- The bytes of a complete frame are the last ones of the stream. -/
theorem received_suffix (fresh : Represents .idle start) (taken : TakenAtOnce start stream)
    (completes : run readStep start stream = .ok final)
    (received : final.1.packetReceived = true) : final.2.received <:+ stream := by
  have represents := run_follows fresh taken completes
  have suffix := foldl_rawBytes_suffix stream
  have complete := represents.packetReceived
  rw [received] at complete
  cases reached : stream.foldl Progress.advance .idle with
  | idle => rw [reached] at complete; cases complete
  | addressed address => rw [reached] at complete; cases complete
  | receiving address function body => rw [reached] at complete; cases complete
  | complete address function body =>
      rw [reached] at represents suffix
      have holds := represents.1
      have bytes : final.2.received = address :: function.code :: body := by
        rw [Frame.received, holds.address_eq, holds.function_eq, holds.dataLength_eq,
          holds.dataArray_eq]
      rw [bytes]
      exact suffix

/-- A whole frame that fits is read by a fresh reader. -/
theorem read_frame (fresh : Represents .idle start) (address : UInt8) {code : UInt8}
    (valid : functionCodeIsValid code = true) {body : List UInt8}
    (whole : body.length = expectedLength ⟨code⟩ body) (fits : body.length ≤ n) :
    Exists fun final => run readStep start (address :: code :: body) = .ok final ∧
      final.1.packetReceived = true ∧ Holds final.2 address ⟨code⟩ body := by
  rcases read_simulates fresh (permitted_frame address valid whole fits) with
    ⟨final, completes, represents⟩
  rw [Progress.foldl_frame address valid whole] at represents
  exact ⟨final, completes, represents.packetReceived, represents.1⟩

/-! ## What a completed frame is long enough for -/

/-- A frame that a reader reported as a packet.  It may have held anything when
the reader started to wait for an address. -/
def Frame.Completed (frame : Frame n) : Prop :=
  Exists fun start : ReadContext × Frame n => Exists fun stream => Exists fun context =>
    start.1.state = .kAddress ∧ run readStep start stream = .ok (context, frame) ∧
      context.packetReceived = true

/-- The countdown is never short of what the frame still lacks.  The frame may
be longer, if it was not empty at the start. -/
def Covered (reader : ReadContext × Frame n) : Prop :=
  match reader.1.state with
  | .kAddress => True
  | .kFunction => True
  | .kMeta =>
      (metaLength reader.2.function : Int) ≤ reader.2.dataLength + max 1 reader.1.bytesToRead
  | .kData => Exists fun body => Holds reader.2 reader.2.address reader.2.function body ∧
      metaLength reader.2.function ≤ body.length ∧
      (expectedLength reader.2.function body : Int) ≤ body.length + max 1 reader.1.bytesToRead
  | .kDone => Exists fun body => Holds reader.2 reader.2.address reader.2.function body ∧
      expectedLength reader.2.function body ≤ body.length

/-- The last byte of the metadata. -/
private theorem covered_told {frame : Frame n} {address : UInt8} {function : Function}
    {body : List UInt8} (holds : Holds frame address function body)
    (told : metaLength function ≤ body.length) {next : ReadContext × Frame n}
    (stepped : (do
      let remaining <- calculateBytesRemaining frame
      let bytesToRead := remaining + Command.kFooterLength
      let state := if bytesToRead = 0 then PacketState.kDone else PacketState.kData
      return (({ state := state, bytesToRead := bytesToRead } : ReadContext), frame)) = .ok next) :
    Covered next := by
  rcases calculateBytesRemaining_eq holds told with ⟨remaining, calculated, sum⟩
  have later := metaLength_lt_expectedLength function body
  have notDone : ¬ remaining + (Command.kFooterLength : Int) = 0 := by
    change ¬ remaining + 2 = 0
    omega
  simp only [calculated, ok_bind, if_neg notDone] at stepped
  cases stepped
  rcases holds.address_eq with rfl
  rcases holds.function_eq with rfl
  refine ⟨body, holds, told, ?_⟩
  change (expectedLength frame.function body : Int) ≤ body.length + max 1 (remaining + 2)
  omega

theorem covered_step {reader next : ReadContext × Frame n} {byte : UInt8}
    (covered : Covered reader) (stepped : readStep reader byte = .ok next) : Covered next := by
  rcases reader with ⟨context, frame⟩
  rw [readStep, ReadContext.processCharacter] at stepped
  cases state : context.state with
  | kAddress =>
      simp only [state] at stepped
      cases stepped
      exact True.intro
  | kFunction =>
      simp only [state] at stepped
      split at stepped
      · cases stepped
        have tables := (calculateMetaDataBytesRemaining_eq (getFunction byte)).2
        change (metaLength (getFunction byte) : Int) ≤
          frame.dataLength + max 1 (calculateMetaDataBytesRemaining (getFunction byte))
        omega
      · cases stepped
        exact True.intro
  | kMeta =>
      simp only [Covered, state] at covered
      simp only [state] at stepped
      rcases bind_eq_ok.mp stepped with ⟨longer, appended, rest⟩
      have holds := (Frame.holds_received (Nat.le_of_lt (Frame.append_room appended))).appended
        appended
      have grown := Frame.append_dataLength appended
      split at rest
      · refine covered_told holds ?_ rest
        rw [← holds.dataLength_eq, grown]
        omega
      · cases rest
        change (metaLength longer.function : Int) ≤
          longer.dataLength + max 1 (context.bytesToRead - 1)
        rw [holds.function_eq, grown]
        omega
  | kData =>
      simp only [Covered, state] at covered
      simp only [state] at stepped
      rcases covered with ⟨body, holds, told, lacking⟩
      rcases bind_eq_ok.mp stepped with ⟨longer, appended, rest⟩
      have extended := holds.appended appended
      have settled := expectedLength_append frame.function told [byte]
      have grown : (body ++ [byte]).length = body.length + 1 := by simp
      split at rest
      · cases rest
        refine ⟨body ++ [byte], extended.self, ?_⟩
        change expectedLength longer.function (body ++ [byte]) ≤ (body ++ [byte]).length
        rw [extended.function_eq]
        omega
      · cases rest
        refine ⟨body ++ [byte], extended.self, ?_, ?_⟩
        · change metaLength longer.function ≤ (body ++ [byte]).length
          rw [extended.function_eq]
          omega
        · change (expectedLength longer.function (body ++ [byte]) : Int) ≤
            (body ++ [byte]).length + max 1 (context.bytesToRead - 1)
          rw [extended.function_eq]
          omega
  | kDone =>
      simp only [state] at stepped
      cases stepped
      exact True.intro

/-- A completed frame is at least as long as its function and its byte count tell. -/
theorem Frame.Completed.long {frame : Frame n} (completed : frame.Completed) :
    Exists fun body => Holds frame frame.address frame.function body ∧
      expectedLength frame.function body ≤ body.length := by
  rcases completed with ⟨start, stream, context, waiting, completes, received⟩
  have initial : Covered start := by
    simp only [Covered, waiting]
  have covered := run_invariant readStep Covered (fun _ _ _ => covered_step) initial completes
  have done : context.state = .kDone := beq_iff_eq.mp received
  simp only [Covered, done] at covered
  exact covered

/-! ## The checksum of a completed frame -/

variable [TypeConversion]

/-- The check of a completed frame stays inside its scratch array, and is the
check of the bytes received, exactly when no more than 254 of them follow the
function byte. -/
theorem frameCrcIsValid_iff (crc16 : Crc16) {start final : ReadContext × Frame 256}
    {stream : List UInt8} (completes : run readStep start stream = .ok final)
    (received : final.1.packetReceived = true) (fits : final.2.dataLength ≤ 256) :
    (Represents .idle start -> TakenAtOnce start stream -> final.2.received <:+ stream) ∧
    ((Exists fun valid => ProtocolRtu.frameCrcIsValid crc16 final.2 = .ok valid ∧
        ProtocolRtu.frameCrcIsValidView crc16 final.2.received = .ok valid) <->
      final.2.dataLength ≤ 254) := by
  refine ⟨fun fresh taken => received_suffix fresh taken completes received, ?_⟩
  have holds := Frame.holds_received fits
  have size := holds.dataLength_eq
  constructor
  · intro same
    rcases same with ⟨valid, decided, _⟩
    rcases Nat.lt_or_ge 254 final.2.dataLength with overrun | short
    · rw [frameCrcIsValid_overrun crc16 holds (by omega)] at decided
      cases decided
    · exact short
  · intro short
    have long : 2 ≤ final.2.received.length := by
      rw [Frame.received]
      simp only [List.length_cons]
      omega
    rcases frameCrcIsValidView_completes crc16 long with ⟨valid, decided⟩
    refine ⟨valid, ?_, decided⟩
    rw [frameCrcIsValid_eq crc16 holds (by omega)]
    exact decided

omit [TypeConversion] in
/-- A fresh reader, to which the request to read one register is fed. -/
theorem frameCrcIsValid_oneRegister :
    letI := TypeConversion.shifting
    letI start : ReadContext × Frame 256 := ({}, { dataArray := Vector.replicate 256 0 })
    Exists fun final => run readStep start [1, 3, 0, 0, 0, 1, 132, 10] = .ok final ∧
      final.2.received = [1, 3, 0, 0, 0, 1, 132, 10] ∧
      Exists fun valid => ProtocolRtu.frameCrcIsValid .modbus final.2 = .ok valid ∧
        ProtocolRtu.frameCrcIsValidView .modbus final.2.received = .ok valid := by
  let conversion := TypeConversion.shifting
  let start : ReadContext × Frame 256 := ({}, { dataArray := Vector.replicate 256 0 })
  let dataArray : Vector UInt8 256 := ((((((Vector.replicate 256 0).set 0 0).set 1 0).set 2 0).set
    3 1).set 4 132).set 5 10
  let final : ReadContext × Frame 256 :=
    ({ state := .kDone, bytesToRead := 0 },
      { address := 1, function := .kReadMultipleHoldingRegisters, dataLength := 6,
        dataArray := dataArray })
  have completes : run readStep start [1, 3, 0, 0, 0, 1, 132, 10] = .ok final := rfl
  have fits : final.2.dataLength ≤ 256 := by decide
  exact ⟨final, completes, rfl,
    (frameCrcIsValid_iff .modbus completes rfl fits).2.mpr (by decide)⟩

omit [TypeConversion] in
/-- A multiple write of 124 registers, 248 bytes.  With its checksum its body
has 255 bytes, one too many for the scratch array. -/
theorem frameCrcIsValid_124_registers :
    letI := TypeConversion.shifting
    letI start : ReadContext × Frame 256 := ({}, { dataArray := Vector.replicate 256 0 })
    letI stream : List UInt8 := 1 :: 16 :: ([0, 0, 0, 124, 248] ++ List.replicate 250 0)
    Exists fun final => run readStep start stream = .ok final ∧
      final.1.packetReceived = true ∧ final.2.dataLength = 255 ∧
      ProtocolRtu.frameCrcIsValid .modbus final.2 = .error ⟨256, 256⟩ := by
  let conversion := TypeConversion.shifting
  let start : ReadContext × Frame 256 := ({}, { dataArray := Vector.replicate 256 0 })
  let body : List UInt8 := [0, 0, 0, 124, 248] ++ List.replicate 250 0
  have size : body.length = 255 := by
    rw [List.length_append, List.length_replicate]
    rfl
  have whole : body.length = expectedLength .kWriteMultipleHoldingRegisters body :=
    size.trans rfl
  have fresh : Represents .idle start := ⟨rfl, rfl⟩
  rcases read_frame fresh 1 (by decide) whole (by omega) with ⟨final, completes, received, holds⟩
  exact ⟨final, completes, received, holds.dataLength_eq.trans size,
    frameCrcIsValid_overrun .modbus holds (Nat.le_of_eq size.symm)⟩

end Modbus
