import ModbusBasic.Slave.Device

namespace Modbus

open Memory TypeConversion Transition

/-!
# A request on the line

A station that hears a frame from its first byte on stays silent until the last
one and considers the frame then.  After a timeout every station hears a request
from its first byte on, so it performs and answers it if it is addressed, and is
as it was if it is not.
-/

variable {h i : Nat}

/-! ## Frames of a permitted length -/

/-- There is room only behind bytes that complete no frame. -/
theorem Progress.unfinished {n : Nat} {progress : Progress} {byte : UInt8} {rest : List UInt8}
    (room : Permitted advance (HasRoom n) progress (byte :: rest)) (more : rest ≠ []) :
    (progress.advance byte).isComplete = false := by
  rcases List.exists_cons_of_ne_nil more with ⟨next, others, rfl⟩
  cases finished : progress.advance byte with
  | complete address function body =>
      have blocked := room.2.1
      rw [finished] at blocked
      exact False.elim blocked
  | _ => rfl

theorem Progress.hear_unfinished {progress : Progress} {byte : UInt8}
    (unfinished : (progress.advance byte).isComplete = false) :
    progress.hear (.character byte) = progress.advance byte := by
  rw [hear, unfinished]
  rfl

/-- Bytes for which there is room are serviceable, unless they complete a read
whose reply is too long. -/
theorem ProtocolRtuSlave.permitted_serviceable {crc16 : Crc16} {slaveAddress : UInt8}
    {progress : Progress} {bytes : List UInt8}
    (room : Permitted Progress.advance (HasRoom 254) progress bytes)
    (short : forall function body,
      bytes.foldl Progress.advance progress = .complete slaveAddress function body ->
        EndsWithChecksum crc16 (slaveAddress :: function.code :: body) ->
          ¬ OverlongRead h i function body) :
    Permitted Progress.hear (Serviceable crc16 slaveAddress h i) progress
      (bytes.map LineEvent.character) := by
  induction bytes generalizing progress with
  | nil => exact True.intro
  | cons byte rest inductionHypothesis =>
      cases rest with
      | nil => exact ⟨⟨room.1, short⟩, True.intro⟩
      | cons next others =>
          have unfinished := Progress.unfinished room (List.cons_ne_nil next others)
          refine ⟨⟨room.1, fun function body finished => ?_⟩, ?_⟩
          · rw [finished] at unfinished
            cases unfinished
          · rw [Progress.hear_unfinished unfinished]
            exact inductionHypothesis room.2 short

namespace Station

variable (crc16 : Crc16) (station : Station h i)

/-- Bytes that complete no frame are followed silently. -/
theorem behaviour_incomplete (bytes : List UInt8)
    (room : Permitted Progress.advance (HasRoom 254) station.progress bytes)
    (incomplete : (bytes.foldl Progress.advance station.progress).isComplete = false) :
    behaviour (hear crc16) station (bytes.map .character) =
      ({ station with progress := bytes.foldl Progress.advance station.progress },
        List.replicate bytes.length .nothing) := by
  induction bytes generalizing station with
  | nil => rfl
  | cons byte rest inductionHypothesis =>
      have unfinished : (station.progress.advance byte).isComplete = false := by
        cases rest with
        | nil => exact incomplete
        | cons next others => exact Progress.unfinished room (List.cons_ne_nil next others)
      have heard : station.hear crc16 (.character byte) =
          ({ station with progress := station.progress.advance byte }, .nothing) := by
        rw [hear]
        cases finished : station.progress.advance byte with
        | complete address function body =>
            rw [finished] at unfinished
            cases unfinished
        | _ => rfl
      rw [List.map_cons, behaviour_cons, nextState, heard]
      rw [inductionHypothesis _ room.2 incomplete]
      rfl

/-- How a frame was received does not matter for what becomes of it. -/
theorem consider_progress (progress : Progress) (address : UInt8) (function : Function)
    (body : List UInt8) :
    { station with progress := progress }.consider crc16 address function body =
      ({ (station.consider crc16 address function body).1 with progress := progress },
        (station.consider crc16 address function body).2) := by
  by_cases taken : address = station.slaveAddress ∧
      EndsWithChecksum crc16 (address :: function.code :: body)
  · rw [consider, consider, if_pos taken, if_pos taken, answer, answer]
    cases Request.ofFrame function body with
    | none => rfl
    | some request => rfl
  · rw [consider, consider, if_neg taken, if_neg taken]

/-- A frame from its first byte on. -/
theorem behaviour_frame (idle : station.progress = .idle) (address : UInt8) {code : UInt8}
    (listed : functionCodeIsValid code = true) {body : List UInt8}
    (whole : body.length = expectedLength ⟨code⟩ body) (fits : body.length ≤ 254) :
    behaviour (hear crc16) station ((address :: code :: body).map .character) =
      ({ (station.consider crc16 address ⟨code⟩ body).1 with progress := .idle },
        List.replicate (body.length + 1) .nothing ++
          [(station.consider crc16 address ⟨code⟩ body).2]) := by
  rcases List.eq_nil_or_concat body with rfl | ⟨front, last, rfl⟩
  · exact absurd whole (Nat.ne_of_lt (Nat.zero_lt_of_lt (metaLength_lt_expectedLength ⟨code⟩ [])))
  rw [List.concat_eq_append] at whole fits ⊢
  have room : Permitted Progress.advance (HasRoom 254) .idle ((address :: code :: front) ++ [last]) :=
    permitted_frame address listed whole fits
  have started := Progress.foldl_frame_front address listed (List.cons_ne_nil last []) whole
  have finished : ((address :: code :: front) ++ [last]).foldl Progress.advance .idle = _ :=
    Progress.foldl_frame address listed whole
  rw [List.foldl_append, started, List.foldl_cons, List.foldl_nil] at finished
  have read := behaviour_incomplete crc16 station (address :: code :: front)
    (by rw [idle]; exact permitted_front room) (by rw [idle, started]; rfl)
  rw [idle, started] at read
  change behaviour _ _ (((address :: code :: front) ++ [last]).map LineEvent.character) = _
  rw [List.map_append, behaviour_append, read, List.map_singleton, behaviour_cons, nextState,
    hear, finished, List.length_append]
  simp only [consider_progress]
  rfl

end Station

/-! ## Requests -/

section Requests

variable (crc16 : Crc16)

theorem Request.bounds {request : Request}
    (wellFormed : (SessionEvent.request request).WellFormed) :
    request.readCount ≤ 125 ∧ request.Countable ∧ request.payload.length ≤ 252 := by
  cases request with
  | readHolding start count => exact ⟨wellFormed, True.intro, by simp [Request.payload]⟩
  | readInput start count => exact ⟨wellFormed, True.intro, by simp [Request.payload]⟩
  | writeSingle start value => exact ⟨wellFormed, True.intro, by simp [Request.payload]⟩
  | writeMultiple start count data =>
      have few : data.length ≤ 246 := wellFormed
      exact ⟨Nat.zero_le _, by change data.length < 256; omega,
        by change data.length + 5 ≤ 252; omega⟩

/-- What follows the function byte of a request on the line. -/
def Request.body (crc16 : Crc16) (address : UInt8) (request : Request) : List UInt8 :=
  request.payload ++
    bigEndian (checksum crc16 (address :: request.function.code :: request.payload)).toNat

theorem Request.body_whole (address : UInt8) {request : Request}
    (wellFormed : (SessionEvent.request request).WellFormed) :
    (request.body crc16 address).length =
        expectedLength request.function (request.body crc16 address) ∧
      (request.body crc16 address).length = request.payload.length + 2 ∧
      (request.body crc16 address).length ≤ 254 := by
  rcases Request.bounds wellFormed with ⟨_, countable, fits⟩
  have size : (request.body crc16 address).length = request.payload.length + 2 := by
    rw [body, List.length_append]
    rfl
  exact ⟨expectedLength_request request.supported (request.wellFormedPayload countable)
    (bigEndian_length _), size, by rw [size]; exact Nat.add_le_add_right fits 2⟩

/-- A request after a timeout is serviceable for every station. -/
theorem permitted_request [TypeConversion] (slaveAddress : UInt8) (progress : Progress) (address : UInt8)
    {request : Request} (wellFormed : (SessionEvent.request request).WellFormed) :
    Permitted Progress.hear (ProtocolRtuSlave.Serviceable crc16 slaveAddress h i) progress
      (.timeout :: (request.wire crc16 address).map .character) := by
  rcases Request.body_whole crc16 address wellFormed with ⟨whole, _, fits⟩
  have valid := supported_valid request.supported
  refine ⟨True.intro, ProtocolRtuSlave.permitted_serviceable
    (permitted_frame address valid whole fits) fun function body received _ overlong => ?_⟩
  have same : (address :: request.function.code :: request.body crc16 address).foldl
      Progress.advance .idle = .complete slaveAddress function body := received
  rw [Progress.foldl_frame address valid whole] at same
  cases same
  have long := ((request.overlongRead_iff _).mp overlong).2
  exact absurd (Request.bounds wellFormed).1 (Nat.not_le_of_lt long)

namespace Station

variable (station : Station h i)

/-- A request to any address, after a timeout. -/
theorem behaviour_request [TypeConversion] (address : UInt8) {request : Request}
    (wellFormed : (SessionEvent.request request).WellFormed) :
    behaviour (hear crc16) station (.timeout :: (request.wire crc16 address).map .character) =
      if address = station.slaveAddress then
        ({ (station.perform crc16 request).1 with progress := .idle },
          List.replicate (request.payload.length + 4) .nothing ++
            [.reply (station.perform crc16 request).2])
      else ({ station with progress := .idle },
        List.replicate (request.payload.length + 5) .nothing) := by
  rcases Request.body_whole crc16 address wellFormed with ⟨whole, size, fits⟩
  have valid := supported_valid request.supported
  have served := behaviour_frame crc16 { station with progress := .idle } rfl address valid whole fits
  have ends : EndsWithChecksum crc16
      (address :: request.function.code :: request.body crc16 address) :=
    endsWithChecksum_withChecksum crc16 (address :: request.function.code :: request.payload)
  have heard : behaviour (hear crc16) station
      (.timeout :: (request.wire crc16 address).map .character) = _ :=
    congrArg (fun last => (last.1, Outgoing.nothing :: last.2)) served
  rw [heard, consider_progress, size, consider]
  by_cases addressed : address = station.slaveAddress
  · have answered := station.answer_payload crc16 (Request.bounds wellFormed).2.1
      (bigEndian (checksum crc16 (address :: request.function.code :: request.payload)).toNat)
    rw [if_pos ⟨addressed, ends⟩, if_pos addressed, Request.body, answered]
    rfl
  · rw [if_neg (fun taken => addressed taken.1), if_neg addressed, ← List.replicate_succ']
    rfl

end Station

end Requests

end Modbus
