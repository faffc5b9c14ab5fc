import ModbusBasic.Slave.Retries

namespace Modbus

open Memory TypeConversion Transition

/-!
# A line that loses and damages

An attempt at a call may fail in three ways: something else than the request
arrives, the reply is lost, or it comes back damaged.  The slave tells the first
only by the length and the checksum of what arrives, and the master the last only
by the checksum, so nothing is promised of damage that leaves a frame valid.  A
master that attempts a call until it is answered has then called exactly once, as
far as anybody can tell.
-/

variable {h i : Nat}

/-- What an attempt meets on the line. -/
inductive Loss
  | request (arrived : List LineEvent)
  | reply
  | damaged (received : List UInt8)

/-- The event completes no frame that a slave of this address accepts. -/
def Passes (crc16 : Crc16) (slaveAddress : UInt8) : Progress -> LineEvent -> Prop
  | progress, .character pt => HasRoom 254 progress pt ∧
      forall function body, progress.advance pt = .complete slaveAddress function body ->
        ¬ EndsWithChecksum crc16 (slaveAddress :: function.code :: body)
  | _, .timeout => True

/-- Whether an event passes can be told when the byte is there. -/
instance (crc16 : Crc16) (slaveAddress : UInt8) (progress : Progress) :
    (event : LineEvent) -> Decidable (Passes crc16 slaveAddress progress event)
  | .timeout => isTrue True.intro
  | .character pt =>
      match finished : progress.advance pt with
      | .complete address function body =>
          decidable_of_iff (HasRoom 254 progress pt ∧ (address = slaveAddress ->
              ¬ EndsWithChecksum crc16 (slaveAddress :: function.code :: body))) <| by
            refine and_congr_right fun _ => ⟨fun fails function body same => ?_, fun fails same => ?_⟩
            · rw [finished] at same
              cases same
              exact fails rfl
            · subst same
              exact fails function body finished
      | .idle | .addressed _ | .receiving _ _ _ =>
          decidable_of_iff (HasRoom 254 progress pt) <| by
            refine (and_iff_left fun function body same => ?_).symm
            rw [finished] at same
            cases same

namespace Loss

/-- The loss can be told from the length or the checksum of what arrives. -/
def Shows (crc16 : Crc16) (slaveAddress : UInt8) : Loss -> Prop
  | request arrived => Permitted Progress.hear (Passes crc16 slaveAddress) .idle arrived
  | reply => True
  | damaged received => 2 ≤ received.length ∧ ¬ EndsWithChecksum crc16 received

instance (crc16 : Crc16) (slaveAddress : UInt8) : (loss : Loss) ->
    Decidable (loss.Shows crc16 slaveAddress)
  | request arrived => inferInstanceAs (Decidable (Permitted _ _ _ arrived))
  | reply => isTrue True.intro
  | damaged _ => inferInstanceAs (Decidable (_ ∧ _))

/-- What the master learns from the attempt. -/
def heard : Loss -> Answer
  | request _ | reply => .silent
  | damaged _ => .damaged

/-- What reaches the slave of the bytes sent. -/
def arriving : Option Loss -> List UInt8 -> List LineEvent
  | some (request arrived), _ => arrived
  | _, bytes => bytes.map .character

/-- What reaches the master of the replies. -/
def returning : Option Loss -> List (List UInt8) -> List (List UInt8)
  | some reply, _ => []
  | some (damaged received), _ => [received]
  | _, replies => replies

end Loss

/-- A call over such a line.  Without a loss it is an `exchange`. -/
def attempt [TypeConversion] (crc16 : Crc16) (slaveAddress : UInt8)
    (slave : ProtocolRtuSlave.Stores h i) (entry : RegisterCall × Option Loss) :
    Checked (ProtocolRtuSlave.Stores h i × Answer) := do
  let packet : Frame 1024 := { address := slaveAddress, dataArray := Vector.replicate 1024 0 }
  let filled <- entry.1.fillFrame packet
  let bytes <- transmit crc16 filled.2
  let served <- trace (ProtocolRtuSlave.serve crc16) slave
    (.timeout :: Loss.arriving entry.2 bytes)
  match Loss.returning entry.2 (served.2.filterMap id) with
  | [reply] => do
      let answer <- entry.1.receive crc16 reply
      return (served.1, answer)
  | _ => return (served.1, .silent)

/-! ## Bytes that are no frame for the slave -/

section Passing

variable {crc16 : Crc16} {slaveAddress : UInt8}

theorem Passes.serviceable {progress : Progress} {event : LineEvent}
    (passes : Passes crc16 slaveAddress progress event) :
    ProtocolRtuSlave.Serviceable crc16 slaveAddress h i progress event := by
  cases event with
  | timeout => exact True.intro
  | character pt =>
      exact ⟨passes.1, fun function body finished ends => absurd ends (passes.2 function body finished)⟩

/-- They are followed silently. -/
theorem Station.behaviour_passing (station : Station h i) (events : List LineEvent)
    (passing : Permitted Progress.hear (Passes crc16 station.slaveAddress) station.progress events) :
    behaviour (hear crc16) station events =
      ({ station with progress := events.foldl Progress.hear station.progress },
        List.replicate events.length .nothing) := by
  induction events generalizing station with
  | nil => rfl
  | cons event rest inductionHypothesis =>
      have heard : station.hear crc16 event =
          ({ station with progress := station.progress.hear event }, .nothing) := by
        cases event with
        | timeout => rfl
        | character pt =>
            rw [hear, Progress.hear]
            cases finished : station.progress.advance pt with
            | complete address function body =>
                have passed : ¬ (address = station.slaveAddress ∧
                    EndsWithChecksum crc16 (address :: function.code :: body)) := by
                  rintro ⟨rfl, ends⟩
                  exact passing.1.2 function body finished ends
                simp only [consider, if_neg passed]
                rfl
            | _ => rfl
      rw [behaviour_cons, nextState, heard, inductionHypothesis _ passing.2]
      rfl

/-- Bytes in front of others that there is room for pass. -/
theorem permitted_passes {progress : Progress} {front rest : List UInt8}
    (room : Permitted Progress.advance (HasRoom 254) progress (front ++ rest))
    (proper : rest ≠ []) :
    Permitted Progress.hear (Passes crc16 slaveAddress) progress (front.map .character) := by
  induction front generalizing progress with
  | nil => exact True.intro
  | cons byte others inductionHypothesis =>
      have unfinished := Progress.unfinished room (List.append_ne_nil_of_right_ne_nil others proper)
      refine ⟨⟨room.1, fun function body finished => ?_⟩, ?_⟩
      · rw [finished] at unfinished
        cases unfinished
      · rw [Progress.hear_unfinished unfinished]
        exact inductionHypothesis room.2

theorem foldl_hear {progress : Progress} {front rest : List UInt8}
    (room : Permitted Progress.advance (HasRoom 254) progress (front ++ rest))
    (proper : rest ≠ []) :
    (front.map LineEvent.character).foldl Progress.hear progress =
      front.foldl Progress.advance progress := by
  induction front generalizing progress with
  | nil => rfl
  | cons byte others inductionHypothesis =>
      have unfinished := Progress.unfinished room (List.append_ne_nil_of_right_ne_nil others proper)
      rw [List.map_cons, List.foldl_cons, List.foldl_cons, Progress.hear_unfinished unfinished]
      exact inductionHypothesis room.2

/-- A request that is cut short anywhere shows. -/
theorem Loss.shows_cut (address : UInt8) {request : Request}
    (wellFormed : (SessionEvent.request request).WellFormed) {front rest : List UInt8}
    (split : request.wire crc16 address = front ++ rest) (proper : rest ≠ []) :
    (Loss.request (front.map .character)).Shows crc16 slaveAddress := by
  rcases Request.body_whole crc16 address wellFormed with ⟨whole, _, fits⟩
  have room := permitted_frame address (supported_valid request.supported) whole fits
  exact permitted_passes (split ▸ room) proper

/-- So does a frame with a wrong checksum. -/
theorem Loss.shows_checksum (address : UInt8) {code : UInt8}
    (listed : functionCodeIsValid code = true) {body : List UInt8}
    (whole : body.length = expectedLength ⟨code⟩ body) (fits : body.length ≤ 254)
    (wrong : ¬ EndsWithChecksum crc16 (address :: code :: body)) :
    (Loss.request ((address :: code :: body).map .character)).Shows crc16 slaveAddress := by
  rcases List.eq_nil_or_concat body with rfl | ⟨front, last, rfl⟩
  · exact absurd whole (Nat.ne_of_lt (Nat.zero_lt_of_lt (metaLength_lt_expectedLength ⟨code⟩ [])))
  rw [List.concat_eq_append] at whole fits wrong ⊢
  have room : Permitted Progress.advance (HasRoom 254) .idle ((address :: code :: front) ++ [last]) :=
    permitted_frame address listed whole fits
  have started := Progress.foldl_frame_front address listed (List.cons_ne_nil last []) whole
  have finished : ((address :: code :: front) ++ [last]).foldl Progress.advance .idle = _ :=
    Progress.foldl_frame address listed whole
  rw [List.foldl_append, started, List.foldl_cons, List.foldl_nil] at finished
  rw [← List.cons_append, ← List.cons_append, List.map_append, Shows, permitted_append,
    foldl_hear room (List.cons_ne_nil last []), started]
  refine ⟨permitted_passes room (List.cons_ne_nil last []), ⟨?_, fun function body same => ?_⟩,
    True.intro⟩
  · rw [List.length_append] at fits
    exact fits
  · rw [finished] at same
    cases same
    exact wrong

end Passing

/-! ## One attempt -/

namespace Station

/-- What an attempt leaves of the station, and what the master learns. -/
def attempted (station : Station h i) (address : UInt8) :
    RegisterCall × Option Loss -> Station h i × Answer
  | (call, none) => station.called address call
  | (_, some (.request arrived)) =>
      ({ station with progress := arrived.foldl Progress.hear .idle }, .silent)
  | (call, some .reply) => ((station.called address call).1, .silent)
  | (call, some (.damaged _)) => ((station.called address call).1, .damaged)

variable (station : Station h i) (address : UInt8) (call : RegisterCall) (loss : Loss)

/-- A call finds the station as if the attempt before it had not been made. -/
theorem attempted_again :
    (station.attempted address (call, some loss)).1.called address call =
      station.called address call := by
  cases loss with
  | request arrived => rfl
  | reply => exact station.called_again address call
  | damaged received => exact station.called_again address call

theorem attempted_heard : (station.attempted address (call, some loss)).2 = loss.heard := by
  cases loss <;> rfl

theorem attempted_slaveAddress (entry : RegisterCall × Option Loss) :
    (station.attempted address entry).1.slaveAddress = station.slaveAddress := by
  have kept (call : RegisterCall) :
      (station.called address call).1.slaveAddress = station.slaveAddress := by
    unfold called
    split <;> rfl
  rcases entry with ⟨call, _ | (arrived | _ | received)⟩
  · exact kept call
  · rfl
  · exact kept call
  · exact kept call

end Station

/-- A reply whose checksum is wrong is told from any other. -/
theorem RegisterCall.receive_damaged [TypeConversion] {crc16 : Crc16}
    (depends : crc16.DependsOnPrefix) (call : RegisterCall) {received : List UInt8}
    (long : 2 ≤ received.length) (wrong : ¬ EndsWithChecksum crc16 received) :
    call.receive crc16 received = .ok .damaged := by
  rw [receive, frameCrcIsValidView_eq depends long, decide_eq_false wrong, ok_bind]
  rfl

namespace ProtocolRtuSlave

variable [TypeConversion] {crc16 : Crc16}

/-- The attempt is what the line makes of the call and of the replies. -/
theorem attempt_eq {slave final : Stores h i} (address : UInt8) {call : RegisterCall}
    (depends : crc16.DependsOnPrefix) (bounded : call.Bounded) (loss : Option Loss)
    {replies : List (Option (List UInt8))}
    (served : trace (serve crc16) slave
      (.timeout :: Loss.arriving loss (call.request.wire crc16 address)) = .ok (final, replies)) :
    attempt crc16 address slave (call, loss) =
      match Loss.returning loss (replies.filterMap id) with
      | [reply] => call.receive crc16 reply >>= fun answer => .ok (final, answer)
      | _ => .ok (final, .silent) := by
  rcases transmit_call depends address bounded with ⟨filled, completes, sent⟩
  rw [attempt, completes, ok_bind, sent, ok_bind, served, ok_bind]
  rfl

theorem attempt_attempted (depends : crc16.DependsOnPrefix) (holdingSmall : h ≤ 65536)
    (inputSmall : i ≤ 65536) {slave : Stores h i} {station : Station h i}
    (stands : slave.StandsFor station) (address : UInt8) {entry : RegisterCall × Option Loss}
    (bounded : entry.1.Bounded)
    (shows : forall loss, entry.2 = some loss -> loss.Shows crc16 station.slaveAddress) :
    Exists fun next => attempt crc16 address slave entry =
        .ok (next, (station.attempted address entry).2) ∧
      next.StandsFor (station.attempted address entry).1 := by
  rcases serve_call depends holdingSmall inputSmall stands address bounded with
    ⟨called, replies, served, _, kept⟩
  rcases entry with ⟨call, _ | (arrived | _ | received)⟩
  · exact exchange_called depends holdingSmall inputSmall stands address bounded
  · have passing : Permitted Progress.hear (Passes crc16 station.slaveAddress) .idle arrived :=
      shows _ rfl
    have permitted : Permitted Progress.hear (Serviceable crc16 station.slaveAddress h i)
        station.progress (.timeout :: arrived) :=
      ⟨True.intro, passing.imp fun _ _ => Passes.serviceable⟩
    rcases trace_hears depends holdingSmall inputSmall stands permitted with
      ⟨final, replies, served, written, kept⟩
    have followed := { station with progress := .idle }.behaviour_passing arrived passing
    rw [behaviour_cons] at written kept
    change final.StandsFor (behaviour _ { station with progress := .idle } arrived).1 at kept
    change _ = (Outgoing.nothing :: (behaviour _ { station with progress := .idle }
      arrived).2).filterMap Outgoing.frame at written
    rw [followed] at written kept
    have silent : replies.filterMap id = [] := by
      rw [written, ← List.replicate_succ, ← List.append_nil (List.replicate _ _)]
      exact Outgoing.frames_after_silence _ _
    refine ⟨final, ?_, kept⟩
    rw [attempt_eq address depends bounded (some (.request arrived)) served, silent]
    rfl
  · refine ⟨called, ?_, kept⟩
    rw [attempt_eq address depends bounded (some .reply) served]
    rfl
  · refine ⟨called, ?_, kept⟩
    rcases shows _ rfl with ⟨long, wrong⟩
    rw [attempt_eq address depends bounded (some (.damaged received)) served]
    change (call.receive crc16 received >>= fun answer => _) = _
    rw [call.receive_damaged depends long wrong, ok_bind]
    rfl

/-! ## Any number of attempts -/

theorem trace_attempt (depends : crc16.DependsOnPrefix) (holdingSmall : h ≤ 65536)
    (inputSmall : i ≤ 65536) {slave : Stores h i} {station : Station h i}
    (stands : slave.StandsFor station) (address : UInt8)
    {entries : List (RegisterCall × Option Loss)}
    (allowed : forall entry, entry ∈ entries -> entry.1.Bounded ∧
      forall loss, entry.2 = some loss -> loss.Shows crc16 station.slaveAddress) :
    Exists fun final => trace (attempt crc16 address) slave entries = .ok (final,
        (behaviour (fun station => Station.attempted station address) station entries).2) ∧
      final.StandsFor
        (behaviour (fun station => Station.attempted station address) station entries).1 := by
  rcases trace_refines (attempt crc16 address) (fun station => Station.attempted station address)
    (fun entry => entry.1.Bounded ∧
      forall loss, entry.2 = some loss -> loss.Shows crc16 station.slaveAddress)
    (fun reached slave => slave.StandsFor reached ∧ reached.slaveAddress = station.slaveAddress)
    (fun reached slave entry related allowed => by
      rcases related with ⟨stands, same⟩
      rcases attempt_attempted depends holdingSmall inputSmall stands address allowed.1
        (by rw [same]; exact allowed.2) with ⟨next, attempted, kept⟩
      exact ⟨next, attempted, kept, (reached.attempted_slaveAddress address entry).trans same⟩)
    ⟨stands, rfl⟩ allowed with ⟨final, completes, kept⟩
  exact ⟨final, completes, kept.1⟩

end ProtocolRtuSlave

end Modbus
