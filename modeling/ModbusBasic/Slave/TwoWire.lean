import ModbusBasic.Slave.SharedLine

namespace Modbus

open Memory TypeConversion Transition

/-!
# Replies on a line of two wires

On a line of two wires the slaves also hear what the others reply, and a slave
cannot tell a reply from a request.  The reader takes the first eight bytes of a
reply for a frame of the slave that sent it, and what is left for the beginning
of another frame.  The bytes left of a reply with at most three registers are
too few to complete one, so it is passed over (`permitted_reply`).

With such requests, slaves of different addresses serve a line of two wires as
if each of them heard the requests alone (`two_wires_carry_replies`).
-/

/-! ## Bytes that are for others -/

/-- No frame for this address is completed. -/
def Progress.PassesBy (slaveAddress : UInt8) : Progress -> LineEvent -> Prop
  | progress, .character pt => HasRoom 254 progress pt ∧
      forall function body, progress.advance pt ≠ .complete slaveAddress function body
  | _, .timeout => True

namespace Progress

variable {slaveAddress address : UInt8} {function : Function} {body bytes : List UInt8}

theorem hear_incomplete {progress : Progress} {byte : UInt8}
    (incomplete : (progress.advance byte).isComplete = false) :
    progress.hear (.character byte) = progress.advance byte := by
  rw [hear, incomplete]
  rfl

theorem expectedLength_ge (function : Function) (body : List UInt8) :
    3 ≤ expectedLength function body := by
  rcases function_cases function with rfl | rfl | rfl | rfl | other
  · exact (by decide : 3 ≤ 6)
  · exact (by decide : 3 ≤ 6)
  · exact (by decide : 3 ≤ 6)
  · exact Nat.le_trans (by decide : 3 ≤ 7) (Nat.le_add_right 7 _)
  · exact Nat.le_of_eq (expectedLength_other other body).symm

/-- Four bytes never make a frame. -/
theorem advance_short {progress : Progress} (incomplete : progress.isComplete = false)
    (short : progress.rawBytes.length ≤ 3) (byte : UInt8) :
    (progress.advance byte).isComplete = false ∧
      (progress.advance byte).rawBytes.length ≤ progress.rawBytes.length + 1 := by
  cases progress with
  | idle => exact ⟨rfl, Nat.le_refl 1⟩
  | addressed address =>
      rw [advance]
      split
      · exact ⟨rfl, Nat.le_refl 2⟩
      · exact ⟨rfl, Nat.zero_le 2⟩
  | receiving address function body =>
      have few : body.length + 2 ≤ 3 := short
      have least := expectedLength_ge function (body ++ [byte])
      have notYet : (body ++ [byte]).length ≠ expectedLength function (body ++ [byte]) := by
        rw [List.length_append, List.length_singleton]
        omega
      rw [advance, if_neg notYet]
      exact ⟨rfl, by simp [rawBytes]⟩
  | complete address function body => cases incomplete

theorem permitted_short {progress : Progress} (incomplete : progress.isComplete = false)
    (short : progress.rawBytes.length + bytes.length ≤ 4) :
    Permitted hear (PassesBy slaveAddress) progress (bytes.map LineEvent.character) := by
  induction bytes generalizing progress with
  | nil => exact True.intro
  | cons byte rest inductionHypothesis =>
      rw [List.length_cons] at short
      rcases advance_short incomplete (by omega) byte with ⟨unfinished, longer⟩
      refine ⟨⟨?_, fun function body finished => ?_⟩, ?_⟩
      · cases progress with
        | receiving address function body =>
            have few : body.length + 2 + (rest.length + 1) ≤ 4 := short
            change body.length < 254
            omega
        | complete address function body => cases incomplete
        | _ => exact True.intro
      · rw [finished] at unfinished
        cases unfinished
      · rw [hear_incomplete unfinished]
        exact inductionHypothesis unfinished (by omega)

theorem expectedLength_implemented
    (implemented : function ∈ ProtocolRtuSlave.implimentedFunctions) (body : List UInt8) :
    6 ≤ expectedLength function body := by
  have listed : function = .kReadMultipleHoldingRegisters ∨ function = .kReadInputRegisters ∨
      function = .kWriteSingleHoldingRegister ∨ function = .kWriteMultipleHoldingRegisters := by
    simpa [ProtocolRtuSlave.implimentedFunctions] using implemented
  rcases listed with rfl | rfl | rfl | rfl
  · exact Nat.le_refl 6
  · exact Nat.le_refl 6
  · exact Nat.le_refl 6
  · exact Nat.le_trans (by decide : 6 ≤ 7) (Nat.le_add_right 7 _)

/-- A frame of another slave that starts with one of the four functions, and what
is left of at most nine bytes. -/
theorem permitted_receiving (implemented : function ∈ ProtocolRtuSlave.implimentedFunctions)
    (other : address ≠ slaveAddress) (short : body.length + bytes.length ≤ 9) :
    Permitted hear (PassesBy slaveAddress) (.receiving address function body)
      (bytes.map LineEvent.character) := by
  induction bytes generalizing body with
  | nil => exact True.intro
  | cons byte rest inductionHypothesis =>
      rw [List.length_cons] at short
      have room : HasRoom 254 (.receiving address function body) byte := by
        change body.length < 254
        omega
      have size : (body ++ [byte]).length = body.length + 1 := List.length_append
      by_cases whole : (body ++ [byte]).length = expectedLength function (body ++ [byte])
      · have finished : (receiving address function body).advance byte =
            complete address function (body ++ [byte]) := if_pos whole
        have least := expectedLength_implemented implemented (body ++ [byte])
        refine ⟨⟨room, fun _ _ same => ?_⟩, ?_⟩
        · rw [finished] at same
          exact other (Progress.complete.inj same).1
        · have heard : (receiving address function body).hear (.character byte) = .idle := by
            rw [hear, finished]
            rfl
          rw [heard]
          exact permitted_short rfl (by change 0 + rest.length ≤ 4; omega)
      · have unfinished : (receiving address function body).advance byte =
            receiving address function (body ++ [byte]) := if_neg whole
        refine ⟨⟨room, fun _ _ same => ?_⟩, ?_⟩
        · rw [unfinished] at same
          cases same
        · rw [hear_incomplete (by rw [unfinished]; rfl), unfinished]
          exact inductionHypothesis (by omega)

/-- A reply with one of the four functions, from its first byte on. -/
theorem permitted_spoken (other : address ≠ slaveAddress)
    (implemented : function ∈ ProtocolRtuSlave.implimentedFunctions) (short : bytes.length ≤ 9) :
    Permitted hear (PassesBy slaveAddress) .idle
      ((address :: function.code :: bytes).map LineEvent.character) := by
  have valid : functionCodeIsValid function.code = true := by
    revert function
    decide
  have begun : (addressed address).advance function.code = receiving address function [] :=
    if_pos valid
  refine ⟨⟨True.intro, fun _ _ same => by cases same⟩, ⟨True.intro, fun _ _ same => ?_⟩, ?_⟩
  · have received : (addressed address).advance function.code = _ := same
    rw [begun] at received
    cases received
  · have heard : (addressed address).hear (.character function.code) = receiving address function [] := by
      rw [hear_incomplete (by rw [begun]; rfl), begun]
    change Permitted _ _ ((addressed address).hear (.character function.code)) _
    rw [heard]
    exact permitted_receiving implemented other (by rw [List.length_nil, Nat.zero_add]; exact short)

/-- A reply with an error function: the reader waits for an address again. -/
theorem permitted_refusal {code : UInt8} (invalid : functionCodeIsValid code = false)
    (short : bytes.length ≤ 4) :
    Permitted hear (PassesBy slaveAddress) .idle
      ((address :: code :: bytes).map LineEvent.character) := by
  have dropped : (addressed address).advance code = idle :=
    if_neg (fun valid => by rw [invalid] at valid; cases valid)
  have heard : (addressed address).hear (.character code) = idle := by
    rw [hear_incomplete (by rw [dropped]; rfl), dropped]
  refine ⟨⟨True.intro, fun _ _ same => by cases same⟩, ⟨True.intro, fun _ _ same => ?_⟩, ?_⟩
  · have received : (addressed address).advance code = _ := same
    rw [dropped] at received
    cases received
  · change Permitted _ _ ((addressed address).hear (.character code)) _
    rw [heard]
    exact permitted_short rfl (by change 0 + bytes.length ≤ 4; omega)

end Progress

namespace Station

variable {h i : Nat} {crc16 : Crc16}

/-- A station that no frame completed is for keeps everything, and says nothing. -/
theorem behaviour_passesBy (crc16 : Crc16) (station : Station h i) {events : List LineEvent}
    (passes : Permitted Progress.hear (Progress.PassesBy station.slaveAddress) station.progress
      events) :
    behaviour (hear crc16) station events =
      ({ station with progress := events.foldl Progress.hear station.progress },
        List.replicate events.length .nothing) := by
  induction events generalizing station with
  | nil => rfl
  | cons event rest inductionHypothesis =>
      have heard : station.hear crc16 event =
          ({ station with progress := station.progress.hear event }, .nothing) := by
        cases event with
        | timeout => rfl
        | character pt =>
            rw [hear, Progress.hear]
            cases finished : station.progress.advance pt with
            | complete address function body =>
                have other : address ≠ station.slaveAddress := by
                  rintro rfl
                  exact passes.1.2 function body finished
                have passed : station.consider crc16 address function body = (station, .nothing) :=
                  if_neg (fun taken => other taken.1)
                simp only [passed]
                rfl
            | _ => rfl
      rw [behaviour_cons, nextState, heard, inductionHypothesis _ passes.2]
      rfl

/-- A reply to a request for at most three registers passes by every other slave. -/
theorem permitted_reply [TypeConversion] (speaker : Station h i) {request : Request}
    (few : request.readCount ≤ 3) {slaveAddress : UInt8} (other : speaker.slaveAddress ≠ slaveAddress) :
    Permitted Progress.hear (Progress.PassesBy slaveAddress) .idle
      ((speaker.perform crc16 request).2.map .character) := by
  by_cases acknowledged : request.verdict h i = .kAck
  · have read {n : Nat} (bank : Bank n) (address : UInt16) {count : UInt16}
        (few : count.toNat ≤ 3) : (bank.bytes address.toNat count.toNat).length ≤ 6 := by
      rw [show (bank.bytes address.toNat count.toNat).length = count.toNat * 2 from
        chunks_length _ 2 (fun _ => rfl) _]
      omega
    have size : (speaker.file.answer request).length ≤ 7 := by
      cases request with
      | readHolding address count => exact Nat.succ_le_succ (read speaker.file.holding address few)
      | readInput address count => exact Nat.succ_le_succ (read speaker.file.input address few)
      | writeSingle address value => exact (by decide : 4 ≤ 7)
      | writeMultiple address count data => exact (by decide : 4 ≤ 7)
    rw [speaker.perform_acknowledged crc16 acknowledged]
    refine Progress.permitted_spoken other (ProtocolRtuSlave.function_implemented request) ?_
    change (speaker.file.answer request ++ bigEndian _).length ≤ 9
    rw [List.length_append]
    exact Nat.add_le_add_right size 2
  · rw [speaker.perform_refused crc16 acknowledged]
    have unlisted : forall function, function ∈ ProtocolRtuSlave.implimentedFunctions ->
        functionCodeIsValid (function.code + 0x80) = false := by decide
    exact Progress.permitted_refusal (unlisted _ (ProtocolRtuSlave.function_implemented request))
      (by decide : 3 ≤ 4)

end Station

/-! ## Two wires -/

/-- The bytes this puts on the line. -/
def Outgoing.bytes : Outgoing -> List UInt8
  | reply bytes => bytes
  | _ => []

theorem Outgoing.bytes_silence (count : Nat) :
    (List.replicate count nothing).flatMap bytes = [] := by
  rw [List.flatMap_replicate]
  exact List.flatten_eq_nil_iff.mpr fun said listed => List.eq_of_mem_replicate listed

/-- What the slave at this place has said in a run of all of them. -/
def speech (outputs : List (List Outgoing)) (place : Nat) : List UInt8 :=
  (outputs.map fun answers => answers[place]?).flatMap fun answer => answer.elim [] Outgoing.bytes

section Wires

variable [TypeConversion]

/-- The node hears these bytes; the second result is what it says meanwhile. -/
def Node.listen (crc16 : Crc16) (node : Node) (bytes : List UInt8) :
    Checked (Node × List UInt8) := do
  let heard <- trace (Node.serve crc16) node (bytes.map LineEvent.character)
  return (heard.1, heard.2.flatMap Outgoing.bytes)

/-- A request after a timeout, which all nodes hear, and then what is said in
answer, which all others hear.  The results are what each node says in answer and
what it says while it hears the others. -/
def exchangeTogether (crc16 : Crc16) (nodes : List Node) (call : UInt8 × Request) :
    Checked (List Node × (List (List UInt8) × List (List UInt8))) := do
  let served <- trace (together (Node.serve crc16)) nodes
    (.timeout :: (call.2.wire crc16 call.1).map LineEvent.character)
  let spoken := (List.range nodes.length).map (speech served.2)
  let listened <- served.1.zipIdx.mapM fun entry =>
    entry.1.listen crc16 (spoken.eraseIdx entry.2).flatten
  return (listened.map Prod.fst, spoken, listened.map Prod.snd)

end Wires

/-- What a member does about a call: it performs and answers it, or lets it pass. -/
def Member.attend (crc16 : Crc16) (member : Member) (call : UInt8 × Request) :
    Member × List UInt8 :=
  if call.1 = member.station.slaveAddress then
    ({ member with station := (member.station.perform crc16 call.2).1 },
      (member.station.perform crc16 call.2).2)
  else (member, [])

theorem Member.attend_progress (crc16 : Crc16) (member : Member) (call : UInt8 × Request) :
    (member.attend crc16 call).1.station.progress = member.station.progress := by
  by_cases addressed : call.1 = member.station.slaveAddress
  · rw [attend, if_pos addressed]
    rfl
  · rw [attend, if_neg addressed]

theorem Member.attend_slaveAddress (crc16 : Crc16) (member : Member) (call : UInt8 × Request) :
    (member.attend crc16 call).1.station.slaveAddress = member.station.slaveAddress := by
  by_cases addressed : call.1 = member.station.slaveAddress
  · rw [attend, if_pos addressed]
    rfl
  · rw [attend, if_neg addressed]

/-- The members attend to the calls, and nobody interrupts. -/
def attendTogether (crc16 : Crc16) (members : List Member) (call : UInt8 × Request) :
    List Member × (List (List UInt8) × List (List UInt8)) :=
  (members.map fun member => (member.attend crc16 call).1,
    members.map fun member => (member.attend crc16 call).2, members.map fun _ => [])

/-! ## Who is heard -/

section Heard

variable (crc16 : Crc16) {members : List Member} (call : UInt8 × Request)

/-- Of members with different addresses at most one has an answer. -/
theorem attend_alone (distinct : (members.map fun member => member.station.slaveAddress).Nodup) :
    (members.flatMap fun member => (member.attend crc16 call).2) = [] ∨
      Exists fun speaker => speaker ∈ members ∧ call.1 = speaker.station.slaveAddress ∧
        (members.flatMap fun member => (member.attend crc16 call).2) =
          (speaker.station.perform crc16 call.2).2 := by
  induction members with
  | nil => exact Or.inl rfl
  | cons member rest inductionHypothesis =>
      rw [List.map_cons, List.nodup_cons] at distinct
      rw [List.flatMap_cons]
      by_cases addressed : call.1 = member.station.slaveAddress
      · have silent : (rest.flatMap fun member => (member.attend crc16 call).2) = [] := by
          rw [List.flatMap_eq_nil_iff]
          intro other listed
          have apart : call.1 ≠ other.station.slaveAddress := by
            intro same
            apply distinct.1
            rw [← addressed, same]
            exact List.mem_map_of_mem listed
          rw [Member.attend, if_neg apart]
        refine Or.inr ⟨member, List.mem_cons_self, addressed, ?_⟩
        rw [silent, List.append_nil, Member.attend, if_pos addressed]
      · have passed : (member.attend crc16 call).2 = [] := by
          rw [Member.attend, if_neg addressed]
        rw [passed, List.nil_append]
        rcases inductionHypothesis distinct.2 with silent | ⟨speaker, listed, same, spoken⟩
        · exact Or.inl silent
        · exact Or.inr ⟨speaker, List.mem_cons_of_mem member listed, same, spoken⟩

/-- What the others say passes by. -/
theorem others_passBy [TypeConversion]
    (distinct : (members.map fun member => member.station.slaveAddress).Nodup)
    (few : call.2.readCount ≤ 3) {place : Nat} {member : Member}
    (found : members[place]? = some member) :
    Permitted Progress.hear (Progress.PassesBy member.station.slaveAddress) .idle
      (((members.map fun member => (member.attend crc16 call).2).eraseIdx place).flatten.map
        LineEvent.character) := by
  have others : ((members.map fun member => (member.attend crc16 call).2).eraseIdx place).flatten =
      (members.eraseIdx place).flatMap fun member => (member.attend crc16 call).2 := by
    rw [List.eraseIdx_eq_take_drop_succ, List.eraseIdx_eq_take_drop_succ, ← List.map_take,
      ← List.map_drop, ← List.map_append]
    rfl
  have rest : ((members.eraseIdx place).map fun member => member.station.slaveAddress).Nodup :=
    distinct.sublist ((List.eraseIdx_sublist members place).map _)
  rw [others]
  rcases attend_alone crc16 call rest with silent | ⟨speaker, listed, same, spoken⟩
  · rw [silent]
    exact True.intro
  · rw [spoken]
    refine speaker.station.permitted_reply few fun twice => ?_
    rcases List.mem_eraseIdx_iff_getElem?.mp listed with ⟨elsewhere, apart, there⟩
    rcases List.getElem?_eq_some_iff.mp there with ⟨inside, _⟩
    have mapped : elsewhere < (members.map fun member => member.station.slaveAddress).length := by
      rw [List.length_map]
      exact inside
    apply apart
    apply (List.getElem?_inj mapped distinct).mp
    rw [List.getElem?_map, List.getElem?_map, there, found]
    exact congrArg some twice

end Heard

/-! ## One call -/

section Calls

variable [TypeConversion] {crc16 : Crc16}

/-- What a member says to a whole call is its answer. -/
theorem Member.behaviour_said (crc16 : Crc16) (member : Member) {call : UInt8 × Request}
    (wellFormed : (SessionEvent.request call.2).WellFormed) :
    (behaviour (Member.hear crc16) member
      (.timeout :: (call.2.wire crc16 call.1).map .character)).2.flatMap Outgoing.bytes =
        (member.attend crc16 call).2 := by
  rw [Member.behaviour_hear, Station.behaviour_request crc16 _ call.1 wellFormed, Member.attend]
  by_cases addressed : call.1 = member.station.slaveAddress
  · rw [if_pos addressed, if_pos addressed, List.flatMap_append, Outgoing.bytes_silence]
    exact List.append_nil _
  · rw [if_neg addressed, if_neg addressed]
    exact Outgoing.bytes_silence _

/-- A member that waits hears a whole call, and attends to it. -/
theorem Member.behaviour_call (crc16 : Crc16) (member : Member)
    (idle : member.station.progress = .idle) {call : UInt8 × Request}
    (wellFormed : (SessionEvent.request call.2).WellFormed) :
    (behaviour (Member.hear crc16) member
      (.timeout :: (call.2.wire crc16 call.1).map .character)).1 = (member.attend crc16 call).1 := by
  rcases member with ⟨h, i, slaveAddress, progress, file, dirty⟩
  have same : progress = .idle := idle
  subst same
  rw [Member.behaviour_hear, Station.behaviour_request crc16 _ call.1 wellFormed, Member.attend]
  by_cases addressed : call.1 = slaveAddress
  · rw [if_pos addressed, if_pos addressed]
    rfl
  · rw [if_neg addressed, if_neg addressed]

/-- One node, through any number of events. -/
theorem Node.trace_hears (depends : crc16.DependsOnPrefix) {progress : Progress} {node : Node}
    {events : List LineEvent} (inStep : node.InStep progress)
    (permitted : Permitted (nextState (Member.hear crc16)) (Member.Serviceable crc16)
      (node.member progress) events) :
    Exists fun final => trace (Node.serve crc16) node events =
        .ok (final, (behaviour (Member.hear crc16) (node.member progress) events).2) ∧
      Exists fun later => final.InStep later ∧
        final.member later = (behaviour (Member.hear crc16) (node.member progress) events).1 :=
  trace_follows (Node.serve crc16) (Member.hear crc16) (Member.Serviceable crc16)
    (fun member node => Exists fun progress => node.InStep progress ∧ node.member progress = member)
    (by
      rintro _ node event ⟨progress, inStep, rfl⟩ serviceable
      rcases Node.serve_hears depends inStep serviceable with ⟨next, served, kept, same⟩
      exact ⟨next, served, progress.hear event, kept, same⟩)
    ⟨progress, inStep, rfl⟩ permitted

/-- A node says nothing to bytes that pass by, and keeps what it has. -/
theorem Node.listen_passesBy (depends : crc16.DependsOnPrefix) {node : Node}
    (inStep : node.InStep .idle) {bytes : List UInt8}
    (passes : Permitted Progress.hear (Progress.PassesBy node.slaveAddress) .idle
      (bytes.map LineEvent.character)) :
    Exists fun heard => node.listen crc16 bytes = .ok heard ∧ heard.2 = [] ∧
      (Exists fun progress => heard.1.InStep progress) ∧
      heard.1.member .idle = node.member .idle := by
  have serviceable : Permitted (nextState (Member.hear crc16)) (Member.Serviceable crc16)
      (node.member .idle) (bytes.map LineEvent.character) := by
    rw [Member.permitted_hear]
    refine passes.imp fun progress event passesBy => ?_
    cases event with
    | timeout => exact True.intro
    | character pt =>
        exact ⟨passesBy.1, fun function body finished => absurd finished (passesBy.2 function body)⟩
  rcases node.trace_hears depends inStep serviceable with ⟨final, completes, later, kept, same⟩
  have silent := Station.behaviour_passesBy crc16 (node.slave.station .idle) passes
  have told : behaviour (Station.hear crc16) (node.member .idle).station
    (bytes.map LineEvent.character) = _ := silent
  rw [Member.behaviour_hear, told] at completes same
  refine ⟨(final, []), ?_, rfl, ⟨later, kept⟩, ?_⟩
  · rw [Node.listen, completes, ok_bind, Outgoing.bytes_silence]
    rfl
  · exact congrArg (fun member : Member =>
      { member with station := { member.station with progress := .idle } }) same

/-- The nodes may have read different bytes, but each stands for its member. -/
structure Abreast (members : List Member) (nodes : List Node) : Prop where
  inStep : forall node, node ∈ nodes -> Exists fun progress => node.InStep progress
  member_eq : nodes.map (Node.member .idle) = members
  distinct : (members.map fun member => member.station.slaveAddress).Nodup

theorem together_timeout (crc16 : Crc16) (nodes : List Node) :
    together (Node.serve crc16) nodes .timeout =
      .ok (nodes.map Node.reset, nodes.map fun _ => .nothing) := by
  induction nodes with
  | nil => rfl
  | cons node rest inductionHypothesis =>
      have served : node.serve crc16 .timeout = .ok (node.reset, .nothing) := rfl
      rw [together, served, ok_bind, inductionHypothesis, ok_bind]
      rfl

variable {members : List Member} {nodes : List Node} {call : UInt8 × Request}

/-- All nodes hear the call from its first byte on. -/
theorem trace_call (depends : crc16.DependsOnPrefix) (abreast : Abreast members nodes)
    (wellFormed : (SessionEvent.request call.2).WellFormed) :
    Exists fun finals =>
      trace (together (Node.serve crc16)) nodes
          (.timeout :: (call.2.wire crc16 call.1).map .character) =
        .ok (finals, (behaviour (hearTogether crc16) members
          (.timeout :: (call.2.wire crc16 call.1).map .character)).2) ∧
      (forall node, node ∈ finals -> node.InStep .idle) ∧
      finals.map (Node.member .idle) = members.map fun member => (member.attend crc16 call).1 := by
  rcases abreast with ⟨inStep, rfl, _⟩
  have small : forall node, node ∈ nodes -> node.Small := by
    intro node listed
    rcases inStep node listed with ⟨_, _, small⟩
    exact small
  have still : nextState (hearTogether crc16) (nodes.map (Node.member .idle)) .timeout =
      nodes.map (Node.member .idle) := by
    rw [nextState, hearTogether, inParallel, List.map_map]
    rfl
  have permitted := (permitted_requestTogether crc16 (nodes.map (Node.member .idle)) call.1
    wellFormed).2
  rw [still] at permitted
  rcases traceTogether_hears depends (reset_standTogether small) permitted with
    ⟨finals, completes, progress, kept, heard⟩
  have ended : (behaviour (hearTogether crc16) (nodes.map (Node.member .idle))
      (.timeout :: (call.2.wire crc16 call.1).map .character)).1 =
        (nodes.map (Node.member .idle)).map fun member => (member.attend crc16 call).1 := by
    rw [hearTogether, behaviour_inParallel_state]
    refine List.map_congr_left fun member listed => ?_
    rcases List.mem_map.mp listed with ⟨node, _, rfl⟩
    exact Member.behaviour_call crc16 (node.member .idle) rfl wellFormed
  rw [behaviour_cons, still, heard] at ended
  have waiting : forall node, node ∈ finals -> progress = .idle := by
    intro node listed
    have member : node.member progress ∈ finals.map (Node.member progress) :=
      List.mem_map_of_mem listed
    rw [ended] at member
    rcases List.mem_map.mp member with ⟨before, found, same⟩
    rcases List.mem_map.mp found with ⟨start, _, rfl⟩
    have idle := Member.attend_progress crc16 (start.member .idle) call
    rw [same] at idle
    exact idle
  refine ⟨finals, ?_, fun node listed => ?_, ?_⟩
  · rw [trace_cons, together_timeout, ok_bind, completes, ok_bind, behaviour_cons, still]
    have answers : (hearTogether crc16 (nodes.map (Node.member .idle)) .timeout).2 =
        nodes.map fun _ => .nothing := List.map_map
    rw [answers]
  · have inStep := kept node listed
    rw [waiting node listed] at inStep
    exact inStep
  · rw [← ended]
    exact List.map_congr_left fun node listed => by rw [waiting node listed]

/-- What the nodes have said is what the members say. -/
theorem speech_attend (crc16 : Crc16) (members : List Member) (call : UInt8 × Request)
    (wellFormed : (SessionEvent.request call.2).WellFormed) :
    (List.range members.length).map (speech (behaviour (hearTogether crc16) members
        (.timeout :: (call.2.wire crc16 call.1).map .character)).2) =
      members.map fun member => (member.attend crc16 call).2 := by
  apply List.ext_getElem
  · rw [List.length_map, List.length_map, List.length_range]
  · intro place inside within
    rw [List.length_map] at within
    have found : members[place]? = some members[place] := List.getElem?_eq_getElem within
    rw [List.getElem_map, List.getElem_map, List.getElem_range, speech, hearTogether,
      behaviour_inParallel_outputs (Member.hear crc16) found, List.flatMap_map]
    exact Member.behaviour_said crc16 members[place] wellFormed

/-- Nobody has anything to say to what the others said. -/
theorem listen_others (depends : crc16.DependsOnPrefix) {finals : List Node}
    (distinct : (members.map fun member => member.station.slaveAddress).Nodup)
    (few : call.2.readCount ≤ 3) (inStep : forall node, node ∈ finals -> node.InStep .idle)
    (ended : finals.map (Node.member .idle) = members.map fun member => (member.attend crc16 call).1) :
    Exists fun heard =>
      (finals.zipIdx.mapM fun entry => entry.1.listen crc16
        ((members.map fun member => (member.attend crc16 call).2).eraseIdx entry.2).flatten) =
          .ok heard ∧
      List.Forall₂ (fun entry after => after.2 = [] ∧
        (Exists fun progress => after.1.InStep progress) ∧
        after.1.member .idle = entry.1.member .idle) finals.zipIdx heard := by
  apply mapM_related
  rintro ⟨node, place⟩ listed
  have there : finals[place]? = some node := List.mk_mem_zipIdx_iff_getElem?.mp listed
  have same := congrArg (fun members => members[place]?) ended
  simp only [List.getElem?_map, there] at same
  rcases Option.map_eq_some_iff.mp same.symm with ⟨member, found, attended⟩
  have address : node.slaveAddress = member.station.slaveAddress := by
    have kept := Member.attend_slaveAddress crc16 member call
    rw [attended] at kept
    exact kept
  have passes := others_passBy crc16 call distinct few found
  rw [← address] at passes
  exact node.listen_passesBy depends (inStep node (List.mem_of_getElem? there)) passes

/-- One call on two wires. -/
theorem exchangeTogether_attends (depends : crc16.DependsOnPrefix)
    (abreast : Abreast members nodes) (wellFormed : (SessionEvent.request call.2).WellFormed)
    (few : call.2.readCount ≤ 3) :
    Exists fun nexts =>
      exchangeTogether crc16 nodes call = .ok (nexts, (attendTogether crc16 members call).2) ∧
      Abreast (nextState (attendTogether crc16) members call) nexts := by
  rcases trace_call depends abreast wellFormed with ⟨finals, completes, inStep, ended⟩
  rcases listen_others depends abreast.distinct few inStep ended with ⟨heard, listened, moved⟩
  have count : nodes.length = members.length := by
    rw [← abreast.member_eq, List.length_map]
  have spoken := speech_attend crc16 members call wellFormed
  rw [← count] at spoken
  have silent : heard.map Prod.snd = members.map fun _ => [] := by
    have sizes : finals.length = members.length := by
      have same := congrArg List.length ended
      rwa [List.length_map, List.length_map] at same
    have each : heard.map Prod.snd = finals.zipIdx.map fun _ => [] :=
      map_related (moved.imp fun _ _ all => all.1)
    rw [each, List.map_const', List.map_const', List.length_zipIdx, sizes]
  refine ⟨heard.map Prod.fst, ?_, ?_, ?_, ?_⟩
  · rw [exchangeTogether, completes, ok_bind, spoken]
    change (finals.zipIdx.mapM _ >>= _) = _
    rw [listened, ok_bind, silent]
    rfl
  · intro next listed
    rcases List.mem_map.mp listed with ⟨after, found, rfl⟩
    rcases related_before moved found with ⟨_, _, _, stands, _⟩
    exact stands
  · have kept : heard.map (Node.member .idle ∘ Prod.fst) =
        finals.zipIdx.map (Node.member .idle ∘ Prod.fst) :=
      map_related (moved.imp fun _ _ all => all.2.2)
    rw [List.map_map, kept, ← List.map_map, List.zipIdx_map_fst, ended]
    rfl
  · have addresses : (nextState (attendTogether crc16) members call).map
        (fun member => member.station.slaveAddress) =
          members.map fun member => member.station.slaveAddress := by
      rw [nextState, attendTogether, List.map_map]
      exact List.map_congr_left fun member _ => Member.attend_slaveAddress crc16 member call
    rw [addresses]
    exact abreast.distinct

/-- The calls considered read at most three registers each. -/
def Brief (call : UInt8 × Request) : Prop :=
  (SessionEvent.request call.2).WellFormed ∧ call.2.readCount ≤ 3

end Calls

/-- Slaves 1 and 2, with seven and three holding registers. -/
def wiredNodes : List Node :=
  [{ h := 7, i := 2, slave := zeroSlave 7 2 },
    { h := 3, i := 2, slave := (zeroSlave 3 2).setAddress 2 }]

/-- Four registers are too many: the last five bytes of the reply are a frame of
slave 2 with a function it has not implemented, which it refuses. -/
example :
    letI := TypeConversion.shifting
    letI calls : List (UInt8 × Request) :=
      [(1, .writeMultiple 0 4 [0, 0, 0, 16, 191, 2, 1, 0]), (1, .readHolding 0 4)]
    (trace (exchangeTogether .modbus) (wiredNodes.map Node.reset) calls).toOption.map
      (fun run => run.2.map Prod.snd) = some [[[], []], [[], [2, 0x81, 1, 0x71, 0x90]]] := by
  decide +kernel

end Modbus
