import ModbusBasic.Transition.Runs
import ModbusBasic.Protocol.ReadContext
import ModbusBasic.Reader.Progress

namespace Modbus

open Memory Transition

/-!
# The countdown reader simulates the abstract one

`Represents` relates the reading progress to a `ReadContext` and its frame: the
countdown is the number of bytes missing from the metadata or from the body,
and the receive buffer starts with the body received so far.  What lies behind
the body in the buffer is not constrained.

A step from a complete frame is not part of the simulation: there the context
starts over but the frame keeps its length.
-/

variable {n : Nat}

/-! ## The simulation relation -/

/-- The countdown and the state between the function byte and the last byte. -/
inductive Counts (function : Function) (body : List UInt8) (context : ReadContext) : Prop
  | inMeta (state : context.state = .kMeta) (short : body.length < metaLength function)
      (remaining : context.bytesToRead = calculateMetaDataBytesRemaining function - body.length)
  | inData (state : context.state = .kData) (told : metaLength function ≤ body.length)
      (short : body.length < expectedLength function body)
      (remaining : context.bytesToRead = expectedLength function body - body.length)

def Represents : Progress -> ReadContext × Frame n -> Prop
  | .idle, (context, frame) => context.state = .kAddress ∧ frame.dataLength = 0
  | .addressed address, (context, frame) =>
      context.state = .kFunction ∧ frame.address = address ∧ frame.dataLength = 0
  | .receiving address function body, (context, frame) =>
      Holds frame address function body ∧ Counts function body context
  | .complete address function body, (context, frame) =>
      Holds frame address function body ∧ context.state = .kDone ∧
        body.length = expectedLength function body

/-- The steps the simulation covers: there is room for the byte, and no frame
is complete. -/
def HasRoom (n : Nat) : Progress -> UInt8 -> Prop
  | .idle, _ => True
  | .addressed _, _ => True
  | .receiving _ _ body, _ => body.length < n
  | .complete _ _ _, _ => False

/-- The two tables of the reader agree with the abstract lengths. -/
theorem calculateMetaDataBytesRemaining_eq (function : Function) :
    calculateMetaDataBytesRemaining function ≤ metaLength function ∧
      (metaLength function : Int) ≤ max 1 (calculateMetaDataBytesRemaining function) := by
  unfold calculateMetaDataBytesRemaining metaLength
  split
  · decide
  · split
    · decide
    · split
      · decide
      · split <;> decide

/-- What is asked for once the metadata is there is what the length told leaves
behind it. -/
theorem calculateBytesRemaining_eq {frame : Frame n} {address : UInt8} {function : Function}
    {body : List UInt8} (holds : Holds frame address function body)
    (told : metaLength function ≤ body.length) :
    Exists fun remaining => calculateBytesRemaining frame = .ok remaining ∧
      remaining + 2 = (expectedLength function body : Int) - metaLength function := by
  rcases function_cases function with isRead | isInput | isSingle | isMultiple | other
  · subst isRead
    refine ⟨0, ?_, rfl⟩
    unfold calculateBytesRemaining
    rw [holds.function_eq]
    rfl
  · subst isInput
    refine ⟨0, ?_, rfl⟩
    unfold calculateBytesRemaining
    rw [holds.function_eq]
    rfl
  · subst isSingle
    refine ⟨2, ?_, rfl⟩
    unfold calculateBytesRemaining
    rw [holds.function_eq]
    rfl
  · subst isMultiple
    change 5 ≤ body.length at told
    have counted : body[4]? = some (body.getD 4 0) := by
      rw [List.getD_eq_getElem?_getD, List.getElem?_eq_getElem (by omega), Option.getD_some]
    have loaded : load frame.dataArray 4 = .ok (body.getD 4 0) :=
      load_eq_ok.mpr ((holds.getElem? (by omega)).trans counted)
    refine ⟨(body.getD 4 0).toNat, ?_, ?_⟩
    · unfold calculateBytesRemaining
      rw [holds.function_eq]
      change (load frame.dataArray 4 >>= fun count => pure (count.toNat : Int)) = _
      rw [loaded, ok_bind, pure_eq_ok]
    · change _ = ((7 + (body.getD 4 0).toNat : Nat) : Int) - (5 : Nat)
      omega
  · rw [metaLength_other other, expectedLength_other other]
    refine ⟨0, ?_, rfl⟩
    unfold calculateBytesRemaining
    rw [holds.function_eq, if_neg other.1, if_neg other.2.1, if_neg other.2.2.1, if_neg other.2.2.2]

/-! ## One byte -/

private theorem step_inMeta {context : ReadContext} {frame : Frame n} {address : UInt8}
    {function : Function} {body : List UInt8} (byte : UInt8)
    (holds : Holds frame address function body) (state : context.state = .kMeta)
    (short : body.length < metaLength function)
    (remaining : context.bytesToRead = calculateMetaDataBytesRemaining function - body.length)
    (room : body.length < n) :
    Exists fun next => context.processCharacter frame byte = .ok next ∧
      Represents (.receiving address function (body ++ [byte])) next := by
  rcases holds.append byte room with ⟨extended, appended, holds⟩
  have tables := calculateMetaDataBytesRemaining_eq function
  have longer : (body ++ [byte]).length = body.length + 1 := by simp
  by_cases last : context.bytesToRead - 1 ≤ 0
  · have told : (body ++ [byte]).length = metaLength function := by omega
    rcases calculateBytesRemaining_eq holds (Nat.le_of_eq told.symm) with ⟨bytes, calculated, sum⟩
    have positive := metaLength_lt_expectedLength function (body ++ [byte])
    have notDone : ¬ bytes + (Command.kFooterLength : Int) = 0 := by
      change ¬ bytes + 2 = 0
      omega
    refine ⟨({ state := .kData, bytesToRead := bytes + 2 }, extended), ?_, holds,
      .inData rfl (Nat.le_of_eq told.symm) (by omega) (by rw [sum, told])⟩
    simp only [ReadContext.processCharacter, state, appended, ok_bind, last, if_true, calculated,
      notDone, if_false, pure_eq_ok]
    rfl
  · refine ⟨({ context with bytesToRead := context.bytesToRead - 1 }, extended), ?_, holds,
      .inMeta state (by omega) ?_⟩
    · simp only [ReadContext.processCharacter, state, appended, ok_bind, last, if_false,
        pure_eq_ok]
    · change context.bytesToRead - 1 = _
      omega

private theorem step_inData {context : ReadContext} {frame : Frame n} {address : UInt8}
    {function : Function} {body : List UInt8} (byte : UInt8)
    (holds : Holds frame address function body) (state : context.state = .kData)
    (told : metaLength function ≤ body.length) (short : body.length < expectedLength function body)
    (remaining : context.bytesToRead = expectedLength function body - body.length)
    (room : body.length < n) :
    Exists fun next => context.processCharacter frame byte = .ok next ∧
      Represents ((Progress.receiving address function body).advance byte) next := by
  rcases holds.append byte room with ⟨extended, appended, holds⟩
  have longer : (body ++ [byte]).length = body.length + 1 := by simp
  have settled := expectedLength_append function told [byte]
  by_cases last : context.bytesToRead - 1 ≤ 0
  · have whole : (body ++ [byte]).length = expectedLength function (body ++ [byte]) := by omega
    refine ⟨({ state := .kDone, bytesToRead := context.bytesToRead - 1 }, extended), ?_, ?_⟩
    · simp only [ReadContext.processCharacter, state, appended, ok_bind, last, if_true, pure_eq_ok]
    · rw [Progress.advance, if_pos whole]
      exact ⟨holds, rfl, whole⟩
  · have notWhole : (body ++ [byte]).length ≠ expectedLength function (body ++ [byte]) := by omega
    refine ⟨({ context with bytesToRead := context.bytesToRead - 1 }, extended), ?_, ?_⟩
    · simp only [ReadContext.processCharacter, state, appended, ok_bind, last, if_false,
        pure_eq_ok]
    · rw [Progress.advance, if_neg notWhole]
      refine ⟨holds, .inData state (by omega) (by omega) ?_⟩
      change context.bytesToRead - 1 = _
      omega

/-- One byte, read by both. -/
theorem step_simulates {progress : Progress} {reader : ReadContext × Frame n} {byte : UInt8}
    (represents : Represents progress reader) (room : HasRoom n progress byte) :
    Exists fun next => reader.1.processCharacter reader.2 byte = .ok next ∧
      Represents (progress.advance byte) next := by
  rcases reader with ⟨context, frame⟩
  cases progress with
  | idle =>
      rcases represents with ⟨state, empty⟩
      refine ⟨({ state := .kFunction, bytesToRead := context.bytesToRead - 1 },
        { frame with address := byte }), ?_, rfl, rfl, empty⟩
      simp only [ReadContext.processCharacter, state]
  | addressed address =>
      rcases represents with ⟨state, sameAddress, empty⟩
      by_cases valid : functionCodeIsValid byte = true
      · refine ⟨_, by simp only [ReadContext.processCharacter, state, valid, if_true]; rfl, ?_⟩
        rw [Progress.advance, if_pos valid, getFunction_valid valid]
        exact ⟨⟨sameAddress, rfl, empty, List.take_zero⟩,
          .inMeta rfl (metaLength_pos ⟨byte⟩) (by simp)⟩
      · refine ⟨(context.reset, frame), ?_, ?_⟩
        · simp only [ReadContext.processCharacter, state, valid]
          rfl
        · rw [Progress.advance, if_neg valid]
          exact ⟨rfl, empty⟩
  | receiving address function body =>
      rcases represents with ⟨holds, counts⟩
      cases counts with
      | inMeta state short remaining =>
          have notWhole : (body ++ [byte]).length ≠ expectedLength function (body ++ [byte]) := by
            have := metaLength_lt_expectedLength function (body ++ [byte])
            rw [List.length_append, List.length_singleton]
            omega
          rw [Progress.advance, if_neg notWhole]
          exact step_inMeta byte holds state short remaining room
      | inData state told short remaining =>
          exact step_inData byte holds state told short remaining room
  | complete address function body => exact False.elim room

/-! ## Runs of the reader -/

/-- The reader as a machine: the context and the frame it fills. -/
def readStep (reader : ReadContext × Frame n) (byte : UInt8) :
    Checked (ReadContext × Frame n) :=
  reader.1.processCharacter reader.2 byte

theorem read_simulates {progress : Progress} {reader : ReadContext × Frame n}
    {bytes : List UInt8} (represents : Represents progress reader)
    (room : Permitted Progress.advance (HasRoom n) progress bytes) :
    Exists fun result => run readStep reader bytes = .ok result ∧
      Represents (bytes.foldl Progress.advance progress) result :=
  run_simulates readStep Progress.advance (HasRoom n) Represents
    (fun _ _ _ represents room => step_simulates represents room) represents room

/-- The reader reports a packet exactly in a complete frame. -/
theorem Represents.packetReceived {progress : Progress} {reader : ReadContext × Frame n}
    (represents : Represents progress reader) :
    reader.1.packetReceived = progress.isComplete := by
  rcases reader with ⟨context, frame⟩
  unfold ReadContext.packetReceived
  cases progress with
  | idle =>
      rw [represents.1]
      rfl
  | addressed address =>
      rw [represents.1]
      rfl
  | receiving address function body =>
      cases represents.2 with
      | inMeta state => rw [state]; rfl
      | inData state => rw [state]; rfl
  | complete address function body =>
      rw [represents.2.1]
      rfl

/-! ## There is room for every frame that fits -/

theorem permitted_receiving (address : UInt8) (function : Function) (body more : List UInt8)
    (fits : (body ++ more).length ≤ n)
    (short : forall front rest, more = front ++ rest -> front ≠ [] -> rest ≠ [] ->
      (body ++ front).length ≠ expectedLength function (body ++ front)) :
    Permitted Progress.advance (HasRoom n) (.receiving address function body) more := by
  induction more generalizing body with
  | nil => exact True.intro
  | cons byte rest inductionHypothesis =>
      rw [List.length_append, List.length_cons] at fits
      refine ⟨by change body.length < n; omega, ?_⟩
      by_cases last : rest = []
      · rw [last]
        exact True.intro
      · rw [Progress.advance, if_neg (short [byte] rest rfl (List.cons_ne_nil _ _) last)]
        apply inductionHypothesis
        · simp only [List.length_append, List.length_singleton]
          omega
        · intro front tail split _ proper
          rw [List.append_assoc]
          exact short ([byte] ++ front) tail (by simp [split]) (by simp) proper

theorem permitted_frame (address : UInt8) {code : UInt8} (valid : functionCodeIsValid code)
    {body : List UInt8} (whole : body.length = expectedLength ⟨code⟩ body)
    (fits : body.length ≤ n) :
    Permitted Progress.advance (HasRoom n) .idle (address :: code :: body) := by
  refine ⟨True.intro, True.intro, ?_⟩
  rw [Progress.advance, Progress.advance, if_pos valid]
  apply permitted_receiving
  · rw [List.nil_append]
    exact fits
  · intro front rest split _ proper
    rw [List.nil_append]
    exact Nat.ne_of_lt (expectedLength_front ⟨code⟩ front rest (by rw [← split]; exact whole) proper)

theorem permitted_junk (n : Nat) (junk : List (UInt8 × UInt8))
    (invalid : forall pair, pair ∈ junk -> functionCodeIsValid pair.2 = false) :
    Permitted Progress.advance (HasRoom n) .idle (junk.flatMap fun pair => [pair.1, pair.2]) := by
  induction junk with
  | nil => exact True.intro
  | cons pair rest inductionHypothesis =>
      have bad := invalid pair (List.mem_cons.mpr (Or.inl rfl))
      rw [List.flatMap_cons]
      refine ⟨True.intro, True.intro, ?_⟩
      rw [Progress.advance, Progress.advance, bad]
      exact inductionHypothesis (fun other member =>
        invalid other (List.mem_cons.mpr (Or.inr member)))

/-- With room for `n` bytes behind the function byte no more are received. -/
theorem body_length_advance {progress : Progress} {byte : UInt8}
    (short : progress.body.length ≤ n) (room : HasRoom n progress byte) :
    (progress.advance byte).body.length ≤ n := by
  cases progress with
  | idle => exact Nat.zero_le n
  | addressed address =>
      rw [Progress.advance]
      split
      · exact Nat.zero_le n
      · exact Nat.zero_le n
  | receiving address function body =>
      have grown : (body ++ [byte]).length ≤ n := by
        rw [List.length_append]
        exact room
      rw [Progress.advance]
      split
      · exact grown
      · exact grown
  | complete address function body => exact False.elim room

/-- What is permitted in full is permitted up to any point. -/
theorem permitted_front {progress : Progress} {front rest : List UInt8}
    (room : Permitted Progress.advance (HasRoom n) progress (front ++ rest)) :
    Permitted Progress.advance (HasRoom n) progress front :=
  ((permitted_append _ _ _ _ _).mp room).1

end Modbus
