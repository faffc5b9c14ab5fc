import Mathlib.Data.List.GetD
import ModbusBasic.Protocol.Definitions

namespace Modbus

/-!
# What the reader is for

An abstract receiver that keeps the bytes of the current frame as lists.  It
waits for an address byte and a valid function byte, then collects a body whose
length the function, and for a multiple write the byte count in the body,
determine.  An invalid function byte sends it back to waiting for an address.

Nothing here mentions the countdown, the receive buffer or its capacity; the
simulation in `Reader.Simulation` connects the two.
-/

/-- The bytes behind the function byte, checksum included, that make a frame
complete.  Only a multiple write looks at the body: its fifth byte is the number
of data bytes. -/
def expectedLength (function : Function) (body : List UInt8) : Nat :=
  if function = .kReadMultipleHoldingRegisters then 6
  else if function = .kReadInputRegisters then 6
  else if function = .kWriteSingleHoldingRegister then 6
  else if function = .kWriteMultipleHoldingRegisters then 7 + (body.getD 4 0).toNat
  else 3

/-- The part of a body the reader needs before it can tell its length. -/
def metaLength (function : Function) : Nat :=
  if function = .kReadMultipleHoldingRegisters then 4
  else if function = .kReadInputRegisters then 4
  else if function = .kWriteSingleHoldingRegister then 2
  else if function = .kWriteMultipleHoldingRegisters then 5
  else 1

inductive Progress
  | idle
  | addressed (address : UInt8)
  | receiving (address : UInt8) (function : Function) (body : List UInt8)
  | complete (address : UInt8) (function : Function) (body : List UInt8)
deriving DecidableEq

namespace Progress

/-- One byte.  A byte after a complete frame is swallowed. -/
def advance : Progress -> UInt8 -> Progress
  | idle, byte => addressed byte
  | addressed address, byte =>
      if functionCodeIsValid byte then receiving address ⟨byte⟩ [] else idle
  | receiving address function body, byte =>
      if (body ++ [byte]).length = expectedLength function (body ++ [byte]) then
        complete address function (body ++ [byte])
      else receiving address function (body ++ [byte])
  | complete _ _ _, _ => idle

def isComplete : Progress -> Bool
  | complete _ _ _ => true
  | _ => false

/-- The bytes received since the reader last waited for an address. -/
def rawBytes : Progress -> List UInt8
  | idle => []
  | addressed address => [address]
  | receiving address function body => address :: function.code :: body
  | complete address function body => address :: function.code :: body

/-- The bytes received behind the function byte. -/
def body : Progress -> List UInt8
  | idle => []
  | addressed _ => []
  | receiving _ _ bytes => bytes
  | complete _ _ bytes => bytes

end Progress

/-- The function bytes taken are valid ones, and a frame is complete at the
length its body tells. -/
def Progress.Sound : Progress -> Prop
  | idle => True
  | addressed _ => True
  | receiving _ function _ => functionCodeIsValid function.code = true
  | complete _ function body =>
      functionCodeIsValid function.code = true ∧ body.length = expectedLength function body

/-! ## Lengths -/

/-- Not one of the four functions whose length the reader knows. -/
def UnknownLength (function : Function) : Prop :=
  function ≠ .kReadMultipleHoldingRegisters ∧ function ≠ .kReadInputRegisters ∧
    function ≠ .kWriteSingleHoldingRegister ∧ function ≠ .kWriteMultipleHoldingRegisters

theorem function_cases (function : Function) :
    function = .kReadMultipleHoldingRegisters ∨ function = .kReadInputRegisters ∨
      function = .kWriteSingleHoldingRegister ∨ function = .kWriteMultipleHoldingRegisters ∨
      UnknownLength function := by
  unfold UnknownLength
  by_cases isRead : function = .kReadMultipleHoldingRegisters
  · exact Or.inl isRead
  by_cases isInput : function = .kReadInputRegisters
  · exact Or.inr (Or.inl isInput)
  by_cases isSingle : function = .kWriteSingleHoldingRegister
  · exact Or.inr (Or.inr (Or.inl isSingle))
  by_cases isMultiple : function = .kWriteMultipleHoldingRegisters
  · exact Or.inr (Or.inr (Or.inr (Or.inl isMultiple)))
  · exact Or.inr (Or.inr (Or.inr (Or.inr ⟨isRead, isInput, isSingle, isMultiple⟩)))

theorem expectedLength_other {function : Function} (other : UnknownLength function)
    (body : List UInt8) : expectedLength function body = 3 := by
  rw [expectedLength, if_neg other.1, if_neg other.2.1, if_neg other.2.2.1, if_neg other.2.2.2]

theorem metaLength_other {function : Function} (other : UnknownLength function) :
    metaLength function = 1 := by
  rw [metaLength, if_neg other.1, if_neg other.2.1, if_neg other.2.2.1, if_neg other.2.2.2]

theorem metaLength_pos (function : Function) : 0 < metaLength function := by
  rcases function_cases function with rfl | rfl | rfl | rfl | other
  · exact Nat.succ_pos 3
  · exact Nat.succ_pos 3
  · exact Nat.succ_pos 1
  · exact Nat.succ_pos 4
  · exact metaLength_other other ▸ Nat.one_pos

theorem metaLength_le (function : Function) : metaLength function ≤ 5 := by
  rcases function_cases function with rfl | rfl | rfl | rfl | other
  · exact (by decide : 4 ≤ 5)
  · exact (by decide : 4 ≤ 5)
  · exact (by decide : 2 ≤ 5)
  · exact Nat.le_refl 5
  · exact metaLength_other other ▸ (by decide : 1 ≤ 5)

/-- A body is never complete before its length can be told. -/
theorem metaLength_lt_expectedLength (function : Function) (body : List UInt8) :
    metaLength function < expectedLength function body := by
  rcases function_cases function with rfl | rfl | rfl | rfl | other
  · change 4 < 6
    decide
  · change 4 < 6
    decide
  · change 2 < 6
    decide
  · change 5 < 7 + _
    omega
  · rw [metaLength_other other, expectedLength_other other]
    decide

/-- Once its length can be told, it no longer changes. -/
theorem expectedLength_append (function : Function) {body : List UInt8}
    (told : metaLength function ≤ body.length) (rest : List UInt8) :
    expectedLength function (body ++ rest) = expectedLength function body := by
  rcases function_cases function with rfl | rfl | rfl | rfl | other
  · rfl
  · rfl
  · rfl
  · change 5 ≤ body.length at told
    change 7 + ((body ++ rest).getD 4 0).toNat = 7 + (body.getD 4 0).toNat
    rw [List.getD_append _ _ _ _ told]
  · rw [expectedLength_other other, expectedLength_other other]

/-- A proper front of a body of the expected length is not complete. -/
theorem expectedLength_front (function : Function) (front rest : List UInt8)
    (whole : (front ++ rest).length = expectedLength function (front ++ rest))
    (proper : rest ≠ []) : front.length < expectedLength function front := by
  rcases Nat.lt_or_ge front.length (metaLength function) with short | told
  · exact Nat.lt_trans short (metaLength_lt_expectedLength function front)
  · rw [← expectedLength_append function told rest, ← whole, List.length_append]
    have := List.length_pos_iff.mpr proper
    omega

/-! ## Reading one whole frame -/

namespace Progress

theorem sound_advance {progress : Progress} (sound : progress.Sound) (byte : UInt8) :
    (progress.advance byte).Sound := by
  cases progress with
  | idle => exact True.intro
  | addressed address =>
      by_cases valid : functionCodeIsValid byte = true
      · rw [advance, if_pos valid]
        exact valid
      · rw [advance, if_neg valid]
        exact True.intro
  | receiving address function body =>
      by_cases whole : (body ++ [byte]).length = expectedLength function (body ++ [byte])
      · rw [advance, if_pos whole]
        exact ⟨sound, whole⟩
      · rw [advance, if_neg whole]
        exact sound
  | complete address function body => exact True.intro

/-- From the function byte on, the reader collects any body it cannot yet take
for complete. -/
theorem foldl_receiving (address : UInt8) (function : Function) (body more : List UInt8)
    (short : forall front rest, more = front ++ rest -> front ≠ [] ->
      (body ++ front).length ≠ expectedLength function (body ++ front)) :
    more.foldl advance (receiving address function body) =
      receiving address function (body ++ more) := by
  induction more generalizing body with
  | nil => simp
  | cons byte rest inductionHypothesis =>
      have notYet := short [byte] rest rfl (List.cons_ne_nil _ _)
      rw [List.foldl_cons, advance, if_neg notYet, inductionHypothesis (body ++ [byte])]
      · simp
      · intro front tail split nonempty
        rw [List.append_assoc]
        exact short ([byte] ++ front) tail (by simp [split]) (by simp)

/-- A proper front of a frame leaves the reader in that frame. -/
theorem foldl_frame_front (address : UInt8) {code : UInt8} (valid : functionCodeIsValid code)
    {front rest : List UInt8} (proper : rest ≠ [])
    (whole : (front ++ rest).length = expectedLength ⟨code⟩ (front ++ rest)) :
    (address :: code :: front).foldl advance idle = receiving address ⟨code⟩ front := by
  rw [List.foldl_cons, advance, List.foldl_cons, advance, if_pos valid, foldl_receiving]
  · simp
  · intro part tail split _
    have shorter := expectedLength_front ⟨code⟩ part (tail ++ rest)
      (by rw [← List.append_assoc, ← split]; exact whole) (by simp [proper])
    rw [List.nil_append]
    exact Nat.ne_of_lt shorter

/-- A frame is complete with its last byte. -/
theorem foldl_frame (address : UInt8) {code : UInt8} (valid : functionCodeIsValid code)
    {body : List UInt8} (whole : body.length = expectedLength ⟨code⟩ body) :
    (address :: code :: body).foldl advance idle = complete address ⟨code⟩ body := by
  have nonempty : body ≠ [] := by
    intro empty
    rw [empty] at whole
    have := metaLength_lt_expectedLength ⟨code⟩ []
    simp only [List.length_nil] at whole
    omega
  have split := (List.dropLast_concat_getLast nonempty).symm
  rw [split, ← List.cons_append, ← List.cons_append, List.foldl_append,
    foldl_frame_front address valid (List.cons_ne_nil _ _) (by rw [← split]; exact whole),
    List.foldl_cons, List.foldl_nil, advance, ← split, if_pos whole]

/-- Pairs of an address byte and an invalid function byte leave no trace. -/
theorem foldl_junk (junk : List (UInt8 × UInt8))
    (invalid : forall pair, pair ∈ junk -> functionCodeIsValid pair.2 = false) :
    (junk.flatMap fun pair => [pair.1, pair.2]).foldl advance idle = idle := by
  induction junk with
  | nil => rfl
  | cons pair rest inductionHypothesis =>
      have bad := invalid pair (List.mem_cons.mpr (Or.inl rfl))
      rw [List.flatMap_cons, List.foldl_append, List.foldl_cons, advance, List.foldl_cons, advance,
        bad, List.foldl_nil]
      exact inductionHypothesis (fun other member =>
        invalid other (List.mem_cons.mpr (Or.inr member)))

end Progress

end Modbus
