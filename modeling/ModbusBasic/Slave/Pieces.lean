import Mathlib.Algebra.GroupWithZero.Nat
import Mathlib.Data.List.SplitLengths
import ModbusBasic.Slave.Retries

namespace Modbus

open Memory TypeConversion Transition

/-!
# Blocks in pieces

A request carries at most 123 registers and a reply at most 125, so a longer
block travels in pieces, one call behind the other.  However it is cut, the pieces
together are the block: what is written in some pieces is read back in any others.
-/

variable {h i : Nat}

/-! ## Calls -/

namespace RegisterCall

/-- Writes of the pieces, one behind the other. -/
def writePieces (address : Nat) : List (List UInt16) -> List RegisterCall
  | [] => []
  | piece :: rest => .writeMultiple (UInt16.ofNat address) piece ::
      writePieces (address + piece.length) rest

/-- Reads of so many registers each. -/
def readPieces (address : Nat) : List Nat -> List RegisterCall
  | [] => []
  | count :: rest => .readHolding (UInt16.ofNat address) (UInt16.ofNat count) ::
      readPieces (address + count) rest

theorem writePieces_bounded {address : Nat} {pieces : List (List UInt16)}
    (short : forall piece, piece ∈ pieces -> piece.length ≤ 123) {call : RegisterCall}
    (listed : call ∈ writePieces address pieces) : call.Bounded := by
  induction pieces generalizing address with
  | nil => exact absurd listed List.not_mem_nil
  | cons piece rest inductionHypothesis =>
      rcases List.mem_cons.mp listed with rfl | later
      · exact short piece List.mem_cons_self
      · exact inductionHypothesis (fun other member =>
          short other (List.mem_cons_of_mem piece member)) later

theorem readPieces_bounded {address : Nat} {counts : List Nat}
    (short : forall count, count ∈ counts -> count ≤ 125) {call : RegisterCall}
    (listed : call ∈ readPieces address counts) : call.Bounded := by
  induction counts generalizing address with
  | nil => exact absurd listed List.not_mem_nil
  | cons count rest inductionHypothesis =>
      rcases List.mem_cons.mp listed with rfl | later
      · have few := short count List.mem_cons_self
        change (UInt16.ofNat count).toNat ≤ 125
        rw [UInt16.toNat_ofNat', Nat.mod_eq_of_lt (by omega)]
        exact few
      · exact inductionHypothesis (fun other member =>
          short other (List.mem_cons_of_mem count member)) later

end RegisterCall

/-- The answers to writes of pieces. -/
def Answer.storedPieces (address : Nat) : List (List UInt16) -> List Answer
  | [] => []
  | piece :: rest => .stored (UInt16.ofNat address) (UInt16.ofNat piece.length) ::
      storedPieces (address + piece.length) rest

/-! ## Blocks of a bank -/

theorem covers_append {address first second index : Nat} :
    Covers address (first + second) index <->
      Covers address first index ∨ Covers (address + first) second index := by
  unfold Covers
  omega

namespace Bank

variable {n : Nat} (bank : Bank n)

theorem values_append (address first second : Nat) :
    bank.values address (first + second) =
      bank.values address first ++ bank.values (address + first) second := by
  have behind : (List.range second).map ((fun offset => bank.fetch (address + offset)) ∘ (first + ·)) =
      bank.values (address + first) second :=
    List.map_congr_left fun offset _ => congrArg bank.fetch (Nat.add_assoc address first offset).symm
  rw [values, List.range_add, List.map_append, List.map_map, behind]
  rfl

/-- The block of values from an address on. -/
def store (address : Nat) (values : List UInt16) : Bank n :=
  bank.overwrite address values.length fun offset => values.getD offset 0

theorem store_append (address : Nat) (first second : List UInt16) :
    (bank.store address first).store (address + first.length) second =
      bank.store address (first ++ second) := by
  funext index
  simp only [store, overwrite, List.length_append, covers_append]
  by_cases later : Covers (address + first.length) second.length index
  · have behind : first.length ≤ index - address := by
      have bounds : address + first.length ≤ index ∧ _ := later
      omega
    rw [if_pos later, if_pos (Or.inr later), List.getD_append_right _ _ _ _ behind, Nat.sub_sub]
  · rw [if_neg later]
    by_cases earlier : Covers address first.length index
    · have before : index - address < first.length := by
        have bounds : address ≤ index ∧ index < address + first.length := earlier
        omega
      rw [if_pos earlier, if_pos (Or.inl earlier), List.getD_append _ _ _ _ before]
    · rw [if_neg earlier, if_neg (not_or.mpr ⟨earlier, later⟩)]

/-- A block that is stored is there. -/
theorem values_store {address : Nat} {values : List UInt16} (fits : address + values.length ≤ n) :
    (bank.store address values).values address values.length = values := by
  apply List.ext_getElem
  · rw [values_length]
  · intro offset _ inside
    have below : address + offset < n := by omega
    have covered : Covers address values.length (address + offset) := by
      unfold Covers
      omega
    simp only [Bank.values, List.getElem_map, List.getElem_range, fetch, dif_pos below, store,
      overwrite, if_pos covered, Nat.add_sub_cancel_left]
    exact List.getD_eq_getElem _ _ inside

end Bank

/-! ## One piece -/

namespace Station

/-- The block is stored and its registers are marked. -/
def store (station : Station h i) (address : Nat) (values : List UInt16) : Station h i :=
  { station with
      file.holding := station.file.holding.store address values
      dirty := fun register =>
        station.dirty register || decide (Covers address values.length register) }

variable (station : Station h i)

theorem store_nil {address : Nat} : station.store address [] = station := by
  have marks (register : Fin h) :
      (station.dirty register || decide (Covers address 0 register)) = station.dirty register := by
    rw [decide_eq_false (by unfold Covers; omega), Bool.or_false]
  simp only [store, Bank.store, List.length_nil, Bank.overwrite_zero, marks]

theorem store_append (address : Nat) (first second : List UInt16) :
    (station.store address first).store (address + first.length) second =
      station.store address (first ++ second) := by
  have marks (register : Fin h) : ((station.dirty register ||
        decide (Covers address first.length register)) ||
      decide (Covers (address + first.length) second.length register)) =
        (station.dirty register || decide (Covers address (first ++ second).length register)) := by
    rw [Bool.or_assoc, ← Bool.decide_or, List.length_append]
    simp only [covers_append]
  simp only [store, Bank.store_append, marks]

variable {station} {slaveAddress : UInt8} (addressed : station.slaveAddress = slaveAddress)
  (idle : station.progress = .idle) (holdingSmall : h ≤ 65536)

include addressed idle holdingSmall

theorem called_piece {address : Nat} {piece : List UInt16}
    (short : 1 ≤ piece.length ∧ piece.length ≤ 123) (fits : address + piece.length ≤ h) :
    station.called slaveAddress (.writeMultiple (UInt16.ofNat address) piece) =
      (station.store address piece,
        .stored (UInt16.ofNat address) (UInt16.ofNat piece.length)) := by
  have start : (UInt16.ofNat address).toNat = address := by
    rw [UInt16.toNat_ofNat', Nat.mod_eq_of_lt (by omega)]
  have bounded : (RegisterCall.writeMultiple (UInt16.ofNat address) piece).Bounded := short.2
  have count := RegisterCall.bounded_length bounded
  have inRange : InRange h (UInt16.ofNat address).toNat piece.length := by
    rw [start]
    exact ⟨by omega, fits⟩
  have acknowledged : (RegisterCall.writeMultiple (UInt16.ofNat address) piece).request.verdict h i =
      .kAck := by
    apply Request.writeMultiple_acknowledged.mpr
    rw [count, registerBytes_length]
    exact ⟨inRange, Nat.mul_comm _ 2⟩
  have names (register : Fin h) :
      (RegisterCall.writeMultiple (UInt16.ofNat address) piece).request.Names register <->
        Covers address piece.length register := by
    change Covers _ _ _ <-> _
    rw [start, count]
  have marks : station.mark (RegisterCall.writeMultiple (UInt16.ofNat address) piece).request =
      (station.store address piece).dirty := by
    funext register
    exact congrArg (station.dirty register || ·)
      (decide_eq_decide.mpr ((and_iff_right acknowledged).trans (names register)))
  rw [called, if_pos addressed.symm, marks, RegisterFile.call, if_pos inRange, start, ← idle]
  rfl

/-- A piece that is read leaves everything as it was. -/
theorem called_count {address count : Nat} (short : 1 ≤ count ∧ count ≤ 125)
    (fits : address + count ≤ h) :
    station.called slaveAddress
        (.readHolding (UInt16.ofNat address) (UInt16.ofNat count)) =
      (station, .registers (station.file.holding.values address count)) := by
  have start : (UInt16.ofNat address).toNat = address := by
    rw [UInt16.toNat_ofNat', Nat.mod_eq_of_lt (by omega)]
  have counted : (UInt16.ofNat count).toNat = count := by
    rw [UInt16.toNat_ofNat', Nat.mod_eq_of_lt (by omega)]
  have marks (request : Request) (reads : forall index, ¬ request.Names index) :
      station.mark request = station.dirty := by
    funext register
    rw [mark, decide_eq_false (fun both => reads register both.2), Bool.or_false]
  rw [called, if_pos addressed.symm, marks _ (fun _ => id), RegisterFile.call, start, counted,
    if_pos ⟨by omega, fits⟩, ← idle]

/-! ## Any number of pieces -/

theorem behaviour_writePieces {address : Nat} {pieces : List (List UInt16)}
    (short : forall piece, piece ∈ pieces -> 1 ≤ piece.length ∧ piece.length ≤ 123)
    (fits : address + pieces.flatten.length ≤ h) :
    behaviour (fun station => Station.called station slaveAddress) station
        (RegisterCall.writePieces address pieces) =
      (station.store address pieces.flatten, Answer.storedPieces address pieces) := by
  induction pieces generalizing station address with
  | nil => exact congrArg (·, []) station.store_nil.symm
  | cons piece rest inductionHypothesis =>
      rw [List.flatten_cons, List.length_append, ← Nat.add_assoc] at fits
      have first := called_piece addressed idle holdingSmall (short piece List.mem_cons_self)
        (Nat.le_trans (Nat.le_add_right _ _) fits)
      have stored : (station.store address piece).slaveAddress = slaveAddress := addressed
      have later := inductionHypothesis stored idle
        (fun other member => short other (List.mem_cons_of_mem piece member)) fits
      rw [RegisterCall.writePieces, behaviour_cons, nextState, first, later, store_append]
      rfl

theorem behaviour_readPieces {address : Nat} {counts : List Nat}
    (short : forall count, count ∈ counts -> 1 ≤ count ∧ count ≤ 125)
    (fits : address + counts.sum ≤ h) :
    behaviour (fun station => Station.called station slaveAddress) station
        (RegisterCall.readPieces address counts) =
      (station, (counts.splitLengths (station.file.holding.values address counts.sum)).map
        .registers) := by
  induction counts generalizing address with
  | nil => rfl
  | cons count rest inductionHypothesis =>
      rw [List.sum_cons, ← Nat.add_assoc] at fits
      have first := called_count addressed idle holdingSmall (short count List.mem_cons_self)
        (Nat.le_trans (Nat.le_add_right _ _) fits)
      have later := inductionHypothesis (fun other member =>
        short other (List.mem_cons_of_mem count member)) fits
      have length := station.file.holding.values_length address count
      rw [RegisterCall.readPieces, behaviour_cons, nextState, first, later, List.sum_cons,
        Bank.values_append, List.splitLengths, List.splitAt_eq, List.take_left' length,
        List.drop_left' length]
      rfl

end Station

end Modbus
