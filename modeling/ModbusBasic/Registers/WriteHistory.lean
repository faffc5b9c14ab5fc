import ModbusBasic.Registers.StoreAccess
import ModbusBasic.Transition.LastWrite

namespace Modbus

open Memory TypeConversion Transition

/-!
# A register store reads what was last written

Any number of `SetRegister` and `SetRegisters` calls in any order, and then a
read.  A write is described by the value it leaves in each register, so
overlapping ranges need no cases: the last write that covers a register
decides.

`MakeRegistersToBytes` of `Utilities.h` is a third loop over the same byte
order, and `getRegisters_eq` proves it to be the one of `GetRegisters`.
-/

/-- `Modbus::MakeRegistersToBytes(data_view, data_out)`. -/
def makeRegistersToBytes [TypeConversion] {m : Nat} (dataView : List UInt16)
    (dataOut : Window UInt8 m) : Checked (Window UInt8 m) :=
  forRange (fun index dataOut => do
    let value <- loadView dataView index
    let dataOut <- dataOut.store (index * 2) (getByte value.toNat 1)
    let value <- loadView dataView index
    dataOut.store (index * 2 + 1) (getByte value.toNat 0)) dataView.length dataOut

/-- A call that writes a store. -/
inductive StoreWrite
  | setRegister (address : Nat) (value : UInt16)
  | setRegisters (address count : Nat) (data : List UInt8)
deriving DecidableEq

namespace StoreWrite

/-- The registers written are there, with two bytes of data for each. -/
def InRange (n : Nat) : StoreWrite -> Prop
  | setRegister address _ => address < n
  | setRegisters address count data => address + count ≤ n ∧ data.length = 2 * count

instance (n : Nat) : DecidablePred (InRange n)
  | setRegister _ _ => inferInstanceAs (Decidable (_ < _))
  | setRegisters _ _ _ => inferInstanceAs (Decidable (_ ∧ _))

/-- What the call writes into a register. -/
def written : StoreWrite -> Nat -> Option UInt16
  | setRegister address value, index => if index = address then some value else none
  | setRegisters address count data, index =>
      if Covers address count index then some (wordAt data (index - address)) else none

/-- A range is the single registers of it, one after the other. -/
def singles (address count : Nat) (data : List UInt8) : List StoreWrite :=
  (List.range count).map fun offset => setRegister (address + offset) (wordAt data offset)

end StoreWrite

namespace RegisterDataStore

variable [TypeConversion] {n m : Nat}

def write (store : RegisterDataStore n) : StoreWrite -> Checked (RegisterDataStore n)
  | .setRegister address value => store.setRegister address value
  | .setRegisters address count data => store.setRegisters address count data

/-! ## Writing -/

/-- Each call leaves in every register what it writes there, or what was there. -/
theorem write_written (store : RegisterDataStore n) (small : n ≤ 65536) {call : StoreWrite}
    (inRange : call.InRange n) :
    Exists fun next => store.write call = .ok next ∧
      forall index : Fin n, next.bank index = (call.written index).getD (store.bank index) := by
  cases call with
  | setRegister address value =>
      rcases store.setRegister_bank inRange (Nat.lt_of_lt_of_le inRange small) value with
        ⟨next, completes, changed⟩
      refine ⟨next, completes, fun index => ?_⟩
      rw [changed, Bank.overwrite, StoreWrite.written]
      by_cases here : index.val = address
      · rw [if_pos here, if_pos (by unfold Covers; omega), Option.getD_some]
      · rw [if_neg here, if_neg (by unfold Covers; omega), Option.getD_none]
  | setRegisters address count data =>
      rcases store.setRegisters_bank inRange.1 (Nat.le_trans inRange.1 small) inRange.2 with
        ⟨next, completes, changed⟩
      refine ⟨next, completes, fun index => ?_⟩
      rw [changed, Bank.overwrite, StoreWrite.written]
      by_cases covered : Covers address count index
      · rw [if_pos covered, if_pos covered, Option.getD_some]
      · rw [if_neg covered, if_neg covered, Option.getD_none]

/-- Writing a range is writing its registers one by one. -/
theorem setRegisters_eq_singles (store : RegisterDataStore n) (address : Nat) {count : Nat}
    {data : List UInt8} (size : data.length = 2 * count) :
    store.setRegisters address count data =
      run write store (StoreWrite.singles address count data) := by
  have rounds : store.setRegisters address count data =
      forRange (fun offset store => store.setRegister (address + offset) (wordAt data offset))
        count store :=
    forRange_congr (fun offset store before => setRegisters_round size before store address) store
  rw [rounds]
  clear rounds size
  induction count with
  | zero => rfl
  | succ count inductionHypothesis =>
      rw [forRange_succ, inductionHypothesis, StoreWrite.singles, StoreWrite.singles,
        List.range_succ, List.map_append, List.map_singleton, run_concat]
      rfl

/-! ## Reading -/

/-- The loops that turn registers into bytes are the same, whatever the window. -/
theorem getRegisters_eq (store : RegisterDataStore n) (small : n ≤ 65536) {address count : Nat}
    (fits : address + count ≤ n) (window : Window UInt8 m) :
    store.getRegisters address count window =
      makeRegistersToBytes ((store.dataStore.toList.drop address).take count) window := by
  have modulus : SizeT.modulus = 18446744073709551616 := rfl
  have rounds : SizeT.mul count 2 / 2 = count := by
    rw [SizeT.mul_of_lt (by omega), Nat.mul_div_cancel _ Nat.two_pos]
  have size : ((store.dataStore.toList.drop address).take count).length = count := by
    rw [List.length_take, List.length_drop, Vector.length_toList]
    omega
  simp only [getRegisters, makeRegistersToBytes, rounds, size]
  apply forRange_congr
  intro offset current before
  have inside : address + offset < n := by omega
  have state : store.getRegister (address + offset) = .ok store.dataStore[address + offset] := by
    rw [getRegister, getIndex_ofNat, Nat.mod_eq_of_lt (by omega), load_ok _ inside]
  have value : loadView ((store.dataStore.toList.drop address).take count) offset =
      .ok store.dataStore[address + offset] := by
    apply loadView_ok
    rw [List.getElem?_take_of_lt before, List.getElem?_drop, List.getElem?_eq_getElem (by simpa)]
    simp
  simp only [state, value, ok_bind, Nat.mul_comm 2 offset]

/-- The value of a register after some calls: the last one written to it, or
the one it had. -/
def lastValue (store : RegisterDataStore n) (calls : List StoreWrite) (index : Nat) : UInt16 :=
  (lastWritten StoreWrite.written calls index).getD (store.bank.fetch index)

/-- Reading after any calls in range gives the last value written to each
register; the bytes are those `MakeRegistersToBytes` makes of the registers;
and writing a range is writing its registers one by one. -/
theorem getRegisters_lastWrite (store : RegisterDataStore n) (small : n ≤ 65536)
    {calls : List StoreWrite} (inRange : forall call, call ∈ calls -> call.InRange n) :
    Exists fun final => run write store calls = .ok final ∧
      (forall address count, address + count ≤ n ->
        Reads final address count
            (registerBytes ((List.range count).map fun offset =>
              store.lastValue calls (address + offset))) ∧
          (forall (m : Nat) (window : Window UInt8 m),
            final.getRegisters address count window =
              makeRegistersToBytes ((final.dataStore.toList.drop address).take count) window) ∧
          forall data : List UInt8, data.length = 2 * count ->
            final.setRegisters address count data =
              run write final (StoreWrite.singles address count data)) := by
  rcases run_lastWritten write
    (fun (store : RegisterDataStore n) (index : Fin n) => store.bank index)
    (fun call index => call.written index) (fun _ => True) (fun _ call => call.InRange n)
    (fun store call _ inRange => by
      rcases store.write_written small inRange with ⟨next, completes, changed⟩
      exact ⟨next, completes, True.intro, changed⟩) True.intro (admitted_of_forall inRange) with
    ⟨final, completes, _, shown⟩
  refine ⟨final, completes, fun address count fits => ⟨?_, ?_, ?_⟩⟩
  · have bytes : registerBytes ((List.range count).map fun offset =>
        store.lastValue calls (address + offset)) = final.bank.bytes address count := by
      rw [registerBytes, List.flatMap_map, Bank.bytes]
      apply List.flatMap_congr
      intro offset member
      have inside : address + offset < n := by
        have := List.mem_range.mp member
        omega
      rw [lastValue, Bank.fetch, Bank.fetch, dif_pos inside, dif_pos inside, shown]
      rfl
    rw [bytes]
    exact final.reads_bank fits (Nat.le_trans fits small)
  · exact fun m window => final.getRegisters_eq small fits window
  · exact fun data size => final.setRegisters_eq_singles address size

omit [TypeConversion] in
/-- A single write over the middle of a range written before. -/
theorem getRegisters_lastWrite_three :
    letI := TypeConversion.shifting
    letI store : RegisterDataStore 3 := ⟨#v[9, 9, 9]⟩
    letI calls : List StoreWrite := [.setRegisters 0 2 [1, 2, 3, 4], .setRegister 1 7]
    Exists fun final => run write store calls = .ok final ∧
      Reads final 0 3 [1, 2, 0, 7, 0, 9] := by
  have bytes : registerBytes ((List.range 3).map fun offset =>
      (⟨#v[9, 9, 9]⟩ : RegisterDataStore 3).lastValue
        [.setRegisters 0 2 [1, 2, 3, 4], .setRegister 1 7] (0 + offset)) =
      [1, 2, 0, 7, 0, 9] := by decide
  let store : RegisterDataStore 3 := ⟨#v[9, 9, 9]⟩
  let calls : List StoreWrite := [.setRegisters 0 2 [1, 2, 3, 4], .setRegister 1 7]
  let conversion := TypeConversion.shifting
  have inRange : forall call, call ∈ calls -> call.InRange 3 := by decide
  rcases store.getRegisters_lastWrite (by decide) inRange with
    ⟨final, completes, ranges⟩
  exact ⟨final, completes, bytes ▸ (ranges 0 3 (by decide)).1⟩

end RegisterDataStore

end Modbus
