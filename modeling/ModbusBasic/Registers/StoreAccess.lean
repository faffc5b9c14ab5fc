import ModbusBasic.Registers.RegisterDataStore
import ModbusBasic.Registers.RegisterFile

namespace Modbus

open Memory TypeConversion

/-!
# The register stores are banks

What each store operation does, in terms of the bank it keeps.  Validation
decides `InRange`, reading copies the values of the registers named into the
window, and writing overwrites the registers named.

An access is made at the address modulo `65536`.  A range that validation
admits never leaves the store either way, so reading and writing complete for
stores of any length (`reads_wrapped`, `setRegisters_completes`), but only the
registers up to `65535` are accessed at the addresses named.
-/

variable {n m : Nat}

namespace RegisterDataStore

/-- The registers of a store, without the buffer they are kept in. -/
def bank (store : RegisterDataStore n) : Bank n :=
  fun index => store.dataStore[index]

theorem getIndex_ofNat (address : Nat) : getIndex (UInt16.ofNat address) = address % 65536 := by
  change (UInt16.ofNat address).toNat - 0 = _
  rw [UInt16.toNat_ofNat', Nat.sub_zero]

/-! ## Validation -/

/-- Validation looks at the first and the last register named.  With a count of
zero the last one lies before the first, at `-1` for the address zero. -/
theorem readLocationValid_iff (store : RegisterDataStore n) (address count : UInt16) :
    store.readLocationValid address.toNat count.toNat = true <->
      InRange n address.toNat count.toNat := by
  have addressBound := address.toNat_lt
  have countBound := count.toNat_lt
  have modulus : SizeT.modulus = 18446744073709551616 := rfl
  have sum : SizeT.add address.toNat count.toNat = address.toNat + count.toNat :=
    SizeT.add_of_lt (by omega)
  have first : SizeT.add address.toNat 1 = address.toNat + 1 := SizeT.add_of_lt (by omega)
  have last : SizeT.add (SizeT.sub (SizeT.add address.toNat count.toNat) 1) 1 =
      address.toNat + count.toNat := by
    rw [sum]
    by_cases empty : address.toNat + count.toNat = 0
    · rw [empty]
      rfl
    · rw [SizeT.sub_of_le (by omega), SizeT.add_of_lt (by omega)]
      omega
  have start : DataStore.getAddressStart + store.getSize = n := Nat.zero_add n
  simp only [readLocationValid, isAddressValid, first, last, start, Bool.and_eq_true,
    decide_eq_true_eq]
  rfl

/-! ## Reading -/

/-- A 16-bit count is counted in bytes without wrapping. -/
theorem two_mul_lt_modulus (count : UInt16) : 2 * count.toNat < SizeT.modulus := by
  have bound := count.toNat_lt
  have modulus : SizeT.modulus = 18446744073709551616 := rfl
  omega

theorem getRegister_wrapped (store : RegisterDataStore n) {address : Nat} (inside : address < n) :
    store.getRegister address = .ok (store.bank.fetch (address % 65536)) := by
  have bound : address % 65536 < n := Nat.lt_of_le_of_lt (Nat.mod_le _ _) inside
  rw [getRegister, getIndex_ofNat, load_ok _ bound, Bank.fetch, dif_pos bound]
  rfl

end RegisterDataStore

/-- Reading these registers completes with these bytes, in any window that has
room for them. -/
def Reads [TypeConversion] {T : Type} [RegisterData T] (data : T) (address count : Nat)
    (bytes : List UInt8) : Prop :=
  bytes.length = 2 * count ∧
    forall (m : Nat) (window : Window UInt8 m), 2 * count ≤ window.size ->
      window.start + 2 * count ≤ m ->
      Exists fun result => RegisterData.getRegisters data address count window = .ok result ∧
        result.cells.toList = splice window.cells.toList window.start bytes

namespace RegisterDataStore

variable [TypeConversion]

theorem reads_wrapped (store : RegisterDataStore n) {address count : Nat}
    (fits : address + count ≤ n) (small : 2 * count < SizeT.modulus) :
    Reads store address count ((List.range count).flatMap fun offset =>
      bigEndian (store.bank.fetch ((address + offset) % 65536)).toNat) := by
  let chunk := fun offset => bigEndian (store.bank.fetch ((address + offset) % 65536)).toNat
  have width : forall offset, (chunk offset).length = 2 := fun offset => bigEndian_length _
  refine ⟨(chunks_length chunk 2 width count).trans (Nat.mul_comm count 2), ?_⟩
  intro m window room inside
  have rounds : SizeT.mul count 2 / 2 = count := by
    rw [SizeT.mul_of_lt (by omega), Nat.mul_div_cancel _ Nat.two_pos]
  change Exists fun result => store.getRegisters address count window = .ok result ∧ _
  simp only [getRegisters, rounds]
  rcases forRange_splice (fun index dataView => do
      let state <- store.getRegister (address + index)
      let dataView <- dataView.store (2 * index) (getByte state.toNat 1)
      dataView.store (2 * index + 1) (getByte state.toNat 0))
      (fun current => current.cells.toList)
      (fun current => current.start = window.start ∧ current.size = window.size)
      window.start 2 chunk count window ⟨rfl, rfl⟩ width
      (by rw [Vector.length_toList]; omega) (by
        intro offset current before kept _
        let state := store.bank.fetch ((address + offset) % 65536)
        have value : store.getRegister (address + offset) = .ok state :=
          store.getRegister_wrapped (by omega)
        have within : 2 * offset + 1 < current.size := by omega
        rcases current.store_pair (getByte state.toNat 1) (getByte state.toNat 0) within
          (by omega) with ⟨next, stored, bounds, written⟩
        refine ⟨next, by rw [value, ok_bind, stored], ?_, ?_⟩
        · exact ⟨bounds.1.trans kept.1, bounds.2.trans kept.2⟩
        · rw [written, kept.1, Nat.mul_comm 2 offset, getByte_pair state.toNat_lt])
    with ⟨result, completes, _, written⟩
  exact ⟨result, completes, written⟩

theorem reads_bank (store : RegisterDataStore n) {address count : Nat}
    (fits : address + count ≤ n) (low : address + count ≤ 65536) :
    Reads store address count (store.bank.bytes address count) := by
  have modulus : SizeT.modulus = 18446744073709551616 := rfl
  have wrapped := store.reads_wrapped fits (by omega)
  have same : store.bank.bytes address count = (List.range count).flatMap fun offset =>
      bigEndian (store.bank.fetch ((address + offset) % 65536)).toNat := by
    apply List.flatMap_congr
    intro offset member
    rw [Nat.mod_eq_of_lt]
    have := List.mem_range.mp member
    omega
  rw [same]
  exact wrapped

/-! ## Writing -/

omit [TypeConversion] in
theorem setRegister_wrapped (store : RegisterDataStore n) {address : Nat} (inside : address < n)
    (value : UInt16) :
    Exists fun result => store.setRegister address value = .ok result ∧
      forall index, result.bank index =
        if index.val = address % 65536 then value else store.bank index := by
  have bound : address % 65536 < n := Nat.lt_of_le_of_lt (Nat.mod_le _ _) inside
  refine ⟨⟨store.dataStore.set (address % 65536) value⟩, ?_, ?_⟩
  · rw [setRegister, getIndex_ofNat, store_ok _ _ bound, ok_bind, pure_eq_ok]
  · intro index
    simp only [bank, Fin.getElem_fin, Vector.getElem_set, eq_comm]

omit [TypeConversion] in
theorem setRegister_bank (store : RegisterDataStore n) {address : Nat} (inside : address < n)
    (low : address < 65536) (value : UInt16) :
    Exists fun result => store.setRegister address value = .ok result ∧
      result.bank = store.bank.overwrite address 1 fun _ => value := by
  rcases store.setRegister_wrapped inside value with ⟨result, completes, written⟩
  refine ⟨result, completes, ?_⟩
  funext index
  rw [written, Nat.mod_eq_of_lt low, Bank.overwrite]
  by_cases here : index.val = address
  · rw [if_pos here, if_pos (by unfold Covers; omega)]
  · rw [if_neg here, if_neg (by unfold Covers; omega)]

/-- One round of the loop: the register at this offset gets its word. -/
theorem setRegisters_round {data : List UInt8} {count offset : Nat}
    (size : data.length = 2 * count) (before : offset < count) (store : RegisterDataStore n)
    (address : Nat) :
    (do
      let byteIndex := offset * 2
      let high <- loadView data byteIndex
      let low <- loadView data (byteIndex + 1)
      let value := makeMSBUint16FromU8Array high low
      store.setRegister (address + offset) value) =
        store.setRegister (address + offset) (wordAt data offset) := by
  have high : loadView data (offset * 2) = .ok (data.getD (2 * offset) 0) := by
    rw [Nat.mul_comm]
    apply loadView_ok
    rw [List.getD_eq_getElem?_getD, List.getElem?_eq_getElem (by omega), Option.getD_some]
  have low : loadView data (offset * 2 + 1) = .ok (data.getD (2 * offset + 1) 0) := by
    rw [Nat.mul_comm]
    apply loadView_ok
    rw [List.getD_eq_getElem?_getD, List.getElem?_eq_getElem (by omega), Option.getD_some]
  simp only [high, ok_bind, low, make_eq]
  rfl

theorem setRegisters_completes (store : RegisterDataStore n) {address count : Nat}
    {data : List UInt8} (fits : address + count ≤ n) (size : data.length = 2 * count) :
    Exists fun result => store.setRegisters address count data = .ok result := by
  rcases forRange_ok _ store (fun _ _ => True) count True.intro (by
      intro offset current before _
      have inside : address + offset < n := by omega
      rcases current.setRegister_wrapped inside (wordAt data offset) with ⟨next, written, _⟩
      exact ⟨next, (setRegisters_round size before current address).trans written, True.intro⟩)
    with ⟨result, completes, _⟩
  exact ⟨result, completes⟩

theorem setRegisters_bank (store : RegisterDataStore n) {address count : Nat}
    {data : List UInt8} (fits : address + count ≤ n) (low : address + count ≤ 65536)
    (size : data.length = 2 * count) :
    Exists fun result => store.setRegisters address count data = .ok result ∧
      result.bank = store.bank.overwrite address count (wordAt data) := by
  rcases forRange_ok _ store (fun offset current =>
        current.bank = store.bank.overwrite address offset (wordAt data)) count (by simp) (by
      intro offset current before written
      have inside : address + offset < n := by omega
      rcases current.setRegister_bank inside (by omega) (wordAt data offset) with
        ⟨next, stored, extended⟩
      refine ⟨next, (setRegisters_round size before current address).trans stored, ?_⟩
      rw [extended, written, Bank.overwrite_succ]) with ⟨result, completes, written⟩
  exact ⟨result, completes, written⟩

end RegisterDataStore

/-! ## Flags -/

namespace UpdatingRegisterDataStore

def flagged (store : UpdatingRegisterDataStore n) (index : Fin n) : Bool := store.flags[index]

/-- The flag at this index is the one the 16-bit address of a covered register
names. -/
def Reaches (address count : Nat) (index : Fin n) : Prop :=
  Exists fun register => Covers address count register ∧ index.val = register % 65536

theorem reaches_succ (address count : Nat) (index : Fin n) :
    Reaches address (count + 1) index <->
      Reaches address count index ∨ index.val = (address + count) % 65536 := by
  constructor
  · rintro ⟨register, ⟨starts, ends⟩, reached⟩
    rcases Nat.lt_succ_iff_lt_or_eq.mp ends with inner | last
    · exact Or.inl ⟨register, ⟨starts, inner⟩, reached⟩
    · rw [last] at reached
      exact Or.inr reached
  · rintro (⟨register, ⟨starts, ends⟩, reached⟩ | reached)
    · exact ⟨register, ⟨starts, Nat.lt_succ_of_lt ends⟩, reached⟩
    · exact ⟨address + count, ⟨Nat.le_add_right address count, Nat.lt_succ_self _⟩, reached⟩

theorem not_reaches_zero (address : Nat) (index : Fin n) : ¬ Reaches address 0 index :=
  fun ⟨_, ⟨starts, ends⟩, _⟩ => Nat.not_lt_of_ge starts ends

theorem raiseFlag_wrapped (store : UpdatingRegisterDataStore n) {address : Nat}
    (inside : address < n) :
    Exists fun result => store.raiseFlag address = .ok result ∧
      result.toRegisterDataStore = store.toRegisterDataStore ∧
      forall index, result.flagged index = true <->
        store.flagged index = true ∨ index.val = address % 65536 := by
  have bound : address % 65536 < n := Nat.lt_of_le_of_lt (Nat.mod_le _ _) inside
  refine ⟨{ store with flags := store.flags.set (address % 65536) true }, ?_, rfl, ?_⟩
  · rw [raiseFlag, RegisterDataStore.getIndex_ofNat, store_ok _ _ bound, ok_bind, pure_eq_ok]
  · intro index
    simp only [flagged, Fin.getElem_fin, Vector.getElem_set]
    by_cases here : address % 65536 = index.val
    · simp [here]
    · simp [here, Ne.symm here]

/-- Notifying a single register raises its flag. -/
theorem setRegisterCallback_wrapped (store : UpdatingRegisterDataStore n) {address : Nat}
    (inside : address < n) (value : UInt16) :
    Exists fun result => store.setRegisterCallback address value = .ok result ∧
      result.toRegisterDataStore = store.toRegisterDataStore ∧
      forall index, result.flagged index = true <->
        store.flagged index = true ∨ Reaches address 1 index := by
  rcases store.raiseFlag_wrapped inside with ⟨result, raised, same, flags⟩
  refine ⟨result, raised, same, fun index => ?_⟩
  rw [flags, reaches_succ, or_iff_right (not_reaches_zero address index)]
  rfl

/-- Notifying a range raises the flags at its 16-bit addresses and no others. -/
theorem setRegistersCallback_wrapped (store : UpdatingRegisterDataStore n) {address count : Nat}
    (fits : address + count ≤ n) (data : List UInt8) :
    Exists fun result => store.setRegistersCallback address count data = .ok result ∧
      result.toRegisterDataStore = store.toRegisterDataStore ∧
      forall index, result.flagged index = true <->
        store.flagged index = true ∨ Reaches address count index := by
  rcases forRange_ok (fun offset store => raiseFlag store (address + offset)) store
      (fun rounds current => current.toRegisterDataStore = store.toRegisterDataStore ∧
        forall index, current.flagged index = true <->
          store.flagged index = true ∨ Reaches address rounds index)
      count ⟨rfl, fun index => (or_iff_left (not_reaches_zero address index)).symm⟩ (by
        intro rounds current before kept
        have inside : address + rounds < n := by omega
        rcases current.raiseFlag_wrapped inside with ⟨next, raised, same, flags⟩
        refine ⟨next, raised, same.trans kept.1, fun index => ?_⟩
        rw [flags, kept.2, reaches_succ, or_assoc]) with ⟨result, completes, same, flags⟩
  exact ⟨result, completes, same, flags⟩

end UpdatingRegisterDataStore

end Modbus
