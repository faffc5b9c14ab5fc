import ModbusBasic.Registers.StoreAccess

namespace Modbus

open Memory TypeConversion

/-!
# How exact range validation is

`ReadLocationValid` looks at the first and the last address of a range, both
in 64-bit arithmetic.  `IsAddressValid` adds one before it compares, so the
largest address of all passes; the last address of an empty range, or of one
that reaches `2 ^ 64`, lies in front of the first.  The accesses behind the
check use the low 16 bits of each address.
-/

/-- At least one register, and all of them in a store of `n`. -/
def Named (n address count : Nat) : Prop :=
  1 ≤ count ∧ address + count ≤ n

namespace RegisterDataStore

variable {n address count : Nat}

/-! ## The two addresses looked at -/

theorem isAddressValid_iff (store : RegisterDataStore n) (fits : address < SizeT.modulus) :
    store.isAddressValid address = true <-> address < n ∨ address + 1 = SizeT.modulus := by
  have bound : DataStore.getAddressStart + store.getSize = n := Nat.zero_add n
  rw [isAddressValid, bound, decide_eq_true_iff]
  rcases Nat.lt_or_ge (address + 1) SizeT.modulus with plain | wraps
  · rw [SizeT.add_of_lt plain]
    omega
  · have whole : address + 1 = SizeT.modulus := Nat.le_antisymm fits wraps
    rw [SizeT.add, whole, Nat.mod_self]
    omega

/-- The last address of a range, as it is computed. -/
def lastAddress (address count : Nat) : Nat := SizeT.sub (SizeT.add address count) 1

theorem lastAddress_eq (address count : Nat) :
    lastAddress address count = SizeT.rangeEnd address count :=
  rfl

theorem readLocationValid_ends (store : RegisterDataStore n)
    (addressFits : address < SizeT.modulus) :
    store.readLocationValid address count = true <->
      (address < n ∨ address + 1 = SizeT.modulus) ∧
        (lastAddress address count < n ∨ lastAddress address count + 1 = SizeT.modulus) := by
  have last : lastAddress address count < SizeT.modulus := SizeT.rangeEnd_lt address count
  rw [readLocationValid, Bool.and_eq_true, store.isAddressValid_iff addressFits]
  exact and_congr_right fun _ => store.isAddressValid_iff last

/-- Every range named is admitted; a range that is admitted is one, unless it
is empty, reaches `2 ^ 64`, or starts at the largest address. -/
theorem readLocationValid_named_iff (store : RegisterDataStore n) (length : n < SizeT.modulus)
    (addressFits : address < SizeT.modulus) (countFits : count < SizeT.modulus) :
    (store.readLocationValid address count = true <-> Named n address count) <->
      (address < n -> 1 ≤ count ∧ address + count < SizeT.modulus) ∧
        (address + 1 = SizeT.modulus ->
          n + 1 < count ∨ (count = 0 ∧ n + 1 ≠ SizeT.modulus)) := by
  rw [store.readLocationValid_ends addressFits, Named, lastAddress_eq]
  rcases SizeT.rangeEnd_cases addressFits countFits with last | last | last | last
  · omega
  · omega
  · omega
  · omega

/-! ## The registers accessed -/

variable [TypeConversion]

/-- Reading and writing the range access its registers and no others. -/
structure Touches (store : RegisterDataStore n) (address count : Nat) : Prop where
  reads : Reads store address count (store.bank.bytes address count)
  writes : forall data : List UInt8, data.length = 2 * count ->
    Exists fun result => store.setRegisters address count data = .ok result ∧
      result.bank = store.bank.overwrite address count (wordAt data)

/-- No write reaches a register from `65536` on. -/
theorem setRegisters_high (store : RegisterDataStore n) {data : List UInt8}
    (fits : address + count ≤ n) (size : data.length = 2 * count) {result : RegisterDataStore n}
    (completes : store.setRegisters address count data = .ok result) (index : Fin n)
    (high : 65536 ≤ index.val) : result.bank index = store.bank index := by
  rcases forRange_ok _ store (fun _ current => current.bank index = store.bank index) count rfl (by
      intro offset current before kept
      have inside : address + offset < n := by omega
      rcases current.setRegister_wrapped inside (wordAt data offset) with ⟨next, stored, changed⟩
      refine ⟨next, (setRegisters_round size before current address).trans stored, ?_⟩
      rw [changed, if_neg (by omega), kept]) with ⟨other, same, kept⟩
  cases completes.symm.trans same
  exact kept

omit [TypeConversion] in
/-- Data that would change the value of a register. -/
private theorem differing_word (value : UInt16) {count : Nat} (nonempty : 1 ≤ count) :
    Exists fun data : List UInt8 => data.length = 2 * count ∧ wordAt data (count - 1) ≠ value := by
  have cell : forall (byte : UInt8) (index : Nat), index < 2 * count ->
      (List.replicate (2 * count) byte).getD index 0 = byte := by
    intro byte index inside
    rw [List.getD_eq_getElem?_getD, List.getElem?_replicate, if_pos inside, Option.getD_some]
  have word : forall byte : UInt8, wordAt (List.replicate (2 * count) byte) (count - 1) =
      UInt16.ofNat (256 * byte.toNat + byte.toNat) := by
    intro byte
    rw [wordAt, cell byte _ (by omega), cell byte _ (by omega)]
  by_cases zero : value = 0
  · refine ⟨List.replicate (2 * count) 1, List.length_replicate, ?_⟩
    rw [word, zero]
    decide
  · refine ⟨List.replicate (2 * count) 0, List.length_replicate, ?_⟩
    rw [word]
    exact fun same => zero same.symm

theorem touches_iff (store : RegisterDataStore n) (named : Named n address count) :
    store.Touches address count <-> address + count ≤ 65536 := by
  rcases named with ⟨nonempty, fits⟩
  constructor
  · intro touches
    apply Classical.byContradiction
    intro high
    let last : Fin n := ⟨address + count - 1, by omega⟩
    have covered : Covers address count last := ⟨by change _ ≤ address + count - 1; omega,
      by change address + count - 1 < _; omega⟩
    rcases differing_word (store.bank last) nonempty with ⟨data, size, differs⟩
    rcases touches.writes data size with ⟨result, completes, written⟩
    have kept := store.setRegisters_high fits size completes last
      (by change 65536 ≤ address + count - 1; omega)
    rw [written, Bank.overwrite, if_pos covered] at kept
    rw [show last.val - address = count - 1 by change address + count - 1 - address = _; omega]
      at kept
    exact differs kept
  · intro low
    exact ⟨store.reads_bank fits low, fun _ size => store.setRegisters_bank fits low size⟩

/-! ## Exactness -/

/-- Validation admits exactly the ranges named, and what it admits is accessed
as named, under these conditions on the three numbers and no others. -/
theorem rangeValidation_exact_iff (store : RegisterDataStore n) (length : n < SizeT.modulus)
    (addressFits : address < SizeT.modulus) (countFits : count < SizeT.modulus) :
    ((store.readLocationValid address count = true <-> Named n address count) ∧
      (store.writeLocationValid address count = true <-> Named n address count) ∧
      (store.readLocationValid address count = true -> store.Touches address count)) <->
    (address < n -> 1 ≤ count ∧ address + count < SizeT.modulus ∧
        (address + count ≤ n -> address + count ≤ 65536)) ∧
      (address + 1 = SizeT.modulus ->
        n + 1 < count ∨ (count = 0 ∧ n + 1 ≠ SizeT.modulus)) := by
  have exact := store.readLocationValid_named_iff length addressFits countFits
  have sameCheck : store.writeLocationValid address count = store.readLocationValid address count :=
    rfl
  rw [sameCheck]
  constructor
  · rintro ⟨decides, _, touched⟩
    have bounds := exact.mp decides
    refine ⟨fun inside => ?_, bounds.2⟩
    have first := bounds.1 inside
    refine ⟨first.1, first.2, fun fits => ?_⟩
    have named : Named n address count := ⟨first.1, fits⟩
    exact (store.touches_iff named).mp (touched (decides.mpr named))
  · rintro ⟨inside, largest⟩
    have decides := exact.mpr ⟨fun first => ⟨(inside first).1, (inside first).2.1⟩, largest⟩
    refine ⟨decides, decides, fun valid => ?_⟩
    have named := decides.mp valid
    have first : address < n := by
      unfold Named at named
      omega
    exact (store.touches_iff named).mpr ((inside first).2.2 named.2)

omit [TypeConversion] in
/-- The middle two of four registers. -/
theorem rangeValidation_exact_four :
    letI := TypeConversion.shifting
    letI store : RegisterDataStore 4 := ⟨#v[1, 2, 3, 4]⟩
    store.readLocationValid 1 2 = true ∧ store.Touches 1 2 := by
  let conversion := TypeConversion.shifting
  let store : RegisterDataStore 4 := ⟨#v[1, 2, 3, 4]⟩
  have addressFits : 1 < SizeT.modulus := by decide
  have countFits : 2 < SizeT.modulus := by decide
  have exact := (store.rangeValidation_exact_iff (by decide) addressFits countFits).mpr (by decide)
  have valid : store.readLocationValid 1 2 = true := exact.1.mpr (by unfold Named; decide)
  exact ⟨valid, exact.2.2 valid⟩

omit [TypeConversion] in
/-- An empty range, a range that runs past `2 ^ 64`, and the register `65536`:
all three are admitted, the first two name no registers of the store, and the
last is not the register written. -/
theorem rangeValidation_inexact :
    letI := TypeConversion.shifting
    letI store : RegisterDataStore 2 := ⟨#v[1, 2]⟩
    letI large : RegisterDataStore 65537 := ⟨Vector.replicate 65537 0⟩
    (store.readLocationValid 0 0 = true ∧ ¬ Named 2 0 0) ∧
      (store.readLocationValid 1 18446744073709551615 = true ∧
        ¬ Named 2 1 18446744073709551615) ∧
      large.readLocationValid 65536 1 = true ∧ Named 65537 65536 1 ∧ ¬ large.Touches 65536 1 := by
  let conversion := TypeConversion.shifting
  let store : RegisterDataStore 2 := ⟨#v[1, 2]⟩
  let large : RegisterDataStore 65537 := ⟨Vector.replicate 65537 0⟩
  have named : Named 65537 65536 1 := by unfold Named; decide
  refine ⟨⟨rfl, by unfold Named; decide⟩, ⟨rfl, by unfold Named; decide⟩, rfl, named, ?_⟩
  intro touches
  exact absurd ((large.touches_iff named).mp touches) (by decide)

end RegisterDataStore

end Modbus
