import ModbusBasic.Memory.Cells

namespace Modbus

/-!
# The byte conversions of the `Utilities` library

`Utilities/TypeConversion.h` lives outside the repository, so the two functions
this code calls are parameters: `getByte` selects one byte of an unsigned
integer, `makeMSBUint16FromU8Array` joins two bytes.  The laws are what the
call sites write beside them: byte 1 is the most significant byte of a 16-bit
value, byte 0 the least significant one, and the MSB conversion reads the most
significant byte first.
-/

class TypeConversion where
  getByte : Nat -> Nat -> UInt8
  makeMSBUint16FromU8Array : UInt8 -> UInt8 -> UInt16
  getByte_one : forall value, value < 65536 -> getByte value 1 = UInt8.ofNat (value / 256)
  getByte_zero : forall value, value < 65536 -> getByte value 0 = UInt8.ofNat value
  make_eq : forall high low,
    makeMSBUint16FromU8Array high low = UInt16.ofNat (256 * high.toNat + low.toNat)

/-- The laws are satisfiable: shifting and masking meets them. -/
@[reducible] def TypeConversion.shifting : TypeConversion where
  getByte value index := UInt8.ofNat (value >>> (8 * index))
  makeMSBUint16FromU8Array high low := UInt16.ofNat (256 * high.toNat + low.toNat)
  getByte_one value _ := by
    rw [Nat.shiftRight_eq_div_pow]
  getByte_zero value _ := by
    rw [Nat.mul_zero, Nat.shiftRight_zero]
  make_eq _ _ := rfl

namespace TypeConversion

/-- The two bytes of a 16-bit value in the order they travel. -/
def bigEndian (value : Nat) : List UInt8 :=
  [UInt8.ofNat (value / 256), UInt8.ofNat value]

@[simp] theorem bigEndian_length (value : Nat) : (bigEndian value).length = 2 :=
  rfl

/-- The bytes of some register values in the order they travel. -/
def registerBytes (values : List UInt16) : List UInt8 :=
  values.flatMap fun value => bigEndian value.toNat

theorem registerBytes_cons (value : UInt16) (rest : List UInt16) :
    registerBytes (value :: rest) = bigEndian value.toNat ++ registerBytes rest :=
  List.flatMap_cons

@[simp] theorem registerBytes_length (values : List UInt16) :
    (registerBytes values).length = 2 * values.length := by
  induction values with
  | nil => rfl
  | cons value rest inductionHypothesis =>
      rw [registerBytes_cons, List.length_append, bigEndian_length, inductionHypothesis,
        List.length_cons]
      omega

variable [TypeConversion]

theorem getByte_pair {value : Nat} (fits : value < 65536) :
    [getByte value 1, getByte value 0] = bigEndian value := by
  rw [getByte_one value fits, getByte_zero value fits]
  rfl

/-- Joining the two bytes of a value gives the value back. -/
theorem make_getByte (value : UInt16) :
    makeMSBUint16FromU8Array (UInt8.ofNat (value.toNat / 256)) (UInt8.ofNat value.toNat) =
      value := by
  have bound := value.toNat_lt
  rw [make_eq]
  apply UInt16.toNat_inj.mp
  simp only [UInt16.toNat_ofNat', UInt8.toNat_ofNat']
  omega

/-- Two bytes are the bytes of the value they join to. -/
theorem bigEndian_make (high low : UInt8) :
    bigEndian (makeMSBUint16FromU8Array high low).toNat = [high, low] := by
  have highBound := high.toNat_lt
  have lowBound := low.toNat_lt
  rw [make_eq, bigEndian, UInt16.toNat_ofNat']
  congr 1
  · apply UInt8.toNat_inj.mp
    rw [UInt8.toNat_ofNat']
    omega
  · congr 1
    apply UInt8.toNat_inj.mp
    rw [UInt8.toNat_ofNat']
    omega

end TypeConversion

end Modbus
