import ModbusBasic.Registers.RequestEncoding

namespace Modbus

open Memory TypeConversion

/-!
# The requests a master encodes

Each command class has a `FillFrame` that lays a request out in the data of a
frame.  A `RegisterCall` is what a master hands to one of them.  Up to 123 values
can be written and up to 125 registers read, so that neither the request nor its
reply is longer than 256 bytes; the encoders themselves only assert that the
frame is large enough.
-/

/-- A call of one of the encoders.  The count of a multiple write is the number
of its values. -/
inductive RegisterCall
  | readHolding (address count : UInt16)
  | readInput (address count : UInt16)
  | writeSingle (address value : UInt16)
  | writeMultiple (address : UInt16) (values : List UInt16)
deriving DecidableEq

namespace RegisterCall

def Bounded : RegisterCall -> Prop
  | readHolding _ count => count.toNat ≤ 125
  | readInput _ count => count.toNat ≤ 125
  | writeSingle _ _ => True
  | writeMultiple _ values => values.length ≤ 123

/-- The request that travels. -/
def request : RegisterCall -> Request
  | readHolding address count => .readHolding address count
  | readInput address count => .readInput address count
  | writeSingle address value => .writeSingle address value
  | writeMultiple address values =>
      .writeMultiple address (UInt16.ofNat values.length) (registerBytes values)

theorem bounded_length {address : UInt16} {values : List UInt16}
    (bounded : (writeMultiple address values).Bounded) :
    (UInt16.ofNat values.length).toNat = values.length := by
  have few : values.length ≤ 123 := bounded
  rw [UInt16.toNat_ofNat']
  exact Nat.mod_eq_of_lt (by omega)

variable [TypeConversion] {n : Nat}

def fillFrame (frame : Frame n) : RegisterCall -> Checked (Int × Frame n)
  | readHolding address count => ReadMultipleHoldingRegistersCommand.fillFrame address count frame
  | readInput address count => ReadInputRegistersCommand.fillFrame address count frame
  | writeSingle address value => WriteSingleHoldingRegisterCommand.fillFrame address value frame
  | writeMultiple address values => WriteMultipleHoldingRegistersCommand.fillFrame address
      (UInt16.ofNat values.length) values frame

end RegisterCall

/-! ## Two fields at the front of a frame -/

section Fields

variable [TypeConversion] {n : Nat}

/-- A 16-bit field at any place. -/
theorem storeUInt16_ok (cells : Vector UInt8 n) {start : Nat} (value : UInt16)
    (fits : start + 2 ≤ n) :
    Exists fun middle => Exists fun result =>
      store cells start (getByte value.toNat 1) = .ok middle ∧
      store middle (start + 1) (getByte value.toNat 0) = .ok result ∧
      result.toList = splice cells.toList start (bigEndian value.toNat) := by
  refine ⟨_, _, store_ok cells _ (by omega), store_ok _ _ (by omega), ?_⟩
  rw [Vector.toList_set, Vector.toList_set,
    set_pair cells.toList _ _ (by rw [Vector.length_toList]; exact fits), getByte_pair value.toNat_lt]

/-- What `FillFrame` of a single write and of both reads has in common. -/
theorem storeFields_ok (cells : Vector UInt8 n) (first second : UInt16) (fits : 4 ≤ n) :
    Exists fun result =>
      (forall {Y : Type} (next : Vector UInt8 n -> Checked Y),
        (store cells 0 (getByte first.toNat 1) >>= fun cells =>
          store cells 1 (getByte first.toNat 0) >>= fun cells =>
            store cells 2 (getByte second.toNat 1) >>= fun cells =>
              store cells 3 (getByte second.toNat 0) >>= next) = next result) ∧
      result.toList.take 4 = bigEndian first.toNat ++ bigEndian second.toNat := by
  rcases storeUInt16_ok cells first (by omega : 0 + 2 ≤ n) with
    ⟨firstHigh, front, storedHigh, storedLow, contents⟩
  rcases storeUInt16_ok front second (by omega : 2 + 2 ≤ n) with
    ⟨secondHigh, result, high, low, whole⟩
  refine ⟨result, fun next => ?_, ?_⟩
  · rw [storedHigh, ok_bind, storedLow, ok_bind, high, ok_bind, low, ok_bind]
  · let fields := bigEndian first.toNat ++ bigEndian second.toNat
    have room : 0 + fields.length ≤ cells.toList.length := by
      rw [Vector.length_toList]
      exact fits
    have joined : result.toList = splice cells.toList 0 fields := by
      rw [whole, contents]
      exact splice_splice cells.toList room
    have taken := take_splice_end cells.toList room
    rw [← joined] at taken
    exact taken

omit [TypeConversion] in
/-- The encoders of a single write and of the reads complete with their payload. -/
theorem fields_hold {frame : Frame n} {function : Function} {result : Vector UInt8 n}
    {first second : UInt16}
    (contents : result.toList.take 4 = bigEndian first.toNat ++ bigEndian second.toNat) :
    Holds { frame with function := function, dataLength := 4, dataArray := result } frame.address
      function (bigEndian first.toNat ++ bigEndian second.toNat) :=
  ⟨rfl, rfl, rfl, contents⟩

end Fields

/-! ## All encoders -/

section Encoders

variable [TypeConversion] {n : Nat}

theorem WriteSingleHoldingRegisterCommand.fillFrame_holds (address value : UInt16)
    (frame : Frame n) (fits : 4 ≤ n) :
    Exists fun result =>
      WriteSingleHoldingRegisterCommand.fillFrame address value frame = .ok (0, result) ∧
      Holds result frame.address WriteSingleHoldingRegisterCommand.kFunction
        (Request.writeSingle address value).payload := by
  rcases storeFields_ok frame.dataArray address value fits with ⟨cells, stored, contents⟩
  exact ⟨_, stored _, fields_hold contents⟩

theorem ReadMultipleRegistersCommandBase.fillFrameBase_holds (address count : UInt16)
    (frame : Frame n) (function : Function) (fits : 4 ≤ n) :
    Exists fun result =>
      ReadMultipleRegistersCommandBase.fillFrameBase address count frame function =
        .ok (0, result) ∧
      Holds result frame.address function (bigEndian address.toNat ++ bigEndian count.toNat) := by
  rcases storeFields_ok frame.dataArray address count fits with ⟨cells, stored, contents⟩
  exact ⟨_, stored _, fields_hold contents⟩

/-- Every encoder fills a frame with the payload of its request. -/
theorem RegisterCall.fillFrame_holds {call : RegisterCall} (bounded : call.Bounded) (frame : Frame n)
    (fits : 251 ≤ n) :
    Exists fun result => call.fillFrame frame = .ok (0, result) ∧
      Holds result frame.address call.request.function call.request.payload := by
  cases call with
  | readHolding address count =>
      exact ReadMultipleRegistersCommandBase.fillFrameBase_holds address count frame _ (by omega)
  | readInput address count =>
      exact ReadMultipleRegistersCommandBase.fillFrameBase_holds address count frame _ (by omega)
  | writeSingle address value =>
      exact WriteSingleHoldingRegisterCommand.fillFrame_holds address value frame (by omega)
  | writeMultiple address values =>
      have few : values.length ≤ 123 := bounded
      exact WriteMultipleHoldingRegistersCommand.fillFrame_holds address _ (by omega) frame (by omega)

end Encoders

end Modbus
