import ModbusBasic.Registers.RequestHandling

namespace Modbus

open Memory TypeConversion

/-!
# Encoding a multiple write

`WriteMultipleHoldingRegistersCommand::FillFrame` lays a list of register
values out as the payload of a request.  The slave's readers find the values
again as long as a byte can count their bytes; from 128 registers on the length
of the frame and the count in it are those of the values modulo 128, while the
loop still copies them all.
-/

namespace WriteMultipleHoldingRegistersCommand

variable [TypeConversion] {n : Nat}

/-- Two bytes for each value, behind one another. -/
theorem fillValue_splice (values : List UInt16) {index : Nat} (cells : Vector UInt8 n)
    (fits : index + 2 * values.length ≤ n) :
    Exists fun result =>
      values.foldlM fillValue (index, cells) = .ok (index + 2 * values.length, result) ∧
        result.toList = splice cells.toList index (registerBytes values) := by
  induction values generalizing index cells with
  | nil => exact ⟨cells, rfl, (splice_nil _ _).symm⟩
  | cons value rest inductionHypothesis =>
      rw [List.length_cons] at fits
      let high := getByte value.toNat 1
      let low := getByte value.toNat 0
      let filled := (cells.set index high).set (index + 1) low
      have stored : fillValue (index, cells) value = .ok (index + 2, filled) := by
        have first : store cells index high = .ok (cells.set index high) :=
          store_ok cells high (by omega)
        have second : store (cells.set index high) (index + 1) low = .ok filled :=
          store_ok _ low (by omega)
        change (store cells index high >>= fun dataArray =>
          store dataArray (index + 1) low >>= fun dataArray => pure (index + 2, dataArray)) = _
        rw [first, ok_bind, second, ok_bind, pure_eq_ok]
      have written : filled.toList = splice cells.toList index (bigEndian value.toNat) := by
        rw [← getByte_pair value.toNat_lt, ← set_pair _ _ _ (by rw [Vector.length_toList]; omega)]
        simp only [filled, Vector.toList_set]
        rfl
      rcases inductionHypothesis filled (by omega : index + 2 + 2 * rest.length ≤ n) with
        ⟨result, completes, contents⟩
      refine ⟨result, ?_, ?_⟩
      · have ends : index + 2 + 2 * rest.length = index + 2 * (rest.length + 1) := by omega
        rw [List.foldlM_cons, stored, ok_bind, completes, List.length_cons, ends]
      · have room : index + (bigEndian value.toNat ++ registerBytes rest).length ≤
            cells.toList.length := by
          rw [List.length_append, bigEndian_length, registerBytes_length, Vector.length_toList]
          omega
        have joined := splice_splice cells.toList room
        rw [contents, written, registerBytes_cons, ← joined]
        rfl

omit [TypeConversion] in
/-- The five bytes in front of the values. -/
private theorem take_header (cells : Vector UInt8 n) (long : 5 ≤ n) (first second third fourth
    fifth : UInt8) :
    (((((cells.set 0 first).set 1 second).set 2 third).set 3 fourth).set 4 fifth).toList.take 5 =
      [first, second, third, fourth, fifth] := by
  simp only [Vector.toList_set]
  have size : 5 ≤ cells.toList.length := by
    rw [Vector.length_toList]
    exact long
  generalize cells.toList = list at size ⊢
  rcases list with _ | ⟨_, _ | ⟨_, _ | ⟨_, _ | ⟨_, _ | ⟨_, rest⟩⟩⟩⟩⟩
  · simp at size
  · simp at size
  · simp at size
  · simp at size
  · simp at size
  · rfl

/-- With room for all the values the encoder completes.  The values are all
there; only the length is narrowed. -/
theorem fillFrame_ok (address count : UInt16) (values : List UInt16) (frame : Frame n)
    (fits : 5 + 2 * values.length ≤ n) :
    Exists fun result => fillFrame address count values frame = .ok (0, result) ∧
      result.address = frame.address ∧ result.function = kFunction ∧
      result.dataLength = 5 + (UInt8.ofNat (values.length * 2)).toNat ∧
      result.dataArray.toList.take (5 + 2 * values.length) =
        bigEndian address.toNat ++ bigEndian count.toNat ++
          UInt8.ofNat (values.length * 2) :: registerBytes values := by
  let number := UInt8.ofNat (values.length * 2)
  let first := frame.dataArray.set 0 (getByte address.toNat 1)
  let second := first.set 1 (getByte address.toNat 0)
  let third := second.set 2 (getByte count.toNat 1)
  let fourth := third.set 3 (getByte count.toNat 0)
  let header := fourth.set 4 number
  have storedFirst : store frame.dataArray 0 (getByte address.toNat 1) = .ok first :=
    store_ok _ _ (by omega)
  have storedSecond : store first 1 (getByte address.toNat 0) = .ok second :=
    store_ok _ _ (by omega)
  have storedThird : store second 2 (getByte count.toNat 1) = .ok third := store_ok _ _ (by omega)
  have storedFourth : store third 3 (getByte count.toNat 0) = .ok fourth := store_ok _ _ (by omega)
  have storedHeader : store fourth 4 number = .ok header := store_ok _ _ (by omega)
  rcases fillValue_splice values header fits with ⟨filled, copied, contents⟩
  refine ⟨{ frame with function := kFunction, dataLength := 5 + number.toNat,
                       dataArray := filled }, ?_, rfl, rfl, rfl, ?_⟩
  · change (store frame.dataArray 0 _ >>= fun dataArray => store dataArray 1 _ >>= fun dataArray =>
      store dataArray 2 _ >>= fun dataArray => store dataArray 3 _ >>= fun dataArray =>
      store dataArray 4 number >>= fun dataArray => values.foldlM fillValue (5, dataArray) >>= _) = _
    rw [storedFirst, ok_bind, storedSecond, ok_bind, storedThird, ok_bind, storedFourth, ok_bind,
      storedHeader, ok_bind, copied, ok_bind]
    rfl
  · have room : 5 + (registerBytes values).length ≤ header.toList.length := by
      rw [registerBytes_length, Vector.length_toList]
      exact fits
    have front := take_header frame.dataArray (by omega) (getByte address.toNat 1)
      (getByte address.toNat 0) (getByte count.toNat 1) (getByte count.toNat 0) number
    have taken := take_splice_end header.toList room
    rw [← contents, registerBytes_length, show header.toList.take 5 = _ from front] at taken
    rw [taken, ← getByte_pair address.toNat_lt, ← getByte_pair count.toNat_lt]
    rfl

/-- A list of values whose bytes a byte can count is encoded as the payload of
a request. -/
theorem fillFrame_holds (address count : UInt16) {values : List UInt16}
    (short : values.length ≤ 127) (frame : Frame n) (fits : 5 + 2 * values.length ≤ n) :
    Exists fun result => fillFrame address count values frame = .ok (0, result) ∧
      Holds result frame.address kFunction
        (Request.writeMultiple address count (registerBytes values)).payload := by
  rcases fillFrame_ok address count values frame fits with
    ⟨result, completes, sameAddress, function, length, contents⟩
  have payload : (Request.writeMultiple address count (registerBytes values)).payload =
      bigEndian address.toNat ++ bigEndian count.toNat ++
        UInt8.ofNat (values.length * 2) :: registerBytes values := by
    rw [Request.payload, registerBytes_length, Nat.mul_comm]
  have size : (Request.writeMultiple address count (registerBytes values)).payload.length =
      5 + 2 * values.length := by
    rw [payload, List.length_append, List.length_append, List.length_cons, registerBytes_length,
      bigEndian_length, bigEndian_length]
    omega
  refine ⟨result, completes, sameAddress, function, ?_, ?_⟩
  · rw [length, size, UInt8.toNat_ofNat', Nat.mod_eq_of_lt (by omega), Nat.mul_comm]
  · rw [size, contents, payload]

/-- Every frame the encoder returns has the length it computed in eight bits,
and no error is reported. -/
theorem fillFrame_result {address count : UInt16} {values : List UInt16} {frame : Frame n}
    {result : Int × Frame n} (completes : fillFrame address count values frame = .ok result) :
    result.1 = 0 ∧ result.2.dataLength = 5 + (UInt8.ofNat (values.length * 2)).toNat := by
  have ensures : Ensures (fillFrame address count values frame) fun result =>
      result.1 = 0 ∧ result.2.dataLength = 5 + (UInt8.ofNat (values.length * 2)).toNat :=
    .bind fun _ _ => .bind fun _ _ => .bind fun _ _ => .bind fun _ _ => .bind fun _ _ =>
      .bind fun _ _ => .ok ⟨rfl, rfl⟩
  exact ensures result completes

/-! ## What the slave reads -/

/-- The readers of the request find the address, the counts and the values. -/
structure Encodes (frame : Frame n) (address : UInt16) (values : List UInt16) : Prop where
  dataLength_eq : frame.dataLength = 5 + 2 * values.length
  address_eq : DataCommand.readAddressStart frame.dataArray = .ok address
  registerCount_eq : Exists fun count =>
    readRegisterCount frame.dataArray = .ok count ∧ count.toNat = values.length
  byteCount_eq : readDataByteCount frame.dataArray = .ok (2 * values.length)
  values_eq : forall index (inside : index < values.length),
    readUInt16 frame.dataArray (5 + 2 * index) = .ok values[index]

omit [TypeConversion] in
/-- The bytes of one value among those of a list. -/
theorem registerBytes_split {values : List UInt16} {index : Nat} (inside : index < values.length) :
    registerBytes values = registerBytes (values.take index) ++
      (bigEndian values[index].toNat ++ registerBytes (values.drop (index + 1))) := by
  conv => lhs; rw [← List.take_append_drop index values, List.drop_eq_getElem_cons inside]
  rw [registerBytes, List.flatMap_append, ← registerBytes_cons]
  rfl

theorem encodes_of_holds {frame : Frame n} {slaveAddress : UInt8} {address count : UInt16}
    {values : List UInt16} (short : values.length ≤ 127) (counted : count.toNat = values.length)
    (holds : Holds frame slaveAddress kFunction
      (Request.writeMultiple address count (registerBytes values)).payload) :
    Encodes frame address values := by
  let number := UInt8.ofNat (registerBytes values).length
  have fields : Holds frame slaveAddress kFunction (bigEndian address.toNat ++
      (bigEndian count.toNat ++ (number :: registerBytes values))) := holds
  have loaded : load frame.dataArray 4 = .ok number :=
    load_eq_ok.mpr (fields.getElem? (Nat.lt_add_of_pos_left (Nat.succ_pos _)))
  have numbered : number.toNat = 2 * values.length := by
    rw [UInt8.toNat_ofNat', registerBytes_length]
    exact Nat.mod_eq_of_lt (by omega)
  refine ⟨?_, fields.readFields.1, ⟨count, fields.readFields.2, counted⟩, ?_, ?_⟩
  · rw [fields.dataLength_eq]
    simp only [List.length_append, List.length_cons, bigEndian_length, registerBytes_length]
    omega
  · change (load frame.dataArray 4 >>= fun count => pure count.toNat) = _
    rw [loaded, ok_bind, numbered, pure_eq_ok]
  · intro index inside
    let front := bigEndian address.toNat ++ (bigEndian count.toNat ++
      (number :: registerBytes (values.take index)))
    have split : bigEndian address.toNat ++ (bigEndian count.toNat ++
        (number :: registerBytes values)) =
          front ++ (bigEndian values[index].toNat ++ registerBytes (values.drop (index + 1))) := by
      rw [registerBytes_split inside]
      simp only [front, List.append_assoc, List.cons_append]
    have position : front.length = 5 + 2 * index := by
      simp only [front, List.length_append, List.length_cons, bigEndian_length,
        registerBytes_length, List.length_take]
      omega
    rw [← position]
    exact fields.readUInt16 split

/-- For a frame that passes the encoder's own assertion about its size, every
byte is written inside it and the readers find everything again exactly up to
127 values. -/
theorem fillFrame_iff (address : UInt16) {values : List UInt16} (countable : values.length ≤ 65535)
    (frame : Frame n)
    (asserted : CommandPacket.kHeaderSize + (UInt8.ofNat (values.length * 2)).toNat ≤ n) :
    (Exists fun result =>
      fillFrame address (UInt16.ofNat values.length) values frame = .ok result ∧
        (result.1 ≠ 0 ∨ Encodes result.2 address values)) <->
      values.length ≤ 127 := by
  constructor
  · intro encoded
    rcases encoded with ⟨result, completes, outcome⟩
    have computed := fillFrame_result completes
    rcases outcome with failed | encodes
    · exact absurd computed.1 failed
    · have length := encodes.dataLength_eq.symm.trans computed.2
      have narrowed := (UInt8.ofNat (values.length * 2)).toNat_lt
      omega
  · intro short
    have counted : (UInt16.ofNat values.length).toNat = values.length := by
      rw [UInt16.toNat_ofNat']
      exact Nat.mod_eq_of_lt (by omega)
    have fits : 5 + 2 * values.length ≤ n := by
      rw [UInt8.toNat_ofNat', Nat.mod_eq_of_lt (by omega)] at asserted
      change 5 + values.length * 2 ≤ n at asserted
      omega
    rcases fillFrame_holds address (UInt16.ofNat values.length) short frame fits with
      ⟨result, completes, holds⟩
    exact ⟨(0, result), completes, Or.inr (encodes_of_holds short counted holds)⟩

omit [TypeConversion] in
/-- Two values into a frame just long enough. -/
theorem fillFrame_twoValues :
    letI := TypeConversion.shifting
    letI frame : Frame 9 := { dataArray := Vector.replicate 9 0 }
    Exists fun result => fillFrame 16 (UInt16.ofNat 2) [258, 772] frame = .ok result ∧
      (result.1 ≠ 0 ∨ Encodes result.2 16 [258, 772]) := by
  let conversion := TypeConversion.shifting
  let frame : Frame 9 := { dataArray := Vector.replicate 9 0 }
  let values : List UInt16 := [258, 772]
  have countable : values.length ≤ 65535 := by decide
  exact (fillFrame_iff 16 countable frame (by decide)).mpr (by decide)

omit [TypeConversion] in
/-- The bytes of 128 registers are counted as none, although they are copied. -/
theorem fillFrame_128_values :
    letI := TypeConversion.shifting
    letI values : List UInt16 := List.replicate 128 7
    letI frame : Frame 1024 := { dataArray := Vector.replicate 1024 0 }
    Exists fun result => fillFrame 0 128 values frame = .ok (0, result) ∧
      result.dataLength = 5 ∧ readDataByteCount result.dataArray = .ok 0 ∧
      ¬ Encodes result 0 values := by
  let conversion := TypeConversion.shifting
  let values : List UInt16 := List.replicate 128 7
  let frame : Frame 1024 := { dataArray := Vector.replicate 1024 0 }
  have size : values.length = 128 := List.length_replicate
  rcases fillFrame_ok 0 128 values frame (by omega) with ⟨result, completes, _, _, length, contents⟩
  have short : result.dataLength = 5 := by
    rw [length, size]
    rfl
  have loaded : load result.dataArray 4 = .ok 0 := by
    apply load_eq_ok.mpr
    rw [← List.getElem?_take_of_lt (by omega : 4 < 5 + 2 * values.length), contents, size]
    rfl
  refine ⟨result, completes, short, ?_, fun encodes => ?_⟩
  · change (load result.dataArray 4 >>= fun count => pure count.toNat) = _
    rw [loaded, ok_bind]
    rfl
  · have long : result.dataLength = 5 + 2 * values.length := encodes.dataLength_eq
    rw [short, size] at long
    cases long

end WriteMultipleHoldingRegistersCommand

end Modbus
