import ModbusBasic.Protocol.Framing

namespace Modbus

open Memory TypeConversion

/-!
# Replies under construction

A handler fills a response from its third byte on (`Filled`); `FrameResponse`
writes the address and the function in front and the checksum behind, and the
response then carries a whole frame (`Carries`).  Both also say that no index
handed to `operator[]` so far was outside the array, so none was redirected to
its first cell.
-/

variable {n : Nat}

/-- No index written so far lies outside the array. -/
def Response.Inside (response : Response) : Prop :=
  forall index, index ∈ response.touched -> index < 256

/-- The response holds these bytes behind the two of its header. -/
structure Filled (response : Response) (rest : List UInt8) : Prop where
  length_eq : response.length = rest.length + 2
  data_eq : (response.data.toList.drop 2).take rest.length = rest
  inside : response.Inside

/-- The response is these bytes. -/
structure Carries (response : Response) (bytes : List UInt8) : Prop where
  length_eq : response.length = bytes.length
  data_eq : response.data.toList.take bytes.length = bytes
  inside : response.Inside

theorem Carries.length_le {response : Response} {bytes : List UInt8}
    (carries : Carries response bytes) : response.length ≤ 256 := by
  have taken := congrArg List.length carries.data_eq
  rw [List.length_take, Vector.length_toList] at taken
  rw [carries.length_eq]
  omega

namespace Response

@[simp] theorem set_length (response : Response) (index : Nat) (value : UInt8) :
    (response.set index value).length = response.length :=
  rfl

@[simp] theorem setLength_length (response : Response) (length : Nat) :
    (response.setLength length).length = length :=
  rfl

@[simp] theorem setLength_data (response : Response) (length : Nat) :
    (response.setLength length).data = response.data :=
  rfl

theorem set_data (response : Response) {index : Nat} (value : UInt8) (inside : index < 256) :
    (response.set index value).data.toList = response.data.toList.set index value := by
  rw [set, Vector.toList_set, cell_of_lt inside]

theorem Inside.set {response : Response} (kept : response.Inside) {index : Nat} (value : UInt8)
    (inside : index < 256) : (response.set index value).Inside := by
  intro other member
  rcases List.mem_append.mp member with earlier | last
  · exact kept other earlier
  · rw [List.mem_singleton.mp last]
    exact inside

theorem inside_empty : ({} : Response).Inside := by
  intro index member
  cases member

end Response

/-- A block behind the header is what the response is filled with. -/
theorem Filled.of_splice {response : Response} {cells rest : List UInt8}
    (length_eq : response.length = rest.length + 2) (inside : response.Inside)
    (size : cells.length = 256) (fits : 2 + rest.length ≤ 256)
    (written : response.data.toList = splice cells 2 rest) : Filled response rest := by
  refine ⟨length_eq, ?_, inside⟩
  rw [written, drop_take_splice cells (by rw [size]; exact fits)]

variable [TypeConversion]

theorem frameResponse_ok (crc16 : Crc16) (packet : Frame n) {response : Response}
    {rest : List UInt8} (filled : Filled response rest) (fits : rest.length + 4 ≤ 256) :
    Exists fun result => ProtocolRtu.frameResponse crc16 packet response = .ok result ∧
      Carries result (withChecksum crc16 (packet.address :: packet.function.code :: rest)) := by
  let framed := (response.set 0 packet.address).set 1 packet.function.code
  let body := packet.address :: packet.function.code :: rest
  let crc := checksum crc16 body
  have size : response.data.toList.length = 256 := Vector.length_toList
  have cells : framed.data.toList =
      splice response.data.toList 0 [packet.address, packet.function.code] := by
    rw [Response.set_data _ _ (by decide), Response.set_data _ _ (by decide)]
    exact set_pair _ _ _ (by rw [size]; decide)
  have front : framed.data.toList.take (rest.length + 2) = body := by
    rw [cells]
    change packet.address :: packet.function.code ::
      (response.data.toList.drop 2).take rest.length = body
    rw [filled.data_eq]
  have framedSize : framed.data.toList.length = 256 := Vector.length_toList
  have viewed : framed.getArrayView = .ok body := by
    change readView framed.data 0 response.length = _
    rw [filled.length_eq, readView_ok framed.data (by omega), List.drop_zero, front]
  have bytes := getByte_pair crc.toNat_lt
  refine ⟨((framed.setLength (response.length + 2)).set response.length (getByte crc.toNat 1)).set
    (response.length + 1) (getByte crc.toNat 0), ?_, ?_, ?_, ?_⟩
  · change (framed.getArrayView >>= _) = _
    rw [viewed, ok_bind]
    have counted : response.length = body.length := filled.length_eq
    simp only [Response.getLength, Response.setLength_length, Response.set_length, pure_eq_ok,
      Nat.add_sub_cancel, counted]
    rfl
  · rw [withChecksum_length]
    exact congrArg (· + 2) filled.length_eq
  · rw [withChecksum_length, filled.length_eq, Response.set_data _ _ (by omega),
      Response.set_data _ _ (by omega), Response.setLength_data]
    change List.take (rest.length + 2 + 2) _ = body ++ bigEndian crc.toNat
    rw [take_set_pair _ _ _ (by rw [framedSize]; omega), front, bytes]
  · have short : response.length + 1 < 256 := by
      rw [filled.length_eq]
      omega
    have header : (framed.setLength (response.length + 2)).Inside :=
      (filled.inside.set packet.address (by decide)).set packet.function.code (by decide)
    exact (header.set _ (Nat.lt_of_succ_lt short)).set _ short

/-- However a response was filled, framing adds two to its length. -/
theorem frameResponse_length {crc16 : Crc16} {packet : Frame n} {response result : Response}
    (completes : ProtocolRtu.frameResponse crc16 packet response = .ok result) :
    result.length = response.length + 2 := by
  unfold ProtocolRtu.frameResponse at completes
  rcases bind_eq_ok.mp completes with ⟨view, _, same⟩
  rw [← Except.ok.inj same]
  rfl

end Modbus
