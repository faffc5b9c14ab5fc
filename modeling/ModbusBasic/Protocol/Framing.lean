import ModbusBasic.Protocol.ProtocolRtu

namespace Modbus

open Memory TypeConversion

/-!
# Frames on the wire

What the codec functions compute, in terms of lists of bytes.  `withChecksum`
is a frame as it travels, and `EndsWithChecksum` the frames a receiver may
trust.  The two checks of `ProtocolRtu` decide the latter, `frame` produces the
former, and `readFrame` takes the header and the payload out of any buffer.
-/

variable [TypeConversion] {n m : Nat}

/-- The checksum over all of some bytes. -/
def checksum (crc16 : Crc16) (bytes : List UInt8) : UInt16 := crc16 bytes bytes.length

/-- The bytes with their checksum behind them, most significant byte first. -/
def withChecksum (crc16 : Crc16) (bytes : List UInt8) : List UInt8 :=
  bytes ++ bigEndian (checksum crc16 bytes).toNat

/-- The last two bytes are the checksum of those before them. -/
def EndsWithChecksum (crc16 : Crc16) (raw : List UInt8) : Prop :=
  raw = withChecksum crc16 (raw.take (raw.length - 2))

instance (crc16 : Crc16) (raw : List UInt8) : Decidable (EndsWithChecksum crc16 raw) :=
  inferInstanceAs (Decidable (raw = withChecksum crc16 (raw.take (raw.length - 2))))

omit [TypeConversion] in
@[simp] theorem withChecksum_length (crc16 : Crc16) (bytes : List UInt8) :
    (withChecksum crc16 bytes).length = bytes.length + 2 := by
  rw [withChecksum, List.length_append, bigEndian_length]

omit [TypeConversion] in
theorem endsWithChecksum_withChecksum (crc16 : Crc16) (bytes : List UInt8) :
    EndsWithChecksum crc16 (withChecksum crc16 bytes) := by
  rw [EndsWithChecksum, withChecksum_length, Nat.add_sub_cancel]
  conv => rhs; rw [withChecksum.eq_def crc16 bytes, List.take_left' rfl]

omit [TypeConversion] in
/-- A checksum does not see the bytes behind those it is asked for. -/
theorem Crc16.DependsOnPrefix.checksum_append {crc16 : Crc16} (depends : crc16.DependsOnPrefix)
    (bytes rest : List UInt8) : crc16 (bytes ++ rest) bytes.length = checksum crc16 bytes :=
  depends _ _ _ (by simp) (Nat.le_refl _) (by simp)

/-! ## Checking -/

/-- Two bytes join to a value exactly when they are its bytes. -/
theorem make_eq_iff (high low : UInt8) (value : UInt16) :
    makeMSBUint16FromU8Array high low = value <-> [high, low] = bigEndian value.toNat := by
  constructor
  · intro joined
    rw [← joined, bigEndian_make]
  · intro bytes
    have parts := List.cons.inj bytes
    rw [parts.1, (List.cons.inj parts.2).1]
    exact make_getByte value

omit [TypeConversion] in
/-- Splitting off the last two bytes. -/
private theorem last_two (raw : List UInt8) (long : 2 ≤ raw.length) :
    Exists fun high => Exists fun low => raw = raw.take (raw.length - 2) ++ [high, low] ∧
      raw[raw.length - 2]? = some high ∧ raw[raw.length - 2 + 1]? = some low := by
  have first : raw.length - 2 < raw.length := by omega
  have second : raw.length - 2 + 1 < raw.length := by omega
  refine ⟨raw[raw.length - 2], raw[raw.length - 2 + 1], ?_, List.getElem?_eq_getElem first,
    List.getElem?_eq_getElem second⟩
  have tail : raw.drop (raw.length - 2) = [raw[raw.length - 2], raw[raw.length - 2 + 1]] := by
    rw [List.drop_eq_getElem_cons first, List.drop_eq_getElem_cons second,
      List.drop_eq_nil_of_le (by omega)]
  rw [← tail, List.take_append_drop]

/-- The check compares the last two bytes with the checksum of those in front. -/
private theorem frameCrcIsValidView_last_two (crc16 : Crc16) {raw : List UInt8} {high low : UInt8}
    (long : 2 ≤ raw.length) (first : raw[raw.length - 2]? = some high)
    (second : raw[raw.length - 2 + 1]? = some low) :
    ProtocolRtu.frameCrcIsValidView crc16 raw =
      .ok (decide (makeMSBUint16FromU8Array high low =
        crc16 raw (raw.length - ProtocolRtu.kFooterLength))) := by
  simp only [ProtocolRtu.frameCrcIsValidView, SizeT.sub_of_le long, loadView_ok first, ok_bind,
    loadView_ok second, pure_eq_ok]
  by_cases equal : makeMSBUint16FromU8Array high low =
      crc16 raw (raw.length - ProtocolRtu.kFooterLength)
  · rw [decide_eq_true equal, if_neg (not_not.mpr equal)]
  · rw [decide_eq_false equal, if_pos equal]

theorem frameCrcIsValidView_eq {crc16 : Crc16} (depends : crc16.DependsOnPrefix)
    {raw : List UInt8} (long : 2 ≤ raw.length) :
    ProtocolRtu.frameCrcIsValidView crc16 raw = .ok (decide (EndsWithChecksum crc16 raw)) := by
  rcases last_two raw long with ⟨high, low, split, first, second⟩
  have front : (raw.take (raw.length - 2)).length = raw.length - 2 := by
    rw [List.length_take]
    omega
  have calculated : crc16 raw (raw.length - ProtocolRtu.kFooterLength) =
      checksum crc16 (raw.take (raw.length - 2)) := by
    have prefixed := depends.checksum_append (raw.take (raw.length - 2)) [high, low]
    rw [← split, front] at prefixed
    exact prefixed
  have decided : EndsWithChecksum crc16 raw <->
      makeMSBUint16FromU8Array high low = checksum crc16 (raw.take (raw.length - 2)) := by
    rw [make_eq_iff, EndsWithChecksum, withChecksum]
    conv => lhs; lhs; rw [split]
    exact List.append_cancel_left_eq _ _ _ |>.to_iff
  rw [frameCrcIsValidView_last_two crc16 long first second, calculated]
  exact congrArg Except.ok (decide_eq_decide.mpr decided.symm)

/-- The check of the raw bytes stays inside them. -/
theorem frameCrcIsValidView_completes (crc16 : Crc16) {raw : List UInt8}
    (long : 2 ≤ raw.length) :
    Exists fun valid => ProtocolRtu.frameCrcIsValidView crc16 raw = .ok valid := by
  rcases last_two raw long with ⟨high, low, _, first, second⟩
  exact ⟨_, frameCrcIsValidView_last_two crc16 long first second⟩

omit [TypeConversion] in
theorem Holds.load_dataArray {frame : Frame n} {address : UInt8} {function : Function}
    {body : List UInt8} (holds : Holds frame address function body) {index : Nat}
    (inside : index < body.length) : load frame.dataArray index = .ok body[index] :=
  load_eq_ok.mpr ((holds.getElem? inside).trans (List.getElem?_eq_getElem inside))

omit [TypeConversion] in
/-- The loop that lays out the front of a body behind a header. -/
theorem Holds.copy_body {frame : Frame n} {address : UInt8} {function : Function}
    {body : List UInt8} (holds : Holds frame address function body) {count : Nat}
    (front : count ≤ body.length) (header : Vector UInt8 m) (fits : 2 + count ≤ m) :
    Exists fun result =>
      forRange (fun index cells => do
        let byte <- load frame.dataArray index
        store cells (index + ProtocolRtu.kHeaderLength) byte) count header = .ok result ∧
      result.toList = splice header.toList 2 (body.take count) := by
  have length : (body.take count).length = count := List.length_take_of_le front
  rcases forRange_copy (fun index cells => do
      let byte <- load frame.dataArray index
      store cells (index + ProtocolRtu.kHeaderLength) byte) 2 (body.take count) header
      (by omega) (by
        intro index cells inside
        have within : index < body.length := by omega
        rw [holds.load_dataArray within, ok_bind, List.getElem_take,
          Nat.add_comm index ProtocolRtu.kHeaderLength]
        rfl) with ⟨result, copied, contents⟩
  rw [length] at copied
  exact ⟨result, copied, contents⟩

/-- The check of a decoded frame is the check of the bytes it was decoded from,
as long as they fit the scratch array. -/
theorem frameCrcIsValid_eq (crc16 : Crc16) {frame : Frame n} {address : UInt8}
    {function : Function} {body : List UInt8} (holds : Holds frame address function body)
    (fits : body.length ≤ 254) :
    ProtocolRtu.frameCrcIsValid crc16 frame =
      ProtocolRtu.frameCrcIsValidView crc16 (address :: function.code :: body) := by
  let header : Vector UInt8 256 :=
    ((Vector.replicate 256 0).set 0 address).set 1 function.code
  have count : min frame.dataLength 256 = body.length := by
    rw [holds.dataLength_eq]
    omega
  rcases holds.copy_body (Nat.le_refl body.length) header (by omega) with ⟨data, copied, contents⟩
  rw [List.take_length] at contents
  have viewed : readView data 0 (frame.dataLength + 2) =
      .ok (address :: function.code :: body) := by
    rw [holds.dataLength_eq, readView_ok data (by omega), List.drop_zero, contents, Nat.add_comm,
      take_splice_end _ (by rw [Vector.length_toList]; omega)]
    rfl
  unfold ProtocolRtu.frameCrcIsValid
  rw [holds.address_eq, holds.function_eq, count]
  change (forRange _ body.length header >>= _) = _
  rw [copied, ok_bind, viewed, ok_bind]

/-- The last two cells of the scratch array hold the header's share of a longer
frame, so the copy leaves it. -/
theorem frameCrcIsValid_overrun (crc16 : Crc16) {frame : Frame n} {address : UInt8}
    {function : Function} {body : List UInt8} (holds : Holds frame address function body)
    (long : 255 ≤ body.length) :
    ProtocolRtu.frameCrcIsValid crc16 frame = .error ⟨256, 256⟩ := by
  let header : Vector UInt8 256 :=
    ((Vector.replicate 256 0).set 0 address).set 1 function.code
  let copy : Nat -> Vector UInt8 256 -> Checked (Vector UInt8 256) := fun index data => do
    let byte <- load frame.dataArray index
    store data (index + ProtocolRtu.kHeaderLength) byte
  rcases holds.copy_body (by omega : 254 ≤ body.length) header (by omega) with ⟨data, copied, _⟩
  have failed : forRange copy 255 header = .error ⟨256, 256⟩ := by
    rw [forRange_succ, show forRange copy 254 header = .ok data from copied, ok_bind]
    change (load frame.dataArray 254 >>= _) = _
    rw [holds.load_dataArray (by omega : 254 < body.length), ok_bind]
    exact store_outside data _ (Nat.le_refl 256)
  have count : 255 ≤ min frame.dataLength 256 := by
    rw [holds.dataLength_eq]
    omega
  unfold ProtocolRtu.frameCrcIsValid
  rw [holds.address_eq, holds.function_eq]
  change (forRange copy (min frame.dataLength 256) header >>= _) = _
  rw [forRange_error copy failed count, error_bind]

/-! ## Encoding -/

theorem frame_eq {crc16 : Crc16} (depends : crc16.DependsOnPrefix) {packet : Frame n}
    {address : UInt8} {function : Function} {payload : List UInt8}
    (holds : Holds packet address function payload) (frameBuffer : Vector UInt8 m)
    (size : m = payload.length + 4) :
    Exists fun buffer => ProtocolRtu.frame crc16 packet frameBuffer = .ok buffer ∧
      buffer.toList = withChecksum crc16 (address :: function.code :: payload) := by
  let header := (frameBuffer.set 0 address).set 1 function.code
  have headerFront : header.toList.take 2 = [address, function.code] := by
    simp only [header, Vector.toList_set]
    have long : 2 ≤ frameBuffer.toList.length := by
      rw [Vector.length_toList]
      omega
    generalize frameBuffer.toList = cells at long ⊢
    rcases cells with _ | ⟨first, _ | ⟨second, rest⟩⟩
    · simp at long
    · simp at long
    · rfl
  rcases holds.copy_body (Nat.le_refl payload.length) header (by omega) with
    ⟨body, copied, contents⟩
  rw [List.take_length] at contents
  have front : body.toList.take (payload.length + 2) = address :: function.code :: payload := by
    rw [contents, Nat.add_comm, take_splice_end _ (by rw [Vector.length_toList]; omega),
      headerFront]
    rfl
  have crc : crc16 body.toList (payload.length + ProtocolRtu.kHeaderLength) =
      checksum crc16 (address :: function.code :: payload) := by
    have split := List.take_append_drop (payload.length + 2) body.toList
    rw [front] at split
    rw [← split]
    exact depends.checksum_append (address :: function.code :: payload) _
  generalize checksumEq : checksum crc16 (address :: function.code :: payload) = value at crc
  have bytes := getByte_pair value.toNat_lt
  have addressed : store frameBuffer ProtocolRtu.kAddressLocation address =
      .ok (frameBuffer.set 0 address) := store_ok frameBuffer address (by change 0 < _; omega)
  have headed : store (frameBuffer.set 0 address) ProtocolRtu.kFunctionLocation function.code =
      .ok header := store_ok _ _ (by change 1 < _; omega)
  have crcStart : Command.kHeaderLength + payload.length + Command.kFooterLength - 2 =
      payload.length + 2 := by
    change 2 + payload.length + 2 - 2 = _
    omega
  let highSet := body.set (payload.length + 2) (getByte value.toNat 1)
  have highWritten : store body (payload.length + 2) (getByte value.toNat 1) = .ok highSet :=
    store_ok body _ (by omega)
  have lowWritten : store highSet (payload.length + 2 + 1) (getByte value.toNat 0) =
      .ok (highSet.set (payload.length + 2 + 1) (getByte value.toNat 0)) :=
    store_ok highSet _ (by omega)
  refine ⟨highSet.set (payload.length + 2 + 1) (getByte value.toNat 0), ?_, ?_⟩
  · simp only [ProtocolRtu.frame, getRequiredPacketSize, holds.address_eq, holds.function_eq,
      holds.dataLength_eq, addressed, ok_bind, headed, copied, crcStart, crc, highWritten,
      lowWritten]
  · have whole := take_set_pair body.toList (getByte value.toNat 1) (getByte value.toNat 0)
      (by rw [Vector.length_toList]; omega : payload.length + 2 + 2 ≤ body.toList.length)
    rw [front, bytes, List.take_of_length_le (by
      simp only [List.length_set, Vector.length_toList]
      omega)] at whole
    rw [withChecksum, checksumEq, ← whole]
    simp only [highSet, Vector.toList_set]

/-! ## Decoding -/

omit [TypeConversion] in
theorem readFrame_eq {frameBuffer : List UInt8} {address code : UInt8} {payload footer : List UInt8}
    (split : frameBuffer = address :: code :: payload ++ footer) (twoBytes : footer.length = 2)
    (packet : Frame n) (capacity : payload.length ≤ n) :
    Exists fun decoded => ProtocolRtu.readFrame frameBuffer packet = .ok decoded ∧
      Holds decoded address ⟨code⟩ payload := by
  have size : frameBuffer.length = payload.length + 4 := by
    rw [split, List.length_append, twoBytes]
    rfl
  have dataLength : SizeT.sub frameBuffer.length
      (ProtocolRtu.kHeaderLength + ProtocolRtu.kFooterLength) = payload.length := by
    change SizeT.sub frameBuffer.length 4 = _
    rw [SizeT.sub_of_le (by omega), size]
    omega
  have functionByte : loadView frameBuffer ProtocolRtu.kFunctionLocation = .ok code :=
    loadView_ok (by rw [split]; rfl)
  have addressByte : loadView frameBuffer ProtocolRtu.kAddressLocation = .ok address :=
    loadView_ok (by rw [split]; rfl)
  rcases forRange_copy (fun index dataArray => do
      let byte <- loadView frameBuffer (index + ProtocolRtu.kHeaderLength)
      store dataArray index byte) 0 payload packet.dataArray (by omega) (by
        intro index cells inside
        have found : frameBuffer[index + ProtocolRtu.kHeaderLength]? = some payload[index] := by
          rw [split]
          change (payload ++ footer)[index]? = _
          rw [List.getElem?_append_left inside, List.getElem?_eq_getElem inside]
        rw [loadView_ok found, ok_bind, Nat.zero_add]) with ⟨dataArray, copied, contents⟩
  refine ⟨{ address := address, function := ⟨code⟩, dataLength := payload.length,
            dataArray := dataArray }, ?_, rfl, rfl, rfl, ?_⟩
  · simp only [ProtocolRtu.readFrame, dataLength, functionByte, ok_bind, addressByte, copied,
      pure_eq_ok]
  · have front : (splice packet.dataArray.toList 0 payload).take (0 + payload.length) = payload :=
      take_splice_end _ (by rw [Vector.length_toList]; omega)
    rw [← contents, Nat.zero_add] at front
    exact front

/-! ## The codec and its inverse -/

/-- Encoding fills a buffer that passes the check and decodes to what was
encoded; conversely decoding a buffer and encoding the result gives the buffer
back exactly when it passes the check.  The buffers encoded into may hold
anything before, and so may the frame decoded into. -/
theorem frame_readFrame_inverse {crc16 : Crc16} (depends : crc16.DependsOnPrefix) :
    (forall (n : Nat) (packet : Frame n) (address : UInt8) (function : Function)
      (payload : List UInt8) (frameBuffer : Vector UInt8 (payload.length + 4)),
      Holds packet address function payload ->
      Exists fun buffer => ProtocolRtu.frame crc16 packet frameBuffer = .ok buffer ∧
        ProtocolRtu.frameCrcIsValidView crc16 buffer.toList = .ok true ∧
        forall (m : Nat) (target : Frame m), payload.length ≤ m ->
          Exists fun decoded => ProtocolRtu.readFrame buffer.toList target = .ok decoded ∧
            Holds decoded address function payload) ∧
    (forall (m k : Nat) (buffer frameBuffer : Vector UInt8 m) (target : Frame k),
      4 ≤ m -> m - 4 ≤ k ->
      Exists fun decoded => Exists fun result =>
        ProtocolRtu.readFrame buffer.toList target = .ok decoded ∧
        ProtocolRtu.frame crc16 decoded frameBuffer = .ok result ∧
        (result = buffer <-> ProtocolRtu.frameCrcIsValidView crc16 buffer.toList = .ok true)) := by
  constructor
  · intro n packet address function payload frameBuffer holds
    rcases frame_eq depends holds frameBuffer rfl with ⟨buffer, encoded, wire⟩
    refine ⟨buffer, encoded, ?_, fun m target capacity => ?_⟩
    · rw [wire, frameCrcIsValidView_eq depends (by simp),
        decide_eq_true (endsWithChecksum_withChecksum crc16 _)]
    · exact readFrame_eq wire (bigEndian_length _) target capacity
  · intro m k buffer frameBuffer target long capacity
    have size : buffer.toList.length = m := buffer.length_toList
    rcases last_two buffer.toList (by omega) with ⟨high, low, split, _, _⟩
    rcases header : buffer.toList.take (buffer.toList.length - 2) with
      _ | ⟨address, _ | ⟨code, payload⟩⟩
    · have := congrArg List.length header
      simp only [List.length_take, List.length_nil] at this
      omega
    · have := congrArg List.length header
      simp only [List.length_take, List.length_singleton] at this
      omega
    · have payloadSize : payload.length + 4 = m := by
        have := congrArg List.length header
        simp only [List.length_take, List.length_cons] at this
        omega
      rw [header] at split
      rcases readFrame_eq split rfl target (by omega) with ⟨decoded, taken, holds⟩
      rcases frame_eq depends holds frameBuffer payloadSize.symm with ⟨result, encoded, wire⟩
      refine ⟨decoded, result, taken, encoded, ?_⟩
      rw [frameCrcIsValidView_eq depends (by omega), ← Vector.toList_inj, wire, Except.ok.injEq,
        decide_eq_true_iff, EndsWithChecksum, header]
      exact eq_comm

omit [TypeConversion] in
/-- The request to read one register, with the checksum of the standard. -/
theorem frame_readFrame_inverse_modbus :
    letI := TypeConversion.shifting
    letI packet : Frame 4 :=
      { address := 1, function := .kReadMultipleHoldingRegisters, dataLength := 4,
        dataArray := #v[0, 0, 0, 1] }
    (Exists fun buffer : Vector UInt8 8 =>
      ProtocolRtu.frame .modbus packet (Vector.replicate 8 0) = .ok buffer ∧
        ProtocolRtu.frameCrcIsValidView .modbus buffer.toList = .ok true) ∧
    Exists fun decoded => Exists fun result : Vector UInt8 8 =>
      ProtocolRtu.readFrame [1, 3, 0, 0, 0, 1, 132, 10] packet = .ok decoded ∧
        ProtocolRtu.frame .modbus decoded (Vector.replicate 8 0) = .ok result ∧
        result = #v[1, 3, 0, 0, 0, 1, 132, 10] := by
  let conversion := TypeConversion.shifting
  let packet : Frame 4 :=
    { address := 1, function := .kReadMultipleHoldingRegisters, dataLength := 4,
      dataArray := #v[0, 0, 0, 1] }
  have inverse := frame_readFrame_inverse Crc16.modbus_dependsOnPrefix
  constructor
  · rcases inverse.1 4 packet 1 .kReadMultipleHoldingRegisters [0, 0, 0, 1]
      (Vector.replicate 8 0) ⟨rfl, rfl, rfl, rfl⟩ with ⟨buffer, encoded, valid, _⟩
    exact ⟨buffer, encoded, valid⟩
  · rcases inverse.2 8 4 #v[1, 3, 0, 0, 0, 1, 132, 10] (Vector.replicate 8 0) packet (by decide)
      (by decide) with ⟨decoded, result, taken, encoded, same⟩
    exact ⟨decoded, result, taken, encoded, same.mpr (by decide +kernel)⟩

end Modbus
