import ModbusBasic.Blocks.AccessValid
import ModbusBasic.Blocks.RegisterController

namespace Modbus

open Memory

/-!
# Transfers between two buffers

A read and a write are the same loop of register copies.  It stays inside both
buffers exactly when the registers fit behind both of the positions it starts
from, and then it is one block write.

The clamp of the length compares sizes of buffers only.  It keeps the buffer of
the caller safe, where the loop starts at 0, and not the one of the block, where
it starts at the address.
-/

/-! ## The loop -/

/-- The position of a register behind the one at `start`. -/
def position (start index : Nat) : Nat := SizeT.add start (SizeT.mul registerSize index)

theorem position_of_lt {start index : Nat} (fits : start + 2 * index < SizeT.modulus) :
    position start index = start + 2 * index := by
  rw [position, registerSize, SizeT.mul_of_lt (by omega), SizeT.add_of_lt fits]

theorem position_zero (index : Nat) : position 0 index = SizeT.mul registerSize index := by
  rw [position, SizeT.add, Nat.zero_add, SizeT.mul, Nat.mod_mod]

def copyRegisters (source : U8Buffer) (sourceStart : Nat) (target : U8Buffer)
    (targetStart count : Nat) : Checked U8Buffer :=
  forRange (fun i target => copyRegister source (position sourceStart i) target
    (position targetStart i)) count target

section Loop

variable {source target : U8Buffer} {sourceStart targetStart count : Nat}

/-- Registers that fit are copied as one block. -/
theorem copyRegisters_ok (fits : 0 < count -> sourceStart + 2 * count ≤ source.size ∧
      targetStart + 2 * count ≤ target.size) :
    Exists fun result =>
      copyRegisters source sourceStart target targetStart count = .ok result ∧
        result.size = target.size ∧
        result.bytes = splice target.bytes targetStart
          ((source.bytes.drop sourceStart).take (2 * count)) := by
  rcases Nat.eq_zero_or_pos count with rfl | positive
  · exact ⟨target, rfl, rfl, by rw [Nat.mul_zero, List.take_zero, splice_nil]⟩
  rcases fits positive with ⟨sourceFits, targetFits⟩
  have sourceSmall := source.size_lt
  have targetSmall := target.size_lt
  have block := chunks_pairs source.bytes 0 (by rw [U8Buffer.bytes_length]; omega :
    sourceStart + count * 2 ≤ source.bytes.length)
  rw [Nat.mul_comm count 2] at block
  rw [← block]
  refine forRange_splice _ U8Buffer.bytes (fun state => state.size = target.size) targetStart 2
    _ count target rfl (fun _ => rfl) (by rw [U8Buffer.bytes_length]; omega) ?_
  intro index state before size _
  have sourceAt : position sourceStart index = sourceStart + index * 2 := by
    rw [position_of_lt (by omega), Nat.mul_comm 2 index]
  have targetAt : position targetStart index = targetStart + index * 2 := by
    rw [position_of_lt (by omega), Nat.mul_comm 2 index]
  rw [sourceAt, targetAt]
  have sourceRoom : sourceStart + index * 2 + 2 ≤ source.size := by omega
  have targetRoom : targetStart + index * 2 + 2 ≤ state.size := by omega
  rcases copyRegister_ok sourceRoom targetRoom with ⟨next, copied, kept, written⟩
  exact ⟨next, copied, kept.trans size, written⟩

/-- Registers each of which is inside a buffer fit as a whole: the positions do
not wrap before they leave the buffer. -/
theorem registers_fit {buffer : U8Buffer} {start : Nat} (startFits : start < SizeT.modulus)
    (positive : 0 < count)
    (inside : forall index, index < count -> buffer.HasRegister (position start index)) :
    start + 2 * count ≤ buffer.size := by
  have small := buffer.size_lt
  induction count with
  | zero => exact absurd positive (Nat.lt_irrefl 0)
  | succ count inductionHypothesis =>
      have last := inside count (Nat.lt_succ_self count)
      have reached : start + 2 * count < SizeT.modulus := by
        rcases Nat.eq_zero_or_pos count with rfl | positive
        · exact startFits
        · have front := inductionHypothesis positive
            (fun index before => inside index (Nat.lt_succ_of_lt before))
          omega
      rw [position_of_lt reached] at last
      have second := last.2
      rw [SizeT.add_of_lt (by have first := last.1; omega)] at second
      omega

/-- A loop that completes found every register inside both buffers. -/
theorem copyRegisters_inside {result : U8Buffer}
    (completes : copyRegisters source sourceStart target targetStart count = .ok result)
    {index : Nat} (before : index < count) :
    source.HasRegister (position sourceStart index) ∧
      target.HasRegister (position targetStart index) := by
  have kept : forall reached next, forRange (fun i target => copyRegister source
      (position sourceStart i) target (position targetStart i)) reached target = .ok next ->
        next.size = target.size := by
    intro reached
    induction reached with
    | zero =>
        intro next same
        cases same
        rfl
    | succ reached inductionHypothesis =>
        intro next completes
        rcases bind_eq_ok.mp completes with ⟨middle, front, last⟩
        exact (copyRegister_inside last).2.2.trans (inductionHypothesis middle front)
  rcases forRange_round completes before with ⟨state, reached, next, copied⟩
  rcases copyRegister_inside copied with ⟨inSource, inTarget, _⟩
  rw [U8Buffer.HasRegister, kept index state reached] at inTarget
  exact ⟨inSource, inTarget⟩

/-- The loop stays inside both buffers exactly when all registers fit. -/
theorem copyRegisters_completes_iff (sourceFits : sourceStart < SizeT.modulus)
    (targetFits : targetStart < SizeT.modulus) :
    (Exists fun result =>
        copyRegisters source sourceStart target targetStart count = .ok result) <->
      (0 < count -> sourceStart + 2 * count ≤ source.size ∧
        targetStart + 2 * count ≤ target.size) := by
  constructor
  · rintro ⟨result, completes⟩ positive
    exact ⟨registers_fit sourceFits positive fun index before =>
        (copyRegisters_inside completes before).1,
      registers_fit targetFits positive fun index before =>
        (copyRegisters_inside completes before).2⟩
  · intro fits
    rcases copyRegisters_ok fits with ⟨result, completes, _⟩
    exact ⟨result, completes⟩

end Loop

/-! ## Reads and writes -/

namespace RegisterController

variable {controller : RegisterController} {address length : Nat} {buffer : U8Buffer}
  {block : U8Field}

theorem getElem?_found (isFound : controller.controller.found address = some block)
    (length : Nat) :
    controller.entries[controller.controller.findBlock address length]? = some block :=
  (ByteFieldController.getElem?_findBlock controller.controller address length).trans isFound

theorem read_eq (valid : controller.accessValid address length = .ok true)
    (isFound : controller.controller.found address = some block) :
    controller.read address length buffer =
      (copyRegisters block.buffer address buffer 0 (transferLength buffer block.buffer length) >>=
        fun out => .ok (transferLength buffer block.buffer length, out)) := by
  simp only [read, valid, ok_bind, if_true, loadView_ok (getElem?_found isFound length),
    copyRegisters, position_zero]
  rfl

theorem write_eq (valid : controller.accessValid address length = .ok true)
    (isFound : controller.controller.found address = some block) :
    controller.write address length buffer =
      (copyRegisters buffer 0 block.buffer address (transferLength buffer block.buffer length) >>=
        fun blockBuffer => .ok (transferLength buffer block.buffer length,
          controller.setBuffer (controller.controller.findBlock address length) blockBuffer)) := by
  simp only [write, valid, ok_bind, if_true, loadView_ok (getElem?_found isFound length),
    copyRegisters, position_zero]
  rfl

/-- A read that copies `count` registers to the front of the buffer and touches
nothing else. -/
def ReadsInside (controller : RegisterController) (address length : Nat) (buffer : U8Buffer)
    (block : U8Field) (count : Nat) : Prop :=
  Exists fun out => controller.read address length buffer = .ok (count, out) ∧
    out.size = buffer.size ∧
    out.bytes = splice buffer.bytes 0 ((block.buffer.bytes.drop address).take (2 * count))

/-- A write that copies `count` registers from the front of the buffer and touches
nothing else. -/
def WritesInside (controller : RegisterController) (address length : Nat) (buffer : U8Buffer)
    (block : U8Field) (count : Nat) : Prop :=
  Exists fun blockBuffer => controller.write address length buffer =
      .ok (count, controller.setBuffer (controller.controller.findBlock address length)
        blockBuffer) ∧
    blockBuffer.size = block.buffer.size ∧
    blockBuffer.bytes = splice block.buffer.bytes address (buffer.bytes.take (2 * count))

theorem transferLength_eq (buffer blockBuffer : U8Buffer) (length : Nat) :
    transferLength buffer blockBuffer length =
      min length (min (buffer.size / 2) (blockBuffer.size / 2)) := by
  change min (min buffer.size blockBuffer.size / 2) length = _
  omega

/-- Accepted accesses stay inside both buffers, and transfer and count what they
should, exactly when the transfer fits behind the address in the block. -/
theorem transfer_inside_iff (valid : controller.accessValid address length = .ok true)
    (isFound : controller.controller.found address = some block) (buffer : U8Buffer) :
    (controller.ReadsInside address length buffer block
          (transferLength buffer block.buffer length) ∧
        controller.WritesInside address length buffer block
          (transferLength buffer block.buffer length) ∧
        (0 < length -> 2 ≤ buffer.size -> 2 ≤ block.buffer.size ->
          0 < transferLength buffer block.buffer length)) <->
      (0 < length -> 2 ≤ buffer.size -> 2 ≤ block.buffer.size ->
        address + 2 * min length (min (buffer.size / 2) (block.buffer.size / 2)) ≤
          block.buffer.size) := by
  have addressFits : address < SizeT.modulus :=
    Nat.lt_of_le_of_lt (ByteFieldController.found_le isFound) (SizeT.rangeEnd_lt _ _)
  have count := transferLength_eq buffer block.buffer length
  -- The clamp keeps the transfer inside the buffer of the caller.
  have room : 2 * transferLength buffer block.buffer length ≤ buffer.size := by omega
  constructor
  · rintro ⟨⟨out, completes, _⟩, _⟩ named callerFits blockFits
    rw [read_eq valid isFound, bind_eq_ok] at completes
    rcases completes with ⟨copied, done, _⟩
    have fits := (copyRegisters_completes_iff addressFits SizeT.modulus_pos).mp ⟨copied, done⟩
    rw [count] at fits
    exact (fits (by omega)).1
  · intro fits
    have inside : 0 < transferLength buffer block.buffer length ->
        address + 2 * transferLength buffer block.buffer length ≤ block.buffer.size := by
      intro positive
      rw [count] at positive ⊢
      exact fits (by omega) (by omega) (by omega)
    refine ⟨?_, ?_, fun named callerFits blockFits => by rw [count]; omega⟩
    · rcases copyRegisters_ok (fun positive => ⟨inside positive, by rwa [Nat.zero_add]⟩) with
        ⟨out, copied, size, contents⟩
      refine ⟨out, ?_, size, contents⟩
      rw [read_eq valid isFound, copied, ok_bind]
    · rcases copyRegisters_ok (fun positive => ⟨by rwa [Nat.zero_add], inside positive⟩) with
        ⟨blockBuffer, copied, size, contents⟩
      refine ⟨blockBuffer, ?_, size, contents⟩
      rw [write_eq valid isFound, copied, ok_bind]

/-- Two registers at address 4, and a buffer of exactly their size. -/
theorem transfer_inside_first_field :
    letI controller : RegisterController := ⟨ByteFieldController.twoFields⟩
    letI buffer : U8Buffer := ⟨4, #v[1, 2, 3, 4], by decide⟩
    controller.ReadsInside 4 2 buffer ByteFieldController.twoFields.entries[0] 2 ∧
      controller.WritesInside 4 2 buffer ByteFieldController.twoFields.entries[0] 2 := by
  let controller : RegisterController := ⟨ByteFieldController.twoFields⟩
  let buffer : U8Buffer := ⟨4, #v[1, 2, 3, 4], by decide⟩
  have valid : controller.accessValid 4 2 = .ok true := rfl
  have isFound : controller.controller.found 4 = some ByteFieldController.twoFields.entries[0] :=
    rfl
  have count : transferLength buffer ByteFieldController.twoFields.entries[0].buffer 2 = 2 := by
    rw [transferLength_eq]
    decide
  have inside := (transfer_inside_iff valid isFound buffer).mpr (by decide)
  rw [count] at inside
  exact ⟨inside.1, inside.2.1⟩

/-- One register at the start of the second block, whose buffer has 64 bytes: both
accesses begin at byte 512 of it. -/
theorem transfer_outside_second_field :
    letI controller : RegisterController := ⟨ByteFieldController.twoFields⟩
    letI buffer : U8Buffer := ⟨2, #v[1, 2], by decide⟩
    controller.accessValid 512 1 = .ok true ∧
      controller.read 512 1 buffer = .error ⟨512, 64⟩ ∧
      (controller.write 512 1 buffer).isOk = false := by
  refine ⟨rfl, rfl, rfl⟩

end RegisterController

end Modbus
