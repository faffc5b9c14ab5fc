import ModbusBasic.Blocks.ByteFieldController

namespace Modbus

open Memory

/-!
# Registers in blocks of bytes

`RegisterController.h`.  A read copies registers out of a block and a write
copies them in, two bytes at a time, with the roles of the two buffers
exchanged.  The position in the buffer of the caller counts from 0, and the one
in the buffer of the block counts from the address of the access itself.

The controller keeps the list of blocks twice, as the same pointers, so it is
kept once here.  Blocks do not share their buffers.
-/

/-- `REGISTER_SIZE`. -/
def registerSize : Nat := 2

/-- The two assignments of an iteration: one register is copied. -/
def copyRegister (source : U8Buffer) (sourceIndex : Nat) (target : U8Buffer)
    (targetIndex : Nat) : Checked U8Buffer := do
  let value <- source.load sourceIndex
  let target <- target.store targetIndex value
  let value <- source.load (SizeT.add sourceIndex 1)
  target.store (SizeT.add targetIndex 1) value

/-- The number of registers to transfer. -/
def transferLength (buffer blockBuffer : U8Buffer) (length : Nat) : Nat :=
  let maxByteIndex := min buffer.size blockBuffer.size
  min (maxByteIndex / registerSize) length

/-- The field with another buffer of bytes behind it. -/
def U8Field.withBuffer (field : U8Field) (buffer : U8Buffer) : U8Field :=
  { field with buffer := buffer }

/-- The order of the fields does not depend on the bytes in them. -/
theorem fieldsAreSortedFrom_modify (nextStart : Nat) (fields : List U8Field) (index : Nat)
    (buffer : U8Buffer) :
    fieldsAreSortedFrom nextStart (fields.modify index fun field => field.withBuffer buffer) =
      fieldsAreSortedFrom nextStart fields := by
  induction fields generalizing nextStart index with
  | nil => rw [List.modify_nil]
  | cons field rest inductionHypothesis =>
      cases index with
      | zero => rfl
      | succ index =>
          rw [List.modify_succ_cons, fieldsAreSortedFrom, fieldsAreSortedFrom, inductionHypothesis]

structure RegisterController where
  controller : ByteFieldController

namespace RegisterController

def entries (controller : RegisterController) : List U8Field := controller.controller.entries

def accessValid (controller : RegisterController) (address length : Nat) : Checked Bool :=
  controller.controller.accessValid address length

/-- The controller with the bytes of one block replaced. -/
def setBuffer (controller : RegisterController) (block : Nat) (buffer : U8Buffer) :
    RegisterController where
  controller :=
    { entries := controller.entries.modify block fun field => field.withBuffer buffer
      sorted := (fieldsAreSortedFrom_modify 0 controller.entries block buffer).trans
        controller.controller.sorted }

/-- The number of registers read, and the buffer they are read into. -/
def read (controller : RegisterController) (address length : Nat) (buffer : U8Buffer) :
    Checked (Nat × U8Buffer) := do
  let valid <- controller.accessValid address length
  if valid then
    let block := controller.controller.findBlock address length
    let pBlock <- loadView controller.entries block
    let count := transferLength buffer pBlock.buffer length
    let buffer <- forRange (fun i buffer =>
      let byteNumber := SizeT.mul registerSize i
      let entryAddress := SizeT.add address byteNumber
      copyRegister pBlock.buffer entryAddress buffer byteNumber) count buffer
    return (count, buffer)
  else return (0, buffer)

/-- The number of registers written, and the controller after that. -/
def write (controller : RegisterController) (address length : Nat) (buffer : U8Buffer) :
    Checked (Nat × RegisterController) := do
  let valid <- controller.accessValid address length
  if valid then
    let block := controller.controller.findBlock address length
    let pBlock <- loadView controller.entries block
    let count := transferLength buffer pBlock.buffer length
    let blockBuffer <- forRange (fun i blockBuffer =>
      let byteNumber := SizeT.mul registerSize i
      let entryAddress := SizeT.add address byteNumber
      copyRegister buffer byteNumber blockBuffer entryAddress) count pBlock.buffer
    return (count, controller.setBuffer block blockBuffer)
  else return (0, controller)

end RegisterController

/-! ## One register -/

namespace U8Buffer

variable {buffer : U8Buffer} {index : Nat}

theorem load_ok (inside : index < buffer.size) :
    buffer.load index = .ok (buffer.bytes.getD index 0) := by
  rw [load, Memory.load_ok _ inside, bytes, List.getD_eq_getElem?_getD,
    List.getElem?_eq_getElem (by simpa using inside)]
  rfl

theorem store_ok (buffer : U8Buffer) (value : UInt8) (inside : index < buffer.size) :
    Exists fun next => buffer.store index value = .ok next ∧ next.size = buffer.size ∧
      next.bytes = buffer.bytes.set index value := by
  refine ⟨{ buffer with buffer := buffer.buffer.set index value }, ?_, rfl, ?_⟩
  · rw [store, Memory.store_ok _ _ inside]
    rfl
  · exact Vector.toList_set inside

theorem load_inside {value : UInt8} (loaded : buffer.load index = .ok value) :
    index < buffer.size := by
  by_contra outside
  rw [load, Memory.load, dif_neg outside] at loaded
  cases loaded

theorem store_inside {value : UInt8} {next : U8Buffer}
    (stored : buffer.store index value = .ok next) :
    index < buffer.size ∧ next.size = buffer.size := by
  rcases bind_eq_ok.mp stored with ⟨cells, replaced, same⟩
  cases same
  refine ⟨?_, rfl⟩
  by_contra outside
  rw [store_outside _ _ (Nat.le_of_not_lt outside)] at replaced
  cases replaced

end U8Buffer

section Copying

variable {source target : U8Buffer} {sourceIndex targetIndex : Nat}

/-- Both bytes of a register fit at this position. -/
def U8Buffer.HasRegister (buffer : U8Buffer) (index : Nat) : Prop :=
  index < buffer.size ∧ SizeT.add index 1 < buffer.size

theorem copyRegister_ok (sourceFits : sourceIndex + 2 ≤ source.size)
    (targetFits : targetIndex + 2 ≤ target.size) :
    Exists fun next => copyRegister source sourceIndex target targetIndex = .ok next ∧
      next.size = target.size ∧
      next.bytes = splice target.bytes targetIndex
        [source.bytes.getD sourceIndex 0, source.bytes.getD (sourceIndex + 1) 0] := by
  have sourceSmall := source.size_lt
  have targetSmall := target.size_lt
  have firstFits : targetIndex < target.size := by omega
  rcases target.store_ok (source.bytes.getD sourceIndex 0) firstFits with
    ⟨middle, first, middleSize, middleBytes⟩
  have secondFits : targetIndex + 1 < middle.size := by omega
  rcases middle.store_ok (source.bytes.getD (sourceIndex + 1) 0) secondFits with
    ⟨last, second, lastSize, lastBytes⟩
  refine ⟨last, ?_, lastSize.trans middleSize, ?_⟩
  · rw [copyRegister, SizeT.add_of_lt (by omega), SizeT.add_of_lt (by omega),
      U8Buffer.load_ok (by omega), U8Buffer.load_ok (by omega), ok_bind, first, ok_bind, ok_bind,
      second]
  · rw [lastBytes, middleBytes, set_pair _ _ _ (by rw [U8Buffer.bytes_length]; omega)]

theorem copyRegister_inside {next : U8Buffer}
    (copied : copyRegister source sourceIndex target targetIndex = .ok next) :
    source.HasRegister sourceIndex ∧ target.HasRegister targetIndex ∧
      next.size = target.size := by
  rcases bind_eq_ok.mp copied with ⟨_, loaded, copied⟩
  rcases bind_eq_ok.mp copied with ⟨middle, stored, copied⟩
  rcases bind_eq_ok.mp copied with ⟨_, loadedNext, storedNext⟩
  have first := U8Buffer.store_inside stored
  have second := U8Buffer.store_inside storedNext
  refine ⟨⟨U8Buffer.load_inside loaded, U8Buffer.load_inside loadedNext⟩, ⟨first.1, ?_⟩,
    second.2.trans first.2⟩
  rw [← first.2]
  exact second.1

end Copying

end Modbus
