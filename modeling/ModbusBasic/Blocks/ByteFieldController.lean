import ModbusBasic.Memory.Cells
import ModbusBasic.Memory.SizeT

namespace Modbus

open Memory

/-!
# Blocks of bytes at scattered addresses

`ByteField.h` and `ByteFieldController.h`.  A field is a range of addresses with
a buffer behind it; nothing relates the size of the buffer to the length.  All
sums of addresses and lengths wrap as those of `size_t` do.

A list of fields stands for the array of pointers.  The search for a block
answers with the length of the list when it finds none, and that index is used
like any other: reading the list there is a fault.
-/

/-- `u8_Buffer`. -/
structure U8Buffer where
  size : Nat
  buffer : Vector UInt8 size
  size_lt : size < SizeT.modulus

namespace U8Buffer

/-- `buffer[index]`. -/
def load (buffer : U8Buffer) (index : Nat) : Checked UInt8 :=
  Memory.load buffer.buffer index

/-- `buffer[index] = value`. -/
def store (buffer : U8Buffer) (index : Nat) (value : UInt8) : Checked U8Buffer := do
  let cells <- Memory.store buffer.buffer index value
  return { buffer with buffer := cells }

def bytes (buffer : U8Buffer) : List UInt8 := buffer.buffer.toList

@[simp] theorem bytes_length (buffer : U8Buffer) : buffer.bytes.length = buffer.size :=
  Vector.length_toList

end U8Buffer

structure U8Field where
  address : Nat
  length : Nat
  buffer : U8Buffer
  address_lt : address < SizeT.modulus
  length_lt : length < SizeT.modulus

/-- The end of a block as the accessor computes it. -/
def U8Field.blockEnd (field : U8Field) : Nat := SizeT.rangeEnd field.address field.length

/-- The comparisons the accessor makes once it has a block that ends at or after
the address. -/
def U8Field.Accepts (block : U8Field) (address length : Nat) : Prop :=
  block.address ≤ address ∧ SizeT.rangeEnd address length ≤ block.blockEnd

instance (block : U8Field) (address length : Nat) : Decidable (block.Accepts address length) :=
  inferInstanceAs (Decidable (_ ∧ _))

/-- The loop of `fields_are_sorted`, from the first address still free. -/
def fieldsAreSortedFrom (nextStart : Nat) : List U8Field -> Bool
  | [] => true
  | field :: rest =>
      if field.address < nextStart then false
      else fieldsAreSortedFrom (SizeT.add field.address field.length) rest

def fieldsAreSorted (fields : List U8Field) : Bool := fieldsAreSortedFrom 0 fields

/-- The constructor asserts that the fields are sorted. -/
structure ByteFieldController where
  entries : List U8Field
  sorted : fieldsAreSorted entries = true

namespace ByteFieldController

/-- The first block that ends at or after the address; the length is not used. -/
def findBlock (controller : ByteFieldController) (address _length : Nat) : Nat :=
  controller.entries.findIdx fun field => address ≤ field.blockEnd

def accessValid (controller : ByteFieldController) (address length : Nat) : Checked Bool := do
  let pBlock <- loadView controller.entries (controller.findBlock address length)
  let blockEnd := pBlock.blockEnd
  let readEnd := SizeT.rangeEnd address length
  if address ≤ blockEnd then
    if pBlock.address ≤ address ∧ readEnd ≤ blockEnd then return true else return false
  else return false

/-! ## The block found -/

variable {controller : ByteFieldController} {address length : Nat} {block : U8Field}

/-- The block the search finds, if it finds one. -/
def found (controller : ByteFieldController) (address : Nat) : Option U8Field :=
  controller.entries.find? fun field => address ≤ field.blockEnd

theorem getElem?_findBlock (controller : ByteFieldController) (address length : Nat) :
    controller.entries[controller.findBlock address length]? = controller.found address :=
  List.find?_eq_getElem?_findIdx.symm

theorem found_mem (isFound : controller.found address = some block) :
    block ∈ controller.entries :=
  List.mem_of_find?_eq_some isFound

theorem found_le (isFound : controller.found address = some block) : address ≤ block.blockEnd := by
  have reaches := List.find?_some isFound
  exact of_decide_eq_true reaches

/-- What an access check that stays inside the list answers. -/
theorem accessValid_eq_ok {valid : Bool} :
    controller.accessValid address length = .ok valid <->
      Exists fun block => controller.found address = some block ∧
        (valid = true <-> block.Accepts address length) := by
  unfold accessValid
  rw [bind_eq_ok]
  constructor
  · rintro ⟨block, loaded, answered⟩
    rw [loadView_eq_ok, getElem?_findBlock] at loaded
    refine ⟨block, loaded, ?_⟩
    rw [if_pos (found_le loaded)] at answered
    split at answered
    · next inside =>
        cases answered
        exact iff_of_true rfl inside
    · next outside =>
        cases answered
        exact iff_of_false Bool.false_ne_true outside
  · rintro ⟨block, isFound, answer⟩
    refine ⟨block, ?_, ?_⟩
    · rw [loadView_eq_ok, getElem?_findBlock]
      exact isFound
    · rw [if_pos (found_le isFound)]
      cases valid with
      | true => exact if_pos (answer.mp rfl)
      | false => exact if_neg (fun inside => Bool.false_ne_true (answer.mpr inside))

end ByteFieldController

end Modbus
