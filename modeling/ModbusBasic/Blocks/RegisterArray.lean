import ModbusBasic.Blocks.Transfer

namespace Modbus

open Memory

/-!
# Blocks as an array of registers

Register `r` is the `r - address`-th pair of bytes of the block that owns it.
The loops take the address of the access for a byte index, so they start at the
pair `address / 2` of the block whatever its base is.  The two agree where the
address is twice the base of its block, and such an access transfers the
registers it names.
-/

/-- The bytes of one register in a buffer of registers. -/
def U8Buffer.register (buffer : U8Buffer) (index : Nat) : UInt8 × UInt8 :=
  (buffer.bytes.getD (2 * index) 0, buffer.bytes.getD (2 * index + 1) 0)

/-- A copy of whole registers to a whole register, in terms of registers. -/
theorem U8Buffer.register_splice {source target result : U8Buffer} (first start : Nat)
    {count : Nat} (sourceFits : 2 * first + 2 * count ≤ source.size)
    (targetFits : 2 * start + 2 * count ≤ target.size)
    (copied : result.bytes =
      splice target.bytes (2 * start) ((source.bytes.drop (2 * first)).take (2 * count)))
    (index : Nat) :
    result.register index =
      if start ≤ index ∧ index < start + count then source.register (first + (index - start))
      else target.register index := by
  rw [← source.bytes_length] at sourceFits
  rw [← target.bytes_length] at targetFits
  unfold register
  rw [copied, getD_splice_slice _ _ 0 sourceFits targetFits,
    getD_splice_slice _ _ 0 sourceFits targetFits]
  by_cases within : start ≤ index ∧ index < start + count
  · rw [if_pos within, if_pos (by omega), if_pos (by omega),
      show 2 * first + (2 * index - 2 * start) = 2 * (first + (index - start)) by omega,
      show 2 * first + (2 * index + 1 - 2 * start) = 2 * (first + (index - start)) + 1 by omega]
  · rw [if_neg within, if_neg (by omega), if_neg (by omega)]

/-! ## Blocks stay where they are -/

namespace ByteFieldController

/-- Where the blocks are. -/
def ranges (controller : ByteFieldController) : List (Nat × Nat) :=
  controller.entries.map fun field => (field.address, field.length)

variable {controller other : ByteFieldController} {address length : Nat}

theorem findBlock_congr (same : controller.ranges = other.ranges) :
    controller.findBlock address length = other.findBlock address length := by
  have mapped : forall controller : ByteFieldController, controller.findBlock address length =
      controller.ranges.findIdx fun range => address ≤ SizeT.rangeEnd range.1 range.2 := by
    intro controller
    rw [ranges, List.findIdx_map]
    rfl
  rw [mapped, mapped, same]

theorem accessValid_congr (same : controller.ranges = other.ranges) :
    controller.accessValid address length = other.accessValid address length := by
  have mapped : forall controller : ByteFieldController, controller.accessValid address length =
      (loadView controller.ranges (controller.findBlock address length) >>= fun range =>
        let blockEnd := SizeT.rangeEnd range.1 range.2
        if address ≤ blockEnd then
          if range.1 ≤ address ∧ SizeT.rangeEnd address length ≤ blockEnd then .ok true
          else .ok false
        else .ok false) := by
    intro controller
    rw [accessValid, loadView, loadView, ranges, List.getElem?_map, List.length_map]
    cases controller.entries[controller.findBlock address length]? with
    | none => rfl
    | some field => rfl
  rw [mapped, mapped, findBlock_congr same, same]

/-- The block whose range holds the register. -/
def owner (controller : ByteFieldController) (index : Nat) : Nat :=
  controller.ranges.findIdx fun range => range.1 ≤ index ∧ index < range.1 + range.2

/-- The blocks are not empty, and no two of them overlap. -/
structure Separate (controller : ByteFieldController) : Prop where
  nonempty : forall range, range ∈ controller.ranges -> 0 < range.2
  disjoint : controller.ranges.Pairwise fun first second =>
    first.1 + first.2 ≤ second.1 ∨ second.1 + second.2 ≤ first.1

/-- A register of one of several separate blocks has no other owner. -/
theorem Separate.owner_eq (separate : controller.Separate) {block : U8Field} {place index : Nat}
    (located : controller.entries[place]? = some block) (starts : block.address ≤ index)
    (ends : index < block.address + block.length) : controller.owner index = place := by
  have ranged : controller.ranges[place]? = some (block.address, block.length) := by
    rw [ranges, List.getElem?_map, located]
    rfl
  refine findIdx_unique ranged (decide_eq_true ⟨starts, ends⟩) (separate.disjoint.imp ?_)
  intro first second disjoint
  rw [decide_eq_true_iff, decide_eq_true_iff]
  omega

/-- The constructor's assertion makes proper blocks separate. -/
theorem separate_of_proper
    (proper : forall field, field ∈ controller.entries -> field.IsProper) :
    controller.Separate := by
  have ordered := ordered_of_fit fun field member => (proper field member).fits
  constructor
  · intro range listed
    rcases List.mem_map.mp listed with ⟨field, member, rfl⟩
    exact (proper field member).nonempty
  · apply List.pairwise_map.mpr
    apply ordered.imp
    intro first second before
    exact Or.inl before

/-- Among proper blocks the search finds the owner of every register that has
one. -/
theorem findBlock_eq_owner
    (proper : forall field, field ∈ controller.entries -> field.IsProper) {block : U8Field}
    (listed : block ∈ controller.entries) (covers : block.Covers address) (length : Nat) :
    controller.findBlock address length = controller.owner address := by
  rcases List.mem_iff_getElem.mp listed with ⟨place, inside, rfl⟩
  have ordered := (fieldsAreSorted_iff_pairwise fun field member =>
    (proper field member).fits).mp controller.sorted
  have found := ((lookup_resolves ordered address).covered place inside covers).1
  have located := List.getElem?_eq_getElem inside
  rw [findBlock_eq_lookup proper, found]
  exact ((separate_of_proper proper).owner_eq located covers.1 covers.2).symm

end ByteFieldController

namespace RegisterController

variable {controller : RegisterController} {address length : Nat} {block : U8Field}

theorem getElem?_setBuffer (controller : RegisterController) (place : Nat) (buffer : U8Buffer)
    (index : Nat) :
    (controller.setBuffer place buffer).entries[index]? =
      controller.entries[index]?.map fun field =>
        if place = index then field.withBuffer buffer else field :=
  List.getElem?_modify _ place controller.entries index

@[simp] theorem ranges_setBuffer (controller : RegisterController) (place : Nat)
    (buffer : U8Buffer) :
    (controller.setBuffer place buffer).controller.ranges = controller.controller.ranges := by
  apply List.ext_getElem?
  intro index
  have replaced := controller.getElem?_setBuffer place buffer index
  rw [ByteFieldController.ranges, ByteFieldController.ranges, List.getElem?_map,
    List.getElem?_map]
  change Option.map _ (controller.setBuffer place buffer).entries[index]? = _
  rw [replaced, Option.map_map]
  congr 1
  funext field
  by_cases here : place = index
  · rw [Function.comp_apply, if_pos here]
    rfl
  · rw [Function.comp_apply, if_neg here]

/-- The blocks are separate, and each has the bytes of its registers. -/
structure IsArray (controller : RegisterController) : Prop where
  separate : controller.controller.Separate
  size : forall block, block ∈ controller.entries -> block.buffer.size = 2 * block.length

/-- What a register holds, if some block owns it. -/
def register (controller : RegisterController) (index : Nat) : Option (UInt8 × UInt8) :=
  controller.entries[controller.controller.owner index]?.map fun block =>
    block.buffer.register (index - block.address)

/-- Other bytes in one block change the registers of that block. -/
theorem register_setBuffer (controller : RegisterController) (place : Nat) (buffer : U8Buffer)
    (index : Nat) :
    (controller.setBuffer place buffer).register index =
      if controller.controller.owner index = place then
        controller.entries[place]?.map fun block => buffer.register (index - block.address)
      else controller.register index := by
  have sameOwner : (controller.setBuffer place buffer).controller.owner index =
      controller.controller.owner index := by
    rw [ByteFieldController.owner, ByteFieldController.owner, ranges_setBuffer]
  rw [register, sameOwner, getElem?_setBuffer, Option.map_map]
  by_cases here : controller.controller.owner index = place
  · rw [if_pos here, here]
    congr 1
    funext field
    rw [Function.comp_apply, if_pos rfl]
    rfl
  · rw [if_neg here, register]
    congr 1
    funext field
    rw [Function.comp_apply, if_neg (fun same => here same.symm)]

theorem IsArray.setBuffer (isArray : controller.IsArray) {place : Nat}
    (located : controller.entries[place]? = some block) {buffer : U8Buffer}
    (size : buffer.size = block.buffer.size) : (controller.setBuffer place buffer).IsArray := by
  have ranges := controller.ranges_setBuffer place buffer
  refine ⟨⟨?_, ?_⟩, fun field member => ?_⟩
  · rw [ranges]
    exact isArray.separate.nonempty
  · rw [ranges]
    exact isArray.separate.disjoint
  · rcases List.mem_iff_getElem?.mp member with ⟨index, found⟩
    rw [getElem?_setBuffer, Option.map_eq_some_iff] at found
    rcases found with ⟨before, stood, rfl⟩
    by_cases here : place = index
    · subst here
      rw [located] at stood
      cases stood
      rw [if_pos rfl]
      exact size.trans (isArray.size block (List.mem_of_getElem? located))
    · rw [if_neg here]
      exact isArray.size before (List.mem_of_getElem? stood)

/-- The address is twice that of the block found, so that as a byte index it
names the register it should; and the range does not wrap. -/
def StartsAtPair (controller : RegisterController) (address length : Nat) : Prop :=
  Exists fun block => controller.controller.found address = some block ∧
    address = 2 * block.address ∧ address + length ≤ SizeT.modulus

/-- What an accepted access that starts at its pair finds. -/
structure Paired (controller : RegisterController) (block : U8Field) (address length : Nat) :
    Prop where
  located : controller.entries[controller.controller.findBlock address length]? = some block
  twice : address = 2 * block.address
  inside : address + length ≤ block.address + block.length
  size : block.buffer.size = 2 * block.length

/-- A block found that starts at or before the address holds it, and does not
wrap. -/
theorem IsArray.found_holds (isArray : controller.IsArray)
    (isFound : controller.controller.found address = some block)
    (starts : block.address ≤ address) :
    0 < block.length ∧ block.address + block.length ≤ SizeT.modulus ∧
      address < block.address + block.length := by
  have reaches := ByteFieldController.found_le isFound
  have listed : (block.address, block.length) ∈ controller.controller.ranges :=
    List.mem_map.mpr ⟨block, ByteFieldController.found_mem isFound, rfl⟩
  have nonempty : 0 < block.length := isArray.separate.nonempty _ listed
  rcases U8Field.reaches_cases starts reaches with empty | ⟨_, fits⟩
  · exact absurd empty.2 (Nat.ne_of_gt nonempty)
  · rw [U8Field.blockEnd_of_le nonempty fits] at reaches
    exact ⟨nonempty, fits, by omega⟩

theorem IsArray.paired (isArray : controller.IsArray)
    (valid : controller.accessValid address length = .ok true)
    (starts : controller.StartsAtPair address length) (lengthFits : length < SizeT.modulus) :
    Exists fun block => controller.Paired block address length := by
  rcases starts with ⟨block, isFound, twice, within⟩
  rcases ByteFieldController.accessValid_eq_ok.mp valid with ⟨same, isSame, accepted⟩
  rw [isFound] at isSame
  cases isSame
  have accepted := accepted.mp rfl
  rcases isArray.found_holds isFound accepted.1 with ⟨nonempty, fits, holds⟩
  have size := isArray.size block (ByteFieldController.found_mem isFound)
  refine ⟨block, getElem?_found isFound length, twice, ?_, size⟩
  have ends := (U8Field.rangeEnd_le_blockEnd_iff nonempty fits accepted.1
    (ByteFieldController.found_le isFound) lengthFits).mp accepted.2
  by_cases empty : length = 0
  · omega
  · rw [if_neg empty] at ends
    exact (ends within).2.1

/-- A range of registers that are there is transferred as a whole. -/
theorem Paired.transferLength_eq (paired : controller.Paired block address length)
    {buffer : U8Buffer} (room : 2 * length ≤ buffer.size) :
    transferLength buffer block.buffer length = length := by
  have inside := paired.inside
  have twice := paired.twice
  rw [RegisterController.transferLength_eq, paired.size]
  omega

theorem Paired.isFound (paired : controller.Paired block address length) :
    controller.controller.found address = some block :=
  (ByteFieldController.getElem?_findBlock _ _ _).symm.trans paired.located

/-- The registers of the range are in the buffer of the block. -/
theorem Paired.fits (paired : controller.Paired block address length) :
    2 * block.address + 2 * length ≤ block.buffer.size := by
  have inside := paired.inside
  have twice := paired.twice
  have size := paired.size
  omega

/-- Every register of the range belongs to the block found. -/
theorem Paired.owner_eq (paired : controller.Paired block address length)
    (isArray : controller.IsArray) {index : Nat} (starts : block.address ≤ index)
    (ends : index < block.address + block.length) :
    controller.controller.owner index = controller.controller.findBlock address length :=
  isArray.separate.owner_eq paired.located starts ends

/-! ## One write and one read -/

/-- A write replaces registers of the block found. -/
theorem Paired.write (paired : controller.Paired block address length)
    (valid : controller.accessValid address length = .ok true) {data : U8Buffer}
    (room : 2 * length ≤ data.size) :
    Exists fun buffer =>
      copyRegisters data 0 block.buffer address length = .ok buffer ∧
        controller.write address length data = .ok (length,
          controller.setBuffer (controller.controller.findBlock address length) buffer) ∧
        buffer.size = block.buffer.size ∧
        forall index, buffer.register index =
          if block.address ≤ index ∧ index < block.address + length then
            data.register (index - block.address)
          else block.buffer.register index := by
  have fits := paired.fits
  have twice := paired.twice
  have callerFits : 0 + 2 * length ≤ data.size := by omega
  have blockFits : address + 2 * length ≤ block.buffer.size := by omega
  rcases copyRegisters_ok (fun _ => ⟨callerFits, blockFits⟩) with
    ⟨buffer, copied, kept, contents⟩
  refine ⟨buffer, copied, ?_, kept, fun index => ?_⟩
  · rw [write_eq valid paired.isFound, paired.transferLength_eq room, copied, ok_bind]
  · rw [twice] at contents
    have copies := U8Buffer.register_splice 0 block.address callerFits fits contents index
    rw [copies, Nat.zero_add]

/-- A read returns registers of the block found. -/
theorem Paired.read (paired : controller.Paired block address length)
    (valid : controller.accessValid address length = .ok true) {buffer : U8Buffer}
    (room : 2 * length ≤ buffer.size) :
    Exists fun out => controller.read address length buffer = .ok (length, out) ∧
      out.size = buffer.size ∧
      forall index, out.register index =
        if index < length then block.buffer.register (block.address + index)
        else buffer.register index := by
  have fits := paired.fits
  have twice := paired.twice
  have callerFits : 0 + 2 * length ≤ buffer.size := by omega
  have blockFits : address + 2 * length ≤ block.buffer.size := by omega
  rcases copyRegisters_ok (fun _ => ⟨blockFits, callerFits⟩) with ⟨out, copied, kept, contents⟩
  refine ⟨out, ?_, kept, fun index => ?_⟩
  · rw [read_eq valid paired.isFound, paired.transferLength_eq room, copied, ok_bind]
  · rw [twice] at contents
    have copies := U8Buffer.register_splice block.address 0 fits callerFits contents index
    rw [copies, Nat.zero_add, Nat.sub_zero]
    simp only [Nat.zero_le, true_and]

end RegisterController

end Modbus
