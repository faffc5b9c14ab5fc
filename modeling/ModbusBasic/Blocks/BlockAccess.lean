import Mathlib.Data.List.GetD
import ModbusBasic.Blocks.RegisterArray

namespace Modbus

open Memory

/-!
# Accesses that stay inside their block

Which block an access finds, how many registers it transfers and whether they are
inside the block depend only on where the blocks are and how large their buffers
(`shape`), which no write changes.  An access that `Reaches` its block is one
block copy.
-/

namespace RegisterController

/-- Where the blocks are, and the bytes they have room for. -/
def shape (controller : RegisterController) : List (Nat × Nat × Nat) :=
  controller.entries.map fun field => (field.address, field.length, field.buffer.size)

/-- The room in the block the search finds. -/
def capacity (controller : RegisterController) (address : Nat) : Option Nat :=
  (controller.controller.found address).map fun block => block.buffer.size

/-- The registers an access transfers to or from a buffer of this size: none if it
is refused. -/
def served (controller : RegisterController) (address length size : Nat) : Nat :=
  if controller.accessValid address length = .ok true then
    (controller.capacity address).elim 0 fun capacity =>
      min length (min (size / 2) (capacity / 2))
  else 0

/-- The search finds a block, and the registers transferred are inside it. -/
def Reaches (controller : RegisterController) (address length size : Nat) : Prop :=
  match controller.capacity address with
  | none => False
  | some capacity => 0 < controller.served address length size ->
      address + 2 * controller.served address length size ≤ capacity

instance (controller : RegisterController) (address length size : Nat) :
    Decidable (controller.Reaches address length size) :=
  match room : controller.capacity address with
  | none => isFalse (by rw [Reaches, room]; exact id)
  | some capacity => decidable_of_iff (0 < controller.served address length size ->
      address + 2 * controller.served address length size ≤ capacity) (by rw [Reaches, room])

def blockBytes (controller : RegisterController) (place : Nat) : List UInt8 :=
  (controller.entries[place]?).elim [] fun block => block.buffer.bytes

section Congruence

variable {controller other : RegisterController} (same : controller.shape = other.shape)

include same

theorem ranges_of_shape : controller.controller.ranges = other.controller.ranges := by
  have projected (controller : RegisterController) : controller.controller.ranges =
      controller.shape.map fun entry => (entry.1, entry.2.1) := by
    rw [shape, List.map_map]
    rfl
  rw [projected, projected, same]

theorem capacity_of_shape (address : Nat) : controller.capacity address = other.capacity address := by
  have projected (controller : RegisterController) : controller.capacity address =
      (controller.shape.find? fun entry => address ≤ SizeT.rangeEnd entry.1 entry.2.1).map
        fun entry => entry.2.2 := by
    rw [shape, List.find?_map, Option.map_map]
    rfl
  rw [projected, projected, same]

theorem served_of_shape (address length size : Nat) :
    controller.served address length size = other.served address length size := by
  have valid : controller.accessValid address length = other.accessValid address length :=
    ByteFieldController.accessValid_congr (ranges_of_shape same)
  rw [served, served, valid, capacity_of_shape same]

theorem reaches_of_shape {address length size : Nat} :
    controller.Reaches address length size <-> other.Reaches address length size := by
  rw [Reaches, Reaches, capacity_of_shape same, served_of_shape same]

end Congruence

variable {controller : RegisterController} {address length : Nat} {buffer : U8Buffer}

/-- An access that reaches a block is refused or transfers inside it. -/
theorem Reaches.cases (reaches : controller.Reaches address length buffer.size) :
    controller.accessValid address length = .ok false ∧
        controller.served address length buffer.size = 0 ∨
      Exists fun block => controller.accessValid address length = .ok true ∧
        controller.controller.found address = some block ∧
        controller.served address length buffer.size = transferLength buffer block.buffer length ∧
        (0 < controller.served address length buffer.size ->
          address + 2 * controller.served address length buffer.size ≤ block.buffer.size) := by
  cases isFound : controller.controller.found address with
  | none =>
      rw [Reaches, capacity, isFound] at reaches
      exact False.elim reaches
  | some block =>
      rw [Reaches, capacity, isFound] at reaches
      by_cases accepted : block.Accepts address length
      · right
        have valid : controller.accessValid address length = .ok true :=
          ByteFieldController.accessValid_eq_ok.mpr ⟨block, isFound, iff_of_true rfl accepted⟩
        refine ⟨block, valid, rfl, ?_, reaches⟩
        rw [served, if_pos valid, capacity, isFound, transferLength_eq]
        rfl
      · left
        have valid : controller.accessValid address length = .ok false :=
          ByteFieldController.accessValid_eq_ok.mpr
            ⟨block, isFound, iff_of_false Bool.false_ne_true accepted⟩
        refine ⟨valid, ?_⟩
        rw [served, valid, if_neg (by decide)]

theorem blockBytes_found {block : U8Field}
    (isFound : controller.controller.found address = some block) (length : Nat) :
    controller.blockBytes (controller.controller.findBlock address length) = block.buffer.bytes := by
  rw [blockBytes, getElem?_found isFound]
  rfl

/-- Registers are read out of the block that is found. -/
theorem read_served (reaches : controller.Reaches address length buffer.size) :
    Exists fun out => controller.read address length buffer =
        .ok (controller.served address length buffer.size, out) ∧
      out.bytes = splice buffer.bytes 0 (((controller.blockBytes
        (controller.controller.findBlock address length)).drop address).take
          (2 * controller.served address length buffer.size)) := by
  rcases reaches.cases with ⟨refused, none⟩ | ⟨block, valid, isFound, count, inside⟩
  · refine ⟨buffer, ?_, ?_⟩
    · rw [read, refused, ok_bind, none]
      rfl
    · rw [none, Nat.mul_zero, List.take_zero, splice_nil]
  · rw [count] at inside ⊢
    have room : 2 * transferLength buffer block.buffer length ≤ buffer.size := by
      rw [transferLength_eq]
      omega
    rcases copyRegisters_ok (fun positive => ⟨inside positive, by rwa [Nat.zero_add]⟩) with
      ⟨out, copied, _, contents⟩
    refine ⟨out, ?_, ?_⟩
    · rw [read_eq valid isFound, copied, ok_bind]
    · rw [blockBytes_found isFound, contents]

/-- Registers are written into the block that is found, and into no other. -/
theorem write_served (reaches : controller.Reaches address length buffer.size) :
    Exists fun next => controller.write address length buffer =
        .ok (controller.served address length buffer.size, next) ∧
      next.shape = controller.shape ∧
      forall place, next.blockBytes place =
        if place = controller.controller.findBlock address length then
          splice (controller.blockBytes place) address
            (buffer.bytes.take (2 * controller.served address length buffer.size))
        else controller.blockBytes place := by
  rcases reaches.cases with ⟨refused, none⟩ | ⟨block, valid, isFound, count, inside⟩
  · refine ⟨controller, ?_, rfl, fun place => ?_⟩
    · rw [write, refused, ok_bind, none]
      rfl
    · rw [none, Nat.mul_zero, List.take_zero, splice_nil]
      exact (ite_self _).symm
  · have room : 2 * transferLength buffer block.buffer length ≤ buffer.size := by
      rw [transferLength_eq]
      omega
    rw [count] at inside ⊢
    rcases copyRegisters_ok (fun positive => ⟨by rwa [Nat.zero_add], inside positive⟩) with
      ⟨blockBuffer, copied, size, contents⟩
    have located := getElem?_found isFound length
    refine ⟨_, by rw [write_eq valid isFound, copied, ok_bind], ?_, fun place => ?_⟩
    · apply List.ext_getElem?
      intro index
      rw [shape, shape, List.getElem?_map, List.getElem?_map, getElem?_setBuffer, Option.map_map]
      by_cases here : controller.controller.findBlock address length = index
      · subst here
        rw [located, Option.map_some, Option.map_some, Function.comp_apply, if_pos rfl]
        exact congrArg (fun size => some (block.address, block.length, size)) size
      · simp only [if_neg here]
        rfl
    · rw [blockBytes, getElem?_setBuffer]
      by_cases here : place = controller.controller.findBlock address length
      · subst here
        rw [located, Option.map_some, if_pos rfl, if_pos rfl, blockBytes_found isFound]
        exact contents
      · have other : ¬ controller.controller.findBlock address length = place :=
          fun same => here same.symm
        simp only [if_neg here, if_neg other, Option.map_id']
        rfl

/-- What is transferred is inside the bytes of the block. -/
theorem Reaches.inside {size : Nat} (reaches : controller.Reaches address length size)
    (positive : 0 < controller.served address length size) :
    address + 2 * controller.served address length size ≤
      (controller.blockBytes (controller.controller.findBlock address length)).length := by
  cases isFound : controller.controller.found address with
  | none =>
      rw [Reaches, capacity, isFound] at reaches
      exact False.elim reaches
  | some block =>
      rw [Reaches, capacity, isFound] at reaches
      rw [blockBytes_found isFound, U8Buffer.bytes_length]
      exact reaches positive

theorem served_room (controller : RegisterController) (address length size : Nat) :
    2 * controller.served address length size ≤ size := by
  rw [served]
  split
  · cases controller.capacity address with
    | none => exact Nat.zero_le size
    | some capacity =>
        change 2 * min length (min (size / 2) (capacity / 2)) ≤ size
        omega
  · exact Nat.zero_le size

theorem accessValid_of_capacity (isFound : (controller.capacity address).isSome = true)
    (length : Nat) : Exists fun on => controller.accessValid address length = .ok on := by
  rcases Option.isSome_iff_exists.mp isFound with ⟨size, room⟩
  rcases Option.map_eq_some_iff.mp room with ⟨block, found, _⟩
  refine ⟨decide (block.Accepts address length), ByteFieldController.accessValid_eq_ok.mpr
    ⟨block, found, decide_eq_true_iff⟩⟩

end RegisterController

end Modbus
