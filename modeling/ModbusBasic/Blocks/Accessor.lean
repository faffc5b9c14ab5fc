import ModbusBasic.Blocks.BlockAccess
import ModbusBasic.Protocol.Definitions
import ModbusBasic.Transition.Composition

namespace Modbus

open Memory Transition

/-!
# The accessor

`Accessor.h` passes every access on to the controller of its address space.  The
two controllers are pointers, so the sections under them can be one and the same.

`Cells` are what the accessor is for: bytes, each in one place of one block of
one section.  Accesses that stay inside their blocks are reads and writes of such
bytes, in places that depend only on where the blocks are.
-/

/-! ## The source -/

/-- The two pointers are indices into the sections there are. -/
structure Accessor (n : Nat) where
  sections : Vector RegisterController n
  pHoldingRegister : Fin n
  pInputRegister : Fin n

namespace Accessor

variable {n : Nat}

def accessValid (accessor : Accessor n) (address length : Nat) (addressSpace : AddressSpace) :
    Checked Bool :=
  match addressSpace with
  | .kHoldingRegister => (accessor.sections.get accessor.pHoldingRegister).accessValid address length
  | .kInputRegister => (accessor.sections.get accessor.pInputRegister).accessValid address length
  | _ => .ok false

def read (accessor : Accessor n) (address length : Nat) (addressSpace : AddressSpace)
    (buffer : U8Buffer) : Checked (Nat × U8Buffer) :=
  match addressSpace with
  | .kHoldingRegister => (accessor.sections.get accessor.pHoldingRegister).read address length buffer
  | .kInputRegister => (accessor.sections.get accessor.pInputRegister).read address length buffer
  | _ => .ok (0, buffer)

def setSection (accessor : Accessor n) (place : Fin n) (controller : RegisterController) :
    Accessor n :=
  { accessor with sections := accessor.sections.set place controller place.isLt }

theorem get_setSection_self (accessor : Accessor n) (place : Fin n)
    (controller : RegisterController) :
    (accessor.setSection place controller).sections.get place = controller :=
  Vector.getElem_set_self place.isLt

theorem get_setSection_other (accessor : Accessor n) {place other : Fin n}
    (controller : RegisterController) (apart : place ≠ other) :
    (accessor.setSection place controller).sections.get other = accessor.sections.get other :=
  Vector.getElem_set_ne place.isLt other.isLt (fun same => apart (Fin.ext same))

def write (accessor : Accessor n) (address length : Nat) (addressSpace : AddressSpace)
    (buffer : U8Buffer) : Checked (Nat × Accessor n) :=
  match addressSpace with
  | .kHoldingRegister => do
      let written <- (accessor.sections.get accessor.pHoldingRegister).write address length buffer
      return (written.1, accessor.setSection accessor.pHoldingRegister written.2)
  | .kInputRegister => do
      let written <- (accessor.sections.get accessor.pInputRegister).write address length buffer
      return (written.1, accessor.setSection accessor.pInputRegister written.2)
  | _ => .ok (0, accessor)

end Accessor

/-! ## Bytes in places -/

inductive Access
  | valid (address length : Nat) (addressSpace : AddressSpace)
  | read (address length : Nat) (addressSpace : AddressSpace) (buffer : U8Buffer)
  | write (address length : Nat) (addressSpace : AddressSpace) (buffer : U8Buffer)

/-- What a call of the accessor returns, and what it leaves in the buffer of the
caller. -/
inductive Accessed
  | valid (on : Bool)
  | read (entries : Nat) (bytes : List UInt8)
  | write (entries : Nat)
deriving DecidableEq

namespace Accessor

variable {n : Nat}

def perform (accessor : Accessor n) : Access -> Checked (Accessor n × Accessed)
  | .valid address length addressSpace => do
      let on <- accessor.accessValid address length addressSpace
      return (accessor, .valid on)
  | .read address length addressSpace buffer => do
      let done <- accessor.read address length addressSpace buffer
      return (accessor, .read done.1 done.2.bytes)
  | .write address length addressSpace buffer => do
      let done <- accessor.write address length addressSpace buffer
      return (done.2, .write done.1)

/-- The section behind an address space. -/
def behind (accessor : Accessor n) : AddressSpace -> Option (Fin n)
  | .kHoldingRegister => some accessor.pHoldingRegister
  | .kInputRegister => some accessor.pInputRegister
  | _ => none

theorem accessValid_behind (accessor : Accessor n) (address length : Nat)
    (addressSpace : AddressSpace) : accessor.accessValid address length addressSpace =
      (accessor.behind addressSpace).elim (.ok false) fun area =>
        (accessor.sections.get area).accessValid address length := by
  cases addressSpace <;> rfl

theorem read_behind (accessor : Accessor n) (address length : Nat) (addressSpace : AddressSpace)
    (buffer : U8Buffer) : accessor.read address length addressSpace buffer =
      (accessor.behind addressSpace).elim (.ok (0, buffer)) fun area =>
        (accessor.sections.get area).read address length buffer := by
  cases addressSpace <;> rfl

theorem write_behind (accessor : Accessor n) (address length : Nat) (addressSpace : AddressSpace)
    (buffer : U8Buffer) : accessor.write address length addressSpace buffer =
      (accessor.behind addressSpace).elim (.ok (0, accessor)) fun area =>
        (accessor.sections.get area).write address length buffer >>= fun written =>
          .ok (written.1, accessor.setSection area written.2) := by
  cases addressSpace <;> rfl

/-- A byte of a block of one of the sections. -/
structure Place (n : Nat) where
  area : Fin n
  block : Nat
  index : Nat

def byte (accessor : Accessor n) (place : Place n) : UInt8 :=
  ((accessor.sections.get place.area).blockBytes place.block).getD place.index 0

/-- The access stays inside the block it finds.  Nothing is asked of an access to
another address space. -/
def Reaches (accessor : Accessor n) : Access -> Prop
  | .valid address _ addressSpace => forall area, accessor.behind addressSpace = some area ->
      ((accessor.sections.get area).capacity address).isSome = true
  | .read address length addressSpace buffer | .write address length addressSpace buffer =>
      forall area, accessor.behind addressSpace = some area ->
        (accessor.sections.get area).Reaches address length buffer.size

instance (accessor : Accessor n) : (access : Access) -> Decidable (accessor.Reaches access)
  | .valid _ _ _ => inferInstanceAs (Decidable (forall _ : Fin n, _ = some _ -> _ = true))
  | .read _ _ _ _ => inferInstanceAs
      (Decidable (forall _ : Fin n, _ = some _ -> RegisterController.Reaches _ _ _ _))
  | .write _ _ _ _ => inferInstanceAs
      (Decidable (forall _ : Fin n, _ = some _ -> RegisterController.Reaches _ _ _ _))

end Accessor

/-- The bytes of all places. -/
abbrev Cells (n : Nat) := Accessor.Place n -> UInt8

namespace Cells

variable {n : Nat}

/-- Bytes of a block from an address on. -/
def fetch (cells : Cells n) (area : Fin n) (block address count : Nat) : List UInt8 :=
  (List.range count).map fun offset => cells ⟨area, block, address + offset⟩

def overwrite (cells : Cells n) (area : Fin n) (block address : Nat) (bytes : List UInt8) :
    Cells n := fun place =>
  if place.area = area ∧ place.block = block ∧
      address ≤ place.index ∧ place.index < address + bytes.length then
    bytes.getD (place.index - address) 0
  else cells place

/-- An access to the bytes; `start` only says where the blocks are. -/
def perform (start : Accessor n) (cells : Cells n) : Access -> Cells n × Accessed
  | .valid address length addressSpace =>
      (cells, .valid <| (start.behind addressSpace).elim false fun area =>
        decide ((start.sections.get area).accessValid address length = .ok true))
  | .read address length addressSpace buffer =>
      match start.behind addressSpace with
      | none => (cells, .read 0 buffer.bytes)
      | some area =>
          let entries := (start.sections.get area).served address length buffer.size
          let block := (start.sections.get area).controller.findBlock address length
          (cells, .read entries (cells.fetch area block address (2 * entries) ++
            buffer.bytes.drop (2 * entries)))
  | .write address length addressSpace buffer =>
      match start.behind addressSpace with
      | none => (cells, .write 0)
      | some area =>
          let entries := (start.sections.get area).served address length buffer.size
          let block := (start.sections.get area).controller.findBlock address length
          (cells.overwrite area block address (buffer.bytes.take (2 * entries)), .write entries)

end Cells

section Bytes

variable {n : Nat} {accessor : Accessor n} {area : Fin n} {block address : Nat}

/-- Bytes that are there are fetched. -/
theorem fetch_byte {count : Nat} (inside : 0 < count ->
      address + count ≤ ((accessor.sections.get area).blockBytes block).length) :
    Cells.fetch accessor.byte area block address count =
      (((accessor.sections.get area).blockBytes block).drop address).take count := by
  apply List.ext_getElem
  · rw [Cells.fetch, List.length_map, List.length_range, List.length_take, List.length_drop]
    omega
  · intro offset _ within
    rw [List.length_take, List.length_drop] at within
    have there : address + offset < ((accessor.sections.get area).blockBytes block).length := by omega
    simp only [Cells.fetch, List.getElem_map, List.getElem_range, List.getElem_take,
      List.getElem_drop]
    exact List.getD_eq_getElem _ _ there

/-- A block of bytes written over others, byte by byte. -/
theorem getD_splice_inside (bytes data : List UInt8)
    (inside : 0 < data.length -> address + data.length ≤ bytes.length) (index : Nat) :
    (splice bytes address data).getD index 0 =
      if address ≤ index ∧ index < address + data.length then data.getD (index - address) 0
      else bytes.getD index 0 := by
  cases data with
  | nil =>
      rw [splice_nil, if_neg (fun within => Nat.not_lt_of_le within.1 within.2)]
  | cons first rest =>
      rw [List.getD_eq_getElem?_getD, getElem?_splice bytes (inside (Nat.succ_pos _))]
      split
      · rw [List.getD_eq_getElem?_getD]
      · rw [List.getD_eq_getElem?_getD]

/-- Data written into a block of one of the sections. -/
theorem byte_setSection {next : RegisterController} {data : List UInt8}
    (inside : 0 < data.length ->
      address + data.length ≤ ((accessor.sections.get area).blockBytes block).length)
    (contents : forall place, next.blockBytes place =
      if place = block then splice ((accessor.sections.get area).blockBytes place) address data
      else (accessor.sections.get area).blockBytes place) :
    (accessor.setSection area next).byte = Cells.overwrite accessor.byte area block address data := by
  funext place
  rcases place with ⟨other, place, index⟩
  by_cases here : other = area
  · subst here
    rw [Accessor.byte, accessor.get_setSection_self, contents]
    by_cases placed : place = block
    · subst placed
      rw [if_pos rfl, getD_splice_inside _ _ inside, Cells.overwrite]
      simp only [true_and]
      rfl
    · rw [if_neg placed, Cells.overwrite, if_neg (fun both => placed both.2.1)]
      rfl
  · rw [Accessor.byte, accessor.get_setSection_other next (Ne.symm here), Cells.overwrite,
      if_neg (fun both => here both.1)]
    rfl

end Bytes

namespace Accessor

variable {n : Nat}

/-- The accessor has its blocks where `start` has them, and these bytes in them. -/
structure Stores (start : Accessor n) (cells : Cells n) (accessor : Accessor n) : Prop where
  behind_eq : forall addressSpace, accessor.behind addressSpace = start.behind addressSpace
  shape_eq : forall area : Fin n, (accessor.sections.get area).shape = (start.sections.get area).shape
  byte_eq : accessor.byte = cells

section Stored

variable {start accessor : Accessor n} {cells : Cells n} {address length : Nat}
  {addressSpace : AddressSpace} {buffer : U8Buffer}

theorem valid_stores (stores : start.Stores cells accessor)
    (reaches : start.Reaches (.valid address length addressSpace)) :
    accessor.accessValid address length addressSpace =
      .ok ((start.behind addressSpace).elim false fun area =>
        decide ((start.sections.get area).accessValid address length = .ok true)) := by
  rw [accessValid_behind, stores.behind_eq]
  cases located : start.behind addressSpace with
  | none => rfl
  | some area =>
      have reaches := reaches area located
      have same : (accessor.sections.get area).accessValid address length =
          (start.sections.get area).accessValid address length :=
        ByteFieldController.accessValid_congr
          (RegisterController.ranges_of_shape (stores.shape_eq area))
      rcases RegisterController.accessValid_of_capacity reaches length with ⟨on, valid⟩
      change (accessor.sections.get area).accessValid address length =
        .ok (decide ((start.sections.get area).accessValid address length = .ok true))
      rw [same, valid]
      cases on <;> rfl

theorem read_stores (stores : start.Stores cells accessor)
    (reaches : start.Reaches (.read address length addressSpace buffer)) :
    Exists fun done => accessor.read address length addressSpace buffer = .ok done ∧
      Accessed.read done.1 done.2.bytes =
        (cells.perform start (.read address length addressSpace buffer)).2 := by
  rw [read_behind, stores.behind_eq]
  cases located : start.behind addressSpace with
  | none =>
      refine ⟨(0, buffer), rfl, ?_⟩
      rw [Cells.perform, located]
  | some area =>
      have reaches := reaches area located
      have shape := stores.shape_eq area
      have block : (accessor.sections.get area).controller.findBlock address length =
          (start.sections.get area).controller.findBlock address length :=
        ByteFieldController.findBlock_congr (RegisterController.ranges_of_shape shape)
      have served := RegisterController.served_of_shape shape address length buffer.size
      have here := (RegisterController.reaches_of_shape shape).mpr reaches
      rcases RegisterController.read_served here with ⟨out, completes, contents⟩
      have inside := here.inside
      rw [served, block] at contents inside
      rw [served] at completes
      have room := (start.sections.get area).served_room address length buffer.size
      have fetched : Cells.fetch accessor.byte area _ address
          (2 * (start.sections.get area).served address length buffer.size) = _ :=
        fetch_byte (fun positive => inside (by omega))
      rw [stores.byte_eq] at fetched
      have size : (cells.fetch area ((start.sections.get area).controller.findBlock address length)
          address (2 * (start.sections.get area).served address length buffer.size)).length =
          2 * (start.sections.get area).served address length buffer.size := by
        rw [Cells.fetch, List.length_map, List.length_range]
      refine ⟨_, completes, ?_⟩
      rw [← fetched, splice, size, Nat.zero_add] at contents
      rw [Cells.perform, located]
      exact congrArg (Accessed.read _) contents

theorem write_stores (stores : start.Stores cells accessor)
    (reaches : start.Reaches (.write address length addressSpace buffer)) :
    Exists fun done => accessor.write address length addressSpace buffer = .ok done ∧
      Accessed.write done.1 =
        (cells.perform start (.write address length addressSpace buffer)).2 ∧
      start.Stores (cells.perform start (.write address length addressSpace buffer)).1 done.2 := by
  rw [write_behind, stores.behind_eq]
  cases located : start.behind addressSpace with
  | none =>
      refine ⟨(0, accessor), rfl, ?_⟩
      rw [Cells.perform, located]
      exact ⟨rfl, stores⟩
  | some area =>
      have reaches := reaches area located
      have shape := stores.shape_eq area
      have block : (accessor.sections.get area).controller.findBlock address length =
          (start.sections.get area).controller.findBlock address length :=
        ByteFieldController.findBlock_congr (RegisterController.ranges_of_shape shape)
      have served := RegisterController.served_of_shape shape address length buffer.size
      have here := (RegisterController.reaches_of_shape shape).mpr reaches
      rcases RegisterController.write_served here with ⟨next, completes, nextShape, contents⟩
      have inside := here.inside
      rw [served, block] at inside
      rw [served] at completes
      simp only [served, block] at contents
      refine ⟨_, by rw [Option.elim_some, completes, ok_bind], ?_⟩
      rw [Cells.perform, located]
      refine ⟨rfl, ?_, ?_, ?_⟩
      · intro addressSpace
        rw [← stores.behind_eq]
        cases addressSpace <;> rfl
      · intro other
        rw [← stores.shape_eq]
        by_cases here : area = other
        · subst here
          rw [accessor.get_setSection_self]
          exact nextShape
        · rw [accessor.get_setSection_other _ here]
      · have room := (start.sections.get area).served_room address length buffer.size
        have size : (buffer.bytes.take
            (2 * (start.sections.get area).served address length buffer.size)).length =
              2 * (start.sections.get area).served address length buffer.size := by
          rw [List.length_take, U8Buffer.bytes_length, Nat.min_eq_left room]
        rw [← stores.byte_eq]
        exact byte_setSection (by rw [size]; exact fun positive => inside (by omega)) contents

end Stored

theorem perform_stores {start : Accessor n} {cells : Cells n} {accessor : Accessor n}
    {access : Access} (stores : start.Stores cells accessor) (reaches : start.Reaches access) :
    Exists fun next => accessor.perform access = .ok (next, (cells.perform start access).2) ∧
      start.Stores (cells.perform start access).1 next := by
  cases access with
  | valid address length addressSpace =>
      refine ⟨accessor, ?_, stores⟩
      rw [perform, valid_stores stores reaches]
      rfl
  | read address length addressSpace buffer =>
      rcases read_stores stores reaches with ⟨done, completes, same⟩
      refine ⟨accessor, ?_, ?_⟩
      · rw [perform, completes, ← same]
        rfl
      · rw [Cells.perform]
        split <;> exact stores
  | write address length addressSpace buffer =>
      rcases write_stores stores reaches with ⟨done, completes, same, kept⟩
      refine ⟨done.2, ?_, kept⟩
      rw [perform, completes, ← same]
      rfl

theorem stores_start (start : Accessor n) : start.Stores start.byte start :=
  ⟨fun _ => rfl, fun _ => rfl, rfl⟩

theorem trace_stores {start : Accessor n} {accesses : List Access}
    (reach : forall access, access ∈ accesses -> start.Reaches access) :
    Exists fun final => trace perform start accesses =
        .ok (final, (behaviour (Cells.perform start) start.byte accesses).2) ∧
      start.Stores (behaviour (Cells.perform start) start.byte accesses).1 final :=
  trace_refines perform (Cells.perform start) start.Reaches start.Stores
    (fun _ _ _ => perform_stores) start.stores_start reach

/-- Two sections of one block of six bytes each. -/
def twoSections : Accessor 2 :=
  let controller (first : UInt8) : RegisterController :=
    ⟨⟨[⟨0, 6, ⟨6, #v[first, 1, 2, 3, 4, 5], by decide⟩, SizeT.modulus_pos, by decide⟩], rfl⟩⟩
  { sections := #v[controller 7, controller 9], pHoldingRegister := 0, pInputRegister := 1 }

end Accessor

/-! ## Sections apart -/

def Access.addressSpace : Access -> AddressSpace
  | valid _ _ addressSpace => addressSpace
  | read _ _ addressSpace _ => addressSpace
  | write _ _ addressSpace _ => addressSpace

def Access.isIn (addressSpace : AddressSpace) (access : Access) : Bool :=
  decide (access.addressSpace = addressSpace)

namespace Accessor

variable {n : Nat}

/-- The bytes behind this address space are the same. -/
def Alike (start : Accessor n) (addressSpace : AddressSpace) (cells other : Cells n) : Prop :=
  forall place : Place n, start.behind addressSpace = some place.area -> cells place = other place

/-- With different sections no area is behind two address spaces. -/
theorem behind_unique {accessor : Accessor n}
    (apart : accessor.pHoldingRegister ≠ accessor.pInputRegister) {first second : AddressSpace}
    {area : Fin n} (firstBehind : accessor.behind first = some area)
    (secondBehind : accessor.behind second = some area) : first = second := by
  cases first with
  | kHoldingRegister =>
      cases second with
      | kHoldingRegister => rfl
      | kInputRegister =>
          exact absurd (Option.some.inj (firstBehind.trans secondBehind.symm)) apart
      | _ => cases secondBehind
  | kInputRegister =>
      cases second with
      | kInputRegister => rfl
      | kHoldingRegister =>
          exact absurd (Option.some.inj (secondBehind.trans firstBehind.symm)) apart
      | _ => cases secondBehind
  | _ => cases firstBehind

section Apart

variable {start : Accessor n} {addressSpace : AddressSpace} {cells other : Cells n} {access : Access}

/-- An access to another address space changes no byte behind this one. -/
theorem alike_ignored (apart : start.pHoldingRegister ≠ start.pInputRegister)
    (elsewhere : access.addressSpace ≠ addressSpace)
    (alike : start.Alike addressSpace cells other) :
    start.Alike addressSpace (cells.perform start access).1 other := by
  intro place behind
  cases access with
  | valid address length space => exact alike place behind
  | read address length space buffer =>
      rw [Cells.perform]
      split <;> exact alike place behind
  | write address length space buffer =>
      rw [Cells.perform]
      split
      · exact alike place behind
      · next area located =>
          have outside : place.area ≠ area := by
            rintro rfl
            exact elsewhere (behind_unique apart located behind)
          exact (if_neg (fun both => outside both.1)).trans (alike place behind)

/-- An access to this address space depends on the bytes behind it only. -/
theorem alike_followed (here : access.addressSpace = addressSpace)
    (alike : start.Alike addressSpace cells other) :
    (cells.perform start access).2 = (other.perform start access).2 ∧
      start.Alike addressSpace (cells.perform start access).1 (other.perform start access).1 := by
  subst here
  cases access with
  | valid address length space => exact ⟨rfl, alike⟩
  | read address length space buffer =>
      rw [Cells.perform, Cells.perform]
      split
      · exact ⟨rfl, alike⟩
      · next area located =>
          have same (block count : Nat) : cells.fetch area block address count =
              other.fetch area block address count :=
            List.map_congr_left fun offset _ => alike ⟨area, block, address + offset⟩ located
          refine ⟨?_, alike⟩
          simp only [same]
  | write address length space buffer =>
      rw [Cells.perform, Cells.perform]
      split
      · exact ⟨rfl, alike⟩
      · next area located =>
          refine ⟨rfl, fun place behind => ?_⟩
          simp only [Cells.overwrite, alike place behind]

end Apart

end Accessor

end Modbus
