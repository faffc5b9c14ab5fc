import Mathlib.Data.List.GetD
import Mathlib.Logic.Function.Basic
import ModbusBasic.Registers.MappedValidation
import ModbusBasic.Registers.RegisterFile
import ModbusBasic.Transition.Composition
import ModbusBasic.Transition.LastWrite

namespace Modbus

open Memory TypeConversion Transition

/-!
# The fields behind a mapped store

A mapped store serves a record of fields: the bytes under each index, and a mark
that something was written.  The access to a field is left to a generated memory
controller, of which only this much is needed: a write of all its bytes replaces
a field and no other, and a read puts its bytes at the front of the window.  A
window may be longer than the field, and what the rest of it is filled with is
left open (`KeepsFields`).

As long as the calls name complete entries of the map, any run of them is a run
of the record (`mapped_calls_refine_record`).
-/

/-! ## The record -/

structure FieldRecord where
  bytes : Nat -> List UInt8
  fresh : Bool

/-- The calls a mapped store offers. -/
inductive MappedCall
  | setField (identifier : Nat) (dataView : List UInt8)
  | getField (identifier size : Nat)
  | setRegisters (address registerCount : Nat) (dataView : List UInt8)
  | getRegisters (address registerCount : Nat)
  | setRegister (address : Nat) (value : UInt16)
  | getRegister (address : Nat)
  | writeLocationValid (address count : Nat)
  | setNewData (value : Bool)
  | isNewData

inductive MappedAnswer
  | done
  | bytes (data : List UInt8)
  | register (value : UInt16)
  | flag (value : Bool)
deriving DecidableEq

/-- These registers are all the registers of an entry. -/
def Entry (offsets endPoints : List Nat) (address count : Nat) : Prop :=
  1 ≤ count ∧ (address, address + count - 1) ∈ offsets.zip endPoints

instance (offsets endPoints : List Nat) (address count : Nat) :
    Decidable (Entry offsets endPoints address count) :=
  inferInstanceAs (Decidable (_ ∧ _))

instance (offsets endPoints : List Nat) (address count : Nat) :
    Decidable (EmptyInWhole offsets endPoints address count) :=
  decidable_of_iff (address = 0 ∧ count = 0 ∧ (0, SizeT.modulus - 1) ∈ offsets.zip endPoints) <| by
    simp only [EmptyInWhole, List.mem_iff_getElem?, List.getElem?_zip_eq_some]

theorem entry_iff {offsets endPoints : List Nat} {address count : Nat} :
    Entry offsets endPoints address count <->
      Exists fun index => Spans offsets endPoints address count index := by
  constructor
  · rintro ⟨nonempty, listed⟩
    rcases List.mem_iff_getElem?.mp listed with ⟨index, found⟩
    have ends := List.getElem?_zip_eq_some.mp found
    exact ⟨index, nonempty, ends.1, ends.2⟩
  · rintro ⟨index, nonempty, starts, ends⟩
    exact ⟨nonempty, List.mem_iff_getElem?.mpr ⟨index, List.getElem?_zip_eq_some.mpr ⟨starts, ends⟩⟩⟩

namespace FieldRecord

def write (record : FieldRecord) (index : Nat) (data : List UInt8) : FieldRecord :=
  { bytes := Function.update record.bytes index data, fresh := true }

@[simp] theorem write_self (record : FieldRecord) (index : Nat) (data : List UInt8) :
    (record.write index data).bytes index = data := by
  simp [write]

theorem write_other (record : FieldRecord) {index other : Nat} (data : List UInt8)
    (apart : other ≠ index) : (record.write index data).bytes other = record.bytes other := by
  simp [write, apart]

section Machine

variable (offsets endPoints : List Nat)

def perform (record : FieldRecord) : MappedCall -> FieldRecord × MappedAnswer
  | .setField identifier dataView => (record.write identifier dataView, .done)
  | .getField identifier _ => (record, .bytes (record.bytes identifier))
  | .setRegisters address _ dataView => (record.write (offsets.idxOf address) dataView, .done)
  | .getRegisters address _ => (record, .bytes (record.bytes (offsets.idxOf address)))
  | .setRegister address value =>
      (record.write (offsets.idxOf address) (bigEndian value.toNat), .done)
  | .getRegister address =>
      (record, .register (wordAt (record.bytes (offsets.idxOf address)) 0))
  | .writeLocationValid address count =>
      (record, .flag (decide (Entry offsets endPoints address count)))
  | .setNewData value => ({ record with fresh := value }, .done)
  | .isNewData => (record, .flag record.fresh)

/-- Fields are accessed as a whole, and registers by complete entries.  The
ranges asked about are not of the two kinds that are admitted without being
entries. -/
def Admits (record : FieldRecord) : MappedCall -> Prop
  | .setField identifier dataView =>
      identifier < offsets.length ∧ dataView.length = (record.bytes identifier).length
  | .getField identifier size =>
      identifier < offsets.length ∧ size = (record.bytes identifier).length
  | .setRegisters address registerCount dataView =>
      Entry offsets endPoints address registerCount ∧ dataView.length = 2 * registerCount
  | .getRegisters address registerCount => Entry offsets endPoints address registerCount
  | .setRegister address _ | .getRegister address => Entry offsets endPoints address 1
  | .writeLocationValid address count =>
      (address < SizeT.modulus ∧ count < SizeT.modulus) ∧
        ¬ Straddles offsets endPoints address count ∧ ¬ EmptyInWhole offsets endPoints address count
  | .setNewData _ | .isNewData => True

instance (record : FieldRecord) : (call : MappedCall) ->
    Decidable (record.Admits offsets endPoints call)
  | .setField _ _ | .getField _ _ | .setRegisters _ _ _ => inferInstanceAs (Decidable (_ ∧ _))
  | .getRegisters _ _ | .setRegister _ _ | .getRegister _ =>
      inferInstanceAs (Decidable (Entry _ _ _ _))
  | .writeLocationValid _ _ => inferInstanceAs (Decidable ((_ ∧ _) ∧ ¬ _ ∧ ¬ _))
  | .setNewData _ | .isNewData => isTrue True.intro

/-- Every field has two bytes for each register of its entry. -/
def Sized (record : FieldRecord) : Prop :=
  forall {address count index : Nat}, Spans offsets endPoints address count index ->
    (record.bytes index).length = 2 * count

/-- What a call leaves under an index, if it writes there. -/
def written : MappedCall -> Nat -> Option (List UInt8)
  | .setField identifier dataView, index => if index = identifier then some dataView else none
  | .setRegisters address _ dataView, index =>
      if index = offsets.idxOf address then some dataView else none
  | .setRegister address value, index =>
      if index = offsets.idxOf address then some (bigEndian value.toNat) else none
  | _, _ => none

variable {offsets endPoints}

theorem bytes_write (record : FieldRecord) (identifier : Nat) (data : List UInt8) (index : Nat) :
    (record.write identifier data).bytes index =
      (if index = identifier then some data else none).getD (record.bytes index) := by
  by_cases here : index = identifier
  · rw [here, write_self, if_pos rfl]
    rfl
  · rw [write_other record data here, if_neg here]
    rfl

theorem perform_written (record : FieldRecord) (call : MappedCall) (index : Nat) :
    (nextState (perform offsets endPoints) record call).bytes index =
      (written offsets call index).getD (record.bytes index) := by
  cases call with
  | setField identifier dataView => exact record.bytes_write identifier dataView index
  | setRegisters address registerCount dataView => exact record.bytes_write _ dataView index
  | setRegister address value => exact record.bytes_write _ _ index
  | _ => rfl

theorem Sized.write {record : FieldRecord} (sized : record.Sized offsets endPoints) {index : Nat}
    {data : List UInt8} (whole : data.length = (record.bytes index).length) :
    (record.write index data).Sized offsets endPoints := by
  intro address count other spans
  by_cases here : other = index
  · subst here
    rw [write_self, whole]
    exact sized spans
  · rw [write_other record data here]
    exact sized spans

end Machine

end FieldRecord

/-! ## Controllers that keep fields -/

/-- The result of filling a window from its front on, with these bytes first. -/
def Fills {m : Nat} (window result : Window UInt8 m) (bytes : List UInt8) : Prop :=
  Exists fun extra : List UInt8 => (bytes ++ extra).length ≤ window.size ∧
    result.cells.toList = splice window.cells.toList window.start (bytes ++ extra)

structure KeepsFields {T : Type} [MemoryController T] (field : T -> Nat -> List UInt8) : Prop where
  set : forall controller index data, index < (MemoryController.offsets T).length ->
    data.length = (field controller index).length ->
    Exists fun next => MemoryController.setField controller index data = .ok next ∧
      field next = Function.update (field controller) index data
  get : forall controller index (m : Nat) (window : Window UInt8 m),
    index < (MemoryController.offsets T).length ->
    (field controller index).length ≤ window.size -> window.start + window.size ≤ m ->
    Exists fun result => MemoryController.getField controller index window = .ok result ∧
      Fills window result (field controller index)

/-- Only the bytes fit in a window of their length. -/
theorem Fills.exact {m : Nat} {window result : Window UInt8 m} {bytes : List UInt8}
    (fills : Fills window result bytes) (size : window.size = bytes.length) :
    result.cells.toList = splice window.cells.toList window.start bytes := by
  rcases fills with ⟨extra, room, written⟩
  have none : extra = [] := by
    rw [List.length_append] at room
    exact List.eq_nil_of_length_eq_zero (by omega)
  rw [written, none, List.append_nil]

/-- The bytes of the fields, each in its place. -/
theorem ByteFields.keepsFields (offsets endPoints : List Nat) :
    KeepsFields fun (controller : ByteFields offsets endPoints) index =>
      controller.fields.getD index [] where
  set controller index data _ whole := by
    refine ⟨_, rfl, funext fun other => ?_⟩
    simp only [List.getD_eq_getElem?_getD, List.getElem?_modify] at whole ⊢
    by_cases here : other = index
    · subst here
      rw [Function.update_self]
      cases there : controller.fields[other]? with
      | none =>
          rw [there] at whole
          have empty : data = [] := List.eq_nil_of_length_eq_zero whole
          rw [empty]
          rfl
      | some field =>
          rw [there] at whole
          have same : data.length = field.length := whole
          simp [← same]
    · rw [Function.update_of_ne here]
      simp only [if_neg (Ne.symm here), Option.map_eq_map, Option.map_id_fun', id]
  get controller index m window _ room inside := by
    let bytes := controller.fields.getD index []
    have all : bytes.take window.size = bytes := List.take_of_length_le room
    rcases forRange_fill window room (Nat.le_trans (Nat.add_le_add_left room _) inside) with
      ⟨result, completes, written⟩
    refine ⟨result, ?_, [], ?_, ?_⟩
    · change forRange _ (bytes.take window.size).length window = _
      rw [all]
      exact completes
    · rw [List.append_nil]
      exact room
    · rw [List.append_nil]
      exact written

/-! ## The store -/

namespace MappedRegisterDataStore

variable {T : Type} [MemoryController T]

/-- The buffer a caller brings along, as long as what is asked for. -/
def emptyView (size : Nat) : Window UInt8 size :=
  { cells := Vector.replicate size 0, start := 0, size := size }

def perform [TypeConversion] (store : MappedRegisterDataStore T) :
    MappedCall -> Checked (MappedRegisterDataStore T × MappedAnswer)
  | .setField identifier dataView => do
      let store <- store.setField identifier dataView
      return (store, .done)
  | .getField identifier size => do
      let dataView <- store.getField identifier (emptyView size)
      return (store, .bytes dataView.cells.toList)
  | .setRegisters address registerCount dataView => do
      let store <- store.setRegisters address registerCount dataView
      return (store, .done)
  | .getRegisters address registerCount => do
      let dataView <- store.getRegisters address registerCount (emptyView (2 * registerCount))
      return (store, .bytes dataView.cells.toList)
  | .setRegister address value => do
      let store <- store.setRegister address value
      return (store, .done)
  | .getRegister address => do
      let value <- store.getRegister address
      return (store, .register value)
  | .writeLocationValid address count =>
      .ok (store, .flag (store.writeLocationValid address count))
  | .setNewData value => .ok (store.setNewData value, .done)
  | .isNewData => .ok (store, .flag store.isNewData)

/-- The record a store keeps. -/
def record (field : T -> Nat -> List UInt8) (store : MappedRegisterDataStore T) : FieldRecord where
  bytes := field store.memoryController
  fresh := store.newData

/-- The store keeps this record, and its fields have the sizes of their entries. -/
structure Keeps (field : T -> Nat -> List UInt8) (record : FieldRecord)
    (store : MappedRegisterDataStore T) : Prop where
  record_eq : store.record field = record
  sized : record.Sized (MemoryController.offsets T) (MemoryController.endPoints T)

variable {field : T -> Nat -> List UInt8} {record : FieldRecord}
  {store : MappedRegisterDataStore T} {index address count : Nat}

section Fields

variable (keeps : KeepsFields field) (kept : Keeps field record store)
  (inside : index < (MemoryController.offsets T).length)

include keeps kept inside

theorem setField_keeps {data : List UInt8} (whole : data.length = (record.bytes index).length) :
    Exists fun next => store.setField index data = .ok next ∧
      Keeps field (record.write index data) next := by
  rcases kept with ⟨rfl, sized⟩
  rcases keeps.set store.memoryController index data inside whole with ⟨next, completes, changed⟩
  refine ⟨⟨true, next⟩, ?_, congrArg (FieldRecord.mk · true) changed, sized.write whole⟩
  change (MemoryController.setField store.memoryController index data >>= _) = _
  rw [completes, ok_bind]
  rfl

theorem getField_fills {m : Nat} {window : Window UInt8 m}
    (room : (record.bytes index).length ≤ window.size) (fits : window.start + window.size ≤ m) :
    Exists fun result => store.getField index window = .ok result ∧
      Fills window result (record.bytes index) := by
  rcases kept with ⟨rfl, sized⟩
  exact keeps.get store.memoryController index m window inside room fits

/-- A buffer of just the right length holds the field afterwards. -/
theorem getField_whole {size : Nat} (whole : size = (record.bytes index).length) :
    Exists fun result => store.getField index (emptyView size) = .ok result ∧
      result.cells.toList = record.bytes index := by
  have room : (record.bytes index).length ≤ (emptyView size).size := Nat.le_of_eq whole.symm
  rcases getField_fills keeps kept inside room (Nat.le_of_eq (Nat.zero_add size)) with
    ⟨result, completes, fills⟩
  refine ⟨result, completes, ?_⟩
  have written := fills.exact (whole : (emptyView size).size = _)
  have length : (emptyView size).cells.toList.length = size := Vector.length_toList
  rw [written, splice, ← whole, List.drop_of_length_le (by rw [length]; exact Nat.le_add_left _ _)]
  exact List.append_nil _

end Fields

section Runs

variable [TypeConversion]
  (map : WellFormedMap (MemoryController.offsets T) (MemoryController.endPoints T))
  (keeps : KeepsFields field)

include map in
omit [TypeConversion] in
/-- A complete entry is found by its first register, and has bytes for all of them. -/
theorem entry_kept (kept : Keeps field record store)
    (entry : Entry (MemoryController.offsets T) (MemoryController.endPoints T) address count) :
    Exists fun index => (MemoryController.offsets T).idxOf address = index ∧
      store.getIdentifierFromAddress address = index ∧
      index < (MemoryController.offsets T).length ∧
      (record.bytes index).length = 2 * count := by
  rcases entry_iff.mp entry with ⟨index, spans⟩
  exact ⟨index, map.getMatchingIndex_eq spans.2.1, store.getMemoryMapEntryIndex_eq map spans.2.1,
    (List.getElem?_eq_some_iff.mp spans.2.1).1, kept.sized spans⟩

include map in
omit [TypeConversion] in
/-- Ranges of the permitted kinds are admitted when they are entries. -/
theorem writeLocationValid_eq (store : MappedRegisterDataStore T)
    (addressFits : address < SizeT.modulus) (countFits : count < SizeT.modulus)
    (inOne : ¬ Straddles (MemoryController.offsets T) (MemoryController.endPoints T) address count)
    (notEmpty :
      ¬ EmptyInWhole (MemoryController.offsets T) (MemoryController.endPoints T) address count) :
    store.writeLocationValid address count =
      decide (Entry (MemoryController.offsets T) (MemoryController.endPoints T) address count) := by
  rw [← Bool.coe_iff_coe, decide_eq_true_iff, entry_iff]
  constructor
  · exact spans_of_checkLocationValid map addressFits countFits inOne notEmpty
  · rintro ⟨index, spans⟩
    exact checkLocationValid_of_spans map spans

section Registers

variable (kept : Keeps field record store)

include map keeps kept

omit [TypeConversion] in
theorem setRegisters_keeps
    (entry : Entry (MemoryController.offsets T) (MemoryController.endPoints T) address count)
    {data : List UInt8} (whole : data.length = 2 * count) :
    Exists fun next => store.setRegisters address count data = .ok next ∧
      Keeps field (record.write ((MemoryController.offsets T).idxOf address) data) next := by
  rcases entry_kept map kept entry with ⟨index, starts, found, inside, size⟩
  rcases setField_keeps keeps kept inside (whole.trans size.symm) with ⟨next, completes, changed⟩
  rw [setRegisters, setFieldFromAddress, found, starts]
  exact ⟨next, completes, changed⟩

theorem setRegister_keeps
    (entry : Entry (MemoryController.offsets T) (MemoryController.endPoints T) address 1)
    (value : UInt16) :
    Exists fun next => store.setRegister address value = .ok next ∧
      Keeps field (record.write ((MemoryController.offsets T).idxOf address)
        (bigEndian value.toNat)) next := by
  rw [setRegister, getByte_pair value.toNat_lt]
  exact setRegisters_keeps map keeps kept entry rfl

omit [TypeConversion] in
theorem getRegisters_whole
    (entry : Entry (MemoryController.offsets T) (MemoryController.endPoints T) address count) :
    Exists fun result => store.getRegisters address count (emptyView (2 * count)) = .ok result ∧
      result.cells.toList = record.bytes ((MemoryController.offsets T).idxOf address) := by
  rcases entry_kept map kept entry with ⟨index, starts, found, inside, size⟩
  rw [getRegisters, getFieldFromAddress, found, starts]
  exact getField_whole keeps kept inside size.symm

theorem getRegister_whole
    (entry : Entry (MemoryController.offsets T) (MemoryController.endPoints T) address 1) :
    store.getRegister address =
      .ok (wordAt (record.bytes ((MemoryController.offsets T).idxOf address)) 0) := by
  rcases getRegisters_whole map keeps kept entry with ⟨result, completes, contents⟩
  have joined : makeMSBUint16FromU8Array result.cells[0] result.cells[1] =
      wordAt (record.bytes ((MemoryController.offsets T).idxOf address)) 0 := by
    rw [make_eq, ← contents, wordAt, List.getD_eq_getElem _ _ (by simp),
      List.getD_eq_getElem _ _ (by simp)]
    rfl
  change (store.getRegisters address 1 (emptyView 2) >>= _) = _
  rw [completes, ok_bind, joined, pure_eq_ok]

end Registers

include map keeps in
/-- One call. -/
theorem perform_keeps (kept : Keeps field record store) {call : MappedCall}
    (admits : record.Admits (MemoryController.offsets T) (MemoryController.endPoints T) call) :
    Exists fun next => store.perform call = .ok (next,
        (record.perform (MemoryController.offsets T) (MemoryController.endPoints T) call).2) ∧
      Keeps field
        (nextState (FieldRecord.perform (MemoryController.offsets T) (MemoryController.endPoints T))
          record call) next := by
  cases call with
  | setField identifier dataView =>
      rcases setField_keeps keeps kept admits.1 admits.2 with ⟨next, completes, changed⟩
      refine ⟨next, ?_, changed⟩
      rw [perform, completes, ok_bind]
      rfl
  | getField identifier size =>
      rcases getField_whole keeps kept admits.1 admits.2 with ⟨result, completes, contents⟩
      refine ⟨store, ?_, kept⟩
      rw [perform, completes, ok_bind, contents]
      rfl
  | setRegisters address registerCount dataView =>
      rcases setRegisters_keeps map keeps kept admits.1 admits.2 with ⟨next, completes, changed⟩
      refine ⟨next, ?_, changed⟩
      rw [perform, completes, ok_bind]
      rfl
  | getRegisters address registerCount =>
      rcases getRegisters_whole map keeps kept admits with ⟨result, completes, contents⟩
      refine ⟨store, ?_, kept⟩
      rw [perform, completes, ok_bind, contents]
      rfl
  | setRegister address value =>
      rcases setRegister_keeps map keeps kept admits value with ⟨next, completes, changed⟩
      refine ⟨next, ?_, changed⟩
      rw [perform, completes, ok_bind]
      rfl
  | getRegister address =>
      refine ⟨store, ?_, kept⟩
      rw [perform, getRegister_whole map keeps kept admits, ok_bind]
      rfl
  | writeLocationValid address count =>
      refine ⟨store, ?_, kept⟩
      rw [perform, store.writeLocationValid_eq map admits.1.1 admits.1.2 admits.2.1 admits.2.2]
      rfl
  | setNewData value =>
      rcases kept with ⟨rfl, sized⟩
      exact ⟨store.setNewData value, rfl, rfl, sized⟩
  | isNewData =>
      rcases kept with ⟨rfl, sized⟩
      exact ⟨store, rfl, rfl, sized⟩

end Runs

end MappedRegisterDataStore

open MappedRegisterDataStore in
/-- Any run of calls on complete entries is a run of the record of fields: the same
answers, the same mark at the end, and under every index the bytes of the last
call that wrote there. -/
theorem mapped_calls_refine_record [TypeConversion] {T : Type} [MemoryController T]
    {field : T -> Nat -> List UInt8} (keeps : KeepsFields field)
    (map : WellFormedMap (MemoryController.offsets T) (MemoryController.endPoints T))
    (store : MappedRegisterDataStore T)
    (sized : (store.record field).Sized (MemoryController.offsets T) (MemoryController.endPoints T))
    (calls : List MappedCall)
    (admitted : Permitted
      (nextState (FieldRecord.perform (MemoryController.offsets T) (MemoryController.endPoints T)))
      (FieldRecord.Admits (MemoryController.offsets T) (MemoryController.endPoints T))
      (store.record field) calls) :
    letI final := behaviour
      (FieldRecord.perform (MemoryController.offsets T) (MemoryController.endPoints T))
      (store.record field) calls
    Exists fun reached => trace perform store calls = .ok (reached, final.2) ∧
      reached.isNewData = final.1.fresh ∧
      forall index, field reached.memoryController index =
        (lastWritten (FieldRecord.written (MemoryController.offsets T)) calls index).getD
          (field store.memoryController index) := by
  rcases trace_follows perform
    (FieldRecord.perform (MemoryController.offsets T) (MemoryController.endPoints T))
    (FieldRecord.Admits (MemoryController.offsets T) (MemoryController.endPoints T)) (Keeps field)
    (fun _ _ _ kept admits => perform_keeps map keeps kept admits) ⟨rfl, sized⟩ admitted with
    ⟨reached, completes, kept⟩
  have record := kept.record_eq
  refine ⟨reached, completes, congrArg FieldRecord.fresh record, fun index => ?_⟩
  have bytes := congrFun (congrArg FieldRecord.bytes record) index
  rw [behaviour_state] at bytes
  exact bytes.trans (foldl_lastWritten _ FieldRecord.bytes _ FieldRecord.perform_written _ calls index)

/-- A counter of one register and a label of four. -/
abbrev CounterAndLabel := ByteFields [0, 1] [0, 4]

theorem counterAndLabel_wellFormed : WellFormedMap (MemoryController.offsets CounterAndLabel)
    (MemoryController.endPoints CounterAndLabel) :=
  ⟨rfl, by decide, by decide, by decide⟩

def counterAndLabel : MappedRegisterDataStore CounterAndLabel :=
  ⟨false, ⟨[[0, 0], List.replicate 8 0]⟩⟩

theorem counterAndLabel_sized :
    (counterAndLabel.record fun controller index => controller.fields.getD index []).Sized
      [0, 1] [0, 4] := by
  rintro address count (_ | _ | index) ⟨nonempty, starts, ends⟩
  · cases starts
    have last : 0 = 0 + count - 1 := Option.some.inj ends
    change 2 = 2 * count
    omega
  · cases starts
    have last : 4 = 1 + count - 1 := Option.some.inj ends
    change 8 = 2 * count
    omega
  · cases starts

open MappedRegisterDataStore in
/-- The counter is set and read, then the label; no entry is made of its first three
registers. -/
theorem mapped_calls_refine_record_counterAndLabel :
    letI := TypeConversion.shifting
    letI calls : List MappedCall := [.setRegister 0 0x0102, .getRegister 0, .setNewData false,
      .writeLocationValid 1 3, .setRegisters 1 4 [1, 2, 3, 4, 5, 6, 7, 8], .isNewData, .getField 1 8]
    Exists fun reached => trace perform counterAndLabel calls = .ok (reached,
        [.done, .register 0x0102, .done, .flag false, .done, .flag true,
          .bytes [1, 2, 3, 4, 5, 6, 7, 8]]) ∧
      reached.memoryController.fields.getD 0 [] = [1, 2] := by
  let conversion := TypeConversion.shifting
  rcases mapped_calls_refine_record (ByteFields.keepsFields [0, 1] [0, 4])
    counterAndLabel_wellFormed counterAndLabel counterAndLabel_sized
    [.setRegister 0 0x0102, .getRegister 0, .setNewData false, .writeLocationValid 1 3,
      .setRegisters 1 4 [1, 2, 3, 4, 5, 6, 7, 8], .isNewData, .getField 1 8] (by decide) with
    ⟨reached, completes, _, last⟩
  exact ⟨reached, completes, last 0⟩

end Modbus
