import ModbusBasic.Registers.RegisterDataStore

namespace Modbus

open Memory TypeConversion

/-!
# Register stores mapped onto fields

`MappedRegisterDataStore` and the two lookups beside it.  The registers are the
fields of a memory controller, a class that users of the library generate; the
store knows where each field starts and ends, and hands data over whole.
-/

/-- A generated wrapper: the first and the last register of each field, and the
access to a field by its index.  `SetField` and `GetField` get a pointer and a
size; here these are the bytes, and a window. -/
class MemoryController (T : Type) where
  offsets : List Nat
  endPoints : List Nat
  setField : T -> Nat -> List UInt8 -> Checked T
  getField {m : Nat} : T -> Nat -> Window UInt8 m -> Checked (Window UInt8 m)

/-- The index of the first match, or the length when there is none. -/
def getMatchingIndex {X : Type} [DecidableEq X] (value : X) (collection : List X) : Nat :=
  collection.findIdx (· == value)

def checkLocationValid (address count : Nat) (offsets endPoints : List Nat) : Bool :=
  offsets.any (· == address) &&
    endPoints.any (· == SizeT.sub (SizeT.add address count) 1)

structure MappedRegisterDataStore (T : Type) where
  newData : Bool := false
  memoryController : T
deriving DecidableEq

namespace MappedRegisterDataStore

variable {T : Type} {m : Nat}

def isNewData (store : MappedRegisterDataStore T) : Bool := store.newData

def setNewData (store : MappedRegisterDataStore T) (value : Bool) : MappedRegisterDataStore T :=
  { store with newData := value }

variable [MemoryController T]

/-- An address at which no field starts is given to the first field. -/
def getMemoryMapEntryIndex (_store : MappedRegisterDataStore T) (address : Nat) : Nat :=
  let index := getMatchingIndex address (MemoryController.offsets T)
  if index = (MemoryController.offsets T).length then 0 else index

def setField (store : MappedRegisterDataStore T) (identifier : Nat) (dataView : List UInt8) :
    Checked (MappedRegisterDataStore T) := do
  let store := store.setNewData true
  let memoryController <- MemoryController.setField store.memoryController identifier dataView
  return { store with memoryController := memoryController }

def getField (store : MappedRegisterDataStore T) (identifier : Nat) (dataView : Window UInt8 m) :
    Checked (Window UInt8 m) :=
  MemoryController.getField store.memoryController identifier dataView

def getIdentifierFromAddress (store : MappedRegisterDataStore T) (address : Nat) : Nat :=
  store.getMemoryMapEntryIndex address

def writeLocationValid (_store : MappedRegisterDataStore T) (address count : Nat) : Bool :=
  checkLocationValid address count (MemoryController.offsets T) (MemoryController.endPoints T)

def readLocationValid (store : MappedRegisterDataStore T) (address count : Nat) : Bool :=
  store.writeLocationValid address count

def setFieldFromAddress (store : MappedRegisterDataStore T) (address : Nat)
    (dataView : List UInt8) : Checked (MappedRegisterDataStore T) :=
  store.setField (store.getIdentifierFromAddress address) dataView

def getFieldFromAddress (store : MappedRegisterDataStore T) (address : Nat)
    (dataView : Window UInt8 m) : Checked (Window UInt8 m) :=
  store.getField (store.getIdentifierFromAddress address) dataView

/-- That the location is valid is only asserted, and the count is not used. -/
def getRegisters (store : MappedRegisterDataStore T) (address _registerCount : Nat)
    (dataView : Window UInt8 m) : Checked (Window UInt8 m) :=
  store.getFieldFromAddress address dataView

def setRegisters (store : MappedRegisterDataStore T) (address _registerCount : Nat)
    (dataView : List UInt8) : Checked (MappedRegisterDataStore T) :=
  store.setFieldFromAddress address dataView

section

variable [TypeConversion]

def getRegister (store : MappedRegisterDataStore T) (address : Nat) : Checked UInt16 := do
  let data : Window UInt8 2 := { cells := #v[0, 0], start := 0, size := 2 }
  let dataView <- store.getRegisters address 1 data
  return makeMSBUint16FromU8Array dataView.cells[0] dataView.cells[1]

def setRegister (store : MappedRegisterDataStore T) (address : Nat) (value : UInt16) :
    Checked (MappedRegisterDataStore T) :=
  store.setRegisters address 1 [getByte value.toNat 1, getByte value.toNat 0]

instance : RegisterData (MappedRegisterDataStore T) where
  readLocationValid := readLocationValid
  writeLocationValid := writeLocationValid
  getRegister := getRegister
  getRegisters := getRegisters
  setRegister := setRegister
  setRegisters := setRegisters

end

end MappedRegisterDataStore

/-- A memory controller that keeps the bytes of its fields: a write replaces the
front of a field, a read copies it. -/
structure ByteFields (offsets endPoints : List Nat) where
  fields : List (List UInt8)
deriving DecidableEq

instance (offsets endPoints : List Nat) : MemoryController (ByteFields offsets endPoints) where
  offsets := offsets
  endPoints := endPoints
  setField controller index data :=
    .ok ⟨controller.fields.modify index fun field =>
      data.take field.length ++ field.drop data.length⟩
  getField controller index window :=
    let bytes := (controller.fields.getD index []).take window.size
    forRange (fun position window => do
      let byte <- loadView bytes position
      window.store position byte) bytes.length window

end Modbus
