import ModbusBasic.Memory.SizeT
import ModbusBasic.Protocol.TypeConversion

namespace Modbus

open Memory TypeConversion

/-!
# Register stores

`RegisterDataStore` and `UpdatingRegisterDataStore`.  The source keeps a
pointer and a length; here the length is the index `n` of the type, and the
flags of an updating store have the same one by construction.

Addresses are `size_t` at the interface but `GetIndex` takes a `uint16_t`, so
every access is made at the address modulo `65536`.
-/

/-- What the register controllers ask of a data store. -/
class RegisterData (T : Type) where
  readLocationValid : T -> Nat -> Nat -> Bool
  writeLocationValid : T -> Nat -> Nat -> Bool
  getRegister : T -> Nat -> Checked UInt16
  getRegisters {m : Nat} : T -> Nat -> Nat -> Window UInt8 m -> Checked (Window UInt8 m)
  setRegister : T -> Nat -> UInt16 -> Checked T
  setRegisters : T -> Nat -> Nat -> List UInt8 -> Checked T

/-- The two notifications a holding register controller sends after a write. -/
class RegisterCallbacks (T : Type) extends RegisterData T where
  setRegisterCallback : T -> Nat -> UInt16 -> Checked T
  setRegistersCallback : T -> Nat -> Nat -> List UInt8 -> Checked T

namespace DataStore

def kAddressStart : Nat := 0

def getAddressStart : Nat := kAddressStart

end DataStore

structure RegisterDataStore (n : Nat) where
  dataStore : Vector UInt16 n
deriving DecidableEq

namespace RegisterDataStore

variable {n m : Nat}

def getIndex (address : UInt16) : Nat := address.toNat - DataStore.getAddressStart

def getSize (_store : RegisterDataStore n) : Nat := n

def isAddressValid (store : RegisterDataStore n) (address : Nat) : Bool :=
  SizeT.add address 1 ≤ DataStore.getAddressStart + store.getSize

def readLocationValid (store : RegisterDataStore n) (address count : Nat) : Bool :=
  store.isAddressValid address &&
    store.isAddressValid (SizeT.sub (SizeT.add address count) 1)

def writeLocationValid (store : RegisterDataStore n) (address count : Nat) : Bool :=
  store.readLocationValid address count

def getRegister (store : RegisterDataStore n) (address : Nat) : Checked UInt16 :=
  load store.dataStore (getIndex (UInt16.ofNat address))

def setRegister (store : RegisterDataStore n) (address : Nat) (value : UInt16) :
    Checked (RegisterDataStore n) := do
  let dataStore <- Memory.store store.dataStore (getIndex (UInt16.ofNat address)) value
  return ⟨dataStore⟩

section

variable [TypeConversion]

/-- The loop counts bytes; each round writes the two bytes of one register. -/
def getRegisters (store : RegisterDataStore n) (address registerCount : Nat)
    (dataView : Window UInt8 m) : Checked (Window UInt8 m) :=
  let numDataBytes := SizeT.mul registerCount 2
  forRange (fun index dataView => do
    let state <- store.getRegister (address + index)
    let dataView <- dataView.store (2 * index) (getByte state.toNat 1)
    dataView.store (2 * index + 1) (getByte state.toNat 0)) (numDataBytes / 2) dataView

def setRegisters (store : RegisterDataStore n) (address registerCount : Nat)
    (dataView : List UInt8) : Checked (RegisterDataStore n) :=
  forRange (fun index store => do
    let byteIndex := index * 2
    let high <- loadView dataView byteIndex
    let low <- loadView dataView (byteIndex + 1)
    let value := makeMSBUint16FromU8Array high low
    store.setRegister (address + index) value) registerCount store

instance : RegisterData (RegisterDataStore n) where
  readLocationValid := readLocationValid
  writeLocationValid := writeLocationValid
  getRegister := getRegister
  getRegisters := getRegisters
  setRegister := setRegister
  setRegisters := setRegisters

end

end RegisterDataStore

structure UpdatingRegisterDataStore (n : Nat) extends RegisterDataStore n where
  flags : Vector Bool n
deriving DecidableEq

namespace UpdatingRegisterDataStore

variable {n : Nat}

def setRegister (store : UpdatingRegisterDataStore n) (address : Nat) (value : UInt16) :
    Checked (UpdatingRegisterDataStore n) := do
  let base <- store.toRegisterDataStore.setRegister address value
  return { store with toRegisterDataStore := base }

def setRegisters [TypeConversion] (store : UpdatingRegisterDataStore n)
    (address registerCount : Nat) (dataView : List UInt8) :
    Checked (UpdatingRegisterDataStore n) := do
  let base <- store.toRegisterDataStore.setRegisters address registerCount dataView
  return { store with toRegisterDataStore := base }

/-- `flags_.first[std::min(address, flags_.second - 1)]`. -/
def flagSet (store : UpdatingRegisterDataStore n) (address : Nat) : Checked Bool :=
  load store.flags (min address (SizeT.sub n 1))

/-- `flags_.first[GetIndex(address)] = true`. -/
def raiseFlag (store : UpdatingRegisterDataStore n) (address : Nat) :
    Checked (UpdatingRegisterDataStore n) := do
  let flags <- Memory.store store.flags (RegisterDataStore.getIndex (UInt16.ofNat address)) true
  return { store with flags := flags }

def setRegisterCallback (store : UpdatingRegisterDataStore n) (address : Nat) (_value : UInt16) :
    Checked (UpdatingRegisterDataStore n) :=
  store.raiseFlag address

def setRegistersCallback (store : UpdatingRegisterDataStore n) (address registerCount : Nat)
    (_dataView : List UInt8) : Checked (UpdatingRegisterDataStore n) :=
  forRange (fun index store => store.raiseFlag (address + index)) registerCount store

/-- The cells of `[flags_.first, flags_.first + flags_.second - 1)`.  For an
empty store the range ends before it starts. -/
def summarised (store : UpdatingRegisterDataStore n) : Checked (List Bool) :=
  if n = 0 then .error ⟨0, 0⟩ else .ok (store.flags.toList.take (n - 1))

/-- `std::any_of` over the summarised range. -/
def newDataAvailable (store : UpdatingRegisterDataStore n) : Checked Bool := do
  let range <- store.summarised
  return range.any id

/-- `std::fill` of the summarised range with `false`. -/
def clearNewDataFlags (store : UpdatingRegisterDataStore n) :
    Checked (UpdatingRegisterDataStore n) := do
  let range <- store.summarised
  let flags <- forRange (fun index flags => Memory.store flags index false) range.length store.flags
  return { store with flags := flags }

instance [TypeConversion] : RegisterCallbacks (UpdatingRegisterDataStore n) where
  readLocationValid store := store.toRegisterDataStore.readLocationValid
  writeLocationValid store := store.toRegisterDataStore.writeLocationValid
  getRegister store := store.toRegisterDataStore.getRegister
  getRegisters store := store.toRegisterDataStore.getRegisters
  setRegister := setRegister
  setRegisters := setRegisters
  setRegisterCallback := setRegisterCallback
  setRegistersCallback := setRegistersCallback

end UpdatingRegisterDataStore

end Modbus
