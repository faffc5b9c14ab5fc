import ModbusBasic.Protocol.Definitions
import ModbusBasic.Protocol.TypeConversion

namespace Modbus

open TypeConversion

/-!
# The register file a slave stands for

Two banks of 16-bit registers and the four requests a master can make of them.
A request either names registers that are all there, and then it is performed,
or it is refused with an exception and leaves both banks as they were.

Nothing here is translated from the source: there are no frames, buffers,
windows or flags.  `Slave.Session` proves that the slave refines this machine.
-/

/-! ## Banks -/

/-- Registers addressed from `0` on. -/
abbrev Bank (n : Nat) := Fin n -> UInt16

/-- The register is one of the `count` registers from `address` on. -/
def Covers (address count index : Nat) : Prop :=
  address ≤ index ∧ index < address + count

instance (address count index : Nat) : Decidable (Covers address count index) :=
  inferInstanceAs (Decidable (_ ∧ _))

/-- A bank of `n` registers has the first and every further register named. -/
def InRange (n address count : Nat) : Prop :=
  address < n ∧ address + count ≤ n

instance (n address count : Nat) : Decidable (InRange n address count) :=
  inferInstanceAs (Decidable (_ ∧ _))

/-- The 16-bit value of two bytes of some data, most significant byte first. -/
def wordAt (data : List UInt8) (offset : Nat) : UInt16 :=
  UInt16.ofNat (256 * (data.getD (2 * offset) 0).toNat + (data.getD (2 * offset + 1) 0).toNat)

namespace Bank

variable {n : Nat}

def fetch (bank : Bank n) (index : Nat) : UInt16 :=
  if inside : index < n then bank ⟨index, inside⟩ else 0

/-- The values of `count` registers in the order they travel. -/
def bytes (bank : Bank n) (address count : Nat) : List UInt8 :=
  (List.range count).flatMap fun offset => bigEndian (bank.fetch (address + offset)).toNat

def overwrite (bank : Bank n) (address count : Nat) (word : Nat -> UInt16) : Bank n :=
  fun index => if Covers address count index then word (index - address) else bank index

theorem overwrite_outside (bank : Bank n) {address count : Nat} (word : Nat -> UInt16)
    {index : Fin n} (outside : ¬ Covers address count index) :
    bank.overwrite address count word index = bank index :=
  if_neg outside

/-- Overwriting the register behind a range makes the range one longer. -/
theorem overwrite_succ (bank : Bank n) (address count : Nat) (word : Nat -> UInt16) :
    (bank.overwrite address count word).overwrite (address + count) 1 (fun _ => word count) =
      bank.overwrite address (count + 1) word := by
  funext index
  unfold overwrite
  by_cases last : index = address + count
  · rw [if_pos (by unfold Covers; omega), if_pos (by unfold Covers; omega), last,
      Nat.add_sub_cancel_left]
  · rw [if_neg (by unfold Covers; omega)]
    by_cases before : Covers address count index
    · rw [if_pos before, if_pos (by unfold Covers at before ⊢; omega)]
    · rw [if_neg before, if_neg (by unfold Covers at before ⊢; omega)]

@[simp] theorem overwrite_zero (bank : Bank n) (address : Nat) (word : Nat -> UInt16) :
    bank.overwrite address 0 word = bank := by
  funext index
  exact bank.overwrite_outside word (by unfold Covers; omega)

end Bank

/-! ## Requests -/

inductive Request
  | readHolding (address count : UInt16)
  | readInput (address count : UInt16)
  | writeSingle (address value : UInt16)
  | writeMultiple (address count : UInt16) (data : List UInt8)
deriving DecidableEq

namespace Request

def function : Request -> Function
  | readHolding _ _ => .kReadMultipleHoldingRegisters
  | readInput _ _ => .kReadInputRegisters
  | writeSingle _ _ => .kWriteSingleHoldingRegister
  | writeMultiple _ _ _ => .kWriteMultipleHoldingRegisters

/-- The bytes of a request between the function byte and the checksum. -/
def payload : Request -> List UInt8
  | readHolding address count => bigEndian address.toNat ++ bigEndian count.toNat
  | readInput address count => bigEndian address.toNat ++ bigEndian count.toNat
  | writeSingle address value => bigEndian address.toNat ++ bigEndian value.toNat
  | writeMultiple address count data =>
      bigEndian address.toNat ++ bigEndian count.toNat ++ UInt8.ofNat data.length :: data

/-- What banks of `h` holding and `i` input registers answer a request with:
`kAck` when it is performed.  The range is checked before the byte count. -/
def verdict (h i : Nat) : Request -> Exception
  | readHolding address count =>
      if InRange h address.toNat count.toNat then .kAck else .kIllegalDataAddress
  | readInput address count =>
      if InRange i address.toNat count.toNat then .kAck else .kIllegalDataAddress
  | writeSingle address _ =>
      if InRange h address.toNat 1 then .kAck else .kIllegalDataAddress
  | writeMultiple address count data =>
      if ¬ InRange h address.toNat count.toNat then .kIllegalDataAddress
      else if count.toNat * 2 ≠ data.length then .kIllegalDataValue
      else .kAck

section Acknowledged

variable {h i : Nat} {address count value : UInt16} {data : List UInt8}

theorem readHolding_acknowledged :
    (readHolding address count).verdict h i = .kAck <-> InRange h address.toNat count.toNat := by
  rw [verdict, ite_eq_left_iff, imp_iff_not (by decide), not_not]

theorem readInput_acknowledged :
    (readInput address count).verdict h i = .kAck <-> InRange i address.toNat count.toNat := by
  rw [verdict, ite_eq_left_iff, imp_iff_not (by decide), not_not]

theorem writeSingle_acknowledged :
    (writeSingle address value).verdict h i = .kAck <-> InRange h address.toNat 1 := by
  rw [verdict, ite_eq_left_iff, imp_iff_not (by decide), not_not]

theorem writeMultiple_acknowledged :
    (writeMultiple address count data).verdict h i = .kAck <->
      InRange h address.toNat count.toNat ∧ count.toNat * 2 = data.length := by
  by_cases inRange : InRange h address.toNat count.toNat
  · simp [verdict, inRange]
  · simp [verdict, inRange]

end Acknowledged

/-- The registers a request may change. -/
def Names : Request -> Nat -> Prop
  | writeSingle address _, index => Covers address.toNat 1 index
  | writeMultiple address count _, index => Covers address.toNat count.toNat index
  | _, _ => False

instance : (request : Request) -> (index : Nat) -> Decidable (request.Names index)
  | writeSingle _ _, _ => inferInstanceAs (Decidable (Covers _ _ _))
  | writeMultiple _ _ _, _ => inferInstanceAs (Decidable (Covers _ _ _))
  | readHolding _ _, _ => isFalse id
  | readInput _ _, _ => isFalse id

/-- An acknowledged request names registers of the holding bank only. -/
theorem names_lt {h i : Nat} {request : Request} (acknowledged : request.verdict h i = .kAck)
    {index : Nat} (names : request.Names index) : index < h := by
  cases request with
  | readHolding address count => exact False.elim names
  | readInput address count => exact False.elim names
  | writeSingle address value =>
      exact Nat.lt_of_lt_of_le names.2 (writeSingle_acknowledged.mp acknowledged).2
  | writeMultiple address count data =>
      exact Nat.lt_of_lt_of_le names.2 (writeMultiple_acknowledged.mp acknowledged).1.2

/-- The number of registers a request asks to read. -/
def readCount : Request -> Nat
  | readHolding _ count => count.toNat
  | readInput _ count => count.toNat
  | _ => 0

end Request

/-! ## The machine -/

structure RegisterFile (h i : Nat) where
  holding : Bank h
  input : Bank i

namespace RegisterFile

variable {h i : Nat}

/-- The holding registers after a request that is performed. -/
def update (file : RegisterFile h i) : Request -> Bank h
  | .writeSingle address value => file.holding.overwrite address.toNat 1 fun _ => value
  | .writeMultiple address count data =>
      file.holding.overwrite address.toNat count.toNat (wordAt data)
  | _ => file.holding

/-- The bytes of the reply behind the function byte when a request is performed:
the values read, or the head of the request again. -/
def answer (file : RegisterFile h i) : Request -> List UInt8
  | .readHolding address count =>
      UInt8.ofNat (count.toNat * 2) :: file.holding.bytes address.toNat count.toNat
  | .readInput address count =>
      UInt8.ofNat (count.toNat * 2) :: file.input.bytes address.toNat count.toNat
  | .writeSingle address value => bigEndian address.toNat ++ bigEndian value.toNat
  | .writeMultiple address count _ => bigEndian address.toNat ++ bigEndian count.toNat

/-- One request: the next registers and the reply from the function byte on. -/
def perform (file : RegisterFile h i) (request : Request) : RegisterFile h i × List UInt8 :=
  match request.verdict h i with
  | .kAck => ({ file with holding := file.update request },
      request.function.code :: file.answer request)
  | exception => (file, [request.function.code + 0x80, exception.code])

theorem perform_ack (file : RegisterFile h i) {request : Request}
    (acknowledged : request.verdict h i = .kAck) :
    file.perform request = ({ file with holding := file.update request },
      request.function.code :: file.answer request) := by
  rw [perform, acknowledged]

theorem perform_refused (file : RegisterFile h i) {request : Request}
    (refused : request.verdict h i ≠ .kAck) :
    file.perform request =
      (file, [request.function.code + 0x80, (request.verdict h i).code]) := by
  unfold perform
  cases verdict : request.verdict h i with
  | kAck => exact absurd verdict refused
  | _ => rfl

/-- A performed request changes no register it does not name. -/
theorem update_outside (file : RegisterFile h i) {request : Request} {index : Fin h}
    (outside : ¬ request.Names index) : file.update request index = file.holding index := by
  cases request with
  | readHolding address count => rfl
  | readInput address count => rfl
  | writeSingle address value =>
      exact Bank.overwrite_outside file.holding (fun _ => value) outside
  | writeMultiple address count data =>
      exact Bank.overwrite_outside file.holding (wordAt data) outside

end RegisterFile

end Modbus
