import ModbusBasic.Registers.RequestHandling

namespace Modbus

open Memory TypeConversion

/-!
# Executing requests on stores

`Executes` is the big-step view of the handlers: the store operations behind a
request complete, with a next store and the bytes of the reply behind the
function byte.  It is stated for any pair of stores.  For the two stores of the
library every acknowledged request executes; when they have at most `65536`
registers it does so as on the register file (`executes_registerFile`).
-/

variable [TypeConversion] {H I : Type} [RegisterCallbacks H] [RegisterData I] {n h i : Nat}

inductive Executes (holding : H) (input : I) : Request -> H -> List UInt8 -> Prop
  | readHolding {address count : UInt16} {bytes : List UInt8}
      (valid : RegisterData.readLocationValid holding address.toNat count.toNat = true)
      (short : count.toNat ≤ 126) (reads : Reads holding address.toNat count.toNat bytes) :
      Executes holding input (.readHolding address count) holding
        (UInt8.ofNat (count.toNat * 2) :: bytes)
  | readInput {address count : UInt16} {bytes : List UInt8}
      (valid : RegisterData.readLocationValid input address.toNat count.toNat = true)
      (short : count.toNat ≤ 126) (reads : Reads input address.toNat count.toNat bytes) :
      Executes holding input (.readInput address count) holding
        (UInt8.ofNat (count.toNat * 2) :: bytes)
  | writeSingle {address value : UInt16} {middle next : H}
      (stored : RegisterData.setRegister holding address.toNat value = .ok middle)
      (notified : RegisterCallbacks.setRegisterCallback middle address.toNat value = .ok next) :
      Executes holding input (.writeSingle address value) next
        (bigEndian address.toNat ++ bigEndian value.toNat)
  | writeMultiple {address count : UInt16} {data : List UInt8} {middle next : H}
      (size : data.length = count.toNat * 2)
      (stored : RegisterData.setRegisters holding address.toNat count.toNat data = .ok middle)
      (notified : RegisterCallbacks.setRegistersCallback middle address.toNat count.toNat data =
        .ok next) :
      Executes holding input (.writeMultiple address count data) next
        (bigEndian address.toNat ++ bigEndian count.toNat)

/-- The reply data: the byte count and the values of a read, or two fields. -/
theorem Executes.data_length {holding next : H} {input : I} {request : Request}
    {data : List UInt8} (executes : Executes holding input request next data) :
    data.length = 2 * request.readCount + 1 ∨ data.length = 4 := by
  cases executes with
  | readHolding valid short reads => exact Or.inl (congrArg (· + 1) reads.1)
  | readInput valid short reads => exact Or.inl (congrArg (· + 1) reads.1)
  | writeSingle stored notified => exact Or.inr rfl
  | writeMultiple size stored notified => exact Or.inr rfl

/-! ## The controllers execute requests -/

section Controllers

variable {holding next : H} {input : I} {frame : Frame n} {slaveAddress : UInt8}
  {request : Request} {footer data : List UInt8} {response : Response}

theorem HoldingRegisterController.readFrame_executes
    (executes : Executes holding input request next data)
    (mapped : getAddressSpaceFromFunction request.function = .kHoldingRegister)
    (holds : Holds frame slaveAddress request.function (request.payload ++ footer))
    (inside : response.Inside) :
    Exists fun reply =>
      (⟨holding⟩ : HoldingRegisterController H).readFrame frame response = .ok (0, ⟨next⟩, reply) ∧
        Filled reply data := by
  cases executes with
  | readInput valid short reads => cases mapped
  | @readHolding address count bytes valid short reads =>
      have fields : Holds frame slaveAddress .kReadMultipleHoldingRegisters
        (bigEndian address.toNat ++ (bigEndian count.toNat ++ footer)) := holds
      have notSingle : frame.function ≠ .kWriteSingleHoldingRegister := by
        rw [fields.function_eq]
        decide
      rcases runReadMultipleHoldingRegisters_ok ⟨holding⟩ inside fields valid reads short with
        ⟨reply, completes, filled⟩
      refine ⟨reply, ?_, filled⟩
      rw [readFrame, if_neg notSingle, if_pos fields.function_eq, completes, ok_bind]
      rfl
  | @writeSingle address value middle next stored notified =>
      have fields : Holds frame slaveAddress .kWriteSingleHoldingRegister
        (bigEndian address.toNat ++ (bigEndian value.toNat ++ footer)) := holds
      rw [readFrame, if_pos fields.function_eq]
      exact runWriteSingleHoldingRegister_ok ⟨holding⟩ inside fields stored notified
  | @writeMultiple address count data middle next size stored notified =>
      have fields : Holds frame slaveAddress .kWriteMultipleHoldingRegisters
        (bigEndian address.toNat ++ (bigEndian count.toNat ++
          (UInt8.ofNat data.length :: (data ++ footer)))) := holds
      have notRead : frame.function ≠ .kReadMultipleHoldingRegisters := by
        rw [fields.function_eq]
        decide
      have notSingle : frame.function ≠ .kWriteSingleHoldingRegister := by
        rw [fields.function_eq]
        decide
      rw [readFrame, if_neg notSingle, if_neg notRead, if_pos fields.function_eq]
      exact runWriteMultipleHoldingRegisters_ok ⟨holding⟩ inside fields size stored notified

theorem InputRegisterController.readFrame_executes
    (executes : Executes holding input request next data)
    (mapped : getAddressSpaceFromFunction request.function = .kInputRegister)
    (holds : Holds frame slaveAddress request.function (request.payload ++ footer))
    (inside : response.Inside) :
    next = holding ∧ Exists fun reply =>
      (⟨input⟩ : InputRegisterController I).readFrame frame response = .ok (0, reply) ∧
        Filled reply data := by
  cases executes with
  | readHolding valid short reads => cases mapped
  | writeSingle stored notified => cases mapped
  | writeMultiple size stored notified => cases mapped
  | @readInput address count bytes valid short reads =>
      have fields : Holds frame slaveAddress .kReadInputRegisters
        (bigEndian address.toNat ++ (bigEndian count.toNat ++ footer)) := holds
      rcases runReadInputRegisters_ok ⟨input⟩ inside fields valid reads short with
        ⟨reply, completes, filled⟩
      refine ⟨rfl, reply, ?_, filled⟩
      rw [readFrame, if_neg (not_not.mpr fields.function_eq), completes]

end Controllers

/-! ## The stores of the library -/

theorem RegisterDataStore.ranged (store : RegisterDataStore n) : Ranged store n where
  read address count := by
    rw [← Bool.coe_iff_coe, decide_eq_true_iff]
    exact store.readLocationValid_iff address count
  write address count := by
    rw [← Bool.coe_iff_coe, decide_eq_true_iff]
    exact store.readLocationValid_iff address count

theorem UpdatingRegisterDataStore.ranged (store : UpdatingRegisterDataStore n) :
    Ranged store n where
  read := store.toRegisterDataStore.ranged.read
  write := store.toRegisterDataStore.ranged.write

/-- The register file kept in the two stores of a slave. -/
def registerFile (holding : UpdatingRegisterDataStore h) (input : RegisterDataStore i) :
    RegisterFile h i :=
  { holding := holding.toRegisterDataStore.bank, input := input.bank }

section Stores

variable (holding : UpdatingRegisterDataStore h) (input : RegisterDataStore i)

/-- A write to the base store and then a raised flag are a single write. -/
private theorem executes_writeSingle {base : RegisterDataStore h}
    {next : UpdatingRegisterDataStore h} {address value : UInt16}
    (stored : holding.toRegisterDataStore.setRegister address.toNat value = .ok base)
    (raised : { holding with toRegisterDataStore := base }.setRegisterCallback address.toNat value =
      .ok next) :
    Executes holding input (.writeSingle address value) next
      (bigEndian address.toNat ++ bigEndian value.toNat) := by
  refine .writeSingle ?_ raised
  change holding.setRegister address.toNat value = _
  rw [UpdatingRegisterDataStore.setRegister, stored, ok_bind, pure_eq_ok]

private theorem executes_writeMultiple {base : RegisterDataStore h}
    {next : UpdatingRegisterDataStore h} {address count : UInt16} {data : List UInt8}
    (size : data.length = count.toNat * 2)
    (stored : holding.toRegisterDataStore.setRegisters address.toNat count.toNat data = .ok base)
    (raised : { holding with toRegisterDataStore := base }.setRegistersCallback address.toNat
      count.toNat data = .ok next) :
    Executes holding input (.writeMultiple address count data) next
      (bigEndian address.toNat ++ bigEndian count.toNat) := by
  refine .writeMultiple size ?_ raised
  change holding.setRegisters address.toNat count.toNat data = _
  rw [UpdatingRegisterDataStore.setRegisters, stored, ok_bind, pure_eq_ok]

/-- Acknowledged requests execute, however many registers there are, and raise
the flags at the 16-bit addresses of the registers they name. -/
theorem executes_acknowledged {request : Request} (acknowledged : request.verdict h i = .kAck)
    (short : request.readCount ≤ 126) :
    Exists fun next => Exists fun data => Executes holding input request next data ∧
      forall index : Fin h, next.flagged index = true <->
        holding.flagged index = true ∨
          Exists fun register => request.Names register ∧ index.val = register % 65536 := by
  cases request with
  | readHolding address count =>
      have inRange := Request.readHolding_acknowledged.mp acknowledged
      have valid := (holding.ranged.read address count).trans (decide_eq_true inRange)
      exact ⟨_, _, .readHolding valid short
        (holding.toRegisterDataStore.reads_wrapped inRange.2
          (RegisterDataStore.two_mul_lt_modulus count)),
        fun index => (or_iff_left fun ⟨_, names, _⟩ => names).symm⟩
  | readInput address count =>
      have inRange := Request.readInput_acknowledged.mp acknowledged
      have valid := (input.ranged.read address count).trans (decide_eq_true inRange)
      exact ⟨_, _, .readInput valid short
        (input.reads_wrapped inRange.2 (RegisterDataStore.two_mul_lt_modulus count)),
        fun index => (or_iff_left fun ⟨_, names, _⟩ => names).symm⟩
  | writeSingle address value =>
      have inRange := Request.writeSingle_acknowledged.mp acknowledged
      rcases holding.toRegisterDataStore.setRegister_wrapped inRange.1 value with
        ⟨base, stored, _⟩
      rcases { holding with toRegisterDataStore := base }.setRegisterCallback_wrapped inRange.1
        value with ⟨next, raised, _, flags⟩
      exact ⟨next, _, executes_writeSingle holding input stored raised, flags⟩
  | writeMultiple address count data =>
      have admitted := Request.writeMultiple_acknowledged.mp acknowledged
      have size : data.length = 2 * count.toNat := by
        rw [← admitted.2, Nat.mul_comm]
      rcases holding.toRegisterDataStore.setRegisters_completes admitted.1.2 size with
        ⟨base, stored⟩
      rcases { holding with toRegisterDataStore := base }.setRegistersCallback_wrapped
        admitted.1.2 data with ⟨next, raised, _, flags⟩
      exact ⟨next, _, executes_writeMultiple holding input admitted.2.symm stored raised, flags⟩

omit [TypeConversion] in
/-- In a small bank every register is reached by its own address. -/
theorem names_wrapped (small : h ≤ 65536) {request : Request}
    (acknowledged : request.verdict h i = .kAck) (index : Fin h) :
    (Exists fun register => request.Names register ∧ index.val = register % 65536) <->
      request.Names index := by
  constructor
  · rintro ⟨register, names, reached⟩
    have inside := Request.names_lt acknowledged names
    rw [Nat.mod_eq_of_lt (Nat.lt_of_lt_of_le inside small)] at reached
    rw [reached]
    exact names
  · intro names
    exact ⟨index, names, (Nat.mod_eq_of_lt (Nat.lt_of_lt_of_le index.isLt small)).symm⟩

/-- On stores of at most `65536` registers an acknowledged request executes as
the register file performs it, and raises exactly the flags of the registers it
names. -/
theorem executes_registerFile (holdingSmall : h ≤ 65536) (inputSmall : i ≤ 65536)
    {request : Request} (acknowledged : request.verdict h i = .kAck)
    (short : request.readCount ≤ 126) :
    Exists fun next =>
      Executes holding input request next ((registerFile holding input).answer request) ∧
      next.toRegisterDataStore.bank = (registerFile holding input).update request ∧
      forall index : Fin h, next.flagged index = true <->
        holding.flagged index = true ∨ request.Names index := by
  cases request with
  | readHolding address count =>
      have inRange := Request.readHolding_acknowledged.mp acknowledged
      have valid := (holding.ranged.read address count).trans (decide_eq_true inRange)
      exact ⟨holding, .readHolding valid short
        (holding.toRegisterDataStore.reads_bank inRange.2 (Nat.le_trans inRange.2 holdingSmall)), rfl,
        fun index => (or_iff_left id).symm⟩
  | readInput address count =>
      have inRange := Request.readInput_acknowledged.mp acknowledged
      have valid := (input.ranged.read address count).trans (decide_eq_true inRange)
      exact ⟨holding, .readInput valid short
        (input.reads_bank inRange.2 (Nat.le_trans inRange.2 inputSmall)), rfl,
        fun index => (or_iff_left id).symm⟩
  | writeSingle address value =>
      have inRange := Request.writeSingle_acknowledged.mp acknowledged
      rcases holding.toRegisterDataStore.setRegister_bank inRange.1
        (Nat.lt_of_lt_of_le inRange.1 holdingSmall) value with
        ⟨base, stored, written⟩
      rcases { holding with toRegisterDataStore := base }.setRegisterCallback_wrapped inRange.1
        value with ⟨next, raised, kept, flags⟩
      refine ⟨next, executes_writeSingle holding input stored raised, ?_, fun index => ?_⟩
      · rw [kept]
        exact written
      · exact (flags index).trans
          (or_congr_right (names_wrapped holdingSmall acknowledged index))
  | writeMultiple address count data =>
      have admitted := Request.writeMultiple_acknowledged.mp acknowledged
      have size : data.length = 2 * count.toNat := by
        rw [← admitted.2, Nat.mul_comm]
      rcases holding.toRegisterDataStore.setRegisters_bank admitted.1.2
        (Nat.le_trans admitted.1.2 holdingSmall) size with
        ⟨base, stored, written⟩
      rcases { holding with toRegisterDataStore := base }.setRegistersCallback_wrapped
        admitted.1.2 data with ⟨next, raised, kept, flags⟩
      refine ⟨next, executes_writeMultiple holding input admitted.2.symm stored raised, ?_,
        fun index => ?_⟩
      · rw [kept]
        exact written
      · exact (flags index).trans
          (or_congr_right (names_wrapped holdingSmall acknowledged index))

end Stores

end Modbus
