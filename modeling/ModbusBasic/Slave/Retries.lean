import ModbusBasic.Slave.Exchange
import ModbusBasic.Slave.History

namespace Modbus

open Memory TypeConversion Transition

/-!
# Repeating a call

A reply that is lost on its way back leaves a master in doubt, and all it can do
is call again.  Every call is idempotent: whatever is repeated, and however
often, the answers are those of the first time and the slave ends as if nothing
had been repeated.
-/

variable {h i : Nat}

namespace Bank

variable {n : Nat}

theorem overwrite_again (bank : Bank n) (address count : Nat) (word : Nat -> UInt16) :
    (bank.overwrite address count word).overwrite address count word =
      bank.overwrite address count word := by
  funext index
  by_cases covered : Covers address count index
  · rw [overwrite, overwrite, if_pos covered, if_pos covered]
  · exact overwrite_outside _ word covered

end Bank

/-- A call that is refused or reads leaves the registers as they were; one that
writes writes the same again. -/
theorem RegisterFile.call_again (file : RegisterFile h i) (call : RegisterCall) :
    (file.call call).1.call call = file.call call := by
  cases call with
  | readHolding address count =>
      have kept : (file.call (.readHolding address count)).1 = file := by
        rw [RegisterFile.call]
        split <;> rfl
      rw [kept]
  | readInput address count =>
      have kept : (file.call (.readInput address count)).1 = file := by
        rw [RegisterFile.call]
        split <;> rfl
      rw [kept]
  | writeSingle address value =>
      by_cases inRange : InRange h address.toNat 1
      · simp only [RegisterFile.call, if_pos inRange, Bank.overwrite_again]
      · simp only [RegisterFile.call, if_neg inRange]
  | writeMultiple address values =>
      by_cases inRange : InRange h address.toNat values.length
      · simp only [RegisterFile.call, if_pos inRange, Bank.overwrite_again]
      · simp only [RegisterFile.call, if_neg inRange]

/-- Nothing is marked by a request that it would not mark again. -/
theorem Station.called_again (station : Station h i) (address : UInt8) (call : RegisterCall) :
    (station.called address call).1.called address call = station.called address call := by
  by_cases addressed : address = station.slaveAddress
  · have marked (next : Station h i) (dirty : next.dirty = station.mark call.request) :
        next.mark call.request = station.mark call.request := by
      funext register
      rw [mark, dirty, mark, Bool.or_assoc, Bool.or_self]
    simp only [called, if_pos addressed, RegisterFile.call_again]
    rw [marked _ rfl]
  · simp only [called, if_neg addressed]

/-! ## Any number of calls -/

namespace ProtocolRtuSlave

variable [TypeConversion] {crc16 : Crc16}

/-- Calls of one address, one after another. -/
theorem trace_exchange (depends : crc16.DependsOnPrefix) (holdingSmall : h ≤ 65536)
    (inputSmall : i ≤ 65536) {slave : Stores h i} {station : Station h i}
    (stands : slave.StandsFor station) (address : UInt8) {calls : List RegisterCall}
    (bounded : forall call, call ∈ calls -> call.Bounded) :
    Exists fun final => trace (exchange crc16 address) slave calls =
        .ok (final, (behaviour (fun station => Station.called station address) station calls).2) ∧
      final.StandsFor (behaviour (fun station => Station.called station address) station calls).1 :=
  trace_refines (exchange crc16 address) (fun station => Station.called station address)
    RegisterCall.Bounded (fun station slave => slave.StandsFor station)
    (fun _ _ _ stands => exchange_called depends holdingSmall inputSmall stands address)
    stands bounded

end ProtocolRtuSlave

end Modbus
