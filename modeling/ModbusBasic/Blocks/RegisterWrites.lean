import ModbusBasic.Blocks.RegisterArray
import ModbusBasic.Transition.LastWrite

namespace Modbus

open Memory Transition

/-!
# Runs of register writes

Any number of accepted writes, and then a read.  As long as every access starts
at its pair the blocks are an array of registers.  `IsArray.written_iff` shows
that no other access writes the registers it names.
-/

/-- A call of `write`. -/
structure RegisterWrite where
  address : Nat
  length : Nat
  data : U8Buffer

/-- What the call should leave in a register. -/
def RegisterWrite.written (call : RegisterWrite) (index : Nat) : Option (UInt8 × UInt8) :=
  if call.address ≤ index ∧ index < call.address + call.length then
    some (call.data.register (index - call.address))
  else none

namespace RegisterController

variable {controller : RegisterController} {call : RegisterWrite} {block : U8Field}

def perform (controller : RegisterController) (call : RegisterWrite) :
    Checked RegisterController := do
  let written <- controller.write call.address call.length call.data
  return written.2

/-- The call is accepted, it writes a register, and its data suffice. -/
def Accepts (controller : RegisterController) (call : RegisterWrite) : Prop :=
  controller.accessValid call.address call.length = .ok true ∧ 0 < call.length ∧
    2 * call.length ≤ call.data.size

theorem Accepts.length_lt (accepts : controller.Accepts call) : call.length < SizeT.modulus := by
  have room := accepts.2.2
  have small := call.data.size_lt
  omega

/-- One write leaves in every register what it should. -/
theorem IsArray.perform_written (isArray : controller.IsArray) (accepts : controller.Accepts call)
    (starts : controller.StartsAtPair call.address call.length) :
    Exists fun next => controller.perform call = .ok next ∧ next.IsArray ∧
      forall index, next.register index = (call.written index).or (controller.register index) := by
  rcases isArray.paired accepts.1 starts accepts.length_lt with ⟨block, paired⟩
  rcases paired.write accepts.1 accepts.2.2 with ⟨buffer, _, completes, kept, contents⟩
  refine ⟨_, ?_, isArray.setBuffer paired.located kept, fun index => ?_⟩
  · rw [perform, completes]
    rfl
  · have twice := paired.twice
    have inside := paired.inside
    rw [register_setBuffer, RegisterWrite.written]
    by_cases here : controller.controller.owner index =
        controller.controller.findBlock call.address call.length
    · rw [if_pos here, register, here, paired.located, Option.map_some, Option.map_some, contents]
      by_cases covered : call.address ≤ index ∧ index < call.address + call.length
      · rw [if_pos covered, if_pos (by omega), Option.some_or, Nat.sub_sub,
          show block.address + block.address = call.address by omega]
      · rw [if_neg covered, if_neg (by omega), Option.none_or]
    · have outside : ¬ (call.address ≤ index ∧ index < call.address + call.length) :=
        fun covered => here (paired.owner_eq isArray (by omega) (by omega))
      rw [if_neg here, if_neg outside, Option.none_or]

/-- Data for this many registers whose first byte differs from the given one, and
no other does. -/
def probe (stale : UInt8) (length : Nat) (representable : 2 * length < SizeT.modulus) :
    U8Buffer where
  size := 2 * length
  buffer := Vector.ofFn fun index => if index.val = 0 then stale + 1 else stale
  size_lt := representable

theorem probe_getD (stale : UInt8) {length index : Nat}
    (representable : 2 * length < SizeT.modulus) (before : index < 2 * length) :
    (probe stale length representable).bytes.getD index 0 =
      if index = 0 then stale + 1 else stale := by
  have inside : index < (probe stale length representable).bytes.length := by
    rw [U8Buffer.bytes_length]
    exact before
  rw [List.getD_eq_getElem?_getD, List.getElem?_eq_getElem inside, Option.getD_some]
  simp only [U8Buffer.bytes, probe, Vector.getElem_toList, Vector.getElem_ofFn]

theorem self_ne_add_one (value : UInt8) : value ≠ value + 1 := by
  intro same
  have values := congrArg UInt8.toNat same
  have bound := value.toNat_lt
  rw [UInt8.toNat_add] at values
  change value.toNat = (value.toNat + 1) % 256 at values
  omega

/-- Only the accesses that start at their pair write the register they name,
whatever the data. -/
theorem IsArray.startsAtPair_of_written (isArray : controller.IsArray) {address length : Nat}
    (valid : controller.accessValid address length = .ok true) (positive : 0 < length)
    (representable : 2 * length < SizeT.modulus)
    (writes : forall data : U8Buffer, 2 * length ≤ data.size ->
      Exists fun next => controller.perform ⟨address, length, data⟩ = .ok next ∧
        next.register address = some (data.register 0)) :
    controller.StartsAtPair address length := by
  rcases ByteFieldController.accessValid_eq_ok.mp valid with ⟨block, isFound, accepted⟩
  have starts := (accepted.mp rfl).1
  rcases isArray.found_holds isFound starts with ⟨nonempty, fits, holds⟩
  have size := isArray.size block (ByteFieldController.found_mem isFound)
  have small := block.buffer.size_lt
  -- The byte the first one of the data belongs to, and data that change it.
  let stale := block.buffer.bytes.getD (2 * (address - block.address)) 0
  let data := probe stale length representable
  have count : transferLength data block.buffer length = min length block.length := by
    rw [transferLength_eq, size]
    change min length (min (2 * length / 2) _) = _
    omega
  rcases writes data (Nat.le_refl _) with ⟨next, performed, shown⟩
  rw [perform, write_eq valid isFound, count] at performed
  rcases bind_eq_ok.mp performed with ⟨_, written, same⟩
  rcases bind_eq_ok.mp written with ⟨buffer, copied, done⟩
  cases done
  cases same
  have room := (copyRegisters_completes_iff SizeT.modulus_pos (by omega)).mp ⟨buffer, copied⟩
  have inside := (room (by omega)).2
  refine ⟨block, isFound, ?_, by omega⟩
  by_contra notTwice
  have located := getElem?_found isFound length
  have owner := isArray.separate.owner_eq located starts holds
  rw [register_setBuffer, if_pos owner, located, Option.map_some] at shown
  have firsts : buffer.bytes.getD (2 * (address - block.address)) 0 = data.bytes.getD 0 0 :=
    congrArg Prod.fst (Option.some.inj shown)
  rcases copyRegisters_ok room with ⟨again, copiedAgain, _, contents⟩
  rw [copied] at copiedAgain
  cases copiedAgain
  -- The loop writes another byte of the data there, or none.
  have kept : buffer.bytes.getD (2 * (address - block.address)) 0 = stale := by
    have dataFits : 0 + 2 * min length block.length ≤ data.bytes.length := by
      rw [U8Buffer.bytes_length]
      exact (room (by omega)).1
    rw [← block.buffer.bytes_length] at inside
    rw [contents, getD_splice_slice _ _ 0 dataFits inside]
    split
    · rw [probe_getD stale representable (by omega), if_neg (by omega)]
    · rfl
  rw [kept, probe_getD stale representable (by omega), if_pos rfl] at firsts
  exact self_ne_add_one stale firsts

/-- An accepted access writes the registers it names, whatever the data, exactly
when it starts at its pair. -/
theorem IsArray.written_iff (isArray : controller.IsArray) {address length : Nat}
    (valid : controller.accessValid address length = .ok true) (positive : 0 < length)
    (representable : 2 * length < SizeT.modulus) :
    (forall data : U8Buffer, 2 * length ≤ data.size ->
        Exists fun next => controller.perform ⟨address, length, data⟩ = .ok next ∧
          forall index, next.register index =
            (RegisterWrite.written ⟨address, length, data⟩ index).or
              (controller.register index)) <->
      controller.StartsAtPair address length := by
  constructor
  · intro writes
    refine isArray.startsAtPair_of_written valid positive representable fun data room => ?_
    rcases writes data room with ⟨next, performed, shown⟩
    refine ⟨next, performed, ?_⟩
    rw [shown, RegisterWrite.written]
    change (if address ≤ address ∧ address < address + length then _ else _ : Option _).or _ = _
    rw [if_pos ⟨Nat.le_refl address, Nat.lt_add_of_pos_right positive⟩, Option.some_or,
      Nat.sub_self]
  · intro starts data room
    have accepts : controller.Accepts ⟨address, length, data⟩ := ⟨valid, positive, room⟩
    rcases isArray.perform_written accepts starts with ⟨next, performed, _, shown⟩
    exact ⟨next, performed, shown⟩

/-! ## Writes to disjoint ranges -/

theorem ext_entries {first second : RegisterController} (same : first.entries = second.entries) :
    first = second := by
  rcases first with ⟨⟨entries, sorted⟩⟩
  rcases second with ⟨⟨others, sortedOthers⟩⟩
  cases same
  rfl

theorem setBuffer_comm (controller : RegisterController) {place other : Nat}
    (different : place ≠ other) (buffer otherBuffer : U8Buffer) :
    (controller.setBuffer place buffer).setBuffer other otherBuffer =
      (controller.setBuffer other otherBuffer).setBuffer place buffer := by
  apply ext_entries
  apply List.ext_getElem?
  intro index
  rw [getElem?_setBuffer, getElem?_setBuffer, getElem?_setBuffer, getElem?_setBuffer,
    Option.map_map, Option.map_map]
  congr 1
  funext field
  by_cases here : place = index
  · have notOther : ¬ other = index := fun same => different (here.trans same.symm)
    simp only [Function.comp_apply, if_pos here, if_neg notOther]
  · simp only [Function.comp_apply, if_neg here]

/-- Two calls to the same block that both start at its pair overlap. -/
theorem Paired.places_ne {other : RegisterWrite} {otherBlock : U8Field}
    (paired : controller.Paired block call.address call.length)
    (otherPaired : controller.Paired otherBlock other.address other.length)
    (positive : 0 < call.length) (otherPositive : 0 < other.length)
    (disjoint : call.address + call.length ≤ other.address ∨
      other.address + other.length ≤ call.address) :
    controller.controller.findBlock call.address call.length ≠
      controller.controller.findBlock other.address other.length := by
  intro same
  have sameBlock : some block = some otherBlock := by
    rw [← paired.located, ← otherPaired.located, same]
  cases sameBlock
  have twice := paired.twice
  have otherTwice := otherPaired.twice
  omega

/-- A call replaces the bytes of one block, with or without a write to another
block before it. -/
theorem Paired.perform_after (paired : controller.Paired block call.address call.length)
    (accepts : controller.Accepts call) :
    Exists fun buffer =>
      controller.perform call = .ok
        (controller.setBuffer (controller.controller.findBlock call.address call.length) buffer) ∧
      forall place other, place ≠ controller.controller.findBlock call.address call.length ->
        (controller.setBuffer place other).perform call =
          .ok ((controller.setBuffer place other).setBuffer
            (controller.controller.findBlock call.address call.length) buffer) := by
  rcases paired.write accepts.1 accepts.2.2 with ⟨buffer, copied, completes, _⟩
  refine ⟨buffer, by rw [perform, completes, ok_bind]; rfl, fun place other different => ?_⟩
  have ranges := controller.ranges_setBuffer place other
  have samePlace : (controller.setBuffer place other).controller.findBlock call.address
      call.length = controller.controller.findBlock call.address call.length :=
    ByteFieldController.findBlock_congr ranges
  have after : (controller.setBuffer place other).Paired block call.address call.length := by
    refine ⟨?_, paired.twice, paired.inside, paired.size⟩
    rw [samePlace, getElem?_setBuffer, paired.located, Option.map_some, if_neg different]
  have valid : (controller.setBuffer place other).accessValid call.address call.length = .ok true :=
    (ByteFieldController.accessValid_congr ranges).trans accepts.1
  rcases after.write valid accepts.2.2 with ⟨again, copiedAgain, completesAgain, _⟩
  rw [copied] at copiedAgain
  cases copiedAgain
  rw [perform, completesAgain, ok_bind, samePlace]
  rfl

/-- Writes to disjoint ranges have the same result in both orders. -/
theorem IsArray.perform_comm (isArray : controller.IsArray) {first second : RegisterWrite}
    (firstAccepts : controller.Accepts first)
    (firstStarts : controller.StartsAtPair first.address first.length)
    (secondAccepts : controller.Accepts second)
    (secondStarts : controller.StartsAtPair second.address second.length)
    (disjoint : first.address + first.length ≤ second.address ∨
      second.address + second.length ≤ first.address) :
    Exists fun last => run perform controller [first, second] = .ok last ∧
      run perform controller [second, first] = .ok last := by
  rcases isArray.paired firstAccepts.1 firstStarts firstAccepts.length_lt with ⟨_, firstPaired⟩
  rcases isArray.paired secondAccepts.1 secondStarts secondAccepts.length_lt with ⟨_, secondPaired⟩
  have different := firstPaired.places_ne secondPaired firstAccepts.2.1 secondAccepts.2.1 disjoint
  rcases firstPaired.perform_after firstAccepts with ⟨firstBuffer, firstDone, firstAfter⟩
  rcases secondPaired.perform_after secondAccepts with ⟨secondBuffer, secondDone, secondAfter⟩
  refine ⟨(controller.setBuffer (controller.controller.findBlock first.address first.length)
    firstBuffer).setBuffer (controller.controller.findBlock second.address second.length)
      secondBuffer, ?_, ?_⟩
  · rw [run_cons, firstDone, ok_bind, run_cons, secondAfter _ _ different, ok_bind, run_nil]
  · rw [run_cons, secondDone, ok_bind, run_cons, firstAfter _ _ different.symm, ok_bind, run_nil,
      controller.setBuffer_comm different]

/-! ## Any writes, and then a read -/

/-- What a register should hold after some calls. -/
def lastRegister (start : RegisterController) (calls : List RegisterWrite) (index : Nat) :
    Option (UInt8 × UInt8) :=
  (lastWritten RegisterWrite.written calls index).or (start.register index)

/-- A read into a buffer with room for it returns these registers. -/
def ReadsRegisters (controller : RegisterController) (address length : Nat)
    (registers : Nat -> Option (UInt8 × UInt8)) : Prop :=
  forall buffer : U8Buffer, 2 * length ≤ buffer.size ->
    Exists fun out => controller.read address length buffer = .ok (length, out) ∧
      out.size = buffer.size ∧
      forall offset, offset < length -> registers (address + offset) = some (out.register offset)

theorem IsArray.reads (isArray : controller.IsArray) {address length : Nat}
    (valid : controller.accessValid address length = .ok true)
    (starts : controller.StartsAtPair address length) :
    controller.ReadsRegisters address length controller.register := by
  intro buffer room
  have small := buffer.size_lt
  rcases isArray.paired valid starts (by omega) with ⟨block, paired⟩
  rcases paired.read valid room with ⟨out, completes, size, contents⟩
  refine ⟨out, completes, size, fun offset before => ?_⟩
  have twice := paired.twice
  have inside := paired.inside
  have behind : address + offset - block.address = block.address + offset := by omega
  rw [register, paired.owner_eq isArray (by omega) (by omega), paired.located, Option.map_some,
    contents, if_pos before, behind]

/-- In a run of accepted writes that all start at their pair, every register holds
what was last written to it, reads that start at their pair return that, and
writes to disjoint ranges commute. -/
theorem registers_lastWrite {start : RegisterController} (isArray : start.IsArray)
    {calls : List RegisterWrite} (accepted : Admitted perform Accepts start calls)
    (starts : Admitted perform (fun reached call => reached.StartsAtPair call.address call.length)
      start calls) :
    Exists fun final => run perform start calls = .ok final ∧
      (forall index, final.register index = start.lastRegister calls index) ∧
      (forall address length, final.accessValid address length = .ok true ->
        final.StartsAtPair address length ->
          final.ReadsRegisters address length (start.lastRegister calls)) ∧
      (forall first second : RegisterWrite,
        final.Accepts first -> final.StartsAtPair first.address first.length ->
        final.Accepts second -> final.StartsAtPair second.address second.length ->
        (first.address + first.length ≤ second.address ∨
          second.address + second.length ≤ first.address) ->
          Exists fun last => run perform final [first, second] = .ok last ∧
            run perform final [second, first] = .ok last) := by
  rcases run_lastWritten perform register (fun call index => (call.written index).map some)
    IsArray _ (fun controller call isArray admits => by
      rcases isArray.perform_written admits.1 admits.2 with ⟨next, completes, kept, shown⟩
      refine ⟨next, completes, kept, fun index => ?_⟩
      rw [shown]
      cases call.written index <;> rfl)
    isArray (accepted.and starts) with ⟨final, completes, ends, shown⟩
  have registers : final.register = start.lastRegister calls := by
    funext index
    rw [shown, lastWritten_map, lastRegister]
    cases lastWritten RegisterWrite.written calls index <;> rfl
  refine ⟨final, completes, fun index => congrFun registers index, ?_, ?_⟩
  · intro address length valid pair
    rw [← registers]
    exact ends.reads valid pair
  · intro first second firstAccepts firstStarts secondAccepts secondStarts disjoint
    exact ends.perform_comm firstAccepts firstStarts secondAccepts secondStarts disjoint

/-- Two registers from 0 and four from 2; register 4 starts the second block at
its pair. -/
theorem registers_lastWrite_second_field :
    letI start : RegisterController := ⟨⟨[⟨0, 2, ⟨4, Vector.replicate 4 0, by decide⟩, by decide,
      by decide⟩, ⟨2, 4, ⟨8, Vector.replicate 8 0, by decide⟩, by decide, by decide⟩], by decide⟩⟩
    Exists fun final => run perform start [⟨4, 1, ⟨2, #v[3, 4], by decide⟩⟩] = .ok final ∧
      final.register 4 = some (3, 4) ∧ final.register 5 = some (0, 0) := by
  let start : RegisterController := ⟨⟨[⟨0, 2, ⟨4, Vector.replicate 4 0, by decide⟩, by decide,
    by decide⟩, ⟨2, 4, ⟨8, Vector.replicate 8 0, by decide⟩, by decide, by decide⟩], by decide⟩⟩
  let call : RegisterWrite := ⟨4, 1, ⟨2, #v[3, 4], by decide⟩⟩
  have isArray : start.IsArray := by
    refine ⟨⟨by decide, by decide⟩, fun block member => ?_⟩
    rcases List.mem_cons.mp member with rfl | member
    · rfl
    · cases List.mem_singleton.mp member
      rfl
  have accepted : Admitted perform Accepts start [call] :=
    admitted_cons_iff.mpr ⟨⟨rfl, by decide, by decide⟩, fun _ _ => admitted_nil⟩
  have starts : Admitted perform
      (fun reached call => reached.StartsAtPair call.address call.length) start [call] :=
    admitted_cons_iff.mpr ⟨⟨start.entries[1], rfl, rfl, by decide⟩, fun _ _ => admitted_nil⟩
  rcases registers_lastWrite isArray accepted starts with ⟨final, completes, shown, _⟩
  exact ⟨final, completes, (shown 4).trans rfl, (shown 5).trans rfl⟩

/-- A write to register 1 of a single block at address 0 lands on bytes 1 and 2,
the first of which belongs to register 0. -/
theorem write_reaches_other_register :
    letI start : RegisterController :=
      ⟨⟨[⟨0, 4, ⟨8, Vector.replicate 8 0, by decide⟩, by decide, by decide⟩], by decide⟩⟩
    letI call : RegisterWrite := ⟨1, 1, ⟨2, #v[170, 187], by decide⟩⟩
    start.IsArray ∧ start.Accepts call ∧ call.written 0 = none ∧
      Exists fun final => run perform start [call] = .ok final ∧
        final.accessValid 0 1 = .ok true ∧
        ¬ final.ReadsRegisters 0 1 (start.lastRegister [call]) := by
  let start : RegisterController :=
    ⟨⟨[⟨0, 4, ⟨8, Vector.replicate 8 0, by decide⟩, by decide, by decide⟩], by decide⟩⟩
  let call : RegisterWrite := ⟨1, 1, ⟨2, #v[170, 187], by decide⟩⟩
  let final := start.setBuffer 0 ⟨8, #v[0, 170, 187, 0, 0, 0, 0, 0], by decide⟩
  let room : U8Buffer := ⟨2, #v[0, 0], by decide⟩
  refine ⟨⟨⟨by decide, by decide⟩, fun block member => ?_⟩, ⟨rfl, by decide, by decide⟩, rfl,
    final, rfl, rfl, fun reads => ?_⟩
  · cases List.mem_singleton.mp member
    rfl
  · have copied : (final.read 0 1 room).map (fun result => result.2.register 0) =
        .ok (0, 170) := by
      decide +kernel
    rcases reads room (by decide) with ⟨out, completes, _, shown⟩
    rw [completes] at copied
    have stale : start.lastRegister [call] 0 = some (0, 0) := by
      decide +kernel
    have overwritten : out.register 0 = (0, 170) := Except.ok.inj copied
    have first : some (0, 0) = some (out.register 0) := stale.symm.trans (shown 0 Nat.one_pos)
    rw [overwritten] at first
    cases first

end RegisterController

end Modbus
