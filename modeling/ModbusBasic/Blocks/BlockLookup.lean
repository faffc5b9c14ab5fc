import ModbusBasic.Blocks.ByteFieldController
import ModbusBasic.Memory.Extents

namespace Modbus

open Memory

/-!
# Which block holds an address

A block is an extent of addresses.  `fields_are_sorted` compares neighbours and
`find_block` compares with the ends of blocks only, both in wrapping arithmetic.
As long as no block reaches the largest size, the first amounts to the order of
the extents.  If moreover no block is empty, the second is a lookup among them.
-/

namespace U8Field

def extent (field : U8Field) : Extent Nat where
  start := field.address
  stop := field.address + field.length
  start_le_stop := Nat.le_add_right field.address field.length

def Covers (field : U8Field) (address : Nat) : Prop :=
  field.address ≤ address ∧ address < field.address + field.length

/-- The block is not empty, and the sum of its address and length does not wrap. -/
structure IsProper (field : U8Field) : Prop where
  nonempty : 1 ≤ field.length
  fits : field.address + field.length < SizeT.modulus

variable {field : U8Field}

/-- A block that is neither empty nor wraps. -/
theorem blockEnd_of_le (nonempty : 0 < field.length)
    (fits : field.address + field.length ≤ SizeT.modulus) :
    field.blockEnd = field.address + field.length - 1 :=
  SizeT.rangeEnd_of_le nonempty fits

/-- The comparison that `find_block` makes. -/
theorem IsProper.le_blockEnd_iff (proper : field.IsProper) (address : Nat) :
    address ≤ field.blockEnd <-> address < field.extent.stop := by
  have nonempty : 0 < field.length := proper.nonempty
  rw [blockEnd_of_le nonempty (Nat.le_of_lt proper.fits)]
  change _ <-> address < field.address + field.length
  omega

end U8Field

/-! ## The order of the blocks -/

variable {fields : List U8Field}

/-- The loop of `fields_are_sorted` compares each block with the one in front of
it, which stops at the first address still free. -/
theorem fieldsAreSortedFrom_iff_isChain
    (fit : forall field, field ∈ fields -> field.address + field.length < SizeT.modulus)
    (front : Extent Nat) :
    fieldsAreSortedFrom front.stop fields = true <->
      (front :: fields.map U8Field.extent).IsChain Extent.Before := by
  induction fields generalizing front with
  | nil => exact iff_of_true rfl (List.IsChain.singleton front)
  | cons first rest inductionHypothesis =>
      have later : fieldsAreSortedFrom (SizeT.add first.address first.length) rest = true <->
          (first.extent :: rest.map U8Field.extent).IsChain Extent.Before := by
        rw [SizeT.add_of_lt (fit first List.mem_cons_self)]
        exact inductionHypothesis
          (fun field member => fit field (List.mem_cons_of_mem first member)) first.extent
      rw [List.map_cons, List.isChain_cons_cons, ← later, fieldsAreSortedFrom]
      by_cases overlaps : first.address < front.stop
      · rw [if_pos overlaps]
        exact iff_of_false Bool.false_ne_true fun ordered => Nat.not_le_of_lt overlaps ordered.1
      · rw [if_neg overlaps]
        have starts : front.Before first.extent := Nat.le_of_not_lt overlaps
        exact (and_iff_right starts).symm

/-- Blocks that do not wrap are sorted exactly when their extents are in order. -/
theorem fieldsAreSorted_iff_pairwise
    (fit : forall field, field ∈ fields -> field.address + field.length < SizeT.modulus) :
    fieldsAreSorted fields = true <-> (fields.map U8Field.extent).Pairwise Extent.Before := by
  have chain := fieldsAreSortedFrom_iff_isChain fit ⟨0, 0, Nat.le_refl 0⟩
  rw [List.isChain_iff_pairwise, List.pairwise_cons] at chain
  exact chain.trans (and_iff_right fun extent _ => Nat.zero_le extent.start)

/-! ## The block of an address -/

/-- The answer is the only block that covers the address.  If none does, it is the
first block that starts behind the address, or the number of blocks. -/
structure Resolves (fields : List U8Field) (address answer : Nat) : Prop where
  covered : forall (place : Nat) (inside : place < fields.length),
    fields[place].Covers address -> answer = place ∧
      forall (other : Nat) (otherInside : other < fields.length),
        fields[other].Covers address -> other = place
  uncovered : (forall field, field ∈ fields -> ¬ field.Covers address) ->
    answer = fields.findIdx fun field => address < field.address

/-- A lookup among extents in order resolves the address. -/
theorem lookup_resolves (ordered : (fields.map U8Field.extent).Pairwise Extent.Before)
    (address : Nat) :
    Resolves fields address (Extent.lookup (fields.map U8Field.extent) address) := by
  have found : forall (place : Nat) (inside : place < fields.length),
      fields[place].Covers address ->
        Extent.lookup (fields.map U8Field.extent) address = place := by
    intro place inside covers
    have located : (fields.map U8Field.extent)[place]? = some fields[place].extent := by
      rw [List.getElem?_map, List.getElem?_eq_getElem inside]
      rfl
    have holds : address ∈ fields[place].extent.positions := covers
    exact Extent.lookup_of_mem ordered located holds
  constructor
  · intro place inside covers
    refine ⟨found place inside covers, fun other otherInside otherCovers => ?_⟩
    exact (found other otherInside otherCovers).symm.trans (found place inside covers)
  · intro outside
    have missed : forall extent, extent ∈ fields.map U8Field.extent ->
        address ∉ extent.positions := by
      intro extent listed
      rcases List.mem_map.mp listed with ⟨field, member, rfl⟩
      exact outside field member
    rw [Extent.lookup_of_not_mem missed, List.findIdx_map]
    rfl

namespace ByteFieldController

variable {controller : ByteFieldController}

/-- Comparing with the computed ends is a lookup among the extents. -/
theorem findBlock_eq_lookup (proper : forall field, field ∈ controller.entries -> field.IsProper)
    (address length : Nat) :
    controller.findBlock address length =
      Extent.lookup (controller.entries.map U8Field.extent) address := by
  rw [findBlock, Extent.lookup, List.findIdx_map]
  apply findIdx_congr
  intro field listed
  exact decide_eq_decide.mpr ((proper field listed).le_blockEnd_iff address)

/-- A list of proper blocks is accepted exactly when each of its blocks ends before
any later one starts, and the search then resolves every address. -/
theorem sorted_findBlock_resolves (fields : List U8Field)
    (proper : forall field, field ∈ fields -> field.IsProper) :
    (fieldsAreSorted fields = true <->
      forall (first second : Nat) (inside : second < fields.length) (before : first < second),
        fields[first].address + fields[first].length ≤ fields[second].address) ∧
    forall (sorted : fieldsAreSorted fields = true) (address length : Nat),
      Resolves fields address (findBlock ⟨fields, sorted⟩ address length) := by
  have order := fieldsAreSorted_iff_pairwise fun field member => (proper field member).fits
  constructor
  · rw [order, List.pairwise_map, List.pairwise_iff_getElem]
    constructor
    · intro ordered first second inside before
      exact ordered first second _ inside before
    · intro ordered first second _ inside before
      exact ordered first second inside before
  · intro sorted address length
    rw [findBlock_eq_lookup proper]
    exact lookup_resolves (order.mp sorted) address

/-- Two blocks with addresses between them that belong to neither. -/
def scatteredFields : ByteFieldController where
  entries :=
    [⟨16, 16, ⟨32, Vector.replicate 32 0, by decide⟩, by decide, by decide⟩,
      ⟨48, 8, ⟨16, Vector.replicate 16 0, by decide⟩, by decide, by decide⟩]
  sorted := by decide

/-- An address in the second block, one between the blocks and one behind both. -/
theorem sorted_findBlock_resolves_scattered :
    scatteredFields.findBlock 50 2 = 1 ∧ scatteredFields.findBlock 40 2 = 1 ∧
      scatteredFields.findBlock 56 2 = 2 := by
  have proper : forall field, field ∈ scatteredFields.entries -> field.IsProper := by
    intro field member
    rcases List.mem_pair.mp member with rfl | rfl
    · exact ⟨by decide, by decide⟩
    · exact ⟨by decide, by decide⟩
  have resolves := (sorted_findBlock_resolves scatteredFields.entries proper).2
    scatteredFields.sorted
  have outside : forall address, 32 ≤ address -> (address < 48 ∨ 56 ≤ address) ->
      forall field, field ∈ scatteredFields.entries -> ¬ field.Covers address := by
    intro address behind gap field member covers
    rcases covers with ⟨starts, stops⟩
    rcases List.mem_pair.mp member with rfl | rfl
    · change address < 16 + 16 at stops
      omega
    · change 48 ≤ address at starts
      change address < 48 + 8 at stops
      omega
  refine ⟨((resolves 50 2).covered 1 (by decide) ⟨by decide, by decide⟩).1, ?_, ?_⟩
  · exact (resolves 40 2).uncovered (outside 40 (by decide) (by decide))
  · exact (resolves 56 2).uncovered (outside 56 (by decide) (by decide))

end ByteFieldController

end Modbus
