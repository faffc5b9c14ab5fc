import ModbusBasic.Registers.MappedRegisterDataStore

namespace Modbus

open Memory

/-!
# Validation against a memory map

A range is meant to be admitted when it is a complete entry of the map, because
the access behind validation hands the data to the entry the range starts with.
Validation looks its start up among the offsets and its end among the end
points, and nothing makes the two belong to one entry.  `Straddles` is the kind
of range that passes without being an entry.
-/

/-- Entries in increasing order, none empty and no two overlapping. -/
structure WellFormedMap (offsets endPoints : List Nat) : Prop where
  sameLength : offsets.length = endPoints.length
  filled : forall entry, entry ∈ offsets.zip endPoints -> entry.1 ≤ entry.2
  disjoint : (offsets.zip endPoints).Pairwise fun earlier later => earlier.2 < later.1
  representable : forall entry, entry ∈ offsets.zip endPoints -> entry.2 < SizeT.modulus

/-- The entry at this index is made of exactly these registers. -/
def Spans (offsets endPoints : List Nat) (address count index : Nat) : Prop :=
  1 ≤ count ∧ offsets[index]? = some address ∧ endPoints[index]? = some (address + count - 1)

/-- The range starts where one entry does and ends where another one does. -/
def Straddles (offsets endPoints : List Nat) (address count : Nat) : Prop :=
  Exists fun first : Nat => Exists fun last : Nat => first ≠ last ∧ offsets[first]? = some address ∧
    endPoints[last]? = some (SizeT.sub (SizeT.add address count) 1)

instance (offsets endPoints : List Nat) (address count : Nat) :
    Decidable (Straddles offsets endPoints address count) :=
  decidable_of_iff (Exists fun first => first < offsets.length ∧ Exists fun last =>
      last < endPoints.length ∧ first ≠ last ∧ offsets[first]? = some address ∧
        endPoints[last]? = some (SizeT.sub (SizeT.add address count) 1)) <| by
    constructor
    · rintro ⟨first, _, last, _, straddles⟩
      exact ⟨first, last, straddles⟩
    · rintro ⟨first, last, different, starts, ends⟩
      exact ⟨first, (List.getElem?_eq_some_iff.mp starts).1, last,
        (List.getElem?_eq_some_iff.mp ends).1, different, starts, ends⟩

/-- No registers are named at `0`, and a single entry takes up all addresses. -/
def EmptyInWhole (offsets endPoints : List Nat) (address count : Nat) : Prop :=
  address = 0 ∧ count = 0 ∧ Exists fun index : Nat =>
    offsets[index]? = some 0 ∧ endPoints[index]? = some (SizeT.modulus - 1)

/-! ## Lookups in a well-formed map -/

namespace WellFormedMap

variable {offsets endPoints : List Nat} {first last start finish address count : Nat}

theorem filled_at (map : WellFormedMap offsets endPoints)
    (starts : offsets[first]? = some start) (ends : endPoints[first]? = some finish) :
    start ≤ finish ∧ finish < SizeT.modulus := by
  have entry : (start, finish) ∈ offsets.zip endPoints :=
    List.mem_iff_getElem?.mpr ⟨first, List.getElem?_zip_eq_some.mpr ⟨starts, ends⟩⟩
  exact ⟨map.filled _ entry, map.representable _ entry⟩

theorem offsets_nodup (map : WellFormedMap offsets endPoints) : offsets.Nodup := by
  rw [← List.map_fst_zip (Nat.le_of_eq map.sameLength)]
  apply List.pairwise_map.mpr
  apply map.disjoint.imp_of_mem
  intro earlier later listed _ before
  have filled := map.filled earlier listed
  omega

theorem endPoints_nodup (map : WellFormedMap offsets endPoints) : endPoints.Nodup := by
  rw [← List.map_snd_zip (Nat.le_of_eq map.sameLength.symm)]
  apply List.pairwise_map.mpr
  apply map.disjoint.imp_of_mem
  intro earlier later _ listed before
  have filled := map.filled later listed
  omega

/-- No two entries start at the same register. -/
theorem start_unique (map : WellFormedMap offsets endPoints)
    (here : offsets[first]? = some start) (there : offsets[last]? = some start) : first = last := by
  have inside := (List.getElem?_eq_some_iff.mp here).1
  exact (List.getElem?_inj inside map.offsets_nodup).mp (here.trans there.symm)

/-- No two entries end at the same register. -/
theorem end_unique (map : WellFormedMap offsets endPoints)
    (here : endPoints[first]? = some finish) (there : endPoints[last]? = some finish) :
    first = last := by
  have inside := (List.getElem?_eq_some_iff.mp here).1
  exact (List.getElem?_inj inside map.endPoints_nodup).mp (here.trans there.symm)

/-- The lookup by address finds the entry that starts there. -/
theorem getMatchingIndex_eq (map : WellFormedMap offsets endPoints)
    (starts : offsets[first]? = some address) : getMatchingIndex address offsets = first := by
  unfold getMatchingIndex
  refine findIdx_unique starts (beq_self_eq_true address) (map.offsets_nodup.imp ?_)
  rintro earlier later different ⟨matched, again⟩
  exact different ((beq_iff_eq.mp matched).trans (beq_iff_eq.mp again).symm)

end WellFormedMap

/-! ## The register a range ends with -/

section LastRegister

variable {address count : Nat}

/-- Unless it names no register at `0`, a range either does not wrap or ends in
front of its first register. -/
theorem lastRegister_cases (addressFits : address < SizeT.modulus)
    (countFits : count < SizeT.modulus) :
    (1 ≤ count ∧ SizeT.sub (SizeT.add address count) 1 = address + count - 1) ∨
      SizeT.sub (SizeT.add address count) 1 < address ∨
      (address = 0 ∧ count = 0 ∧ SizeT.sub (SizeT.add address count) 1 = SizeT.modulus - 1) := by
  have ends := SizeT.rangeEnd_cases addressFits countFits
  rw [SizeT.rangeEnd] at ends
  omega

theorem lastRegister_eq (nonempty : 1 ≤ count) (fits : address + count - 1 < SizeT.modulus) :
    SizeT.sub (SizeT.add address count) 1 = address + count - 1 :=
  SizeT.rangeEnd_of_le nonempty (by omega)

end LastRegister

/-! ## Validation -/

theorem checkLocationValid_iff {offsets endPoints : List Nat} {address count : Nat} :
    checkLocationValid address count offsets endPoints = true <->
      (Exists fun first : Nat => offsets[first]? = some address) ∧
      Exists fun last : Nat => endPoints[last]? = some (SizeT.sub (SizeT.add address count) 1) := by
  simp only [checkLocationValid, Bool.and_eq_true, List.any_beq', List.contains_iff_mem,
    List.mem_iff_getElem?]

/-- Complete entries of the map are admitted. -/
theorem checkLocationValid_of_spans {offsets endPoints : List Nat} {address count index : Nat}
    (map : WellFormedMap offsets endPoints) (spans : Spans offsets endPoints address count index) :
    checkLocationValid address count offsets endPoints = true := by
  rcases spans with ⟨nonempty, starts, ends⟩
  have last := lastRegister_eq nonempty (map.filled_at starts ends).2
  rw [checkLocationValid_iff, last]
  exact ⟨⟨index, starts⟩, index, ends⟩

/-- A range that is admitted, and is not of the two kinds that should not be, is
a complete entry. -/
theorem spans_of_checkLocationValid {offsets endPoints : List Nat} {address count : Nat}
    (map : WellFormedMap offsets endPoints) (addressFits : address < SizeT.modulus)
    (countFits : count < SizeT.modulus) (inOne : ¬ Straddles offsets endPoints address count)
    (notEmpty : ¬ EmptyInWhole offsets endPoints address count)
    (valid : checkLocationValid address count offsets endPoints = true) :
    Exists fun index => Spans offsets endPoints address count index := by
  rcases checkLocationValid_iff.mp valid with ⟨⟨first, starts⟩, last, ends⟩
  have same : first = last := by
    apply Classical.byContradiction
    intro different
    exact inOne ⟨first, last, different, starts, ends⟩
  rw [← same] at ends
  rcases lastRegister_cases addressFits countFits with ⟨nonempty, plain⟩ | wraps | ⟨zero, none, whole⟩
  · rw [plain] at ends
    exact ⟨first, nonempty, starts, ends⟩
  · exact absurd (map.filled_at starts ends).1 (Nat.not_le_of_lt wraps)
  · rw [zero] at starts
    rw [whole] at ends
    exact absurd ⟨zero, none, first, starts, ends⟩ notEmpty

/-- A range that straddles two entries is not a complete one. -/
theorem Straddles.not_spans {offsets endPoints : List Nat} {address count index : Nat}
    (map : WellFormedMap offsets endPoints) (straddles : Straddles offsets endPoints address count) :
    ¬ Spans offsets endPoints address count index := by
  rintro ⟨nonempty, starts, ends⟩
  rcases straddles with ⟨first, last, different, firstStarts, lastEnds⟩
  rw [lastRegister_eq nonempty (map.filled_at starts ends).2] at lastEnds
  have atFirst := map.start_unique firstStarts starts
  have atLast := map.end_unique lastEnds ends
  exact different (atFirst.trans atLast.symm)

theorem Straddles.valid {offsets endPoints : List Nat} {address count : Nat}
    (straddles : Straddles offsets endPoints address count) :
    checkLocationValid address count offsets endPoints = true := by
  rcases straddles with ⟨first, last, _, starts, ends⟩
  exact checkLocationValid_iff.mpr ⟨⟨first, starts⟩, last, ends⟩

theorem EmptyInWhole.valid {offsets endPoints : List Nat} {address count : Nat}
    (whole : EmptyInWhole offsets endPoints address count) :
    checkLocationValid address count offsets endPoints = true := by
  rcases whole with ⟨rfl, rfl, index, starts, ends⟩
  exact checkLocationValid_iff.mpr ⟨⟨index, starts⟩, index, ends⟩

/-! ## The store -/

namespace MappedRegisterDataStore

variable {T : Type} [MemoryController T]

/-- Validation admits this range exactly when it is a complete entry, and then
both accesses go to that entry with all the bytes of the range. -/
structure ExactAt (store : MappedRegisterDataStore T) (address count : Nat) : Prop where
  write : store.writeLocationValid address count = true <->
    Exists fun index => Spans (MemoryController.offsets T) (MemoryController.endPoints T)
      address count index
  read : store.readLocationValid address count = true <->
    Exists fun index => Spans (MemoryController.offsets T) (MemoryController.endPoints T)
      address count index
  field : store.writeLocationValid address count = true -> Exists fun index =>
    Spans (MemoryController.offsets T) (MemoryController.endPoints T) address count index ∧
    store.getMemoryMapEntryIndex address = index ∧
    (forall data : List UInt8, data.length = 2 * count ->
      store.setRegisters address count data =
        (MemoryController.setField store.memoryController index data >>= fun controller =>
          .ok ⟨true, controller⟩)) ∧
    forall (m : Nat) (window : Window UInt8 m), window.size = 2 * count ->
      store.getRegisters address count window =
        MemoryController.getField store.memoryController index window

variable (store : MappedRegisterDataStore T) {address count : Nat}

theorem getMemoryMapEntryIndex_eq
    (map : WellFormedMap (MemoryController.offsets T) (MemoryController.endPoints T)) {index : Nat}
    (starts : (MemoryController.offsets T)[index]? = some address) :
    store.getMemoryMapEntryIndex address = index := by
  have bound := (List.getElem?_eq_some_iff.mp starts).1
  unfold getMemoryMapEntryIndex
  rw [map.getMatchingIndex_eq starts]
  exact if_neg (Nat.ne_of_lt bound)

/-- Where the store finds the entry of a range, it hands the data over whole. -/
theorem setRegisters_eq {index : Nat} (found : store.getMemoryMapEntryIndex address = index)
    (data : List UInt8) :
    store.setRegisters address count data =
      (MemoryController.setField store.memoryController index data >>= fun controller =>
        .ok ⟨true, controller⟩) := by
  rw [setRegisters, setFieldFromAddress, getIdentifierFromAddress, found]
  rfl

theorem getRegisters_eq {index m : Nat} (found : store.getMemoryMapEntryIndex address = index)
    (window : Window UInt8 m) :
    store.getRegisters address count window =
      MemoryController.getField store.memoryController index window := by
  rw [getRegisters, getFieldFromAddress, getIdentifierFromAddress, found]
  rfl

/-- Validation is exact for every range but those that start one entry and end
another, and the empty range at `0` of a map with one entry for all addresses. -/
theorem locationValid_exact_iff
    (map : WellFormedMap (MemoryController.offsets T) (MemoryController.endPoints T))
    (addressFits : address < SizeT.modulus) (countFits : count < SizeT.modulus) :
    store.ExactAt address count <->
      ¬ Straddles (MemoryController.offsets T) (MemoryController.endPoints T) address count ∧
      ¬ EmptyInWhole (MemoryController.offsets T) (MemoryController.endPoints T) address count := by
  constructor
  · intro exact
    constructor
    · intro straddles
      rcases exact.write.mp straddles.valid with ⟨index, spans⟩
      exact straddles.not_spans map spans
    · intro whole
      rcases exact.write.mp whole.valid with ⟨index, nonempty, _⟩
      exact absurd whole.2.1 (Nat.ne_of_gt nonempty)
  · rintro ⟨inOne, notEmpty⟩
    have admits : store.writeLocationValid address count = true <->
        Exists fun index => Spans (MemoryController.offsets T) (MemoryController.endPoints T)
          address count index := by
      constructor
      · exact spans_of_checkLocationValid map addressFits countFits inOne notEmpty
      · rintro ⟨index, spans⟩
        exact checkLocationValid_of_spans map spans
    refine ⟨admits, admits, fun valid => ?_⟩
    rcases admits.mp valid with ⟨index, spans⟩
    have found := store.getMemoryMapEntryIndex_eq map spans.2.1
    exact ⟨index, spans, found, fun data _ => store.setRegisters_eq found data,
      fun _ window _ => store.getRegisters_eq found window⟩

/-- Two adjacent fields of ten and of two registers. -/
abbrev TwoFields := ByteFields [2, 12] [11, 13]

theorem twoFields_wellFormed :
    WellFormedMap (MemoryController.offsets TwoFields) (MemoryController.endPoints TwoFields) :=
  ⟨rfl, by decide, by decide, by decide⟩

theorem locationValid_exact_first_field :
    (⟨false, ⟨[List.replicate 20 0, [0, 0, 0, 0]]⟩⟩ :
      MappedRegisterDataStore TwoFields).ExactAt 2 10 :=
  (locationValid_exact_iff _ twoFields_wellFormed (by decide) (by decide)).mpr
    ⟨by decide, fun whole => absurd whole.1 (by decide)⟩

/-- The registers of both fields are admitted as one range, which is no entry. -/
theorem both_fields_admitted :
    ¬ (⟨false, ⟨[List.replicate 20 0, [0, 0, 0, 0]]⟩⟩ :
      MappedRegisterDataStore TwoFields).ExactAt 2 12 := by
  intro exact
  have straddles : Straddles (MemoryController.offsets TwoFields)
    (MemoryController.endPoints TwoFields) 2 12 := by decide
  rcases exact.write.mp straddles.valid with ⟨index, spans⟩
  exact straddles.not_spans twoFields_wellFormed spans

end MappedRegisterDataStore

end Modbus
