import ModbusBasic.Blocks.BlockLookup

namespace Modbus

open Memory

/-!
# Which accesses are valid

An access is valid when it names at least one address and one block holds all
of them.  The check looks at one block only, the first that ends at or after
the address, and it computes both ends in wrapping arithmetic.

A block found that starts at or before the address is an ordinary one, or else
it is empty and at address 0, where its computed end is the largest address
there is.
-/

namespace U8Field

/-- The block holds every address of the range, and the range does not wrap. -/
def Contains (block : U8Field) (address length : Nat) : Prop :=
  block.address ≤ address ∧ address + length ≤ block.address + block.length ∧
    address + length ≤ SizeT.modulus

/-- The block is empty and at address 0. -/
def IsEmptyAtZero (block : U8Field) : Prop := block.address = 0 ∧ block.length = 0

variable {block : U8Field} {address length : Nat}

/-- A block reaches the address from below only if it is ordinary, or empty at
address 0. -/
theorem reaches_cases (starts : block.address ≤ address) (reaches : address ≤ block.blockEnd) :
    block.IsEmptyAtZero ∨
      (0 < block.length ∧ block.address + block.length ≤ SizeT.modulus) := by
  rcases Nat.eq_zero_or_pos block.length with empty | nonempty
  · rw [blockEnd, empty, SizeT.rangeEnd_zero block.address_lt] at reaches
    by_cases zero : block.address = 0
    · exact Or.inl ⟨zero, empty⟩
    · rw [if_neg zero] at reaches
      omega
  · by_cases fits : block.address + block.length ≤ SizeT.modulus
    · exact Or.inr ⟨nonempty, fits⟩
    · have lengthFits := block.length_lt
      rw [blockEnd, SizeT.rangeEnd_wraps block.address_lt lengthFits (by omega)] at reaches
      omega

theorem IsEmptyAtZero.blockEnd_eq (empty : block.IsEmptyAtZero) :
    block.blockEnd = SizeT.modulus - 1 := by
  rw [blockEnd, empty.1, empty.2]
  rfl

/-- What the comparison of ends says about an ordinary block around the first
address of the range. -/
theorem rangeEnd_le_blockEnd_iff (nonempty : 0 < block.length)
    (fits : block.address + block.length ≤ SizeT.modulus) (starts : block.address ≤ address)
    (reaches : address ≤ block.blockEnd) (lengthFits : length < SizeT.modulus) :
    SizeT.rangeEnd address length ≤ block.blockEnd <->
      if length = 0 then address ≠ 0
      else address + length ≤ SizeT.modulus -> block.Contains address length := by
  have modulus : SizeT.modulus = 18446744073709551616 := rfl
  have blockFits := block.length_lt
  rw [blockEnd_of_le nonempty fits] at reaches ⊢
  by_cases empty : length = 0
  · subst empty
    rw [if_pos rfl, SizeT.rangeEnd_zero (by omega)]
    by_cases zero : address = 0
    · rw [if_pos zero]
      omega
    · rw [if_neg zero]
      omega
  · rw [if_neg empty]
    by_cases within : address + length ≤ SizeT.modulus
    · rw [SizeT.rangeEnd_of_le (by omega) within]
      constructor
      · intro ends _
        exact ⟨starts, by omega, within⟩
      · intro contains
        have inside := (contains within).2.1
        omega
    · rw [SizeT.rangeEnd_wraps (by omega) lengthFits (by omega)]
      exact iff_of_true (by omega) (fun small => absurd small within)

end U8Field

namespace ByteFieldController

/-- The range is not empty and lies in one of the blocks. -/
def InOneBlock (controller : ByteFieldController) (address length : Nat) : Prop :=
  0 < length ∧ Exists fun block => block ∈ controller.entries ∧ block.Contains address length

/-- The access check stays inside the list of blocks, and its answer is right. -/
def ChecksExactly (controller : ByteFieldController) (address length : Nat) : Prop :=
  Exists fun valid => controller.accessValid address length = .ok valid ∧
    (valid = true <-> controller.InOneBlock address length)

/-- The block found can be told to hold the range from the two ends alone. -/
structure Decides (controller : ByteFieldController) (block : U8Field) (address length : Nat) :
    Prop where
  /-- Behind the start of the block the range is not empty and does not wrap; an
  empty range at address 0 has no end in any block. -/
  ranged : block.address ≤ address ->
    (0 < length ∨ address = 0 ∧ 0 < block.length) ∧ address + length ≤ SizeT.modulus
  /-- An empty block at address 0 stands in for a block that holds the range. -/
  covered : block.IsEmptyAtZero ->
    Exists fun other => other ∈ controller.entries ∧ other.Contains address length
  /-- No block behind the one found holds the range in its place. -/
  only : ¬ block.IsEmptyAtZero -> 0 < length -> forall other, other ∈ controller.entries ->
    other.Contains address length -> block.Contains address length

variable {controller : ByteFieldController} {address length : Nat} {block : U8Field}

/-! ## The three kinds of blocks found -/

/-- The empty block at address 0 accepts every access it is asked about. -/
theorem decides_empty (empty : block.IsEmptyAtZero) :
    (block.Accepts address length <-> controller.InOneBlock address length) <->
      controller.Decides block address length := by
  have starts : block.address ≤ address := by
    rw [empty.1]
    exact Nat.zero_le address
  have accepted : block.Accepts address length := by
    refine ⟨starts, ?_⟩
    rw [empty.blockEnd_eq]
    exact Nat.le_sub_one_of_lt (SizeT.rangeEnd_lt address length)
  constructor
  · intro exact
    rcases exact.mp accepted with ⟨positive, other, listed, contains⟩
    exact ⟨fun _ => ⟨Or.inl positive, contains.2.2⟩, fun _ => ⟨other, listed, contains⟩,
      fun proper => absurd empty proper⟩
  · intro decides
    refine iff_of_true accepted ⟨?_, decides.covered empty⟩
    rcases (decides.ranged starts).1 with positive | ⟨_, nonempty⟩
    · exact positive
    · exact absurd empty.2 (Nat.ne_of_gt nonempty)

/-- The range begins in front of the block found. -/
theorem decides_before (before : address < block.address) :
    (block.Accepts address length <-> controller.InOneBlock address length) <->
      controller.Decides block address length := by
  have refused : ¬ block.Accepts address length := fun accepted =>
    Nat.not_le_of_lt before accepted.1
  have proper : ¬ block.IsEmptyAtZero := fun empty => by
    rw [empty.1] at before
    exact Nat.not_lt_zero address before
  constructor
  · intro exact
    exact ⟨fun starts => absurd starts (Nat.not_le_of_lt before),
      fun empty => absurd empty proper, fun _ positive other listed contains =>
        absurd (exact.mpr ⟨positive, other, listed, contains⟩) refused⟩
  · intro decides
    refine iff_of_false refused ?_
    rintro ⟨positive, other, listed, contains⟩
    exact Nat.not_le_of_lt before (decides.only proper positive other listed contains).1

/-- An ordinary block that starts at or before the range and ends behind its
first address. -/
theorem decides_ordinary (member : block ∈ controller.entries) (nonempty : 0 < block.length)
    (fits : block.address + block.length ≤ SizeT.modulus) (starts : block.address ≤ address)
    (reaches : address ≤ block.blockEnd) (lengthFits : length < SizeT.modulus) :
    (block.Accepts address length <-> controller.InOneBlock address length) <->
      controller.Decides block address length := by
  have proper : ¬ block.IsEmptyAtZero := fun empty => Nat.ne_of_gt nonempty empty.2
  have accepts := U8Field.rangeEnd_le_blockEnd_iff nonempty fits starts reaches lengthFits
  rcases Nat.eq_zero_or_pos length with zero | positive
  · rw [if_pos zero] at accepts
    have outside : ¬ controller.InOneBlock address length := fun inside => by
      have positive := inside.1
      omega
    constructor
    · intro exact
      have atZero : address = 0 := by
        by_contra other
        exact outside (exact.mp ⟨starts, accepts.mpr other⟩)
      refine ⟨fun _ => ⟨Or.inr ⟨atZero, nonempty⟩, ?_⟩, fun empty => absurd empty proper,
        fun _ positive => absurd zero (Nat.ne_of_gt positive)⟩
      rw [atZero, zero]
      exact Nat.zero_le _
    · intro decides
      refine iff_of_false (fun accepted => accepts.mp accepted.2 ?_) outside
      rcases (decides.ranged starts).1 with positive | ⟨atZero, _⟩
      · exact absurd zero (Nat.ne_of_gt positive)
      · exact atZero
  · rw [if_neg (Nat.ne_of_gt positive)] at accepts
    constructor
    · intro exact
      have within : address + length ≤ SizeT.modulus := by
        by_contra exceeds
        rcases (exact.mp ⟨starts, accepts.mpr fun within => absurd within exceeds⟩).2 with
          ⟨other, _, contains⟩
        exact exceeds contains.2.2
      exact ⟨fun _ => ⟨Or.inl positive, within⟩, fun empty => absurd empty proper,
        fun _ _ other listed contains =>
          accepts.mp (exact.mpr ⟨positive, other, listed, contains⟩).2 within⟩
    · intro decides
      have within := (decides.ranged starts).2
      constructor
      · intro accepted
        exact ⟨positive, block, member, accepts.mp accepted.2 within⟩
      · rintro ⟨_, other, listed, contains⟩
        exact ⟨starts, accepts.mpr fun _ =>
          decides.only proper positive other listed contains⟩

/-- Comparing with the block found is right exactly when that block decides. -/
theorem decides_iff (isFound : controller.found address = some block)
    (lengthFits : length < SizeT.modulus) :
    (block.Accepts address length <-> controller.InOneBlock address length) <->
      controller.Decides block address length := by
  by_cases starts : block.address ≤ address
  · rcases U8Field.reaches_cases starts (found_le isFound) with empty | ⟨nonempty, fits⟩
    · exact decides_empty empty
    · exact decides_ordinary (found_mem isFound) nonempty fits starts (found_le isFound) lengthFits
  · exact decides_before (Nat.lt_of_not_le starts)

/-! ## Lists in order -/

/-- Every block ends before any later one begins; at most the last one wraps. -/
def Ordered (controller : ByteFieldController) : Prop :=
  controller.entries.Pairwise fun first second => first.address + first.length ≤ second.address

/-- The constructor's assertion puts blocks that do not wrap in order. -/
theorem ordered_of_fit
    (fit : forall field, field ∈ controller.entries ->
      field.address + field.length < SizeT.modulus) : controller.Ordered :=
  List.pairwise_map.mp ((fieldsAreSorted_iff_pairwise fit).mp controller.sorted)

/-- In an ordered list without an empty block at address 0, the block found
decides every range that is not empty and does not wrap, and every range in front
of it. -/
theorem Ordered.decides_iff (ordered : controller.Ordered)
    (proper : forall field, field ∈ controller.entries -> ¬ field.IsEmptyAtZero)
    (isFound : controller.found address = some block) :
    controller.Decides block address length <->
      (block.address ≤ address -> (0 < length ∨ address = 0 ∧ 0 < block.length) ∧
        address + length ≤ SizeT.modulus) := by
  refine ⟨fun decides => decides.ranged, fun ranged => ⟨ranged, fun empty =>
    absurd empty (proper block (found_mem isFound)), fun _ positive other listed contains => ?_⟩⟩
  rcases contains with ⟨starts, inside, within⟩
  rcases List.find?_eq_some_iff_append.mp isFound with ⟨_, front, back, entries, passed⟩
  rw [Ordered, entries, List.pairwise_append, List.pairwise_cons] at ordered
  rw [entries, List.mem_append, List.mem_cons] at listed
  rcases listed with inFront | rfl | inBack
  · -- A block in front of the one found would have been found itself.
    have ends := ordered.2.2 other inFront block List.mem_cons_self
    have blockFits := block.address_lt
    have otherEnd : other.blockEnd = other.address + other.length - 1 :=
      U8Field.blockEnd_of_le (by omega) (by omega)
    have short := passed other inFront
    simp only [Bool.not_eq_true', decide_eq_false_iff_not] at short
    omega
  · exact ⟨starts, inside, within⟩
  · -- The block found ends before any block behind it begins.
    have ends := ordered.2.1.1 other inBack
    rcases U8Field.reaches_cases (by omega) (found_le isFound) with empty | ⟨nonempty, fits⟩
    · exact absurd empty (proper block (found_mem isFound))
    · have reaches := found_le isFound
      rw [U8Field.blockEnd_of_le nonempty fits] at reaches
      omega

/-! ## Every list of blocks -/

/-- An access check stays inside the list and answers exactly when it finds a
block, and that block decides. -/
theorem accessValid_exact_iff (controller : ByteFieldController) {address length : Nat}
    (lengthFits : length < SizeT.modulus) :
    controller.ChecksExactly address length <->
      Exists fun block => controller.found address = some block ∧
        controller.Decides block address length := by
  constructor
  · rintro ⟨valid, checked, exact⟩
    rcases accessValid_eq_ok.mp checked with ⟨block, isFound, answer⟩
    exact ⟨block, isFound, (decides_iff isFound lengthFits).mp (answer.symm.trans exact)⟩
  · rintro ⟨block, isFound, decides⟩
    refine ⟨decide (block.Accepts address length),
      accessValid_eq_ok.mpr ⟨block, isFound, decide_eq_true_iff⟩, ?_⟩
    rw [decide_eq_true_iff]
    exact (decides_iff isFound lengthFits).mpr decides

/-- Two blocks of 64 bytes, each of 512 addresses. -/
def twoFields : ByteFieldController where
  entries :=
    [⟨0, 512, ⟨64, Vector.replicate 64 0, by decide⟩, by decide, by decide⟩,
      ⟨512, 512, ⟨64, Vector.replicate 64 0, by decide⟩, by decide, by decide⟩]
  sorted := by decide

/-- A range at the end of the first block. -/
theorem accessValid_exact_first_field : twoFields.ChecksExactly 1 511 := by
  have inFirst : forall other, other ∈ twoFields.entries -> other.Contains 1 511 ->
      twoFields.entries[0].Contains 1 511 := fun _ _ _ => by
    unfold U8Field.Contains
    decide
  refine (twoFields.accessValid_exact_iff (by decide)).mpr ⟨twoFields.entries[0], rfl, ?_⟩
  exact ⟨fun _ => by decide, fun empty => absurd empty.2 (by decide), fun _ _ => inFirst⟩

/-- Behind the last block the check reads behind the list; an empty range and one
that wraps are valid. -/
theorem accessValid_inexact :
    ¬ twoFields.ChecksExactly 1024 1 ∧ ¬ twoFields.ChecksExactly 1 0 ∧
      ¬ twoFields.ChecksExactly 2 (SizeT.modulus - 1) := by
  have behind : twoFields.accessValid 1024 1 = .error ⟨2, 2⟩ := rfl
  have empty : twoFields.accessValid 1 0 = .ok true := rfl
  have wrapping : twoFields.accessValid 2 (SizeT.modulus - 1) = .ok true := rfl
  refine ⟨?_, ?_, ?_⟩
  · rintro ⟨valid, checked, _⟩
    rw [behind] at checked
    cases checked
  · rintro ⟨valid, checked, exact⟩
    rw [empty] at checked
    cases checked
    exact Nat.lt_irrefl 0 (exact.mp rfl).1
  · rintro ⟨valid, checked, exact⟩
    rw [wrapping] at checked
    cases checked
    rcases (exact.mp rfl).2 with ⟨block, _, contains⟩
    exact absurd contains.2.2 (by decide)

end ByteFieldController

end Modbus
