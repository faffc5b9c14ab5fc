import Mathlib.Order.Interval.Set.Basic
import ModbusBasic.Memory.Cells

namespace Memory

/-!
# Extents in order

An extent is a half-open range of positions, and it may be empty.  A list of
extents is in order when each of them stops before any later one starts.  It is
enough to compare neighbours, because no extent stops before it starts.

`lookup` looks at the stops only.  In an ordered list it finds the extent around
a position.  Around a position that no extent holds, it finds the first extent
behind it, whatever the order.
-/

/-- The positions from `start` up to, and without, `stop`. -/
structure Extent (Position : Type) [LE Position] where
  start : Position
  stop : Position
  start_le_stop : start ≤ stop

namespace Extent

variable {Position : Type} [LinearOrder Position]

def positions (extent : Extent Position) : Set Position := Set.Ico extent.start extent.stop

def Before (first second : Extent Position) : Prop := first.stop ≤ second.start

theorem Before.trans {first second third : Extent Position} (front : first.Before second)
    (back : second.Before third) : first.Before third := by
  calc
    first.stop ≤ second.start := front
    _ ≤ second.stop := second.start_le_stop
    _ ≤ third.start := back

instance : IsTrans (Extent Position) Before := ⟨fun _ _ _ => Before.trans⟩

/-- The first extent that stops behind the position; the number of extents if
there is none. -/
def lookup (extents : List (Extent Position)) (position : Position) : Nat :=
  extents.findIdx fun extent => position < extent.stop

variable {extents : List (Extent Position)} {position : Position}

theorem lookup_of_mem (ordered : extents.Pairwise Before) {place : Nat} {extent : Extent Position}
    (located : extents[place]? = some extent) (inside : position ∈ extent.positions) :
    lookup extents position = place := by
  have reaches : position < extent.stop := inside.2
  apply findIdx_target (fun extent => position ∈ extent.positions) located
    (decide_eq_true reaches) inside
  apply ordered.imp
  intro first second before target
  have behind : first.stop ≤ position := le_trans before target.1
  exact decide_eq_false (not_lt_of_ge behind)

/-- An extent that does not hold the position stops behind it only if it starts
behind it. -/
theorem lookup_of_not_mem
    (uncovered : forall extent, extent ∈ extents -> position ∉ extent.positions) :
    lookup extents position = extents.findIdx fun extent => position < extent.start := by
  apply findIdx_congr
  intro extent listed
  apply decide_eq_decide.mpr
  constructor
  · intro reaches
    by_contra starts
    exact uncovered extent listed ⟨le_of_not_gt starts, reaches⟩
  · intro behind
    exact lt_of_lt_of_le behind extent.start_le_stop

end Extent

end Memory
