import Mathlib.Data.List.Basic
import ModbusBasic.Memory.Checked

namespace Memory

/-!
# Checked arrays and block writes

An array of `n` cells is a `Vector`, so its size is part of its type and no
operation can change it.  `load` and `store` are the only accesses; a `Window`
is a writable stretch of an array that starts at some cell, which is what a
pointer and a length amount to.

Loops that fill an array are described by `splice`: the list of cells with a
block written over it.  `forRange_splice` turns a loop whose iterations each
write the next chunk into one block write of all the chunks.
-/

variable {X Y State : Type} {n : Nat}

/-! ## Single accesses -/

/-- The value of one cell. -/
def load (cells : Vector X n) (index : Nat) : Checked X :=
  if inside : index < n then .ok cells[index] else .error ⟨index, n⟩

/-- The array with one cell replaced. -/
def store (cells : Vector X n) (index : Nat) (value : X) : Checked (Vector X n) :=
  if inside : index < n then .ok (cells.set index value) else .error ⟨index, n⟩

theorem load_ok (cells : Vector X n) {index : Nat} (inside : index < n) :
    load cells index = .ok cells[index] :=
  dif_pos inside

theorem store_ok (cells : Vector X n) {index : Nat} (value : X) (inside : index < n) :
    store cells index value = .ok (cells.set index value) :=
  dif_pos inside

theorem store_outside (cells : Vector X n) {index : Nat} (value : X) (outside : n ≤ index) :
    store cells index value = .error ⟨index, n⟩ :=
  dif_neg (Nat.not_lt_of_ge outside)

theorem load_eq_ok {cells : Vector X n} {index : Nat} {value : X} :
    load cells index = .ok value <-> cells.toList[index]? = some value := by
  by_cases inside : index < n
  · rw [load_ok cells inside, List.getElem?_eq_getElem (by simpa using inside)]
    simp
  · simp [load, inside]

/-- A load sees one cell. -/
theorem load_congr {cells other : Vector X n} {index : Nat}
    (same : cells.toList[index]? = other.toList[index]?) : load cells index = load other index := by
  by_cases inside : index < n
  · have value := load_eq_ok.mp (load_ok other inside)
    rw [load_ok other inside]
    exact load_eq_ok.mpr (same.trans value)
  · rw [load, load, dif_neg inside, dif_neg inside]

/-- Reading a cell of a view that is only ever read. -/
def loadView (view : List X) (index : Nat) : Checked X :=
  match view[index]? with
  | some value => .ok value
  | none => .error ⟨index, view.length⟩

theorem loadView_eq_ok {view : List X} {index : Nat} {value : X} :
    loadView view index = .ok value <-> view[index]? = some value := by
  unfold loadView
  cases view[index]? <;> simp

theorem loadView_ok {view : List X} {index : Nat} {value : X} (found : view[index]? = some value) :
    loadView view index = .ok value :=
  loadView_eq_ok.mpr found

/-- A search finds the element it is after when the test is true there and
false in front of it. -/
theorem findIdx_target (Target : X -> Prop) {test : X -> Bool} {view : List X} {place : Nat}
    {value : X} (located : view[place]? = some value) (holds : test value = true)
    (target : Target value)
    (apart : view.Pairwise fun first second => Target second -> test first = false) :
    view.findIdx test = place := by
  rcases List.getElem?_eq_some_iff.mp located with ⟨inside, same⟩
  subst same
  apply (List.findIdx_eq inside).mpr
  refine ⟨holds, fun earlier before => ?_⟩
  exact List.pairwise_iff_getElem.mp apart earlier place _ inside before target

/-- A search finds the only element that has the property. -/
theorem findIdx_unique {test : X -> Bool} {view : List X} {place : Nat} {value : X}
    (located : view[place]? = some value) (holds : test value = true)
    (apart : view.Pairwise fun first second => ¬ (test first = true ∧ test second = true)) :
    view.findIdx test = place := by
  apply findIdx_target (fun value => test value = true) located holds holds
  apply apart.imp
  intro first second notBoth found
  exact Bool.eq_false_iff.mpr fun earlier => notBoth ⟨earlier, found⟩

/-- Searches whose tests agree on every element of the list are the same. -/
theorem findIdx_congr {first second : X -> Bool} {view : List X}
    (same : forall value, value ∈ view -> first value = second value) :
    view.findIdx first = view.findIdx second := by
  induction view with
  | nil => rfl
  | cons value rest inductionHypothesis =>
      rw [List.findIdx_cons, List.findIdx_cons, same value List.mem_cons_self,
        inductionHypothesis fun other member => same other (List.mem_cons_of_mem value member)]

/-! ## Stretches of an array -/

/-- The cells from `start` on that a read-only view of length `size` covers. -/
def readView (cells : Vector X n) (start size : Nat) : Checked (List X) :=
  if start + size ≤ n then .ok ((cells.toList.drop start).take size)
  else .error ⟨start + size, n⟩

theorem readView_ok (cells : Vector X n) {start size : Nat} (inside : start + size ≤ n) :
    readView cells start size = .ok ((cells.toList.drop start).take size) :=
  if_pos inside

/-- A view sees the cells it covers. -/
theorem readView_congr {cells other : Vector X n} {start size length : Nat}
    (same : cells.toList.take length = other.toList.take length) (within : start + size ≤ length) :
    readView cells start size = readView other start size := by
  have front : forall list : List X,
      (list.drop start).take size = ((list.take length).drop start).take size := by
    intro list
    rw [List.drop_take, List.take_take, Nat.min_eq_left (by omega)]
  unfold readView
  rw [front cells.toList, front other.toList, same]

/-- A writable view: `size` cells of an array from `start` on.  Nothing keeps a
window inside its array; a write outside either of the two bounds faults. -/
structure Window (X : Type) (n : Nat) where
  cells : Vector X n
  start : Nat
  size : Nat

namespace Window

/-- Replace the cell at a position counted from the start of the window. -/
def store (window : Window X n) (index : Nat) (value : X) : Checked (Window X n) :=
  if index < window.size then do
    let cells <- Memory.store window.cells (window.start + index) value
    return { window with cells := cells }
  else .error ⟨index, window.size⟩

theorem store_ok (window : Window X n) {index : Nat} (value : X)
    (inside : index < window.size) (fits : window.start + index < n) :
    window.store index value =
      .ok { window with cells := window.cells.set (window.start + index) value } := by
  simp [store, inside, Memory.store_ok window.cells value fits]

end Window

/-! ## Block writes -/

/-- The list with `block` written over its cells from `start` on. -/
def splice (cells : List X) (start : Nat) (block : List X) : List X :=
  cells.take start ++ block ++ cells.drop (start + block.length)

@[simp] theorem splice_nil (cells : List X) (start : Nat) : splice cells start [] = cells := by
  simp [splice]

@[simp] theorem splice_length (cells : List X) {start : Nat} {block : List X}
    (fits : start + block.length ≤ cells.length) :
    (splice cells start block).length = cells.length := by
  simp only [splice, List.length_append, List.length_take, List.length_drop]
  omega

theorem getElem?_splice (cells : List X) {start : Nat} {block : List X}
    (fits : start + block.length ≤ cells.length) (index : Nat) :
    (splice cells start block)[index]? =
      if start ≤ index ∧ index < start + block.length then block[index - start]?
      else cells[index]? := by
  simp only [splice, List.getElem?_append, List.length_append, List.length_take,
    List.getElem?_take, List.getElem?_drop]
  have front : min start cells.length = start := Nat.min_eq_left (by omega)
  rw [front]
  by_cases below : index < start
  · simp [below, show index < start + block.length by omega, Nat.not_le_of_lt below]
  · by_cases within : index < start + block.length
    · simp [below, within, Nat.le_of_not_lt below]
    · simp only [below, within, if_false, and_false]
      congr 1
      omega

/-- The cells after a slice of another list is written over some. -/
theorem getD_splice_slice (cells source : List X) (default : X) {first start count : Nat}
    (sourceFits : first + count ≤ source.length) (fits : start + count ≤ cells.length)
    (index : Nat) :
    (splice cells start ((source.drop first).take count)).getD index default =
      if start ≤ index ∧ index < start + count then
        source.getD (first + (index - start)) default
      else cells.getD index default := by
  have size : ((source.drop first).take count).length = count := by
    rw [List.length_take, List.length_drop]
    omega
  rw [List.getD_eq_getElem?_getD, getElem?_splice cells (by rwa [size]), size]
  split
  · rw [List.getElem?_take_of_lt (by omega), List.getElem?_drop, List.getD_eq_getElem?_getD]
  · rw [List.getD_eq_getElem?_getD]

/-- Writing the cell after a block makes the block one longer. -/
theorem set_after_splice (cells : List X) {start : Nat} {block : List X} (value : X)
    (fits : start + block.length < cells.length) :
    (splice cells start block).set (start + block.length) value =
      splice cells start (block ++ [value]) := by
  have bound : start + block.length ≤ cells.length := Nat.le_of_lt fits
  apply List.ext_getElem?
  intro index
  rw [List.getElem?_set, getElem?_splice cells bound, getElem?_splice cells (by simp; omega),
    splice_length cells bound]
  by_cases here : start + block.length = index
  · subst index
    simp [fits]
  · simp only [here, if_false, List.length_append, List.length_singleton]
    by_cases within : start ≤ index ∧ index < start + block.length
    · rw [if_pos within, if_pos ⟨within.1, by omega⟩, List.getElem?_append_left (by omega)]
    · rw [if_neg within, if_neg (by omega)]

/-- A block followed by the block right behind it is one block. -/
theorem splice_splice (cells : List X) {start : Nat} {first second : List X}
    (fits : start + (first ++ second).length ≤ cells.length) :
    splice (splice cells start first) (start + first.length) second =
      splice cells start (first ++ second) := by
  rw [List.length_append] at fits
  have firstFits : start + first.length ≤ cells.length := by omega
  apply List.ext_getElem?
  intro index
  rw [getElem?_splice _ (by rw [splice_length cells firstFits]; omega),
    getElem?_splice cells firstFits, getElem?_splice cells (by rw [List.length_append]; omega)]
  simp only [List.length_append]
  by_cases inSecond : start + first.length ≤ index ∧ index < start + first.length + second.length
  · rw [if_pos inSecond, if_pos (by omega), List.getElem?_append_right (by omega)]
    congr 1
    omega
  · rw [if_neg inSecond]
    by_cases inFirst : start ≤ index ∧ index < start + first.length
    · rw [if_pos inFirst, if_pos (by omega), List.getElem?_append_left (by omega)]
    · rw [if_neg inFirst, if_neg (by omega)]

/-- The cells up to the end of a block are the old front and the block. -/
theorem take_splice_end (cells : List X) {start : Nat} {block : List X}
    (fits : start + block.length ≤ cells.length) :
    (splice cells start block).take (start + block.length) = cells.take start ++ block := by
  have exactFront : (cells.take start ++ block).length = start + block.length := by
    rw [List.length_append, List.length_take]
    omega
  rw [splice, List.take_append_of_le_length (by omega), List.take_of_length_le (by omega)]

/-- A block can be read back. -/
theorem drop_take_splice (cells : List X) {start : Nat} {block : List X}
    (fits : start + block.length ≤ cells.length) :
    ((splice cells start block).drop start).take block.length = block := by
  have exactFront : (cells.take start).length = start := by
    rw [List.length_take]
    omega
  rw [splice, List.append_assoc, List.drop_left' exactFront, List.take_left' rfl]

/-- Replacing one cell is writing a block of one. -/
theorem set_eq_splice (cells : List X) {start : Nat} (value : X) (inside : start < cells.length) :
    cells.set start value = splice cells start [value] := by
  have extended : (splice cells start []).set (start + 0) value =
      splice cells start ([] ++ [value]) := set_after_splice cells value inside
  rwa [splice_nil] at extended

/-- A cell in front of a block may be replaced before or after the block is
written. -/
theorem set_before_splice (cells : List X) {start index : Nat} {block : List X} (value : X)
    (before : index < start) (fits : start + block.length ≤ cells.length) :
    (splice cells start block).set index value = splice (cells.set index value) start block := by
  have exactFront : (cells.take start).length = start := by
    rw [List.length_take]
    omega
  rw [splice, splice, List.append_assoc, List.set_append_left _ _ (by omega), ← List.take_set,
    ← List.append_assoc, List.drop_set_of_lt (by omega)]

/-- Two cells next to each other are a block of two. -/
theorem set_pair (cells : List X) {start : Nat} (first second : X)
    (fits : start + 2 ≤ cells.length) :
    (cells.set start first).set (start + 1) second = splice cells start [first, second] := by
  rw [set_eq_splice cells first (by omega)]
  exact set_after_splice cells second (by rw [List.length_singleton]; omega)

/-- The cells up to the end of two that were written behind a front. -/
theorem take_set_pair (cells : List X) {start : Nat} (first second : X)
    (fits : start + 2 ≤ cells.length) :
    ((cells.set start first).set (start + 1) second).take (start + 2) =
      cells.take start ++ [first, second] := by
  have taken : (splice cells start [first, second]).take (start + [first, second].length) =
      cells.take start ++ [first, second] := take_splice_end cells fits
  rw [set_pair cells first second fits]
  exact taken

/-- Two writes through a window, one behind the other. -/
theorem Window.store_pair (window : Window X n) {index : Nat} (first second : X)
    (inside : index + 1 < window.size) (fits : window.start + index + 1 < n) :
    Exists fun result => (window.store index first >>= fun next =>
        next.store (index + 1) second) = .ok result ∧
      (result.start = window.start ∧ result.size = window.size) ∧
      result.cells.toList = splice window.cells.toList (window.start + index) [first, second] := by
  let middle : Window X n :=
    { window with cells := window.cells.set (window.start + index) first }
  let result : Window X n :=
    { window with cells := middle.cells.set (window.start + (index + 1)) second }
  have stored : window.store index first = .ok middle :=
    window.store_ok first (by omega) (by omega)
  have last : middle.store (index + 1) second = .ok result :=
    middle.store_ok second inside fits
  refine ⟨result, by rw [stored, ok_bind, last], ⟨rfl, rfl⟩, ?_⟩
  rw [← set_pair _ _ _ (by rw [Vector.length_toList]; omega)]
  simp only [result, middle, Vector.toList_set, Nat.add_assoc]

/-! ## Loops that fill an array -/

/-- The chunks written by the first `count` iterations, in order. -/
def chunks (chunk : Nat -> List X) (count : Nat) : List X :=
  (List.range count).flatMap chunk

@[simp] theorem chunks_zero (chunk : Nat -> List X) : chunks chunk 0 = [] :=
  rfl

theorem chunks_succ (chunk : Nat -> List X) (count : Nat) :
    chunks chunk (count + 1) = chunks chunk count ++ chunk count := by
  simp [chunks, List.range_succ, List.flatMap_append]

theorem chunks_length (chunk : Nat -> List X) (width : Nat)
    (same : forall index, (chunk index).length = width) (count : Nat) :
    (chunks chunk count).length = count * width := by
  induction count with
  | zero => simp
  | succ count inductionHypothesis =>
      rw [chunks_succ, List.length_append, inductionHypothesis, same, Nat.succ_mul]

/-- The pairs of neighbouring cells from `start` on, in order. -/
theorem chunks_pairs (cells : List X) (default : X) {start count : Nat}
    (fits : start + count * 2 ≤ cells.length) :
    chunks (fun index => [cells.getD (start + index * 2) default,
        cells.getD (start + index * 2 + 1) default]) count =
      (cells.drop start).take (count * 2) := by
  induction count with
  | zero => simp
  | succ count inductionHypothesis =>
      have pair : (cells.drop (start + count * 2)).take 2 =
          [cells.getD (start + count * 2) default, cells.getD (start + count * 2 + 1) default] := by
        rw [List.drop_eq_getElem_cons (by omega), List.drop_eq_getElem_cons (by omega),
          List.getD_eq_getElem?_getD, List.getD_eq_getElem?_getD,
          List.getElem?_eq_getElem (by omega), List.getElem?_eq_getElem (by omega)]
        rfl
      rw [chunks_succ, inductionHypothesis (by omega), ← pair, Nat.succ_mul, List.take_add,
        List.drop_drop]

/-- A loop whose iterations write chunks of one width, each behind the last,
writes them as one block.  `view` picks the written cells out of the state. -/
theorem forRange_splice (body : Nat -> State -> Checked State) (view : State -> List X)
    (Keeps : State -> Prop) (start width : Nat) (chunk : Nat -> List X) (count : Nat)
    (initial : State) (kept : Keeps initial)
    (same : forall index, (chunk index).length = width)
    (fits : start + count * width ≤ (view initial).length)
    (step : forall index state, index < count -> Keeps state ->
      (view state).length = (view initial).length ->
      Exists fun next => body index state = .ok next ∧ Keeps next ∧
        view next = splice (view state) (start + index * width) (chunk index)) :
    Exists fun result => forRange body count initial = .ok result ∧ Keeps result ∧
      view result = splice (view initial) start (chunks chunk count) := by
  have bound : forall index, index ≤ count ->
      start + (chunks chunk index).length ≤ (view initial).length := by
    intro index before
    rw [chunks_length chunk width same]
    exact Nat.le_trans (Nat.add_le_add_left (Nat.mul_le_mul_right width before) start) fits
  rcases forRange_ok body initial
      (fun index state => Keeps state ∧ (index ≤ count ->
        view state = splice (view initial) start (chunks chunk index)))
      count ⟨kept, fun _ => by simp⟩ (by
        intro index state before invariant
        rcases invariant with ⟨keeps, written⟩
        have written := written (Nat.le_of_lt before)
        rcases step index state before keeps (by
            rw [written, splice_length _ (bound index (Nat.le_of_lt before))]) with
          ⟨next, reached, keeps, extended⟩
        refine ⟨next, reached, keeps, fun within => ?_⟩
        rw [extended, written, ← chunks_length chunk width same index, chunks_succ,
          splice_splice]
        rw [← chunks_succ]
        exact bound (index + 1) within) with ⟨result, completes, keeps, written⟩
  exact ⟨result, completes, keeps, written (Nat.le_refl count)⟩

/-- Copying a list into an array, one cell an iteration. -/
theorem forRange_copy (body : Nat -> Vector X n -> Checked (Vector X n)) (start : Nat)
    (block : List X) (initial : Vector X n) (fits : start + block.length ≤ n)
    (step : forall index cells (inside : index < block.length),
      body index cells = store cells (start + index) block[index]) :
    Exists fun result => forRange body block.length initial = .ok result ∧
      result.toList = splice initial.toList start block := by
  rcases forRange_ok body initial (fun index cells => index ≤ block.length ->
        cells.toList = splice initial.toList start (block.take index))
      block.length (fun _ => by simp) (by
        intro index cells inside written
        have written := written (Nat.le_of_lt inside)
        have exactPrefix : (block.take index).length = index := by
          rw [List.length_take]
          omega
        refine ⟨cells.set (start + index) block[index] (by omega), ?_, fun _ => ?_⟩
        · rw [step index cells inside, store_ok]
        · rw [Vector.toList_set, written, List.take_succ_eq_append_getElem inside,
            ← set_after_splice _ _ (by rw [exactPrefix, Vector.length_toList]; omega),
            exactPrefix]) with ⟨result, completes, written⟩
  refine ⟨result, completes, ?_⟩
  rw [written (Nat.le_refl _), List.take_length]

/-- Copying a list into a window, one cell an iteration. -/
theorem forRange_fill (window : Window X n) {block : List X} (room : block.length ≤ window.size)
    (fits : window.start + block.length ≤ n) :
    Exists fun result =>
      forRange (fun index window => do
        let value <- loadView block index
        window.store index value) block.length window = .ok result ∧
      result.cells.toList = splice window.cells.toList window.start block := by
  let written (index : Nat) (filled : Window X n) : Prop :=
    filled.start = window.start ∧ filled.size = window.size ∧
      filled.cells.toList = splice window.cells.toList window.start (block.take index)
  rcases forRange_ok (fun index (window : Window X n) => do
        let value <- loadView block index
        window.store index value) window
      (fun index filled => index ≤ block.length -> written index filled)
      block.length (fun _ => ⟨rfl, rfl, by simp⟩) (by
        intro index filled inside invariant
        rcases invariant (Nat.le_of_lt inside) with ⟨start, size, front⟩
        have exactPrefix : (block.take index).length = index := by
          rw [List.length_take]
          omega
        have loaded : loadView block index = .ok block[index] :=
          loadView_ok (List.getElem?_eq_getElem inside)
        have place : filled.start + index < n := by omega
        have stored := filled.store_ok block[index] (by omega) place
        refine ⟨{ filled with cells := filled.cells.set _ block[index] place }, ?_,
          fun _ => ⟨start, size, ?_⟩⟩
        · rw [loaded, ok_bind, stored]
        · rw [Vector.toList_set, front, start, List.take_succ_eq_append_getElem inside,
            ← set_after_splice _ _ (by rw [exactPrefix, Vector.length_toList]; omega),
            exactPrefix]) with ⟨result, completes, filled⟩
  refine ⟨result, completes, ?_⟩
  rw [(filled (Nat.le_refl _)).2.2, List.take_length]

end Memory
