import Mathlib.Logic.Relation

namespace Memory

/-!
# Computations that may leave their arrays

A program over raw arrays has no answer of its own for an access outside
them.  Here such an access ends the computation in a `Fault` that names the
cell asked for, so a statement about a result also says that every access
before it was inside its array.

The counted loop `forRange` is the only loop of this library.  Its rule
`forRange_ok` carries an invariant indexed by the iterations already done and
proves that the loop completes.
-/

/-- An access outside an array: the cell asked for and the cells there are. -/
structure Fault where
  index : Nat
  size : Nat
deriving DecidableEq, Repr

/-- A computation whose array accesses are all checked. -/
abbrev Checked (X : Type) := Except Fault X

instance {X : Type} [DecidableEq X] : DecidableEq (Checked X)
  | .ok first, .ok second =>
      decidable_of_iff (first = second) ⟨congrArg _, Except.ok.inj⟩
  | .error first, .error second =>
      decidable_of_iff (first = second) ⟨congrArg _, Except.error.inj⟩
  | .ok _, .error _ => isFalse (fun same => by cases same)
  | .error _, .ok _ => isFalse (fun same => by cases same)

variable {X Y State : Type}

@[simp] theorem ok_bind (value : X) (next : X -> Checked Y) :
    ((Except.ok value : Checked X) >>= next) = next value :=
  rfl

@[simp] theorem error_bind (fault : Fault) (next : X -> Checked Y) :
    ((Except.error fault : Checked X) >>= next) = .error fault :=
  rfl

@[simp] theorem pure_eq_ok (value : X) : (pure value : Checked X) = .ok value :=
  rfl

/-- A sequence completes exactly when its first part does and the rest
completes from the value of the first part. -/
theorem bind_eq_ok {first : Checked X} {next : X -> Checked Y} {result : Y} :
    (first >>= next) = .ok result <->
      Exists fun value => first = .ok value ∧ next value = .ok result := by
  cases first with
  | error fault => simp
  | ok value => simp

/-- A computation that completes for every element of a list. -/
theorem mapM_ok {each : X -> Checked Y} {value : X -> Y} {elements : List X}
    (completes : forall element, element ∈ elements -> each element = .ok (value element)) :
    elements.mapM each = .ok (elements.map value) := by
  induction elements with
  | nil => rfl
  | cons element rest inductionHypothesis =>
      rw [List.mapM_cons, completes element List.mem_cons_self, ok_bind,
        inductionHypothesis fun other listed => completes other (List.mem_cons_of_mem element listed)]
      rfl

/-- What completes for a whole list completes for each element. -/
theorem mapM_each {each : X -> Checked Y} {elements : List X} {results : List Y}
    (completes : elements.mapM each = .ok results) {element : X} (listed : element ∈ elements) :
    Exists fun result => each element = .ok result := by
  induction elements generalizing results with
  | nil => exact absurd listed List.not_mem_nil
  | cons first rest inductionHypothesis =>
      rw [List.mapM_cons] at completes
      rcases bind_eq_ok.mp completes with ⟨result, begun, continued⟩
      rcases bind_eq_ok.mp continued with ⟨others, later, _⟩
      rcases List.mem_cons.mp listed with rfl | member
      · exact ⟨result, begun⟩
      · exact inductionHypothesis later member

/-! ## What a computation completes with -/

/-- Whatever the computation completes with has the property. -/
def Ensures (computation : Checked X) (Post : X -> Prop) : Prop :=
  forall result, computation = .ok result -> Post result

theorem Ensures.ok {Post : X -> Prop} {value : X} (holds : Post value) :
    Ensures (.ok value) Post := by
  rintro _ ⟨⟩
  exact holds

/-- Only the last part of a sequence needs to be looked at. -/
theorem Ensures.bind {first : Checked X} {next : X -> Checked Y} {Post : Y -> Prop}
    (each : forall value, first = .ok value -> Ensures (next value) Post) :
    Ensures (first >>= next) Post := by
  intro result completes
  rcases bind_eq_ok.mp completes with ⟨value, reached, last⟩
  exact each value reached result last

/-! ## Counted loops -/

/-- `for (i = 0; i < count; i++) state = body(i, state)`. -/
def forRange (body : Nat -> State -> Checked State) : Nat -> State -> Checked State
  | 0, state => .ok state
  | count + 1, state => forRange body count state >>= body count

@[simp] theorem forRange_zero (body : Nat -> State -> Checked State) (state : State) :
    forRange body 0 state = .ok state :=
  rfl

theorem forRange_succ (body : Nat -> State -> Checked State) (count : Nat) (state : State) :
    forRange body (count + 1) state = forRange body count state >>= body count :=
  rfl

/-- A loop that completes has completed each of its iterations. -/
theorem forRange_round {body : Nat -> State -> Checked State} {count : Nat} {start result : State}
    (completes : forRange body count start = .ok result) {index : Nat} (before : index < count) :
    Exists fun reached => forRange body index start = .ok reached ∧
      Exists fun next => body index reached = .ok next := by
  induction count generalizing result with
  | zero => exact absurd before (Nat.not_lt_zero index)
  | succ count inductionHypothesis =>
      rw [forRange_succ, bind_eq_ok] at completes
      rcases completes with ⟨middle, reached, last⟩
      rcases Nat.lt_succ_iff_lt_or_eq.mp before with earlier | rfl
      · exact inductionHypothesis reached earlier
      · exact ⟨middle, reached, result, last⟩

/-- Loops whose iterations agree up to the count are the same. -/
theorem forRange_congr {first second : Nat -> State -> Checked State} {count : Nat}
    (same : forall index state, index < count -> first index state = second index state)
    (state : State) : forRange first count state = forRange second count state := by
  induction count with
  | zero => rfl
  | succ count inductionHypothesis =>
      rw [forRange_succ, forRange_succ, inductionHypothesis (fun index state before =>
        same index state (Nat.lt_succ_of_lt before))]
      congr 1
      funext middle
      exact same count middle (Nat.lt_succ_self count)

/-- A loop that faults early faults at every larger count. -/
theorem forRange_error (body : Nat -> State -> Checked State) {start : State} {fault : Fault}
    {early count : Nat} (failed : forRange body early start = .error fault) (later : early ≤ count) :
    forRange body count start = .error fault := by
  induction later with
  | refl => exact failed
  | step _ inductionHypothesis => rw [forRange_succ, inductionHypothesis, error_bind]

/-- Total rule: when every iteration completes from the invariant and restores
it for the next index, the loop completes with the invariant at its count. -/
theorem forRange_ok (body : Nat -> State -> Checked State) (start : State)
    (Invariant : Nat -> State -> Prop) (count : Nat) (holds : Invariant 0 start)
    (step : forall index state, index < count -> Invariant index state ->
      Exists fun next => body index state = .ok next ∧ Invariant (index + 1) next) :
    Exists fun result => forRange body count start = .ok result ∧ Invariant count result := by
  induction count with
  | zero => exact ⟨start, rfl, holds⟩
  | succ count inductionHypothesis =>
      rcases inductionHypothesis (fun index state bound =>
        step index state (Nat.lt_succ_of_lt bound)) with ⟨middle, reached, kept⟩
      rcases step count middle (Nat.lt_succ_self count) kept with ⟨result, last, finished⟩
      refine ⟨result, ?_, finished⟩
      rw [forRange_succ, reached, ok_bind, last]

end Memory
