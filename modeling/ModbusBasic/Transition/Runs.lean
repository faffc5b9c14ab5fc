import ModbusBasic.Memory.Checked

namespace Transition

open Memory

/-!
# Runs of a checked machine

A machine is a step function from a state and an input to a checked state.
`run` feeds it a list of inputs.  `run_simulates` is the forward simulation
rule: when every permitted abstract step is matched by a concrete step that
completes, every permitted run is matched by a run that completes.

A machine may also answer each input with an output.  `trace` collects them,
`behaviour` is what an abstract machine answers, and `trace_refines` is the
simulation rule for such machines: the outputs are the same, one by one.
-/

variable {State Input Output Abstract : Type}

/-- Feed the inputs in order, stopping at the first fault. -/
def run (step : State -> Input -> Checked State) : State -> List Input -> Checked State
  | state, [] => .ok state
  | state, input :: rest => step state input >>= fun next => run step next rest

@[simp] theorem run_nil (step : State -> Input -> Checked State) (state : State) :
    run step state [] = .ok state :=
  rfl

theorem run_cons (step : State -> Input -> Checked State) (state : State) (input : Input)
    (rest : List Input) :
    run step state (input :: rest) = step state input >>= fun next => run step next rest :=
  rfl

theorem run_append (step : State -> Input -> Checked State) (state : State)
    (first second : List Input) :
    run step state (first ++ second) =
      run step state first >>= fun middle => run step middle second := by
  induction first generalizing state with
  | nil => rfl
  | cons input rest inductionHypothesis =>
      rw [List.cons_append, run_cons, run_cons]
      cases step state input with
      | error fault => rfl
      | ok next => exact inductionHypothesis next

theorem run_concat (step : State -> Input -> Checked State) (state : State)
    (inputs : List Input) (last : Input) :
    run step state (inputs ++ [last]) = run step state inputs >>= fun middle => step middle last := by
  rw [run_append]
  congr 1
  funext middle
  rw [run_cons]
  cases step middle last <;> rfl

/-- What one step preserves, every run that completes preserves. -/
theorem run_invariant (step : State -> Input -> Checked State) (Invariant : State -> Prop)
    (preserved : forall state input next, Invariant state -> step state input = .ok next ->
      Invariant next)
    {state result : State} {inputs : List Input} (holds : Invariant state)
    (completes : run step state inputs = .ok result) : Invariant result := by
  induction inputs generalizing state with
  | nil =>
      cases completes
      exact holds
  | cons input rest inductionHypothesis =>
      rw [run_cons, bind_eq_ok] at completes
      rcases completes with ⟨next, stepped, continued⟩
      exact inductionHypothesis (preserved state input next holds stepped) continued

/-- Every step of the abstract run is permitted. -/
def Permitted (advance : Abstract -> Input -> Abstract) (Permits : Abstract -> Input -> Prop) :
    Abstract -> List Input -> Prop
  | _, [] => True
  | state, input :: rest =>
      Permits state input ∧ Permitted advance Permits (advance state input) rest

theorem permitted_append (advance : Abstract -> Input -> Abstract)
    (Permits : Abstract -> Input -> Prop) (state : Abstract) (first second : List Input) :
    Permitted advance Permits state (first ++ second) <->
      Permitted advance Permits state first ∧
        Permitted advance Permits (first.foldl advance state) second := by
  induction first generalizing state with
  | nil => simp [Permitted]
  | cons input rest inductionHypothesis =>
      simp only [List.cons_append, Permitted, List.foldl_cons, inductionHypothesis, and_assoc]

theorem Permitted.imp {advance : Abstract -> Input -> Abstract}
    {Permits Admits : Abstract -> Input -> Prop}
    (weaker : forall state input, Permits state input -> Admits state input) {state : Abstract}
    {inputs : List Input} (permitted : Permitted advance Permits state inputs) :
    Permitted advance Admits state inputs := by
  induction inputs generalizing state with
  | nil => exact True.intro
  | cons input rest inductionHypothesis =>
      exact ⟨weaker state input permitted.1, inductionHypothesis permitted.2⟩

/-- What permitted abstract steps preserve holds after a permitted run. -/
theorem Permitted.invariant {advance : Abstract -> Input -> Abstract}
    {Permits : Abstract -> Input -> Prop} (Invariant : Abstract -> Prop)
    (preserved : forall state input, Invariant state -> Permits state input ->
      Invariant (advance state input))
    {state : Abstract} {inputs : List Input} (holds : Invariant state)
    (permitted : Permitted advance Permits state inputs) :
    Invariant (inputs.foldl advance state) := by
  induction inputs generalizing state with
  | nil => exact holds
  | cons input rest inductionHypothesis =>
      exact inductionHypothesis (preserved state input holds permitted.1) permitted.2

/-- Forward simulation over whole runs. -/
theorem run_simulates (step : State -> Input -> Checked State)
    (advance : Abstract -> Input -> Abstract) (Permits : Abstract -> Input -> Prop)
    (Related : Abstract -> State -> Prop)
    (simulates : forall abstract state input, Related abstract state -> Permits abstract input ->
      Exists fun next => step state input = .ok next ∧ Related (advance abstract input) next)
    {abstract : Abstract} {state : State} {inputs : List Input}
    (related : Related abstract state) (permitted : Permitted advance Permits abstract inputs) :
    Exists fun result => run step state inputs = .ok result ∧
      Related (inputs.foldl advance abstract) result := by
  induction inputs generalizing abstract state with
  | nil => exact ⟨state, rfl, related⟩
  | cons input rest inductionHypothesis =>
      rcases simulates abstract state input related permitted.1 with ⟨next, stepped, kept⟩
      rcases inductionHypothesis kept permitted.2 with ⟨result, completes, finished⟩
      refine ⟨result, ?_, finished⟩
      rw [run_cons, stepped, ok_bind, completes]

/-! ## What holds on the way -/

/-- `Good` holds in every state the run passes through. -/
def Always (step : State -> Input -> Checked State) (Good : State -> Prop) (state : State)
    (inputs : List Input) : Prop :=
  forall front rest reached, front ++ rest = inputs -> run step state front = .ok reached ->
    Good reached

/-- Every step of the run is one that `Admits` allows. -/
def Admitted (step : State -> Input -> Checked State) (Admits : State -> Input -> Prop)
    (state : State) (inputs : List Input) : Prop :=
  forall front input rest reached, front ++ input :: rest = inputs ->
    run step state front = .ok reached -> Admits reached input

section

variable {step : State -> Input -> Checked State} {state : State} {inputs : List Input}

theorem Always.admitted {Good : State -> Prop} (always : Always step Good state inputs) :
    Admitted step (fun reached _ => Good reached) state inputs :=
  fun front input rest _ split completes => always front (input :: rest) _ split completes

theorem admitted_of_forall {Allowed : Input -> Prop}
    (allowed : forall input, input ∈ inputs -> Allowed input) :
    Admitted step (fun _ input => Allowed input) state inputs := by
  rintro front input rest reached rfl _
  exact allowed input (List.mem_append_right front List.mem_cons_self)

theorem Admitted.and {Admits Allows : State -> Input -> Prop}
    (admitted : Admitted step Admits state inputs) (allowed : Admitted step Allows state inputs) :
    Admitted step (fun reached input => Admits reached input ∧ Allows reached input) state inputs :=
  fun front input rest reached split completes =>
    ⟨admitted front input rest reached split completes,
      allowed front input rest reached split completes⟩

theorem Admitted.front {Admits : State -> Input -> Prop} {first second : List Input}
    (admitted : Admitted step Admits state (first ++ second)) :
    Admitted step Admits state first := by
  intro front input rest reached split completes
  apply admitted front input (rest ++ second) reached _ completes
  rw [← split, List.append_assoc, List.cons_append]

theorem Admitted.next {Admits : State -> Input -> Prop} {input : Input} {rest : List Input}
    {next : State} (admitted : Admitted step Admits state (input :: rest))
    (stepped : step state input = .ok next) : Admitted step Admits next rest := by
  intro front other tail reached split completes
  apply admitted (input :: front) other tail reached
  · rw [List.cons_append, split]
  · rw [run_cons, stepped, ok_bind, completes]

/-- What an admitted step completes with and preserves, an admitted run does. -/
theorem Admitted.completes {Admits : State -> Input -> Prop} (Invariant : State -> Prop)
    (preserved : forall state input, Invariant state -> Admits state input ->
      Exists fun next => step state input = .ok next ∧ Invariant next)
    (holds : Invariant state) (admitted : Admitted step Admits state inputs) :
    Exists fun final => run step state inputs = .ok final ∧ Invariant final := by
  induction inputs generalizing state with
  | nil => exact ⟨state, rfl, holds⟩
  | cons input rest inductionHypothesis =>
      rcases preserved state input holds (admitted [] input rest state rfl rfl) with
        ⟨next, stepped, kept⟩
      rcases inductionHypothesis kept (admitted.next stepped) with ⟨final, completes, finished⟩
      refine ⟨final, ?_, finished⟩
      rw [run_cons, stepped, ok_bind, completes]

/-- An invariant of the admitted steps holds all along an admitted run. -/
theorem Admitted.always {Admits : State -> Input -> Prop} (Invariant : State -> Prop)
    (preserved : forall state input, Invariant state -> Admits state input ->
      Exists fun next => step state input = .ok next ∧ Invariant next)
    (holds : Invariant state) (admitted : Admitted step Admits state inputs) :
    Always step Invariant state inputs := by
  intro front rest reached split completes
  rw [← split] at admitted
  rcases admitted.front.completes Invariant preserved holds with ⟨final, same, kept⟩
  rw [same] at completes
  cases completes
  exact kept

/-- The same where a step may fault: what admitted steps preserve holds in every
state an admitted run reaches. -/
theorem Admitted.always_reached {Admits : State -> Input -> Prop} (Invariant : State -> Prop)
    (preserved : forall state input next, Invariant state -> Admits state input ->
      step state input = .ok next -> Invariant next)
    (holds : Invariant state) (admitted : Admitted step Admits state inputs) :
    Always step Invariant state inputs := by
  intro front rest reached split completes
  induction front generalizing state inputs with
  | nil =>
      cases completes
      exact holds
  | cons input front inductionHypothesis =>
      rw [run_cons, bind_eq_ok] at completes
      rcases completes with ⟨next, stepped, continued⟩
      rw [List.cons_append] at split
      have first := admitted [] input (front ++ rest) state split rfl
      rw [← split] at admitted
      exact inductionHypothesis (preserved state input next holds first stepped)
        (admitted.next stepped) rfl continued

theorem always_nil_iff {Good : State -> Prop} : Always step Good state [] <-> Good state := by
  constructor
  · exact fun always => always [] [] state rfl rfl
  · intro good front rest reached split completes
    rw [(List.append_eq_nil_iff.mp split).1] at completes
    cases completes
    exact good

theorem always_cons_iff {Good : State -> Prop} {input : Input} {rest : List Input} :
    Always step Good state (input :: rest) <->
      Good state ∧ forall next, step state input = .ok next -> Always step Good next rest := by
  constructor
  · intro always
    refine ⟨always [] _ state rfl rfl, fun next stepped front tail reached split completes => ?_⟩
    apply always (input :: front) tail reached
    · rw [List.cons_append, split]
    · rw [run_cons, stepped, ok_bind, completes]
  · rintro ⟨good, later⟩ front tail reached split completes
    cases front with
    | nil =>
        cases completes
        exact good
    | cons first front =>
        rw [List.cons_append] at split
        cases split
        rw [run_cons, bind_eq_ok] at completes
        rcases completes with ⟨next, stepped, continued⟩
        exact later next stepped front tail reached rfl continued

instance Always.decidable {Good : State -> Prop} [DecidablePred Good] :
    (state : State) -> (inputs : List Input) -> Decidable (Always step Good state inputs)
  | state, [] => decidable_of_iff (Good state) always_nil_iff.symm
  | state, input :: rest =>
      match stepped : step state input with
      | .error _ => decidable_of_iff (Good state) (by simp [always_cons_iff, stepped])
      | .ok next =>
          let later : Decidable (Always step Good next rest) := Always.decidable next rest
          decidable_of_iff (Good state ∧ Always step Good next rest)
            (by simp [always_cons_iff, stepped])

theorem admitted_nil {Admits : State -> Input -> Prop} : Admitted step Admits state [] := by
  intro front input rest reached split completes
  exact absurd split (by simp)

theorem admitted_cons_iff {Admits : State -> Input -> Prop} {input : Input} {rest : List Input} :
    Admitted step Admits state (input :: rest) <->
      Admits state input ∧
        forall next, step state input = .ok next -> Admitted step Admits next rest := by
  constructor
  · intro admitted
    exact ⟨admitted [] input rest state rfl rfl, fun next stepped => admitted.next stepped⟩
  · rintro ⟨admits, later⟩ front other tail reached split completes
    cases front with
    | nil =>
        cases completes
        cases split
        exact admits
    | cons first front =>
        rw [List.cons_append] at split
        cases split
        rw [run_cons, bind_eq_ok] at completes
        rcases completes with ⟨next, stepped, continued⟩
        exact later next stepped front other tail reached rfl continued

instance Admitted.decidable {Admits : State -> Input -> Prop}
    [forall state input, Decidable (Admits state input)] :
    (state : State) -> (inputs : List Input) -> Decidable (Admitted step Admits state inputs)
  | _, [] => isTrue admitted_nil
  | state, input :: rest =>
      match stepped : step state input with
      | .error _ => decidable_of_iff (Admits state input) (by simp [admitted_cons_iff, stepped])
      | .ok next =>
          let later : Decidable (Admitted step Admits next rest) := Admitted.decidable next rest
          decidable_of_iff (Admits state input ∧ Admitted step Admits next rest)
            (by simp [admitted_cons_iff, stepped])

end

/-! ## Machines with outputs -/

/-- Feed the inputs in order and collect what the machine answers. -/
def trace (step : State -> Input -> Checked (State × Output)) :
    State -> List Input -> Checked (State × List Output)
  | state, [] => .ok (state, [])
  | state, input :: rest =>
      step state input >>= fun next => trace step next.1 rest >>= fun last =>
        .ok (last.1, next.2 :: last.2)

/-- The last state and the answers of a machine that always completes. -/
def behaviour (advance : Abstract -> Input -> Abstract × Output) :
    Abstract -> List Input -> Abstract × List Output
  | state, [] => (state, [])
  | state, input :: rest =>
      let next := advance state input
      let last := behaviour advance next.1 rest
      (last.1, next.2 :: last.2)

@[simp] theorem trace_nil (step : State -> Input -> Checked (State × Output)) (state : State) :
    trace step state [] = .ok (state, []) :=
  rfl

theorem trace_cons (step : State -> Input -> Checked (State × Output)) (state : State)
    (input : Input) (rest : List Input) :
    trace step state (input :: rest) =
      step state input >>= fun next => trace step next.1 rest >>= fun last =>
        .ok (last.1, next.2 :: last.2) :=
  rfl

theorem trace_append (step : State -> Input -> Checked (State × Output)) (state : State)
    (first second : List Input) :
    trace step state (first ++ second) =
      trace step state first >>= fun middle => trace step middle.1 second >>= fun last =>
        .ok (last.1, middle.2 ++ last.2) := by
  induction first generalizing state with
  | nil =>
      rw [List.nil_append, trace_nil, ok_bind]
      cases trace step state second <;> rfl
  | cons input rest inductionHypothesis =>
      rw [List.cons_append, trace_cons, trace_cons]
      cases step state input with
      | error fault => rfl
      | ok next =>
          rw [ok_bind, ok_bind, inductionHypothesis]
          cases trace step next.1 rest with
          | error fault => rfl
          | ok middle =>
              rw [ok_bind, ok_bind, ok_bind]
              cases trace step middle.1 second <;> rfl

/-- Forward simulation of machines with outputs. -/
theorem trace_refines (step : State -> Input -> Checked (State × Output))
    (advance : Abstract -> Input -> Abstract × Output) (Allowed : Input -> Prop)
    (Related : Abstract -> State -> Prop)
    (simulates : forall abstract state input, Related abstract state -> Allowed input ->
      Exists fun next => step state input = .ok (next, (advance abstract input).2) ∧
        Related (advance abstract input).1 next)
    {abstract : Abstract} {state : State} {inputs : List Input}
    (related : Related abstract state) (allowed : forall input, input ∈ inputs -> Allowed input) :
    Exists fun final =>
      trace step state inputs = .ok (final, (behaviour advance abstract inputs).2) ∧
        Related (behaviour advance abstract inputs).1 final := by
  induction inputs generalizing abstract state with
  | nil => exact ⟨state, rfl, related⟩
  | cons input rest inductionHypothesis =>
      rcases simulates abstract state input related (allowed input List.mem_cons_self) with
        ⟨next, stepped, kept⟩
      rcases inductionHypothesis kept (fun other member =>
        allowed other (List.mem_cons_of_mem input member)) with ⟨final, completes, finished⟩
      refine ⟨final, ?_, finished⟩
      rw [trace_cons, stepped, ok_bind, completes, ok_bind]
      rfl

/-- Forward simulation of a machine with outputs by one without. -/
theorem trace_simulates (step : State -> Input -> Checked (State × Output))
    (advance : Abstract -> Input -> Abstract) (Permits : Abstract -> Input -> Prop)
    (Related : Abstract -> State -> Prop)
    (simulates : forall abstract state input, Related abstract state -> Permits abstract input ->
      Exists fun next => step state input = .ok next ∧ Related (advance abstract input) next.1)
    {abstract : Abstract} {state : State} {inputs : List Input}
    (related : Related abstract state) (permitted : Permitted advance Permits abstract inputs) :
    Exists fun final => trace step state inputs = .ok final ∧
      Related (inputs.foldl advance abstract) final.1 := by
  induction inputs generalizing abstract state with
  | nil => exact ⟨(state, []), rfl, related⟩
  | cons input rest inductionHypothesis =>
      rcases simulates abstract state input related permitted.1 with ⟨next, stepped, kept⟩
      rcases inductionHypothesis kept permitted.2 with ⟨final, completes, finished⟩
      refine ⟨(final.1, next.2 :: final.2), ?_, finished⟩
      rw [trace_cons, stepped, ok_bind, completes, ok_bind]

end Transition
