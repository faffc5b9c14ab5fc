import Mathlib.Data.List.Forall2
import ModbusBasic.Transition.Runs

namespace Transition

open Memory

/-!
# Rules for machines with outputs

`trace_follows` is the simulation rule where what is permitted depends on the
state of the abstract machine.  `together` gives one input to several machines
at once.  `behaviour_repeated` and `behaviour_insisted` are about machines whose
steps are idempotent: an input that is repeated, or that first fails, leaves the
state and the answer of one that is not.
-/

variable {State Input Output Abstract : Type}

/-! ## Behaviours -/

section Behaviours

variable (advance : Abstract -> Input -> Abstract × Output)

/-- The next state of a machine with outputs. -/
def nextState (state : Abstract) (input : Input) : Abstract := (advance state input).1

theorem behaviour_cons (state : Abstract) (input : Input) (rest : List Input) :
    behaviour advance state (input :: rest) =
      ((behaviour advance (nextState advance state input) rest).1,
        (advance state input).2 :: (behaviour advance (nextState advance state input) rest).2) :=
  rfl

theorem behaviour_append (state : Abstract) (first second : List Input) :
    behaviour advance state (first ++ second) =
      ((behaviour advance (behaviour advance state first).1 second).1,
        (behaviour advance state first).2 ++
          (behaviour advance (behaviour advance state first).1 second).2) := by
  induction first generalizing state with
  | nil => rfl
  | cons input rest inductionHypothesis =>
      rw [List.cons_append, behaviour_cons, inductionHypothesis, behaviour_cons, List.cons_append]

theorem behaviour_state (state : Abstract) (inputs : List Input) :
    (behaviour advance state inputs).1 = inputs.foldl (nextState advance) state := by
  induction inputs generalizing state with
  | nil => rfl
  | cons input rest inductionHypothesis =>
      rw [behaviour_cons, List.foldl_cons, inductionHypothesis]

/-- What no step changes, no run changes. -/
theorem behaviour_keeps {Seen : Type} (view : Abstract -> Seen)
    (keeps : forall state input, view (nextState advance state input) = view state)
    (state : Abstract) (inputs : List Input) :
    view (behaviour advance state inputs).1 = view state := by
  induction inputs generalizing state with
  | nil => rfl
  | cons input rest inductionHypothesis =>
      rw [behaviour_cons, inductionHypothesis, keeps]

/-- What is not relevant can be left out: the relevant inputs are answered as in a
run without the others. -/
theorem behaviour_relevant (relevant : Input -> Bool) (Alike : Abstract -> Abstract -> Prop)
    (ignored : forall state other input, relevant input = false -> Alike state other ->
      Alike (nextState advance state input) other)
    (followed : forall state other input, relevant input = true -> Alike state other ->
      (advance state input).2 = (advance other input).2 ∧
        Alike (nextState advance state input) (nextState advance other input))
    {state other : Abstract} (alike : Alike state other) (inputs : List Input) :
    ((inputs.zip (behaviour advance state inputs).2).filter fun entry => relevant entry.1) =
      (inputs.filter relevant).zip (behaviour advance other (inputs.filter relevant)).2 := by
  induction inputs generalizing state other with
  | nil => rfl
  | cons input rest inductionHypothesis =>
      rw [behaviour_cons, List.zip_cons_cons, List.filter_cons, List.filter_cons]
      by_cases matters : relevant input = true
      · rcases followed state other input matters alike with ⟨same, kept⟩
        rw [if_pos matters, if_pos matters, behaviour_cons, List.zip_cons_cons, same,
          inductionHypothesis kept]
      · have skipped := Bool.eq_false_iff.mpr matters
        rw [if_neg matters, if_neg matters]
        exact inductionHypothesis (ignored state other input skipped alike)

end Behaviours

instance Permitted.decidable {advance : Abstract -> Input -> Abstract}
    {Permits : Abstract -> Input -> Prop} [forall state input, Decidable (Permits state input)] :
    (state : Abstract) -> (inputs : List Input) -> Decidable (Permitted advance Permits state inputs)
  | _, [] => isTrue True.intro
  | state, input :: rest =>
      let _later : Decidable (Permitted advance Permits (advance state input) rest) :=
        Permitted.decidable _ rest
      inferInstanceAs (Decidable (Permits state input ∧ _))

/-- Forward simulation of machines with outputs, along what the abstract machine
permits in the states it reaches. -/
theorem trace_follows (step : State -> Input -> Checked (State × Output))
    (advance : Abstract -> Input -> Abstract × Output) (Permits : Abstract -> Input -> Prop)
    (Related : Abstract -> State -> Prop)
    (simulates : forall abstract state input, Related abstract state -> Permits abstract input ->
      Exists fun next => step state input = .ok (next, (advance abstract input).2) ∧
        Related (nextState advance abstract input) next)
    {abstract : Abstract} {state : State} {inputs : List Input}
    (related : Related abstract state)
    (permitted : Permitted (nextState advance) Permits abstract inputs) :
    Exists fun final =>
      trace step state inputs = .ok (final, (behaviour advance abstract inputs).2) ∧
        Related (behaviour advance abstract inputs).1 final := by
  induction inputs generalizing abstract state with
  | nil => exact ⟨state, rfl, related⟩
  | cons input rest inductionHypothesis =>
      rcases simulates abstract state input related permitted.1 with ⟨next, stepped, kept⟩
      rcases inductionHypothesis kept permitted.2 with ⟨final, completes, finished⟩
      refine ⟨final, ?_, finished⟩
      rw [trace_cons, stepped, ok_bind, completes, ok_bind]
      rfl

/-- When the machine takes no other step, it completes exactly what is permitted. -/
theorem trace_completes_iff (step : State -> Input -> Checked (State × Output))
    (advance : Abstract -> Input -> Abstract × Output) (Permits : Abstract -> Input -> Prop)
    (Related : Abstract -> State -> Prop)
    (simulates : forall abstract state input, Related abstract state -> Permits abstract input ->
      Exists fun next => step state input = .ok (next, (advance abstract input).2) ∧
        Related (nextState advance abstract input) next)
    (requires : forall abstract state input next, Related abstract state ->
      step state input = .ok next -> Permits abstract input)
    {abstract : Abstract} {state : State} (related : Related abstract state) (inputs : List Input) :
    (Exists fun finished => trace step state inputs = .ok finished) <->
      Permitted (nextState advance) Permits abstract inputs := by
  constructor
  · induction inputs generalizing abstract state with
    | nil => exact fun _ => True.intro
    | cons input rest inductionHypothesis =>
        rintro ⟨finished, completes⟩
        rw [trace_cons] at completes
        rcases bind_eq_ok.mp completes with ⟨next, stepped, continued⟩
        rcases bind_eq_ok.mp continued with ⟨later, completed, _⟩
        have permits := requires abstract state input next related stepped
        rcases simulates abstract state input related permits with ⟨other, same, kept⟩
        cases stepped.symm.trans same
        exact ⟨permits, inductionHypothesis kept ⟨later, completed⟩⟩
  · intro permitted
    rcases trace_follows step advance Permits Related simulates related permitted with
      ⟨final, completes, _⟩
    exact ⟨_, completes⟩

/-! ## Several machines -/

/-- All machines take the same input, one after another. -/
def together (step : State -> Input -> Checked (State × Output)) :
    List State -> Input -> Checked (List State × List Output)
  | [], _ => .ok ([], [])
  | state :: rest, input =>
      step state input >>= fun next => together step rest input >>= fun others =>
        .ok (next.1 :: others.1, next.2 :: others.2)

/-- Corresponding entries that are mapped to the same. -/
theorem map_related {X Y Z : Type} {first : X -> Z} {second : Y -> Z} {xs : List X} {ys : List Y}
    (related : List.Forall₂ (fun x y => second y = first x) xs ys) :
    ys.map second = xs.map first := by
  rw [← List.forall₂_eq_eq_eq, List.forall₂_map_left_iff, List.forall₂_map_right_iff]
  exact related.flip

/-- The entry that corresponds to an entry of the second list. -/
theorem related_before {X Y : Type} {Moves : X -> Y -> Prop} {xs : List X} {ys : List Y}
    (related : List.Forall₂ Moves xs ys) {y : Y} (listed : y ∈ ys) :
    Exists fun x => x ∈ xs ∧ Moves x y := by
  induction related with
  | nil => exact absurd listed List.not_mem_nil
  | cons moves _ inductionHypothesis =>
      rcases List.mem_cons.mp listed with rfl | later
      · exact ⟨_, List.mem_cons_self, moves⟩
      · rcases inductionHypothesis later with ⟨x, member, earlier⟩
        exact ⟨x, List.mem_cons_of_mem _ member, earlier⟩

section InParallel

variable (advance : Abstract -> Input -> Abstract × Output)

/-- All abstract machines take the same input. -/
def inParallel (states : List Abstract) (input : Input) : List Abstract × List Output :=
  (states.map fun state => nextState advance state input,
    states.map fun state => (advance state input).2)

theorem behaviour_inParallel_state (states : List Abstract) (inputs : List Input) :
    (behaviour (inParallel advance) states inputs).1 =
      states.map fun state => (behaviour advance state inputs).1 := by
  induction inputs generalizing states with
  | nil => exact (List.map_id states).symm
  | cons input rest inductionHypothesis =>
      rw [behaviour_cons, inductionHypothesis]
      exact List.map_map

/-- What one of the machines answers among the others. -/
theorem behaviour_inParallel_outputs {states : List Abstract} {place : Nat} {state : Abstract}
    (found : states[place]? = some state) (inputs : List Input) :
    (behaviour (inParallel advance) states inputs).2.map (fun outputs => outputs[place]?) =
      (behaviour advance state inputs).2.map some := by
  induction inputs generalizing states state with
  | nil => rfl
  | cons input rest inductionHypothesis =>
      have next : (nextState (inParallel advance) states input)[place]? =
          some (nextState advance state input) := by
        rw [nextState, inParallel, List.getElem?_map, found]
        rfl
      rw [behaviour_cons, List.map_cons, inductionHypothesis next, behaviour_cons, List.map_cons,
        inParallel, List.getElem?_map, found]
      rfl

/-- What every machine permits on its own, all of them permit together. -/
theorem permitted_inParallel {Permits : Abstract -> Input -> Prop} {states : List Abstract}
    {inputs : List Input}
    (permitted : forall state, state ∈ states -> Permitted (nextState advance) Permits state inputs) :
    Permitted (nextState (inParallel advance))
      (fun states input => forall state, state ∈ states -> Permits state input) states inputs := by
  induction inputs generalizing states with
  | nil => exact True.intro
  | cons input rest inductionHypothesis =>
      refine ⟨fun state listed => (permitted state listed).1, inductionHypothesis ?_⟩
      intro next listed
      rcases List.mem_map.mp listed with ⟨state, member, rfl⟩
      exact (permitted state member).2

end InParallel

/-- When every machine completes, all of them do. -/
theorem together_completes (step : State -> Input -> Checked (State × Output))
    (answer : State -> Output) (Moves : State -> State -> Prop) {states : List State}
    {input : Input}
    (completes : forall state, state ∈ states -> Exists fun next =>
      step state input = .ok (next, answer state) ∧ Moves state next) :
    Exists fun nexts => together step states input = .ok (nexts, states.map answer) ∧
      List.Forall₂ Moves states nexts := by
  induction states with
  | nil => exact ⟨[], rfl, .nil⟩
  | cons state rest inductionHypothesis =>
      rcases completes state List.mem_cons_self with ⟨next, stepped, moves⟩
      rcases inductionHypothesis (fun other member =>
        completes other (List.mem_cons_of_mem state member)) with ⟨nexts, others, moved⟩
      refine ⟨next :: nexts, ?_, .cons moves moved⟩
      rw [together, stepped, ok_bind, others, ok_bind]
      rfl

/-- A computation that completes for every element, with results that are related
to the elements. -/
theorem mapM_related {X Y : Type} {each : X -> Checked Y} {Moves : X -> Y -> Prop}
    {elements : List X}
    (completes : forall element, element ∈ elements -> Exists fun result =>
      each element = .ok result ∧ Moves element result) :
    Exists fun results => elements.mapM each = .ok results ∧
      List.Forall₂ Moves elements results := by
  induction elements with
  | nil => exact ⟨[], rfl, .nil⟩
  | cons element rest inductionHypothesis =>
      rcases completes element List.mem_cons_self with ⟨result, first, moves⟩
      rcases inductionHypothesis (fun other member =>
        completes other (List.mem_cons_of_mem element member)) with ⟨results, later, moved⟩
      refine ⟨result :: results, ?_, .cons moves moved⟩
      rw [List.mapM_cons, first, ok_bind, later]
      rfl

/-! ## Repeated inputs -/

/-- Every entry as often as its number says, and once more. -/
def repeated {X : Type} (entries : List (X × Nat)) : List X :=
  entries.flatMap fun entry => List.replicate (entry.2 + 1) entry.1

theorem repeated_cons {X : Type} (value : X) (count : Nat) (rest : List (X × Nat)) :
    repeated ((value, count) :: rest) = List.replicate (count + 1) value ++ repeated rest :=
  List.flatMap_cons

section Repeated

variable {advance : Abstract -> Input -> Abstract × Output}
  (again : forall state input, advance (advance state input).1 input = advance state input)

include again

/-- Repeating one input. -/
theorem behaviour_replicate (state : Abstract) (input : Input) (count : Nat) :
    behaviour advance state (List.replicate (count + 1) input) =
      ((advance state input).1, List.replicate (count + 1) (advance state input).2) := by
  induction count generalizing state with
  | zero => rfl
  | succ count inductionHypothesis =>
      rw [List.replicate_succ, behaviour_cons, nextState, inductionHypothesis, again]
      rfl

/-- Repeating inputs repeats the answers and leaves the state of a run without
repetition. -/
theorem behaviour_repeated (state : Abstract) (entries : List (Input × Nat)) :
    behaviour advance state (repeated entries) =
      ((behaviour advance state (entries.map Prod.fst)).1,
        repeated ((behaviour advance state (entries.map Prod.fst)).2.zip
          (entries.map Prod.snd))) := by
  induction entries generalizing state with
  | nil => rfl
  | cons entry rest inductionHypothesis =>
      rw [repeated_cons, behaviour_append, behaviour_replicate again, inductionHypothesis,
        List.map_cons, List.map_cons, behaviour_cons, List.zip_cons_cons, repeated_cons]
      rfl

end Repeated

/-! ## Inputs that may fail -/

/-- Every input is given once for each of its losses, and then without one. -/
def insisted {Loss : Type} (entries : List (Input × List Loss)) : List (Input × Option Loss) :=
  entries.flatMap fun entry => entry.2.map (fun loss => (entry.1, some loss)) ++ [(entry.1, none)]

theorem mem_insisted {Loss : Type} {entries : List (Input × List Loss)}
    {given : Input × Option Loss} (listed : given ∈ insisted entries) :
    Exists fun entry => entry ∈ entries ∧ given.1 = entry.1 ∧
      forall loss, given.2 = some loss -> loss ∈ entry.2 := by
  rcases List.mem_flatMap.mp listed with ⟨entry, member, given⟩
  refine ⟨entry, member, ?_⟩
  rcases List.mem_append.mp given with lost | last
  · rcases List.mem_map.mp lost with ⟨loss, met, rfl⟩
    refine ⟨rfl, fun other same => ?_⟩
    cases same
    exact met
  · rw [List.mem_singleton.mp last]
    refine ⟨rfl, fun loss same => ?_⟩
    cases same

/-- The outputs in the same order: one for each loss, and then the answer. -/
def heardAfter {Loss : Type} (heard : Loss -> Output) (entries : List (Output × List Loss)) :
    List Output :=
  entries.flatMap fun entry => entry.2.map heard ++ [entry.1]

section Insisted

variable {Loss : Type} (advance : Abstract -> Input -> Abstract × Output)
  {attempt : Abstract -> Input × Option Loss -> Abstract × Output} {heard : Loss -> Output}
  (succeeds : forall state input, attempt state (input, none) = advance state input)
  (again : forall state input loss,
    advance (attempt state (input, some loss)).1 input = advance state input)
  (fails : forall state input loss, (attempt state (input, some loss)).2 = heard loss)

include succeeds again fails

/-- One input with its losses. -/
theorem behaviour_losses (state : Abstract) (input : Input) (losses : List Loss) :
    behaviour attempt state (losses.map (fun loss => (input, some loss)) ++ [(input, none)]) =
      ((advance state input).1, losses.map heard ++ [(advance state input).2]) := by
  induction losses generalizing state with
  | nil => exact congrArg (fun last => (last.1, [last.2])) (succeeds state input)
  | cons loss rest inductionHypothesis =>
      rw [List.map_cons, List.cons_append, behaviour_cons, nextState, inductionHypothesis, again,
        fails]
      rfl

/-- Whatever is lost, the answers come through in the end, and the state is the one
of a run that loses nothing. -/
theorem behaviour_insisted (state : Abstract) (entries : List (Input × List Loss)) :
    behaviour attempt state (insisted entries) =
      ((behaviour advance state (entries.map Prod.fst)).1,
        heardAfter heard ((behaviour advance state (entries.map Prod.fst)).2.zip
          (entries.map Prod.snd))) := by
  induction entries generalizing state with
  | nil => rfl
  | cons entry rest inductionHypothesis =>
      have first := behaviour_losses advance succeeds again fails state entry.1 entry.2
      rw [insisted, List.flatMap_cons, behaviour_append, first, ← insisted, inductionHypothesis]
      rfl

end Insisted

end Transition
