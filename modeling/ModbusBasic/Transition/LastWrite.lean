import ModbusBasic.Transition.Runs

namespace Transition

open Memory

/-!
# Reading the last write

A memory shows a value under each key.  When a step changes exactly the values
its input writes, a run leaves under each key the value of the last input that
wrote it, or the initial one.
-/

variable {State Input Key Value : Type}

/-- What the last of the inputs that write this key writes there. -/
def lastWritten (written : Input -> Key -> Option Value) (inputs : List Input) (key : Key) :
    Option Value :=
  inputs.reverse.findSome? fun input => written input key

@[simp] theorem lastWritten_nil (written : Input -> Key -> Option Value) (key : Key) :
    lastWritten written [] key = none :=
  rfl

theorem lastWritten_cons (written : Input -> Key -> Option Value) (input : Input)
    (rest : List Input) (key : Key) :
    lastWritten written (input :: rest) key =
      (lastWritten written rest key).or (written input key) := by
  rw [lastWritten, List.reverse_cons, List.findSome?_append, List.findSome?_singleton]
  rfl

theorem lastWritten_map {Other : Type} (convert : Value -> Other)
    (written : Input -> Key -> Option Value) (inputs : List Input) (key : Key) :
    lastWritten (fun input key => (written input key).map convert) inputs key =
      (lastWritten written inputs key).map convert := by
  induction inputs with
  | nil => rfl
  | cons input rest inductionHypothesis =>
      rw [lastWritten_cons, lastWritten_cons, inductionHypothesis, Option.map_or]

/-- The last write is what is shown after any inputs, when the machine always
completes. -/
theorem foldl_lastWritten (advance : State -> Input -> State) (view : State -> Key -> Value)
    (written : Input -> Key -> Option Value)
    (writes : forall state input key,
      view (advance state input) key = (written input key).getD (view state key))
    (state : State) (inputs : List Input) (key : Key) :
    view (inputs.foldl advance state) key =
      (lastWritten written inputs key).getD (view state key) := by
  induction inputs generalizing state with
  | nil => rfl
  | cons input rest inductionHypothesis =>
      rw [List.foldl_cons, inductionHypothesis, writes, lastWritten_cons]
      cases lastWritten written rest key <;> rfl

/-- The last write of a run of admitted inputs is what its last state shows. -/
theorem run_lastWritten (step : State -> Input -> Checked State) (view : State -> Key -> Value)
    (written : Input -> Key -> Option Value) (Good : State -> Prop)
    (Admits : State -> Input -> Prop)
    (writes : forall state input, Good state -> Admits state input ->
      Exists fun next => step state input = .ok next ∧ Good next ∧
        forall key, view next key = (written input key).getD (view state key))
    {state : State} {inputs : List Input} (good : Good state)
    (admitted : Admitted step Admits state inputs) :
    Exists fun final => run step state inputs = .ok final ∧ Good final ∧
      forall key, view final key = (lastWritten written inputs key).getD (view state key) := by
  induction inputs generalizing state with
  | nil => exact ⟨state, rfl, good, fun _ => rfl⟩
  | cons input rest inductionHypothesis =>
      rcases admitted_cons_iff.mp admitted with ⟨first, later⟩
      rcases writes state input good first with ⟨next, stepped, kept, changed⟩
      rcases inductionHypothesis kept (later next stepped) with ⟨final, completes, ends, shown⟩
      refine ⟨final, ?_, ends, fun key => ?_⟩
      · rw [run_cons, stepped, ok_bind, completes]
      · rw [shown, changed, lastWritten_cons]
        cases lastWritten written rest key <;> rfl

end Transition
