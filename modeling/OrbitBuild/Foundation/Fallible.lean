import Mathlib.Tactic.TypeStar

/-! # Lists of fallible results

A list of results is complete when each of them is. A loop over the inputs has the results
up to the first error.
-/

namespace Fallible

variable {Input Output Error : Type*} (act : Input → Except Error Output)

/-- A pass succeeds exactly if it does so at every input. -/
theorem mapM_isOk_iff (inputs : List Input) :
    (∃ outputs, inputs.mapM act = .ok outputs) ↔
      ∀ input ∈ inputs, ∃ output, act input = .ok output := by
  induction inputs with
  | nil => simp [pure, Except.pure]
  | cons input rest ih =>
      rw [List.forall_mem_cons, ← ih, List.mapM_cons]
      cases act input with
      | error error => simp [bind, Except.bind]
      | ok output => cases rest.mapM act <;> simp [bind, Except.bind, pure, Except.pure]

/-- The outputs of a complete list are those of its elements, in order. -/
theorem map_of_mapM {inputs : List Input} {outputs : List Output}
    (complete : inputs.mapM act = .ok outputs) : inputs.map act = outputs.map Except.ok := by
  induction inputs generalizing outputs with
  | nil => cases complete; rfl
  | cons input rest ih =>
      rw [List.mapM_cons] at complete
      cases head : act input with
      | error error => rw [head] at complete; cases complete
      | ok output =>
          cases tail : rest.mapM act with
          | error error => rw [head, tail] at complete; cases complete
          | ok others =>
              rw [head, tail] at complete
              cases complete
              rw [List.map_cons, List.map_cons, head, ih tail]

/-- The outputs up to the first error, and how it ends. -/
def untilError : List Input → List Output × Except Error Unit
  | [] => ([], .ok ())
  | input :: rest =>
      match act input with
      | .error error => ([], .error error)
      | .ok output => (output :: (untilError rest).1, (untilError rest).2)

/-- The pass gets to the end exactly if it does not stop at an input. -/
theorem untilError_isOk_iff (inputs : List Input) :
    (untilError act inputs).2 = .ok () ↔ ∀ input ∈ inputs, ∃ output, act input = .ok output := by
  induction inputs with
  | nil => exact iff_of_true rfl nofun
  | cons input rest ih =>
      rw [List.forall_mem_cons, ← ih, untilError]
      cases act input with
      | error error => simp
      | ok output => simp

/-- A loop without an error has all outputs. -/
theorem map_of_untilError {inputs : List Input}
    (complete : (untilError act inputs).2 = .ok ()) :
    inputs.map act = (untilError act inputs).1.map Except.ok := by
  induction inputs with
  | nil => rfl
  | cons input rest ih =>
      rw [untilError] at complete ⊢
      cases head : act input with
      | error error => rw [head] at complete; cases complete
      | ok output =>
          rw [head] at complete
          rw [List.map_cons, List.map_cons, head, ih complete]

/-- When no result is an error, leaving the errors out leaves nothing out. -/
theorem map_eq_filterMap {inputs : List Input}
    (succeeds : ∀ input ∈ inputs, ∃ output, act input = .ok output) :
    inputs.map act = (inputs.filterMap fun input => (act input).toOption).map Except.ok := by
  induction inputs with
  | nil => rfl
  | cons input rest ih =>
      obtain ⟨output, found⟩ := succeeds input List.mem_cons_self
      have tail := ih fun other member => succeeds other (List.mem_cons_of_mem _ member)
      simp [found, Except.toOption, tail]

end Fallible
