import Mathlib.Data.Option.Basic
import Mathlib.Logic.Function.Basic

/-! # Runs of partial labelled transition systems

A system is given by its step function: `step state action` is the state after
`action`, or `none` where `action` is not enabled. Concurrent components are
modelled by letting the action name the component that moves, so that a list of
actions is an interleaving.
-/

namespace Transition

universe uState uAction

variable {State : Type uState} {Action : Type uAction} (step : State → Action → Option State)

/-- Perform actions in order, failing at the first that is not enabled. -/
def run : State → List Action → Option State
  | state, [] => some state
  | state, action :: rest => (step state action).bind fun next => run next rest

/-- Some interleaving leads from `start` to `state`. -/
def Reachable (start state : State) : Prop :=
  ∃ actions, run step start actions = some state

/-- Every action of the run is taken in a state that allows it. -/
def Meets (allowed : State → Action → Prop) : State → List Action → Prop
  | _, [] => True
  | state, action :: rest =>
      allowed state action ∧
        match step state action with
        | some next => Meets allowed next rest
        | none => True

instance Meets.decidable (allowed : State → Action → Prop)
    [decide : ∀ state action, Decidable (allowed state action)] :
    ∀ state actions, Decidable (Meets step allowed state actions)
  | _, [] => .isTrue trivial
  | state, action :: rest =>
      match equation : step state action with
      | some next =>
          have := Meets.decidable allowed next rest
          decidable_of_iff (allowed state action ∧ Meets step allowed next rest)
            (by simp only [Meets, equation])
      | none =>
          decidable_of_iff (allowed state action) (by simp only [Meets, equation, and_true])

/-- Every action of the run is allowed in its state, given what the run goes on with. -/
def Foresees (allowed : State → Action → List Action → Prop) : State → List Action → Prop
  | _, [] => True
  | state, action :: rest =>
      allowed state action rest ∧
        match step state action with
        | some next => Foresees allowed next rest
        | none => True

instance Foresees.decidable (allowed : State → Action → List Action → Prop)
    [decide : ∀ state action rest, Decidable (allowed state action rest)] :
    ∀ state actions, Decidable (Foresees step allowed state actions)
  | _, [] => .isTrue trivial
  | state, action :: rest =>
      match equation : step state action with
      | some next =>
          have := Foresees.decidable allowed next rest
          decidable_of_iff (allowed state action rest ∧ Foresees step allowed next rest)
            (by simp only [Foresees, equation])
      | none =>
          decidable_of_iff (allowed state action rest) (by simp only [Foresees, equation, and_true])

variable {step}

@[simp] theorem run_nil (state : State) : run step state [] = some state := rfl

/-- A run takes its first step and runs on from there. -/
theorem run_cons {state final : State} {action : Action} {rest : List Action} :
    run step state (action :: rest) = some final ↔
      ∃ next, step state action = some next ∧ run step next rest = some final :=
  Option.bind_eq_some_iff

/-- A run can be cut at any of its states. -/
theorem run_append (state : State) (first second : List Action) :
    run step state (first ++ second) =
      (run step state first).bind fun middle => run step middle second := by
  induction first generalizing state with
  | nil => rfl
  | cons action rest ih =>
      simp only [List.cons_append, run]
      cases step state action with
      | none => rfl
      | some next => exact ih next

/-- A run can be continued from where another one ends. -/
theorem run_append_eq_some {state middle final : State} {first second : List Action}
    (front : run step state first = some middle) (back : run step middle second = some final) :
    run step state (first ++ second) = some final := by
  rw [run_append, front]
  exact back

/-- A condition on the steps of a run holds of the first step and of the rest. -/
theorem Meets.cons_inv {allowed : State → Action → Prop} {state next : State} {action : Action}
    {rest : List Action} (meets : Meets step allowed state (action :: rest))
    (moved : step state action = some next) :
    allowed state action ∧ Meets step allowed next rest := by
  simpa only [Meets, moved] using meets

/-- **The invariant rule.** What holds at the start and is kept by every allowed
step holds wherever a run of allowed steps leads. -/
theorem run_invariant_of_meets {allowed : State → Action → Prop} {invariant : State → Prop}
    (preserved : ∀ state action next, invariant state → allowed state action →
      step state action = some next → invariant next)
    {state final : State} {actions : List Action} (valid : invariant state)
    (meets : Meets step allowed state actions)
    (reached : run step state actions = some final) : invariant final := by
  induction actions generalizing state with
  | nil => cases reached; exact valid
  | cons action rest ih =>
      obtain ⟨next, moved, tail⟩ := run_cons.mp reached
      obtain ⟨permitted, metTail⟩ := meets.cons_inv moved
      exact ih (preserved state action next valid permitted moved) metTail tail

/-- The invariant rule where steps answer to what is still to come: the invariant speaks
of the rest of the run as well, and of no rest at the end. -/
theorem run_invariant_of_foresees {allowed : State → Action → List Action → Prop}
    {motive : State → List Action → Prop}
    (preserved : ∀ state action rest next, motive state (action :: rest) →
      allowed state action rest → step state action = some next → motive next rest)
    {state final : State} {actions : List Action} (valid : motive state actions)
    (foreseen : Foresees step allowed state actions)
    (reached : run step state actions = some final) : motive final [] := by
  induction actions generalizing state with
  | nil => cases reached; exact valid
  | cons action rest ih =>
      obtain ⟨next, moved, tail⟩ := run_cons.mp reached
      obtain ⟨permitted, later⟩ :
          allowed state action rest ∧ Foresees step allowed next rest := by
        simpa only [Foresees, moved] using foreseen
      exact ih (preserved state action rest next valid permitted moved) later tail

/-- **The invariant rule.** What every step preserves holds at the end of a run. -/
theorem run_invariant {invariant : State → Prop}
    (preserved : ∀ state action next, invariant state → step state action = some next →
      invariant next)
    {state final : State} {actions : List Action} (valid : invariant state)
    (reached : run step state actions = some final) : invariant final := by
  induction actions generalizing state with
  | nil => cases reached; exact valid
  | cons action rest ih =>
      obtain ⟨next, moved, tail⟩ := run_cons.mp reached
      exact ih (preserved state action next valid moved) tail

/-- What every step preserves holds in every reachable state. -/
theorem Reachable.invariant {motive : State → Prop}
    (preserved : ∀ state action next, motive state → step state action = some next → motive next)
    {start state : State} (reachable : Reachable step start state) (valid : motive start) :
    motive state := by
  obtain ⟨actions, reached⟩ := reachable
  exact run_invariant preserved valid reached

theorem Reachable.refl (start : State) : Reachable step start start := ⟨[], rfl⟩

theorem Reachable.trans {start middle final : State} (front : Reachable step start middle)
    (back : Reachable step middle final) : Reachable step start final := by
  obtain ⟨first, reachedFirst⟩ := front
  obtain ⟨second, reachedSecond⟩ := back
  exact ⟨first ++ second, run_append_eq_some reachedFirst reachedSecond⟩

/-- A step from a reachable state reaches its target. -/
theorem Reachable.snoc {start middle final : State} {action : Action}
    (front : Reachable step start middle) (moved : step middle action = some final) :
    Reachable step start final :=
  front.trans ⟨[action], by simp only [run, moved, Option.bind_some]⟩

/-- The invariant rule, with what is already known of every reachable state. -/
theorem Reachable.induction {start : State} {motive : State → Prop} (valid : motive start)
    (preserved : ∀ state action next, Reachable step start state → motive state →
      step state action = some next → motive next)
    {final : State} (reachable : Reachable step start final) : motive final := by
  have both : Reachable step start final ∧ motive final := by
    refine reachable.invariant (motive := fun state => Reachable step start state ∧ motive state)
      ?_ ⟨.refl start, valid⟩
    intro state action next both moved
    obtain ⟨before, holds⟩ := both
    exact ⟨before.snoc moved, preserved state action next before holds moved⟩
  exact both.2

/-! ## Actions of one kind -/

variable (step) in
/-- Some interleaving of actions of one kind leads from `start` to `state`. -/
def ReachableBy (kind : Action → Prop) (start state : State) : Prop :=
  ∃ actions, (∀ action ∈ actions, kind action) ∧ run step start actions = some state

namespace ReachableBy

variable {kind : Action → Prop} {start middle final : State}

theorem refl (start : State) : ReachableBy step kind start start :=
  ⟨[], nofun, rfl⟩

theorem cons {action : Action} (moved : step start action = some middle) (member : kind action)
    (back : ReachableBy step kind middle final) : ReachableBy step kind start final := by
  obtain ⟨actions, kinds, reached⟩ := back
  refine ⟨action :: actions, ?_, run_cons.mpr ⟨middle, moved, reached⟩⟩
  intro other listed
  rcases List.mem_cons.mp listed with rfl | later
  · exact member
  · exact kinds other later

theorem single {action : Action} (moved : step start action = some final) (member : kind action) :
    ReachableBy step kind start final :=
  cons moved member (refl final)

theorem trans (front : ReachableBy step kind start middle)
    (back : ReachableBy step kind middle final) : ReachableBy step kind start final := by
  obtain ⟨first, kinds, reached⟩ := front
  induction first generalizing start with
  | nil => cases reached; exact back
  | cons action rest ih =>
      obtain ⟨next, moved, tail⟩ := run_cons.mp reached
      obtain ⟨member, others⟩ := List.forall_mem_cons.mp kinds
      exact cons moved member (ih others tail)

/-- The invariant rule for actions of one kind. -/
theorem invariant {motive : State → Prop}
    (preserved : ∀ state action next, kind action → motive state → step state action = some next →
      motive next)
    (reached : ReachableBy step kind start final) (valid : motive start) : motive final := by
  obtain ⟨actions, kinds, reached⟩ := reached
  induction actions generalizing start with
  | nil => cases reached; exact valid
  | cons action rest ih =>
      obtain ⟨next, moved, tail⟩ := run_cons.mp reached
      obtain ⟨member, others⟩ := List.forall_mem_cons.mp kinds
      exact ih (preserved start action next member valid moved) others tail

/-- A state that is reached by steps of a kind is reachable. -/
theorem reachable (reached : ReachableBy step kind start final) : Reachable step start final := by
  obtain ⟨actions, -, reached⟩ := reached
  exact ⟨actions, reached⟩

end ReachableBy

/-! ## What a run puts out -/

section Outputs

universe uOutput

variable {Output : Type uOutput} {emit : State → Action → List Output}

variable (step) in
/-- What the actions of a run put out, in order. -/
def outputs (emit : State → Action → List Output) : State → List Action → List Output
  | _, [] => []
  | state, action :: rest =>
      emit state action ++
        match step state action with
        | some next => outputs emit next rest
        | none => []

/-- A run puts out what its first part does, and then what its second does. -/
theorem outputs_append {state middle : State} {first second : List Action}
    (reached : run step state first = some middle) :
    outputs step emit state (first ++ second) =
      outputs step emit state first ++ outputs step emit middle second := by
  induction first generalizing state with
  | nil =>
      cases reached
      rfl
  | cons action rest ih =>
      obtain ⟨next, moved, tail⟩ := run_cons.mp reached
      simp only [List.cons_append, outputs, moved]
      rw [ih tail, List.append_assoc]

/-- The invariant rule for what has been put out so far. -/
theorem run_outputs_invariant {invariant : List Output → State → Prop}
    (preserved : ∀ before state action next, invariant before state →
      step state action = some next → invariant (before ++ emit state action) next)
    {before : List Output} {state final : State} {actions : List Action}
    (valid : invariant before state) (reached : run step state actions = some final) :
    invariant (before ++ outputs step emit state actions) final := by
  induction actions generalizing before state with
  | nil =>
      cases reached
      rw [outputs, List.append_nil]
      exact valid
  | cons action rest ih =>
      obtain ⟨next, moved, tail⟩ := run_cons.mp reached
      simp only [outputs, moved]
      rw [← List.append_assoc]
      exact ih (preserved before state action next valid moved) tail

end Outputs

/-! ## Named components -/

/-- After the entry of one component has been replaced, every entry is the new one or that
of another component. -/
theorem update_eq_some {Name : Type uState} {Entry : Type uAction} [DecidableEq Name]
    {entries : Name → Option Entry} {name other : Name} {replaced : Option Entry} {entry : Entry} :
    Function.update entries name replaced other = some entry ↔
      (other = name ∧ replaced = some entry) ∨ (other ≠ name ∧ entries other = some entry) := by
  by_cases same : other = name
  · subst same
    simp
  · simp [same]

end Transition
