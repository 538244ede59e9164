import OrbitBuild.Foundation.Transition

/-! # Runs that come to an end

Steps pay from a potential, and some actions bring in more. A run can then pay no
more than it started with and was brought, and the steps that only pay cannot go
on forever.
-/

namespace Transition

universe uState uAction

variable {State : Type uState} {Action : Type uAction}

/-- What the actions of a run amount to. -/
def amount (weigh : Action → Nat) : List Action → Nat
  | [] => 0
  | action :: rest => weigh action + amount weigh rest

/-- Every step pays its price out of the potential and of what its action brings in. -/
def Paid (step : State → Action → Option State) (potential : State → Nat)
    (price income : Action → Nat) : Prop :=
  ∀ state action next, step state action = some next →
    potential next + price action ≤ potential state + income action

variable {step : State → Action → Option State} {potential : State → Nat}
  {price income : Action → Nat}

/-- **The budget of a run.** -/
theorem Paid.run_le (paid : Paid step potential price income) {state final : State}
    {actions : List Action} (reached : run step state actions = some final) :
    potential final + amount price actions ≤ potential state + amount income actions := by
  induction actions generalizing state with
  | nil => cases reached; exact Nat.le_refl _
  | cons action rest ih =>
      obtain ⟨next, moved, tail⟩ := run_cons.mp reached
      have first := paid state action next moved
      have later := ih tail
      simp only [amount]
      omega

/-- **Coming to rest.** If the actions of a kind pay and bring in nothing, then a run
of them leads to a state in which none of them is enabled. -/
theorem Paid.exists_rest (paid : Paid step potential price income) {kind : Action → Prop}
    (pays : ∀ action, kind action → income action < price action) (state : State) :
    ∃ final, ReachableBy step kind state final ∧
      ∀ action, kind action → step final action = none := by
  induction bound : potential state using Nat.strongRecOn generalizing state with
  | ind budget ih =>
      by_cases still : ∀ action, kind action → step state action = none
      · exact ⟨state, .refl state, still⟩
      · obtain ⟨action, enabled⟩ := not_forall.mp still
        obtain ⟨member, moves⟩ := Classical.not_imp.mp enabled
        obtain ⟨next, moved⟩ := Option.ne_none_iff_exists'.mp moves
        have less : potential next < budget := by
          have step := paid state action next moved
          have cost := pays action member
          omega
        obtain ⟨final, reached, rest⟩ := ih _ less next rfl
        exact ⟨final, .cons moved member reached, rest⟩

end Transition
