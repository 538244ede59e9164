import OrbitBuild.Foundation.Transition

/-! # Systems that refine others

A system projects onto another if each of its steps is seen there as some steps, or
none. What is known of every reachable state of the second system then holds of every
reachable state of the first.
-/

namespace Transition

universe uState uAction vState vAction

variable {State : Type uState} {Action : Type uAction} {Abstract : Type vState}
  {Seen : Type vAction}

/-- What a step does is seen as a run of the abstract system. -/
def Projects (step : State → Action → Option State) (abstract : Abstract → Seen → Option Abstract)
    (project : State → Abstract) : Prop :=
  ∀ state action next, step state action = some next →
    Reachable abstract (project state) (project next)

variable {step : State → Action → Option State} {abstract : Abstract → Seen → Option Abstract}
  {project : State → Abstract}

/-- **The refinement rule.** -/
theorem Projects.reachable (projects : Projects step abstract project) {start final : State}
    (reached : Reachable step start final) :
    Reachable abstract (project start) (project final) :=
  reached.invariant (motive := fun state => Reachable abstract (project start) (project state))
    (fun state action next before moved => before.trans (projects state action next moved))
    (.refl _)

theorem Reachable.single {start final : Abstract} {action : Seen}
    (moved : abstract start action = some final) : Reachable abstract start final :=
  (Reachable.refl start).snoc moved

end Transition
