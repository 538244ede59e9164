import OrbitBuild.Host.Residue
import OrbitBuild.Link.Run

/-! # What is left when link returns

The clean-up of sockets and builder is done by Mission Control after its own Ctrl+C.
Link only kills the child, and not even that when waiting for the signal fails. So what
the child has built up by then stays, unless the shutdown of the child itself has come
first.
-/

namespace OrbitBuild

universe u

variable {ι : Type u} [DecidableEq ι] {curve : Curve}

namespace Link

/-- The child is gone, with every socket and builder it has created. -/
def State.TornDown (child : ι) (state : State ι curve) : Prop :=
  (state.host.instances child).stage = .gone ∧ state.host.Spotless child

/-- The child's own shutdown, from its Ctrl+C to a `docker buildx rm` that succeeds. -/
def shutdown (child : ι) : List (Action ι) :=
  [.host (.interrupt child), .host (.remove child true)]

/-- Link returns without the kill only when the child is gone by itself, and wherever the
child binds a socket or creates its builder, its own shutdown is still to come. -/
def Orderly (plan : ι → Host.Plan curve) (child : ι) (state : State ι curve) :
    Action ι → List (Action ι) → Prop
  | .host action, rest => Host.Builds plan child state.host action → (shutdown child).Sublist rest
  | .signalError, _ => (state.host.instances child).stage = .gone
  | _, _ => True

instance Orderly.decidable (plan : ι → Host.Plan curve) (child : ι) (state : State ι curve) :
    (action : Action ι) → (rest : List (Action ι)) →
      Decidable (Orderly plan child state action rest)
  | .host action, rest =>
      inferInstanceAs (Decidable (Host.Builds plan child state.host action →
        (shutdown child).Sublist rest))
  | .signalError, _ => inferInstanceAs (Decidable ((state.host.instances child).stage = .gone))
  | .check _, _ | .report, _ | .retry, _ | .expire, _ | .ctrlC, _ | .kill, _ => .isTrue trivial

/-- What the child has built is removed by its shutdown in the rest of the run. -/
structure State.Owes (child : ι) (state : State ι curve) (rest : List (Action ι)) : Prop where
  sockets : ∀ path, state.host.Owns child path →
    (shutdown child).Sublist rest ∨
      (.host (.remove child true) ∈ rest ∧ state.host.Cleans child path)
  builders : ∀ name, state.host.builders name = some (.created child) →
    .host (.remove child true) ∈ rest

section Run

variable {plan : ι → Host.Plan curve} {before : SocketDir String Empty} {known : String → Bool}
  {child : ι} {state next : State ι curve} {rest : List (Action ι)}

omit [DecidableEq ι] in
/-- Where nothing is to come, nothing is left. -/
theorem State.Owes.spotless (owes : state.Owes child []) : state.host.Spotless child := by
  refine ⟨fun path owns => ?_, fun name created => ?_⟩
  · rcases owes.sockets path owns with whole | ⟨later, -⟩
    · cases List.sublist_nil.mp whole
    · cases later
  · cases owes.builders name created

omit [DecidableEq ι] in
/-- Where nothing is left, nothing has to come. -/
theorem State.Owes.of_spotless (spotless : state.host.Spotless child) : state.Owes child rest :=
  ⟨fun path owns => (spotless.1 path owns).elim, fun name created =>
    (spotless.2 name created).elim⟩

/-- A step of the processes: what was owed is so still, or the shutdown is under way. -/
theorem State.Owes.host {action : Host.Action ι} {host : Host.State ι curve}
    (reached : Transition.Reachable (Host.step plan) (.initial before known) state.host)
    (owes : state.Owes child (.host action :: rest))
    (builds : Host.Builds plan child state.host action → (shutdown child).Sublist rest)
    (stepped : Host.step plan state.host action = some host) :
    ({ state with host := host } : State ι curve).Owes child rest := by
  refine ⟨fun path owns => ?_, fun name created => ?_⟩
  · rcases Host.step_owns (.of_reachable reached) stepped owns with old | bound
    · by_cases interrupt : action = .interrupt child
      · subst interrupt
        refine Or.inr ⟨?_, Host.cleans_of_interrupt reached stepped owns⟩
        rcases owes.sockets path old with whole | ⟨later, -⟩
        · exact List.singleton_sublist.mp (List.cons_sublist_cons.mp whole)
        · exact (List.mem_cons.mp later).resolve_left nofun
      · rcases owes.sockets path old with whole | ⟨later, cleans⟩
        · refine Or.inl (List.Sublist.of_cons_of_ne ?_ whole)
          exact fun same => interrupt (Action.host.inj same).symm
        · refine Or.inr ⟨?_, Host.step_cleans stepped cleans owns⟩
          refine (List.mem_cons.mp later).resolve_left fun same => ?_
          cases same
          exact Host.not_cleans_of_remove stepped cleans
    · exact Or.inl (builds bound)
  · rcases Host.step_created stepped (fun _ _ => Host.named_of_reachable reached) created with
      ⟨old, unremoved⟩ | made
    · refine (List.mem_cons.mp (owes.builders name old)).resolve_left fun same => ?_
      exact unremoved (Action.host.inj same).symm
    · exact (builds made).subset (List.mem_cons_of_mem _ List.mem_cons_self)

/-- The kill leaves everything in its place. -/
theorem State.Owes.kill (owes : state.Owes child (.kill :: rest)) :
    (⟨state.host.ended child, .returned⟩ : State ι curve).Owes child rest := by
  refine ⟨fun path owns => ?_, fun name created => ?_⟩
  · rcases owes.sockets path (Host.owns_ended owns) with whole | ⟨later, -⟩
    · have other : Action.host (.interrupt child) ≠ .kill := nofun
      exact Or.inl (List.Sublist.of_cons_of_ne other whole)
    · exact Or.inr ⟨(List.mem_cons.mp later).resolve_left nofun,
        Or.inl (Host.ended_gone state.host child)⟩
  · exact (List.mem_cons.mp (owes.builders name created)).resolve_left nofun

omit [DecidableEq ι] in
/-- The other steps of link reach no process. -/
theorem State.Owes.tail {action : Action ι} (owes : state.Owes child (action :: rest))
    (same : next.host = state.host) (own : ∀ inner, action ≠ .host inner) :
    next.Owes child rest := by
  refine ⟨fun path owns => ?_, fun name created => ?_⟩
  · rw [same] at owns ⊢
    rcases owes.sockets path owns with whole | ⟨later, cleans⟩
    · exact Or.inl (List.Sublist.of_cons_of_ne (own _).symm whole)
    · exact Or.inr ⟨(List.mem_cons.mp later).resolve_left (own _).symm, cleans⟩
  · rw [same] at created
    exact (List.mem_cons.mp (owes.builders name created)).resolve_left (own _).symm

/-- Every orderly step leaves the rest of the run to remove what there is. -/
theorem State.Owes.step {action : Action ι}
    (reached : Transition.Reachable (Host.step plan) (.initial before known) state.host)
    (owes : state.Owes child (action :: rest)) (orderly : Orderly plan child state action rest)
    (moved : Link.step plan child state action = some next) : next.Owes child rest := by
  cases takes_of_step moved with
  | host stepped => exact owes.host reached orderly stepped
  | kill killing => exact owes.kill
  | _ => exact owes.tail rfl nofun

/-- Link has killed the child, or the child was gone when the signal wait failed. -/
theorem step_gone {action : Action ι} (orderly : Orderly plan child state action rest)
    (moved : Link.step plan child state action = some next)
    (gone : state.phase = .returned → (state.host.instances child).stage = .gone)
    (returned : next.phase = .returned) : (next.host.instances child).stage = .gone := by
  cases takes_of_step moved with
  | host stepped => exact Host.step_gone stepped (gone returned)
  | kill killing => exact Host.ended_gone state.host child
  | signalError linked => exact orderly
  | _ => cases returned

end Run

/-- **The teardown.** In every run of link, of the child it has spawned and of all other
Mission Controls in which the child's own shutdown comes after all that the child has bound
and created, and in which link kills the child if it is not gone by itself: when link has
returned, the child is gone with every socket and builder it has created. -/
theorem tornDown_of_orderly (plan : ι → Host.Plan curve) (child : ι)
    (before : SocketDir String Empty) (known : String → Bool) (host : Host.State ι curve)
    (start : Transition.Reachable (Host.step plan) (.initial before known) host)
    (spawned : (host.instances child).stage = .starting) (actions : List (Action ι))
    (state : State ι curve)
    (orderly : Transition.Foresees (step plan child) (Orderly plan child)
      (.initial plan child host) actions)
    (reached : Transition.run (step plan child) (.initial plan child host) actions = some state)
    (returned : state.phase = .returned) : state.TornDown child := by
  have both : Transition.Reachable (Host.step plan) (.initial before known) state.host ∧
      (state.phase = .returned → (state.host.instances child).stage = .gone) ∧
      state.Owes child [] := by
    refine Transition.run_invariant_of_foresees (motive := fun state rest =>
      Transition.Reachable (Host.step plan) (.initial before known) state.host ∧
        (state.phase = .returned → (state.host.instances child).stage = .gone) ∧
        state.Owes child rest) ?_ ?_ orderly reached
    · intro state action rest next holds allowed moved
      obtain ⟨reachable, gone, owes⟩ := holds
      exact ⟨step_host_reachable reachable moved, step_gone allowed moved gone,
        owes.step reachable allowed moved⟩
    · exact ⟨start, nofun, .of_spotless (Host.spotless_of_starting start spawned)⟩
  exact ⟨both.2.1 returned, both.2.2.spotless⟩

/-- Ctrl+C in the terminal reaches both, and the child is through with its shutdown before
link kills it. -/
def interruptedRun : List (Action Bool) :=
  [.host (.discover true), .host (.add true), .host (.task 0), .host (.task 0),
    .host (.prepare true ["linux/amd64"]), .host (.inspect true false),
    .host (.create true true), .host (.proceed true), .check true, .report,
    .host (.interrupt true), .ctrlC, .host (.clean true "/tmp/orbit-amd64.sock"),
    .host (.remove true true), .kill]

theorem interrupted_tornDown :
    ∃ state, Transition.run (step (fun _ : Bool => Host.amd64Plan) true)
        (.initial (fun _ => Host.amd64Plan) true (.initial (fun _ => none) fun _ => false))
        interruptedRun = some state ∧ state.TornDown true := by
  refine ⟨_, rfl, tornDown_of_orderly (fun _ : Bool => Host.amd64Plan) true (fun _ => none)
    (fun _ => false) _ (.refl _) rfl interruptedRun _ ?_ rfl rfl⟩
  decide

/-- The child serves its platform, and Ctrl+C is seen by link only. -/
theorem served_leftBehind :
    ∃ state next,
      Transition.Reachable (step (fun _ : Bool => Host.amd64Plan) true)
        (.initial (fun _ => Host.amd64Plan) true (.initial (fun _ => none) fun _ => false))
        state ∧
      step (fun _ => Host.amd64Plan) true state .kill = some next ∧ next.phase = .returned ∧
      next.host.dir "/tmp/orbit-amd64.sock" = some (.socket 0) ∧
      next.host.builders "orbit" = some (.created true) ∧ ¬ next.TornDown true := by
  refine ⟨_, _, ⟨[.host (.discover true), .host (.add true), .host (.task 0), .host (.task 0),
    .host (.prepare true ["linux/amd64"]), .host (.inspect true false), .host (.create true true),
    .host (.proceed true), .check true, .report, .ctrlC], rfl⟩, rfl, rfl, rfl, rfl,
    fun torn => torn.2.2 "orbit" rfl⟩

end Link

end OrbitBuild
