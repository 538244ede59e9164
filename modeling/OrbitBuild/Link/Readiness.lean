import OrbitBuild.Host.Unlinking
import OrbitBuild.Link.Run

/-! # When the link is reported

A path is alive when anyone accepts connections there, and the child is not looked at.
So the report says something about the child in those runs only in which the listeners
found are the child's own and go on until the report.
-/

namespace OrbitBuild

universe u

variable {ι : Type u} [DecidableEq ι] {curve : Curve}

namespace Link

/-- The child is running and accepts connections at every polled path. -/
def State.Ready (plan : ι → Host.Plan curve) (child : ι) (state : State ι curve) : Prop :=
  (state.host.instances child).stage ≠ .gone ∧
    ∀ path ∈ socketPaths (plan child), ∃ index, state.host.listener path = some (index, child)

/-- A listener that is found is the child's, and as long as the round goes on, no step
stops a listener that has been found or removes its socket. -/
def Undisturbed (child : ι) (state : State ι curve) : Action ι → Prop
  | .check answered => ∀ checked path rest, state.phase = .polling checked (path :: rest) →
      ∀ index i, state.host.listener path = some (index, i) → answered = true → i = child
  | .host action => ∀ checked rest, state.phase = .polling checked rest →
      ∀ path ∈ checked, ∀ index i, state.host.listener path = some (index, i) →
        ¬ state.host.Unlinks path action ∧ ¬ Host.Moves index i action
  | _ => True

/-- The paths found alive in this round lead to the child. -/
structure State.Checked (plan : ι → Host.Plan curve) (child : ι) (state : State ι curve) :
    Prop where
  round : ∀ checked rest, state.phase = .polling checked rest →
    checked ++ rest = socketPaths (plan child)
  found : ∀ checked rest, state.phase = .polling checked rest →
    ∀ path ∈ checked, ∃ index, state.host.listener path = some (index, child)

section Run

variable {plan : ι → Host.Plan curve} {child : ι} {state next : State ι curve}

omit [DecidableEq ι] in
/-- At the beginning of a round. -/
theorem State.Checked.begin (begins : state.phase = .polling [] (socketPaths (plan child))) :
    state.Checked plan child where
  round checked rest phase := by
    rw [begins] at phase
    cases phase
    rfl
  found checked rest phase path member := by
    rw [begins] at phase
    cases phase
    cases member

omit [DecidableEq ι] in
/-- Outside of a round nothing has been found. -/
theorem State.Checked.of_phase (phase : ∀ found rest, state.phase ≠ .polling found rest) :
    state.Checked plan child where
  round found rest same := (phase found rest same).elim
  found found rest same := (phase found rest same).elim

/-- An undisturbed step keeps what has been found alive leading to the child. -/
theorem State.Checked.step {action : Action ι} (checked : state.Checked plan child)
    (undisturbed : Undisturbed child state action)
    (moved : Link.step plan child state action = some next) : next.Checked plan child := by
  cases takes_of_step moved with
  | host stepped =>
      refine ⟨checked.round, fun found rest phase path member => ?_⟩
      obtain ⟨index, serves⟩ := checked.found found rest phase path member
      obtain ⟨spared, unmoved⟩ := undisturbed found rest phase path member index child serves
      exact ⟨index, Host.step_listener_kept stepped serves spared unmoved⟩
  | @alive found rest path served polling serves =>
      obtain ⟨index, i⟩ := served
      obtain rfl := undisturbed found path rest polling index i serves rfl
      refine ⟨fun all left same => ?_, fun all left same name member => ?_⟩
      · cases same
        rw [← checked.round found (path :: rest) polling, List.append_assoc]
        rfl
      · cases same
        rcases List.mem_append.mp member with old | new
        · exact checked.found found (path :: rest) polling name old
        · rw [List.mem_singleton.mp new]
          exact ⟨index, serves⟩
  | retry unready => exact .begin rfl
  | _ => exact .of_phase (by simp)

/-- **The report.** If in the last round the listeners found are the child's and are left
alone until the report, the child is running then and serves every polled path. -/
theorem reported_ready (plan : ι → Host.Plan curve) (child : ι) (before : SocketDir String Empty)
    (known : String → Bool) (host : Host.State ι curve)
    (spawned : Transition.Reachable (Host.step plan) (.initial before known) host)
    (start : State ι curve)
    (reached : Transition.Reachable (Link.step plan child) (.initial plan child host) start)
    (begins : start.phase = .polling [] (socketPaths (plan child)))
    (actions : List (Action ι)) (state next : State ι curve)
    (ran : Transition.run (Link.step plan child) start actions = some state)
    (undisturbed : Transition.Meets (Link.step plan child) (Undisturbed child) start actions)
    (reported : Link.step plan child state .report = some next) : state.Ready plan child := by
  have checked : state.Checked plan child :=
    Transition.run_invariant_of_meets (fun _ _ _ holds allowed moved => holds.step allowed moved)
      (State.Checked.begin begins) undisturbed ran
  obtain ⟨found, phase⟩ : ∃ found, state.phase = .polling found [] := by
    cases takes_of_step reported with
    | @report found polled => exact ⟨found, polled⟩
  have all := checked.round found [] phase
  rw [List.append_nil] at all
  subst all
  have serves := checked.found _ [] phase
  refine ⟨fun gone => ?_, serves⟩
  obtain ⟨path, member⟩ := List.exists_mem_of_ne_nil _ (socketPaths_ne_nil (plan child))
  obtain ⟨index, listener⟩ := serves path member
  obtain ⟨-, task, held, listening⟩ := Host.listener_eq_some.mp listener
  have reaped := Host.State.Reaped.of_reachable
    (host_reachable spawned (reached.trans ⟨actions, ran⟩))
  rw [reaped index child task held gone] at listening
  cases listening

end Run

omit [DecidableEq ι] in
/-- Before the first path is found alive, the processes may take any step. -/
theorem undisturbed_of_unchecked {child : ι} {state : State ι curve} {left : List String}
    (phase : state.phase = .polling [] left) (action : Host.Action ι) :
    Undisturbed child state (.host action) := by
  intro checked rest same path member
  rw [phase] at same
  cases same
  cases member

/-- The steps of a child that binds its socket before the first check. -/
def startup : List (Action Bool) :=
  [.host (.discover true), .host (.add true), .host (.task 0), .host (.task 0), .check true]

theorem started_ready :
    ∃ state, Transition.Reachable (step (fun _ => Host.amd64Plan) true)
        (.initial (fun _ => Host.amd64Plan) true (.initial (fun _ => none) fun _ => false))
        state ∧
      state.phase = .polling ["/tmp/orbit-amd64.sock"] [] ∧
      state.Ready (fun _ => Host.amd64Plan) true := by
  refine ⟨_, ⟨startup, rfl⟩, rfl, reported_ready (fun _ => Host.amd64Plan) true (fun _ => none)
    (fun _ => false) _ (.refl _) _ (.refl _) rfl startup _ _ rfl ?_ rfl⟩
  refine ⟨undisturbed_of_unchecked rfl _, undisturbed_of_unchecked rfl _,
    undisturbed_of_unchecked rfl _, undisturbed_of_unchecked rfl _, ?_, trivial⟩
  intro checked path rest phase index i serves answered
  cases phase
  cases serves
  rfl

/-- The child is gone, and the socket found alive is that of another process. -/
theorem abandoned_reported :
    ∃ host state next,
      Transition.Reachable (Host.step fun _ : Bool => Host.amd64Plan)
        (.initial (fun _ => none) fun _ => false) host ∧
      (host.instances true).stage = .starting ∧
      Transition.Reachable (step (fun _ : Bool => Host.amd64Plan) true)
        (.initial (fun _ => Host.amd64Plan) true host) state ∧
      step (fun _ => Host.amd64Plan) true state .report = some next ∧
      ¬ state.Ready (fun _ => Host.amd64Plan) true := by
  refine ⟨_, _, _, ⟨[.discover false, .add false, .task 0, .task 0], rfl⟩, rfl,
    ⟨[.host (.exit true), .check true], rfl⟩, rfl, fun ready => ready.1 rfl⟩

end Link

end OrbitBuild
