import OrbitBuild.Foundation.Fallible
import OrbitBuild.Host.Instances

/-! # Linking to a constellation

`run_link` spawns a Mission Control process, polls the sockets of the requested
platforms until all are alive or the deadline has passed, waits for Ctrl+C, and kills
the child. Its steps are interleaved with those of the child and of all other Mission
Controls on the host.
-/

namespace OrbitBuild

universe u

variable {ι : Type u} [DecidableEq ι] {curve : Curve}

namespace Link

def defaultSocketDir : String := "/tmp"

/-- The socket paths that are polled for the platforms of the child. -/
def socketPaths (plan : Host.Plan curve) : List String :=
  plan.platforms.filterMap fun platform =>
    (socketPathForPlatform defaultSocketDir platform).toOption

inductive Phase
  /-- A round of `wait_for_sockets`, with the paths found alive and those still to check. -/
  | polling (checked rest : List String)
  /-- A path was not alive in this round. -/
  | unready
  | timedOut
  /-- The link is reported, and Ctrl+C is awaited. -/
  | linked
  | disconnected
  | returned
  deriving DecidableEq

structure State (ι : Type u) (curve : Curve) where
  host : Host.State ι curve
  phase : Phase

inductive Action (ι : Type u)
  | host (action : Host.Action ι)
  /-- `check_socket_alive` for the next path; a listener may answer too late. -/
  | check (answered : Bool)
  /-- `wait_for_sockets` returns true, and the link is reported. -/
  | report
  | retry
  | expire
  | ctrlC
  | signalError
  | kill
  deriving DecidableEq

/-- The child has been spawned and the first round begins. -/
def State.initial (plan : ι → Host.Plan curve) (child : ι) (host : Host.State ι curve) :
    State ι curve :=
  ⟨host, .polling [] (socketPaths (plan child))⟩

def step (plan : ι → Host.Plan curve) (child : ι) (state : State ι curve) :
    Action ι → Option (State ι curve)
  | .host action =>
      match Host.step plan state.host action with
      | none => none
      | some host => some { state with host := host }
  | .check answered =>
      match state.phase with
      | .polling checked (path :: rest) =>
          if answered ∧ (state.host.listener path).isSome then
            some { state with phase := .polling (checked ++ [path]) rest }
          else some { state with phase := .unready }
      | _ => none
  | .report =>
      match state.phase with
      | .polling _ [] => some { state with phase := .linked }
      | _ => none
  | .retry =>
      match state.phase with
      | .unready => some { state with phase := .polling [] (socketPaths (plan child)) }
      | _ => none
  | .expire =>
      match state.phase with
      | .unready => some { state with phase := .timedOut }
      | _ => none
  | .ctrlC =>
      match state.phase with
      | .linked => some { state with phase := .disconnected }
      | _ => none
  | .signalError =>
      -- The error is returned before the child is killed.
      match state.phase with
      | .linked => some { state with phase := .returned }
      | _ => none
  | .kill =>
      match state.phase with
      | .timedOut | .disconnected => some ⟨state.host.ended child, .returned⟩
      | _ => none

/-- Every accepted platform has a socket path. -/
theorem socketPathForPlatform_isOk {text : String} {platforms : List String}
    (parsed : parsePlatforms text = .ok platforms) (dir : String) :
    ∀ platform ∈ platforms, ∃ path, socketPathForPlatform dir platform = .ok path := by
  intro platform member
  obtain ⟨arch, extracted⟩ := platformToArch_isOk_of_parsePlatforms parsed member
  exact ⟨_, socketPathForPlatform_eq_ok.mpr ⟨arch, extracted, rfl⟩⟩

/-- No path is left out: each of the platforms has one. -/
theorem map_socketPath (plan : Host.Plan curve) :
    plan.platforms.map (socketPathForPlatform defaultSocketDir) =
      (socketPaths plan).map Except.ok := by
  obtain ⟨text, parsed⟩ := plan.accepted
  exact Fallible.map_eq_filterMap _ (socketPathForPlatform_isOk parsed defaultSocketDir)

/-- There is a path to poll. -/
theorem socketPaths_ne_nil (plan : Host.Plan curve) : socketPaths plan ≠ [] := by
  obtain ⟨text, parsed⟩ := plan.accepted
  obtain ⟨-, nonempty, -⟩ := parsePlatforms_eq_ok.mp parsed
  intro empty
  have whole := map_socketPath plan
  rw [empty, List.map_nil, List.map_eq_nil_iff] at whole
  exact nonempty whole

section Step

variable {plan : ι → Host.Plan curve} {child : ι} {state next : State ι curve}

/-- What each action needs, and what it makes of the state. -/
inductive Takes (plan : ι → Host.Plan curve) (child : ι) (state : State ι curve) :
    Action ι → State ι curve → Prop
  | host {action : Host.Action ι} {host : Host.State ι curve}
      (stepped : Host.step plan state.host action = some host) :
      Takes plan child state (.host action) { state with host := host }
  | alive {checked rest : List String} {path : String} {served : Nat × ι}
      (polling : state.phase = .polling checked (path :: rest))
      (serves : state.host.listener path = some served) :
      Takes plan child state (.check true)
        { state with phase := .polling (checked ++ [path]) rest }
  | dead {answered : Bool} {checked rest : List String} {path : String}
      (polling : state.phase = .polling checked (path :: rest)) :
      Takes plan child state (.check answered) { state with phase := .unready }
  | report {checked : List String} (polled : state.phase = .polling checked []) :
      Takes plan child state .report { state with phase := .linked }
  | retry (unready : state.phase = .unready) :
      Takes plan child state .retry
        { state with phase := .polling [] (socketPaths (plan child)) }
  | expire (unready : state.phase = .unready) :
      Takes plan child state .expire { state with phase := .timedOut }
  | ctrlC (linked : state.phase = .linked) :
      Takes plan child state .ctrlC { state with phase := .disconnected }
  | signalError (linked : state.phase = .linked) :
      Takes plan child state .signalError { state with phase := .returned }
  | kill (killing : state.phase = .timedOut ∨ state.phase = .disconnected) :
      Takes plan child state .kill ⟨state.host.ended child, .returned⟩

/-- Each step of the code is one of those listed. -/
theorem takes_of_step {action : Action ι} (moved : step plan child state action = some next) :
    Takes plan child state action next := by
  cases action with
  | host inner =>
      simp only [step] at moved
      split at moved
      · cases moved
      · next host stepped =>
          cases moved
          exact .host stepped
  | check answered =>
      simp only [step] at moved
      split at moved
      · next checked path rest polling =>
          split at moved
          · next both =>
              obtain ⟨rfl, listens⟩ := both
              obtain ⟨served, serves⟩ := Option.isSome_iff_exists.mp listens
              cases moved
              exact .alive polling serves
          · cases moved
            exact .dead polling
      · cases moved
  | kill =>
      simp only [step] at moved
      split at moved
      · next timedOut =>
          cases moved
          exact .kill (Or.inl timedOut)
      · next disconnected =>
          cases moved
          exact .kill (Or.inr disconnected)
      · cases moved
  | _ =>
      simp only [step] at moved
      split at moved
      · next phase =>
          cases moved
          constructor
          exact phase
      · cases moved

/-- Only the kill of the child and the steps of the processes reach the host. -/
theorem step_hosts {action : Action ι} (moved : step plan child state action = some next) :
    next.host = state.host ∨
      (∃ inner, action = .host inner ∧ Host.step plan state.host inner = some next.host) ∨
      (action = .kill ∧ next.host = state.host.ended child) := by
  cases takes_of_step moved with
  | @host inner host stepped => exact Or.inr (Or.inl ⟨inner, rfl, stepped⟩)
  | kill killing => exact Or.inr (Or.inr ⟨rfl, rfl⟩)
  | _ => exact Or.inl rfl

/-- A step of link takes the processes to no state that they cannot reach by themselves. -/
theorem step_host_reachable {before : SocketDir String Empty} {known : String → Bool}
    {action : Action ι}
    (reached : Transition.Reachable (Host.step plan) (.initial before known) state.host)
    (moved : step plan child state action = some next) :
    Transition.Reachable (Host.step plan) (.initial before known) next.host := by
  rcases step_hosts moved with same | ⟨inner, -, stepped⟩ | ⟨-, ended⟩
  · rwa [same]
  · exact reached.snoc stepped
  · rw [ended]
    exact Host.ended_reachable reached child

/-- Link takes the processes to no state that they cannot reach by themselves. -/
theorem host_reachable {before : SocketDir String Empty} {known : String → Bool}
    {host : Host.State ι curve}
    (start : Transition.Reachable (Host.step plan) (.initial before known) host)
    (reached : Transition.Reachable (Link.step plan child) (.initial plan child host) state) :
    Transition.Reachable (Host.step plan) (.initial before known) state.host :=
  reached.invariant (motive := fun state =>
    Transition.Reachable (Host.step plan) (.initial before known) state.host)
    (fun _ _ _ reachable moved => step_host_reachable reachable moved) start

end Step

end Link

end OrbitBuild
