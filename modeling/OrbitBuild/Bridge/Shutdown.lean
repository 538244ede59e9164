import OrbitBuild.Bridge.Manager

/-! # Shutting the bridges down

`BridgeManager::shutdown` aborts every task and removes the socket of every bridge in
the map. It awaits no task: one that is between its unlink and its bind goes on to its
next await point. And the map has forgotten a bridge whose platform was added again,
while its task is still in the list.
-/

namespace OrbitBuild

variable {curve : Curve}

namespace Bridge

/-- The paths that `shutdown` removes. -/
def Manager.socketPaths (manager : Manager curve) : List String :=
  manager.bridges.map fun added => added.2.socketPath

namespace Shutdown

/-- How far the owner of the manager has come. -/
inductive Stage
  /-- Before `shutdown`; `add_bridge` can be called. -/
  | adding
  /-- The tasks are aborted, and the sockets at these paths are to be removed. -/
  | cleaning (remaining : List String)
  | returned
  deriving DecidableEq

/-- A manager and its tasks. A task that was cancelled is `exited`. -/
structure State (curve : Curve) where
  dir : SocketDir String Nat
  manager : Manager curve
  stage : Stage

inductive Action (curve : Curve)
  | add (bridge : Bridge curve)
  /-- `shutdown` aborts the tasks; the values of the map come in this order. -/
  | shutdown (order : List String)
  /-- The next iteration of the loop over the map, or the return after the last. -/
  | clean
  /-- A step of the task with this index. -/
  | task (index : Nat)
  /-- The runtime drops an aborted task and its listener. -/
  | drop (index : Nat)

def State.initial (before : SocketDir String Empty) : State curve :=
  ⟨before.inherit, .new, .adding⟩

def State.setTask (state : State curve) (index : Nat) (task : Task curve) : State curve :=
  { state with manager := { state.manager with tasks := state.manager.tasks.set index task } }

def step (accepts : String → Bool) (state : State curve) : Action curve → Option (State curve)
  | .add bridge =>
      match state.stage with
      | .adding => some { state with manager := state.manager.addBridge bridge }
      | _ => none
  | .shutdown order =>
      match state.stage with
      | .adding =>
          if order.Perm state.manager.socketPaths then some { state with stage := .cleaning order }
          else none
      | _ => none
  | .clean =>
      match state.stage with
      | .cleaning (path :: rest) =>
          some { state with dir := state.dir.unlink path, stage := .cleaning rest }
      | .cleaning [] => some { state with stage := .returned }
      | _ => none
  | .task index =>
      match state.manager.tasks[index]? with
      | none => none
      | some task =>
          match task.step accepts state.dir index with
          | none => none
          | some (dir, moved) => some { state.setTask index moved with dir := dir }
  | .drop index =>
      match state.manager.tasks[index]? with
      | none => none
      | some task =>
          -- No code awaits between the unlink and the accept loop, nor after a failed bind.
          if state.stage ≠ .adding ∧ (task.phase = .spawned ∨ task.phase = .listening) then
            some (state.setTask index { task with phase := .exited })
          else none

/-- A socket file is at the path, with or without a listener. What a process cannot remove
is none of its sockets. -/
def State.Holds (state : State curve) (path : String) : Prop :=
  state.dir path ≠ none ∧ state.dir path ≠ some .unremovable

/-- `shutdown` has returned and every task has ended. -/
def State.Closed (state : State curve) : Prop :=
  state.stage = .returned ∧ ∀ task ∈ state.manager.tasks, task.phase = .exited

/-- The bridges that are added in the course of a run. -/
def added (actions : List (Action curve)) : List (Bridge curve) :=
  actions.filterMap fun
    | .add bridge => some bridge
    | _ => none

/-! ## What a step does -/

/-- `shutdown` is still to remove what is at the path. -/
def Stage.Covers (stage : Stage) (path : String) : Prop :=
  match stage with
  | .adding => True
  | .cleaning remaining => path ∈ remaining
  | .returned => False

/-- What each action needs, and what it makes of the state. -/
inductive Takes (accepts : String → Bool) (state : State curve) :
    Action curve → State curve → Prop
  | add {bridge : Bridge curve} (adding : state.stage = .adding) :
      Takes accepts state (.add bridge) { state with manager := state.manager.addBridge bridge }
  | shutdown {order : List String} (adding : state.stage = .adding)
      (values : order.Perm state.manager.socketPaths) :
      Takes accepts state (.shutdown order) { state with stage := .cleaning order }
  | clean {path : String} {rest : List String} (cleaning : state.stage = .cleaning (path :: rest)) :
      Takes accepts state .clean
        { state with dir := state.dir.unlink path, stage := .cleaning rest }
  | finish (cleaned : state.stage = .cleaning []) :
      Takes accepts state .clean { state with stage := .returned }
  | task {index : Nat} {task moved : Task curve} {dir : SocketDir String Nat}
      (found : state.manager.tasks[index]? = some task)
      (stepped : task.step accepts state.dir index = some (dir, moved)) :
      Takes accepts state (.task index) { state.setTask index moved with dir := dir }
  | drop {index : Nat} {task : Task curve} (found : state.manager.tasks[index]? = some task)
      (shut : state.stage ≠ .adding) :
      Takes accepts state (.drop index) (state.setTask index { task with phase := .exited })

/-- Each step of the code is one of those listed. -/
theorem takes_of_step {accepts : String → Bool} {state next : State curve} {action : Action curve}
    (moved : step accepts state action = some next) : Takes accepts state action next := by
  cases action with
  | add bridge =>
      simp only [step] at moved
      split at moved
      · next adding =>
          cases moved
          exact .add adding
      · cases moved
  | shutdown order =>
      simp only [step] at moved
      split at moved
      · next adding =>
          obtain ⟨values, equation⟩ := Option.ite_none_right_eq_some.mp moved
          cases equation
          exact .shutdown adding values
      · cases moved
  | clean =>
      simp only [step] at moved
      split at moved
      · next cleaning =>
          cases moved
          exact .clean cleaning
      · next cleaned =>
          cases moved
          exact .finish cleaned
      · cases moved
  | task index =>
      simp only [step] at moved
      split at moved
      · cases moved
      · next task found =>
          split at moved
          · cases moved
          · next dir after stepped =>
              cases moved
              exact .task found stepped
  | drop index =>
      simp only [step] at moved
      split at moved
      · cases moved
      · next task found =>
          obtain ⟨both, equation⟩ := Option.ite_none_right_eq_some.mp moved
          cases equation
          exact .drop found both.1

/-- Only `add_bridge` spawns a task. -/
theorem bridges_step {accepts : String → Bool} {state next : State curve} {action : Action curve}
    (moved : step accepts state action = some next) :
    next.manager.tasks.map Task.bridge =
      state.manager.tasks.map Task.bridge ++ added [action] := by
  cases takes_of_step moved with
  | add adding => simp [Manager.addBridge, added]
  | shutdown adding values => exact (List.append_nil _).symm
  | clean cleaning => exact (List.append_nil _).symm
  | finish cleaned => exact (List.append_nil _).symm
  | task found stepped =>
      exact (bridges_set found (Task.step_cases stepped).1).trans (List.append_nil _).symm
  | @drop index task found shut =>
      have same : ({ task with phase := .exited } : Task curve).bridge = task.bridge := rfl
      exact (bridges_set found same).trans (List.append_nil _).symm

/-- The tasks of a run have the bridges added in it, in order. -/
theorem bridges_run {accepts : String → Bool} {state final : State curve}
    {actions : List (Action curve)}
    (reached : Transition.run (step accepts) state actions = some final) :
    final.manager.tasks.map Task.bridge =
      state.manager.tasks.map Task.bridge ++ added actions := by
  induction actions generalizing state with
  | nil =>
      cases reached
      exact (List.append_nil _).symm
  | cons action rest ih =>
      obtain ⟨next, moved, tail⟩ := Transition.run_cons.mp reached
      have joined : added (action :: rest) = added [action] ++ added rest :=
        List.filterMap_append (l := [action])
      rw [ih tail, bridges_step moved, joined, List.append_assoc]

/-! ## What is left behind -/

/-- Removing a file leaves no socket file where there was none. -/
theorem holds_of_unlink {dir : SocketDir String Nat} {path other : String}
    {manager after : Manager curve} {stage shut : Stage}
    (holds : State.Holds ⟨dir.unlink path, after, shut⟩ other) :
    other ≠ path ∧ State.Holds ⟨dir, manager, stage⟩ other := by
  have different : other ≠ path := by
    rintro rfl
    rcases dir.unlink_self_cases other with empty | unremovable
    · exact holds.1 empty
    · exact holds.2 unremovable
  exact ⟨different, by simpa only [State.Holds, dir.unlink_of_ne different] using holds⟩

/-- The map knows the path of every socket file when `shutdown` is called, and no task
binds a path that `shutdown` has dealt with. -/
def Undisturbed (accepts : String → Bool) (state : State curve) : Action curve → Prop
  | .shutdown _ => ∀ task ∈ state.manager.tasks, state.Holds task.bridge.socketPath →
      task.bridge.socketPath ∈ state.manager.socketPaths
  | .task index => ∀ task ∈ state.manager.tasks[index]?, task.phase = .unlinked →
      accepts task.bridge.socketPath = true → state.dir task.bridge.socketPath = none →
      state.stage.Covers task.bridge.socketPath
  | _ => True

instance (stage : Stage) (path : String) : Decidable (stage.Covers path) := by
  cases stage <;> unfold Stage.Covers <;> infer_instance

instance (state : State curve) (path : String) : Decidable (state.Holds path) :=
  inferInstanceAs (Decidable (_ ∧ _))

instance (accepts : String → Bool) (state : State curve) (action : Action curve) :
    Decidable (Undisturbed accepts state action) := by
  cases action <;> unfold Undisturbed <;> infer_instance

/-- `shutdown` is still to come to every socket file at the path of a task. -/
def State.Covered (state : State curve) : Prop :=
  ∀ task ∈ state.manager.tasks, state.Holds task.bridge.socketPath →
    state.stage.Covers task.bridge.socketPath

/-- Each task after a step has the bridge of one before it. -/
theorem mem_setTask {state : State curve} {index : Nat} {task moved other : Task curve}
    (found : state.manager.tasks[index]? = some task) (same : moved.bridge = task.bridge)
    (member : other ∈ (state.setTask index moved).manager.tasks) :
    ∃ before ∈ state.manager.tasks, before.bridge = other.bridge := by
  have listed : other.bridge ∈ (state.manager.tasks.set index moved).map Task.bridge :=
    List.mem_map_of_mem member
  rw [bridges_set found same] at listed
  exact List.mem_map.mp listed

/-- An undisturbed step leaves no socket file that `shutdown` will not come to. -/
theorem State.Covered.step {accepts : String → Bool} {state next : State curve}
    {action : Action curve} (covered : state.Covered)
    (undisturbed : Undisturbed accepts state action)
    (moved : Shutdown.step accepts state action = some next) : next.Covered := by
  cases takes_of_step moved with
  | add adding =>
      intro task member holds
      simp only [adding, Stage.Covers]
  | shutdown adding values =>
      intro task member holds
      exact values.mem_iff.mpr (undisturbed task member holds)
  | @clean path rest cleaning =>
      intro task member holds
      obtain ⟨different, before⟩ := holds_of_unlink holds
      have listed := covered task member before
      rw [cleaning] at listed
      exact (List.mem_cons.mp listed).resolve_left different
  | finish cleaned =>
      intro task member holds
      have listed := covered task member holds
      rw [cleaned] at listed
      cases listed
  | @task index task after dir found stepped =>
      obtain ⟨same, outcomes⟩ := Task.step_cases stepped
      intro other member holds
      obtain ⟨before, listed, bridge⟩ := mem_setTask found same member
      rw [← bridge] at holds ⊢
      rcases outcomes with ⟨-, -, rfl⟩ | ⟨unlinked, -, bound⟩ | ⟨-, -, rfl, -⟩ | ⟨-, -, rfl⟩
      · exact covered before listed (holds_of_unlink holds).2
      · obtain ⟨accepted, free, rfl⟩ := SocketDir.bind_eq_some.mp bound
        by_cases here : before.bridge.socketPath = task.bridge.socketPath
        · rw [here]
          exact undisturbed task found unlinked accepted free
        · apply covered before listed
          simpa only [State.Holds, Function.update_of_ne here] using holds
      · exact covered before listed holds
      · exact covered before listed (holds_of_unlink holds).2
  | @drop index task found shut =>
      have same : ({ task with phase := .exited } : Task curve).bridge = task.bridge := rfl
      intro other member holds
      obtain ⟨before, listed, bridge⟩ := mem_setTask found same member
      rw [← bridge] at holds ⊢
      exact covered before listed holds

/-- **Nothing is left behind** when every socket file is at a path the map knows, and no
aborted task binds its path again. -/
theorem cleaned_of_undisturbed {accepts : String → Bool} {before : SocketDir String Empty}
    {actions : List (Action curve)} {state : State curve}
    (reached : Transition.run (step accepts) (.initial before) actions = some state)
    (undisturbed : Transition.Meets (step accepts) (Undisturbed accepts) (.initial before) actions)
    (closed : state.Closed) : ∀ bridge ∈ added actions, ¬ state.Holds bridge.socketPath := by
  intro bridge member holds
  have initial : (State.initial before : State curve).Covered := fun _ _ _ => trivial
  have covered : state.Covered :=
    Transition.run_invariant_of_meets (fun _ _ _ holds allowed moved => holds.step allowed moved)
      initial undisturbed reached
  rw [← (bridges_run reached).trans (List.nil_append _)] at member
  obtain ⟨task, listed, rfl⟩ := List.mem_map.mp member
  have awaited := covered task listed holds
  rw [closed.1] at awaited
  exact awaited

/-- A bridge to one satellite. -/
def bridgeAt (platform path : String) : Bridge Curve.full :=
  ⟨platform, path, .new (.ofByte 1)⟩

/-- The second of the two tasks binds its path between the abort and the removal. -/
def overlappingShutdown : List (Action Curve.full) :=
  [.add (bridgeAt "linux/arm64" "/tmp/orbit-arm64.sock"),
    .add (bridgeAt "linux/amd64" "/tmp/orbit-amd64.sock"), .task 0, .task 0, .task 1,
    .shutdown ["/tmp/orbit-amd64.sock", "/tmp/orbit-arm64.sock"], .task 1, .clean, .clean, .clean,
    .drop 0, .drop 1]

theorem cleaned_of_undisturbed_overlapping :
    ∃ state, Transition.run (step fun _ => true) (.initial fun _ => none) overlappingShutdown =
        some state ∧ ∀ bridge ∈ added overlappingShutdown, ¬ state.Holds bridge.socketPath := by
  have undisturbed : Transition.Meets (step fun _ => true) (Undisturbed fun _ => true)
      (.initial fun _ => none) overlappingShutdown := by
    decide
  exact ⟨_, rfl, cleaned_of_undisturbed rfl undisturbed ⟨rfl, by decide⟩⟩

/-- A socket is left behind by a task that binds its path after the removal, and by one
whose bridge another of the same platform has replaced in the map. -/
theorem sockets_left_behind :
    (∃ state, Transition.run (step fun _ => true) (.initial fun _ => none)
        [.add (bridgeAt "linux/arm64" "/tmp/orbit-arm64.sock"), .task 0,
          .shutdown ["/tmp/orbit-arm64.sock"], .clean, .clean, .task 0, .drop 0] = some state ∧
      state.Closed ∧ state.Holds "/tmp/orbit-arm64.sock") ∧
    ∃ state, Transition.run (step fun _ => true) (.initial fun _ => none)
        [.add (bridgeAt "linux/arm64" "/tmp/a.sock"), .add (bridgeAt "linux/arm64" "/tmp/b.sock"),
          .task 0, .task 0, .task 1, .task 1, .shutdown ["/tmp/b.sock"], .clean, .clean, .drop 0,
          .drop 1] = some state ∧
      state.Closed ∧ state.Holds "/tmp/a.sock" :=
  ⟨⟨_, rfl, ⟨rfl, by decide⟩, by decide⟩, _, rfl, ⟨rfl, by decide⟩, by decide⟩

/-! ## Mission Control's bridges -/

/-- The paths in the map are those derived from the platforms. -/
theorem derived_of_reachable {setup : Setup curve} {before : SocketDir String Empty}
    {platforms : List String} {state : Bridge.State curve}
    (reachable : Transition.Reachable (Bridge.step setup) (.initial before platforms) state) :
    ∀ entry ∈ state.manager.bridges,
      socketPathForPlatform setup.socketDir entry.1 = .ok entry.2.socketPath := by
  refine reachable.invariant
    (motive := fun later => ∀ entry ∈ later.manager.bridges,
      socketPathForPlatform setup.socketDir entry.1 = .ok entry.2.socketPath) ?_
    (fun _ member => by cases member)
  intro earlier action next derived moved
  cases action with
  | add =>
      obtain ⟨platform, rest, built, -, bridge, rfl⟩ := step_add_eq_some.mp moved
      cases built with
      | none => exact derived
      | some added =>
          obtain ⟨rfl, path, -⟩ := Setup.bridge_eq_some bridge
          intro entry member
          rcases List.mem_append.mp member with old | new
          · exact derived entry (List.mem_filter.mp old).1
          · rw [List.mem_singleton.mp new]
            exact path
  | task index =>
      obtain ⟨task, dir, after, -, -, rfl⟩ := step_task_eq_some.mp moved
      exact derived

/-- A bridge that takes the place of an earlier one has the same path, so that the map
knows the path of every task. -/
theorem socketPaths_of_reachable {setup : Setup curve} {before : SocketDir String Empty}
    {platforms : List String} {state : Bridge.State curve}
    (reachable : Transition.Reachable (Bridge.step setup) (.initial before platforms) state) :
    ∀ task ∈ state.manager.tasks, task.bridge.socketPath ∈ state.manager.socketPaths := by
  intro task listed
  have prepared := Prepared.of_reachable reachable
  have spawned := List.mem_map_of_mem (f := Task.bridge) listed
  have chosen : task.bridge ∈ setup.bridges platforms := by
    rw [← prepared.bridges]
    exact List.mem_append_left _ spawned
  have own := Setup.socketPath_of_mem chosen
  obtain ⟨entry, known, named⟩ := List.mem_map.mp
    ((prepared.keys task.bridge.platform).mpr ⟨task.bridge, spawned, rfl⟩)
  have derived := derived_of_reachable reachable entry known
  rw [named] at derived
  exact List.mem_map.mpr ⟨entry, known, Except.ok.inj (derived.symm.trans own)⟩

end Shutdown

end Bridge

end OrbitBuild
