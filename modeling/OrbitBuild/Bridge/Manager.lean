import OrbitBuild.Foundation.SocketDir
import OrbitBuild.Foundation.Transition
import OrbitBuild.MissionControl.Discover

/-! # The bridges of Mission Control

The bridge loop of `run_mission_control` adds a bridge for every requested
platform that a satellite is selected for. Each bridge gets an accept-loop task,
and the tasks run next to each other and to the loop: they share the directory of
the sockets and nothing else.
-/

namespace OrbitBuild

variable {curve : Curve}

/-- One platform's socket and the satellite it leads to. -/
structure Bridge (curve : Curve) where
  platform : String
  socketPath : String
  satelliteAddr : EndpointAddr curve
  deriving DecidableEq

namespace Bridge

/-- What the bridge loop works on, and what the operating system lets it do:
`accepts` are the paths a socket can be bound at. -/
structure Setup (curve : Curve) where
  socketDir : String
  entries : List (String × SatelliteEntry curve)
  accepts : String → Bool

/-- The bridge for a platform, if a satellite is selected for it. -/
def Setup.bridge (setup : Setup curve) (platform : String) :
    Except Panic (Option (Bridge curve)) := do
  let _ ← platformToArch platform
  match ← selectSatelliteForPlatform setup.entries platform with
  | some satelliteEntry =>
      let socketPath ← socketPathForPlatform setup.socketDir platform
      return some ⟨platform, socketPath, satelliteEntry.endpointAddr⟩
  | none => return none

/-- The bridges of a list of platforms, repetitions included. -/
def Setup.bridges (setup : Setup curve) (platforms : List String) : List (Bridge curve) :=
  platforms.filterMap fun platform => (setup.bridge platform).toOption.join

/-- How far an accept-loop task has come. -/
inductive TaskPhase
  | spawned
  /-- `cleanup_socket` has removed what was at the path. -/
  | unlinked
  /-- The socket is bound and the accept loop is running. -/
  | listening
  | bindFailed
  /-- After a failed bind the task has removed what was at the path and ended. -/
  | exited
  deriving DecidableEq

/-- A spawned accept-loop task. -/
structure Task (curve : Curve) where
  bridge : Bridge curve
  phase : TaskPhase
  deriving DecidableEq

/-- The next step of the task with the given index, on the shared directory. -/
def Task.step (accepts : String → Bool) (dir : SocketDir String Nat) (index : Nat)
    (task : Task curve) : Option (SocketDir String Nat × Task curve) :=
  match task.phase with
  | .spawned => some (dir.unlink task.bridge.socketPath, { task with phase := .unlinked })
  | .unlinked =>
      match dir.bind accepts task.bridge.socketPath index with
      | some bound => some (bound, { task with phase := .listening })
      | none => some (dir, { task with phase := .bindFailed })
  | .bindFailed => some (dir.unlink task.bridge.socketPath, { task with phase := .exited })
  | .listening | .exited => none

/-- `BridgeManager`: one bridge for each platform, and every task ever spawned. -/
structure Manager (curve : Curve) where
  bridges : List (String × Bridge curve)
  tasks : List (Task curve)

namespace Manager

def new : Manager curve := ⟨[], []⟩

/-- Spawn the accept loop and put the bridge in the place of an earlier one. -/
def addBridge (manager : Manager curve) (bridge : Bridge curve) : Manager curve where
  bridges := manager.bridges.filter (fun added => added.1 ≠ bridge.platform) ++
    [(bridge.platform, bridge)]
  tasks := manager.tasks ++ [⟨bridge, .spawned⟩]

def platforms (manager : Manager curve) : List String := manager.bridges.map Prod.fst

end Manager

/-- Mission Control while it sets up its bridges. -/
structure State (curve : Curve) where
  dir : SocketDir String Nat
  manager : Manager curve
  /-- The platforms the bridge loop has not reached. -/
  pending : List String

inductive Action
  /-- The next iteration of the bridge loop. -/
  | add
  /-- A step of the task with this index. -/
  | task (index : Nat)
  deriving DecidableEq

/-- Before the bridge loop: the directory holds what earlier processes left. -/
def State.initial (before : SocketDir String Empty) (platforms : List String) : State curve :=
  ⟨before.inherit, .new, platforms⟩

def step (setup : Setup curve) (state : State curve) : Action → Option (State curve)
  | .add =>
      match state.pending with
      | [] => none
      | platform :: rest =>
          match setup.bridge platform with
          | .error _ => none
          | .ok none => some { state with pending := rest }
          | .ok (some bridge) =>
              some { state with manager := state.manager.addBridge bridge, pending := rest }
  | .task index =>
      match state.manager.tasks[index]? with
      | none => none
      | some task =>
          match task.step setup.accepts state.dir index with
          | none => none
          | some (dir, moved) =>
              some { state with
                dir := dir
                manager := { state.manager with tasks := state.manager.tasks.set index moved } }

/-- The bridge loop is over and every task has entered its accept loop or ended. -/
def State.Settled (state : State curve) : Prop :=
  state.pending = [] ∧ ∀ task ∈ state.manager.tasks, task.phase = .listening ∨ task.phase = .exited

/-- The bridge loop is over and every accept loop is running. -/
def State.AllListening (state : State curve) : Prop :=
  state.pending = [] ∧ ∀ task ∈ state.manager.tasks, task.phase = .listening

/-- A client that connects to the path is accepted by this task. -/
def State.Accepts (state : State curve) (path : String) (task : Task curve) : Prop :=
  ∃ index, state.dir path = some (.socket index) ∧ state.manager.tasks[index]? = some task ∧
    task.phase = .listening

/-! ## What a step does -/

/-- A bridge is built at the platform's path, to the satellite that is selected for it. -/
theorem Setup.bridge_eq_some {setup : Setup curve} {platform : String} {bridge : Bridge curve}
    (built : setup.bridge platform = .ok (some bridge)) :
    bridge.platform = platform ∧
      socketPathForPlatform setup.socketDir platform = .ok bridge.socketPath ∧
      ∃ entry, selectSatelliteForPlatform setup.entries platform = .ok (some entry) ∧
        bridge.satelliteAddr = entry.endpointAddr := by
  unfold Setup.bridge at built
  cases extracted : platformToArch platform with
  | error panic => rw [extracted] at built; cases built
  | ok arch =>
      cases selected : selectSatelliteForPlatform setup.entries platform with
      | error panic => rw [extracted, selected] at built; cases built
      | ok entry =>
          cases derived : socketPathForPlatform setup.socketDir platform with
          | error panic =>
              cases entry <;> rw [extracted, selected, derived] at built <;> cases built
          | ok path =>
              cases entry with
              | none => rw [extracted, selected] at built; cases built
              | some entry =>
                  rw [extracted, selected, derived] at built
                  cases built
                  exact ⟨rfl, rfl, entry, rfl, rfl⟩

/-- A platform with an architecture is set up without a panic. -/
theorem Setup.bridge_isOk (setup : Setup curve) {platform arch : String}
    (extracted : platformToArch platform = .ok arch) :
    ∃ built, setup.bridge platform = .ok built := by
  have derived : socketPathForPlatform setup.socketDir platform =
      .ok (joinPath setup.socketDir (socketName arch)) :=
    socketPathForPlatform_eq_ok.mpr ⟨arch, extracted, rfl⟩
  unfold Setup.bridge
  cases selected : selectSatelliteForPlatform setup.entries platform with
  | error panic =>
      simp only [selectSatelliteForPlatform, selectElement, extracted, bind,
        Except.bind] at selected
      split at selected <;> cases selected
  | ok entry => cases entry <;> simp [extracted, derived, bind, Except.bind, pure, Except.pure]

/-- The bridges that are built are those of the platforms that have one. -/
theorem Setup.mem_bridges {setup : Setup curve} {platforms : List String} {bridge : Bridge curve} :
    bridge ∈ setup.bridges platforms ↔
      ∃ platform ∈ platforms, setup.bridge platform = .ok (some bridge) := by
  have joined : ∀ built : Except Panic (Option (Bridge curve)),
      built.toOption.join = some bridge ↔ built = .ok (some bridge) := by
    rintro (panic | _ | other) <;> simp [Except.toOption]
  simp only [Setup.bridges, List.mem_filterMap, joined]

/-- The socket path of a bridge is the one derived from its platform. -/
theorem Setup.socketPath_of_mem {setup : Setup curve} {platforms : List String}
    {bridge : Bridge curve} (member : bridge ∈ setup.bridges platforms) :
    socketPathForPlatform setup.socketDir bridge.platform = .ok bridge.socketPath := by
  obtain ⟨platform, -, built⟩ := Setup.mem_bridges.mp member
  obtain ⟨rfl, derived, -⟩ := Setup.bridge_eq_some built
  exact derived

/-- **The steps of a task.** It unlinks its path and binds it, or unlinks it again when the
bind has failed. -/
theorem Task.step_cases {accepts : String → Bool} {dir next : SocketDir String Nat} {index : Nat}
    {task moved : Task curve} (stepped : task.step accepts dir index = some (next, moved)) :
    moved.bridge = task.bridge ∧
      ((task.phase = .spawned ∧ moved.phase = .unlinked ∧
          next = dir.unlink task.bridge.socketPath) ∨
        (task.phase = .unlinked ∧ moved.phase = .listening ∧
          dir.bind accepts task.bridge.socketPath index = some next) ∨
        (task.phase = .unlinked ∧ moved.phase = .bindFailed ∧ next = dir ∧
          dir.bind accepts task.bridge.socketPath index = none) ∨
        (task.phase = .bindFailed ∧ moved.phase = .exited ∧
          next = dir.unlink task.bridge.socketPath)) := by
  unfold Task.step at stepped
  cases phase : task.phase with
  | spawned =>
      rw [phase] at stepped
      cases stepped
      exact ⟨rfl, Or.inl ⟨rfl, rfl, rfl⟩⟩
  | unlinked =>
      rw [phase] at stepped
      cases bound : dir.bind accepts task.bridge.socketPath index with
      | some after =>
          simp only [bound] at stepped
          cases stepped
          exact ⟨rfl, Or.inr (Or.inl ⟨rfl, rfl, rfl⟩)⟩
      | none =>
          simp only [bound] at stepped
          cases stepped
          exact ⟨rfl, Or.inr (Or.inr (Or.inl ⟨rfl, rfl, rfl, rfl⟩))⟩
  | bindFailed =>
      rw [phase] at stepped
      cases stepped
      exact ⟨rfl, Or.inr (Or.inr (Or.inr ⟨rfl, rfl, rfl⟩))⟩
  | listening => rw [phase] at stepped; cases stepped
  | exited => rw [phase] at stepped; cases stepped

/-- The bridge loop takes the next platform and spawns its bridge if there is one. -/
theorem step_add_eq_some {setup : Setup curve} {state next : State curve} :
    step setup state .add = some next ↔
      ∃ platform rest built, state.pending = platform :: rest ∧ setup.bridge platform = .ok built ∧
        next = ⟨state.dir, built.elim state.manager state.manager.addBridge, rest⟩ := by
  cases pending : state.pending with
  | nil => simp [step, pending]
  | cons platform rest =>
      cases built : setup.bridge platform with
      | error panic => simp [step, pending, built]
      | ok bridge => cases bridge <;> simp [step, pending, built, eq_comm]

/-- A step of a task changes the directory and that task alone. -/
theorem step_task_eq_some {setup : Setup curve} {state next : State curve} {index : Nat} :
    step setup state (.task index) = some next ↔
      ∃ task dir moved, state.manager.tasks[index]? = some task ∧
        task.step setup.accepts state.dir index = some (dir, moved) ∧
        next =
          ⟨dir, ⟨state.manager.bridges, state.manager.tasks.set index moved⟩, state.pending⟩ := by
  cases found : state.manager.tasks[index]? with
  | none => simp [step, found]
  | some task =>
      cases stepped : task.step setup.accepts state.dir index with
      | none => simp [step, found, stepped]
      | some pair => simp [step, found, stepped, eq_comm, Prod.ext_iff, and_assoc]

/-- After its own step the task has moved on, and no other task has. -/
theorem getElem?_tasks_set {tasks : List (Task curve)} {index other : Nat} {task moved : Task curve}
    (found : tasks[index]? = some task) :
    (tasks.set index moved)[other]? = if other = index then some moved else tasks[other]? := by
  have inside := (List.getElem?_eq_some_iff.mp found).1
  rw [List.getElem?_set]
  by_cases same : other = index
  · simp [same, inside]
  · simp [same, Ne.symm same]

/-- A task keeps its bridge. -/
theorem bridges_set {tasks : List (Task curve)} {index : Nat} {task moved : Task curve}
    (found : tasks[index]? = some task) (same : moved.bridge = task.bridge) :
    (tasks.set index moved).map Task.bridge = tasks.map Task.bridge := by
  apply List.ext_getElem?
  intro other
  rw [List.getElem?_map, List.getElem?_map, getElem?_tasks_set found]
  by_cases here : other = index
  · rw [if_pos here, here, found, Option.map_some, Option.map_some, same]
  · rw [if_neg here]

/-- What cannot be removed stays where it is. -/
theorem blocked_step {setup : Setup curve} {state next : State curve} {action : Action}
    (moved : step setup state action = some next) (path : String) :
    next.dir.blocked path = state.dir.blocked path := by
  cases action with
  | add =>
      obtain ⟨platform, rest, built, -, -, rfl⟩ := step_add_eq_some.mp moved
      rfl
  | task index =>
      obtain ⟨task, dir, after, -, stepped, rfl⟩ := step_task_eq_some.mp moved
      obtain ⟨-, ⟨-, -, rfl⟩ | ⟨-, -, bound⟩ | ⟨-, -, rfl, -⟩ | ⟨-, -, rfl⟩⟩ :=
        Task.step_cases stepped
      · exact SocketDir.blocked_unlink _ _ _
      · exact SocketDir.blocked_bind bound path
      · rfl
      · exact SocketDir.blocked_unlink _ _ _

/-! ## The bridges that are set up -/

/-- Every bridge has a task, in order, and the manager knows their platforms. -/
structure Prepared (setup : Setup curve) (platforms : List String) (state : State curve) :
    Prop where
  bridges : state.manager.tasks.map Task.bridge ++ setup.bridges state.pending =
    setup.bridges platforms
  keys : ∀ platform, platform ∈ state.manager.platforms ↔
    ∃ bridge ∈ state.manager.tasks.map Task.bridge, bridge.platform = platform

/-- An added bridge adds its platform to the manager's. -/
theorem mem_platforms_addBridge {manager : Manager curve} {bridge : Bridge curve}
    {platform : String} :
    platform ∈ (manager.addBridge bridge).platforms ↔
      platform ∈ manager.platforms ∨ platform = bridge.platform := by
  simp only [Manager.platforms, Manager.addBridge, List.map_append, List.map_singleton,
    List.mem_append, List.mem_singleton]
  by_cases same : platform = bridge.platform
  · simp only [same, or_true]
  · simp only [same, or_false, List.mem_map, List.mem_filter, decide_eq_true_eq]
    constructor
    · intro both
      obtain ⟨added, ⟨member, -⟩, named⟩ := both
      exact ⟨added, member, named⟩
    · intro both
      obtain ⟨added, member, named⟩ := both
      exact ⟨added, ⟨member, by rwa [named]⟩, named⟩

theorem Prepared.initial (setup : Setup curve) (before : SocketDir String Empty)
    (platforms : List String) : Prepared setup platforms (.initial before platforms) :=
  ⟨rfl, fun platform => by simp [State.initial, Manager.new, Manager.platforms]⟩

/-- No step loses or adds a bridge out of turn. -/
theorem Prepared.step {setup : Setup curve} {platforms : List String} {state next : State curve}
    {action : Action} (prepared : Prepared setup platforms state)
    (moved : Bridge.step setup state action = some next) : Prepared setup platforms next := by
  cases action with
  | add =>
      obtain ⟨platform, rest, built, pending, bridge, rfl⟩ := step_add_eq_some.mp moved
      have whole := prepared.bridges
      rw [pending] at whole
      cases built with
      | none =>
          refine ⟨?_, prepared.keys⟩
          rw [← whole]
          simp [Setup.bridges, bridge, Except.toOption]
      | some added =>
          obtain ⟨named, -, -⟩ := Setup.bridge_eq_some bridge
          refine ⟨?_, fun name => ?_⟩
          · rw [← whole]
            simp [Setup.bridges, bridge, Except.toOption, Manager.addBridge]
          · simp only [Option.elim_some]
            rw [mem_platforms_addBridge, prepared.keys]
            simp only [Manager.addBridge, List.map_append, List.map_singleton, List.mem_append,
              List.mem_singleton]
            constructor
            · intro either
              rcases either with ⟨old, member, rfl⟩ | rfl
              · exact ⟨old, Or.inl member, rfl⟩
              · exact ⟨added, Or.inr rfl, rfl⟩
            · intro both
              obtain ⟨old, member | rfl, rfl⟩ := both
              · exact Or.inl ⟨old, member, rfl⟩
              · exact Or.inr rfl
  | task index =>
      obtain ⟨task, dir, after, found, stepped, rfl⟩ := step_task_eq_some.mp moved
      have same := bridges_set found (Task.step_cases stepped).1
      refine ⟨?_, ?_⟩
      · rw [same]
        exact prepared.bridges
      · rw [same]
        exact prepared.keys

/-- In every reachable state the tasks have the first of the bridges to be built. -/
theorem Prepared.of_reachable {setup : Setup curve} {platforms : List String}
    {before : SocketDir String Empty} {state : State curve}
    (reachable : Transition.Reachable (Bridge.step setup) (.initial before platforms) state) :
    Prepared setup platforms state :=
  reachable.invariant (fun _ _ _ prepared moved => prepared.step moved)
    (Prepared.initial setup before platforms)

/-- Once the bridge loop is over there is one task for every bridge. -/
theorem Prepared.tasks {setup : Setup curve} {platforms : List String} {state : State curve}
    (prepared : Prepared setup platforms state) (allAdded : state.pending = []) :
    state.manager.tasks.map Task.bridge = setup.bridges platforms := by
  have whole := prepared.bridges
  rw [allAdded] at whole
  simpa [Setup.bridges] using whole

end Bridge

end OrbitBuild
