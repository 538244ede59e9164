import OrbitBuild.Bridge.Manager

/-! # Where a client's connection goes

The socket at a path belongs to a task of that path. When all accept loops run,
the path of every bridge leads to such a task; it is the task of the platform the
client meant when no other bridged platform has the same last segment.
-/

namespace OrbitBuild

variable {curve : Curve}

namespace Bridge

/-- The task has removed what was at its path and holds no socket there. -/
def TaskPhase.cleared : TaskPhase → Bool
  | .unlinked | .bindFailed | .exited => true
  | .spawned | .listening => false

/-- A task leaves other paths alone. -/
theorem Task.step_frame {accepts : String → Bool} {dir next : SocketDir String Nat} {index : Nat}
    {task moved : Task curve} (stepped : task.step accepts dir index = some (next, moved))
    {path : String} (other : path ≠ task.bridge.socketPath) : next path = dir path := by
  obtain ⟨-, ⟨-, -, rfl⟩ | ⟨-, -, bound⟩ | ⟨-, -, rfl, -⟩ | ⟨-, -, rfl⟩⟩ := Task.step_cases stepped
  · exact SocketDir.unlink_of_ne dir other
  · obtain ⟨-, -, rfl⟩ := SocketDir.bind_eq_some.mp bound
    exact Function.update_of_ne other _ _
  · rfl
  · exact SocketDir.unlink_of_ne dir other

/-- A task that moves was not listening; now it is, with its socket in place, or it
has cleared its path. -/
theorem Task.step_outcome {accepts : String → Bool} {dir next : SocketDir String Nat} {index : Nat}
    {task moved : Task curve} (stepped : task.step accepts dir index = some (next, moved)) :
    task.phase ≠ .listening ∧
      ((moved.phase = .listening ∧ next task.bridge.socketPath = some (.socket index)) ∨
        (moved.phase.cleared = true ∧
          ∀ owner, next task.bridge.socketPath = some (.socket owner) →
            dir task.bridge.socketPath = some (.socket owner))) := by
  obtain ⟨-, ⟨before, after, rfl⟩ | ⟨before, after, bound⟩ | ⟨before, after, rfl, -⟩ |
    ⟨before, after, rfl⟩⟩ := Task.step_cases stepped
  · refine ⟨by rw [before]; decide, Or.inr ⟨by rw [after]; rfl, fun owner socket => ?_⟩⟩
    exact (SocketDir.unlink_ne_socket dir _ owner socket).elim
  · obtain ⟨-, -, rfl⟩ := SocketDir.bind_eq_some.mp bound
    exact ⟨by rw [before]; decide, Or.inl ⟨after, Function.update_self _ _ _⟩⟩
  · exact ⟨by rw [before]; decide, Or.inr ⟨by rw [after]; rfl, fun _ socket => socket⟩⟩
  · refine ⟨by rw [before]; decide, Or.inr ⟨by rw [after]; rfl, fun owner socket => ?_⟩⟩
    exact (SocketDir.unlink_ne_socket dir _ owner socket).elim

/-- Sockets belong to listening tasks of their path. A listening task's path holds a
socket unless another task has cleared it. -/
structure Routed (state : State curve) : Prop where
  owners : ∀ path index, state.dir path = some (.socket index) →
    ∃ task : Task curve, state.manager.tasks[index]? = some task ∧
      task.bridge.socketPath = path ∧ task.phase = .listening
  served : ∀ (index : Nat) (task : Task curve), state.manager.tasks[index]? = some task →
    task.phase = .listening →
    (∃ owner, state.dir task.bridge.socketPath = some (.socket owner)) ∨
      ∃ other ∈ state.manager.tasks, other.bridge.socketPath = task.bridge.socketPath ∧
        other.phase.cleared = true

theorem Routed.initial (before : SocketDir String Empty) (platforms : List String) :
    Routed (State.initial before platforms : State curve) :=
  ⟨fun path index socket => (before.inherit_ne_socket path index socket).elim,
    fun _ _ found => by cases found⟩

/-- Adding a bridge takes no socket from a task. -/
theorem Routed.add {setup : Setup curve} {state next : State curve} (routed : Routed state)
    (moved : step setup state .add = some next) : Routed next := by
  obtain ⟨platform, rest, built, -, -, rfl⟩ := step_add_eq_some.mp moved
  cases built with
  | none => exact ⟨routed.owners, routed.served⟩
  | some bridge =>
      refine ⟨fun path index socket => ?_, fun index task found listening => ?_⟩
      · obtain ⟨task, found, same⟩ := routed.owners path index socket
        have inside := (List.getElem?_eq_some_iff.mp found).1
        exact ⟨task, (List.getElem?_append_left inside).trans found, same⟩
      · have member := List.mem_of_getElem? found
        rcases List.mem_append.mp member with old | fresh
        · obtain ⟨place, same⟩ := List.mem_iff_getElem?.mp old
          rcases routed.served place task same listening with socket | ⟨other, listed, cleared⟩
          · exact Or.inl socket
          · exact Or.inr ⟨other, List.mem_append_left _ listed, cleared⟩
        · rw [List.mem_singleton.mp fresh] at listening
          cases listening

/-- A task takes a socket from its path only when it has cleared it. -/
theorem Routed.task {setup : Setup curve} {state next : State curve} {index : Nat}
    (routed : Routed state) (moved : step setup state (.task index) = some next) : Routed next := by
  obtain ⟨task, dir, after, found, stepped, rfl⟩ := step_task_eq_some.mp moved
  have bridge := (Task.step_cases stepped).1
  obtain ⟨silent, outcome⟩ := Task.step_outcome stepped
  have here : (state.manager.tasks.set index after)[index]? = some after := by
    rw [getElem?_tasks_set found, if_pos rfl]
  have others : ∀ other, other ≠ index →
      (state.manager.tasks.set index after)[other]? = state.manager.tasks[other]? := by
    intro other different
    rw [getElem?_tasks_set found, if_neg different]
  refine ⟨fun path owner socket => ?_, fun place other listed listening => ?_⟩
  · have before : (path = task.bridge.socketPath ∧ owner = index ∧ after.phase = .listening) ∨
        state.dir path = some (.socket owner) := by
      by_cases same : path = task.bridge.socketPath
      · subst same
        rcases outcome with ⟨listening, bound⟩ | ⟨-, kept⟩
        · cases socket.symm.trans bound
          exact Or.inl ⟨rfl, rfl, listening⟩
        · exact Or.inr (kept owner socket)
      · exact Or.inr ((Task.step_frame stepped same).symm.trans socket)
    rcases before with ⟨rfl, rfl, listening⟩ | old
    · exact ⟨after, here, congrArg Bridge.socketPath bridge, listening⟩
    · obtain ⟨holder, held, path, listening⟩ := routed.owners path owner old
      have different : owner ≠ index := by
        rintro rfl
        cases held.symm.trans found
        exact silent listening
      exact ⟨holder, (others owner different).trans held, path, listening⟩
  · by_cases same : other.bridge.socketPath = task.bridge.socketPath
    · rcases outcome with ⟨-, bound⟩ | ⟨cleared, -⟩
      · exact Or.inl ⟨index, by rw [same]; exact bound⟩
      · refine Or.inr ⟨after, List.mem_of_getElem? here, ?_, cleared⟩
        rw [bridge, same]
    · have different : place ≠ index := by
        rintro rfl
        cases here.symm.trans listed
        exact same (congrArg Bridge.socketPath bridge)
      have old := (others place different).symm.trans listed
      rcases routed.served place other old listening with
        ⟨owner, socket⟩ | ⟨clearer, member, path, cleared⟩
      · exact Or.inl ⟨owner, (Task.step_frame stepped same).trans socket⟩
      · obtain ⟨slot, slotted⟩ := List.mem_iff_getElem?.mp member
        have apart : slot ≠ index := by
          rintro rfl
          cases slotted.symm.trans found
          exact same path.symm
        have still := List.mem_of_getElem? ((others slot apart).trans slotted)
        exact Or.inr ⟨clearer, still, path, cleared⟩

/-- In every reachable state sockets belong to the tasks that listen there. -/
theorem Routed.of_reachable {setup : Setup curve} {before : SocketDir String Empty}
    {platforms : List String} {state : State curve}
    (reachable : Transition.Reachable (step setup) (.initial before platforms) state) :
    Routed state := by
  refine reachable.invariant (fun state action next routed moved => ?_)
    (Routed.initial before platforms)
  cases action with
  | add => exact routed.add moved
  | task index => exact routed.task moved

/-- When all accept loops run, every bridge's path leads to a task of that path. -/
theorem Routed.accepts {state : State curve} (routed : Routed state) (all : state.AllListening)
    {task : Task curve} (member : task ∈ state.manager.tasks) :
    ∃ owner, state.Accepts task.bridge.socketPath owner ∧
      owner.bridge.socketPath = task.bridge.socketPath := by
  obtain ⟨place, found⟩ := List.mem_iff_getElem?.mp member
  rcases routed.served place task found (all.2 task member) with
    ⟨owner, socket⟩ | ⟨other, listed, -, cleared⟩
  · obtain ⟨holder, held, path, listening⟩ := routed.owners _ owner socket
    exact ⟨holder, ⟨owner, socket, held, listening⟩, path⟩
  · rw [all.2 other listed] at cleared
    cases cleared

/-- A client that connects to the path of a bridged platform is proxied to the
satellite that the selection gives for this platform. -/
def State.Routes (setup : Setup curve) (state : State curve) : Prop :=
  ∀ platform ∈ state.manager.platforms, ∀ path entry,
    socketPathForPlatform setup.socketDir platform = .ok path →
    selectSatelliteForPlatform setup.entries platform = .ok (some entry) →
    ∃ task, state.Accepts path task ∧ task.bridge.satelliteAddr = entry.endpointAddr

/-- Distinct bridged platforms have distinct socket paths. -/
def Setup.PathsUnshared (setup : Setup curve) (platforms : List String) : Prop :=
  ∀ first ∈ setup.bridges platforms, ∀ second ∈ setup.bridges platforms,
    first.socketPath = second.socketPath → first.platform = second.platform

/-- Distinct bridged platforms have distinct last segments. -/
def Setup.SegmentsDistinct (setup : Setup curve) (platforms : List String) : Prop :=
  ∀ first ∈ setup.bridges platforms, ∀ second ∈ setup.bridges platforms,
    platformToArch first.platform = platformToArch second.platform →
      first.platform = second.platform

/-- Paths are shared exactly where last segments are. -/
theorem Setup.pathsUnshared_iff (setup : Setup curve) (platforms : List String) :
    setup.PathsUnshared platforms ↔ setup.SegmentsDistinct platforms := by
  have paths : ∀ first ∈ setup.bridges platforms, ∀ second ∈ setup.bridges platforms,
      first.socketPath = second.socketPath ↔
        platformToArch first.platform = platformToArch second.platform := by
    intro first memberFirst second memberSecond
    obtain ⟨arch, extracted, path⟩ :=
      socketPathForPlatform_eq_ok.mp (Setup.socketPath_of_mem memberFirst)
    obtain ⟨other, extractedOther, pathOther⟩ :=
      socketPathForPlatform_eq_ok.mp (Setup.socketPath_of_mem memberSecond)
    rw [path, pathOther, extracted, extractedOther, Except.ok.injEq]
    exact ⟨joinPath_socketName_injective, fun same => by rw [same]⟩
  constructor
  · intro unshared first memberFirst second memberSecond same
    exact unshared first memberFirst second memberSecond
      ((paths first memberFirst second memberSecond).mpr same)
  · intro distinct first memberFirst second memberSecond same
    exact distinct first memberFirst second memberSecond
      ((paths first memberFirst second memberSecond).mp same)

/-- Without shared paths every connection is routed as the selection says. -/
theorem routes_of_pathsUnshared {setup : Setup curve} {before : SocketDir String Empty}
    {platforms : List String} {state : State curve}
    (reachable : Transition.Reachable (step setup) (.initial before platforms) state)
    (all : state.AllListening) (unshared : setup.PathsUnshared platforms) : state.Routes setup := by
  have prepared := Prepared.of_reachable reachable
  have tasks := prepared.tasks all.1
  intro platform listed path entry derived selected
  obtain ⟨bridge, member, rfl⟩ := (prepared.keys platform).mp listed
  obtain ⟨task, spawned, rfl⟩ := List.mem_map.mp member
  obtain ⟨owner, accepts, same⟩ := (Routed.of_reachable reachable).accepts all spawned
  have ownerListed : owner.bridge ∈ setup.bridges platforms := by
    obtain ⟨index, -, held, -⟩ := accepts
    rw [← tasks]
    exact List.mem_map_of_mem (List.mem_of_getElem? held)
  rw [tasks] at member
  have named := unshared _ ownerListed _ member same
  have own := Setup.socketPath_of_mem member
  rw [derived] at own
  cases own
  refine ⟨owner, accepts, ?_⟩
  obtain ⟨asked, -, built⟩ := Setup.mem_bridges.mp ownerListed
  obtain ⟨rfl, -, other, chosen, addr⟩ := Setup.bridge_eq_some built
  rw [named, selected] at chosen
  cases chosen
  exact addr

/-- **Routing.** The paths are unshared and, in every interleaving of the bridge loop
with the tasks, all accept loops route as the selection says, exactly when the bridged
platforms have distinct last segments. -/
theorem routes_iff (setup : Setup curve) (before : SocketDir String Empty)
    (platforms : List String) :
    (setup.PathsUnshared platforms ∧
      ∀ state, Transition.Reachable (step setup) (.initial before platforms) state →
        state.AllListening → state.Routes setup) ↔
      setup.SegmentsDistinct platforms := by
  rw [← Setup.pathsUnshared_iff]
  constructor
  · exact fun both => both.1
  · intro unshared
    exact ⟨unshared, fun state reachable all => routes_of_pathsUnshared reachable all unshared⟩

/-- An idle satellite with the given key and native architecture that also
emulates one platform. -/
def idleSatellite (byte : UInt8) (arch emulated : String) : String × SatelliteEntry Curve.full :=
  ((PublicKey.ofByte byte).display,
    ⟨arch, ["linux/" ++ arch, emulated], "idle", .new (.ofByte byte), 10⟩)

/-- Two satellites that serve platforms with the same variant. -/
def variantSetup : Setup Curve.full where
  socketDir := "/tmp"
  entries := [idleSatellite 1 "arm64" "linux/arm64/v8", idleSatellite 3 "arm" "linux/arm/v8"]
  accepts _ := true

/-- Both accept loops run and a client of the first platform reaches the second satellite. -/
theorem variants_misrouted :
    parsePlatforms "linux/arm64/v8,linux/arm/v8" = .ok ["linux/arm64/v8", "linux/arm/v8"] ∧
      ∃ state, Transition.Reachable (step variantSetup)
          (.initial (fun _ => none) ["linux/arm64/v8", "linux/arm/v8"]) state ∧
        state.AllListening ∧ ¬ state.Routes variantSetup := by
  refine ⟨by decide, _, ⟨[.add, .add, .task 0, .task 0, .task 1, .task 1], rfl⟩,
    ⟨rfl, by decide⟩, fun routes => ?_⟩
  obtain ⟨task, ⟨index, socket, held, -⟩, addr⟩ :=
    routes "linux/arm64/v8" (by decide) "/tmp/orbit-v8.sock" _ rfl rfl
  have owner : some (File.socket 1) = some (File.socket index) := socket
  cases owner
  cases held
  exact absurd addr (by decide)

end Bridge

end OrbitBuild
