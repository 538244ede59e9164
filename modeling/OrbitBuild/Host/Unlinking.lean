import OrbitBuild.Bridge.Startup
import OrbitBuild.Host.Instances

/-! # Whose sockets a process removes

A process removes what is at the path of a bridge of its own: when an accept-loop
task starts, when it ends after a failed bind, and in the shutdown. Nothing tells it
whose socket that is. So the sockets of running accept loops are left alone by other
processes exactly where no two processes have a bridge for one path.
-/

namespace OrbitBuild

universe u

variable {ι : Type u} [DecidableEq ι] {curve : Curve}

namespace Host

/-- No step of a process removes the socket of a running accept loop of another one. -/
def Safe (plan : ι → Plan curve) (before : SocketDir String Empty) (known : String → Bool) :
    Prop :=
  ∀ state, Transition.Reachable (step plan) (.initial before known) state →
    ∀ action next, step plan state action = some next →
      ∀ path index i, state.listener path = some (index, i) → state.actor action ≠ some i →
        next.dir path = some (.socket index)

/-- No path that can be bound is one of bridges of two processes. -/
def Apart (plan : ι → Plan curve) (before : SocketDir String Empty) : Prop :=
  ∀ i j, i ≠ j → ∀ bridge ∈ (plan i).bridges, ∀ other ∈ (plan j).bridges,
    other.socketPath = bridge.socketPath →
      ¬ ((plan i).setup.accepts bridge.socketPath = true ∧
        before.blocked bridge.socketPath = false)

/-! ## What a process works on -/

/-- What is left to do is among what the process was started with. -/
def Stage.Within (plan : Plan curve) : Stage → Prop
  | .bridging pending => ∀ platform ∈ pending, platform ∈ plan.platforms
  | .cleaning remaining => ∀ path ∈ remaining, ∃ bridge ∈ plan.bridges, bridge.socketPath = path
  | _ => True

structure Instance.Within (plan : Plan curve) (process : Instance curve) : Prop where
  stage : process.stage.Within plan
  bridges : ∀ added ∈ process.bridges, added.2 ∈ plan.bridges

/-- Every task and every socket is that of a bridge of its process. -/
structure Tracked (plan : ι → Plan curve) (before : SocketDir String Empty)
    (state : State ι curve) : Prop where
  instances : ∀ i, (state.instances i).Within (plan i)
  tasks : ∀ (index : Nat) i task, state.tasks[index]? = some (i, task) →
    task.bridge ∈ (plan i).bridges
  sockets : ∀ path index, state.dir path = some (.socket index) →
    ∃ i task, state.tasks[index]? = some (i, task) ∧ task.bridge.socketPath = path ∧
      (plan i).setup.accepts path = true
  blocked : ∀ path, state.dir.blocked path = before.blocked path

section Invariant

variable {plan : ι → Plan curve} {before : SocketDir String Empty} {state next : State ι curve}

omit [DecidableEq ι] in
theorem Tracked.initial (plan : ι → Plan curve) (before : SocketDir String Empty)
    (known : String → Bool) : Tracked plan before (.initial before known) where
  instances _ := ⟨trivial, nofun⟩
  tasks _ _ _ found := by cases found
  sockets path index socket := (before.inherit_ne_socket path index socket).elim
  blocked := before.blocked_inherit

/-- The buildx loop leaves neither bridges to add nor paths to clean. -/
theorem within_nextStage (plan : Plan curve) (order : List String) :
    (nextStage order).Within plan := by
  cases order <;> trivial

/-- A process that stays within its plan leaves the others within theirs. -/
theorem within_put {i : ι} {process : Instance curve}
    (within : ∀ j, (state.instances j).Within (plan j)) (own : process.Within (plan i)) (j : ι) :
    ((state.put i process).instances j).Within (plan j) := by
  by_cases same : j = i
  · subst same
    rwa [put_self]
  · rw [put_of_ne state process same]
    exact within j

/-- The next stage of a process has to be within its plan. -/
theorem within_enter {i : ι} {stage : Stage} (within : ∀ j, (state.instances j).Within (plan j))
    (own : stage.Within (plan i)) (j : ι) :
    ((state.enter i stage).instances j).Within (plan j) := by
  refine within_put within ?_ j
  exact ⟨own, (within i).bridges⟩

/-- The bridge loop adds a bridge of the process. -/
theorem within_addBridge {i : ι} {platform : String} {rest : List String} {bridge : Bridge curve}
    (within : ∀ j, (state.instances j).Within (plan j))
    (stage : (state.instances i).stage = .bridging (platform :: rest))
    (built : (plan i).setup.bridge platform = .ok (some bridge)) :
    bridge ∈ (plan i).bridges ∧
      ∀ j, ((state.addBridge i bridge rest).instances j).Within (plan j) := by
  have pending := (within i).stage
  rw [stage] at pending
  have member : bridge ∈ (plan i).bridges :=
    Bridge.Setup.mem_bridges.mpr ⟨platform, pending platform List.mem_cons_self, built⟩
  refine ⟨member, within_put within ?_⟩
  refine ⟨fun name listed => pending name (List.mem_cons_of_mem _ listed), fun added listed => ?_⟩
  rcases List.mem_append.mp listed with old | new
  · exact (within i).bridges added (List.mem_filter.mp old).1
  · rw [List.mem_singleton.mp new]
    exact member

/-- A step leads no process beyond its plan. -/
theorem step_within {action : Action ι} (moved : step plan state action = some next)
    (within : ∀ j, (state.instances j).Within (plan j)) (j : ι) :
    (next.instances j).Within (plan j) := by
  cases takes_of_step moved with
  | @skip i platform rest bridging built =>
      have pending := (within i).stage
      rw [bridging] at pending
      refine within_enter within ?_ j
      exact fun name listed => pending name (List.mem_cons_of_mem _ listed)
  | add bridging built => exact (within_addBridge within bridging built).2 j
  | @clean i path remaining cleaning member =>
      have cleaned := (within i).stage
      rw [cleaning] at cleaned
      refine within_enter within ?_ j
      exact fun name listed => cleaned name (List.mem_of_mem_erase listed)
  | discover starting =>
      refine within_enter within ?_ j
      exact fun _ => id
  | @interrupt i serving =>
      refine within_enter within ?_ j
      intro path listed
      obtain ⟨added, member, rfl⟩ := List.mem_map.mp listed
      exact ⟨added.2, (within i).bridges added member, rfl⟩
  | @inspect i answered pending inspecting =>
      refine within_put within ?_ j
      exact ⟨trivial, (within i).bridges⟩
  | @create i succeeds append docker =>
      refine within_put within ?_ j
      exact ⟨(within i).stage, (within i).bridges⟩
  | proceed creating => exact within_enter within (within_nextStage _ _) j
  | bail bridging | prepare bridging | remove cleaned | exit running =>
      refine within_enter within ?_ j
      exact trivial
  | task found stepped | drop found => exact within j

/-- Every step keeps tasks and sockets among the bridges of their processes. -/
theorem Tracked.step {action : Action ι} (tracked : Tracked plan before state)
    (moved : Host.step plan state action = some next) : Tracked plan before next where
  instances := step_within moved tracked.instances
  tasks index i task found := by
    rcases step_fresh moved found with ⟨old, held, bridge⟩ | ⟨platform, rest, -, stage, built⟩
    · rw [← bridge]
      exact tracked.tasks index i old held
    · exact (within_addBridge tracked.instances stage built).1
  sockets path index socket := by
    obtain ⟨i, task, held, named, accepted⟩ :
        ∃ i task, state.tasks[index]? = some (i, task) ∧ task.bridge.socketPath = path ∧
          (plan i).setup.accepts path = true := by
      obtain old | ⟨i, task, -, held, -, named, accepted, -⟩ := step_socket_fresh moved socket
      · exact tracked.sockets path index old
      · exact ⟨i, task, held, named, accepted⟩
    obtain ⟨after, kept, bridge, -, -⟩ := step_kept moved held
    exact ⟨i, after, kept, by rw [bridge, named], accepted⟩
  blocked path := (step_blocked moved path).trans (tracked.blocked path)

/-- In every reachable state tasks and sockets are those of bridges of their processes. -/
theorem Tracked.of_reachable {known : String → Bool}
    (reached : Transition.Reachable (Host.step plan) (.initial before known) state) :
    Tracked plan before state :=
  reached.invariant (fun _ _ _ tracked moved => tracked.step moved) (.initial plan before known)

omit [DecidableEq ι] in
/-- What a process removes is at the path of a bridge of its own. -/
theorem Tracked.unlinks {action : Action ι} {path : String} (tracked : Tracked plan before state)
    (unlinks : state.Unlinks path action) :
    ∃ i bridge, state.actor action = some i ∧ bridge ∈ (plan i).bridges ∧
      bridge.socketPath = path := by
  cases action with
  | task index =>
      obtain ⟨i, task, found, named, -⟩ := unlinks
      exact ⟨i, task.bridge, by rw [State.actor, found]; rfl, tracked.tasks _ _ _ found, named⟩
  | clean i cleaned =>
      obtain ⟨rfl, remaining, stage, member⟩ := unlinks
      have within := (tracked.instances i).stage
      rw [stage] at within
      obtain ⟨bridge, listed, named⟩ := within cleaned member
      exact ⟨i, bridge, rfl, listed, named⟩
  | _ => exact unlinks.elim

/-- Processes that have no path in common leave each other's sockets alone. -/
theorem safe_of_apart {known : String → Bool} (apart : Apart plan before) :
    Safe plan before known := by
  intro state reached action next moved path index i serves foreign
  have tracked := Tracked.of_reachable reached
  obtain ⟨socket, task, found, -⟩ := listener_eq_some.mp serves
  apply step_socket_kept moved socket
  intro unlinks
  obtain ⟨j, other, actor, member, named⟩ := tracked.unlinks unlinks
  obtain ⟨owner, held, same, path', accepted⟩ := tracked.sockets path index socket
  cases found.symm.trans same
  have different : i ≠ j := fun same => foreign (same ▸ actor)
  have free : before.blocked path = false := by
    rw [← tracked.blocked path, SocketDir.blocked, socket]
  subst path'
  exact apart i j different _ (tracked.tasks _ _ _ found) other member named ⟨accepted, free⟩

end Invariant

/-! ## Two processes with one path -/

section Collision

variable (plan : ι → Plan curve)

/-- The bridge loop of a process runs to its end before any task starts. -/
theorem add_all {i : ι} (state : State ι curve) {pending : List String}
    (stage : (state.instances i).stage = .bridging pending)
    (accepted : ∀ platform ∈ pending, ∃ built, (plan i).setup.bridge platform = .ok built) :
    ∃ next, Transition.Reachable (step plan) state next ∧ next.dir = state.dir ∧
      next.tasks = state.tasks ++
        ((plan i).setup.bridges pending).map (fun bridge => (i, ⟨bridge, .spawned⟩)) ∧
      ∀ j, j ≠ i → next.instances j = state.instances j := by
  induction pending generalizing state with
  | nil => exact ⟨state, .refl state, rfl, (List.append_nil _).symm, fun _ _ => rfl⟩
  | cons platform rest ih =>
      obtain ⟨built, bridge⟩ := accepted platform List.mem_cons_self
      have later : ∀ name ∈ rest, ∃ built, (plan i).setup.bridge name = .ok built :=
        fun name member => accepted name (List.mem_cons_of_mem _ member)
      cases built with
      | none =>
          have moved : step plan state (.add i) = some (state.enter i (.bridging rest)) := by
            simp only [step, stage, bridge]
          obtain ⟨next, reached, dir, tasks, others⟩ :=
            ih (state.enter i (.bridging rest)) (by rw [State.enter, put_self]) later
          refine ⟨next, ((Transition.Reachable.refl state).snoc moved).trans reached, dir, ?_, ?_⟩
          · rw [tasks]
            simp [Bridge.Setup.bridges, bridge, Except.toOption, State.enter, State.put]
          · intro j different
            rw [others j different, State.enter, put_of_ne state _ different]
      | some added =>
          have moved : step plan state (.add i) = some (state.addBridge i added rest) := by
            simp only [step, stage, bridge]
          obtain ⟨next, reached, dir, tasks, others⟩ :=
            ih (state.addBridge i added rest) (by rw [State.addBridge, put_self]) later
          refine ⟨next, ((Transition.Reachable.refl state).snoc moved).trans reached, dir, ?_, ?_⟩
          · rw [tasks]
            simp [Bridge.Setup.bridges, bridge, Except.toOption, State.addBridge]
          · intro j different
            rw [others j different, State.addBridge, put_of_ne state _ different]

/-- A process that has not discovered anything yet adds all of its bridges. -/
theorem load {i : ι} (state : State ι curve) (stage : (state.instances i).stage = .starting) :
    ∃ next, Transition.Reachable (step plan) state next ∧ next.dir = state.dir ∧
      next.tasks = state.tasks ++
        (plan i).bridges.map (fun bridge => (i, ⟨bridge, .spawned⟩)) ∧
      ∀ j, j ≠ i → next.instances j = state.instances j := by
  have moved : step plan state (.discover i) =
      some (state.enter i (.bridging (plan i).platforms)) := by
    simp only [step, stage]
  have accepted : ∀ platform ∈ (plan i).platforms,
      ∃ built, (plan i).setup.bridge platform = .ok built := by
    intro platform member
    obtain ⟨text, parsed⟩ := (plan i).accepted
    obtain ⟨arch, extracted⟩ := platformToArch_isOk_of_parsePlatforms parsed member
    exact (plan i).setup.bridge_isOk extracted
  obtain ⟨next, reached, dir, tasks, others⟩ :=
    add_all plan (state.enter i (.bridging (plan i).platforms))
      (by rw [State.enter, put_self]) accepted
  refine ⟨next, ((Transition.Reachable.refl state).snoc moved).trans reached, dir, tasks, ?_⟩
  intro j different
  rw [others j different, State.enter, put_of_ne state _ different]

/-- A task that has just been spawned gets its socket where the path can be bound. -/
theorem serve {state : State ι curve} {index : Nat} {i : ι} {bridge : Bridge curve}
    (found : state.tasks[index]? = some (i, ⟨bridge, .spawned⟩))
    (accepted : (plan i).setup.accepts bridge.socketPath = true)
    (removable : state.dir.blocked bridge.socketPath = false) :
    ∃ next, Transition.Reachable (step plan) state next ∧
      next.listener bridge.socketPath = some (index, i) ∧ next.instances = state.instances := by
  have inside := (List.getElem?_eq_some_iff.mp found).1
  obtain ⟨dir, bound, socket⟩ : ∃ dir, (state.dir.unlink bridge.socketPath).bind
      (plan i).setup.accepts bridge.socketPath index = some dir ∧
        dir bridge.socketPath = some (.socket index) :=
    ⟨_, SocketDir.bind_eq_some.mpr ⟨accepted, SocketDir.unlink_self removable, rfl⟩,
      Function.update_self _ _ _⟩
  have unlinked : step plan state (.task index) = some { state with
      dir := state.dir.unlink bridge.socketPath
      tasks := state.tasks.set index (i, ⟨bridge, .unlinked⟩) } :=
    step_task_eq_some.mpr ⟨i, _, _, _, found, rfl, rfl⟩
  have listening : step plan
      { state with
        dir := state.dir.unlink bridge.socketPath
        tasks := state.tasks.set index (i, ⟨bridge, .unlinked⟩) } (.task index) =
      some { state with
        dir := dir
        tasks := (state.tasks.set index (i, ⟨bridge, .unlinked⟩)).set index
          (i, ⟨bridge, .listening⟩) } :=
    step_task_eq_some.mpr ⟨i, _, _, _, List.getElem?_set_self inside,
      by simp only [Bridge.Task.step, bound], rfl⟩
  refine ⟨_, ((Transition.Reachable.refl state).snoc unlinked).snoc listening, ?_, rfl⟩
  refine listener_eq_some.mpr ⟨socket, ⟨bridge, .listening⟩, ?_, rfl⟩
  exact List.getElem?_set_self (by rwa [List.length_set])

/-- A socket that is bound before another process starts is removed by a task of that one. -/
theorem apart_of_safe {before : SocketDir String Empty} {known : String → Bool}
    (safe : Safe plan before known) : Apart plan before := by
  intro i j different bridge member other memberOther same both
  obtain ⟨accepted, removable⟩ := both
  obtain ⟨place, found⟩ := List.mem_iff_getElem?.mp member
  obtain ⟨placeOther, foundOther⟩ := List.mem_iff_getElem?.mp memberOther
  -- The first process loads its bridges, and the task of this one binds its socket.
  obtain ⟨loaded, front, dir, tasks, others⟩ := load plan (i := i) (.initial before known) rfl
  have spawned : loaded.tasks[place]? = some (i, ⟨bridge, .spawned⟩) := by
    rw [tasks, State.initial, List.nil_append, List.getElem?_map, found, Option.map_some]
  obtain ⟨serving, middle, serves, instances⟩ := serve plan spawned accepted
    (by rw [dir, State.initial, SocketDir.blocked_inherit, removable])
  -- The other process loads its bridges, and its task removes what is at its path.
  obtain ⟨final, back, kept, appended, -⟩ := load plan (i := j) serving
    (by rw [instances, others j (Ne.symm different)]; rfl)
  have last : final.tasks[serving.tasks.length + placeOther]? = some (j, ⟨other, .spawned⟩) := by
    rw [appended, List.getElem?_append_right (Nat.le_add_right _ _), Nat.add_sub_cancel_left,
      List.getElem?_map, foundOther, Option.map_some]
  obtain ⟨after, moved, unlinked⟩ : ∃ after, step plan final (.task _) = some after ∧
      after.dir = final.dir.unlink other.socketPath :=
    ⟨_, step_task_eq_some.mpr ⟨j, _, _, _, last, rfl, rfl⟩, rfl⟩
  obtain ⟨socket, task, held, listening⟩ := listener_eq_some.mp serves
  have still : final.listener bridge.socketPath = some (place, i) := by
    refine listener_eq_some.mpr ⟨by rw [kept, socket], task, ?_, listening⟩
    rw [appended, List.getElem?_append_left (List.getElem?_eq_some_iff.mp held).1, held]
  have left := safe final ((front.trans middle).trans back) _ after moved _ _ _ still
    (by rw [State.actor, last]; exact fun equal => different (Option.some.inj equal).symm)
  rw [unlinked, ← same] at left
  exact SocketDir.unlink_ne_socket _ _ _ left

end Collision

/-- **The sockets of others.** In every run of any number of processes the socket of a
running accept loop is left alone by the other processes, exactly when no two of them
have bridges for one path that can be bound. -/
theorem safe_iff_apart (plan : ι → Plan curve) (before : SocketDir String Empty)
    (known : String → Bool) : Safe plan before known ↔ Apart plan before :=
  ⟨apart_of_safe plan, safe_of_apart⟩

/-- Mission Control for one platform, with a satellite that serves it. -/
def amd64Plan : Plan Curve.full where
  setup := Bridge.defaultSetup
  platforms := ["linux/amd64"]
  builderName := "orbit"
  accepted := ⟨"linux/amd64", by decide⟩

/-- The second of two processes that were started alike removes the socket of the first. -/
theorem restarted_unlinked :
    ¬ Safe (fun _ : Bool => amd64Plan) (fun _ => none) (fun _ => false) := by
  intro safe
  have left := safe _
    ⟨[.discover false, .add false, .task 0, .task 0, .discover true, .add true], rfl⟩
    (.task 1) _ rfl "/tmp/orbit-amd64.sock" 0 false rfl (by decide)
  have nothing : none = some (File.socket 0) := left
  cases nothing

end Host

end OrbitBuild
