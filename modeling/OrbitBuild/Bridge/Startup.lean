import OrbitBuild.Bridge.Routing

/-! # Start-up of the accept loops

Every task unlinks its path before it binds, and unlinks it again when the bind
fails. Two tasks of one path can so leave the path empty. All bridges are served
in every interleaving exactly when the paths are distinct and can be bound.
-/

namespace OrbitBuild

variable {curve : Curve}

namespace Bridge

/-- Every platform of the manager has a socket on which a running bridge listens. -/
def State.AllServed (setup : Setup curve) (state : State curve) : Prop :=
  ∀ platform ∈ state.manager.platforms, ∀ path,
    socketPathForPlatform setup.socketDir platform = .ok path → ∃ task, state.Accepts path task

/-- No two bridges that are added have the same socket path. -/
def Setup.PathsNodup (setup : Setup curve) (platforms : List String) : Prop :=
  ((setup.bridges platforms).map Bridge.socketPath).Nodup

/-- A socket can be bound at the path of every bridge, and what is there can be removed. -/
def Setup.PathsBindable (setup : Setup curve) (before : SocketDir String Empty)
    (platforms : List String) : Prop :=
  ∀ bridge ∈ setup.bridges platforms,
    setup.accepts bridge.socketPath = true ∧ before.blocked bridge.socketPath = false

/-! ## Distinct paths: no task disturbs another -/

/-- What a task relies on at its own path. -/
def TaskPhase.Holds (phase : TaskPhase) (content : Option (File Nat)) (index : Nat) : Prop :=
  match phase with
  | .spawned => True
  | .unlinked => content = none
  | .listening => content = some (.socket index)
  | .bindFailed | .exited => False

def State.Undisturbed (state : State curve) : Prop :=
  ∀ (index : Nat) (task : Task curve), state.manager.tasks[index]? = some task →
    task.phase.Holds (state.dir task.bridge.socketPath) index

/-- A task whose path can be bound gets what it relies on. -/
theorem Task.step_holds {accepts : String → Bool} {dir next : SocketDir String Nat} {index : Nat}
    {task moved : Task curve} (stepped : task.step accepts dir index = some (next, moved))
    (holds : task.phase.Holds (dir task.bridge.socketPath) index)
    (accepted : accepts task.bridge.socketPath = true)
    (removable : dir.blocked task.bridge.socketPath = false) :
    moved.phase.Holds (next task.bridge.socketPath) index := by
  obtain ⟨-, ⟨-, after, rfl⟩ | ⟨-, after, bound⟩ | ⟨before, -, -, refused⟩ | ⟨before, -, -⟩⟩ :=
    Task.step_cases stepped
  · rw [after]
    exact SocketDir.unlink_self removable
  · obtain ⟨-, -, rfl⟩ := SocketDir.bind_eq_some.mp bound
    rw [after]
    exact Function.update_self _ _ _
  · rw [before] at holds
    exact (SocketDir.bind_eq_none.mp refused ⟨accepted, holds⟩).elim
  · rw [before] at holds
    exact holds.elim

/-- The task at an index has the bridge built for that index. -/
theorem getElem?_bridges {setup : Setup curve} {platforms : List String} {state : State curve}
    (prepared : Prepared setup platforms state) {index : Nat} {task : Task curve}
    (found : state.manager.tasks[index]? = some task) :
    (setup.bridges platforms)[index]? = some task.bridge := by
  have mapped : (state.manager.tasks.map Task.bridge)[index]? = some task.bridge := by
    rw [List.getElem?_map, found, Option.map_some]
  have inside := (List.getElem?_eq_some_iff.mp mapped).1
  rw [← prepared.bridges, List.getElem?_append_left inside, mapped]

/-- Different tasks have different paths when the paths are distinct. -/
theorem socketPath_ne {setup : Setup curve} {platforms : List String} {state : State curve}
    (prepared : Prepared setup platforms state) (distinct : setup.PathsNodup platforms)
    {first second : Nat} {one other : Task curve}
    (foundOne : state.manager.tasks[first]? = some one)
    (foundOther : state.manager.tasks[second]? = some other) (different : first ≠ second) :
    one.bridge.socketPath ≠ other.bridge.socketPath := by
  have paths : ∀ {index : Nat} {task : Task curve}, state.manager.tasks[index]? = some task →
      ((setup.bridges platforms).map Bridge.socketPath)[index]? = some task.bridge.socketPath := by
    intro index task found
    rw [List.getElem?_map, getElem?_bridges prepared found, Option.map_some]
  intro same
  have equal := (paths foundOne).trans ((congrArg some same).trans (paths foundOther).symm)
  have inside := (List.getElem?_eq_some_iff.mp (paths foundOne)).1
  exact different ((List.getElem?_inj inside distinct).mp equal)

/-- Where paths are distinct and can be bound, no step disturbs a task. -/
theorem State.Undisturbed.step {setup : Setup curve} {platforms : List String}
    {state next : State curve} {action : Action} (undisturbed : state.Undisturbed)
    (prepared : Prepared setup platforms state) (distinct : setup.PathsNodup platforms)
    (bindable : ∀ bridge ∈ setup.bridges platforms,
      setup.accepts bridge.socketPath = true ∧ state.dir.blocked bridge.socketPath = false)
    (moved : Bridge.step setup state action = some next) : next.Undisturbed := by
  cases action with
  | add =>
      obtain ⟨platform, rest, built, -, -, rfl⟩ := step_add_eq_some.mp moved
      cases built with
      | none => exact undisturbed
      | some bridge =>
          intro index task found
          by_cases old : index < state.manager.tasks.length
          · exact undisturbed index task ((List.getElem?_append_left old).symm.trans found)
          · have fresh := (List.getElem?_append_right (Nat.le_of_not_lt old)).symm.trans found
            have same := List.mem_singleton.mp (List.mem_of_getElem? fresh)
            rw [same]
            exact trivial
  | task index =>
      obtain ⟨task, dir, after, found, stepped, rfl⟩ := step_task_eq_some.mp moved
      have bridge := (Task.step_cases stepped).1
      have listed := List.mem_of_getElem? (getElem?_bridges prepared found)
      intro place other held
      rw [getElem?_tasks_set found] at held
      by_cases same : place = index
      · rw [if_pos same] at held
        cases held
        rw [same, bridge]
        exact Task.step_holds stepped (undisturbed index task found) (bindable _ listed).1
          (bindable _ listed).2
      · rw [if_neg same] at held
        have apart := socketPath_ne prepared distinct held found same
        have kept := undisturbed place other held
        rwa [← Task.step_frame stepped apart] at kept

/-- No run blocks a path or frees a blocked one. -/
theorem blocked_reachable {setup : Setup curve} {state next : State curve}
    (reachable : Transition.Reachable (step setup) state next) (path : String) :
    next.dir.blocked path = state.dir.blocked path :=
  reachable.invariant (motive := fun later => later.dir.blocked path = state.dir.blocked path)
    (fun _ _ _ same moved => (blocked_step moved path).trans same) rfl

/-- A path is blocked exactly if it has been from the start. -/
theorem blocked_of_reachable {setup : Setup curve} {before : SocketDir String Empty}
    {platforms : List String} {state : State curve}
    (reachable : Transition.Reachable (step setup) (.initial before platforms) state)
    (path : String) : state.dir.blocked path = before.blocked path :=
  (blocked_reachable reachable path).trans (SocketDir.blocked_inherit before path)

/-- Where paths are distinct and can be bound, every bridge ends up being served. -/
theorem allServed_of_distinct {setup : Setup curve} {before : SocketDir String Empty}
    {platforms : List String} {state : State curve}
    (reachable : Transition.Reachable (step setup) (.initial before platforms) state)
    (settled : state.Settled) (distinct : setup.PathsNodup platforms)
    (bindable : setup.PathsBindable before platforms) : state.AllServed setup := by
  have prepared := Prepared.of_reachable reachable
  have undisturbed : state.Undisturbed := by
    apply reachable.induction (motive := State.Undisturbed) (fun _ _ found => by cases found)
    intro state action next before holds moved
    refine holds.step (Prepared.of_reachable before) distinct (fun bridge member => ?_) moved
    rw [blocked_of_reachable before]
    exact bindable bridge member
  intro platform listed path derived
  obtain ⟨bridge, member, rfl⟩ := (prepared.keys platform).mp listed
  obtain ⟨task, spawned, rfl⟩ := List.mem_map.mp member
  obtain ⟨index, found⟩ := List.mem_iff_getElem?.mp spawned
  have own := Setup.socketPath_of_mem (List.mem_of_getElem? (getElem?_bridges prepared found))
  cases derived.symm.trans own
  have holds := undisturbed index task found
  rcases settled.2 task spawned with listening | exited
  · rw [listening] at holds
    exact ⟨task, index, holds, found, listening⟩
  · rw [exited] at holds
    exact holds.elim

/-! ## Reaching a settled state -/

/-- A task takes its next step. -/
theorem advance (setup : Setup curve) (dir : SocketDir String Nat) (moved : Task curve)
    {state : State curve} {index : Nat} {task : Task curve}
    (found : state.manager.tasks[index]? = some task)
    (stepped : task.step setup.accepts state.dir index = some (dir, moved)) :
    ∃ next, Transition.Reachable (step setup) state next ∧ next.dir = dir ∧
      next.pending = state.pending ∧ next.manager.tasks[index]? = some moved ∧
      ∀ other, other ≠ index → next.manager.tasks[other]? = state.manager.tasks[other]? := by
  have taken := step_task_eq_some.mpr ⟨task, dir, moved, found, stepped, rfl⟩
  refine ⟨_, (Transition.Reachable.refl state).snoc taken, rfl, rfl, ?_, fun other different => ?_⟩
  · rw [getElem?_tasks_set found, if_pos rfl]
  · rw [getElem?_tasks_set found, if_neg different]

/-- The bridge loop can be carried out before any task moves. -/
theorem add_all {setup : Setup curve} (state : State curve) {platforms : List String}
    (pending : state.pending = platforms)
    (accepted : ∀ platform ∈ platforms, ∃ built, setup.bridge platform = .ok built) :
    ∃ next, Transition.Reachable (step setup) state next ∧ next.pending = [] ∧
      next.manager.tasks = state.manager.tasks ++
        (setup.bridges platforms).map fun bridge => ⟨bridge, .spawned⟩ := by
  induction platforms generalizing state with
  | nil => exact ⟨state, .refl state, pending, by simp [Setup.bridges]⟩
  | cons platform rest ih =>
      obtain ⟨built, bridge⟩ := accepted platform List.mem_cons_self
      have moved := step_add_eq_some.mpr ⟨platform, rest, built, pending, bridge, rfl⟩
      have others : ∀ other ∈ rest, ∃ built, setup.bridge other = .ok built :=
        fun other member => accepted other (List.mem_cons_of_mem platform member)
      obtain ⟨next, reached, allAdded, tasks⟩ :=
        ih ⟨state.dir, built.elim state.manager state.manager.addBridge, rest⟩ rfl others
      refine ⟨next, ((Transition.Reachable.refl state).snoc moved).trans reached, allAdded, ?_⟩
      rw [tasks]
      cases built with
      | none => simp [Setup.bridges, bridge, Except.toOption]
      | some added => simp [Setup.bridges, bridge, Except.toOption, Manager.addBridge]

/-- The task listens, or it has ended because its path cannot be bound. -/
def Task.Ended (setup : Setup curve) (dir : SocketDir String Nat) (task : Task curve) : Prop :=
  task.phase = .listening ∨ task.phase = .exited ∧
    ¬ (setup.accepts task.bridge.socketPath = true ∧ dir.blocked task.bridge.socketPath = false)

/-- A spawned task can go on alone until it has ended. -/
theorem settle_task (setup : Setup curve) {state : State curve} {index : Nat}
    {bridge : Bridge curve} (found : state.manager.tasks[index]? = some ⟨bridge, .spawned⟩) :
    ∃ next task, Transition.Reachable (step setup) state next ∧ next.pending = state.pending ∧
      next.manager.tasks[index]? = some task ∧ task.Ended setup state.dir ∧
      ∀ other, other ≠ index → next.manager.tasks[other]? = state.manager.tasks[other]? := by
  obtain ⟨second, reachedSecond, dirSecond, pendingSecond, foundSecond, keptSecond⟩ :=
    advance setup (state.dir.unlink bridge.socketPath) ⟨bridge, .unlinked⟩ found rfl
  cases bound : (state.dir.unlink bridge.socketPath).bind setup.accepts bridge.socketPath index with
  | some dir =>
      obtain ⟨third, reachedThird, -, pendingThird, foundThird, keptThird⟩ :=
        advance setup dir ⟨bridge, .listening⟩ foundSecond
          (by simp only [Task.step, dirSecond, bound])
      exact ⟨third, _, reachedSecond.trans reachedThird, pendingThird.trans pendingSecond,
        foundThird, Or.inl rfl,
        fun other apart => (keptThird other apart).trans (keptSecond other apart)⟩
  | none =>
      obtain ⟨third, reachedThird, -, pendingThird, foundThird, keptThird⟩ :=
        advance setup second.dir ⟨bridge, .bindFailed⟩ foundSecond
          (by simp only [Task.step, dirSecond, bound])
      obtain ⟨fourth, reachedFourth, -, pendingFourth, foundFourth, keptFourth⟩ :=
        advance setup _ ⟨bridge, .exited⟩ foundThird rfl
      refine ⟨fourth, _, (reachedSecond.trans reachedThird).trans reachedFourth,
        pendingFourth.trans (pendingThird.trans pendingSecond), foundFourth,
        Or.inr ⟨rfl, fun bindable => ?_⟩, fun other apart => ?_⟩
      · exact SocketDir.bind_eq_none.mp bound ⟨bindable.1, SocketDir.unlink_self bindable.2⟩
      · rw [keptFourth other apart, keptThird other apart, keptSecond other apart]

/-- Spawned tasks can go on one after the other until each has ended. -/
theorem settle_many (setup : Setup curve) (state : State curve) {indices : List Nat}
    (distinct : indices.Nodup)
    (spawned : ∀ index ∈ indices, ∃ bridge, state.manager.tasks[index]? = some ⟨bridge, .spawned⟩) :
    ∃ next, Transition.Reachable (step setup) state next ∧ next.pending = state.pending ∧
      (∀ index ∈ indices, ∃ task, next.manager.tasks[index]? = some task ∧
        task.Ended setup state.dir) ∧
      ∀ index, index ∉ indices → next.manager.tasks[index]? = state.manager.tasks[index]? := by
  induction indices generalizing state with
  | nil =>
      refine ⟨state, .refl state, rfl, ?_, fun _ _ => rfl⟩
      intro index member
      cases member
  | cons index rest ih =>
      obtain ⟨absent, distinctRest⟩ := List.nodup_cons.mp distinct
      obtain ⟨bridge, found⟩ := spawned index List.mem_cons_self
      obtain ⟨middle, task, front, pendingFront, here, ended, kept⟩ := settle_task setup found
      have still : ∀ other ∈ rest, ∃ bridge,
          middle.manager.tasks[other]? = some ⟨bridge, .spawned⟩ := by
        intro other member
        rw [kept other (fun same => absent (same ▸ member))]
        exact spawned other (List.mem_cons_of_mem index member)
      obtain ⟨next, back, pendingBack, endedRest, keptRest⟩ := ih middle distinctRest still
      refine ⟨next, front.trans back, pendingBack.trans pendingFront, ?_, ?_⟩
      · intro other member
        rcases List.mem_cons.mp member with rfl | inside
        · exact ⟨task, (keptRest other absent).trans here, ended⟩
        · obtain ⟨last, foundLast, endedLast⟩ := endedRest other inside
          refine ⟨last, foundLast, ?_⟩
          rwa [Task.Ended, blocked_reachable front] at endedLast
      · intro other outside
        obtain ⟨apart, outsideRest⟩ := not_or.mp (mt List.mem_cons.mpr outside)
        rw [keptRest other outsideRest, kept other apart]

/-- Two tasks of one path can leave it empty: both unlink it, one binds it, the other
fails to bind and unlinks it again. -/
theorem collide (setup : Setup curve) {state : State curve} {first second : Nat}
    {one other : Bridge curve} (foundFirst : state.manager.tasks[first]? = some ⟨one, .spawned⟩)
    (foundSecond : state.manager.tasks[second]? = some ⟨other, .spawned⟩)
    (different : second ≠ first) (same : other.socketPath = one.socketPath)
    (accepted : setup.accepts one.socketPath = true)
    (removable : state.dir.blocked one.socketPath = false) :
    ∃ next, Transition.Reachable (step setup) state next ∧ next.pending = state.pending ∧
      next.dir one.socketPath = none ∧
      next.manager.tasks[first]? = some ⟨one, .listening⟩ ∧
      next.manager.tasks[second]? = some ⟨other, .exited⟩ ∧
      ∀ index, index ≠ first → index ≠ second →
        next.manager.tasks[index]? = state.manager.tasks[index]? := by
  -- Both tasks unlink the path.
  obtain ⟨s1, r1, -, p1, f1, k1⟩ :=
    advance setup (state.dir.unlink one.socketPath) ⟨one, .unlinked⟩ foundFirst rfl
  have second1 := (k1 second different).trans foundSecond
  obtain ⟨s2, r2, d2, p2, f2, k2⟩ :=
    advance setup (s1.dir.unlink other.socketPath) ⟨other, .unlinked⟩ second1 rfl
  have first2 := (k2 first (Ne.symm different)).trans f1
  have free : s2.dir one.socketPath = none := by
    rw [d2, same]
    exact SocketDir.unlink_self ((blocked_reachable r1 _).trans removable)
  -- The first binds it, and the second cannot.
  have bound : s2.dir.bind setup.accepts one.socketPath first =
      some (Function.update s2.dir one.socketPath (some (.socket first))) :=
    SocketDir.bind_eq_some.mpr ⟨accepted, free, rfl⟩
  obtain ⟨s3, r3, d3, p3, f3, k3⟩ := advance setup _ ⟨one, .listening⟩ first2
    (by simp only [Task.step, bound]; rfl)
  have second3 := (k3 second different).trans f2
  have refused : s3.dir.bind setup.accepts other.socketPath second = none := by
    apply SocketDir.bind_eq_none.mpr
    intro both
    obtain ⟨-, taken⟩ := both
    rw [d3, same, Function.update_self] at taken
    cases taken
  obtain ⟨s4, r4, -, p4, f4, k4⟩ :=
    advance setup s3.dir ⟨other, .bindFailed⟩ second3 (by simp only [Task.step, refused])
  -- The second removes the socket of the first.
  obtain ⟨s5, r5, d5, p5, f5, k5⟩ :=
    advance setup (s4.dir.unlink other.socketPath) ⟨other, .exited⟩ f4 rfl
  have front := ((r1.trans r2).trans r3).trans r4
  refine ⟨s5, front.trans r5, by rw [p5, p4, p3, p2, p1], ?_, ?_, f5, ?_⟩
  · rw [d5, same]
    exact SocketDir.unlink_self ((blocked_reachable front _).trans removable)
  · rw [k5 first (Ne.symm different), k4 first (Ne.symm different), f3]
  · intro index apart apartSecond
    rw [k5 index apartSecond, k4 index apartSecond, k3 index apart, k2 index apartSecond,
      k1 index apart]

/-! ## When all bridges are served -/

/-- A socket is only ever at a path that can be bound. -/
theorem accepts_of_socket {setup : Setup curve} {before : SocketDir String Empty}
    {platforms : List String} {state : State curve}
    (reachable : Transition.Reachable (step setup) (.initial before platforms) state)
    {path : String} {owner : Nat} (socket : state.dir path = some (.socket owner)) :
    setup.accepts path = true ∧ before.blocked path = false := by
  have accepted : ∀ owner, state.dir path = some (.socket owner) → setup.accepts path = true := by
    refine reachable.invariant
      (motive := fun state => ∀ owner, state.dir path = some (.socket owner) →
        setup.accepts path = true) ?_
      (fun owner socket => (before.inherit_ne_socket path owner socket).elim)
    intro state action next holds moved owner socket
    cases action with
    | add =>
        obtain ⟨platform, rest, built, -, -, rfl⟩ := step_add_eq_some.mp moved
        exact holds owner socket
    | task index =>
        obtain ⟨task, dir, after, -, stepped, rfl⟩ := step_task_eq_some.mp moved
        by_cases same : path = task.bridge.socketPath
        · obtain ⟨-, ⟨-, -, rfl⟩ | ⟨-, -, bound⟩ | ⟨-, -, rfl, -⟩ | ⟨-, -, rfl⟩⟩ :=
            Task.step_cases stepped
          · rw [same] at socket
            exact (SocketDir.unlink_ne_socket _ _ _ socket).elim
          · rw [same]
            exact (SocketDir.bind_eq_some.mp bound).1
          · exact holds owner socket
          · rw [same] at socket
            exact (SocketDir.unlink_ne_socket _ _ _ socket).elim
        · exact holds owner ((Task.step_frame stepped same).symm.trans socket)
  refine ⟨accepted owner socket, ?_⟩
  rw [← blocked_of_reachable reachable, SocketDir.blocked, socket]

/-- The bridge loop is allAdded and all of its tasks are about to start. -/
theorem loaded_reachable (setup : Setup curve) {text : String} {platforms : List String}
    (parsed : parsePlatforms text = .ok platforms) (before : SocketDir String Empty) :
    ∃ state, Transition.Reachable (step setup) (.initial before platforms) state ∧
      state.pending = [] ∧
      state.manager.tasks = (setup.bridges platforms).map fun bridge => ⟨bridge, .spawned⟩ := by
  have accepted : ∀ platform ∈ platforms, ∃ built, setup.bridge platform = .ok built := by
    intro platform member
    obtain ⟨arch, extracted⟩ := platformToArch_isOk_of_parsePlatforms parsed member
    exact setup.bridge_isOk extracted
  obtain ⟨state, reached, allAdded, tasks⟩ :=
    add_all (.initial before platforms) rfl accepted
  exact ⟨state, reached, allAdded, tasks⟩

/-- Any choice of tasks can run to their end before the others start. -/
theorem ended_reachable (setup : Setup curve) {text : String} {platforms : List String}
    (parsed : parsePlatforms text = .ok platforms) (before : SocketDir String Empty)
    (chosen : Nat → Bool) :
    ∃ state, Transition.Reachable (step setup) (.initial before platforms) state ∧
      state.pending = [] ∧
      ∀ (index : Nat) (bridge : Bridge curve), (setup.bridges platforms)[index]? = some bridge →
        if chosen index then
          ∃ task, state.manager.tasks[index]? = some task ∧ task.Ended setup before.inherit
        else state.manager.tasks[index]? = some ⟨bridge, .spawned⟩ := by
  obtain ⟨loaded, front, allAdded, tasks⟩ := loaded_reachable setup parsed before
  have spawned : ∀ (index : Nat) (bridge : Bridge curve),
      (setup.bridges platforms)[index]? = some bridge →
      loaded.manager.tasks[index]? = some ⟨bridge, .spawned⟩ := by
    intro index bridge found
    rw [tasks, List.getElem?_map, found, Option.map_some]
  have indices : ∀ index, index ∈ (List.range (setup.bridges platforms).length).filter chosen ↔
      index < (setup.bridges platforms).length ∧ chosen index = true := by
    intro index
    rw [List.mem_filter, List.mem_range]
  obtain ⟨state, back, pending, ended, kept⟩ :=
    settle_many setup loaded (List.nodup_range.filter chosen) (fun index member => by
      have inside := ((indices index).mp member).1
      exact ⟨_, spawned index _ (List.getElem?_eq_getElem inside)⟩)
  refine ⟨state, front.trans back, pending.trans allAdded, fun index bridge found => ?_⟩
  have inside := (List.getElem?_eq_some_iff.mp found).1
  split
  · next picked =>
      obtain ⟨task, foundTask, endedTask⟩ := ended index ((indices index).mpr ⟨inside, picked⟩)
      refine ⟨task, foundTask, ?_⟩
      rwa [Task.Ended, blocked_reachable front] at endedTask
  · next left =>
      rw [kept index (fun member => left ((indices index).mp member).2)]
      exact spawned index bridge found

/-- A task that has ended takes no further step. -/
theorem Task.Ended.settled {setup : Setup curve} {dir : SocketDir String Nat} {task : Task curve}
    (ended : task.Ended setup dir) : task.phase = .listening ∨ task.phase = .exited :=
  ended.imp id And.left

/-- Where all bridges are served in every settled state, their paths can be bound. -/
theorem bindable_of_allServed {setup : Setup curve} {before : SocketDir String Empty}
    {text : String} {platforms : List String} (parsed : parsePlatforms text = .ok platforms)
    (served : ∀ state, Transition.Reachable (step setup) (.initial before platforms) state →
      state.Settled → state.AllServed setup) : setup.PathsBindable before platforms := by
  obtain ⟨state, reachable, allAdded, ended⟩ := ended_reachable setup parsed before fun _ => true
  have prepared := Prepared.of_reachable reachable
  have settled : state.Settled := by
    refine ⟨allAdded, fun task member => ?_⟩
    obtain ⟨index, found⟩ := List.mem_iff_getElem?.mp member
    obtain ⟨other, foundOther, endedOther⟩ := ended index _ (getElem?_bridges prepared found)
    cases found.symm.trans foundOther
    exact endedOther.settled
  intro bridge member
  have listed : bridge.platform ∈ state.manager.platforms := by
    rw [prepared.keys, prepared.tasks allAdded]
    exact ⟨bridge, member, rfl⟩
  obtain ⟨task, index, socket, -, -⟩ :=
    served state reachable settled _ listed _ (Setup.socketPath_of_mem member)
  exact accepts_of_socket reachable socket

/-- Where all bridges are served in every settled state, their paths are distinct. -/
theorem nodup_of_allServed {setup : Setup curve} {before : SocketDir String Empty}
    {text : String} {platforms : List String} (parsed : parsePlatforms text = .ok platforms)
    (served : ∀ state, Transition.Reachable (step setup) (.initial before platforms) state →
      state.Settled → state.AllServed setup) : setup.PathsNodup platforms := by
  by_contra repeated
  rw [Setup.PathsNodup, List.nodup_iff_getElem?_ne_getElem?] at repeated
  simp only [ne_eq, not_forall, not_not] at repeated
  obtain ⟨first, second, earlier, inside, equal⟩ := repeated
  rw [List.length_map] at inside
  have foundSecond := List.getElem?_eq_getElem inside
  have foundFirst := List.getElem?_eq_getElem (Nat.lt_trans earlier inside)
  have same : ((setup.bridges platforms)[second]).socketPath =
      ((setup.bridges platforms)[first]).socketPath := by
    rw [List.getElem?_map, List.getElem?_map, foundFirst, foundSecond] at equal
    exact (Option.some.inj equal).symm
  obtain ⟨accepted, removable⟩ := bindable_of_allServed parsed served _ (List.getElem_mem
    (Nat.lt_trans earlier inside))
  -- All other tasks end first, and then the two tasks of the path collide.
  obtain ⟨middle, front, allAdded, others⟩ := ended_reachable setup parsed before
    fun index => decide (index ≠ first ∧ index ≠ second)
  have spawnedFirst := others first _ foundFirst
  have spawnedSecond := others second _ foundSecond
  simp only [ne_eq, not_true_eq_false, false_and, and_false, decide_false, Bool.false_eq_true,
    ↓reduceIte] at spawnedFirst spawnedSecond
  obtain ⟨final, back, pending, empty, listening, exited, kept⟩ :=
    collide setup spawnedFirst spawnedSecond (Nat.ne_of_gt earlier) same accepted
      ((blocked_of_reachable front _).trans removable)
  have reachable := front.trans back
  have prepared := Prepared.of_reachable reachable
  have settled : final.Settled := by
    refine ⟨pending.trans allAdded, fun task member => ?_⟩
    obtain ⟨index, found⟩ := List.mem_iff_getElem?.mp member
    have bridge := getElem?_bridges prepared found
    by_cases isFirst : index = first
    · rw [isFirst, listening] at found
      cases found
      exact Or.inl rfl
    · by_cases isSecond : index = second
      · rw [isSecond, exited] at found
        cases found
        exact Or.inr rfl
      · have other := others index _ bridge
        rw [if_pos (by simp [isFirst, isSecond])] at other
        obtain ⟨ended, foundEnded, endedTask⟩ := other
        rw [kept index isFirst isSecond, foundEnded] at found
        cases found
        exact endedTask.settled
  have member := List.getElem_mem (Nat.lt_trans earlier inside)
  have listed : ((setup.bridges platforms)[first]).platform ∈ final.manager.platforms := by
    rw [prepared.keys, prepared.tasks settled.1]
    exact ⟨_, member, rfl⟩
  obtain ⟨task, index, socket, -, -⟩ :=
    served final reachable settled _ listed _ (Setup.socketPath_of_mem member)
  rw [empty] at socket
  cases socket

/-- **Start-up.** In every interleaving that settles, every platform of the manager has
a socket on which a running bridge listens, exactly when the paths of the bridges that
are added are distinct and can be bound. -/
theorem allServed_iff (setup : Setup curve) (before : SocketDir String Empty) (text : String)
    (platforms : List String) (parsed : parsePlatforms text = .ok platforms) :
    (∀ state, Transition.Reachable (step setup) (.initial before platforms) state →
      state.Settled → state.AllServed setup) ↔
      setup.PathsNodup platforms ∧ setup.PathsBindable before platforms := by
  constructor
  · intro served
    exact ⟨nodup_of_allServed parsed served, bindable_of_allServed parsed served⟩
  · intro both state reachable settled
    obtain ⟨distinct, bindable⟩ := both
    exact allServed_of_distinct reachable settled distinct bindable

/-- Two platforms that share a path are routed alike in every run only if the same
satellite is selected for both. -/
theorem satelliteAddr_eq_of_routes {setup : Setup curve} {before : SocketDir String Empty}
    {text : String} {platforms : List String} (parsed : parsePlatforms text = .ok platforms)
    (bindable : setup.PathsBindable before platforms)
    (routes : ∀ state, Transition.Reachable (step setup) (.initial before platforms) state →
      state.AllListening → state.Routes setup)
    {first second : Bridge curve} (memberFirst : first ∈ setup.bridges platforms)
    (memberSecond : second ∈ setup.bridges platforms)
    (same : first.socketPath = second.socketPath) :
    first.satelliteAddr = second.satelliteAddr := by
  obtain ⟨state, reachable, allAdded, ended⟩ := ended_reachable setup parsed before fun _ => true
  have prepared := Prepared.of_reachable reachable
  have all : state.AllListening := by
    refine ⟨allAdded, fun task member => ?_⟩
    obtain ⟨index, found⟩ := List.mem_iff_getElem?.mp member
    have bridge := getElem?_bridges prepared found
    obtain ⟨other, foundOther, listening | ⟨-, refused⟩⟩ := ended index _ bridge
    · cases found.symm.trans foundOther
      exact listening
    · cases found.symm.trans foundOther
      rw [SocketDir.blocked_inherit] at refused
      exact (refused (bindable _ (List.mem_of_getElem? bridge))).elim
  have routed : ∀ bridge ∈ setup.bridges platforms, ∃ task,
      state.Accepts bridge.socketPath task ∧ task.bridge.satelliteAddr = bridge.satelliteAddr := by
    intro bridge member
    have listed : bridge.platform ∈ state.manager.platforms := by
      rw [prepared.keys, prepared.tasks allAdded]
      exact ⟨bridge, member, rfl⟩
    obtain ⟨platform, -, built⟩ := Setup.mem_bridges.mp member
    obtain ⟨rfl, derived, entry, selected, addr⟩ := Setup.bridge_eq_some built
    rw [addr]
    exact routes state reachable all _ listed _ entry derived selected
  obtain ⟨one, ⟨index, socket, held, -⟩, addr⟩ := routed first memberFirst
  obtain ⟨other, ⟨place, socketOther, heldOther, -⟩, addrOther⟩ := routed second memberSecond
  rw [same, socketOther] at socket
  cases socket
  cases held.symm.trans heldOther
  exact addr.symm.trans addrOther

/-- A satellite that serves both default platforms. -/
def defaultSetup : Setup Curve.full where
  socketDir := "/tmp"
  entries := [idleSatellite 1 "amd64" "linux/arm64"]
  accepts _ := true

theorem defaultPlatforms_served :
    parsePlatforms "linux/amd64,linux/arm64" = .ok ["linux/amd64", "linux/arm64"] ∧
      ∀ state, Transition.Reachable (step defaultSetup)
          (.initial (fun _ => none) ["linux/amd64", "linux/arm64"]) state →
        state.Settled → state.AllServed defaultSetup := by
  refine ⟨by decide, ?_⟩
  apply (allServed_iff defaultSetup (fun _ => none) "linux/amd64,linux/arm64" _ (by decide)).mpr
  exact ⟨by unfold Setup.PathsNodup; decide, fun bridge member => ⟨rfl, rfl⟩⟩

/-- A repeated platform: the second task removes the socket the first one listens on. -/
theorem repeatedPlatform_unserved :
    parsePlatforms "linux/amd64,linux/amd64" = .ok ["linux/amd64", "linux/amd64"] ∧
      ∃ state, Transition.Reachable (step defaultSetup)
          (.initial (fun _ => none) ["linux/amd64", "linux/amd64"]) state ∧
        state.Settled ∧ ¬ state.AllServed defaultSetup := by
  refine ⟨by decide, _,
    ⟨[.add, .add, .task 0, .task 1, .task 0, .task 1, .task 1], rfl⟩, ⟨rfl, by decide⟩,
    fun served => ?_⟩
  obtain ⟨task, index, socket, -⟩ := served "linux/amd64" (by decide) "/tmp/orbit-amd64.sock" rfl
  have nothing : none = some (File.socket index) := socket
  cases nothing

end Bridge

end OrbitBuild
