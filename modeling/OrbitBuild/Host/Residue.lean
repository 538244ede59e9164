import OrbitBuild.Host.Unlinking

/-! # What a process leaves behind

The sockets a process has bound and the builders it has created stay when it is gone,
until someone removes them. Its own shutdown removes them all: what its tasks have bound
is at the paths of its bridges, and what it has created has its builder name.
-/

namespace OrbitBuild

universe u

variable {ι : Type u} [DecidableEq ι] {curve : Curve}

namespace Host

/-- The socket at the path is that of an accept loop of the process. -/
def State.Owns (state : State ι curve) (i : ι) (path : String) : Prop :=
  ∃ index task, state.dir path = some (.socket index) ∧ state.tasks[index]? = some (i, task)

/-- No socket file and no builder is one that the process has created. -/
def State.Spotless (state : State ι curve) (i : ι) : Prop :=
  (∀ path, ¬ state.Owns i path) ∧ ∀ name, state.builders name ≠ some (.created i)

/-- The step binds a socket of the process, or its `docker buildx create` makes the builder. -/
def Builds (plan : ι → Plan curve) (i : ι) (state : State ι curve) : Action ι → Prop
  | .task index =>
      ∃ spawned ∈ state.tasks[index]?, spawned.1 = i ∧ spawned.2.phase = .unlinked ∧
        (plan i).setup.accepts spawned.2.bridge.socketPath = true ∧
        state.dir spawned.2.bridge.socketPath = none
  | .create j succeeds =>
      j = i ∧ succeeds = true ∧ (state.instances i).docker = some false ∧
        state.builders (plan i).builderName = none
  | _ => False

instance Builds.decidable (plan : ι → Plan curve) (i : ι) (state : State ι curve) :
    (action : Action ι) → Decidable (Builds plan i state action)
  | .task index =>
      inferInstanceAs (Decidable (∃ spawned ∈ state.tasks[index]?, spawned.1 = i ∧
        spawned.2.phase = .unlinked ∧
        (plan i).setup.accepts spawned.2.bridge.socketPath = true ∧
        state.dir spawned.2.bridge.socketPath = none))
  | .create j succeeds =>
      inferInstanceAs (Decidable (j = i ∧ succeeds = true ∧
        (state.instances i).docker = some false ∧ state.builders (plan i).builderName = none))
  | .discover _ | .add _ | .prepare _ _ | .inspect _ _ | .proceed _ | .interrupt _ | .clean _ _
  | .remove _ _ | .drop _ | .exit _ => .isFalse id

/-- The process is gone, or its shutdown is still to remove what is at the path. -/
def State.Cleans (state : State ι curve) (i : ι) (path : String) : Prop :=
  (state.instances i).stage = .gone ∨
    ∃ remaining, (state.instances i).stage = .cleaning remaining ∧ path ∈ remaining

section Step

variable {plan : ι → Plan curve} {state next : State ι curve}

/-- What a step does to the builders. -/
theorem step_builders {action : Action ι} (moved : step plan state action = some next) :
    next.builders = state.builders ∨
      (∃ i, action = .create i true ∧ (state.instances i).docker = some false ∧
        state.builders (plan i).builderName = none ∧
        next.builders =
          Function.update state.builders (plan i).builderName (some (.created i))) ∨
      ∃ i, action = .remove i true ∧
        next.builders = Function.update state.builders (plan i).builderName none := by
  cases takes_of_step moved with
  | @create i succeeds append docker =>
      by_cases creates : succeeds ∧ append = false ∧ state.builders (plan i).builderName = none
      · obtain ⟨rfl, rfl, free⟩ := creates
        exact Or.inr (Or.inl ⟨i, rfl, docker, free, if_pos ⟨rfl, rfl, free⟩⟩)
      · exact Or.inl (if_neg creates)
  | @remove i succeeds cleaned =>
      cases succeeds with
      | true => exact Or.inr (Or.inr ⟨i, rfl, rfl⟩)
      | false => exact Or.inl rfl
  | _ => exact Or.inl rfl

/-- A builder that a process has created has its builder name. -/
theorem step_named {action : Action ι} (moved : step plan state action = some next)
    (named : ∀ name i, state.builders name = some (.created i) → name = (plan i).builderName)
    {name : String} {i : ι} (created : next.builders name = some (.created i)) :
    name = (plan i).builderName := by
  rcases step_builders moved with same | ⟨j, -, -, -, same⟩ | ⟨j, -, same⟩
  · exact named name i (same ▸ created)
  · rw [same] at created
    rcases Transition.update_eq_some.mp created with ⟨rfl, made⟩ | ⟨-, old⟩
    · cases made
      rfl
    · exact named name i old
  · rw [same] at created
    rcases Transition.update_eq_some.mp created with ⟨-, removed⟩ | ⟨-, old⟩
    · cases removed
    · exact named name i old

/-- A builder of the process is there from before, and is not the one just removed, or the
step has created it. -/
theorem step_created {action : Action ι} (moved : step plan state action = some next)
    (named : ∀ name i, state.builders name = some (.created i) → name = (plan i).builderName)
    {name : String} {i : ι} (created : next.builders name = some (.created i)) :
    (state.builders name = some (.created i) ∧ action ≠ .remove i true) ∨
      Builds plan i state action := by
  obtain rfl := step_named moved named created
  rcases step_builders moved with same | ⟨j, rfl, docker, free, same⟩ | ⟨j, rfl, same⟩
  · refine Or.inl ⟨same ▸ created, ?_⟩
    rintro rfl
    cases takes_of_step moved with
    | remove cleaned => exact absurd ((Function.update_self _ _ _).symm.trans created) nofun
  · rw [same] at created
    rcases Transition.update_eq_some.mp created with ⟨name, made⟩ | ⟨-, old⟩
    · cases made
      exact Or.inr ⟨rfl, rfl, docker, free⟩
    · exact Or.inl ⟨old, nofun⟩
  · rw [same] at created
    rcases Transition.update_eq_some.mp created with ⟨-, removed⟩ | ⟨other, old⟩
    · cases removed
    · exact Or.inl ⟨old, fun equal => other (by cases equal; rfl)⟩

/-- A socket of the process is there from before, or the step has bound it. -/
theorem step_owns {before : SocketDir String Empty} {action : Action ι}
    (tracked : Tracked plan before state) (moved : step plan state action = some next) {i : ι}
    {path : String} (owns : next.Owns i path) :
    state.Owns i path ∨ Builds plan i state action := by
  obtain ⟨index, task, socket, found⟩ := owns
  rcases step_socket_fresh moved socket with
    old | ⟨j, bound, rfl, held, phase, rfl, accepted, free⟩
  · obtain ⟨j, bound, held, -, -⟩ := tracked.sockets path index old
    obtain ⟨after, kept, -, -, -⟩ := step_kept moved held
    cases found.symm.trans kept
    exact Or.inl ⟨index, bound, old, held⟩
  · obtain ⟨after, kept, -, -, -⟩ := step_kept moved held
    cases found.symm.trans kept
    exact Or.inr ⟨_, held, rfl, phase, accepted, free⟩

/-- The bridges of a process change by the bridge loop only. -/
theorem step_bridges {action : Action ι} (moved : step plan state action = some next) (j : ι) :
    (next.instances j).bridges = (state.instances j).bridges ∨
      ∃ platform rest bridge, action = .add j ∧
        (state.instances j).stage = .bridging (platform :: rest) ∧
        (plan j).setup.bridge platform = .ok (some bridge) ∧
        (next.instances j).bridges =
          (Bridge.Manager.addBridge ⟨(state.instances j).bridges, []⟩ bridge).bridges := by
  have unchanged : ∀ {i : ι} {process : Instance curve},
      process.bridges = (state.instances i).bridges →
        ((state.put i process).instances j).bridges = (state.instances j).bridges := by
    intro i process same
    by_cases equal : j = i
    · rw [equal, put_self, same]
    · rw [put_of_ne state process equal]
  cases takes_of_step moved with
  | @add i platform rest bridge bridging built =>
      by_cases equal : j = i
      · subst equal
        exact Or.inr ⟨platform, rest, bridge, rfl, bridging, built,
          congrArg Instance.bridges (put_self state j _)⟩
      · exact Or.inl (congrArg Instance.bridges (put_of_ne state _ equal))
  | task found stepped | drop found => exact Or.inl rfl
  | _ => exact Or.inl (unchanged rfl)

/-- What a shutdown is to remove it removes, or it comes to nothing with the process. -/
theorem step_cleans {action : Action ι} (moved : step plan state action = some next) {i : ι}
    {path : String} (cleans : state.Cleans i path) (owns : next.Owns i path) :
    next.Cleans i path := by
  rcases cleans with gone | ⟨remaining, cleaning, member⟩
  · exact Or.inl (step_gone moved gone)
  have kept : ∀ {j : ι} {process : Instance curve},
      (i = j → process.stage = .gone ∨ ∃ remaining, process.stage = .cleaning remaining ∧
        path ∈ remaining) →
      (state.put j process).Cleans i path := by
    intro j process own
    rw [State.Cleans, stage_put]
    split
    · next equal => exact own equal
    · exact Or.inr ⟨remaining, cleaning, member⟩
  have elsewhere : ∀ {j : ι} {stage : Stage} {conclusion : Prop},
      (state.instances j).stage = stage → stage ≠ .cleaning remaining → i = j → conclusion := by
    intro j stage conclusion found other equal
    subst equal
    exact (other (found.symm.trans cleaning)).elim
  cases takes_of_step moved with
  | @clean j cleaned left stage inside =>
      refine kept fun equal => Or.inr ⟨left.erase cleaned, rfl, ?_⟩
      subst equal
      obtain ⟨index, task, socket, -⟩ := owns
      cases stage.symm.trans cleaning
      refine (List.mem_erase_of_ne ?_).mpr member
      rintro rfl
      exact SocketDir.unlink_ne_socket _ _ _ socket
  | @remove j succeeds cleaned =>
      refine kept fun equal => ?_
      subst equal
      cases cleaned.symm.trans cleaning
      cases member
  | create docker =>
      refine kept fun equal => ?_
      subst equal
      exact Or.inr ⟨remaining, cleaning, member⟩
  | exit running => exact kept fun _ => Or.inl rfl
  | task found stepped | drop found => exact Or.inr ⟨remaining, cleaning, member⟩
  | discover stage | skip stage built | add stage built | bail stage | prepare stage
  | inspect stage | proceed stage | interrupt stage =>
      exact kept (elsewhere stage nofun)

/-- The `docker buildx rm` comes when no socket is left to be removed. -/
theorem not_cleans_of_remove {i : ι} {succeeds : Bool} {path : String}
    (moved : step plan state (.remove i succeeds) = some next) : ¬ state.Cleans i path := by
  cases takes_of_step moved with
  | remove cleaned =>
      rintro (gone | ⟨remaining, cleaning, member⟩)
      · cases gone.symm.trans cleaned
      · cases cleaning.symm.trans cleaned
        cases member

/-- A process that is starting was so before, and no `docker` command of it is under way. -/
theorem step_starting {action : Action ι} (moved : step plan state action = some next) {i : ι}
    (starting : (next.instances i).stage = .starting) :
    (state.instances i).stage = .starting ∧
      ((state.instances i).docker = none → (next.instances i).docker = none) := by
  have apart : ∀ {j : ι} {process : Instance curve}, process.stage ≠ .starting →
      ((state.put j process).instances i).stage = .starting →
        (state.put j process).instances i = state.instances i := by
    intro j process other starting
    refine put_of_ne state process fun equal => ?_
    rw [equal, put_self] at starting
    exact other starting
  have same : next.instances i = state.instances i →
      (state.instances i).stage = .starting ∧
        ((state.instances i).docker = none → (next.instances i).docker = none) := by
    intro same
    rw [same] at starting ⊢
    exact ⟨starting, id⟩
  cases takes_of_step moved with
  | @create j succeeds append docker =>
      by_cases equal : i = j
      · subst equal
        have own := put_self state i { state.instances i with docker := none }
        exact ⟨(congrArg Instance.stage own).symm.trans starting,
          fun _ => congrArg Instance.docker own⟩
      · exact same (put_of_ne state _ equal)
  | @proceed j platform rest creating =>
      refine same (apart ?_ starting)
      cases rest <;> nofun
  | task found stepped | drop found => exact same rfl
  | _ => exact same (apart nofun starting)

end Step

section Run

variable {plan : ι → Plan curve} {before : SocketDir String Empty} {known : String → Bool}
  {state : State ι curve}

/-- A builder that a process has created has the name it was told to use. -/
theorem named_of_reachable
    (reached : Transition.Reachable (step plan) (.initial before known) state) {name : String}
    {i : ι} (created : state.builders name = some (.created i)) : name = (plan i).builderName := by
  have all : ∀ name i, state.builders name = some (.created i) → name = (plan i).builderName := by
    refine reached.invariant
      (motive := fun state => ∀ name i, state.builders name = some (.created i) →
        name = (plan i).builderName)
      (fun _ _ _ named moved _ _ => step_named moved named) ?_
    intro name i created
    simp only [State.initial] at created
    split at created
    · cases created
    · cases created
  exact all name i created

/-- Every task has its path among the bridges of its process. -/
def State.Recorded (state : State ι curve) : Prop :=
  ∀ (index : Nat) i task, state.tasks[index]? = some (i, task) →
    ∃ added ∈ (state.instances i).bridges, added.1 = task.bridge.platform ∧
      added.2.socketPath = task.bridge.socketPath

/-- A later bridge of the platform takes the place of the earlier one, with the same path. -/
theorem State.Recorded.step {next : State ι curve} {action : Action ι}
    (tracked : Tracked plan before state) (recorded : state.Recorded)
    (moved : Host.step plan state action = some next) : next.Recorded := by
  intro index i task found
  rcases step_bridges moved i with same | ⟨platform, rest, bridge, rfl, stage, built, same⟩
  · rw [same]
    rcases step_fresh moved found with ⟨old, held, bridge⟩ | ⟨platform, rest, rfl, stage, built⟩
    · rw [← bridge]
      exact recorded index i old held
    · cases takes_of_step moved with
      | skip bridging skipped =>
          cases stage.symm.trans bridging
          cases built.symm.trans skipped
      | add bridging added =>
          cases stage.symm.trans bridging
          cases built.symm.trans added
          have whole := (congrArg Instance.bridges (put_self state i _)).symm.trans same
          exact ⟨(task.bridge.platform, task.bridge), whole ▸ List.mem_append_right _
            List.mem_cons_self, rfl, rfl⟩
  · rw [same]
    have member := (within_addBridge tracked.instances stage built).1
    have last : (bridge.platform, bridge) ∈
        (Bridge.Manager.addBridge ⟨(state.instances i).bridges, []⟩ bridge).bridges :=
      List.mem_append_right _ List.mem_cons_self
    rcases step_fresh moved found with ⟨old, held, kept⟩ | ⟨other, later, -, stage', built'⟩
    · obtain ⟨added, listed, named, path⟩ := recorded index i old held
      rw [kept] at named path
      by_cases replaced : added.1 = bridge.platform
      · have derived := Bridge.Setup.socketPath_of_mem member
        have equal := Bridge.Setup.socketPath_of_mem (tracked.tasks index i old held)
        rw [kept, ← named, replaced] at equal
        exact ⟨_, last, replaced.symm.trans named, Except.ok.inj (derived.symm.trans equal)⟩
      · exact ⟨added, List.mem_append_left _ (List.mem_filter.mpr ⟨listed, by simpa⟩), named,
          path⟩
    · cases stage.symm.trans stage'
      cases built.symm.trans built'
      exact ⟨_, last, rfl, rfl⟩

/-- In every reachable state each process knows the paths of its tasks. -/
theorem State.Recorded.of_reachable
    (reached : Transition.Reachable (Host.step plan) (.initial before known) state) :
    state.Recorded := by
  refine Transition.Reachable.induction (motive := State.Recorded) ?_ ?_ reached
  · intro index i task found
    cases found
  · exact fun _ _ _ reached recorded moved => recorded.step (.of_reachable reached) moved

/-- After Ctrl+C the shutdown is to remove every socket of the process. -/
theorem cleans_of_interrupt {next : State ι curve} {i : ι} {path : String}
    (reached : Transition.Reachable (Host.step plan) (.initial before known) state)
    (moved : Host.step plan state (.interrupt i) = some next) (owns : next.Owns i path) :
    next.Cleans i path := by
  have after := reached.snoc moved
  obtain ⟨index, task, socket, found⟩ := owns
  obtain ⟨j, held, same, named, -⟩ := (Tracked.of_reachable after).sockets path index socket
  cases found.symm.trans same
  obtain ⟨added, listed, -, equal⟩ := State.Recorded.of_reachable after index i task found
  rcases step_bridges moved i with bridges | ⟨platform, rest, bridge, adds, -⟩
  · rw [bridges] at listed
    cases takes_of_step moved with
    | interrupt serving =>
        exact Or.inr ⟨_, congrArg Instance.stage (put_self state i _),
          List.mem_map.mpr ⟨added, listed, equal.trans named⟩⟩
  · cases adds

/-- A process that has not got anywhere. -/
structure State.Fresh (state : State ι curve) (i : ι) : Prop where
  tasks : ∀ (index : Nat) task, state.tasks[index]? ≠ some (i, task)
  docker : (state.instances i).docker = none
  builders : ∀ name, state.builders name ≠ some (.created i)

/-- A process that is starting has not got anywhere yet. -/
theorem fresh_of_starting
    (reached : Transition.Reachable (Host.step plan) (.initial before known) state) {i : ι}
    (starting : (state.instances i).stage = .starting) : state.Fresh i := by
  refine Transition.Reachable.induction
    (motive := fun state => (state.instances i).stage = .starting → state.Fresh i)
    ?_ ?_ reached starting
  · intro _
    refine ⟨fun index task => nofun, rfl, fun name created => ?_⟩
    simp only [State.initial] at created
    split at created <;> cases created
  · intro state action next reached holds moved starting
    obtain ⟨stage, docker⟩ := step_starting moved starting
    have fresh := holds stage
    refine ⟨fun index task found => ?_, docker fresh.docker, fun name created => ?_⟩
    · rcases step_fresh moved found with ⟨old, held, -⟩ | ⟨platform, rest, -, bridging, -⟩
      · exact fresh.tasks index old held
      · cases stage.symm.trans bridging
    · rcases step_builders moved with same | ⟨j, -, running, -, same⟩ | ⟨j, -, same⟩
      · exact fresh.builders name (same ▸ created)
      · rw [same] at created
        rcases Transition.update_eq_some.mp created with ⟨-, made⟩ | ⟨-, old⟩
        · cases made
          cases fresh.docker.symm.trans running
        · exact fresh.builders name old
      · rw [same] at created
        rcases Transition.update_eq_some.mp created with ⟨-, removed⟩ | ⟨-, old⟩
        · cases removed
        · exact fresh.builders name old

/-- A process that is starting has left nothing anywhere. -/
theorem spotless_of_starting
    (reached : Transition.Reachable (Host.step plan) (.initial before known) state) {i : ι}
    (starting : (state.instances i).stage = .starting) : state.Spotless i := by
  have fresh := fresh_of_starting reached starting
  refine ⟨fun path owns => ?_, fresh.builders⟩
  obtain ⟨index, task, -, found⟩ := owns
  exact fresh.tasks index task found

end Run

/-- The end of a process gives its sockets to nobody else, and removes none. -/
theorem owns_ended {state : State ι curve} {i j : ι} {path : String}
    (owns : (state.ended i).Owns j path) : state.Owns j path := by
  obtain ⟨index, task, socket, found⟩ := owns
  rw [State.ended, getElem?_map_endTask] at found
  obtain ⟨⟨owner, before⟩, held, ends⟩ := Option.map_eq_some_iff.mp found
  obtain rfl : owner = j := (endTask_fst i (owner, before)).symm.trans (congrArg Prod.fst ends)
  exact ⟨index, before, socket, held⟩

end Host

end OrbitBuild
