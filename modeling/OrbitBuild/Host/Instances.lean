import OrbitBuild.Bridge.Manager

/-! # Mission Controls on one host

Any number of Mission Control processes share the directory of the sockets and the
builders of `docker buildx`. Each goes from its discovery through the bridge loop and
the buildx setup to serving, and shuts down after Ctrl+C or ends at any time. Its
accept-loop tasks run next to it, and a `docker buildx create` that it has started
runs to its end whatever becomes of the process.
-/

namespace OrbitBuild

universe u

variable {ι : Type u} {curve : Curve}

namespace Host

/-- What one Mission Control is started with, and what it discovers. -/
structure Plan (curve : Curve) where
  setup : Bridge.Setup curve
  platforms : List String
  builderName : String
  accepted : ∃ text, parsePlatforms text = .ok platforms

def Plan.bridges (plan : Plan curve) : List (Bridge curve) :=
  plan.setup.bridges plan.platforms

/-- How far the main function of a process has come. -/
inductive Stage
  /-- Joining, syncing and discovering. -/
  | starting
  | bridging (pending : List String)
  /-- Before the `docker buildx inspect` for the first of the platforms. -/
  | inspecting (pending : List String)
  /-- The `docker buildx create` for the first of the platforms is awaited. -/
  | creating (pending : List String)
  /-- Waiting for Ctrl+C. -/
  | serving
  /-- The tasks are aborted, and the sockets at these paths are to be removed. -/
  | cleaning (remaining : List String)
  | leaving
  | gone
  deriving DecidableEq

/-- `shutdown` has aborted the tasks, which end at their next await point. -/
def Stage.aborted : Stage → Bool
  | .cleaning _ | .leaving => true
  | _ => false

structure Instance (curve : Curve) where
  stage : Stage
  bridges : List (String × Bridge curve)
  /-- A `docker buildx create` under way, with or without `--append`. -/
  docker : Option Bool

/-- Who has created a builder. -/
inductive Builder (ι : Type u)
  | foreign
  | created (creator : ι)
  deriving DecidableEq

structure State (ι : Type u) (curve : Curve) where
  dir : SocketDir String Nat
  builders : String → Option (Builder ι)
  /-- Every task spawned on the host, with its process. An ended task is `exited`. -/
  tasks : List (ι × Bridge.Task curve)
  instances : ι → Instance curve

/-- No process has got anywhere; files and builders are left from others. -/
def State.initial (before : SocketDir String Empty) (known : String → Bool) : State ι curve where
  dir := before.inherit
  builders name := if known name then some .foreign else none
  tasks := []
  instances := fun _ => ⟨.starting, [], none⟩

inductive Action (ι : Type u)
  | discover (i : ι)
  | add (i : ι)
  /-- The bridge loop is over; the platforms are taken in the order of the map. -/
  | prepare (i : ι) (order : List String)
  | inspect (i : ι) (answered : Bool)
  /-- The `docker buildx create` of the process ends. -/
  | create (i : ι) (succeeds : Bool)
  | proceed (i : ι)
  /-- Ctrl+C, and the abort of the tasks. -/
  | interrupt (i : ι)
  | clean (i : ι) (path : String)
  | remove (i : ι) (succeeds : Bool)
  /-- A step of the task with this index. -/
  | task (index : Nat)
  /-- The runtime drops an aborted task and its listener. -/
  | drop (index : Nat)
  /-- The process ends, by returning, a failure or a signal. -/
  | exit (i : ι)
  deriving DecidableEq

variable [DecidableEq ι]

def State.put (state : State ι curve) (i : ι) (process : Instance curve) : State ι curve :=
  { state with instances := Function.update state.instances i process }

/-- The process moves on to a stage. -/
def State.enter (state : State ι curve) (i : ι) (stage : Stage) : State ι curve :=
  state.put i { state.instances i with stage := stage }

/-- `add_bridge`, with the rest of the bridge loop. -/
def State.addBridge (state : State ι curve) (i : ι) (bridge : Bridge curve) (rest : List String) :
    State ι curve :=
  { state.put i
      { state.instances i with
        stage := .bridging rest
        bridges :=
          (Bridge.Manager.addBridge ⟨(state.instances i).bridges, []⟩ bridge).bridges } with
    tasks := state.tasks ++ [(i, ⟨bridge, .spawned⟩)] }

/-- A task of the process has ended with it. -/
def endTask (i : ι) (spawned : ι × Bridge.Task curve) : ι × Bridge.Task curve :=
  if spawned.1 = i then (spawned.1, { spawned.2 with phase := .exited }) else spawned

/-- The kernel closes the listeners of a process and leaves the files. -/
def State.ended (state : State ι curve) (i : ι) : State ι curve :=
  { state.enter i .gone with tasks := state.tasks.map (endTask i) }

/-- The buildx setup goes on with the next platform or is over. -/
def nextStage : List String → Stage
  | [] => .serving
  | platform :: rest => .inspecting (platform :: rest)

def step (plan : ι → Plan curve) (state : State ι curve) : Action ι → Option (State ι curve)
  | .discover i =>
      match (state.instances i).stage with
      | .starting => some (state.enter i (.bridging (plan i).platforms))
      | _ => none
  | .add i =>
      match (state.instances i).stage with
      | .bridging (platform :: rest) =>
          match (plan i).setup.bridge platform with
          | .error _ => none
          | .ok none => some (state.enter i (.bridging rest))
          | .ok (some bridge) => some (state.addBridge i bridge rest)
      | _ => none
  | .prepare i order =>
      match (state.instances i).stage with
      | .bridging [] =>
          if order.Perm ((state.instances i).bridges.map Prod.fst) then
            -- Without a bridge the process bails out.
            match order with
            | [] => some (state.ended i)
            | _ => some (state.enter i (nextStage order))
          else none
      | _ => none
  | .inspect i answered =>
      match (state.instances i).stage with
      | .inspecting pending =>
          some (state.put i
            { state.instances i with
              stage := .creating pending
              docker := some (answered && (state.builders (plan i).builderName).isSome) })
      | _ => none
  | .create i succeeds =>
      match (state.instances i).docker with
      | none => none
      | some append =>
          some { state.put i { state.instances i with docker := none } with
            -- Without `--append` it needs a free name, and with it nothing is created.
            builders :=
              if succeeds ∧ append = false ∧ state.builders (plan i).builderName = none then
                Function.update state.builders (plan i).builderName (some (.created i))
              else state.builders }
  | .proceed i =>
      match (state.instances i).stage, (state.instances i).docker with
      | .creating (_ :: rest), none => some (state.enter i (nextStage rest))
      | _, _ => none
  | .interrupt i =>
      match (state.instances i).stage with
      | .serving =>
          some (state.enter i
            (.cleaning ((state.instances i).bridges.map fun added => added.2.socketPath)))
      | _ => none
  | .clean i path =>
      match (state.instances i).stage with
      | .cleaning remaining =>
          if path ∈ remaining then
            some { state.enter i (.cleaning (remaining.erase path)) with
              dir := state.dir.unlink path }
          else none
      | _ => none
  | .remove i succeeds =>
      match (state.instances i).stage with
      | .cleaning [] =>
          some { state.enter i .leaving with
            builders :=
              if succeeds then Function.update state.builders (plan i).builderName none
              else state.builders }
      | _ => none
  | .task index =>
      match state.tasks[index]? with
      | none => none
      | some (i, task) =>
          match task.step (plan i).setup.accepts state.dir index with
          | none => none
          | some (dir, moved) => some { state with
              dir := dir
              tasks := state.tasks.set index (i, moved) }
  | .drop index =>
      match state.tasks[index]? with
      | none => none
      | some (i, task) =>
          if (state.instances i).stage.aborted ∧
              (task.phase = .spawned ∨ task.phase = .listening) then
            some { state with
              tasks := state.tasks.set index (i, { task with phase := .exited }) }
          else none
  | .exit i =>
      if (state.instances i).stage = .gone then none else some (state.ended i)

/-! ## What a step does -/

/-- The process that takes the step. -/
def State.actor (state : State ι curve) : Action ι → Option ι
  | .discover i | .add i | .prepare i _ | .inspect i _ | .create i _ | .proceed i | .interrupt i
  | .clean i _ | .remove i _ | .exit i => some i
  | .task index | .drop index => state.tasks[index]?.map Prod.fst

/-- The accept loop that a client of the path reaches, with its process. -/
def State.listener (state : State ι curve) (path : String) : Option (Nat × ι) :=
  match state.dir path with
  | some (.socket index) =>
      match state.tasks[index]? with
      | some (i, ⟨_, .listening⟩) => some (index, i)
      | _ => none
  | _ => none

/-- The step removes what is at the path, if it can be removed. -/
def State.Unlinks (state : State ι curve) (path : String) : Action ι → Prop
  | .task index => ∃ i task, state.tasks[index]? = some (i, task) ∧
      task.bridge.socketPath = path ∧ (task.phase = .spawned ∨ task.phase = .bindFailed)
  | .clean i cleaned => cleaned = path ∧
      ∃ remaining, (state.instances i).stage = .cleaning remaining ∧ path ∈ remaining
  | _ => False

/-- The step moves the task, which is one of the process, or ends it. -/
def Moves (index : Nat) (i : ι) (action : Action ι) : Prop :=
  action = .task index ∨ action = .drop index ∨ action = .exit i ∨ action = .prepare i []

section Put

variable (state : State ι curve) (i : ι) (process : Instance curve)

theorem put_self : (state.put i process).instances i = process := Function.update_self i _ _

theorem put_of_ne {i j : ι} (different : j ≠ i) :
    (state.put i process).instances j = state.instances j :=
  Function.update_of_ne different _ _

theorem stage_put (j : ι) :
    ((state.put i process).instances j).stage =
      if j = i then process.stage else (state.instances j).stage := by
  split
  · next same => rw [same, put_self]
  · next different => rw [put_of_ne state process different]

end Put

section Step

variable {plan : ι → Plan curve} {state next : State ι curve}

/-- A step of a task changes the directory and that task alone. -/
theorem step_task_eq_some {index : Nat} :
    step plan state (.task index) = some next ↔
      ∃ i task dir moved, state.tasks[index]? = some (i, task) ∧
        task.step (plan i).setup.accepts state.dir index = some (dir, moved) ∧
        next = { state with dir := dir, tasks := state.tasks.set index (i, moved) } := by
  constructor
  · intro moved
    simp only [step] at moved
    split at moved
    · cases moved
    · next i task found =>
        split at moved
        · cases moved
        · next dir after stepped =>
            exact ⟨i, task, dir, after, found, stepped, (Option.some.inj moved).symm⟩
  · intro both
    obtain ⟨i, task, dir, after, found, stepped, rfl⟩ := both
    simp only [step, found, stepped]

/-- What each action needs, and what it makes of the state. -/
inductive Takes (plan : ι → Plan curve) (state : State ι curve) : Action ι → State ι curve → Prop
  | discover {i : ι} (starting : (state.instances i).stage = .starting) :
      Takes plan state (.discover i) (state.enter i (.bridging (plan i).platforms))
  | skip {i : ι} {platform : String} {rest : List String}
      (bridging : (state.instances i).stage = .bridging (platform :: rest))
      (built : (plan i).setup.bridge platform = .ok none) :
      Takes plan state (.add i) (state.enter i (.bridging rest))
  | add {i : ι} {platform : String} {rest : List String} {bridge : Bridge curve}
      (bridging : (state.instances i).stage = .bridging (platform :: rest))
      (built : (plan i).setup.bridge platform = .ok (some bridge)) :
      Takes plan state (.add i) (state.addBridge i bridge rest)
  | bail {i : ι} (bridging : (state.instances i).stage = .bridging []) :
      Takes plan state (.prepare i []) (state.ended i)
  | prepare {i : ι} {platform : String} {rest : List String}
      (bridging : (state.instances i).stage = .bridging []) :
      Takes plan state (.prepare i (platform :: rest))
        (state.enter i (.inspecting (platform :: rest)))
  | inspect {i : ι} {answered : Bool} {pending : List String}
      (inspecting : (state.instances i).stage = .inspecting pending) :
      Takes plan state (.inspect i answered)
        (state.put i
          { state.instances i with
            stage := .creating pending
            docker := some (answered && (state.builders (plan i).builderName).isSome) })
  | create {i : ι} {succeeds append : Bool} (docker : (state.instances i).docker = some append) :
      Takes plan state (.create i succeeds)
        { state.put i { state.instances i with docker := none } with
          builders :=
            if succeeds ∧ append = false ∧ state.builders (plan i).builderName = none then
              Function.update state.builders (plan i).builderName (some (.created i))
            else state.builders }
  | proceed {i : ι} {platform : String} {rest : List String}
      (creating : (state.instances i).stage = .creating (platform :: rest)) :
      Takes plan state (.proceed i) (state.enter i (nextStage rest))
  | interrupt {i : ι} (serving : (state.instances i).stage = .serving) :
      Takes plan state (.interrupt i)
        (state.enter i
          (.cleaning ((state.instances i).bridges.map fun added => added.2.socketPath)))
  | clean {i : ι} {path : String} {remaining : List String}
      (cleaning : (state.instances i).stage = .cleaning remaining) (member : path ∈ remaining) :
      Takes plan state (.clean i path)
        { state.enter i (.cleaning (remaining.erase path)) with dir := state.dir.unlink path }
  | remove {i : ι} {succeeds : Bool} (cleaned : (state.instances i).stage = .cleaning []) :
      Takes plan state (.remove i succeeds)
        { state.enter i .leaving with
          builders :=
            if succeeds then Function.update state.builders (plan i).builderName none
            else state.builders }
  | task {index : Nat} {i : ι} {task after : Bridge.Task curve} {dir : SocketDir String Nat}
      (found : state.tasks[index]? = some (i, task))
      (stepped : task.step (plan i).setup.accepts state.dir index = some (dir, after)) :
      Takes plan state (.task index)
        { state with dir := dir, tasks := state.tasks.set index (i, after) }
  | drop {index : Nat} {i : ι} {task : Bridge.Task curve}
      (found : state.tasks[index]? = some (i, task)) :
      Takes plan state (.drop index)
        { state with tasks := state.tasks.set index (i, { task with phase := .exited }) }
  | exit {i : ι} (running : (state.instances i).stage ≠ .gone) :
      Takes plan state (.exit i) (state.ended i)

/-- Each step of the code is one of those listed. -/
theorem takes_of_step {action : Action ι} (moved : step plan state action = some next) :
    Takes plan state action next := by
  cases action with
  | task index =>
      obtain ⟨i, task, dir, after, found, stepped, rfl⟩ := step_task_eq_some.mp moved
      exact .task found stepped
  | drop index =>
      simp only [step] at moved
      split at moved
      · cases moved
      · next i task found =>
          obtain ⟨-, equation⟩ := Option.ite_none_right_eq_some.mp moved
          cases equation
          exact .drop found
  | add i =>
      simp only [step] at moved
      split at moved
      · next bridging =>
          split at moved
          · cases moved
          · next built =>
              cases moved
              exact .skip bridging built
          · next built =>
              cases moved
              exact .add bridging built
      · cases moved
  | prepare i order =>
      simp only [step] at moved
      split at moved
      · next bridging =>
          obtain ⟨-, equation⟩ := Option.ite_none_right_eq_some.mp moved
          cases order with
          | nil =>
              cases equation
              exact .bail bridging
          | cons platform rest =>
              cases equation
              exact .prepare bridging
      · cases moved
  | clean i path =>
      simp only [step] at moved
      split at moved
      · next cleaning =>
          obtain ⟨member, equation⟩ := Option.ite_none_right_eq_some.mp moved
          cases equation
          exact .clean cleaning member
      · cases moved
  | exit i =>
      obtain ⟨running, equation⟩ := Option.ite_none_left_eq_some.mp moved
      cases equation
      exact .exit running
  | create i succeeds =>
      simp only [step] at moved
      split at moved
      · cases moved
      · next docker =>
          cases moved
          exact .create docker
  | proceed i =>
      simp only [step] at moved
      split at moved
      · next creating docker =>
          cases moved
          exact .proceed creating
      · cases moved
  | _ =>
      simp only [step] at moved
      split at moved
      · next stage =>
          cases moved
          constructor
          exact stage
      · cases moved

/-- What a step does to the directory. -/
theorem step_dir {action : Action ι} (moved : step plan state action = some next) :
    next.dir = state.dir ∨
      (∃ path, state.Unlinks path action ∧ next.dir = state.dir.unlink path) ∨
      ∃ index i task, action = .task index ∧ state.tasks[index]? = some (i, task) ∧
        task.phase = .unlinked ∧
        state.dir.bind (plan i).setup.accepts task.bridge.socketPath index = some next.dir := by
  cases takes_of_step moved with
  | @task index i task after dir found stepped =>
      obtain ⟨-, ⟨phase, -, unlinked⟩ | ⟨phase, -, bound⟩ | ⟨-, -, same, -⟩ |
        ⟨phase, -, unlinked⟩⟩ := Bridge.Task.step_cases stepped
      · exact Or.inr (Or.inl ⟨_, ⟨i, task, found, rfl, Or.inl phase⟩, unlinked⟩)
      · exact Or.inr (Or.inr ⟨index, i, task, rfl, found, phase, bound⟩)
      · exact Or.inl same
      · exact Or.inr (Or.inl ⟨_, ⟨i, task, found, rfl, Or.inr phase⟩, unlinked⟩)
  | @clean i path remaining cleaning member =>
      exact Or.inr (Or.inl ⟨path, ⟨rfl, remaining, cleaning, member⟩, rfl⟩)
  | _ => exact Or.inl rfl

/-- A task that listens can only end, and one that has ended stays so. -/
def Settles (before after : Bridge.TaskPhase) : Prop :=
  (before = .exited → after = .exited) ∧
    (before = .listening → after = .listening ∨ after = .exited)

theorem settles_refl (phase : Bridge.TaskPhase) : Settles phase phase := ⟨id, Or.inl⟩

theorem settles_exited (phase : Bridge.TaskPhase) : Settles phase .exited :=
  ⟨fun _ => rfl, fun _ => Or.inr rfl⟩

/-- What a step does to the tasks. -/
theorem step_tasks {action : Action ι} (moved : step plan state action = some next) :
    next.tasks = state.tasks ∨
      (∃ i platform rest bridge, action = .add i ∧
        (state.instances i).stage = .bridging (platform :: rest) ∧
        (plan i).setup.bridge platform = .ok (some bridge) ∧
        next.tasks = state.tasks ++ [(i, ⟨bridge, .spawned⟩)]) ∨
      (∃ index i task after, (action = .task index ∨ action = .drop index) ∧
        state.tasks[index]? = some (i, task) ∧ after.bridge = task.bridge ∧
        Settles task.phase after.phase ∧ next.tasks = state.tasks.set index (i, after)) ∨
      ∃ i, (action = .exit i ∨ action = .prepare i []) ∧
        next.tasks = state.tasks.map (endTask i) := by
  cases takes_of_step moved with
  | @task index i task after dir found stepped =>
      obtain ⟨bridge, phases⟩ := Bridge.Task.step_cases stepped
      have unsettled : task.phase ≠ .exited ∧ task.phase ≠ .listening := by
        rcases phases with ⟨phase, -⟩ | ⟨phase, -⟩ | ⟨phase, -⟩ | ⟨phase, -⟩
        all_goals rw [phase]
        all_goals exact ⟨nofun, nofun⟩
      exact Or.inr (Or.inr (Or.inl ⟨index, i, task, after, Or.inl rfl, found, bridge,
        ⟨fun exited => (unsettled.1 exited).elim, fun listens => (unsettled.2 listens).elim⟩, rfl⟩))
  | @drop index i task found =>
      exact Or.inr (Or.inr (Or.inl
        ⟨index, i, task, { task with phase := .exited }, Or.inr rfl, found, rfl,
          settles_exited _, rfl⟩))
  | @add i platform rest bridge bridging built =>
      exact Or.inr (Or.inl ⟨i, platform, rest, bridge, rfl, bridging, built, rfl⟩)
  | @bail i bridging => exact Or.inr (Or.inr (Or.inr ⟨i, Or.inr rfl, rfl⟩))
  | @exit i running => exact Or.inr (Or.inr (Or.inr ⟨i, Or.inl rfl, rfl⟩))
  | _ => exact Or.inl rfl

theorem getElem?_map_endTask (tasks : List (ι × Bridge.Task curve)) (index : Nat) (i : ι) :
    (tasks.map (endTask i))[index]? = tasks[index]?.map (endTask i) :=
  List.getElem?_map

theorem endTask_fst (i : ι) (spawned : ι × Bridge.Task curve) :
    (endTask i spawned).1 = spawned.1 := by
  unfold endTask
  split <;> rfl

theorem endTask_self (i : ι) (task : Bridge.Task curve) :
    endTask i (i, task) = (i, { task with phase := .exited }) := by
  rw [endTask, if_pos rfl]

/-- A task keeps its process and its bridge, and changes only when it moves. -/
theorem step_kept {action : Action ι} (moved : step plan state action = some next) {index : Nat}
    {i : ι} {task : Bridge.Task curve} (found : state.tasks[index]? = some (i, task)) :
    ∃ after, next.tasks[index]? = some (i, after) ∧ after.bridge = task.bridge ∧
      Settles task.phase after.phase ∧ (after = task ∨ Moves index i action) := by
  have inside := (List.getElem?_eq_some_iff.mp found).1
  obtain same | ⟨_, _, _, _, _, _, _, same⟩ |
    ⟨other, j, old, after, which, held, bridge, settles, same⟩ | ⟨j, which, same⟩ :=
      step_tasks moved
  · exact ⟨task, by rw [same, found], rfl, settles_refl _, Or.inl rfl⟩
  · exact ⟨task, by rw [same, List.getElem?_append_left inside, found], rfl, settles_refl _,
      Or.inl rfl⟩
  · by_cases equal : other = index
    · subst equal
      cases found.symm.trans held
      refine ⟨after, ?_, bridge, settles, Or.inr (which.imp_right Or.inl)⟩
      rw [same, List.getElem?_set_self inside]
    · exact ⟨task, by rw [same, List.getElem?_set_ne equal, found], rfl, settles_refl _,
        Or.inl rfl⟩
  · by_cases equal : i = j
    · subst equal
      refine ⟨{ task with phase := .exited }, ?_, rfl, settles_exited _,
        Or.inr (Or.inr (Or.inr which))⟩
      rw [same, getElem?_map_endTask, found, Option.map_some, endTask_self]
    · refine ⟨task, ?_, rfl, settles_refl _, Or.inl rfl⟩
      rw [same, getElem?_map_endTask, found, Option.map_some, endTask, if_neg equal]

/-- A task that was not there before is that of the bridge just added. -/
theorem step_fresh {action : Action ι} (moved : step plan state action = some next) {index : Nat}
    {i : ι} {task : Bridge.Task curve} (found : next.tasks[index]? = some (i, task)) :
    (∃ before, state.tasks[index]? = some (i, before) ∧ before.bridge = task.bridge) ∨
      ∃ platform rest, action = .add i ∧
        (state.instances i).stage = .bridging (platform :: rest) ∧
        (plan i).setup.bridge platform = .ok (some task.bridge) := by
  cases held : state.tasks[index]? with
  | some spawned =>
      obtain ⟨j, before⟩ := spawned
      obtain ⟨after, kept, bridge, -, -⟩ := step_kept moved held
      cases found.symm.trans kept
      exact Or.inl ⟨before, rfl, bridge.symm⟩
  | none =>
      right
      have outside := List.getElem?_eq_none_iff.mp held
      obtain same | ⟨j, platform, rest, bridge, rfl, stage, built, same⟩ |
        ⟨_, _, _, _, _, _, _, _, same⟩ | ⟨_, _, same⟩ := step_tasks moved
      · rw [same, held] at found
        cases found
      · rw [same, List.getElem?_append_right outside] at found
        obtain ⟨rfl, rfl⟩ := Prod.mk.inj (List.mem_singleton.mp (List.mem_of_getElem? found))
        exact ⟨platform, rest, rfl, stage, built⟩
      · rw [same, List.getElem?_eq_none_iff.mpr (by rwa [List.length_set])] at found
        cases found
      · rw [same, getElem?_map_endTask, held] at found
        cases found

/-- What a step does to the stages: at most one process that is not gone moves on. -/
theorem step_stage {action : Action ι} (moved : step plan state action = some next) :
    (∀ j, (next.instances j).stage = (state.instances j).stage) ∨
      ∃ i stage, (state.instances i).stage ≠ .gone ∧
        (∀ j, (next.instances j).stage = if j = i then stage else (state.instances j).stage) ∧
        (stage = .gone → next = state.ended i) := by
  cases takes_of_step moved with
  | task found stepped => exact Or.inl fun _ => rfl
  | drop found => exact Or.inl fun _ => rfl
  | @create i succeeds append docker =>
      refine Or.inl fun j => (stage_put state i _ j).trans ?_
      split
      · next same => rw [same]
      · rfl
  | @bail i bridging =>
      exact Or.inr ⟨i, _, by rw [bridging]; nofun, stage_put state i _, fun _ => rfl⟩
  | @exit i running => exact Or.inr ⟨i, _, running, stage_put state i _, fun _ => rfl⟩
  | @proceed i platform rest creating =>
      refine Or.inr ⟨i, _, by rw [creating]; nofun, stage_put state i _, fun gone => ?_⟩
      cases rest <;> cases gone
  | discover stage | skip stage built | add stage built | prepare stage | inspect stage
  | interrupt stage | clean stage member | remove stage =>
      exact Or.inr ⟨_, _, by rw [stage]; nofun, stage_put state _ _, nofun⟩

/-- A process that is gone stays so. -/
theorem step_gone {action : Action ι} (moved : step plan state action = some next) {i : ι}
    (gone : (state.instances i).stage = .gone) : (next.instances i).stage = .gone := by
  rcases step_stage moved with same | ⟨j, stage, running, same, -⟩
  · rw [same, gone]
  · have different : i ≠ j := fun equal => running (equal ▸ gone)
    rw [same, if_neg different, gone]

theorem ended_gone (state : State ι curve) (i : ι) :
    ((state.ended i).instances i).stage = .gone :=
  (stage_put state i _ i).trans (if_pos rfl)

/-- The tasks of a process that is gone have ended. -/
def State.Reaped (state : State ι curve) : Prop :=
  ∀ (index : Nat) i task, state.tasks[index]? = some (i, task) →
    (state.instances i).stage = .gone → task.phase = .exited

/-- When a process is ended, so are its tasks. -/
theorem State.Reaped.ended (reaped : state.Reaped) (i : ι) : (state.ended i).Reaped := by
  intro index j task found gone
  rw [State.ended, getElem?_map_endTask] at found
  obtain ⟨⟨owner, before⟩, held, ends⟩ := Option.map_eq_some_iff.mp found
  by_cases own : owner = i
  · rw [own, endTask_self] at ends
    cases ends
    rfl
  · rw [endTask, if_neg own] at ends
    cases ends
    have stage := stage_put state i { state.instances i with stage := .gone } j
    rw [if_neg own] at stage
    exact reaped index j task held (stage.symm.trans gone)

/-- No step leaves a task behind without its process. -/
theorem State.Reaped.step {action : Action ι} (reaped : state.Reaped)
    (moved : Host.step plan state action = some next) : next.Reaped := by
  have left : ∀ (index : Nat) i task, next.tasks[index]? = some (i, task) →
      (state.instances i).stage = .gone → task.phase = .exited := by
    intro index i task found gone
    rcases step_fresh moved found with ⟨before, held, -⟩ | ⟨platform, rest, -, stage, -⟩
    · obtain ⟨after, kept, -, settles, -⟩ := step_kept moved held
      cases found.symm.trans kept
      exact settles.1 (reaped index i before held gone)
    · rw [gone] at stage
      cases stage
  rcases step_stage moved with same | ⟨j, stage, -, same, ended⟩
  · exact fun index i task found gone => left index i task found (same i ▸ gone)
  · by_cases leaves : stage = .gone
    · rw [ended leaves]
      exact reaped.ended j
    · intro index i task found gone
      rw [same] at gone
      split at gone
      · exact (leaves gone).elim
      · exact left index i task found gone

/-- In every reachable state the tasks of processes that are gone have ended. -/
theorem State.Reaped.of_reachable {before : SocketDir String Empty} {known : String → Bool}
    (reached : Transition.Reachable (Host.step plan) (.initial before known) state) :
    state.Reaped :=
  reached.invariant (motive := State.Reaped) (fun _ _ _ reaped moved => reaped.step moved)
    fun index i task found => by cases found

/-- A step that removes nothing at the path leaves a socket there. -/
theorem step_socket_kept {action : Action ι} (moved : step plan state action = some next)
    {path : String} {index : Nat} (socket : state.dir path = some (.socket index))
    (spared : ¬ state.Unlinks path action) : next.dir path = some (.socket index) := by
  rcases step_dir moved with
    same | ⟨other, unlinks, same⟩ | ⟨place, i, task, -, -, -, bound⟩
  · rw [same, socket]
  · have different : path ≠ other := fun equal => spared (equal ▸ unlinks)
    rw [same, SocketDir.unlink_of_ne _ different, socket]
  · obtain ⟨-, free, same⟩ := SocketDir.bind_eq_some.mp bound
    have different : path ≠ task.bridge.socketPath := by
      intro equal
      rw [equal, free] at socket
      cases socket
    rw [same, Function.update_of_ne different, socket]

/-- A socket that was not there before has been bound by the task it belongs to. -/
theorem step_socket_fresh {action : Action ι} (moved : step plan state action = some next)
    {path : String} {index : Nat} (socket : next.dir path = some (.socket index)) :
    state.dir path = some (.socket index) ∨
      ∃ i task, action = .task index ∧ state.tasks[index]? = some (i, task) ∧
        task.phase = .unlinked ∧ task.bridge.socketPath = path ∧
        (plan i).setup.accepts path = true ∧ state.dir path = none := by
  rcases step_dir moved with
    same | ⟨other, -, same⟩ | ⟨place, i, task, own, found, phase, bound⟩
  · exact Or.inl (same ▸ socket)
  · by_cases equal : path = other
    · subst equal
      rw [same] at socket
      exact (SocketDir.unlink_ne_socket _ _ _ socket).elim
    · rw [same, SocketDir.unlink_of_ne _ equal] at socket
      exact Or.inl socket
  · obtain ⟨accepted, free, same⟩ := SocketDir.bind_eq_some.mp bound
    rw [same] at socket
    rcases Transition.update_eq_some.mp socket with ⟨rfl, placed⟩ | ⟨-, old⟩
    · cases placed
      exact Or.inr ⟨i, task, own, found, phase, rfl, accepted, free⟩
    · exact Or.inl old

/-- No step blocks a path or frees a blocked one. -/
theorem step_blocked {action : Action ι} (moved : step plan state action = some next)
    (path : String) : next.dir.blocked path = state.dir.blocked path := by
  rcases step_dir moved with same | ⟨other, -, same⟩ | ⟨place, i, task, -, -, -, bound⟩
  · rw [same]
  · rw [same, SocketDir.blocked_unlink]
  · exact SocketDir.blocked_bind bound path

omit [DecidableEq ι] in
/-- A path leads to a process where its socket is that of a listening task of the process.
-/
theorem listener_eq_some {path : String} {index : Nat} {i : ι} :
    state.listener path = some (index, i) ↔
      state.dir path = some (.socket index) ∧
        ∃ task, state.tasks[index]? = some (i, task) ∧ task.phase = .listening := by
  unfold State.listener
  constructor
  · intro found
    split at found
    · next place socket =>
        split at found
        · next j bridge held =>
            obtain ⟨rfl, rfl⟩ := Prod.mk.inj (Option.some.inj found)
            exact ⟨socket, _, held, rfl⟩
        · cases found
    · cases found
  · intro both
    obtain ⟨socket, ⟨bridge, phase⟩, found, rfl⟩ := both
    simp only [socket, found]

/-- A listener goes on unless its task is moved or its socket is removed. -/
theorem step_listener_kept {action : Action ι} (moved : step plan state action = some next)
    {path : String} {index : Nat} {i : ι} (serves : state.listener path = some (index, i))
    (spared : ¬ state.Unlinks path action) (unmoved : ¬ Moves index i action) :
    next.listener path = some (index, i) := by
  obtain ⟨socket, task, found, listening⟩ := listener_eq_some.mp serves
  obtain ⟨after, kept, -, -, same | moves⟩ := step_kept moved found
  · exact listener_eq_some.mpr ⟨step_socket_kept moved socket spared, after, kept, same ▸ listening⟩
  · exact (unmoved moves).elim

/-- A process that ends once more changes nothing. -/
theorem ended_of_gone (reaped : state.Reaped) {i : ι} (gone : (state.instances i).stage = .gone) :
    state.ended i = state := by
  have tasks : state.tasks.map (endTask i) = state.tasks := by
    refine (List.map_congr_left fun spawned member => ?_).trans (List.map_id _)
    obtain ⟨index, found⟩ := List.mem_iff_getElem?.mp member
    obtain ⟨owner, bridge, phase⟩ := spawned
    by_cases own : owner = i
    · subst own
      obtain rfl := reaped index owner ⟨bridge, phase⟩ found gone
      exact endTask_self owner _
    · exact if_neg own
  have process : { state.instances i with stage := .gone } = state.instances i := by
    rw [← gone]
  rw [State.ended, State.enter, process, State.put, Function.update_eq_self, tasks]

/-- Ending a process leads from a reachable state to a reachable one. -/
theorem ended_reachable {before : SocketDir String Empty} {known : String → Bool}
    (reached : Transition.Reachable (step plan) (.initial before known) state) (i : ι) :
    Transition.Reachable (step plan) (.initial before known) (state.ended i) := by
  by_cases gone : (state.instances i).stage = .gone
  · rwa [ended_of_gone (.of_reachable reached) gone]
  · have moved : step plan state (.exit i) = some (state.ended i) := by
      rw [step, if_neg gone]
    exact reached.snoc moved

end Step

end Host

end OrbitBuild
