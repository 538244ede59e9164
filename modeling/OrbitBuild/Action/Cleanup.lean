import OrbitBuild.Action.Sockets
import OrbitBuild.Host.Residue

/-! # The clean-up of the GitHub Action

The post script removes the builder, kills Mission Control and unlinks the sockets, in
this order. The steps are interleaved with those of the Mission Control that the job
has started, wherever it is, and of a `docker buildx create` it has under way.
-/

namespace OrbitBuild

universe u

variable {ι : Type u} [DecidableEq ι] {curve : Curve}

namespace Cleanup

open OrbitBuild.Action (cleanupSockets)

/-- What the main script has saved for the clean-up. -/
structure Job (ι : Type u) where
  missionControl : ι
  builderName : String
  platforms : String

/-- `core.getState("builder_name") || "orbit"`. -/
def Job.builder (job : Job ι) : String :=
  if job.builderName = "" then "orbit" else job.builderName

inductive Phase
  /-- Before the `docker buildx rm`. -/
  | removing
  | killing
  /-- The two seconds after SIGTERM. -/
  | waiting
  | unlinking (remaining : List String)
  | complete
  /-- `exec` has rejected, and the rest of `run` is skipped. -/
  | rejected
  deriving DecidableEq

structure State (ι : Type u) (curve : Curve) where
  host : Host.State ι curve
  phase : Phase

inductive Action (ι : Type u)
  | host (action : Host.Action ι)
  /-- `docker buildx rm` succeeds or fails, or docker cannot be started. -/
  | removeBuilder (outcome : Option Bool)
  | terminate
  /-- Mission Control is looked for once more, and killed if it is still there. -/
  | forceKill
  | unlink
  | finish
  deriving DecidableEq

def step (plan : ι → Host.Plan curve) (job : Job ι) (state : State ι curve) :
    Action ι → Option (State ι curve)
  | .host action =>
      match Host.step plan state.host action with
      | none => none
      | some host => some { state with host := host }
  | .removeBuilder outcome =>
      match state.phase, outcome with
      | .removing, none => some { state with phase := .rejected }
      | .removing, some true =>
          some ⟨{ state.host with
            builders := Function.update state.host.builders job.builder none }, .killing⟩
      -- The exit code is ignored.
      | .removing, some false => some { state with phase := .killing }
      | _, _ => none
  | .terminate =>
      match state.phase with
      | .killing =>
          -- The signal to a process that is gone throws, and the wait is skipped.
          if (state.host.instances job.missionControl).stage = .gone then
            some { state with phase := .unlinking (cleanupSockets job.platforms) }
          else some ⟨state.host.ended job.missionControl, .waiting⟩
      | _ => none
  | .forceKill =>
      match state.phase with
      | .waiting =>
          some ⟨state.host.ended job.missionControl, .unlinking (cleanupSockets job.platforms)⟩
      | _ => none
  | .unlink =>
      match state.phase with
      | .unlinking (path :: rest) =>
          some ⟨{ state.host with dir := state.host.dir.unlink path }, .unlinking rest⟩
      | _ => none
  | .finish =>
      match state.phase with
      | .unlinking [] => some { state with phase := .complete }
      | _ => none

/-- `run` is over, with or without an exception. -/
def State.Over (state : State ι curve) : Prop := state.phase = .complete ∨ state.phase = .rejected

/-- Mission Control is gone, and with it its builder. -/
def State.CleanedUp (job : Job ι) (state : State ι curve) : Prop :=
  (state.host.instances job.missionControl).stage = .gone ∧
    state.host.builders job.builder ≠ some (.created job.missionControl)

/-- Docker can be started and removes the builder if it is Mission Control's, and no
`docker buildx create` of Mission Control makes it again afterwards. -/
def Orderly (plan : ι → Host.Plan curve) (job : Job ι) (state : State ι curve) : Action ι → Prop
  | .removeBuilder none => state.CleanedUp job
  | .removeBuilder (some false) =>
      state.host.builders job.builder ≠ some (.created job.missionControl)
  | .host (.create i true) => state.phase ≠ .removing → i = job.missionControl →
      (plan i).builderName = job.builder → (state.host.instances i).docker = some false →
        state.host.builders job.builder ≠ none
  | _ => True

/-- What the steps taken so far have achieved. -/
structure State.Progress (job : Job ι) (state : State ι curve) : Prop where
  removed : state.phase ≠ .removing →
    state.host.builders job.builder ≠ some (.created job.missionControl)
  stopped : state.phase ≠ .removing → state.phase ≠ .killing →
    (state.host.instances job.missionControl).stage = .gone

section Run

variable {plan : ι → Host.Plan curve} {job : Job ι} {state next : State ι curve}

/-- A step of a process makes no builder of Mission Control's unless it is the
`docker buildx create` of Mission Control. -/
theorem not_created_of_host {action : Host.Action ι} {host : Host.State ι curve}
    (moved : Host.step plan state.host action = some host) (active : state.phase ≠ .removing)
    (orderly : Orderly plan job state (.host action))
    (absent : state.host.builders job.builder ≠ some (.created job.missionControl)) :
    host.builders job.builder ≠ some (.created job.missionControl) := by
  rcases Host.step_builders moved with same | ⟨i, rfl, docker, free, same⟩ | ⟨i, -, same⟩
  · rwa [same]
  · intro created
    rw [same] at created
    rcases Transition.update_eq_some.mp created with ⟨own, made⟩ | ⟨-, old⟩
    · cases made
      rw [← own] at free
      exact orderly active rfl own.symm docker free
    · exact absent old
  · intro created
    rw [same] at created
    rcases Transition.update_eq_some.mp created with ⟨-, removed⟩ | ⟨-, old⟩
    · cases removed
    · exact absent old

/-- An orderly step undoes nothing that the script has achieved. -/
theorem State.Progress.step {action : Action ι} (progress : state.Progress job)
    (orderly : Orderly plan job state action)
    (moved : Cleanup.step plan job state action = some next) : next.Progress job := by
  cases action with
  | host inner =>
      simp only [Cleanup.step] at moved
      split at moved
      · cases moved
      · next host stepped =>
          cases moved
          refine ⟨fun active => ?_, fun active later => ?_⟩
          · exact not_created_of_host stepped active orderly (progress.removed active)
          · exact Host.step_gone stepped (progress.stopped active later)
  | removeBuilder outcome =>
      simp only [Cleanup.step] at moved
      split at moved
      · cases moved
        exact ⟨fun _ => orderly.2, fun _ _ => orderly.1⟩
      · cases moved
        refine ⟨fun _ created => ?_, fun _ later => (later rfl).elim⟩
        cases (Function.update_self job.builder _ state.host.builders).symm.trans created
      · cases moved
        exact ⟨fun _ => orderly, fun _ later => (later rfl).elim⟩
      · cases moved
  | terminate =>
      simp only [Cleanup.step] at moved
      split at moved
      · next phase =>
          have removed := progress.removed (by simp [phase])
          split at moved
          · next gone =>
              cases moved
              exact ⟨fun _ => removed, fun _ _ => gone⟩
          · cases moved
            exact ⟨fun _ => removed, fun _ _ => Host.ended_gone _ _⟩
      · cases moved
  | forceKill =>
      simp only [Cleanup.step] at moved
      split at moved
      · next phase =>
          cases moved
          exact ⟨fun _ => progress.removed (by simp [phase]), fun _ _ => Host.ended_gone _ _⟩
      · cases moved
  | unlink =>
      simp only [Cleanup.step] at moved
      split at moved
      · next path rest phase =>
          cases moved
          exact ⟨fun _ => progress.removed (by simp [phase]),
            fun _ _ => progress.stopped (by simp [phase]) (by simp [phase])⟩
      · cases moved
  | finish =>
      simp only [Cleanup.step] at moved
      split at moved
      · next phase =>
          cases moved
          exact ⟨fun _ => progress.removed (by simp [phase]),
            fun _ _ => progress.stopped (by simp [phase]) (by simp [phase])⟩
      · cases moved

/-- **The clean-up.** When an orderly run is over, Mission Control is gone, and so is the
builder it has created. -/
theorem orderly_cleanedUp (plan : ι → Host.Plan curve) (job : Job ι) (host : Host.State ι curve)
    (actions : List (Action ι)) (state : State ι curve)
    (ran : Transition.run (Cleanup.step plan job) ⟨host, .removing⟩ actions = some state)
    (orderly : Transition.Meets (Cleanup.step plan job) (Orderly plan job) ⟨host, .removing⟩
      actions) (stopped : state.Over) : state.CleanedUp job := by
  have progress : state.Progress job :=
    Transition.run_invariant_of_meets (fun _ _ _ holds allowed moved => holds.step allowed moved)
      ⟨fun active => (active rfl).elim, fun active => (active rfl).elim⟩ orderly ran
  rcases stopped with phase | phase
  · exact ⟨progress.stopped (by simp [phase]) (by simp [phase]),
      progress.removed (by simp [phase])⟩
  · exact ⟨progress.stopped (by simp [phase]) (by simp [phase]),
      progress.removed (by simp [phase])⟩

end Run

/-- The job of a Mission Control for one platform. -/
def amd64Job : Job Bool := ⟨true, "orbit", "linux/amd64"⟩

omit [DecidableEq ι] in
/-- As long as the builder is not removed, the processes may take any step. -/
theorem orderly_of_removing {plan : ι → Host.Plan curve} {job : Job ι} {state : State ι curve}
    (phase : state.phase = .removing) (action : Host.Action ι) :
    Orderly plan job state (.host action) := by
  unfold Orderly
  split
  · next same => cases same
  · next same => cases same
  · next i same => exact fun active => (active phase).elim
  · trivial

/-- Mission Control gets ready, and then the job ends. -/
def readyJob : List (Action Bool) :=
  [.host (.discover true), .host (.add true), .host (.task 0), .host (.task 0),
    .host (.prepare true ["linux/amd64"]), .host (.inspect true false), .host (.create true true),
    .host (.proceed true), .removeBuilder (some true), .terminate, .forceKill, .unlink, .finish]

theorem readyJob_cleanedUp :
    ∃ state, Transition.Reachable (step (fun _ => Host.amd64Plan) amd64Job)
        ⟨.initial (fun _ => none) fun _ => false, .removing⟩ state ∧
      state.phase = .complete ∧ state.CleanedUp amd64Job := by
  refine ⟨_, ⟨readyJob, rfl⟩, rfl, orderly_cleanedUp (fun _ => Host.amd64Plan) amd64Job
    (.initial (fun _ => none) fun _ => false) readyJob _ rfl ?_ (Or.inl rfl)⟩
  exact ⟨orderly_of_removing rfl _, orderly_of_removing rfl _, orderly_of_removing rfl _,
    orderly_of_removing rfl _, orderly_of_removing rfl _, orderly_of_removing rfl _,
    orderly_of_removing rfl _, orderly_of_removing rfl _, trivial, trivial, trivial, trivial,
    trivial, trivial⟩

/-- The builder is made after its removal, before Mission Control is killed; and without
docker Mission Control is not killed at all. -/
theorem interrupted_leftBehind :
    (∃ state, Transition.Reachable (step (fun _ : Bool => Host.amd64Plan) amd64Job)
        ⟨.initial (fun _ => none) fun _ => false, .removing⟩ state ∧
      state.phase = .complete ∧ ¬ state.CleanedUp amd64Job) ∧
    ∃ state, Transition.Reachable (step (fun _ : Bool => Host.amd64Plan) amd64Job)
        ⟨.initial (fun _ => none) fun _ => false, .removing⟩ state ∧
      state.phase = .rejected ∧ ¬ state.CleanedUp amd64Job := by
  constructor
  · exact ⟨_, ⟨[.host (.discover true), .host (.add true), .host (.prepare true ["linux/amd64"]),
      .host (.inspect true false), .removeBuilder (some false), .host (.create true true),
      .terminate, .forceKill, .unlink, .finish], rfl⟩, rfl, fun cleaned => cleaned.2 rfl⟩
  · exact ⟨_, ⟨[.removeBuilder none], rfl⟩, rfl, fun cleaned => nomatch cleaned.1⟩

end Cleanup

end OrbitBuild
