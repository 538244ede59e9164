import OrbitBuild.Action.Cleanup
import OrbitBuild.MissionControl.Buildx

/-! # Jobs that use the GitHub Action

Any number of jobs run on one host. The main script of a job starts a Mission Control and
waits for its sockets; whatever has become of it, the post script runs at the end of the
job and knows what the main script has saved. The steps of all scripts, of the
`orbitbuild status` they run and of all Mission Controls are interleaved.
-/

namespace OrbitBuild

universe u

variable {ι : Type u} [DecidableEq ι] {curve : Curve}

namespace Workflow

/-- The inputs as they are given. One that is not given is the empty text. -/
structure Inputs where
  rawBeacon : String
  rawPlatforms : String

/-- What `core.getInput` returns for the beacon. -/
def Inputs.beacon (inputs : Inputs) : String := OrbitBuild.Action.trim inputs.rawBeacon

/-- What `core.getInput` returns for the platforms. -/
def Inputs.platforms (inputs : Inputs) : String := OrbitBuild.Action.trim inputs.rawPlatforms

/-- What `core.saveState` has kept for the post script. -/
structure Saved where
  platforms : String
  builderName : String
  /-- Whether the pid of the Mission Control is there. -/
  mcPid : Bool

inductive Phase
  | reading
  /-- `installOrbitbuild` is awaited. -/
  | installing
  /-- The binary is there. -/
  | starting
  /-- `orbitbuild status --wait` polls the sockets. -/
  | polling
  /-- Its last pass: the paths it has not come to, and whether the others were alive. -/
  | checking (remaining : List String) (allReady : Bool)
  | linked
  /-- `core.setFailed` has been called with this message. -/
  | failed (message : String)
  /-- The post script. -/
  | cleaning (phase : Cleanup.Phase)

structure Job where
  phase : Phase
  saved : Saved
  /-- What has been handed to `core.setSecret`. -/
  secrets : List String
  /-- Whether the Mission Control has been spawned. -/
  started : Bool
  /-- The builder and the platforms that are the outputs. -/
  outputs : Option (String × String)

structure State (ι : Type u) (curve : Curve) where
  host : Host.State ι curve
  jobs : ι → Job

inductive Action (ι : Type u)
  | host (action : Host.Action ι)
  | read (i : ι)
  | install (i : ι) (error : Option String)
  | spawn (i : ι) (error : Option String)
  /-- The polling is over, because all sockets are alive or it is out of time. -/
  | poll (i : ι)
  | check (i : ι)
  /-- The status command ends with code zero. -/
  | succeed (i : ι)
  /-- The status command ends with another code, or is killed. -/
  | fail (i : ι) (stderr : String)
  /-- The status command cannot be run. -/
  | reject (i : ι) (error : String)
  | post (i : ι)
  | clean (i : ι) (action : Cleanup.Action ι)

/-- The message of `waitForReadiness`. -/
def notReady (stderr : String) : String :=
  "Bridge sockets not ready after 60s. Mission Control may have failed to connect.\n" ++ stderr

/-- No job has begun. -/
def initial (before : SocketDir String Empty) (known : String → Bool) : State ι curve :=
  ⟨.initial before known, fun _ => ⟨.reading, ⟨"", "", false⟩, [], false, none⟩⟩

def State.put (state : State ι curve) (i : ι) (job : Job) : State ι curve :=
  { state with jobs := Function.update state.jobs i job }

/-- The job goes on to another phase. -/
def State.enter (state : State ι curve) (i : ι) (phase : Phase) : State ι curve :=
  state.put i { state.jobs i with phase := phase }

/-- The job as the post script knows it. -/
def State.job (state : State ι curve) (i : ι) : Cleanup.Job ι :=
  ⟨i, (state.jobs i).saved.builderName, (state.jobs i).saved.platforms⟩

def step (plan : ι → Host.Plan curve) (inputs : ι → Inputs) (state : State ι curve) :
    Action ι → Option (State ι curve)
  | .host action =>
      match state.host.actor action with
      | none => none
      | some i =>
          if (state.jobs i).started then
            (Host.step plan state.host action).map fun host => { state with host := host }
          else none
  | .read i =>
      match (state.jobs i).phase with
      | .reading =>
          -- The beacon is a required input, which is tested before its blanks are dropped.
          if (inputs i).rawBeacon = "" then
            some (state.enter i (.failed "Input required and not supplied: beacon"))
          else
            some (state.put i
              { state.jobs i with
                phase := .installing
                saved := ⟨(inputs i).platforms, "orbit", false⟩
                secrets := [(inputs i).beacon] })
      | _ => none
  | .install i error =>
      match (state.jobs i).phase with
      | .installing => some (state.enter i (error.elim .starting .failed))
      | _ => none
  | .spawn i error =>
      match (state.jobs i).phase, error with
      | .starting, none =>
          some (state.put i
            { state.jobs i with
              phase := .polling
              saved := { (state.jobs i).saved with mcPid := true }
              started := true })
      -- Without a process there is no pid, and taking its text throws.
      | .starting, some error => some (state.enter i (.failed error))
      | _, _ => none
  | .poll i =>
      match (state.jobs i).phase with
      | .polling =>
          match parsePlatforms (inputs i).platforms with
          | .error _ => none
          | .ok accepted =>
              some (state.enter i
                (.checking (accepted.map (Docker.socketOf Action.socketDir)) true))
      | _ => none
  | .check i =>
      match (state.jobs i).phase with
      | .checking (path :: rest) allReady =>
          some (state.enter i (.checking rest (allReady && (state.host.listener path).isSome)))
      | _ => none
  | .succeed i =>
      match (state.jobs i).phase with
      | .checking [] true =>
          some (state.put i
            { state.jobs i with phase := .linked, outputs := some ("orbit", (inputs i).platforms) })
      | _ => none
  | .fail i stderr =>
      match (state.jobs i).phase with
      | .polling | .checking _ _ => some (state.enter i (.failed (notReady stderr)))
      | _ => none
  | .reject i error =>
      match (state.jobs i).phase with
      | .polling => some (state.enter i (.failed error))
      | _ => none
  | .post i =>
      match (state.jobs i).phase with
      | .linked | .failed _ => some (state.enter i (.cleaning .removing))
      | _ => none
  | .clean i action =>
      match (state.jobs i).phase, action with
      | .cleaning _, .host _ => none
      | .cleaning .killing, .terminate =>
          if (state.jobs i).saved.mcPid then
            (Cleanup.step plan (state.job i) ⟨state.host, .killing⟩ .terminate).map fun after =>
              { state with host := after.host }.enter i (.cleaning after.phase)
          else
            some (state.enter i
              (.cleaning (.unlinking (Action.cleanupSockets (state.jobs i).saved.platforms))))
      | .cleaning phase, action =>
          (Cleanup.step plan (state.job i) ⟨state.host, phase⟩ action).map fun after =>
            { state with host := after.host }.enter i (.cleaning after.phase)
      | _, _ => none

/-! ## What a step does -/

section Step

variable {plan : ι → Host.Plan curve} {inputs : ι → Inputs} {state next : State ι curve}

/-- A step of a process leaves every other process where it is. -/
theorem host_stage {host after : Host.State ι curve} {action : Host.Action ι}
    (moved : Host.step plan host action = some after) {j : ι} (other : host.actor action ≠ some j) :
    (after.instances j).stage = (host.instances j).stage := by
  have apart : ∀ {i : ι}, some i ≠ some j → j ≠ i := fun different same => different (same ▸ rfl)
  cases Host.takes_of_step moved with
  | task found stepped => rfl
  | drop found => rfl
  | discover | skip | add | bail | prepare | inspect | create | proceed | interrupt | clean
  | remove | exit =>
      exact (Host.stage_put host _ _ j).trans (if_neg (apart other))

/-- Mission Control has been sent its signal. -/
def signalled : Cleanup.Phase → Bool
  | .waiting | .unlinking _ | .complete => true
  | .removing | .killing | .rejected => false

/-- The steps that end a process are the two signals. -/
def Signals (phase : Cleanup.Phase) (action : Cleanup.Action ι) : Prop :=
  (phase = .killing ∧ action = .terminate) ∨ phase = .waiting

/-- A step of the post script ends at most the Mission Control of its job, and the signal is
sent before the sockets are removed. -/
theorem cleanup_stage {job : Cleanup.Job ι} {host : Host.State ι curve} {phase : Cleanup.Phase}
    {after : Cleanup.State ι curve} {action : Cleanup.Action ι}
    (moved : Cleanup.step plan job ⟨host, phase⟩ action = some after)
    (own : ∀ inner, action ≠ .host inner) :
    ((∀ j, (after.host.instances j).stage = (host.instances j).stage) ∨
      (after.host = host.ended job.missionControl ∧ Signals phase action)) ∧
    (signalled after.phase = true → signalled phase = true ∨
      (after.host.instances job.missionControl).stage = .gone) ∧
    (after.phase = .waiting → phase = .killing ∧ action = .terminate) := by
  cases action with
  | host inner => exact (own inner rfl).elim
  | removeBuilder outcome =>
      simp only [Cleanup.step] at moved
      split at moved <;> cases moved
      all_goals refine ⟨Or.inl fun _ => rfl, ?_, ?_⟩ <;> rintro ⟨⟩
  | terminate =>
      simp only [Cleanup.step] at moved
      split at moved
      · split at moved
        · next gone =>
            cases moved
            refine ⟨Or.inl fun _ => rfl, fun _ => Or.inr gone, ?_⟩
            rintro ⟨⟩
        · cases moved
          exact ⟨Or.inr ⟨rfl, Or.inl ⟨rfl, rfl⟩⟩, fun _ => Or.inr (Host.ended_gone host _),
            fun _ => ⟨rfl, rfl⟩⟩
      · cases moved
  | forceKill =>
      simp only [Cleanup.step] at moved
      split at moved
      · cases moved
        refine ⟨Or.inr ⟨rfl, Or.inr rfl⟩, fun _ => Or.inr (Host.ended_gone host _), ?_⟩
        rintro ⟨⟩
      · cases moved
  | unlink =>
      simp only [Cleanup.step] at moved
      split at moved
      · cases moved
        refine ⟨Or.inl fun _ => rfl, fun _ => Or.inl rfl, ?_⟩
        rintro ⟨⟩
      · cases moved
  | finish =>
      simp only [Cleanup.step] at moved
      split at moved
      · cases moved
        refine ⟨Or.inl fun _ => rfl, fun _ => Or.inl rfl, ?_⟩
        rintro ⟨⟩
      · cases moved

/-- How a job goes on by itself: the process is spawned, or nothing but its script moves. -/
inductive Advance (inputs : Inputs) (host : Host.State ι curve) (job : Job) : Job → Prop
  | read (reading : job.phase = .reading) :
      Advance inputs host job
        { job with
          phase := .installing
          saved := ⟨inputs.platforms, "orbit", false⟩
          secrets := [inputs.beacon] }
  | installed (installing : job.phase = .installing) :
      Advance inputs host job { job with phase := .starting }
  | spawned (starting : job.phase = .starting) :
      Advance inputs host job
        { job with
          phase := .polling
          saved := { job.saved with mcPid := true }
          started := true }
  | polled (polling : job.phase = .polling) {accepted : List String}
      (parsed : parsePlatforms inputs.platforms = .ok accepted) :
      Advance inputs host job
        { job with phase := .checking (accepted.map (Docker.socketOf Action.socketDir)) true }
  | checked {path : String} {rest : List String} {allReady : Bool}
      (checking : job.phase = .checking (path :: rest) allReady) :
      Advance inputs host job
        { job with phase := .checking rest (allReady && (host.listener path).isSome) }
  | linked (checking : job.phase = .checking [] true) :
      Advance inputs host job
        { job with phase := .linked, outputs := some ("orbit", inputs.platforms) }
  | failed {message : String} (unlinked : job.phase ≠ .linked)
      (main : ∀ phase, job.phase ≠ .cleaning phase) :
      Advance inputs host job { job with phase := .failed message }
  | post (ended : job.phase = .linked ∨ ∃ message, job.phase = .failed message) :
      Advance inputs host job { job with phase := .cleaning .removing }
  | nothingToKill (killing : job.phase = .cleaning .killing) (unsaved : job.saved.mcPid = false) :
      Advance inputs host job
        { job with phase := .cleaning (.unlinking (Action.cleanupSockets job.saved.platforms)) }

omit [DecidableEq ι] in
/-- The main script can fail in each of its phases but the last. -/
theorem Advance.fails {inputs : Inputs} {host : Host.State ι curve} {job : Job} {phase : Phase}
    (reached : job.phase = phase) (unlinked : phase ≠ .linked)
    (main : ∀ cleaning, phase ≠ .cleaning cleaning) (message : String) :
    Advance inputs host job { job with phase := .failed message } := by
  subst reached
  exact .failed unlinked main

/-- A step is one of a process that has been spawned, of a job by itself, or of a post
script on the host. -/
inductive Takes (plan : ι → Host.Plan curve) (inputs : ι → Inputs) (state : State ι curve) :
    Action ι → State ι curve → Prop
  | host {action : Host.Action ι} {i : ι} {host : Host.State ι curve}
      (actor : state.host.actor action = some i) (started : (state.jobs i).started = true)
      (moved : Host.step plan state.host action = some host) :
      Takes plan inputs state (.host action) { state with host := host }
  | job {action : Action ι} {i : ι} {job : Job}
      (advance : Advance (inputs i) state.host (state.jobs i) job) :
      Takes plan inputs state action (state.put i job)
  | clean {action : Cleanup.Action ι} {i : ι} {phase : Cleanup.Phase}
      {after : Cleanup.State ι curve} (cleaning : (state.jobs i).phase = .cleaning phase)
      (own : ∀ inner, action ≠ .host inner)
      (known : phase = .killing → action = .terminate → (state.jobs i).saved.mcPid = true)
      (moved : Cleanup.step plan (state.job i) ⟨state.host, phase⟩ action = some after) :
      Takes plan inputs state (.clean i action)
        ({ state with host := after.host }.enter i (.cleaning after.phase))

/-- Each step of the code is one of those listed. -/
theorem takes_of_step {action : Action ι} (moved : step plan inputs state action = some next) :
    Takes plan inputs state action next := by
  cases action with
  | host action =>
      simp only [step] at moved
      split at moved
      · cases moved
      · next i actor =>
          obtain ⟨started, mapped⟩ := Option.ite_none_right_eq_some.mp moved
          obtain ⟨host, stepped, rfl⟩ := Option.map_eq_some_iff.mp mapped
          exact .host actor started stepped
  | read i =>
      simp only [step] at moved
      split at moved
      · next reading =>
          split at moved
          · cases moved
            exact .job (.fails reading nofun nofun _)
          · cases moved
            exact .job (.read reading)
      · cases moved
  | install i error =>
      simp only [step] at moved
      split at moved
      · next installing =>
          cases moved
          cases error with
          | none => exact .job (.installed installing)
          | some error =>
              exact .job (.fails installing nofun nofun _)
      · cases moved
  | spawn i error =>
      simp only [step] at moved
      split at moved
      · next starting =>
          cases moved
          exact .job (.spawned starting)
      · next starting =>
          cases moved
          exact .job (.fails starting nofun nofun _)
      · cases moved
  | poll i =>
      simp only [step] at moved
      split at moved
      · next polling =>
          split at moved
          · cases moved
          · next accepted parsed =>
              cases moved
              exact .job (.polled polling parsed)
      · cases moved
  | check i =>
      simp only [step] at moved
      split at moved
      · next checking =>
          cases moved
          exact .job (.checked checking)
      · cases moved
  | succeed i =>
      simp only [step] at moved
      split at moved
      · next checking =>
          cases moved
          exact .job (.linked checking)
      · cases moved
  | fail i stderr =>
      simp only [step] at moved
      split at moved
      · next polling =>
          cases moved
          exact .job (.fails polling nofun nofun _)
      · next checking =>
          cases moved
          exact .job (.fails checking nofun nofun _)
      · cases moved
  | reject i error =>
      simp only [step] at moved
      split at moved
      · next polling =>
          cases moved
          exact .job (.fails polling nofun nofun _)
      · cases moved
  | post i =>
      simp only [step] at moved
      split at moved
      · next linked =>
          cases moved
          exact .job (.post (Or.inl linked))
      · next message failed =>
          cases moved
          exact .job (.post (Or.inr ⟨message, failed⟩))
      · cases moved
  | clean i action =>
      simp only [step] at moved
      split at moved
      · cases moved
      · next killing =>
          split at moved
          · next saved =>
              obtain ⟨after, stepped, rfl⟩ := Option.map_eq_some_iff.mp moved
              exact .clean killing nofun (fun _ _ => saved) stepped
          · next unsaved =>
              cases moved
              exact .job (.nothingToKill killing (Bool.eq_false_iff.mpr unsaved))
      · next phase cleaning foreign other =>
          obtain ⟨after, stepped, rfl⟩ := Option.map_eq_some_iff.mp moved
          exact .clean cleaning foreign (fun killing signal => (other signal killing).elim) stepped
      · cases moved

end Step

/-! ## What holds of every job -/

/-- The main script has not come to the spawn. -/
def Phase.early : Phase → Bool
  | .reading | .installing | .starting => true
  | _ => false

/-- The main script waits for the sockets, or has found them alive. -/
def Phase.waits : Phase → Bool
  | .polling | .checking _ _ | .linked => true
  | _ => false

/-- What the script of a job has done so far fits where its Mission Control is. -/
structure Job.Sound (inputs : Inputs) (stage : Host.Stage) (job : Job) : Prop where
  saved : job.saved.mcPid = job.started
  early : job.phase.early = true → job.started = false
  waits : job.phase.waits = true → job.started = true
  masked : job.started = true ∨ job.phase = .installing ∨ job.phase = .starting →
    inputs.beacon ∈ job.secrets
  outputs : ∀ outputs, job.outputs = some outputs →
    job.started = true ∧ (job.phase = .linked ∨ ∃ phase, job.phase = .cleaning phase)
  linked : job.phase = .linked → job.outputs = some ("orbit", inputs.platforms)
  stopped : ∀ phase, job.phase = .cleaning phase → signalled phase = true →
    job.started = true → stage = .gone
  signals : job.phase = .cleaning .waiting → job.started = true
  idle : job.started = false → stage = .starting

section Sound

variable {plan : ι → Host.Plan curve} {inputs : ι → Inputs} {state next : State ι curve}

omit [DecidableEq ι] in
/-- A step of a main script keeps its job sound. -/
theorem Job.Sound.advance {input : Inputs} {host : Host.State ι curve} {stage : Host.Stage}
    {job after : Job} (sound : job.Sound input stage) (advance : Advance input host job after) :
    after.Sound input stage := by
  have silent : job.phase ≠ .linked → (∀ phase, job.phase ≠ .cleaning phase) →
      ∀ outputs, job.outputs ≠ some outputs := by
    intro unlinked main outputs same
    rcases (sound.outputs outputs same).2 with linked | ⟨phase, cleaning⟩
    · exact unlinked linked
    · exact main phase cleaning
  cases advance with
  | read reading =>
      have fresh := silent (by rw [reading]; nofun) (by rw [reading]; nofun)
      have unspawned := sound.early (by rw [reading]; rfl)
      exact ⟨unspawned.symm, fun _ => unspawned, nofun, fun _ => List.mem_cons_self,
        fun outputs same => (fresh outputs same).elim, nofun, nofun, nofun, sound.idle⟩
  | installed installing =>
      have fresh := silent (by rw [installing]; nofun) (by rw [installing]; nofun)
      have unspawned := sound.early (by rw [installing]; rfl)
      exact ⟨sound.saved, fun _ => unspawned, nofun,
        fun _ => sound.masked (Or.inr (Or.inl installing)),
        fun outputs same => (fresh outputs same).elim, nofun, nofun, nofun, sound.idle⟩
  | spawned starting =>
      have fresh := silent (by rw [starting]; nofun) (by rw [starting]; nofun)
      exact ⟨rfl, nofun, fun _ => rfl, fun _ => sound.masked (Or.inr (Or.inr starting)),
        fun outputs same => (fresh outputs same).elim, nofun, nofun, nofun, nofun⟩
  | polled polling parsed =>
      have fresh := silent (by rw [polling]; nofun) (by rw [polling]; nofun)
      have started := sound.waits (by rw [polling]; rfl)
      exact ⟨sound.saved, nofun, fun _ => started, fun _ => sound.masked (Or.inl started),
        fun outputs same => (fresh outputs same).elim, nofun, nofun, nofun, sound.idle⟩
  | checked checking =>
      have fresh := silent (by rw [checking]; nofun) (by rw [checking]; nofun)
      have started := sound.waits (by rw [checking]; rfl)
      exact ⟨sound.saved, nofun, fun _ => started, fun _ => sound.masked (Or.inl started),
        fun outputs same => (fresh outputs same).elim, nofun, nofun, nofun, sound.idle⟩
  | linked checking =>
      have started := sound.waits (by rw [checking]; rfl)
      exact ⟨sound.saved, nofun, fun _ => started, fun _ => sound.masked (Or.inl started),
        fun _ _ => ⟨started, Or.inl rfl⟩, fun _ => rfl, nofun, nofun, sound.idle⟩
  | failed unlinked main =>
      have fresh := silent unlinked main
      refine ⟨sound.saved, nofun, nofun, ?_, fun outputs same => (fresh outputs same).elim, nofun,
        nofun, nofun, sound.idle⟩
      rintro (started | ⟨⟨⟩⟩ | ⟨⟨⟩⟩)
      exact sound.masked (Or.inl started)
  | post ended =>
      refine ⟨sound.saved, nofun, nofun, ?_, ?_, nofun, ?_, nofun, sound.idle⟩
      · rintro (started | ⟨⟨⟩⟩ | ⟨⟨⟩⟩)
        exact sound.masked (Or.inl started)
      · intro outputs same
        exact ⟨(sound.outputs outputs same).1, Or.inr ⟨_, rfl⟩⟩
      · intro phase same signal
        cases same
        cases signal
  | nothingToKill killing unsaved =>
      have unspawned : job.started = false := sound.saved.symm.trans unsaved
      refine ⟨sound.saved, nofun, nofun, ?_, ?_, nofun, ?_, nofun, sound.idle⟩
      · rintro (started | ⟨⟨⟩⟩ | ⟨⟨⟩⟩)
        exact sound.masked (Or.inl started)
      · intro outputs same
        exact ⟨(sound.outputs outputs same).1, Or.inr ⟨_, rfl⟩⟩
      · intro phase _ _ started
        cases unspawned.symm.trans started

omit [DecidableEq ι] in
/-- A job stays sound when its process is not brought back, nor moved unspawned. -/
theorem Job.Sound.of_stage {input : Inputs} {before stage : Host.Stage} {job : Job}
    (sound : job.Sound input before) (kept : before = .gone → stage = .gone)
    (still : job.started = false → stage = before) : job.Sound input stage :=
  ⟨sound.saved, sound.early, sound.waits, sound.masked, sound.outputs, sound.linked,
    fun phase cleaning signal started => kept (sound.stopped phase cleaning signal started),
    sound.signals, fun unspawned => (still unspawned).trans (sound.idle unspawned)⟩

def State.Sound (inputs : ι → Inputs) (state : State ι curve) : Prop :=
  ∀ i, (state.jobs i).Sound (inputs i) (state.host.instances i).stage

/-- Ending one process brings none back. -/
theorem ended_stage (host : Host.State ι curve) (i : ι) {j : ι}
    (gone : (host.instances j).stage = .gone) : ((host.ended i).instances j).stage = .gone := by
  refine (Host.stage_put host i _ j).trans ?_
  split
  · rfl
  · exact gone

omit [DecidableEq ι] in
/-- The post script signals only a Mission Control that has been spawned. -/
theorem State.Sound.spawned (sound : state.Sound inputs) {i : ι} {phase : Cleanup.Phase}
    {action : Cleanup.Action ι} (cleaning : (state.jobs i).phase = .cleaning phase)
    (known : phase = .killing → action = .terminate → (state.jobs i).saved.mcPid = true)
    (signals : Signals phase action) : (state.jobs i).started = true := by
  rcases signals with ⟨killing, terminate⟩ | waiting
  · rw [← (sound i).saved]
    exact known killing terminate
  · apply (sound i).signals
    rw [cleaning, waiting]

/-- Every step keeps all jobs sound. -/
theorem State.Sound.step {action : Action ι} (sound : state.Sound inputs)
    (moved : Workflow.step plan inputs state action = some next) : next.Sound inputs := by
  cases takes_of_step moved with
  | @host _ i _ actor started stepped =>
      intro j
      refine (sound j).of_stage (Host.step_gone stepped) fun unspawned => host_stage stepped ?_
      rw [actor]
      rintro ⟨⟩
      cases unspawned.symm.trans started
  | @job _ i job advance =>
      intro j
      simp only [State.put]
      by_cases same : j = i
      · subst same
        rw [Function.update_self]
        exact (sound j).advance advance
      · rw [Function.update_of_ne same]
        exact sound j
  | @clean _ i phase after cleaning own known stepped =>
      obtain ⟨stages, signal, waits⟩ := cleanup_stage stepped own
      have kept : ∀ j, (state.jobs j).Sound (inputs j) (after.host.instances j).stage := by
        intro j
        rcases stages with same | ⟨ended, signals⟩
        · rw [same]
          exact sound j
        · have started := sound.spawned cleaning known signals
          rw [ended]
          refine (sound j).of_stage (ended_stage state.host _) fun unspawned => ?_
          refine (Host.stage_put state.host _ _ j).trans (if_neg ?_)
          rintro rfl
          cases unspawned.symm.trans started
      intro j
      simp only [State.enter, State.put]
      by_cases same : j = i
      · subst same
        rw [Function.update_self]
        have before := kept j
        refine ⟨before.saved, nofun, nofun, ?_, ?_, nofun, ?_, ?_, before.idle⟩
        · rintro (started | ⟨⟨⟩⟩ | ⟨⟨⟩⟩)
          exact before.masked (Or.inl started)
        · intro outputs given
          exact ⟨(before.outputs outputs given).1, Or.inr ⟨_, rfl⟩⟩
        · intro reached same signalled started
          cases same
          rcases signal signalled with earlier | gone
          · exact before.stopped phase cleaning earlier started
          · exact gone
        · intro same
          exact sound.spawned cleaning known (Or.inl (waits (Phase.cleaning.inj same)))
      · rw [Function.update_of_ne same]
        exact kept j

/-- In every reachable state all jobs are sound. -/
theorem State.Sound.of_reachable {before : SocketDir String Empty} {known : String → Bool}
    (reached : Transition.Reachable (Workflow.step plan inputs) (Workflow.initial before known)
      state) : state.Sound inputs := by
  refine reached.invariant (fun _ _ _ sound moved => sound.step moved) fun i => ?_
  exact ⟨rfl, fun _ => rfl, nofun, by rintro (⟨⟨⟩⟩ | ⟨⟨⟩⟩ | ⟨⟨⟩⟩), nofun, nofun, nofun, nofun,
    fun _ => rfl⟩

/-- The states a run has passed through. -/
def visited (plan : ι → Host.Plan curve) (inputs : ι → Inputs) (start : State ι curve)
    (actions : List (Action ι)) : List (State ι curve) :=
  Transition.outputs (Workflow.step plan inputs) (fun state _ => [state]) start actions

/-- At some time since the spawn somebody has been listening at the path. -/
def Alive (past : List (State ι curve)) (i : ι) (path : String) : Prop :=
  ∃ earlier ∈ past, (earlier.jobs i).started = true ∧ (earlier.host.listener path).isSome

/-- The sockets of the platforms are alive, those left out excepted. -/
def Probed (inputs : ι → Inputs) (past : List (State ι curve)) (i : ι) (remaining : List String) :
    Prop :=
  ∃ accepted, parsePlatforms (inputs i).platforms = .ok accepted ∧ ∀ platform ∈ accepted,
    Docker.socketOf Action.socketDir platform ∈ remaining ∨
      Alive past i (Docker.socketOf Action.socketDir platform)

omit [DecidableEq ι] in
/-- A socket that has been found alive has been so for good. -/
theorem Probed.later {past : List (State ι curve)} {i : ι} {remaining : List String}
    (probed : Probed inputs past i remaining) (more : List (State ι curve)) :
    Probed inputs (past ++ more) i remaining := by
  obtain ⟨accepted, parsed, alive⟩ := probed
  refine ⟨accepted, parsed, fun platform member => (alive platform member).imp_right ?_⟩
  intro both
  obtain ⟨earlier, listed, serves⟩ := both
  exact ⟨earlier, List.mem_append_left _ listed, serves⟩

/-- What the status command of a job has found out so far. -/
structure Recorded (inputs : ι → Inputs) (past : List (State ι curve)) (state : State ι curve) :
    Prop where
  sound : state.Sound inputs
  checking : ∀ i remaining, (state.jobs i).phase = .checking remaining true →
    Probed inputs past i remaining
  outputs : ∀ i, (state.jobs i).outputs.isSome → Probed inputs past i []

omit [DecidableEq ι] in
/-- A check adds its path, if it is alive, and the end of the pass makes the outputs. -/
theorem Recorded.advance {past : List (State ι curve)} (recorded : Recorded inputs past state)
    {i : ι} {job : Job} (advance : Advance (inputs i) state.host (state.jobs i) job) :
    (∀ remaining, job.phase = .checking remaining true →
      Probed inputs (past ++ [state]) i remaining) ∧
      (job.outputs.isSome → Probed inputs (past ++ [state]) i []) := by
  have given : (state.jobs i).outputs.isSome → Probed inputs (past ++ [state]) i [] :=
    fun present => (recorded.outputs i present).later _
  cases advance with
  | polled polling parsed =>
      refine ⟨?_, given⟩
      intro remaining same
      cases same
      exact ⟨_, parsed, fun platform member => Or.inl (List.mem_map_of_mem member)⟩
  | @checked path rest allReady checking =>
      refine ⟨?_, given⟩
      intro remaining same
      obtain ⟨rfl, both⟩ := Phase.checking.inj same
      obtain ⟨rfl, alive⟩ := Bool.and_eq_true_iff.mp both
      obtain ⟨accepted, parsed, found⟩ := (recorded.checking i _ checking).later [state]
      have started := (recorded.sound i).waits (by rw [checking]; rfl)
      refine ⟨accepted, parsed, fun platform member => ?_⟩
      rcases found platform member with listed | before
      · rcases List.mem_cons.mp listed with here | later
        · rw [here]
          exact Or.inr ⟨state, List.mem_append_right _ List.mem_cons_self, started, alive⟩
        · exact Or.inl later
      · exact Or.inr before
  | linked checking => exact ⟨nofun, fun _ => (recorded.checking i [] checking).later _⟩
  | read | installed | spawned | failed | post | nothingToKill => exact ⟨nofun, given⟩

/-- Every step keeps what the status commands have found out. -/
theorem Recorded.step {past : List (State ι curve)} (recorded : Recorded inputs past state)
    {action : Action ι} (moved : Workflow.step plan inputs state action = some next) :
    Recorded inputs (past ++ [state]) next := by
  have sound := recorded.sound.step moved
  have checking := fun i remaining same => (recorded.checking i remaining same).later [state]
  have outputs := fun i given => (recorded.outputs i given).later [state]
  cases takes_of_step moved with
  | host actor started stepped => exact ⟨sound, checking, outputs⟩
  | @job _ i job advance =>
      obtain ⟨passes, links⟩ := recorded.advance advance
      refine ⟨sound, ?_, ?_⟩
      · intro j
        simp only [State.put]
        by_cases same : j = i
        · subst same
          rw [Function.update_self]
          exact passes
        · rw [Function.update_of_ne same]
          exact checking j
      · intro j
        simp only [State.put]
        by_cases same : j = i
        · subst same
          rw [Function.update_self]
          exact links
        · rw [Function.update_of_ne same]
          exact outputs j
  | @clean _ i phase after cleaning own known stepped =>
      refine ⟨sound, ?_, ?_⟩
      · intro j
        simp only [State.enter, State.put]
        by_cases same : j = i
        · subst same
          rw [Function.update_self]
          nofun
        · rw [Function.update_of_ne same]
          exact checking j
      · intro j
        simp only [State.enter, State.put]
        by_cases same : j = i
        · subst same
          rw [Function.update_self]
          exact outputs j
        · rw [Function.update_of_ne same]
          exact outputs j

/-- What the status commands of a run have found out has been so in the run. -/
theorem Recorded.of_run {before : SocketDir String Empty} {known : String → Bool}
    {actions : List (Action ι)}
    (reached : Transition.run (Workflow.step plan inputs) (Workflow.initial before known) actions =
      some state) :
    Recorded inputs (visited plan inputs (Workflow.initial before known) actions) state := by
  have begun : Transition.Reachable (Workflow.step plan inputs) (Workflow.initial before known)
      (Workflow.initial before known) := .refl _
  have start : Recorded inputs [] (Workflow.initial before known : State ι curve) :=
    ⟨.of_reachable begun, nofun, nofun⟩
  have kept : ∀ past state action next, Recorded inputs past state →
      Workflow.step plan inputs state action = some next →
        Recorded inputs (past ++ [state]) next :=
    fun _ _ _ _ recorded moved => recorded.step moved
  exact Transition.run_outputs_invariant kept start reached

/-- **Readiness.** A job whose outputs are set has platforms that parse, and since its
Mission Control was spawned there has been somebody listening at the socket of each. -/
theorem outputs_alive (plan : ι → Host.Plan curve) (inputs : ι → Inputs)
    {before : SocketDir String Empty} {known : String → Bool} {actions : List (Action ι)}
    (reached : Transition.run (Workflow.step plan inputs) (Workflow.initial before known) actions =
      some state) (i : ι) (given : (state.jobs i).outputs.isSome) :
    ∃ accepted, parsePlatforms (inputs i).platforms = .ok accepted ∧ ∀ platform ∈ accepted,
      Alive (visited plan inputs (Workflow.initial before known) actions) i
        (Docker.socketOf Action.socketDir platform) := by
  obtain ⟨accepted, parsed, alive⟩ := (Recorded.of_run reached).outputs i given
  exact ⟨accepted, parsed, fun platform member =>
    (alive platform member).resolve_left List.not_mem_nil⟩

/-- A job for one platform that gets ready and is cleaned up. -/
def amd64Workflow : List (Action Bool) :=
  [.read true, .install true none, .spawn true none, .host (.discover true), .host (.add true),
    .host (.task 0), .host (.task 0), .poll true, .check true, .succeed true, .post true,
    .clean true (.removeBuilder (some true)), .clean true .terminate, .clean true .forceKill,
    .clean true .unlink, .clean true .finish]

def amd64Inputs : Bool → Inputs := fun _ => ⟨"beacon", "linux/amd64"⟩

theorem amd64Workflow_alive :
    ∃ accepted, parsePlatforms "linux/amd64" = .ok accepted ∧ ∀ platform ∈ accepted,
      Alive (visited (fun _ => Host.amd64Plan) amd64Inputs (initial (fun _ => none) fun _ => false)
        amd64Workflow) true (Docker.socketOf Action.socketDir platform) :=
  outputs_alive (fun _ => Host.amd64Plan) amd64Inputs rfl true rfl

end Sound

end Workflow

end OrbitBuild
