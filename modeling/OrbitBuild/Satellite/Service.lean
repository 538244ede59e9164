import OrbitBuild.Satellite.Membership
import OrbitBuild.Tunnel.Connection
import Mathlib.Data.List.Basic

/-! # A satellite and the bridges it serves

Any number of bridges, of any number of Mission Controls, lead to one satellite. Each
`Bridge::run` accepts clients, and proxies each in a task of its own, counting the tasks
that are at it. The satellite lets in the connections of the peers that are allowed at
that moment, while its start-up and its event task go on.
-/

namespace OrbitBuild

variable {ι : Type} {curve : Curve} {Blob α : Type}

namespace Service

open Tunnel

/-- What `proxy_session` fails with. -/
inductive ProxyError
  /-- `QUIC connect failed` -/
  | connect
  /-- `open_bi failed` -/
  | openBi
  /-- `copy error` -/
  | copy
  deriving DecidableEq, Repr

/-- What `proxy_session` returns, once it does. -/
def outcome (connection : Connection α) : Option (Except ProxyError (Nat × Nat)) :=
  match connection.bridge with
  | .connecting | .opening => none
  | .connectFailed => some (.error .connect)
  | .openFailed => some (.error .openBi)
  | .copying =>
      match connection.session.endpoint .client with
      | .running => none
      | .returned => connection.session.proxySession.map .ok
      | .failed | .crashed => some (.error .copy)

/-- Where the task of an accepted client is. -/
inductive TaskPhase
  | spawned
  /-- Between `fetch_add` and `fetch_sub`. -/
  | active
  | ended
  deriving DecidableEq, Repr

/-- An accepted client. -/
structure Task (ι α : Type) where
  bridge : ι
  phase : TaskPhase
  connection : Connection α

structure State (ι : Type) (curve : Curve) (Blob α : Type) where
  access : Access.State curve Blob
  tasks : List (Task ι α)
  /-- `active_connections` of each bridge. -/
  active : ι → UInt64
  /-- What the tasks have logged at their end, oldest first. -/
  log : List (ι × Except ProxyError (Nat × Nat))

inductive Action (ι : Type) (curve : Curve) (Blob α : Type)
  /-- A step of the satellite's start-up or of its event task. -/
  | access (action : Access.Action curve Blob)
  /-- The accept loop of a bridge gets a client, or an error that it goes on after. -/
  | accept (bridge : ι) (connected : Bool)
  /-- A task counts itself in. -/
  | count (index : Nat)
  | proxy (index : Nat) (action : ConnectionAction α)
  /-- A task whose `proxy_session` has returned counts itself out. -/
  | leave (index : Nat)

/-- Before any client: the satellite is about to import the Doc. -/
def State.initial (before : Doc Blob) : State ι curve Blob α where
  access := .importing before
  tasks := []
  active := fun _ => 0
  log := []

/-- A task connects once it has counted itself in, and the satellite asks its predicate. -/
def State.permits (state : State ι curve Blob α) (peer : PublicKey curve) (task : Task ι α) :
    ConnectionAction α → Bool
  | .connect | .failConnect => task.phase = .active
  | .check allowed => allowed = state.access.admits peer
  | _ => true

/-- Exchange one task. -/
def State.put (state : State ι curve Blob α) (index : Nat) (task : Task ι α) :
    State ι curve Blob α :=
  { state with tasks := state.tasks.set index task }

variable [DecidableEq ι] [DecidableEq Blob]

/-- `peer` is the node each bridge belongs to. -/
def step (peer : ι → PublicKey curve) (state : State ι curve Blob α) :
    Action ι curve Blob α → Option (State ι curve Blob α)
  | .access action => (Access.step state.access action).map fun access => { state with access }
  | .accept bridge connected =>
      if connected then
        some { state with tasks := state.tasks ++ [⟨bridge, .spawned, .initial⟩] }
      else some state
  | .count index =>
      match state.tasks[index]? with
      | some task =>
          if task.phase = .spawned then
            some { state.put index { task with phase := .active } with
              active := Function.update state.active task.bridge (state.active task.bridge + 1) }
          else none
      | none => none
  | .proxy index action =>
      match state.tasks[index]? with
      | some task =>
          if state.permits (peer task.bridge) task action then
            (task.connection.step action).map fun connection =>
              state.put index { task with connection }
          else none
      | none => none
  | .leave index =>
      match state.tasks[index]? with
      | some task =>
          match task.phase, outcome task.connection with
          | .active, some result =>
              some { state.put index { task with phase := .ended } with
                active := Function.update state.active task.bridge (state.active task.bridge - 1)
                log := state.log ++ [(task.bridge, result)] }
          | _, _ => none
      | none => none

/-- What each action needs, and what it makes of the state. -/
inductive Takes (peer : ι → PublicKey curve) (state : State ι curve Blob α) :
    Action ι curve Blob α → State ι curve Blob α → Prop
  | access {action : Access.Action curve Blob} {access : Access.State curve Blob}
      (moved : Access.step state.access action = some access) :
      Takes peer state (.access action) { state with access }
  | accept (bridge : ι) :
      Takes peer state (.accept bridge true)
        { state with tasks := state.tasks ++ [⟨bridge, .spawned, .initial⟩] }
  | retry (bridge : ι) : Takes peer state (.accept bridge false) state
  | count {index : Nat} {task : Task ι α} (found : state.tasks[index]? = some task)
      (spawned : task.phase = .spawned) :
      Takes peer state (.count index) { state.put index { task with phase := .active } with
        active := Function.update state.active task.bridge (state.active task.bridge + 1) }
  | proxy {index : Nat} {task : Task ι α} {action : ConnectionAction α}
      {connection : Connection α} (found : state.tasks[index]? = some task)
      (permitted : state.permits (peer task.bridge) task action = true)
      (moved : task.connection.step action = some connection) :
      Takes peer state (.proxy index action) (state.put index { task with connection })
  | leave {index : Nat} {task : Task ι α} {result : Except ProxyError (Nat × Nat)}
      (found : state.tasks[index]? = some task) (active : task.phase = .active)
      (returned : outcome task.connection = some result) :
      Takes peer state (.leave index) { state.put index { task with phase := .ended } with
        active := Function.update state.active task.bridge (state.active task.bridge - 1)
        log := state.log ++ [(task.bridge, result)] }

/-- Each step of the code is one of those listed. -/
theorem takes_of_step {peer : ι → PublicKey curve} {state next : State ι curve Blob α}
    {action : Action ι curve Blob α} (moved : step peer state action = some next) :
    Takes peer state action next := by
  cases action with
  | access action =>
      obtain ⟨access, stepped, rfl⟩ := Option.map_eq_some_iff.mp moved
      exact .access stepped
  | accept bridge connected =>
      cases connected with
      | true =>
          cases moved
          exact .accept bridge
      | false =>
          cases moved
          exact .retry bridge
  | count index =>
      simp only [step] at moved
      split at moved
      · next task found =>
          obtain ⟨spawned, equation⟩ := Option.ite_none_right_eq_some.mp moved
          cases equation
          exact .count found spawned
      · cases moved
  | proxy index action =>
      simp only [step] at moved
      split at moved
      · next task found =>
          obtain ⟨permitted, enabled⟩ := Option.ite_none_right_eq_some.mp moved
          obtain ⟨connection, stepped, rfl⟩ := Option.map_eq_some_iff.mp enabled
          exact .proxy found permitted stepped
      · cases moved
  | leave index =>
      simp only [step] at moved
      split at moved
      · next task found =>
          split at moved
          · next result active returned =>
              cases moved
              exact .leave found active returned
          · cases moved
      · cases moved

/-! ## Counting -/

/-- Whether the task is one of this bridge's in this phase. -/
def Task.isAt (bridge : ι) (phase : TaskPhase) (task : Task ι α) : Bool :=
  task.bridge = bridge ∧ task.phase = phase

/-- How many of a bridge's tasks are in a phase. -/
def State.countAt (state : State ι curve Blob α) (bridge : ι) (phase : TaskPhase) : Nat :=
  state.tasks.countP (Task.isAt bridge phase)

/-- How many results of a bridge's tasks have been logged. -/
def State.countLogged (state : State ι curve Blob α) (bridge : ι) : Nat :=
  state.log.countP fun entry => entry.1 = bridge

omit [DecidableEq Blob] in
/-- Exchanging a task moves the count by that task. -/
theorem countAt_put {state : State ι curve Blob α} {index : Nat} {old : Task ι α}
    (found : state.tasks[index]? = some old) (task : Task ι α) (bridge : ι) (phase : TaskPhase) :
    (state.put index task).countAt bridge phase + (old.isAt bridge phase).toNat =
      state.countAt bridge phase + (task.isAt bridge phase).toNat := by
  obtain ⟨inside, rfl⟩ := List.getElem?_eq_some_iff.mp found
  have present : (state.tasks[index].isAt bridge phase).toNat ≤ state.countAt bridge phase := by
    cases here : state.tasks[index].isAt bridge phase with
    | false => exact Nat.zero_le _
    | true => exact List.countP_pos_iff.mpr ⟨_, List.getElem_mem inside, here⟩
  simp only [State.countAt, State.put] at present ⊢
  rw [List.countP_set inside]
  cases before : state.tasks[index].isAt bridge phase <;> cases after : task.isAt bridge phase <;>
    simp only [before, Bool.toNat_true, Bool.toNat_false, if_true, Bool.false_eq_true, if_false]
      at present ⊢ <;> omega

omit [DecidableEq Blob] in
/-- A task of the bridge changes from one phase to another. -/
theorem countAt_move {state : State ι curve Blob α} {index : Nat} {task : Task ι α}
    (found : state.tasks[index]? = some task) (phase : TaskPhase) (other : phase ≠ task.phase)
    (bridge : ι) :
    (state.put index { task with phase }).countAt bridge phase =
        state.countAt bridge phase + (if task.bridge = bridge then 1 else 0) ∧
      (state.put index { task with phase }).countAt bridge task.phase +
          (if task.bridge = bridge then 1 else 0) = state.countAt bridge task.phase ∧
      ∀ third, third ≠ phase → third ≠ task.phase →
        (state.put index { task with phase }).countAt bridge third =
          state.countAt bridge third := by
  have moved := countAt_put found { task with phase } bridge
  by_cases own : task.bridge = bridge
  · refine ⟨?_, ?_, fun third apart before => ?_⟩
    · simpa [Task.isAt, own, other.symm] using moved phase
    · simpa [Task.isAt, own, other] using moved task.phase
    · simpa [Task.isAt, own, apart.symm, before.symm] using moved third
  · refine ⟨?_, ?_, fun third _ _ => ?_⟩
    · simpa [Task.isAt, own] using moved phase
    · simpa [Task.isAt, own] using moved task.phase
    · simpa [Task.isAt, own] using moved third

/-- Every counter is the number of the bridge's active tasks, modulo 2⁶⁴, and every task
that has ended has logged one result. -/
structure Counted (state : State ι curve Blob α) : Prop where
  active : ∀ bridge, state.active bridge = UInt64.ofNat (state.countAt bridge .active)
  logged : ∀ bridge, state.countLogged bridge = state.countAt bridge .ended

omit [DecidableEq Blob] in
theorem Counted.initial (before : Doc Blob) :
    Counted (State.initial before : State ι curve Blob α) :=
  ⟨fun _ => rfl, fun _ => rfl⟩

/-- Each step counts the tasks it starts and ends. -/
theorem Counted.step {peer : ι → PublicKey curve} {state next : State ι curve Blob α}
    {action : Action ι curve Blob α} (counted : Counted state)
    (moved : step peer state action = some next) : Counted next := by
  cases takes_of_step moved with
  | access stepped | retry other => exact ⟨counted.active, counted.logged⟩
  | accept other =>
      have same : ∀ bridge phase, phase ≠ .spawned →
          (state.tasks ++ [(⟨other, .spawned, .initial⟩ : Task ι α)]).countP
            (Task.isAt bridge phase) = state.countAt bridge phase := by
        intro bridge phase later
        simp only [State.countAt, List.countP_append, List.countP_singleton, Task.isAt,
          later.symm, and_false, decide_false, Bool.false_eq_true, if_false, Nat.add_zero]
      exact ⟨fun bridge => (counted.active bridge).trans
          (congrArg UInt64.ofNat (same bridge .active nofun).symm),
        fun bridge => (counted.logged bridge).trans (same bridge .ended nofun).symm⟩
  | @proxy index task action connection found permitted stepped =>
      have same : ∀ bridge phase, (state.put index { task with connection }).countAt bridge phase =
          state.countAt bridge phase := fun bridge phase =>
        Nat.add_right_cancel (countAt_put found { task with connection } bridge phase)
      exact ⟨fun bridge => (counted.active bridge).trans
          (congrArg UInt64.ofNat (same bridge .active).symm),
        fun bridge => (counted.logged bridge).trans (same bridge .ended).symm⟩
  | @count index task found spawned =>
      have moves := countAt_move found .active (by rw [spawned]; nofun)
      refine ⟨fun bridge => ?_, fun bridge => ?_⟩
      · obtain ⟨entered, -, -⟩ := moves bridge
        refine Eq.trans ?_ (congrArg UInt64.ofNat entered.symm)
        by_cases own : task.bridge = bridge
        · subst own
          rw [if_pos rfl, UInt64.ofNat_add, ← counted.active]
          exact Function.update_self ..
        · rw [if_neg own, Nat.add_zero, ← counted.active]
          exact Function.update_of_ne (Ne.symm own) ..
      · obtain ⟨-, -, kept⟩ := moves bridge
        exact (counted.logged bridge).trans (kept .ended nofun (by rw [spawned]; nofun)).symm
  | @leave index task result found active returned =>
      have moves := countAt_move found .ended (by rw [active]; nofun)
      refine ⟨fun bridge => ?_, fun bridge => ?_⟩
      · obtain ⟨-, left, -⟩ := moves bridge
        rw [active] at left
        have before := counted.active bridge
        rw [← left] at before
        by_cases own : task.bridge = bridge
        · subst own
          rw [if_pos rfl, UInt64.ofNat_add] at before
          refine (Function.update_self ..).trans ?_
          rw [before]
          exact UInt64.add_sub_cancel ..
        · rw [if_neg own, Nat.add_zero] at before
          exact (Function.update_of_ne (Ne.symm own) ..).trans before
      · obtain ⟨entered, -, -⟩ := moves bridge
        refine Eq.trans ?_ entered.symm
        rw [← counted.logged bridge]
        simp only [State.countLogged, List.countP_append, List.countP_singleton,
          decide_eq_true_eq]

/-! ## The tasks -/

/-- Counts are logged only of a session whose two copies are done. -/
theorem proxySession_of_outcome {connection : Connection α} {counts : Nat × Nat}
    (returned : outcome connection = some (.ok counts)) :
    connection.session.proxySession = some counts := by
  unfold outcome at returned
  split at returned
  · cases returned
  · cases returned
  · cases returned
  · cases returned
  · split at returned
    · cases returned
    · obtain ⟨pair, done, equation⟩ := Option.map_eq_some_iff.mp returned
      cases equation
      exact done
    · cases returned
    · cases returned

/-- What `proxy_session` has returned does not change. -/
theorem outcome_step {connection next : Connection α} {action : ConnectionAction α}
    {result : Except ProxyError (Nat × Nat)} (moved : connection.step action = some next)
    (returned : outcome connection = some result) : outcome next = some result := by
  have kept : next.bridge = connection.bridge := by
    by_cases phase : ∃ move, action = .session move
    · obtain ⟨move, rfl⟩ := phase
      exact (Connection.step_session moved).2.2.1
    · rcases (Connection.passes_of_step moved (not_exists.mp phase)).bridge with
        same | before | before
      · exact same
      · rw [outcome, before] at returned
        cases returned
      · rw [outcome, before] at returned
        cases returned
  have later := Connection.projects connection action next moved
  unfold outcome at returned ⊢
  rw [kept]
  cases bridge : connection.bridge with
  | connecting | opening | connectFailed | openFailed =>
      rw [bridge] at returned
      exact returned
  | copying =>
      rw [bridge] at returned
      have ended : connection.session.endpoint .client ≠ .running := by
        intro running
        rw [running] at returned
        cases returned
      have same : next.session.endpoint .client = connection.session.endpoint .client :=
        later.invariant (motive := fun session =>
          session.endpoint .client = connection.session.endpoint .client)
          (fun _ _ _ same moved => (Session.step_ended moved (same ▸ ended)).trans same) rfl
      rw [same]
      cases endpoint : connection.session.endpoint .client with
      | running => exact absurd endpoint ended
      | failed | crashed =>
          rw [endpoint] at returned
          exact returned
      | returned =>
          rw [endpoint] at returned
          obtain ⟨counts, done, rfl⟩ := Option.map_eq_some_iff.mp returned
          have still : next.session.proxySession = some counts :=
            later.invariant (motive := fun session => session.proxySession = some counts)
              (fun _ _ _ done moved => Session.completed_step moved done) done
          exact Option.map_eq_some_iff.mpr ⟨counts, still, rfl⟩

/-- What is known of the tasks, in every order of all the steps. -/
structure Sound (peer : ι → PublicKey curve) (before : Doc Blob) (state : State ι curve Blob α) :
    Prop where
  access : Transition.Reachable Access.step (.importing before) state.access
  reachable : ∀ task ∈ state.tasks, task.connection.ReachableState
  gated : ∀ task ∈ state.tasks, task.connection.satellite.admitted = true →
    peer task.bridge ∈ state.access.allowed
  logged : ∀ entry ∈ state.log, ∃ task ∈ state.tasks, task.bridge = entry.1 ∧
    task.phase = .ended ∧ outcome task.connection = some entry.2

omit [DecidableEq ι] in
theorem Sound.initial (peer : ι → PublicKey curve) (before : Doc Blob) :
    Sound peer before (State.initial before : State ι curve Blob α) :=
  ⟨.refl _, nofun, nofun, nofun⟩

section Step

variable {peer : ι → PublicKey curve} {before : Doc Blob} {state : State ι curve Blob α}

omit [DecidableEq ι] in
/-- One task goes on, and the log may grow by its result. -/
theorem Sound.put (sound : Sound peer before state) {index : Nat} {old : Task ι α}
    (found : state.tasks[index]? = some old) (task : Task ι α) (bridge : task.bridge = old.bridge)
    (reachable : task.connection.ReachableState)
    (gated : task.connection.satellite.admitted = true → peer task.bridge ∈ state.access.allowed)
    (ended : old.phase = .ended → task.phase = .ended)
    (kept : ∀ result, outcome old.connection = some result →
      outcome task.connection = some result) :
    Sound peer before (state.put index task) := by
  obtain ⟨inside, rfl⟩ := List.getElem?_eq_some_iff.mp found
  have members : ∀ other ∈ state.tasks.set index task, other ∈ state.tasks ∨ other = task :=
    fun other => List.mem_or_eq_of_mem_set
  refine ⟨sound.access, fun other member => ?_, fun other member => ?_, fun entry member => ?_⟩
  · rcases members other member with earlier | rfl
    · exact sound.reachable other earlier
    · exact reachable
  · rcases members other member with earlier | rfl
    · exact sound.gated other earlier
    · exact gated
  · obtain ⟨other, listed, same, gone, returned⟩ := sound.logged entry member
    obtain ⟨place, within, rfl⟩ := List.mem_iff_getElem.mp listed
    by_cases here : index = place
    · subst here
      exact ⟨task, List.mem_set inside task, bridge.trans same, ended gone, kept _ returned⟩
    · refine ⟨state.tasks[place], ?_, same, gone, returned⟩
      apply List.mem_iff_getElem?.mpr
      exact ⟨place, by rw [State.put, List.getElem?_set_ne here, List.getElem?_eq_getElem within]⟩

/-- What is known of the tasks is so after every step. -/
theorem Sound.step {next : State ι curve Blob α} {action : Action ι curve Blob α}
    (sound : Sound peer before state) (moved : Service.step peer state action = some next) :
    Sound peer before next := by
  cases takes_of_step moved with
  | access stepped =>
      exact ⟨sound.access.snoc stepped, sound.reachable,
        fun task member admitted =>
          Access.allowed_subset_step stepped (sound.gated task member admitted), sound.logged⟩
  | accept bridge =>
      refine ⟨sound.access, ?_, ?_, ?_⟩
      · intro task member
        rcases List.mem_append.mp member with earlier | fresh
        · exact sound.reachable task earlier
        · rw [List.mem_singleton.mp fresh]
          exact .refl _
      · intro task member admitted
        rcases List.mem_append.mp member with earlier | fresh
        · exact sound.gated task earlier admitted
        · rw [List.mem_singleton.mp fresh] at admitted
          cases admitted
      · intro entry member
        obtain ⟨task, listed, rest⟩ := sound.logged entry member
        exact ⟨task, List.mem_append_left _ listed, rest⟩
  | retry bridge => exact sound
  | @count index task found spawned =>
      have member := List.mem_of_getElem? found
      have put := sound.put found { task with phase := .active } rfl
        (sound.reachable task member) (sound.gated task member)
        (fun gone => nomatch spawned.symm.trans gone) fun _ => id
      exact ⟨put.access, put.reachable, put.gated, put.logged⟩
  | @proxy index task action connection found permitted stepped =>
      have member := List.mem_of_getElem? found
      refine sound.put found { task with connection } rfl
        ((sound.reachable task member).snoc stepped) ?_ id fun _ => outcome_step stepped
      intro admitted
      rcases Connection.admitted_step stepped admitted with already | rfl
      · exact sound.gated task member already
      · exact Access.mem_allowed_of_admits (of_decide_eq_true permitted).symm
  | @leave index task result found active returned =>
      have member := List.mem_of_getElem? found
      have put := sound.put found { task with phase := .ended } rfl
        (sound.reachable task member) (sound.gated task member) (fun _ => rfl) fun _ => id
      refine ⟨put.access, put.reachable, put.gated, ?_⟩
      intro entry listed
      rcases List.mem_append.mp listed with earlier | fresh
      · exact put.logged entry earlier
      · rw [List.mem_singleton.mp fresh]
        obtain ⟨inside, -⟩ := List.getElem?_eq_some_iff.mp found
        exact ⟨{ task with phase := .ended }, List.mem_set inside _, rfl, rfl, returned⟩

abbrev ReachableState (peer : ι → PublicKey curve) (before : Doc Blob)
    (state : State ι curve Blob α) : Prop :=
  Transition.Reachable (Service.step peer) (.initial before) state

/-- What is known of the tasks holds in every reachable state. -/
theorem ReachableState.sound (reached : ReachableState peer before state) :
    Sound peer before state :=
  reached.invariant (fun _ _ _ sound moved => sound.step moved) (.initial peer before)

/-- The counters of every reachable state are right. -/
theorem ReachableState.counted (reached : ReachableState peer before state) : Counted state :=
  reached.invariant (fun _ _ _ counted moved => counted.step moved) (.initial before)

/-- **The active connections.** However the accept loops, the sessions and the satellite
take turns, each counter is the number of its bridge's tasks that are proxying, and each
task that has ended has logged exactly one result. -/
theorem active_eq (reached : ReachableState peer before state) (bridge : ι) :
    state.active bridge = UInt64.ofNat (state.countAt bridge .active) ∧
      (state.countAt bridge .active < 2 ^ 64 →
        (state.active bridge).toNat = state.countAt bridge .active) ∧
      state.countLogged bridge = state.countAt bridge .ended := by
  have counted := ReachableState.counted reached
  refine ⟨counted.active bridge, fun few => ?_, counted.logged bridge⟩
  rw [counted.active bridge]
  exact UInt64.toNat_ofNat_of_lt' few

/-- **The gate.** Whoever has been put through to buildkitd, and so whoever has got a byte
to it or from it, is a peer that the Doc or the swarm has named, and has spoken first. A
connection that was refused has got nothing through in either direction. -/
theorem serves_allowed (reached : ReachableState peer before state) {task : Task ι α}
    (member : task ∈ state.tasks) :
    ((task.connection.attached .buildkitd = true ∨
        (task.connection.session.lane .client).received ≠ [] ∨
        (task.connection.session.lane .buildkitd).written ≠ [] ∨
        (task.connection.session.lane .buildkitd).received ≠ []) →
      peer task.bridge ∈ state.access.allowed ∧
        ((∃ entry ∈ state.access.replica.records, Access.Names entry (peer task.bridge)) ∨
          .ok (.neighborUp (peer task.bridge)) ∈ state.access.processed) ∧
        ((task.connection.session.lane .client).written ≠ [] ∨
          (task.connection.session.lane .client).closed = true)) ∧
    (task.connection.satellite = .refused →
      task.connection.attached .buildkitd = false ∧
        (task.connection.session.lane .client).received = [] ∧
        (task.connection.session.lane .buildkitd).written = [] ∧
        (task.connection.session.lane .buildkitd).received = []) := by
  have sound := ReachableState.sound reached
  have connection := sound.reachable task member
  refine ⟨fun served => ?_, fun refused => ?_⟩
  · have attached : task.connection.attached .buildkitd = true := by
      by_contra detached
      have untaken := connection.unserved (Bool.not_eq_true _ ▸ detached)
      rcases served with attached | got | written | given
      · exact detached attached
      · exact got untaken.1
      · exact written untaken.2.1
      · exact given untaken.2.2
    have copying : task.connection.satellite = .copying := of_decide_eq_true attached
    have allowed := sound.gated task member (by rw [copying]; rfl)
    exact ⟨allowed, (Access.Sourced.of_reachable sound.access).of_mem_allowed allowed,
      (Connection.ReachableState.staged connection).asked (by rw [copying]; rfl)⟩
  · have detached : task.connection.attached .buildkitd = false :=
      decide_eq_false (by rw [refused]; nofun)
    exact ⟨detached, connection.unserved detached⟩

/-- **The log.** A session that is logged as completed has carried, in the counts it is
logged with, all that the client has written and will, and all that buildkitd has, and
the client has been given all of the latter. -/
theorem logged_counts (reached : ReachableState peer before state) {bridge : ι}
    {toSat toLocal : Nat} (logged : (bridge, .ok (toSat, toLocal)) ∈ state.log) :
    ∃ task ∈ state.tasks, task.bridge = bridge ∧ task.phase = .ended ∧
      (∀ side, (task.connection.session.lane side).closed = true) ∧
      toSat = (task.connection.session.lane .client).written.length ∧
      toLocal = (task.connection.session.lane .buildkitd).written.length ∧
      (task.connection.session.lane .buildkitd).received =
        (task.connection.session.lane .buildkitd).written := by
  have sound := ReachableState.sound reached
  obtain ⟨task, member, rfl, ended, returned⟩ := sound.logged _ logged
  have valid := (Connection.ReachableState.session (sound.reachable task member)).valid
  obtain ⟨⟨sent, received⟩, counts⟩ := CopyLoop.join_eq_some.mp (proxySession_of_outcome returned)
  obtain ⟨rfl, rfl⟩ := Prod.mk.inj counts
  have given := (valid.lanes .buildkitd).receiveDone received
  have answered := (valid.lanes .buildkitd).sendDone ((valid.lanes .buildkitd).finDone given.1).1
  refine ⟨task, member, rfl, ended, ?_, (valid.lanes .client).outbound_all sent,
    (valid.lanes .buildkitd).inbound_copied received,
    (valid.lanes .buildkitd).received_eq_written received⟩
  intro side
  cases side with
  | client => exact ((valid.lanes .client).sendDone sent).1
  | buildkitd => exact answered.1

end Step

/-- The satellite starts up over an empty Doc and meets one Mission Control. -/
def meetRun : List (Action Unit Curve.full Unit Nat) :=
  [.access .subscribe, .access (.query []), .access .lock, .access .unlock, .access .spawn,
    .access (.deliver (.ok (.neighborUp (.ofByte 9)))), .access .take, .access .acquire,
    .access .insert]

/-- Its client asks for a byte and is answered with two, after a first accept has failed. -/
def proxyRun : List (ConnectionAction Nat) :=
  [.connect, .openBi, .session (.lane .client (.write [1])), .session (.lane .client (.pull 1)),
    .session (.lane .client (.push 1)), .session (.lane .client (.arrive 1)), .check true,
    .acceptBi, .dial, .session (.lane .client (.take 1)), .session (.lane .client (.give 1)),
    .session (.lane .client (.read 1)), .session (.lane .client .close),
    .session (.lane .client .finish), .session (.lane .client .arriveFin),
    .session (.lane .client .finishReceive), .session (.lane .buildkitd (.write [7, 8])),
    .session (.lane .buildkitd .close), .session (.lane .buildkitd (.pull 2)),
    .session (.lane .buildkitd (.push 2)), .session (.lane .buildkitd .finish),
    .session (.lane .buildkitd (.arrive 2)), .session (.lane .buildkitd .arriveFin),
    .session (.lane .buildkitd (.take 2)), .session (.lane .buildkitd (.give 2)),
    .session (.lane .buildkitd .finishReceive), .session (.complete .client)]

def serveRun : List (Action Unit Curve.full Unit Nat) :=
  meetRun ++ [.accept () false, .accept () true, .count 0] ++ proxyRun.map (.proxy 0) ++
    [.accept () true, .count 1, .leave 0]

def served : State Unit Curve.full Unit Nat :=
  (Transition.run (step fun _ => .ofByte 9) (.initial AuthorStore.empty) serveRun).getD
    (.initial AuthorStore.empty)

theorem served_reached : ReachableState (fun _ => .ofByte 9) AuthorStore.empty served :=
  ⟨serveRun, by rfl⟩

theorem served_active :
    ReachableState (fun _ => .ofByte 9) AuthorStore.empty served ∧
      (served.active ()).toNat = 1 ∧ served.countLogged () = 1 := by
  obtain ⟨-, exact, logged⟩ := active_eq served_reached ()
  have one : served.countAt () .active = 1 := by rfl
  have gone : served.countAt () .ended = 1 := by rfl
  exact ⟨served_reached, by rw [exact (by rw [one]; decide), one], by rw [logged, gone]⟩

theorem served_allowed :
    ∃ task ∈ served.tasks, task.connection.attached .buildkitd = true ∧
      PublicKey.ofByte 9 ∈ served.access.allowed := by
  obtain ⟨task, found⟩ : ∃ task, served.tasks[0]? = some task := ⟨_, rfl⟩
  have member := List.mem_of_getElem? found
  have attached : task.connection.attached .buildkitd = true := by
    cases found
    rfl
  exact ⟨task, member, attached, ((serves_allowed served_reached member).1 (.inl attached)).1⟩

theorem served_logged :
    ((), .ok (1, 2)) ∈ served.log ∧ ∃ task ∈ served.tasks,
      (task.connection.session.lane .buildkitd).received.length = 2 := by
  have logged : ((), .ok (1, 2)) ∈ served.log := List.mem_singleton_self _
  obtain ⟨task, member, -, -, -, -, toLocal, given⟩ := logged_counts served_reached logged
  exact ⟨logged, task, member, by rw [given, ← toLocal]⟩

end Service

end OrbitBuild
