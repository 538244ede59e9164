import OrbitBuild.Satellite.Join

/-! # The address in the heartbeat

Every heartbeat stores the entry of the satellite again, built from what the task
captured when it was spawned. The ways to reach the endpoint may have changed since,
and the address stored is then not the one the endpoint has at the heartbeat.
-/

namespace OrbitBuild

variable {curve : Curve}

namespace Join

/-- A heartbeat that has reached the Doc: what `endpoint.addr()` was when it built its
entry, and the entry in the Doc after it. -/
structure Beat (curve : Curve) where
  current : EndpointAddr curve
  entry : SatelliteEntry curve
  deriving DecidableEq

/-- A run with what has been seen of its addresses. Until the task is spawned and builds
an entry, the addresses recorded for that are those of the start. -/
structure History (curve : Curve) where
  run : Run curve
  /-- `endpoint.addr()` when the heartbeat task was spawned. -/
  spawnAddr : EndpointAddr curve
  /-- `endpoint.addr()` when the heartbeat built its last entry. -/
  buildAddr : EndpointAddr curve
  beats : List (Beat curve)
  deriving DecidableEq

def History.initial (config : JoinConfig curve) (addrs : List TransportAddr) : History curve where
  run := .initial config addrs
  spawnAddr := ⟨config.nodeId, addrs⟩
  buildAddr := ⟨config.nodeId, addrs⟩
  beats := []

/-- What `endpoint.addr()` reports now. -/
def History.current (config : JoinConfig curve) (history : History curve) : EndpointAddr curve :=
  ⟨config.nodeId, history.run.state.addrs⟩

/-- A step of the run, and what it adds to the record. -/
def History.step (config : JoinConfig curve) (history : History curve) (action : Action) :
    Option (History curve) :=
  (Run.step config history.run action).map fun next =>
    { run := next
      spawnAddr :=
        match action with
        | .spawnHeartbeat => history.current config
        | _ => history.spawnAddr
      buildAddr :=
        match action with
        | .submit _ | .suspend _ => history.current config
        | _ => history.buildAddr
      beats :=
        match action, next.stored.getLast? with
        | .submit _, some entry => history.beats ++ [⟨history.current config, entry⟩]
        -- The entry was built before the task was suspended.
        | .resume, some entry => history.beats ++ [⟨history.buildAddr, entry⟩]
        | _, _ => history.beats }

/-- The record changes nothing about the run. -/
theorem History.map_run_step (config : JoinConfig curve) (history : History curve)
    (action : Action) :
    (History.step config history action).map History.run =
      Run.step config history.run action := by
  unfold History.step
  cases Run.step config history.run action with
  | none => rfl
  | some next => rfl

/-- Before the heartbeat task is spawned. -/
def MainPhase.early : MainPhase → Bool
  | .joining | .registered => true
  | _ => false

/-- What a step does with the address the task has captured. -/
inductive Captures (config : JoinConfig curve) (state : State curve) (next : State curve)
    (written : Option (SatelliteEntry curve)) : Action → Prop
  | spawn (before : state.main.early = true) (after : next.main.early = false)
      (ticking : next.heartbeat = .ticking)
      (captured : next.heartbeatAddr = ⟨config.nodeId, state.addrs⟩) :
      Captures config state next written .spawnHeartbeat
  | submit {now : UInt64} (running : state.heartbeat = .running)
      (kept : next.heartbeatAddr = state.heartbeatAddr) (main : next.main = state.main)
      (waits : next.heartbeat = .awaitingReply)
      (stored : written = some (config.idleEntry state.heartbeatAddr now)) :
      Captures config state next written (.submit now)
  | suspend {now : UInt64} (running : state.heartbeat = .running)
      (kept : next.heartbeatAddr = state.heartbeatAddr) (main : next.main = state.main)
      (sends : next.heartbeat = .sending (config.idleEntry state.heartbeatAddr now)) :
      Captures config state next written (.suspend now)
  | resume {entry : SatelliteEntry curve} (sending : state.heartbeat = .sending entry)
      (kept : next.heartbeatAddr = state.heartbeatAddr) (main : next.main = state.main)
      (waits : next.heartbeat = .awaitingReply) (stored : written = some entry) :
      Captures config state next written .resume
  | other {action : Action} (spawns : action ≠ .spawnHeartbeat)
      (submits : ∀ now, action ≠ .submit now) (resumes : action ≠ .resume)
      (kept : next.heartbeatAddr = state.heartbeatAddr)
      (main : next.main.early = true → state.main.early = true)
      (silent : state.heartbeat = .notSpawned → next.heartbeat = .notSpawned)
      (sends : ∀ entry, next.heartbeat = .sending entry → state.heartbeat = .sending entry) :
      Captures config state next written action

/-- Each step of the code is one of those listed. -/
theorem captures_of_step {config : JoinConfig curve} {state next : State curve} {action : Action}
    {written : Option (SatelliteEntry curve)}
    (stepped : step config state action = some (next, written)) :
    Captures config state next written action := by
  cases action with
  | spawnHeartbeat =>
      obtain ⟨phase, equation⟩ := Option.ite_none_right_eq_some.mp stepped
      cases equation
      exact .spawn (by rw [phase]; rfl) rfl rfl rfl
  | submit now =>
      obtain ⟨running, equation⟩ := Option.ite_none_right_eq_some.mp stepped
      cases equation
      exact .submit running rfl rfl rfl rfl
  | suspend now =>
      obtain ⟨running, equation⟩ := Option.ite_none_right_eq_some.mp stepped
      cases equation
      exact .suspend running rfl rfl rfl
  | resume =>
      obtain ⟨entry, sending, rfl, stored⟩ := step_resume_eq_some stepped
      exact .resume sending rfl rfl rfl stored
  | addressChanges addrs =>
      cases stepped
      exact .other nofun nofun nofun rfl id id fun _ => id
  | register now =>
      obtain ⟨phase, equation⟩ := Option.ite_none_right_eq_some.mp stepped
      cases equation
      exact .other nofun nofun nofun rfl (fun _ => by rw [phase]; rfl) id fun _ => id
  | ctrlC | sendOffline _ | offlineReply | abortEvents | abortHeartbeat | shutdownRouter =>
      obtain ⟨-, equation⟩ := Option.ite_none_right_eq_some.mp stepped
      cases equation
      exact .other nofun nofun nofun rfl nofun id fun _ => id
  | tick | reply =>
      obtain ⟨phase, equation⟩ := Option.ite_none_right_eq_some.mp stepped
      cases equation
      refine .other nofun nofun nofun rfl id (fun unspawned => ?_) nofun
      rw [unspawned] at phase
      cases phase.1
  | cancel =>
      obtain ⟨spawned, rfl, -⟩ := step_cancel_eq_some stepped
      exact .other nofun nofun nofun rfl id (fun unspawned => (spawned unspawned).elim) nofun

/-- The address of each heartbeat is the one captured when the task was spawned. -/
structure History.Frozen (history : History curve) : Prop where
  captured : history.run.state.heartbeatAddr = history.spawnAddr
  sending : ∀ entry, history.run.state.heartbeat = .sending entry →
    entry.endpointAddr = history.spawnAddr
  beats : ∀ beat ∈ history.beats, beat.entry.endpointAddr = history.spawnAddr
  early : history.run.state.main.early = true →
    history.run.state.heartbeat = .notSpawned ∧ history.beats = []

theorem History.Frozen.initial (config : JoinConfig curve) (addrs : List TransportAddr) :
    (History.initial config addrs).Frozen where
  captured := rfl
  sending _ sending := by cases sending
  beats _ member := by cases member
  early _ := ⟨rfl, rfl⟩

/-- Once the task is there, the main function is past spawning it. -/
theorem History.Frozen.not_early {history : History curve} (frozen : history.Frozen)
    (spawned : history.run.state.heartbeat ≠ .notSpawned) :
    history.run.state.main.early ≠ true :=
  fun early => spawned (frozen.early early).1

/-- One more heartbeat has stored the address. -/
theorem endpointAddr_of_mem_concat {beats : List (Beat curve)} {addr : EndpointAddr curve}
    {last : Beat curve} (before : ∀ beat ∈ beats, beat.entry.endpointAddr = addr)
    (same : last.entry.endpointAddr = addr) :
    ∀ beat ∈ beats ++ [last], beat.entry.endpointAddr = addr := by
  intro beat member
  rcases List.mem_append.mp member with old | new
  · exact before beat old
  · rw [List.mem_singleton.mp new]
    exact same

/-- No step changes the address that has been captured. -/
theorem History.Frozen.step {config : JoinConfig curve} {history next : History curve}
    {action : Action} (frozen : history.Frozen)
    (moved : History.step config history action = some next) : next.Frozen := by
  obtain ⟨run, ran, rfl⟩ := Option.map_eq_some_iff.mp moved
  obtain ⟨written, stepped, stored⟩ := Run.step_eq_some.mp ran
  cases captures_of_step stepped with
  | spawn before after ticking captured =>
      have none := (frozen.early before).2
      refine ⟨captured, ?_, ?_, ?_⟩
      · intro entry sending
        rw [ticking] at sending
        cases sending
      · intro beat member
        rw [none] at member
        cases member
      · intro early
        rw [after] at early
        cases early
  | @submit now running kept main waits written =>
      have last : run.stored.getLast? =
          some (config.idleEntry history.run.state.heartbeatAddr now) := by
        rw [stored, written, Option.toList_some, List.getLast?_concat]
      refine ⟨kept.trans frozen.captured, ?_, ?_, ?_⟩
      · intro entry sending
        rw [waits] at sending
        cases sending
      · simp only [last]
        exact endpointAddr_of_mem_concat frozen.beats frozen.captured
      · intro early
        rw [main] at early
        exact (frozen.not_early (by rw [running]; nofun) early).elim
  | @suspend now running kept main sends =>
      refine ⟨kept.trans frozen.captured, ?_, frozen.beats, ?_⟩
      · intro entry sending
        rw [sends] at sending
        cases sending
        exact frozen.captured
      · intro early
        rw [main] at early
        exact (frozen.not_early (by rw [running]; nofun) early).elim
  | @resume entry sending kept main waits written =>
      have last : run.stored.getLast? = some entry := by
        rw [stored, written, Option.toList_some, List.getLast?_concat]
      refine ⟨kept.trans frozen.captured, ?_, ?_, ?_⟩
      · intro other again
        rw [waits] at again
        cases again
      · simp only [last]
        exact endpointAddr_of_mem_concat frozen.beats (frozen.sending entry sending)
      · intro early
        rw [main] at early
        exact (frozen.not_early (by rw [sending]; nofun) early).elim
  | other spawns submits resumes kept main silent sends =>
      have address := kept.trans frozen.captured
      have suspended := fun entry again => frozen.sending entry (sends entry again)
      have unspawned := fun early =>
        (frozen.early (main early)).imp_left silent
      cases action with
      | spawnHeartbeat => exact (spawns rfl).elim
      | submit now => exact (submits now rfl).elim
      | resume => exact (resumes rfl).elim
      | _ => exact ⟨address, suspended, frozen.beats, unspawned⟩

/-- In every run the heartbeats have the address that was captured. -/
theorem History.Frozen.of_reachable {config : JoinConfig curve} {addrs : List TransportAddr}
    {history : History curve}
    (reached : Transition.Reachable (History.step config) (.initial config addrs) history) :
    history.Frozen :=
  reached.invariant (fun _ _ _ frozen moved => frozen.step moved) (.initial config addrs)

/-- **The address a heartbeat stores.** In every run, each heartbeat leaves the address in
the Doc that the endpoint has when it builds its entry, if and only if at each of them this
is still the address that the endpoint had when the task was spawned. -/
theorem heartbeats_current_iff (config : JoinConfig curve) (addrs : List TransportAddr)
    (history : History curve)
    (reached : Transition.Reachable (History.step config) (.initial config addrs) history) :
    (∀ beat ∈ history.beats, beat.entry.endpointAddr = beat.current) ↔
      ∀ beat ∈ history.beats, beat.current = history.spawnAddr := by
  have frozen := (History.Frozen.of_reachable reached).beats
  constructor
  · intro fresh beat member
    rw [← fresh beat member, frozen beat member]
  · intro unchanged beat member
    rw [unchanged beat member, frozen beat member]

/-- The steps of a satellite up to its first heartbeat. -/
def firstBeat : List Action := [.register 1, .spawnHeartbeat, .tick, .submit 2]

/-- The same, with the relay found after the heartbeat task has been spawned. -/
def lateRelay : List Action :=
  [.register 1, .spawnHeartbeat, .addressChanges [.relay "https://relay"], .tick, .submit 2]

theorem firstBeat_current :
    ∃ history,
      Transition.run (History.step amd64Join) (.initial amd64Join [.relay "https://relay"])
        firstBeat = some history ∧ history.beats ≠ [] ∧
      ∀ beat ∈ history.beats, beat.entry.endpointAddr = beat.current := by
  refine ⟨_, rfl, List.cons_ne_nil _ _, ?_⟩
  apply (heartbeats_current_iff amd64Join [.relay "https://relay"] _ ⟨firstBeat, rfl⟩).mpr
  intro beat member
  rw [List.mem_singleton.mp member]
  rfl

/-- The address from before the relay was found is stored after it. -/
theorem lateRelay_stale :
    ¬ ∀ (config : JoinConfig Curve.full) (addrs : List TransportAddr)
      (history : History Curve.full),
      Transition.Reachable (History.step config) (.initial config addrs) history →
        ∀ beat ∈ history.beats, beat.entry.endpointAddr = beat.current := by
  intro fresh
  have same := fresh amd64Join [] _ ⟨lateRelay, rfl⟩ _ (List.mem_singleton_self _)
  exact absurd same (by decide)

end Join

end OrbitBuild
