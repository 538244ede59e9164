import OrbitBuild.Core.Node
import OrbitBuild.Foundation.Transition

/-! # One run of a satellite

`run_satellite_join` registers the node, starts the heartbeat task and, on
Ctrl+C, writes the offline entry before it aborts the two background tasks. The
main function and the heartbeat task interleave at their await points; the only
thing they share is the Doc entry both write. A step may write one value, which
is what the Doc engine applies at that moment.
-/

namespace OrbitBuild

variable {curve : Curve}

/-- The architecture name for a compilation target. -/
def archStr (target : String) : String :=
  match target with
  | "aarch64" | "arm64" => "arm64"
  | "x86_64" | "amd64" => "amd64"
  | other => other

/-- What one run is started with. -/
structure JoinConfig (curve : Curve) where
  nodeId : PublicKey curve
  target : String
  extraPlatforms : Option (List String)
  deriving DecidableEq

namespace JoinConfig

def nativeArch (config : JoinConfig curve) : String := archStr config.target

def nativePlatform (config : JoinConfig curve) : String := "linux/" ++ config.nativeArch

/-- The native platform first, then the extra ones that differ from it. -/
def platforms (config : JoinConfig curve) : List String :=
  config.nativePlatform :: (config.extraPlatforms.getD []).filter (· ≠ config.nativePlatform)

/-- The entry of the registration and of every heartbeat. -/
def idleEntry (config : JoinConfig curve) (addr : EndpointAddr curve) (now : UInt64) :
    SatelliteEntry curve where
  nativeArch := config.nativeArch
  platforms := config.platforms
  status := SatelliteStatus.idle.display
  endpointAddr := addr
  registeredAt := now

/-- The entry written on shutdown, with the placeholder address. -/
def offlineEntry (config : JoinConfig curve) (now : UInt64) : SatelliteEntry curve where
  nativeArch := config.nativeArch
  platforms := config.platforms
  status := SatelliteStatus.offline.display
  endpointAddr := EndpointAddr.new .zero
  registeredAt := now

/-- The entry is one that a run with this configuration writes. -/
inductive Writes (config : JoinConfig curve) : SatelliteEntry curve → Prop
  | idle (addrs : List TransportAddr) (now : UInt64) :
      Writes config (config.idleEntry ⟨config.nodeId, addrs⟩ now)
  | offline (now : UInt64) : Writes config (config.offlineEntry now)

/-- An offline entry is not idle. -/
theorem offlineEntry_status_ne (config : JoinConfig curve) (now : UInt64) :
    (config.offlineEntry now).status ≠ "idle" :=
  (by decide : "offline" ≠ "idle")

end JoinConfig

namespace Join

/-- How far the main function has come. -/
inductive MainPhase
  /-- Before the registration is written. -/
  | joining
  | registered
  /-- Waiting for Ctrl+C, with the heartbeat running. -/
  | serving
  | leaving
  /-- The offline write has reached the Doc engine, whose reply is awaited. -/
  | offlineSent
  | offlineWritten
  | eventsAborted
  | heartbeatAborted
  | returned
  deriving DecidableEq

/-- Where the heartbeat task is in its loop. -/
inductive HeartbeatPhase (curve : Curve)
  | notSpawned
  /-- At `interval.tick().await`. -/
  | ticking
  /-- Ticked and on a worker thread, before the request leaves `set_bytes`. -/
  | running
  /-- Suspended in `set_bytes` before the request reached the Doc engine. -/
  | sending (entry : SatelliteEntry curve)
  | awaitingReply
  | cancelled
  deriving DecidableEq

structure State (curve : Curve) where
  /-- The ways to reach the endpoint that `endpoint.addr()` reports now. -/
  addrs : List TransportAddr
  main : MainPhase
  heartbeat : HeartbeatPhase curve
  /-- The address the heartbeat task captured when it was spawned. -/
  heartbeatAddr : EndpointAddr curve
  /-- Whether `heartbeat_handle.abort()` has been called. -/
  aborted : Bool
  deriving DecidableEq

/-- A run before its registration. -/
def State.initial (config : JoinConfig curve) (addrs : List TransportAddr) : State curve where
  addrs := addrs
  main := .joining
  heartbeat := .notSpawned
  heartbeatAddr := ⟨config.nodeId, addrs⟩
  aborted := false

/-- The steps of the main function, of the heartbeat task and of the endpoint. -/
inductive Action
  | addressChanges (addrs : List TransportAddr)
  | register (now : UInt64)
  | spawnHeartbeat
  | ctrlC
  | sendOffline (now : UInt64)
  | offlineReply
  | abortEvents
  | abortHeartbeat
  | shutdownRouter
  | tick
  | submit (now : UInt64)
  | suspend (now : UInt64)
  | resume
  | reply
  | cancel
  deriving DecidableEq

/-- The state after an enabled action, with the value it writes, if any.

An aborted task that is on a worker thread goes on to its next await point, so
`submit` and `suspend` do not look at `aborted`; at an await point an aborted
task can only be cancelled. -/
def step (config : JoinConfig curve) (state : State curve) :
    Action → Option (State curve × Option (SatelliteEntry curve))
  | .addressChanges addrs => some ({ state with addrs := addrs }, none)
  | .register now =>
      if state.main = .joining then
        some ({ state with main := .registered },
          some (config.idleEntry ⟨config.nodeId, state.addrs⟩ now))
      else none
  | .spawnHeartbeat =>
      if state.main = .registered then
        some ({ state with main := .serving, heartbeat := .ticking,
                           heartbeatAddr := ⟨config.nodeId, state.addrs⟩ }, none)
      else none
  | .ctrlC =>
      if state.main = .serving then some ({ state with main := .leaving }, none) else none
  | .sendOffline now =>
      if state.main = .leaving then
        some ({ state with main := .offlineSent }, some (config.offlineEntry now))
      else none
  | .offlineReply =>
      if state.main = .offlineSent then some ({ state with main := .offlineWritten }, none)
      else none
  | .abortEvents =>
      if state.main = .offlineWritten then some ({ state with main := .eventsAborted }, none)
      else none
  | .abortHeartbeat =>
      if state.main = .eventsAborted then
        some ({ state with main := .heartbeatAborted, aborted := true }, none)
      else none
  | .shutdownRouter =>
      if state.main = .heartbeatAborted then some ({ state with main := .returned }, none)
      else none
  | .tick =>
      if state.heartbeat = .ticking ∧ state.aborted = false then
        some ({ state with heartbeat := .running }, none)
      else none
  | .submit now =>
      if state.heartbeat = .running then
        some ({ state with heartbeat := .awaitingReply },
          some (config.idleEntry state.heartbeatAddr now))
      else none
  | .suspend now =>
      if state.heartbeat = .running then
        some ({ state with heartbeat := .sending (config.idleEntry state.heartbeatAddr now) }, none)
      else none
  | .resume =>
      match state.heartbeat, state.aborted with
      | .sending entry, false => some ({ state with heartbeat := .awaitingReply }, some entry)
      | _, _ => none
  | .reply =>
      if state.heartbeat = .awaitingReply ∧ state.aborted = false then
        some ({ state with heartbeat := .ticking }, none)
      else none
  | .cancel =>
      match state.heartbeat, state.aborted with
      | .ticking, true | .sending _, true | .awaitingReply, true =>
          some ({ state with heartbeat := .cancelled }, none)
      | _, _ => none

/-- A suspended task goes on to the write of the entry it has built. -/
theorem step_resume_eq_some {config : JoinConfig curve} {state next : State curve}
    {written : Option (SatelliteEntry curve)}
    (stepped : step config state .resume = some (next, written)) :
    ∃ entry, state.heartbeat = .sending entry ∧
      next = { state with heartbeat := .awaitingReply } ∧ written = some entry := by
  simp only [step] at stepped
  split at stepped
  · next entry sending _ =>
      cases stepped
      exact ⟨entry, sending, rfl, rfl⟩
  · cases stepped

/-- Only a task that has been spawned is cancelled. -/
theorem step_cancel_eq_some {config : JoinConfig curve} {state next : State curve}
    {written : Option (SatelliteEntry curve)}
    (stepped : step config state .cancel = some (next, written)) :
    state.heartbeat ≠ .notSpawned ∧ next = { state with heartbeat := .cancelled } ∧
      written = none := by
  refine ⟨?_, ?_⟩
  · intro unspawned
    simp only [step, unspawned] at stepped
    cases stepped
  · simp only [step] at stepped
    split at stepped <;> cases stepped
    all_goals exact ⟨rfl, rfl⟩

/-- A run together with the values it has stored under its key, oldest first. -/
structure Run (curve : Curve) where
  state : State curve
  stored : List (SatelliteEntry curve)
  deriving DecidableEq

/-- A step of the run, with its write applied. -/
def Run.step (config : JoinConfig curve) (run : Run curve) (action : Action) :
    Option (Run curve) :=
  (Join.step config run.state action).map fun (next, written) =>
    ⟨next, run.stored ++ written.toList⟩

def Run.initial (config : JoinConfig curve) (addrs : List TransportAddr) : Run curve :=
  ⟨.initial config addrs, []⟩

/-- The status of the value stored last. -/
def Run.lastStatus (run : Run curve) : Option String :=
  run.stored.getLast?.map SatelliteEntry.status

/-- A step of a run stores what it writes. -/
theorem Run.step_eq_some {config : JoinConfig curve} {run next : Run curve} {action : Action} :
    Run.step config run action = some next ↔
      ∃ written, Join.step config run.state action = some (next.state, written) ∧
        next.stored = run.stored ++ written.toList := by
  unfold Run.step
  constructor
  · intro moved
    obtain ⟨⟨state, written⟩, stepped, rfl⟩ := Option.map_eq_some_iff.mp moved
    exact ⟨written, stepped, rfl⟩
  · intro both
    obtain ⟨written, stepped, stored⟩ := both
    rw [stepped]
    simp only [Option.map_some, ← stored]

/-- A satellite on an amd64 host, with key bytes all one. -/
def amd64Join : JoinConfig Curve.full := ⟨.ofByte 1, "x86_64", none⟩

/-- A satellite on an arm64 host that emulates amd64, with key bytes all two. -/
def arm64Join : JoinConfig Curve.full := ⟨.ofByte 3, "aarch64", some ["linux/amd64"]⟩

end Join

end OrbitBuild
