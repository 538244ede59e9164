import OrbitBuild.Satellite.Join

/-! # The offline write and the heartbeat

The shutdown path writes the offline entry before it aborts the heartbeat task,
so a heartbeat that ticks in between overwrites it. The offline entry stays the
last value exactly when the heartbeat is parked while the write reaches the Doc
engine and its interval does not fire before the abort.
-/

namespace OrbitBuild

variable {curve : Curve}

namespace Join

/-- The phases in which the offline write has reached the Doc engine. -/
def MainPhase.offlineStored : MainPhase → Bool
  | .offlineSent | .offlineWritten | .eventsAborted | .heartbeatAborted | .returned => true
  | .joining | .registered | .serving | .leaving => false

/-- The heartbeat task is at its tick, awaits the reply of an earlier write, or is gone. -/
def HeartbeatPhase.parked : HeartbeatPhase curve → Bool
  | .ticking | .awaitingReply | .cancelled => true
  | .notSpawned | .running | .sending _ => false

/-- The offline entry is the last value of the run: nothing was stored after it. -/
def Run.EndsOffline (config : JoinConfig curve) (run : Run curve) : Prop :=
  ∃ front now, run.stored = front ++ [config.offlineEntry now]

/-- A step that leaves the heartbeat out of the shutdown: the offline write is
sent while the heartbeat is parked, and the interval does not fire from then on. -/
def Undisturbed (run : Run curve) : Action → Prop
  | .sendOffline _ => run.state.heartbeat.parked = true
  | .tick => run.state.main.offlineStored = false
  | _ => True

instance (run : Run curve) (action : Action) : Decidable (Undisturbed run action) := by
  cases action <;> unfold Undisturbed <;> infer_instance

/-- A run that ends offline has offline as its last status. -/
theorem Run.EndsOffline.lastStatus {config : JoinConfig curve} {run : Run curve}
    (ends : run.EndsOffline config) : run.lastStatus = some SatelliteStatus.offline.display := by
  obtain ⟨front, now, stored⟩ := ends
  rw [Run.lastStatus, stored, List.getLast?_concat]
  rfl

/-- The offline write is the only step into the phases after it. -/
theorem step_offlineStored {config : JoinConfig curve} {state next : State curve} {action : Action}
    {written : Option (SatelliteEntry curve)}
    (stepped : step config state action = some (next, written))
    (after : next.main.offlineStored = true) :
    state.main.offlineStored = true ∨
      ∃ now, action = .sendOffline now ∧ written = some (config.offlineEntry now) ∧
        next.heartbeat = state.heartbeat := by
  cases action with
  | sendOffline now =>
      obtain ⟨-, equation⟩ := Option.ite_none_right_eq_some.mp stepped
      cases equation
      exact Or.inr ⟨now, rfl, rfl, rfl⟩
  -- These lead to phases before the write.
  | register _ | spawnHeartbeat | ctrlC =>
      obtain ⟨-, equation⟩ := Option.ite_none_right_eq_some.mp stepped
      cases equation
      cases after
  -- These start in phases after it.
  | offlineReply | abortEvents | abortHeartbeat | shutdownRouter =>
      obtain ⟨phase, -⟩ := Option.ite_none_right_eq_some.mp stepped
      left
      rw [phase]
      rfl
  | tick | submit _ | suspend _ | reply =>
      obtain ⟨-, equation⟩ := Option.ite_none_right_eq_some.mp stepped
      cases equation
      exact Or.inl after
  | addressChanges _ =>
      cases stepped
      exact Or.inl after
  | resume =>
      obtain ⟨entry, -, rfl, -⟩ := step_resume_eq_some stepped
      exact Or.inl after
  | cancel =>
      obtain ⟨-, rfl, -⟩ := step_cancel_eq_some stepped
      exact Or.inl after

/-- Once the offline write is out, a parked heartbeat stores nothing and stays
parked for as long as its interval does not fire. -/
theorem step_parked {config : JoinConfig curve} {state next : State curve} {action : Action}
    {written : Option (SatelliteEntry curve)}
    (stepped : step config state action = some (next, written))
    (after : state.main.offlineStored = true) (parked : state.heartbeat.parked = true)
    (silent : action ≠ .tick) : written = none ∧ next.heartbeat.parked = true := by
  cases action with
  | tick => exact (silent rfl).elim
  -- The main function is past these.
  | register _ | spawnHeartbeat | ctrlC | sendOffline _ =>
      obtain ⟨phase, -⟩ := Option.ite_none_right_eq_some.mp stepped
      rw [phase] at after
      cases after
  | offlineReply | abortEvents | abortHeartbeat | shutdownRouter =>
      obtain ⟨-, equation⟩ := Option.ite_none_right_eq_some.mp stepped
      cases equation
      exact ⟨rfl, parked⟩
  -- A parked task is not on a worker thread.
  | submit _ | suspend _ =>
      obtain ⟨running, -⟩ := Option.ite_none_right_eq_some.mp stepped
      rw [running] at parked
      cases parked
  | resume =>
      obtain ⟨entry, sending, -⟩ := step_resume_eq_some stepped
      rw [sending] at parked
      cases parked
  | reply =>
      obtain ⟨-, equation⟩ := Option.ite_none_right_eq_some.mp stepped
      cases equation
      exact ⟨rfl, rfl⟩
  | cancel =>
      obtain ⟨-, rfl, rfl⟩ := step_cancel_eq_some stepped
      exact ⟨rfl, rfl⟩
  | addressChanges _ =>
      cases stepped
      exact ⟨rfl, parked⟩

/-- What holds along an undisturbed run. -/
def ShutdownInvariant (config : JoinConfig curve) (run : Run curve) : Prop :=
  run.state.main.offlineStored = true →
    run.EndsOffline config ∧ run.state.heartbeat.parked = true

/-- An undisturbed step keeps the offline entry the last one. -/
theorem ShutdownInvariant.step {config : JoinConfig curve} {run next : Run curve} {action : Action}
    (valid : ShutdownInvariant config run) (undisturbed : Undisturbed run action)
    (moved : Run.step config run action = some next) : ShutdownInvariant config next := by
  obtain ⟨written, stepped, stored⟩ := Run.step_eq_some.mp moved
  intro after
  rcases step_offlineStored stepped after with before | ⟨now, rfl, rfl, same⟩
  · obtain ⟨⟨front, now, ends⟩, parked⟩ := valid before
    have silent : action ≠ .tick := by
      rintro rfl
      exact Bool.false_ne_true (undisturbed.symm.trans before)
    obtain ⟨rfl, stays⟩ := step_parked stepped before parked silent
    refine ⟨⟨front, now, ?_⟩, stays⟩
    rw [stored, ends, Option.toList_none, List.append_nil]
  · refine ⟨⟨run.stored, now, stored⟩, ?_⟩
    rw [same]
    exact undisturbed

/-- **The last stored value.** When the heartbeat is parked while the offline
write reaches the Doc engine and does not tick before its abort, the run returns
with the offline entry as its last value. -/
theorem returned_endsOffline (config : JoinConfig curve) (addrs : List TransportAddr)
    (actions : List Action) (final : Run curve)
    (undisturbed :
      Transition.Meets (Run.step config) Undisturbed (Run.initial config addrs) actions)
    (reached : Transition.run (Run.step config) (Run.initial config addrs) actions = some final)
    (returned : final.state.main = .returned) :
    final.EndsOffline config ∧ final.lastStatus = some SatelliteStatus.offline.display := by
  have valid : ShutdownInvariant config final :=
    Transition.run_invariant_of_meets
      (fun _ _ _ valid allowed moved => valid.step allowed moved)
      (fun after => by cases after) undisturbed reached
  obtain ⟨ends, -⟩ := valid (by rw [returned]; rfl)
  exact ⟨ends, ends.lastStatus⟩

/-- A run whose heartbeat ticks, writes and is parked again before Ctrl+C. -/
def gracefulRun : List Action :=
  [.register 10, .spawnHeartbeat, .tick, .submit 11, .reply, .ctrlC, .sendOffline 12, .offlineReply,
    .abortEvents, .abortHeartbeat, .cancel, .shutdownRouter]

/-- A run whose heartbeat ticks while the reply to the offline write is awaited. -/
def racingRun : List Action :=
  [.register 10, .spawnHeartbeat, .ctrlC, .sendOffline 12, .tick, .submit 13, .offlineReply,
    .abortEvents, .abortHeartbeat, .cancel, .shutdownRouter]

theorem gracefulRun_endsOffline :
    ∃ final,
      Transition.run (Run.step amd64Join) (Run.initial amd64Join []) gracefulRun = some final ∧
      final.EndsOffline amd64Join ∧ final.lastStatus = some SatelliteStatus.offline.display :=
  ⟨_, rfl, returned_endsOffline amd64Join [] gracefulRun _ (by decide) rfl rfl⟩

/-- The racing run returns and leaves the node registered as idle. -/
theorem racingRun_endsIdle :
    (Transition.run (Run.step amd64Join) (Run.initial amd64Join []) racingRun).map
      (fun final => (final.state.main, final.lastStatus)) = some (.returned, some "idle") := by
  decide

end Join

end OrbitBuild
