import OrbitBuild.Foundation.Transition
import OrbitBuild.Tunnel.Lane
import Mathlib.Logic.Function.Basic
import Mathlib.Tactic.MkIffOfInductiveProp
import Mathlib.Tactic.Tauto

/-! # Build sessions

`proxy_session` beside the client and `BuildProxy::accept` beside buildkitd run the
same two copies under `try_join!`, each over one direction's first half and the
other direction's second half. A session starts when both have the stream and their
Unix socket. When an endpoint ends, its connection and its Unix socket are dropped.
The drop is taken to close the connection at once: the finish that quinn gives a send
stream dropped with its endpoint does not travel ahead of the close.
-/

namespace OrbitBuild.Tunnel

/-- Where an endpoint runs, and which end writes to it. -/
inductive Side
  | client
  | buildkitd
  deriving DecidableEq, Repr

def Side.other : Side → Side
  | .client => .buildkitd
  | .buildkitd => .client

@[simp] theorem Side.other_other (side : Side) : side.other.other = side := by
  cases side <;> rfl

@[simp] theorem Side.other_ne (side : Side) : side.other ≠ side := by
  cases side <;> nofun

@[simp] theorem Side.ne_other (side : Side) : side ≠ side.other :=
  side.other_ne.symm

theorem Side.other_eq_iff (first second : Side) : first.other = second ↔ first = second.other := by
  cases first <;> cases second <;> decide

theorem Side.eq_or_other (side place : Side) : place = side ∨ place = side.other := by
  cases side <;> cases place <;> decide

theorem Side.forall_iff (holds : Side → Prop) :
    (∀ side, holds side) ↔ holds .client ∧ holds .buildkitd := by
  constructor
  · intro all
    exact ⟨all .client, all .buildkitd⟩
  · rintro ⟨atClient, atBuildkitd⟩ (_ | _)
    · exact atClient
    · exact atBuildkitd

instance Side.decidableForall (holds : Side → Prop) [∀ side, Decidable (holds side)] :
    Decidable (∀ side, holds side) :=
  decidable_of_iff _ (Side.forall_iff holds).symm

inductive EndpointStatus
  | running
  /-- Both copies are done. -/
  | returned
  /-- A copy failed, and `try_join!` gave up the other. -/
  | failed
  /-- The network, the process or its socket failed. -/
  | crashed
  deriving DecidableEq, Repr

structure Session (α : Type) where
  /-- The direction of what each side writes. -/
  lane : Side → Lane α
  endpoint : Side → EndpointStatus

inductive Action (α : Type)
  | lane (side : Side) (action : LaneAction α)
  /-- `try_join!` has both results, and the endpoint ends. -/
  | complete (side : Side)
  | crash (side : Side)
  deriving DecidableEq, Repr

namespace Session

variable {α : Type}

def initial : Session α where
  lane := fun _ => .initial
  endpoint := fun _ => .running

/-- `try_join!` of the endpoint's copies, towards the stream and towards the socket. -/
def completed (session : Session α) (side : Side) : Option (Nat × Nat) :=
  CopyLoop.join (session.lane side).outbound (session.lane side.other).inbound

/-- `Ok((to_sat, to_local))` -/
def proxySession (session : Session α) : Option (Nat × Nat) :=
  session.completed .client

/-- `Ok((to_quic, to_unix))` -/
def accept (session : Session α) : Option (Nat × Nat) :=
  session.completed .buildkitd

/-- Who has to be there for a step of a direction. -/
def Permits (session : Session α) (side : Side) : LaneAction α → Prop
  | .close | .read _ => True
  | .write _ | .pull _ | .push _ | .finish => session.endpoint side = .running
  | .loseSend => session.endpoint side = .running ∧ session.endpoint side.other ≠ .running
  -- Dropping the connection discards what has not been received.
  | .arrive _ | .arriveFin =>
      session.endpoint side = .running ∧ session.endpoint side.other = .running
  | .take _ | .give _ | .finishReceive => session.endpoint side.other = .running
  | .loseReceive => session.endpoint side.other = .running ∧ session.endpoint side ≠ .running
  -- The write half is not shut down before the socket is dropped.
  | .readEof => session.endpoint side.other ≠ .running

instance (session : Session α) (side : Side) :
    (action : LaneAction α) → Decidable (session.Permits side action)
  | .close | .read _ => inferInstanceAs (Decidable True)
  | .write _ | .pull _ | .push _ | .finish =>
      inferInstanceAs (Decidable (session.endpoint side = .running))
  | .loseSend =>
      inferInstanceAs (Decidable (session.endpoint side = .running ∧
        session.endpoint side.other ≠ .running))
  | .arrive _ | .arriveFin =>
      inferInstanceAs (Decidable (session.endpoint side = .running ∧
        session.endpoint side.other = .running))
  | .take _ | .give _ | .finishReceive =>
      inferInstanceAs (Decidable (session.endpoint side.other = .running))
  | .loseReceive =>
      inferInstanceAs (Decidable (session.endpoint side.other = .running ∧
        session.endpoint side ≠ .running))
  | .readEof => inferInstanceAs (Decidable (session.endpoint side.other ≠ .running))

/-- The endpoints after a step: `try_join!` fails with the first copy that fails. -/
def settle (endpoint : Side → EndpointStatus) (side : Side) :
    LaneAction α → Side → EndpointStatus
  | .loseSend => Function.update endpoint side .failed
  | .loseReceive => Function.update endpoint side.other .failed
  | _ => endpoint

def step (session : Session α) : Action α → Option (Session α)
  | .lane side action =>
      if session.Permits side action then
        ((session.lane side).step action).map fun lane =>
          { lane := Function.update session.lane side lane
            endpoint := settle session.endpoint side action }
      else none
  | .complete side =>
      if session.endpoint side = .running ∧ (session.completed side).isSome then
        some { session with endpoint := Function.update session.endpoint side .returned }
      else none
  | .crash side =>
      if session.endpoint side = .running then
        some { session with endpoint := Function.update session.endpoint side .crashed }
      else none

abbrev ReachableState (session : Session α) : Prop :=
  Transition.Reachable step initial session

/-- Both counts are there once both copies have finished. -/
theorem completed_isSome {session : Session α} {side : Side} :
    (session.completed side).isSome ↔
      (session.lane side).outbound.status = .finished ∧
        (session.lane side.other).inbound.status = .finished := by
  unfold completed CopyLoop.join
  split
  case isTrue both => simp only [both, and_self, Option.isSome_some]
  case isFalse apart => simp only [apart, Option.isSome_none, Bool.false_eq_true]

/-- A step of a direction changes that direction, and an endpoint only if a copy fails. -/
theorem step_lane {session next : Session α} {side : Side} {action : LaneAction α}
    (moved : step session (.lane side action) = some next) :
    session.Permits side action ∧ ∃ lane, (session.lane side).step action = some lane ∧
      next.lane = Function.update session.lane side lane ∧
      next.endpoint = settle session.endpoint side action := by
  obtain ⟨permitted, enabled⟩ := Option.ite_none_right_eq_some.mp moved
  obtain ⟨lane, stepped, rfl⟩ := Option.map_eq_some_iff.mp enabled
  exact ⟨permitted, lane, stepped, rfl, rfl⟩

/-- An endpoint fails with the first of its copies that fails. -/
theorem settle_failed (endpoint : Side → EndpointStatus) (side place : Side)
    (action : LaneAction α) :
    settle endpoint side action place = .failed ↔
      endpoint place = .failed ∨ (action = .loseSend ∧ place = side) ∨
        (action = .loseReceive ∧ place = side.other) := by
  cases action
  case loseSend =>
    by_cases same : place = side
    · simp only [settle, same, Function.update_self, true_and, true_or, or_true]
    · simp only [settle, same, ne_eq, not_false_eq_true, Function.update_of_ne, and_false,
        false_and, or_false, reduceCtorEq]
  case loseReceive =>
    by_cases same : place = side.other
    · simp only [settle, same, Function.update_self, true_and, or_true]
    · simp only [settle, same, ne_eq, not_false_eq_true, Function.update_of_ne, and_false,
        false_and, or_false, reduceCtorEq]
  all_goals simp only [settle, false_and, or_false, reduceCtorEq]

/-- An endpoint that has not failed is as it was. -/
theorem settle_of_ne_failed {endpoint : Side → EndpointStatus} {side place : Side}
    {action : LaneAction α} (sound : settle endpoint side action place ≠ .failed) :
    settle endpoint side action place = endpoint place := by
  cases action
  case loseSend =>
    by_cases same : place = side
    · exact absurd ((settle_failed ..).mpr (.inr (.inl ⟨rfl, same⟩))) sound
    · exact Function.update_of_ne same ..
  case loseReceive =>
    by_cases same : place = side.other
    · exact absurd ((settle_failed ..).mpr (.inr (.inr ⟨rfl, same⟩))) sound
    · exact Function.update_of_ne same ..
  all_goals rfl

/-- A first copy fails by its own step alone. -/
theorem update_failed_outbound {session : Session α} {side place : Side} {action : LaneAction α}
    {lane : Lane α} (stepped : (session.lane side).step action = some lane) :
    (Function.update session.lane side lane place).outbound.status = .failed ↔
      (session.lane place).outbound.status = .failed ∨ (action = .loseSend ∧ place = side) := by
  by_cases same : place = side
  · subst same
    rw [Function.update_self, Lane.step_outbound_failed stepped, and_iff_left rfl]
  · rw [Function.update_of_ne same]
    simp only [same, and_false, or_false]

/-- A second copy fails by its own step alone. -/
theorem update_failed_inbound {session : Session α} {side place : Side} {action : LaneAction α}
    {lane : Lane α} (stepped : (session.lane side).step action = some lane) :
    (Function.update session.lane side lane place).inbound.status = .failed ↔
      (session.lane place).inbound.status = .failed ∨ (action = .loseReceive ∧ place = side) := by
  by_cases same : place = side
  · subst same
    rw [Function.update_self, Lane.step_inbound_failed stepped, and_iff_left rfl]
  · rw [Function.update_of_ne same]
    simp only [same, and_false, or_false]

/-- The counts of an endpoint whose copies are done do not change. -/
theorem completed_step {session next : Session α} {action : Action α} {place : Side}
    {counts : Nat × Nat} (moved : step session action = some next)
    (done : session.completed place = some counts) : next.completed place = some counts := by
  cases action with
  | lane side action =>
      obtain ⟨-, lane, stepped, lanes, -⟩ := step_lane moved
      obtain ⟨⟨sent, received⟩, -⟩ := CopyLoop.join_eq_some.mp done
      have outbound : (next.lane place).outbound = (session.lane place).outbound := by
        rw [lanes]
        by_cases same : place = side
        · subst same
          rw [Function.update_self]
          exact Lane.step_outbound_finished stepped sent
        · rw [Function.update_of_ne same]
      have inbound : (next.lane place.other).inbound = (session.lane place.other).inbound := by
        rw [lanes]
        by_cases same : place.other = side
        · subst same
          rw [Function.update_self]
          exact Lane.step_inbound_finished stepped received
        · rw [Function.update_of_ne same]
      rw [completed, outbound, inbound]
      exact done
  | complete side | crash side =>
      obtain ⟨-, equation⟩ := Option.ite_none_right_eq_some.mp moved
      obtain rfl := Option.some.inj equation
      exact done

/-- Both directions are valid, and the endpoints are where their copies put them. -/
structure Valid (session : Session α) : Prop where
  lanes : ∀ side, (session.lane side).Valid
  returned : ∀ side, session.endpoint side = .returned → (session.completed side).isSome
  failed : ∀ side, session.endpoint side = .failed ↔
    (session.lane side).outbound.status = .failed ∨
      (session.lane side.other).inbound.status = .failed
  ended : ∀ side, (session.lane side).eof = true → session.endpoint side.other ≠ .running

theorem Valid.initial : (Session.initial : Session α).Valid where
  lanes := fun _ => .initial
  returned := nofun
  failed := fun _ => ⟨nofun, nofun⟩
  ended := nofun

namespace Valid

variable {session next : Session α}

/-- Ending one endpoint that runs, otherwise than by a failed copy. -/
theorem stop (valid : session.Valid) {side : Side} {status : EndpointStatus}
    (running : session.endpoint side = .running) (stopped : status ≠ .running)
    (sound : status ≠ .failed) (done : status = .returned → (session.completed side).isSome) :
    Valid { session with endpoint := Function.update session.endpoint side status } := by
  refine ⟨valid.lanes, ?_, ?_, ?_⟩
  · intro place returned
    by_cases same : place = side
    · subst same
      exact done (by simpa only [Function.update_self] using returned)
    · exact valid.returned place (by simpa only [Function.update_of_ne same] using returned)
  · intro place
    rw [← valid.failed place]
    by_cases same : place = side
    · subst same
      simp only [Function.update_self, sound, running, reduceCtorEq]
    · simp only [Function.update_of_ne same]
  · intro place eof
    by_cases same : place.other = side
    · simpa only [same, Function.update_self] using stopped
    · simpa only [Function.update_of_ne same] using valid.ended place eof

/-- A step of a direction keeps the session valid. -/
theorem lane_step (valid : session.Valid) {side : Side} {action : LaneAction α}
    (moved : Session.step session (.lane side action) = some next) : next.Valid := by
  obtain ⟨permitted, lane, stepped, lanes, endpoints⟩ := step_lane moved
  refine ⟨?_, ?_, ?_, ?_⟩
  · intro place
    rw [lanes]
    by_cases same : place = side
    · subst same
      rw [Function.update_self]
      exact (valid.lanes place).step stepped
    · rw [Function.update_of_ne same]
      exact valid.lanes place
  · intro place returned
    rw [endpoints] at returned
    rw [settle_of_ne_failed (by rw [returned]; nofun)] at returned
    have both := valid.returned place returned
    obtain ⟨counts, done⟩ := Option.isSome_iff_exists.mp both
    exact Option.isSome_iff_exists.mpr ⟨counts, completed_step moved done⟩
  · intro place
    rw [endpoints, settle_failed, valid.failed place, lanes, update_failed_outbound stepped,
      update_failed_inbound stepped, Side.other_eq_iff]
    tauto
  · intro place eof
    have before : session.endpoint place.other ≠ .running := by
      rw [lanes] at eof
      by_cases same : place = side
      · subst same
        rw [Function.update_self] at eof
        rcases (Lane.step_footprint stepped).eof eof with ended | rfl
        · exact valid.ended place ended
        · exact permitted
      · rw [Function.update_of_ne same] at eof
        exact valid.ended place eof
    intro running
    rw [endpoints] at running
    rw [settle_of_ne_failed (by rw [running]; nofun)] at running
    exact before running

/-- **Every step of a session** keeps it valid. -/
theorem step (valid : session.Valid) {action : Action α}
    (moved : Session.step session action = some next) : next.Valid := by
  cases action with
  | lane side action => exact valid.lane_step moved
  | complete side =>
      obtain ⟨⟨running, both⟩, equation⟩ := Option.ite_none_right_eq_some.mp moved
      obtain rfl := Option.some.inj equation
      exact valid.stop running nofun nofun fun _ => both
  | crash side =>
      obtain ⟨running, equation⟩ := Option.ite_none_right_eq_some.mp moved
      obtain rfl := Option.some.inj equation
      exact valid.stop running nofun nofun nofun

end Valid

/-- Every reachable session is valid. -/
theorem ReachableState.valid {session : Session α} (reached : session.ReachableState) :
    session.Valid :=
  reached.invariant (fun _ _ _ valid moved => valid.step moved) .initial

end Session

end OrbitBuild.Tunnel
