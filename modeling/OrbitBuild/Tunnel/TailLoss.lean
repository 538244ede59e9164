import OrbitBuild.Tunnel.Session

/-! # The tail of a direction

`finish()` does not wait for delivery. An endpoint whose copies are done drops its
connection, and with it what it has sent and its peer has not received.
-/

namespace OrbitBuild.Tunnel

variable {α : Type}

/-- A copy that runs can take everything that has arrived. -/
theorem Lane.take_all {lane : Lane α} (receiving : lane.inbound.status = .running)
    (present : lane.arrived ≠ []) :
    lane.step (.take lane.arrived.length) =
      some { lane with
        inbound := { lane.inbound with held := lane.inbound.held ++ lane.arrived }
        arrived := [] } := by
  simp only [Lane.step, CopyLoop.pull, if_pos receiving, transfer_all _ present, Option.map_some]

/-- A copy that runs can fail once nothing more is there for it. -/
theorem Lane.loseReceive_some {lane : Lane α} (receiving : lane.inbound.status = .running)
    (drained : lane.arrived = []) (unended : lane.finArrived = false) :
    lane.step .loseReceive =
      some { lane with inbound := { lane.inbound with status := .failed } } := by
  simp only [Lane.step, CopyLoop.fail, drained, unended, and_self, if_true, if_pos receiving,
    Option.map_some]

namespace Session

/-- No endpoint has crashed, now or on the way here. -/
def Unharmed (session : Session α) : Prop :=
  ∀ side, session.endpoint side ≠ .crashed

instance (session : Session α) : Decidable session.Unharmed :=
  inferInstanceAs (Decidable (∀ side, session.endpoint side ≠ .crashed))

/-- In no later state has the peer's receive side ended after yielding less than what
the endpoint sent. -/
def KeepsTail (session : Session α) (side : Side) (sent : Nat) : Prop :=
  ∀ later, Transition.Reachable step session later → later.Unharmed →
    (later.lane side).inbound.status ≠ .running → sent ≤ (later.lane side).yielded

section Tail

variable {session : Session α} {side : Side} {counts : Nat × Nat}

/-- What an endpoint has sent is at the peer or on the way. -/
theorem Valid.sent_eq (valid : session.Valid) (done : session.completed side = some counts) :
    counts.1 = (session.lane side).yielded + (session.lane side).arrived.length +
      (session.lane side).flight.length := by
  obtain ⟨-, rfl⟩ := CopyLoop.join_eq_some.mp done
  exact (valid.lanes side).sent

/-- What has all been received stays received. -/
theorem flight_step {next : Session α} {action : Action α} (moved : step session action = some next)
    (done : session.completed side = some counts) (landed : (session.lane side).flight = []) :
    (next.lane side).flight = [] := by
  cases action with
  | lane mover action =>
      obtain ⟨-, lane, stepped, lanes, -⟩ := step_lane moved
      obtain ⟨⟨sent, -⟩, -⟩ := CopyLoop.join_eq_some.mp done
      rw [lanes]
      by_cases same : side = mover
      · subst same
        rw [Function.update_self]
        apply (Lane.step_footprint stepped).flight landed
        rw [sent]
        nofun
      · rw [Function.update_of_ne same]
        exact landed
  | complete mover | crash mover =>
      obtain ⟨-, equation⟩ := Option.ite_none_right_eq_some.mp moved
      obtain rfl := Option.some.inj equation
      exact landed

/-- Once everything sent has been received, nothing of it can be lost. -/
theorem Valid.keepsTail (valid : session.Valid) (done : session.completed side = some counts)
    (landed : (session.lane side).flight = []) : session.KeepsTail side counts.1 := by
  intro later reachable _ ended
  obtain ⟨laterValid, laterDone, laterLanded⟩ :
      later.Valid ∧ later.completed side = some counts ∧ (later.lane side).flight = [] := by
    refine reachable.invariant (motive := fun state =>
      state.Valid ∧ state.completed side = some counts ∧ (state.lane side).flight = [])
      ?_ ⟨valid, done, landed⟩
    intro state action next both moved
    obtain ⟨holds, finished, empty⟩ := both
    exact ⟨holds.step moved, completed_step moved finished, flight_step moved finished empty⟩
  have lane := laterValid.lanes side
  have drained : (later.lane side).arrived = [] := by
    cases status : (later.lane side).inbound.status with
    | running => exact absurd status ended
    | finished => exact (lane.receiveDone status).2.1
    | failed => exact (lane.receiveLost status).1
  have sent := laterValid.sent_eq laterDone
  rw [drained, laterLanded] at sent
  exact Nat.le_of_eq sent

/-- The peer can take all it has received. -/
theorem exists_drained (listening : session.endpoint side.other = .running)
    (receiving : (session.lane side).inbound.status = .running) :
    ∃ later, Transition.Reachable step session later ∧ later.endpoint = session.endpoint ∧
      (later.lane side).arrived = [] ∧ (later.lane side).inbound.status = .running ∧
      (later.lane side).flight = (session.lane side).flight ∧
      (later.lane side).finArrived = (session.lane side).finArrived := by
  by_cases drained : (session.lane side).arrived = []
  · exact ⟨session, .refl session, rfl, drained, receiving, rfl, rfl⟩
  · have moved : step session (.lane side (.take (session.lane side).arrived.length)) = some _ :=
      (if_pos listening).trans (congrArg (Option.map _) (Lane.take_all receiving drained))
    refine ⟨_, (Transition.Reachable.refl session).snoc moved, rfl, ?_⟩
    simp only [Function.update_self, receiving, and_self]

/-- With the connection dropped, its receive side then ends with an error. -/
theorem exists_lost (gone : session.endpoint side = .returned)
    (listening : session.endpoint side.other = .running)
    (receiving : (session.lane side).inbound.status = .running)
    (unended : (session.lane side).finArrived = false) :
    ∃ later, Transition.Reachable step session later ∧ later.Unharmed ∧
      (later.lane side).inbound.status = .failed ∧
      (later.lane side).flight = (session.lane side).flight := by
  obtain ⟨drained, reachable, endpoints, empty, running, flight, fin⟩ :=
    exists_drained listening receiving
  have permitted : drained.Permits side .loseReceive := by
    refine ⟨by rw [endpoints]; exact listening, ?_⟩
    rw [endpoints, gone]
    nofun
  have moved : step drained (.lane side .loseReceive) = some _ :=
    (if_pos permitted).trans (congrArg (Option.map _)
      (Lane.loseReceive_some running empty (fin.trans unended)))
  refine ⟨_, reachable.snoc moved, ?_, ?_⟩
  · intro place
    rcases side.eq_or_other place with rfl | rfl
    · simp only [settle, ne_eq, Side.ne_other, not_false_eq_true, Function.update_of_ne, endpoints,
        gone, reduceCtorEq]
    · simp only [settle, Function.update_self, ne_eq, reduceCtorEq, not_false_eq_true]
  · simp only [Function.update_self, flight, and_self]

/-- An endpoint whose copies are done runs or has returned. -/
theorem Valid.running_or_returned (valid : session.Valid) (unharmed : session.Unharmed)
    (done : session.completed side = some counts) :
    session.endpoint side = .running ∨ session.endpoint side = .returned := by
  obtain ⟨⟨sent, received⟩, -⟩ := CopyLoop.join_eq_some.mp done
  cases status : session.endpoint side with
  | running => exact .inl rfl
  | returned => exact .inr rfl
  | crashed => exact absurd status (unharmed side)
  | failed =>
      rcases (valid.failed side).mp status with lost | lost
      · cases sent.symm.trans lost
      · cases received.symm.trans lost

/-- Its peer still runs while its receive side does. -/
theorem Valid.other_running (valid : session.Valid) (unharmed : session.Unharmed)
    (done : session.completed side = some counts)
    (receiving : (session.lane side).inbound.status = .running) :
    session.endpoint side.other = .running := by
  obtain ⟨⟨-, received⟩, -⟩ := CopyLoop.join_eq_some.mp done
  have peerSent : (session.lane side.other).outbound.status = .finished :=
    ((valid.lanes side.other).finDone ((valid.lanes side.other).receiveDone received).1).1
  cases status : session.endpoint side.other with
  | running => rfl
  | returned =>
      have both := (completed_isSome.mp (valid.returned side.other status)).2
      rw [Side.other_other] at both
      cases receiving.symm.trans both
  | crashed => exact absurd status (unharmed side.other)
  | failed =>
      rcases (valid.failed side.other).mp status with lost | lost
      · cases peerSent.symm.trans lost
      · rw [Side.other_other] at lost
        cases receiving.symm.trans lost

/-- The endpoint returns, unless it has. -/
theorem exists_returned (valid : session.Valid) (unharmed : session.Unharmed)
    (done : session.completed side = some counts) :
    ∃ later, Transition.Reachable step session later ∧ later.lane = session.lane ∧
      later.endpoint side = .returned ∧
      later.endpoint side.other = session.endpoint side.other := by
  rcases valid.running_or_returned unharmed done with running | returned
  · have moved : step session (.complete side) = some _ :=
      if_pos ⟨running, by simp only [done, Option.isSome_some]⟩
    refine ⟨_, (Transition.Reachable.refl session).snoc moved, rfl, ?_⟩
    simp only [Function.update_self, ne_eq, Side.other_ne, not_false_eq_true,
      Function.update_of_ne, and_self]
  · exact ⟨session, .refl session, rfl, returned, rfl⟩

/-- A byte on the way can be lost when the endpoint returns. -/
theorem Valid.flight_nil (valid : session.Valid) (unharmed : session.Unharmed)
    (done : session.completed side = some counts) (kept : session.KeepsTail side counts.1) :
    (session.lane side).flight = [] := by
  by_contra flying
  have unended : (session.lane side).finArrived = false := by
    by_contra fin
    exact flying ((valid.lanes side).finDone (Bool.not_eq_false _ ▸ fin)).2
  have positive := List.length_pos_iff.mpr flying
  cases status : (session.lane side).inbound.status with
  | finished => cases unended.symm.trans ((valid.lanes side).receiveDone status).1
  | failed =>
      have all := kept session (.refl session) unharmed (by rw [status]; nofun)
      have sent := valid.sent_eq done
      omega
  | running =>
      have listening := valid.other_running unharmed done status
      obtain ⟨returned, toReturned, lanes, gone, peer⟩ := exists_returned valid unharmed done
      obtain ⟨later, toLater, harmless, lost, flight⟩ :=
        exists_lost gone (peer.trans listening) (by rw [lanes]; exact status)
          (by rw [lanes]; exact unended)
      have reachable := toReturned.trans toLater
      have all := kept later reachable harmless (by rw [lost]; nofun)
      have laterValid := reachable.invariant (fun _ _ _ holds moved => holds.step moved) valid
      have laterDone := reachable.invariant
        (fun _ _ _ holds moved => completed_step moved holds) done
      have sent := laterValid.sent_eq laterDone
      rw [flight, lanes] at sent
      omega

end Tail

/-- **The tail.** What an endpoint whose copies are done has sent can be lost exactly if
some of it has not been received yet. -/
theorem keepsTail_iff {session : Session α} (reached : session.ReachableState)
    (unharmed : session.Unharmed) :
    (∀ counts, session.accept = some counts →
      (session.KeepsTail .buildkitd counts.1 ↔ (session.lane .buildkitd).flight = [])) ∧
    (∀ counts, session.proxySession = some counts →
      (session.KeepsTail .client counts.1 ↔ (session.lane .client).flight = [])) := by
  have valid := reached.valid
  have tail : ∀ side counts, session.completed side = some counts →
      (session.KeepsTail side counts.1 ↔ (session.lane side).flight = []) :=
    fun side counts done => ⟨valid.flight_nil unharmed done, valid.keepsTail done⟩
  exact ⟨tail .buildkitd, tail .client⟩

/-- The client closes, buildkitd answers with a byte and closes, and its endpoint is done. -/
def answerRun : List (Action Nat) :=
  [.lane .client .close, .lane .client .finish, .lane .client .arriveFin,
    .lane .client .finishReceive, .lane .buildkitd (.write [7]), .lane .buildkitd .close,
    .lane .buildkitd (.pull 1), .lane .buildkitd (.push 1), .lane .buildkitd .finish]

/-- The endpoint is done and its answer is still on the way. -/
def answered : Session Nat :=
  (Transition.run step initial answerRun).getD initial

/-- The same, with the answer received. -/
def answerReceived : Session Nat :=
  (Transition.run step initial (answerRun ++ [.lane .buildkitd (.arrive 1)])).getD initial

theorem answerReceived_kept :
    answerReceived.accept = some (1, 0) ∧ answerReceived.KeepsTail .buildkitd 1 := by
  have reached : answerReceived.ReachableState :=
    ⟨answerRun ++ [.lane .buildkitd (.arrive 1)], rfl⟩
  exact ⟨rfl, ((keepsTail_iff reached (by decide)).1 (1, 0) rfl).mpr rfl⟩

theorem answered_lost :
    Transition.run step initial answerRun = some answered ∧ answered.Unharmed ∧
      answered.accept = some (1, 0) ∧ ¬ answered.KeepsTail .buildkitd 1 := by
  refine ⟨rfl, by decide, rfl, ?_⟩
  intro kept
  -- The endpoint returns, and the connection is gone before the byte arrives.
  have all := kept _ ⟨[.complete .buildkitd, .lane .buildkitd .loseReceive], rfl⟩ (by decide)
    (by decide)
  exact absurd all (by decide)

end Session

end OrbitBuild.Tunnel
