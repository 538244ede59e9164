import OrbitBuild.Tunnel.Session

/-! # Passing on the end of a direction -/

namespace OrbitBuild.Tunnel

variable {α : Type}

instance (loop : CopyLoop α) (source : List α) (ended : Bool) :
    Decidable (loop.Blocked source ended) :=
  inferInstanceAs (Decidable (_ → _))

namespace Lane

variable (lane : Lane α)

/-- The first copy is blocked exactly if it has no step. -/
theorem outbound_blocked_iff :
    lane.outbound.Blocked lane.socket lane.closed ↔
      (∀ count, lane.step (.pull count) = none) ∧ (∀ count, lane.step (.push count) = none) ∧
        lane.step .finish = none := by
  rw [CopyLoop.blocked_iff _ _ lane.flight]
  simp only [step, Option.map_eq_none_iff]

/-- The second copy is blocked exactly if it has no step. -/
theorem inbound_blocked_iff :
    lane.inbound.Blocked lane.arrived lane.finArrived ↔
      (∀ count, lane.step (.take count) = none) ∧ (∀ count, lane.step (.give count) = none) ∧
        lane.step .finishReceive = none := by
  rw [CopyLoop.blocked_iff _ _ lane.delivered]
  simp only [step, Option.map_eq_none_iff]

/-- Everything sent has been received, the end included. -/
def Landed : Prop :=
  lane.inbound.status = .running →
    lane.flight = [] ∧ (lane.outbound.status = .finished → lane.finArrived = true)

instance : Decidable lane.Landed :=
  inferInstanceAs (Decidable (_ → _))

/-- Everything has landed exactly if nothing more can arrive. -/
theorem landed_iff :
    lane.Landed ↔ (∀ count, lane.step (.arrive count) = none) ∧ lane.step .arriveFin = none := by
  unfold Landed
  by_cases receiving : lane.inbound.status = .running
  · simp only [step, receiving, if_true, true_and, forall_const, Option.map_eq_none_iff,
      transfer_eq_none_iff, ite_eq_right_iff, reduceCtorEq, imp_false, not_and, Bool.not_eq_false]
    constructor
    · intro both
      exact ⟨both.1, fun finished _ => both.2 finished⟩
    · intro both
      exact ⟨both.1, fun finished => both.2 finished both.1⟩
  · simp only [step, receiving, if_false, false_and, implies_true, and_self, false_implies]

/-- Nothing is delivered exactly if nothing can be read. -/
theorem delivered_eq_nil_iff : lane.delivered = [] ↔ ∀ count, lane.step (.read count) = none := by
  simp only [step, Option.map_eq_none_iff, transfer_eq_none_iff]

variable {lane}

/-- A copy that holds nothing does not notice that its connection is gone. -/
theorem loseSend_eq_none (blocked : lane.outbound.Blocked lane.socket lane.closed) :
    lane.step .loseSend = none := by
  apply Option.eq_none_iff_forall_ne_some.mpr
  intro next lost
  obtain ⟨holding, broken⟩ := Option.ite_none_left_eq_some.mp lost
  obtain ⟨outbound, failed, -⟩ := Option.map_eq_some_iff.mp broken
  exact holding (blocked (CopyLoop.fail_spec failed).1).1

/-- A copy that waits for its stream does. -/
theorem loseReceive_eq_none_iff
    (blocked : lane.inbound.Blocked lane.arrived lane.finArrived) :
    lane.step .loseReceive = none ↔ lane.inbound.status ≠ .running := by
  constructor
  · intro stuck receiving
    obtain ⟨-, drained, unended⟩ := blocked receiving
    simp only [step, drained, unended, and_self, if_true, CopyLoop.fail, receiving,
      Option.map_some, reduceCtorEq] at stuck
  · intro ended
    apply Option.eq_none_iff_forall_ne_some.mpr
    intro next lost
    obtain ⟨-, broken⟩ := Option.ite_none_right_eq_some.mp lost
    obtain ⟨inbound, failed, -⟩ := Option.map_eq_some_iff.mp broken
    exact ended (CopyLoop.fail_spec failed).1

/-- A reader that has read everything still has the end to read. -/
theorem readEof_eq_none_iff (drained : lane.delivered = []) :
    lane.step .readEof = none ↔ lane.eof = true := by
  simp only [step, drained, true_and, ite_eq_right_iff, reduceCtorEq, imp_false,
    Bool.not_eq_false]

end Lane

/-- Steps of the endpoints, of the network, and of the two ends as they read. -/
def Action.Internal : Action α → Prop
  | .lane _ (.write _) | .lane _ .close | .crash _ => False
  | _ => True

namespace Session

/-- No copy step is enabled any more. -/
def Quiescent (session : Session α) : Prop :=
  ∀ action : Action α, action.Internal → step session action = none

/-- What keeps a direction still. -/
@[mk_iff]
structure Still (session : Session α) (side : Side) : Prop where
  sending : session.endpoint side = .running →
    (session.lane side).outbound.Blocked (session.lane side).socket (session.lane side).closed
  transit : session.endpoint side = .running ∧ session.endpoint side.other = .running →
    (session.lane side).Landed
  receiving : session.endpoint side.other = .running →
    (session.lane side).inbound.Blocked (session.lane side).arrived (session.lane side).finArrived ∧
      ((session.lane side).inbound.status = .running → session.endpoint side = .running)
  reading : (session.lane side).delivered = []
  ending : session.endpoint side.other ≠ .running → (session.lane side).eof = true
  joining : session.endpoint side = .running → session.completed side = none

instance (session : Session α) (side : Side) : Decidable (session.Still side) :=
  decidable_of_iff _ (still_iff session side).symm

/-- No endpoint has ended otherwise than with both counts. -/
def NoError (session : Session α) : Prop :=
  ∀ side, session.endpoint side = .running ∨ session.endpoint side = .returned

instance (session : Session α) : Decidable session.NoError :=
  inferInstanceAs (Decidable (∀ _, _ ∨ _))

/-- Each side whose peer has closed its writing side has read everything, and the end. -/
def HalfCloses (session : Session α) : Prop :=
  ∀ side, (session.lane side).closed = true →
    (session.lane side).read = (session.lane side).written ∧ (session.lane side).eof = true

/-- A permitted step is a step of its direction. -/
theorem lane_eq_none {session : Session α} {side : Side} {action : LaneAction α}
    (permitted : session.Permits side action) :
    step session (.lane side action) = none ↔ (session.lane side).step action = none := by
  simp only [step, if_pos permitted, Option.map_eq_none_iff]

/-- Where nothing can move, each direction is still. -/
theorem Quiescent.still {session : Session α} (quiescent : session.Quiescent) (side : Side) :
    session.Still side := by
  have stuck : ∀ action : LaneAction α, Action.Internal (.lane side action) →
      session.Permits side action → (session.lane side).step action = none :=
    fun action internal permitted => (lane_eq_none permitted).mp (quiescent _ internal)
  have reading : (session.lane side).delivered = [] :=
    (Lane.delivered_eq_nil_iff _).mpr fun count => stuck (.read count) trivial trivial
  refine ⟨?_, ?_, ?_, reading, ?_, ?_⟩
  · intro running
    exact (Lane.outbound_blocked_iff _).mpr ⟨fun count => stuck (.pull count) trivial running,
      fun count => stuck (.push count) trivial running, stuck .finish trivial running⟩
  · intro both
    exact (Lane.landed_iff _).mpr
      ⟨fun count => stuck (.arrive count) trivial both, stuck .arriveFin trivial both⟩
  · intro running
    have blocked := (Lane.inbound_blocked_iff (session.lane side)).mpr
      ⟨fun count => stuck (.take count) trivial running,
        fun count => stuck (.give count) trivial running, stuck .finishReceive trivial running⟩
    refine ⟨blocked, fun receiving => ?_⟩
    by_contra gone
    exact (Lane.loseReceive_eq_none_iff blocked).mp (stuck .loseReceive trivial ⟨running, gone⟩)
      receiving
  · intro stopped
    exact (Lane.readEof_eq_none_iff reading).mp (stuck .readEof trivial stopped)
  · intro running
    by_contra present
    have both : (session.completed side).isSome := Option.isSome_iff_ne_none.mpr present
    have blocked := quiescent (.complete side) trivial
    simp only [step, running, both, and_self, if_true, reduceCtorEq] at blocked

/-- In a still direction no internal step is enabled. -/
theorem Still.lane_eq_none {session : Session α} {side : Side} (still : session.Still side)
    {action : LaneAction α} (internal : Action.Internal (.lane side action))
    (permitted : session.Permits side action) : (session.lane side).step action = none := by
  cases action with
  | write | close => cases internal
  | pull count => exact ((Lane.outbound_blocked_iff _).mp (still.sending permitted)).1 count
  | push count => exact ((Lane.outbound_blocked_iff _).mp (still.sending permitted)).2.1 count
  | finish => exact ((Lane.outbound_blocked_iff _).mp (still.sending permitted)).2.2
  | loseSend => exact Lane.loseSend_eq_none (still.sending permitted.1)
  | arrive count => exact ((Lane.landed_iff _).mp (still.transit permitted)).1 count
  | arriveFin => exact ((Lane.landed_iff _).mp (still.transit permitted)).2
  | take count => exact ((Lane.inbound_blocked_iff _).mp (still.receiving permitted).1).1 count
  | give count => exact ((Lane.inbound_blocked_iff _).mp (still.receiving permitted).1).2.1 count
  | finishReceive => exact ((Lane.inbound_blocked_iff _).mp (still.receiving permitted).1).2.2
  | loseReceive =>
      obtain ⟨blocked, connected⟩ := still.receiving permitted.1
      exact (Lane.loseReceive_eq_none_iff blocked).mpr fun receiving =>
        permitted.2 (connected receiving)
  | read count => exact (Lane.delivered_eq_nil_iff _).mp still.reading count
  | readEof => exact (Lane.readEof_eq_none_iff still.reading).mpr (still.ending permitted)

/-- Nothing can move exactly where both directions are still. -/
theorem quiescent_iff (session : Session α) :
    session.Quiescent ↔ ∀ side, session.Still side := by
  constructor
  · exact fun quiescent side => quiescent.still side
  · intro still action internal
    cases action with
    | lane side action =>
        by_cases permitted : session.Permits side action
        · exact (lane_eq_none permitted).mpr ((still side).lane_eq_none internal permitted)
        · exact if_neg permitted
    | complete side =>
        apply if_neg
        intro both
        obtain ⟨running, both⟩ := both
        exact Option.isSome_iff_ne_none.mp both ((still side).joining running)
    | crash side => cases internal

section Drained

variable {session : Session α} {side : Side}

/-- The copy to the stream is done once its writer has closed. -/
theorem Valid.outbound_finished (valid : session.Valid) (still : session.Still side)
    (sound : session.NoError) (closed : (session.lane side).closed = true) :
    (session.lane side).outbound.status = .finished := by
  rcases sound side with running | returned
  · cases status : (session.lane side).outbound.status with
    | running =>
        cases closed.symm.trans (still.sending running status).2.2
    | finished => rfl
    | failed =>
        cases running.symm.trans ((valid.failed side).mpr (.inl status))
  · exact (completed_isSome.mp (valid.returned side returned)).1

/-- So is the copy from the stream. -/
theorem Valid.inbound_finished (valid : session.Valid) (still : session.Still side)
    (sound : session.NoError) (closed : (session.lane side).closed = true) :
    (session.lane side).inbound.status = .finished := by
  have sent := valid.outbound_finished still sound closed
  rcases sound side.other with running | returned
  · cases status : (session.lane side).inbound.status with
    | running =>
        obtain ⟨blocked, connected⟩ := still.receiving running
        have received := (still.transit ⟨connected status, running⟩ status).2 sent
        cases received.symm.trans (blocked status).2.2
    | finished => rfl
    | failed =>
        have lost := (valid.failed side.other).mpr (.inr (by rwa [Side.other_other]))
        cases running.symm.trans lost
  · have both := completed_isSome.mp (valid.returned side.other returned)
    rw [Side.other_other] at both
    exact both.2

/-- Everything has reached the reader. -/
theorem Valid.read_eq_written (valid : session.Valid) (still : session.Still side)
    (received : (session.lane side).inbound.status = .finished) :
    (session.lane side).read = (session.lane side).written := by
  have given := (valid.lanes side).received_eq_written received
  simpa only [Lane.received, still.reading, List.append_nil] using given

/-- An end of file needs the reader's endpoint to end, so its own writer to close. -/
theorem Valid.closed_of_eof (valid : session.Valid) (sound : session.NoError)
    (eof : (session.lane side).eof = true) : (session.lane side.other).closed = true := by
  rcases sound side.other with running | returned
  · exact absurd running (valid.ended side eof)
  · have both := completed_isSome.mp (valid.returned side.other returned)
    exact ((valid.lanes side.other).sendDone both.1).1

/-- With both sides closed, the reader's endpoint ends and drops its socket. -/
theorem Valid.eof_of_closed (valid : session.Valid) (still : ∀ side, session.Still side)
    (sound : session.NoError) (closed : ∀ side, (session.lane side).closed = true) :
    (session.lane side).eof = true := by
  apply (still side).ending
  intro running
  have sent := valid.outbound_finished (still side.other) sound (closed side.other)
  have received := valid.inbound_finished (still side) sound (closed side)
  have both : (session.completed side.other).isSome :=
    completed_isSome.mpr ⟨sent, by rwa [Side.other_other]⟩
  exact Option.isSome_iff_ne_none.mp both ((still side.other).joining running)

end Drained

/-- **Half-closing.** When nothing can move any more and no error occurred, the ends
that were closed have been passed on exactly if both sides have closed or neither has. -/
theorem halfCloses_iff {session : Session α} (reached : session.ReachableState)
    (quiescent : session.Quiescent) (sound : session.NoError) :
    session.HalfCloses ↔ (session.lane .client).closed = (session.lane .buildkitd).closed := by
  have valid := reached.valid
  have still := (quiescent_iff session).mp quiescent
  constructor
  · intro passed
    have mutual_ : ∀ side, (session.lane side).closed = true →
        (session.lane side.other).closed = true :=
      fun side closed => valid.closed_of_eof sound (passed side closed).2
    exact Bool.eq_iff_iff.mpr ⟨mutual_ .client, mutual_ .buildkitd⟩
  · intro agree side closed
    have both : ∀ side, (session.lane side).closed = true := by
      cases side with
      | client => exact (Side.forall_iff _).mpr ⟨closed, agree.symm.trans closed⟩
      | buildkitd => exact (Side.forall_iff _).mpr ⟨agree.trans closed, closed⟩
    exact ⟨valid.read_eq_written (still side) (valid.inbound_finished (still side) sound closed),
      valid.eof_of_closed still sound both⟩

/-- Each end writes a byte and closes, and everything is copied. -/
def bothCloseRun : List (Action Nat) :=
  [.lane .client (.write [1]), .lane .client .close,
    .lane .buildkitd (.write [2]), .lane .buildkitd .close,
    .lane .client (.pull 1), .lane .client (.push 1), .lane .client .finish,
    .lane .client (.arrive 1), .lane .client .arriveFin,
    .lane .client (.take 1), .lane .client (.give 1), .lane .client .finishReceive,
    .lane .buildkitd (.pull 1), .lane .buildkitd (.push 1), .lane .buildkitd .finish,
    .lane .buildkitd (.arrive 1), .lane .buildkitd .arriveFin,
    .lane .buildkitd (.take 1), .lane .buildkitd (.give 1), .lane .buildkitd .finishReceive,
    .complete .buildkitd, .complete .client,
    .lane .client (.read 1), .lane .client .readEof,
    .lane .buildkitd (.read 1), .lane .buildkitd .readEof]

def bothClosed : Session Nat :=
  (Transition.run step initial bothCloseRun).getD initial

theorem bothClosed_halfCloses :
    Transition.run step initial bothCloseRun = some bothClosed ∧ bothClosed.Quiescent ∧
      bothClosed.NoError ∧ bothClosed.HalfCloses := by
  have reached : Transition.run step initial bothCloseRun = some bothClosed := rfl
  have quiescent : bothClosed.Quiescent := (quiescent_iff _).mpr (by decide)
  have sound : bothClosed.NoError := by decide
  exact ⟨reached, quiescent, sound,
    (halfCloses_iff ⟨bothCloseRun, reached⟩ quiescent sound).mpr (by decide)⟩

/-- The client connects and closes its writing side, as a check of the socket does. -/
def clientCloseRun : List (Action Nat) :=
  [.lane .client .close, .lane .client .finish, .lane .client .arriveFin,
    .lane .client .finishReceive]

def clientClosed : Session Nat :=
  (Transition.run step initial clientCloseRun).getD initial

/-- Nothing can move any more, and buildkitd has not been told. -/
theorem clientClosed_stuck :
    Transition.run step initial clientCloseRun = some clientClosed ∧ clientClosed.Quiescent ∧
      clientClosed.NoError ∧ (clientClosed.lane .client).closed = true ∧
      (clientClosed.lane .client).eof = false ∧ ¬ clientClosed.HalfCloses := by
  refine ⟨rfl, (quiescent_iff _).mpr (by decide), by decide, rfl, rfl, ?_⟩
  intro passed
  cases (passed .client rfl).2

end Session

end OrbitBuild.Tunnel
