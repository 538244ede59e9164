import OrbitBuild.Foundation.Progress
import OrbitBuild.Tunnel.HalfClose

/-! # Sessions come to rest

Every step except a write moves bytes closer to their reader or ends something that
does not start again, so a session that nobody writes to can only take so many more
steps, in any order and with any failures. Once both ends have closed their writing
sides no endpoint is left behind.
-/

namespace OrbitBuild.Tunnel

variable {α : Type}

/-- One while the loop runs. -/
def CopyStatus.weight : CopyStatus → Nat
  | .running => 1
  | .finished | .failed => 0

namespace Lane

/-- The steps that what is under way can still take, and the ends that are to come. -/
def potential (lane : Lane α) : Nat :=
  6 * lane.socket.length + 5 * lane.outbound.held.length + 4 * lane.flight.length +
    3 * lane.arrived.length + 2 * lane.inbound.held.length + lane.delivered.length +
    CopyStatus.weight lane.outbound.status + CopyStatus.weight lane.inbound.status +
    (!lane.closed).toNat + (!lane.finArrived).toNat + (!lane.eof).toNat

end Lane

def LaneAction.isWrite : LaneAction α → Bool
  | .write _ => true
  | _ => false

/-- A write is free, and brings in the steps of its bytes. -/
def LaneAction.income : LaneAction α → Nat
  | .write bytes => 6 * bytes.length
  | _ => 0

def LaneAction.price : LaneAction α → Nat
  | .write _ => 0
  | _ => 1

namespace Lane

variable {lane next : Lane α} {action : LaneAction α}

/-- **Every step is paid for.** It costs one, and a write brings in six for each byte. -/
theorem potential_step (moved : lane.step action = some next) :
    next.potential + action.price ≤ lane.potential + action.income := by
  cases action with
  | write bytes =>
      obtain ⟨unclosed, equation⟩ := Option.ite_none_right_eq_some.mp moved
      obtain rfl := Option.some.inj equation
      simp only [potential, LaneAction.price, LaneAction.income, List.length_append]
      omega
  | close =>
      obtain ⟨unclosed, equation⟩ := Option.ite_none_right_eq_some.mp moved
      obtain rfl := Option.some.inj equation
      simp only [potential, LaneAction.price, LaneAction.income, unclosed, Bool.not_true,
        Bool.not_false, Bool.toNat_true, Bool.toNat_false]
      omega
  | pull count =>
      obtain ⟨⟨outbound, socket⟩, pulled, rfl⟩ := Option.map_eq_some_iff.mp moved
      obtain ⟨running, still, -, kept⟩ := CopyLoop.pull_spec pulled
      have shorter := CopyLoop.pull_length pulled
      have lengths := congrArg List.length kept
      simp only [potential, LaneAction.price, LaneAction.income, running, still,
        List.length_append] at lengths ⊢
      omega
  | push count =>
      obtain ⟨⟨outbound, flight⟩, pushed, rfl⟩ := Option.map_eq_some_iff.mp moved
      obtain ⟨running, still, -, kept⟩ := CopyLoop.push_spec pushed
      have shorter := CopyLoop.push_length pushed
      have lengths := congrArg List.length kept
      simp only [potential, LaneAction.price, LaneAction.income, running, still,
        List.length_append] at lengths ⊢
      omega
  | finish =>
      obtain ⟨outbound, finished, rfl⟩ := Option.map_eq_some_iff.mp moved
      obtain ⟨running, -, -, -, rfl⟩ := CopyLoop.finish_spec finished
      simp only [potential, LaneAction.price, LaneAction.income, running, CopyStatus.weight]
      omega
  | loseSend =>
      obtain ⟨-, broken⟩ := Option.ite_none_left_eq_some.mp moved
      obtain ⟨outbound, failed, rfl⟩ := Option.map_eq_some_iff.mp broken
      obtain ⟨running, rfl⟩ := CopyLoop.fail_spec failed
      simp only [potential, LaneAction.price, LaneAction.income, running, CopyStatus.weight]
      omega
  | arrive count =>
      obtain ⟨-, received⟩ := Option.ite_none_right_eq_some.mp moved
      obtain ⟨⟨flight, arrived⟩, crossed, rfl⟩ := Option.map_eq_some_iff.mp received
      have shorter := transfer_shorter crossed
      have lengths := congrArg List.length (transfer_spec crossed)
      simp only [potential, LaneAction.price, LaneAction.income, List.length_append] at lengths ⊢
      omega
  | arriveFin =>
      obtain ⟨⟨-, -, -, unended⟩, equation⟩ := Option.ite_none_right_eq_some.mp moved
      obtain rfl := Option.some.inj equation
      simp only [potential, LaneAction.price, LaneAction.income, unended, Bool.not_true,
        Bool.not_false, Bool.toNat_true, Bool.toNat_false]
      omega
  | take count =>
      obtain ⟨⟨inbound, arrived⟩, pulled, rfl⟩ := Option.map_eq_some_iff.mp moved
      obtain ⟨running, still, -, kept⟩ := CopyLoop.pull_spec pulled
      have shorter := CopyLoop.pull_length pulled
      have lengths := congrArg List.length kept
      simp only [potential, LaneAction.price, LaneAction.income, running, still,
        List.length_append] at lengths ⊢
      omega
  | give count =>
      obtain ⟨⟨inbound, delivered⟩, pushed, rfl⟩ := Option.map_eq_some_iff.mp moved
      obtain ⟨running, still, -, kept⟩ := CopyLoop.push_spec pushed
      have shorter := CopyLoop.push_length pushed
      have lengths := congrArg List.length kept
      simp only [potential, LaneAction.price, LaneAction.income, running, still,
        List.length_append] at lengths ⊢
      omega
  | finishReceive =>
      obtain ⟨inbound, finished, rfl⟩ := Option.map_eq_some_iff.mp moved
      obtain ⟨running, -, -, -, rfl⟩ := CopyLoop.finish_spec finished
      simp only [potential, LaneAction.price, LaneAction.income, running, CopyStatus.weight]
      omega
  | loseReceive =>
      obtain ⟨-, broken⟩ := Option.ite_none_right_eq_some.mp moved
      obtain ⟨inbound, failed, rfl⟩ := Option.map_eq_some_iff.mp broken
      obtain ⟨running, rfl⟩ := CopyLoop.fail_spec failed
      simp only [potential, LaneAction.price, LaneAction.income, running, CopyStatus.weight]
      omega
  | read count =>
      obtain ⟨⟨delivered, read⟩, consumed, rfl⟩ := Option.map_eq_some_iff.mp moved
      have shorter := transfer_shorter consumed
      simp only [potential, LaneAction.price, LaneAction.income]
      omega
  | readEof =>
      obtain ⟨⟨-, unended⟩, equation⟩ := Option.ite_none_right_eq_some.mp moved
      obtain rfl := Option.some.inj equation
      simp only [potential, LaneAction.price, LaneAction.income, unended, Bool.not_true,
        Bool.not_false, Bool.toNat_true, Bool.toNat_false]
      omega

/-- Only a write adds to what was written. -/
theorem written_step (moved : lane.step action = some next) :
    6 * next.written.length = 6 * lane.written.length + action.income := by
  cases action with
  | write bytes =>
      obtain ⟨-, equation⟩ := Option.ite_none_right_eq_some.mp moved
      obtain rfl := Option.some.inj equation
      rw [List.length_append, LaneAction.income, Nat.mul_add]
  | close | arriveFin | readEof =>
      obtain ⟨-, equation⟩ := Option.ite_none_right_eq_some.mp moved
      obtain rfl := Option.some.inj equation
      rfl
  | arrive _ | loseReceive =>
      obtain ⟨-, received⟩ := Option.ite_none_right_eq_some.mp moved
      obtain ⟨part, -, rfl⟩ := Option.map_eq_some_iff.mp received
      rfl
  | loseSend =>
      obtain ⟨-, broken⟩ := Option.ite_none_left_eq_some.mp moved
      obtain ⟨part, -, rfl⟩ := Option.map_eq_some_iff.mp broken
      rfl
  | pull _ | push _ | finish | take _ | give _ | finishReceive | read _ =>
      obtain ⟨part, -, rfl⟩ := Option.map_eq_some_iff.mp moved
      rfl

end Lane

/-- One while the endpoint runs. -/
def EndpointStatus.weight : EndpointStatus → Nat
  | .running => 1
  | .returned | .failed | .crashed => 0

/-- One of the ends writes to its socket. -/
def Action.isWrite : Action α → Bool
  | .lane _ action => action.isWrite
  | .complete _ | .crash _ => false

def Action.income : Action α → Nat
  | .lane _ action => action.income
  | .complete _ | .crash _ => 0

def Action.price : Action α → Nat
  | .lane _ action => action.price
  | .complete _ | .crash _ => 1

/-- The price of a run is the number of its steps that are no writes. -/
theorem amount_price (actions : List (Action α)) :
    Transition.amount Action.price actions = actions.countP fun action => !action.isWrite := by
  induction actions with
  | nil => rfl
  | cons action rest ih =>
      have one : action.price = if !action.isWrite then 1 else 0 := by
        rcases action with ⟨_, _ | _⟩ | _ | _ <;> rfl
      rw [Transition.amount, ih, one, List.countP_cons, Nat.add_comm]

namespace Side

/-- Over both sides. -/
def total (count : Side → Nat) : Nat :=
  count .client + count .buildkitd

/-- Only one side has changed. -/
theorem total_update {Part : Type} (weight : Part → Nat) (parts : Side → Part) (side : Side)
    (part : Part) :
    total (fun place => weight (Function.update parts side part place)) + weight (parts side) =
      total (fun place => weight (parts place)) + weight part := by
  cases side with
  | client =>
      simp only [total, Function.update_self, ne_eq, reduceCtorEq, not_false_eq_true,
        Function.update_of_ne]
      omega
  | buildkitd =>
      simp only [total, Function.update_self, ne_eq, reduceCtorEq, not_false_eq_true,
        Function.update_of_ne]
      omega

end Side

namespace Session

def potential (session : Session α) : Nat :=
  Side.total (fun side => (session.lane side).potential) +
    Side.total (fun side => (session.endpoint side).weight)

/-- An endpoint that has ended does not weigh anything. -/
theorem total_stop {endpoint : Side → EndpointStatus} {side : Side}
    (running : endpoint side = .running) {status : EndpointStatus} (stopped : status ≠ .running) :
    Side.total (fun place => (Function.update endpoint side status place).weight) + 1 =
      Side.total fun place => (endpoint place).weight := by
  have weightless : status.weight = 0 := by
    cases status with
    | running => exact absurd rfl stopped
    | returned | failed | crashed => rfl
  have changed := Side.total_update EndpointStatus.weight endpoint side status
  rw [running, weightless] at changed
  exact changed

/-- No endpoint starts to run by what a copy does. -/
theorem total_settle {session : Session α} {side : Side} {action : LaneAction α}
    (permitted : session.Permits side action) :
    Side.total (fun place => (settle session.endpoint side action place).weight) ≤
      Side.total fun place => (session.endpoint place).weight := by
  cases action with
  | loseSend =>
      have ended : EndpointStatus.failed ≠ .running := nofun
      have stopped := total_stop permitted.1 ended
      simp only [settle]
      omega
  | loseReceive =>
      have ended : EndpointStatus.failed ≠ .running := nofun
      have stopped := total_stop permitted.1 ended
      simp only [settle]
      omega
  | _ => exact Nat.le_refl _

/-- Every step of a session is paid for. -/
theorem paid : Transition.Paid (step (α := α)) potential Action.price Action.income := by
  intro session action next moved
  cases action with
  | lane side action =>
      obtain ⟨permitted, lane, stepped, lanes, endpoints⟩ := step_lane moved
      have sides := Side.total_update Lane.potential session.lane side lane
      have settled := total_settle permitted
      have paid := Lane.potential_step stepped
      simp only [potential, Action.price, Action.income, lanes, endpoints]
      omega
  | complete side =>
      obtain ⟨⟨running, -⟩, equation⟩ := Option.ite_none_right_eq_some.mp moved
      obtain rfl := Option.some.inj equation
      have ended : EndpointStatus.returned ≠ .running := nofun
      have stopped := total_stop running ended
      simp only [potential, Action.price, Action.income]
      omega
  | crash side =>
      obtain ⟨running, equation⟩ := Option.ite_none_right_eq_some.mp moved
      obtain rfl := Option.some.inj equation
      have ended : EndpointStatus.crashed ≠ .running := nofun
      have stopped := total_stop running ended
      simp only [potential, Action.price, Action.income]
      omega

/-- How much both ends have written. -/
def written (session : Session α) : Nat :=
  Side.total fun side => (session.lane side).written.length

theorem written_step {session next : Session α} {action : Action α}
    (moved : step session action = some next) :
    6 * next.written = 6 * session.written + action.income := by
  cases action with
  | lane side action =>
      obtain ⟨-, lane, stepped, lanes, -⟩ := step_lane moved
      have sides := Side.total_update (fun lane => lane.written.length) session.lane side lane
      have grown := Lane.written_step stepped
      simp only [written, Action.income, lanes] at sides ⊢
      omega
  | complete side | crash side =>
      obtain ⟨-, equation⟩ := Option.ite_none_right_eq_some.mp moved
      obtain rfl := Option.some.inj equation
      rfl

/-- What a run has written is what its writes bring in. -/
theorem written_run {session final : Session α} {actions : List (Action α)}
    (reached : Transition.run step session actions = some final) :
    6 * final.written = 6 * session.written + Transition.amount Action.income actions := by
  induction actions generalizing session with
  | nil => cases reached; rfl
  | cons action rest ih =>
      obtain ⟨next, moved, tail⟩ := Transition.run_cons.mp reached
      have first := written_step moved
      have later := ih tail
      simp only [Transition.amount]
      omega

/-- **Coming to rest.** In every run, failures included, the steps other than writes
number at most six for each byte written and twelve more. Wherever a run has led, the
endpoints, the network and the readers can bring the session to rest. -/
theorem comes_to_rest {session : Session α} {actions : List (Action α)}
    (reached : Transition.run step initial actions = some session) :
    (actions.countP fun action => !action.isWrite) ≤ 6 * session.written + 12 ∧
      ∃ final, Transition.ReachableBy step Action.Internal session final ∧ final.Quiescent := by
  constructor
  · have budget := paid.run_le reached
    have income := written_run reached
    have start : (initial : Session α).potential = 12 ∧ (initial : Session α).written = 0 :=
      ⟨rfl, rfl⟩
    rw [amount_price] at budget
    omega
  · apply paid.exists_rest
    intro action internal
    rcases action with ⟨side, _ | _⟩ | side | side
    all_goals first
      | exact internal.elim
      | exact Nat.one_pos

/-- The client has written a byte and closed. -/
def halfRun : List (Action Nat) :=
  [.lane .client (.write [1]), .lane .client .close]

theorem halfRun_rests : ∃ session, Transition.run step initial halfRun = some session ∧
    (halfRun.countP fun action => !action.isWrite) ≤ 6 * session.written + 12 ∧
      ∃ final, Transition.ReachableBy step Action.Internal session final ∧ final.Quiescent :=
  ⟨_, rfl, comes_to_rest rfl⟩

section AtRest

variable {session : Session α} {side : Side}

/-- The copy to the stream of an endpoint that runs is done once its writer has closed. -/
theorem Valid.sent_of_closed (valid : session.Valid) (still : session.Still side)
    (running : session.endpoint side = .running) (closed : (session.lane side).closed = true) :
    (session.lane side).outbound.status = .finished := by
  cases status : (session.lane side).outbound.status with
  | running => cases closed.symm.trans (still.sending running status).2.2
  | finished => rfl
  | failed => cases running.symm.trans ((valid.failed side).mpr (.inl status))

/-- The copy from the stream of an endpoint that runs is done, or it waits for the other
endpoint and its writer. -/
theorem Valid.received_or_waits (valid : session.Valid) (still : ∀ side, session.Still side)
    (running : session.endpoint side = .running) :
    (session.lane side.other).inbound.status = .finished ∨
      session.endpoint side.other = .running ∧ (session.lane side.other).closed = false := by
  cases status : (session.lane side.other).inbound.status with
  | finished => exact .inl rfl
  | failed => cases running.symm.trans ((valid.failed side).mpr (.inr status))
  | running =>
      obtain ⟨blocked, connected⟩ := (still side.other).receiving (by rwa [Side.other_other])
      have peer := connected status
      refine .inr ⟨peer, ?_⟩
      by_contra unopened
      have sent := valid.sent_of_closed (still side.other) peer (Bool.not_eq_false _ ▸ unopened)
      have transit := (still side.other).transit ⟨peer, by rwa [Side.other_other]⟩
      cases ((transit status).2 sent).symm.trans (blocked status).2.2

/-- **Nobody is left behind.** When nothing can move any more, an endpoint that still runs
waits for an end that has not closed: its own, or the other's while the other endpoint
runs. If the other endpoint has gone, it has delivered everything it was sent. -/
theorem waits_for_close (reached : session.ReachableState) (quiescent : session.Quiescent)
    (running : session.endpoint side = .running) :
    ((session.lane side).closed = false ∨
      session.endpoint side.other = .running ∧ (session.lane side.other).closed = false) ∧
    (session.endpoint side.other ≠ .running →
      (session.lane side).closed = false ∧
        (session.lane side.other).read = (session.lane side.other).written) := by
  have valid := reached.valid
  have still := (quiescent_iff session).mp quiescent
  have unsent : (session.lane side.other).inbound.status = .finished →
      (session.lane side).closed = false := by
    intro received
    by_contra unopened
    have sent := valid.sent_of_closed (still side) running (Bool.not_eq_false _ ▸ unopened)
    have both : (session.completed side).isSome := completed_isSome.mpr ⟨sent, received⟩
    exact Option.isSome_iff_ne_none.mp both ((still side).joining running)
  rcases valid.received_or_waits still running with received | ⟨peer, unopened⟩
  · exact ⟨.inl (unsent received),
      fun _ => ⟨unsent received, valid.read_eq_written (still side.other) received⟩⟩
  · exact ⟨.inr ⟨peer, unopened⟩, fun gone => absurd peer gone⟩

/-- The client has asked and waits, and buildkitd's endpoint has crashed after its answer. -/
def abandonedRun : List (Action Nat) :=
  [.lane .client (.write [1]), .lane .client (.pull 1), .lane .client (.push 1),
    .lane .client (.arrive 1), .lane .client (.take 1), .lane .client (.give 1),
    .lane .client (.read 1), .lane .buildkitd (.write [2]), .lane .buildkitd .close,
    .lane .buildkitd (.pull 1), .lane .buildkitd (.push 1), .lane .buildkitd .finish,
    .lane .buildkitd (.arrive 1), .lane .buildkitd .arriveFin, .crash .buildkitd,
    .lane .client .readEof, .lane .buildkitd (.take 1), .lane .buildkitd (.give 1),
    .lane .buildkitd .finishReceive, .lane .buildkitd (.read 1)]

def abandoned : Session Nat :=
  (Transition.run step initial abandonedRun).getD initial

theorem abandoned_waits :
    abandoned.ReachableState ∧ abandoned.Quiescent ∧ abandoned.endpoint .client = .running ∧
      (abandoned.lane .buildkitd).read = [2] ∧ (abandoned.lane .client).closed = false := by
  have reached : abandoned.ReachableState := ⟨abandonedRun, rfl⟩
  have quiescent : abandoned.Quiescent := (quiescent_iff _).mpr (by decide)
  have running : abandoned.endpoint .client = .running := rfl
  obtain ⟨-, alone⟩ := waits_for_close reached quiescent running
  exact ⟨reached, quiescent, running, rfl, (alone (by decide)).1⟩

end AtRest

end Session

end OrbitBuild.Tunnel
