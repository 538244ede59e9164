import OrbitBuild.Foundation.CopyLoop

/-! # One direction of a build session

Bytes written to a Unix socket are copied to a QUIC stream by the endpoint beside
the writer, cross the network in order, and are copied to the Unix socket of the
reader by the other endpoint. The first copy calls `finish()` on the stream when it
is done. The second leaves the write half of its socket as it is.
-/

namespace OrbitBuild.Tunnel

structure Lane (α : Type) where
  written : List α
  /-- The writer has closed its writing side. -/
  closed : Bool
  socket : List α
  /-- `unix_read` to `quic_send`, finished once `finish()` is called. -/
  outbound : CopyLoop α
  /-- On the stream and not received yet. -/
  flight : List α
  arrived : List α
  finArrived : Bool
  /-- `quic_recv` to `unix_write`. -/
  inbound : CopyLoop α
  delivered : List α
  read : List α
  eof : Bool
  deriving DecidableEq, Repr

inductive LaneAction (α : Type)
  | write (bytes : List α)
  | close
  | pull (count : Nat)
  | push (count : Nat)
  | finish
  | loseSend
  | arrive (count : Nat)
  | arriveFin
  | take (count : Nat)
  | give (count : Nat)
  | finishReceive
  | loseReceive
  | read (count : Nat)
  | readEof
  deriving DecidableEq, Repr

namespace Lane

variable {α : Type}

def initial : Lane α where
  written := []
  closed := false
  socket := []
  outbound := .initial
  flight := []
  arrived := []
  finArrived := false
  inbound := .initial
  delivered := []
  read := []
  eof := false

def step (lane : Lane α) : LaneAction α → Option (Lane α)
  | .write bytes =>
      if lane.closed = false then
        some { lane with written := lane.written ++ bytes, socket := lane.socket ++ bytes }
      else none
  | .close => if lane.closed = false then some { lane with closed := true } else none
  | .pull count =>
      (lane.outbound.pull count lane.socket).map fun (outbound, socket) =>
        { lane with outbound, socket }
  | .push count =>
      (lane.outbound.push count lane.flight).map fun (outbound, flight) =>
        { lane with outbound, flight }
  | .finish =>
      (lane.outbound.finish lane.socket lane.closed).map fun outbound => { lane with outbound }
  -- A write fails when there is something to write.
  | .loseSend =>
      if lane.outbound.held = [] then none
      else lane.outbound.fail.map fun outbound => { lane with outbound }
  | .arrive count =>
      if lane.inbound.status = .running then
        (transfer count lane.flight lane.arrived).map fun (flight, arrived) =>
          { lane with flight, arrived }
      else none
  -- Only `finish()` is seen as a fin: a stream dropped unfinished goes with its connection.
  | .arriveFin =>
      if lane.inbound.status = .running ∧ lane.outbound.status = .finished ∧ lane.flight = [] ∧
          lane.finArrived = false then
        some { lane with finArrived := true }
      else none
  | .take count =>
      (lane.inbound.pull count lane.arrived).map fun (inbound, arrived) =>
        { lane with inbound, arrived }
  | .give count =>
      (lane.inbound.push count lane.delivered).map fun (inbound, delivered) =>
        { lane with inbound, delivered }
  | .finishReceive =>
      (lane.inbound.finish lane.arrived lane.finArrived).map fun inbound => { lane with inbound }
  -- What has been received can still be read when the connection is gone.
  | .loseReceive =>
      if lane.arrived = [] ∧ lane.finArrived = false then
        lane.inbound.fail.map fun inbound => { lane with inbound }
      else none
  | .read count =>
      (transfer count lane.delivered lane.read).map fun (delivered, read) =>
        { lane with delivered, read }
  | .readEof =>
      if lane.delivered = [] ∧ lane.eof = false then some { lane with eof := true } else none

/-- How many bytes the receiving copy has got from its stream. -/
def yielded (lane : Lane α) : Nat :=
  lane.inbound.copied + lane.inbound.held.length

/-- Every byte is in one place, in the order of the writes, and what has ended had a reason. -/
structure Valid (lane : Lane α) : Prop where
  conserved : lane.read ++ lane.delivered ++ lane.inbound.held ++ lane.arrived ++ lane.flight ++
    lane.outbound.held ++ lane.socket = lane.written
  given : lane.inbound.copied = (lane.read ++ lane.delivered).length
  sent : lane.outbound.copied = lane.yielded + lane.arrived.length + lane.flight.length
  sendDone : lane.outbound.status = .finished →
    lane.closed = true ∧ lane.socket = [] ∧ lane.outbound.held = []
  finDone : lane.finArrived = true → lane.outbound.status = .finished ∧ lane.flight = []
  receiveDone : lane.inbound.status = .finished →
    lane.finArrived = true ∧ lane.arrived = [] ∧ lane.inbound.held = []
  receiveLost : lane.inbound.status = .failed → lane.arrived = [] ∧ lane.finArrived = false

theorem Valid.initial : (Lane.initial : Lane α).Valid where
  conserved := rfl
  given := rfl
  sent := rfl
  sendDone := nofun
  finDone := nofun
  receiveDone := nofun
  receiveLost := nofun

namespace Valid

variable {lane next : Lane α}

/-- What is written waits behind everything written before. -/
theorem write (valid : lane.Valid) {bytes : List α} (moved : lane.step (.write bytes) = some next) :
    next.Valid := by
  obtain ⟨unclosed, equation⟩ := Option.ite_none_right_eq_some.mp moved
  obtain rfl := Option.some.inj equation
  have unfinished : lane.outbound.status ≠ .finished := by
    intro finished
    cases unclosed.symm.trans (valid.sendDone finished).1
  refine ⟨?_, valid.given, valid.sent, fun finished => absurd finished unfinished, valid.finDone,
    valid.receiveDone, valid.receiveLost⟩
  rw [← valid.conserved, ← List.append_assoc]

/-- The writer can close at any time. -/
theorem close (valid : lane.Valid) (moved : lane.step .close = some next) : next.Valid := by
  obtain ⟨-, equation⟩ := Option.ite_none_right_eq_some.mp moved
  obtain rfl := Option.some.inj equation
  exact ⟨valid.conserved, valid.given, valid.sent,
    fun finished => ⟨rfl, (valid.sendDone finished).2⟩, valid.finDone, valid.receiveDone,
    valid.receiveLost⟩

/-- The first copy takes from the front of the socket. -/
theorem pull (valid : lane.Valid) {count : Nat} (moved : lane.step (.pull count) = some next) :
    next.Valid := by
  obtain ⟨⟨outbound, socket⟩, pulled, rfl⟩ := Option.map_eq_some_iff.mp moved
  obtain ⟨running, stillRunning, copied, kept⟩ := CopyLoop.pull_spec pulled
  refine ⟨?_, valid.given, copied.trans valid.sent, ?_, ?_, valid.receiveDone, valid.receiveLost⟩
  · rw [← valid.conserved, List.append_assoc _ outbound.held,
      List.append_assoc _ lane.outbound.held]
    exact congrArg _ kept
  · intro finished
    cases stillRunning.symm.trans finished
  · intro arrived
    cases running.symm.trans (valid.finDone arrived).1

/-- The first copy sends in order what it holds. -/
theorem push (valid : lane.Valid) {count : Nat} (moved : lane.step (.push count) = some next) :
    next.Valid := by
  obtain ⟨⟨outbound, flight⟩, pushed, rfl⟩ := Option.map_eq_some_iff.mp moved
  obtain ⟨running, stillRunning, copied, kept⟩ := CopyLoop.push_spec pushed
  refine ⟨?_, valid.given, ?_, ?_, ?_, valid.receiveDone, valid.receiveLost⟩
  · rw [← valid.conserved, List.append_assoc _ flight, List.append_assoc _ lane.flight]
    exact congrArg (_ ++ · ++ _) kept
  · have before := valid.sent
    simp only [yielded] at before ⊢
    omega
  · intro finished
    cases stillRunning.symm.trans finished
  · intro arrived
    cases running.symm.trans (valid.finDone arrived).1

/-- The first copy finishes when all that was written has been sent. -/
theorem finish (valid : lane.Valid) (moved : lane.step .finish = some next) : next.Valid := by
  obtain ⟨outbound, finished, rfl⟩ := Option.map_eq_some_iff.mp moved
  obtain ⟨running, held, socket, closed, rfl⟩ := CopyLoop.finish_spec finished
  refine ⟨valid.conserved, valid.given, valid.sent, fun _ => ⟨closed, socket, held⟩, ?_,
    valid.receiveDone, valid.receiveLost⟩
  intro arrived
  cases running.symm.trans (valid.finDone arrived).1

/-- A write to the stream that fails leaves everything in its place. -/
theorem loseSend (valid : lane.Valid) (moved : lane.step .loseSend = some next) : next.Valid := by
  obtain ⟨-, broken⟩ := Option.ite_none_left_eq_some.mp moved
  obtain ⟨outbound, failed, rfl⟩ := Option.map_eq_some_iff.mp broken
  obtain ⟨running, rfl⟩ := CopyLoop.fail_spec failed
  refine ⟨valid.conserved, valid.given, valid.sent, nofun, ?_, valid.receiveDone, valid.receiveLost⟩
  intro arrived
  cases running.symm.trans (valid.finDone arrived).1

/-- The stream delivers in order. -/
theorem arrive (valid : lane.Valid) {count : Nat} (moved : lane.step (.arrive count) = some next) :
    next.Valid := by
  obtain ⟨running, received⟩ := Option.ite_none_right_eq_some.mp moved
  obtain ⟨⟨flight, arrived⟩, crossed, rfl⟩ := Option.map_eq_some_iff.mp received
  have kept := transfer_spec crossed
  have present : lane.flight ≠ [] := by
    intro empty
    cases ((transfer_eq_none_iff _ lane.arrived).mpr empty count).symm.trans crossed
  refine ⟨?_, valid.given, ?_, valid.sendDone, fun fin => absurd (valid.finDone fin).2 present,
    fun finished => (nomatch running.symm.trans finished),
    fun failed => (nomatch running.symm.trans failed)⟩
  · rw [← valid.conserved, List.append_assoc _ arrived, List.append_assoc _ lane.arrived]
    exact congrArg (_ ++ · ++ _ ++ _) kept
  · have lengths := congrArg List.length kept
    have before := valid.sent
    simp only [List.length_append, yielded] at lengths before ⊢
    omega

/-- The fin comes behind everything that was sent. -/
theorem arriveFin (valid : lane.Valid) (moved : lane.step .arriveFin = some next) :
    next.Valid := by
  obtain ⟨enabled, equation⟩ := Option.ite_none_right_eq_some.mp moved
  obtain rfl := Option.some.inj equation
  exact ⟨valid.conserved, valid.given, valid.sent, valid.sendDone,
    fun _ => ⟨enabled.2.1, enabled.2.2.1⟩, fun finished => ⟨rfl, (valid.receiveDone finished).2⟩,
    fun failed => (nomatch enabled.1.symm.trans failed)⟩

/-- The second copy takes from the front of the stream. -/
theorem take (valid : lane.Valid) {count : Nat} (moved : lane.step (.take count) = some next) :
    next.Valid := by
  obtain ⟨⟨inbound, arrived⟩, pulled, rfl⟩ := Option.map_eq_some_iff.mp moved
  obtain ⟨-, running, copied, kept⟩ := CopyLoop.pull_spec pulled
  refine ⟨?_, copied.trans valid.given, ?_, valid.sendDone, valid.finDone,
    fun finished => (nomatch running.symm.trans finished),
    fun failed => (nomatch running.symm.trans failed)⟩
  · rw [← valid.conserved, List.append_assoc _ inbound.held, List.append_assoc _ lane.inbound.held]
    exact congrArg (_ ++ · ++ _ ++ _ ++ _) kept
  · have lengths := congrArg List.length kept
    have before := valid.sent
    simp only [List.length_append, yielded] at lengths before ⊢
    omega

/-- The second copy gives in order what it holds. -/
theorem give (valid : lane.Valid) {count : Nat} (moved : lane.step (.give count) = some next) :
    next.Valid := by
  obtain ⟨⟨inbound, delivered⟩, pushed, rfl⟩ := Option.map_eq_some_iff.mp moved
  obtain ⟨-, running, copied, kept⟩ := CopyLoop.push_spec pushed
  have given := valid.given
  have lengths := congrArg List.length kept
  refine ⟨?_, ?_, ?_, valid.sendDone, valid.finDone,
    fun finished => (nomatch running.symm.trans finished),
    fun failed => (nomatch running.symm.trans failed)⟩
  · rw [← valid.conserved, List.append_assoc _ delivered, List.append_assoc _ lane.delivered]
    exact congrArg (_ ++ · ++ _ ++ _ ++ _ ++ _) kept
  · simp only [List.length_append] at given ⊢
    omega
  · have before := valid.sent
    simp only [List.length_append, yielded] at lengths before ⊢
    omega

/-- The second copy finishes behind the fin. -/
theorem finishReceive (valid : lane.Valid) (moved : lane.step .finishReceive = some next) :
    next.Valid := by
  obtain ⟨inbound, finished, rfl⟩ := Option.map_eq_some_iff.mp moved
  obtain ⟨-, held, arrived, received, rfl⟩ := CopyLoop.finish_spec finished
  exact ⟨valid.conserved, valid.given, valid.sent, valid.sendDone, valid.finDone,
    fun _ => ⟨received, arrived, held⟩, nofun⟩

/-- A copy fails only when it has taken everything that has arrived. -/
theorem loseReceive (valid : lane.Valid) (moved : lane.step .loseReceive = some next) :
    next.Valid := by
  obtain ⟨drained, broken⟩ := Option.ite_none_right_eq_some.mp moved
  obtain ⟨inbound, failed, rfl⟩ := Option.map_eq_some_iff.mp broken
  obtain ⟨-, rfl⟩ := CopyLoop.fail_spec failed
  exact ⟨valid.conserved, valid.given, valid.sent, valid.sendDone, valid.finDone, nofun,
    fun _ => drained⟩

/-- The reader takes from the front of its socket. -/
theorem read (valid : lane.Valid) {count : Nat} (moved : lane.step (.read count) = some next) :
    next.Valid := by
  obtain ⟨⟨delivered, read⟩, consumed, rfl⟩ := Option.map_eq_some_iff.mp moved
  have kept := transfer_spec consumed
  refine ⟨?_, ?_, valid.sent, valid.sendDone, valid.finDone, valid.receiveDone, valid.receiveLost⟩
  · rw [← valid.conserved]
    exact congrArg (· ++ _ ++ _ ++ _ ++ _ ++ _) kept
  · exact valid.given.trans (congrArg List.length kept.symm)

/-- The end of the socket is no byte. -/
theorem readEof (valid : lane.Valid) (moved : lane.step .readEof = some next) : next.Valid := by
  obtain ⟨-, equation⟩ := Option.ite_none_right_eq_some.mp moved
  obtain rfl := Option.some.inj equation
  exact ⟨valid.conserved, valid.given, valid.sent, valid.sendDone, valid.finDone,
    valid.receiveDone, valid.receiveLost⟩

/-- **No byte is lost, doubled or overtaken** by any step of a direction. -/
theorem step (valid : lane.Valid) {action : LaneAction α} (moved : lane.step action = some next) :
    next.Valid := by
  cases action with
  | write bytes => exact valid.write moved
  | close => exact valid.close moved
  | pull count => exact valid.pull moved
  | push count => exact valid.push moved
  | finish => exact valid.finish moved
  | loseSend => exact valid.loseSend moved
  | arrive count => exact valid.arrive moved
  | arriveFin => exact valid.arriveFin moved
  | take count => exact valid.take moved
  | give count => exact valid.give moved
  | finishReceive => exact valid.finishReceive moved
  | loseReceive => exact valid.loseReceive moved
  | read count => exact valid.read moved
  | readEof => exact valid.readEof moved

end Valid

/-- What a step leaves of each part of the lane. -/
structure Footprint (lane next : Lane α) (action : LaneAction α) : Prop where
  outbound : (next.outbound = lane.outbound ∧ action ≠ .loseSend) ∨
    (lane.outbound.status = .running ∧ (next.outbound.status = .failed ↔ action = .loseSend))
  inbound : (next.inbound = lane.inbound ∧ action ≠ .loseReceive) ∨
    (lane.inbound.status = .running ∧ (next.inbound.status = .failed ↔ action = .loseReceive))
  /-- Only the reader finds the end of its socket. -/
  eof : next.eof = true → lane.eof = true ∨ action = .readEof
  /-- Nothing more is sent once the copy to the stream has ended. -/
  flight : lane.flight = [] → lane.outbound.status ≠ .running → next.flight = []

section Step

variable {lane next : Lane α} {action : LaneAction α}

/-- The footprint of each step. -/
theorem step_footprint (moved : lane.step action = some next) : Footprint lane next action := by
  cases action with
  | write _ | close | arriveFin =>
      obtain ⟨-, equation⟩ := Option.ite_none_right_eq_some.mp moved
      obtain rfl := Option.some.inj equation
      exact ⟨.inl ⟨rfl, nofun⟩, .inl ⟨rfl, nofun⟩, .inl, fun landed _ => landed⟩
  | readEof =>
      obtain ⟨-, equation⟩ := Option.ite_none_right_eq_some.mp moved
      obtain rfl := Option.some.inj equation
      exact ⟨.inl ⟨rfl, nofun⟩, .inl ⟨rfl, nofun⟩, fun _ => .inr rfl, fun landed _ => landed⟩
  | read _ =>
      obtain ⟨queues, -, rfl⟩ := Option.map_eq_some_iff.mp moved
      exact ⟨.inl ⟨rfl, nofun⟩, .inl ⟨rfl, nofun⟩, .inl, fun landed _ => landed⟩
  | arrive count =>
      obtain ⟨-, received⟩ := Option.ite_none_right_eq_some.mp moved
      obtain ⟨queues, crossed, rfl⟩ := Option.map_eq_some_iff.mp received
      refine ⟨.inl ⟨rfl, nofun⟩, .inl ⟨rfl, nofun⟩, .inl, ?_⟩
      intro landed _
      cases ((transfer_eq_none_iff _ _).mpr landed count).symm.trans crossed
  | pull count =>
      obtain ⟨⟨outbound, socket⟩, pulled, rfl⟩ := Option.map_eq_some_iff.mp moved
      obtain ⟨running, still, -⟩ := CopyLoop.pull_spec pulled
      exact ⟨.inr ⟨running, by simp only [still, reduceCtorEq]⟩, .inl ⟨rfl, nofun⟩, .inl,
        fun landed _ => landed⟩
  | push count =>
      obtain ⟨⟨outbound, flight⟩, pushed, rfl⟩ := Option.map_eq_some_iff.mp moved
      obtain ⟨running, still, -⟩ := CopyLoop.push_spec pushed
      exact ⟨.inr ⟨running, by simp only [still, reduceCtorEq]⟩, .inl ⟨rfl, nofun⟩, .inl,
        fun _ ended => absurd running ended⟩
  | finish =>
      obtain ⟨outbound, finished, rfl⟩ := Option.map_eq_some_iff.mp moved
      obtain ⟨running, -, -, -, rfl⟩ := CopyLoop.finish_spec finished
      exact ⟨.inr ⟨running, by simp only [reduceCtorEq]⟩, .inl ⟨rfl, nofun⟩, .inl,
        fun landed _ => landed⟩
  | loseSend =>
      obtain ⟨-, broken⟩ := Option.ite_none_left_eq_some.mp moved
      obtain ⟨outbound, failed, rfl⟩ := Option.map_eq_some_iff.mp broken
      obtain ⟨running, rfl⟩ := CopyLoop.fail_spec failed
      exact ⟨.inr ⟨running, by simp only⟩, .inl ⟨rfl, nofun⟩, .inl, fun landed _ => landed⟩
  | take count =>
      obtain ⟨⟨inbound, arrived⟩, pulled, rfl⟩ := Option.map_eq_some_iff.mp moved
      obtain ⟨running, still, -⟩ := CopyLoop.pull_spec pulled
      exact ⟨.inl ⟨rfl, nofun⟩, .inr ⟨running, by simp only [still, reduceCtorEq]⟩, .inl,
        fun landed _ => landed⟩
  | give count =>
      obtain ⟨⟨inbound, delivered⟩, pushed, rfl⟩ := Option.map_eq_some_iff.mp moved
      obtain ⟨running, still, -⟩ := CopyLoop.push_spec pushed
      exact ⟨.inl ⟨rfl, nofun⟩, .inr ⟨running, by simp only [still, reduceCtorEq]⟩, .inl,
        fun landed _ => landed⟩
  | finishReceive =>
      obtain ⟨inbound, finished, rfl⟩ := Option.map_eq_some_iff.mp moved
      obtain ⟨running, -, -, -, rfl⟩ := CopyLoop.finish_spec finished
      exact ⟨.inl ⟨rfl, nofun⟩, .inr ⟨running, by simp only [reduceCtorEq]⟩, .inl,
        fun landed _ => landed⟩
  | loseReceive =>
      obtain ⟨-, broken⟩ := Option.ite_none_right_eq_some.mp moved
      obtain ⟨inbound, failed, rfl⟩ := Option.map_eq_some_iff.mp broken
      obtain ⟨running, rfl⟩ := CopyLoop.fail_spec failed
      exact ⟨.inl ⟨rfl, nofun⟩, .inr ⟨running, by simp only⟩, .inl, fun landed _ => landed⟩

/-- The first copy fails in one way only. -/
theorem step_outbound_failed (moved : lane.step action = some next) :
    next.outbound.status = .failed ↔ lane.outbound.status = .failed ∨ action = .loseSend := by
  rcases (step_footprint moved).outbound with ⟨kept, other⟩ | ⟨running, failing⟩
  · simp only [kept, other, or_false]
  · simp only [failing, running, reduceCtorEq, false_or]

/-- The second copy fails in one way only. -/
theorem step_inbound_failed (moved : lane.step action = some next) :
    next.inbound.status = .failed ↔ lane.inbound.status = .failed ∨ action = .loseReceive := by
  rcases (step_footprint moved).inbound with ⟨kept, other⟩ | ⟨running, failing⟩
  · simp only [kept, other, or_false]
  · simp only [failing, running, reduceCtorEq, false_or]

/-- A finished first copy stays as it is. -/
theorem step_outbound_finished (moved : lane.step action = some next)
    (finished : lane.outbound.status = .finished) : next.outbound = lane.outbound := by
  rcases (step_footprint moved).outbound with ⟨kept, -⟩ | ⟨running, -⟩
  · exact kept
  · cases running.symm.trans finished

/-- A finished second copy stays as it is. -/
theorem step_inbound_finished (moved : lane.step action = some next)
    (finished : lane.inbound.status = .finished) : next.inbound = lane.inbound := by
  rcases (step_footprint moved).inbound with ⟨kept, -⟩ | ⟨running, -⟩
  · exact kept
  · cases running.symm.trans finished

end Step

section Received

/-- What the reader of the direction has been given. -/
def received (lane : Lane α) : List α :=
  lane.read ++ lane.delivered

variable {lane : Lane α}

/-- What has been read is the front of what has been given. -/
theorem read_prefix_received (lane : Lane α) : lane.read <+: lane.received :=
  List.prefix_append ..

/-- What has been given is the front of what was written. -/
theorem Valid.received_prefix_written (valid : lane.Valid) : lane.received <+: lane.written := by
  have conserved := valid.conserved
  simp only [List.append_assoc] at conserved
  refine ⟨lane.inbound.held ++ lane.arrived ++ lane.flight ++ lane.outbound.held ++ lane.socket, ?_⟩
  simp only [received, List.append_assoc]
  exact conserved

/-- Nothing is left under way once the receiving copy is done. -/
theorem Valid.received_eq_written (valid : lane.Valid)
    (done : lane.inbound.status = .finished) : lane.received = lane.written := by
  obtain ⟨fin, arrived, taken⟩ := valid.receiveDone done
  obtain ⟨sent, flight⟩ := valid.finDone fin
  obtain ⟨-, socket, held⟩ := valid.sendDone sent
  have conserved := valid.conserved
  simpa only [received, arrived, taken, flight, socket, held, List.append_nil] using conserved

/-- A second copy that has finished has copied everything that was written. -/
theorem Valid.inbound_copied (valid : lane.Valid) (done : lane.inbound.status = .finished) :
    lane.inbound.copied = lane.written.length := by
  rw [valid.given, ← valid.received_eq_written done]
  rfl

/-- The sending copy has counted what the receiving copy counts. -/
theorem Valid.outbound_copied (valid : lane.Valid) (done : lane.inbound.status = .finished) :
    lane.outbound.copied = lane.written.length := by
  obtain ⟨fin, arrived, taken⟩ := valid.receiveDone done
  obtain ⟨-, flight⟩ := valid.finDone fin
  have sent := valid.sent
  simp only [yielded, arrived, taken, flight, List.length_nil, Nat.add_zero] at sent
  exact sent.trans (valid.inbound_copied done)

end Received

end Lane

end OrbitBuild.Tunnel
