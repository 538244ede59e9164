import OrbitBuild.Foundation.Simulation
import OrbitBuild.Tunnel.HalfClose

/-! # How a session is set up

`proxy_session` has its client's stream from the start, connects to the satellite and
opens a stream. The router of the satellite asks whether the peer is allowed and closes
the connection if it is not. `BuildProxy::accept` waits for the stream, which it sees
with the first bytes or the end of it, and connects to buildkitd. The copies of an
endpoint start once it has both streams.
-/

namespace OrbitBuild.Tunnel

/-- How far `proxy_session` has come. -/
inductive BridgePhase
  | connecting
  | opening
  | copying
  | connectFailed
  | openFailed
  deriving DecidableEq, Repr

/-- How far the satellite has come with the connection. -/
inductive SatellitePhase
  /-- The handshake is not over. -/
  | absent
  /-- `AccessLimit` is about to ask its predicate. -/
  | checking
  | refused
  /-- In `accept_bi`. -/
  | accepting
  | acceptFailed
  /-- In `UnixStream::connect`. -/
  | dialing
  | dialFailed
  | copying
  deriving DecidableEq, Repr

/-- The predicate of `AccessLimit` has let the peer in. -/
def SatellitePhase.admitted : SatellitePhase → Bool
  | .accepting | .acceptFailed | .dialing | .dialFailed | .copying => true
  | .absent | .checking | .refused => false

/-- `accept_bi` has returned a stream. -/
def SatellitePhase.asked : SatellitePhase → Bool
  | .dialing | .dialFailed | .copying => true
  | .absent | .checking | .refused | .accepting | .acceptFailed => false

/-- One client's connection to a bridge's socket, and everything it leads to. -/
structure Connection (α : Type) where
  bridge : BridgePhase
  satellite : SatellitePhase
  session : Session α

inductive ConnectionAction (α : Type)
  /-- `endpoint.connect` succeeds: the handshake is over on both sides. -/
  | connect
  | failConnect
  | openBi
  | failOpen
  /-- The predicate of `AccessLimit` answers. -/
  | check (allowed : Bool)
  | acceptBi
  | failAccept
  | dial
  | failDial
  | session (action : Action α)
  deriving DecidableEq, Repr

/-- Whose copies take the step. -/
def Action.copier : Action α → Option Side
  | .lane side (.pull _) | .lane side (.push _) | .lane side .finish | .lane side .loseSend =>
      some side
  | .lane side (.take _) | .lane side (.give _) | .lane side .finishReceive
  | .lane side .loseReceive => some side.other
  | .complete side => some side
  | _ => none

/-- Which end takes the step. -/
def Action.user : Action α → Option Side
  | .lane side (.write _) | .lane side .close => some side
  | .lane side (.read _) | .lane side .readEof => some side.other
  | _ => none

section Untouched

variable {α : Type}

/-- A step leaves the copies and the ends that do not take it as they are. -/
structure Lane.Untouched (lane next : Lane α) (side : Side) (action : LaneAction α) : Prop where
  outbound : Action.copier (.lane side action) ≠ some side → next.outbound = lane.outbound
  inbound : Action.copier (.lane side action) ≠ some side.other → next.inbound = lane.inbound
  writer : Action.user (.lane side action) ≠ some side →
    next.written = lane.written ∧ next.closed = lane.closed
  reader : Action.user (.lane side action) ≠ some side.other →
    next.read = lane.read ∧ next.eof = lane.eof
  written : lane.written <+: next.written
  closed : lane.closed = true → next.closed = true

/-- Each step of a direction is of one copy, one end or the network. -/
theorem Lane.step_untouched {lane next : Lane α} {action : LaneAction α} (side : Side)
    (moved : lane.step action = some next) : Lane.Untouched lane next side action := by
  cases action with
  | write bytes =>
      obtain ⟨-, equation⟩ := Option.ite_none_right_eq_some.mp moved
      obtain rfl := Option.some.inj equation
      exact ⟨fun _ => rfl, fun _ => rfl, fun other => absurd rfl other, fun _ => ⟨rfl, rfl⟩,
        List.prefix_append .., id⟩
  | close =>
      obtain ⟨-, equation⟩ := Option.ite_none_right_eq_some.mp moved
      obtain rfl := Option.some.inj equation
      exact ⟨fun _ => rfl, fun _ => rfl, fun other => absurd rfl other, fun _ => ⟨rfl, rfl⟩,
        List.prefix_rfl, fun _ => rfl⟩
  | pull _ | push _ | finish =>
      obtain ⟨part, -, rfl⟩ := Option.map_eq_some_iff.mp moved
      exact ⟨fun other => absurd rfl other, fun _ => rfl, fun _ => ⟨rfl, rfl⟩,
        fun _ => ⟨rfl, rfl⟩, List.prefix_rfl, id⟩
  | loseSend =>
      obtain ⟨-, broken⟩ := Option.ite_none_left_eq_some.mp moved
      obtain ⟨part, -, rfl⟩ := Option.map_eq_some_iff.mp broken
      exact ⟨fun other => absurd rfl other, fun _ => rfl, fun _ => ⟨rfl, rfl⟩,
        fun _ => ⟨rfl, rfl⟩, List.prefix_rfl, id⟩
  | arrive _ =>
      obtain ⟨-, received⟩ := Option.ite_none_right_eq_some.mp moved
      obtain ⟨part, -, rfl⟩ := Option.map_eq_some_iff.mp received
      exact ⟨fun _ => rfl, fun _ => rfl, fun _ => ⟨rfl, rfl⟩, fun _ => ⟨rfl, rfl⟩,
        List.prefix_rfl, id⟩
  | arriveFin =>
      obtain ⟨-, equation⟩ := Option.ite_none_right_eq_some.mp moved
      obtain rfl := Option.some.inj equation
      exact ⟨fun _ => rfl, fun _ => rfl, fun _ => ⟨rfl, rfl⟩, fun _ => ⟨rfl, rfl⟩,
        List.prefix_rfl, id⟩
  | take _ | give _ | finishReceive =>
      obtain ⟨part, -, rfl⟩ := Option.map_eq_some_iff.mp moved
      exact ⟨fun _ => rfl, fun other => absurd rfl other, fun _ => ⟨rfl, rfl⟩,
        fun _ => ⟨rfl, rfl⟩, List.prefix_rfl, id⟩
  | loseReceive =>
      obtain ⟨-, broken⟩ := Option.ite_none_right_eq_some.mp moved
      obtain ⟨part, -, rfl⟩ := Option.map_eq_some_iff.mp broken
      exact ⟨fun _ => rfl, fun other => absurd rfl other, fun _ => ⟨rfl, rfl⟩,
        fun _ => ⟨rfl, rfl⟩, List.prefix_rfl, id⟩
  | read _ =>
      obtain ⟨part, -, rfl⟩ := Option.map_eq_some_iff.mp moved
      exact ⟨fun _ => rfl, fun _ => rfl, fun _ => ⟨rfl, rfl⟩, fun other => absurd rfl other,
        List.prefix_rfl, id⟩
  | readEof =>
      obtain ⟨-, equation⟩ := Option.ite_none_right_eq_some.mp moved
      obtain rfl := Option.some.inj equation
      exact ⟨fun _ => rfl, fun _ => rfl, fun _ => ⟨rfl, rfl⟩, fun other => absurd rfl other,
        List.prefix_rfl, id⟩

/-- Who takes a step of a direction, when it is seen from one of the sides. -/
theorem Session.step_place {session next : Session α} {action : Action α}
    (moved : session.step action = some next) (place : Side) :
    next.lane place = session.lane place ∨
      ∃ move, action = .lane place move ∧
        (session.lane place).step move = some (next.lane place) := by
  cases action with
  | lane side move =>
      obtain ⟨-, lane, stepped, lanes, -⟩ := step_lane moved
      by_cases same : place = side
      · subst same
        exact .inr ⟨move, rfl, by rw [lanes, Function.update_self]; exact stepped⟩
      · exact .inl (by rw [lanes, Function.update_of_ne same])
  | complete side | crash side =>
      obtain ⟨-, equation⟩ := Option.ite_none_right_eq_some.mp moved
      obtain rfl := Option.some.inj equation
      exact .inl rfl

variable {session next : Session α} {action : Action α} {place : Side}

/-- Only the endpoint beside the writer moves the first copy. -/
theorem Session.step_outbound_kept (moved : session.step action = some next)
    (other : action.copier ≠ some place) :
    (next.lane place).outbound = (session.lane place).outbound := by
  rcases step_place moved place with kept | ⟨move, rfl, stepped⟩
  · rw [kept]
  · exact (Lane.step_untouched place stepped).outbound other

/-- Only the endpoint beside the reader moves the second copy. -/
theorem Session.step_inbound_kept (moved : session.step action = some next)
    (other : action.copier ≠ some place) :
    (next.lane place.other).inbound = (session.lane place.other).inbound := by
  rcases step_place moved place.other with kept | ⟨move, rfl, stepped⟩
  · rw [kept]
  · exact (Lane.step_untouched place.other stepped).inbound (by rwa [Side.other_other])

/-- Only the writer writes and closes. -/
theorem Session.step_writer_kept (moved : session.step action = some next)
    (other : action.user ≠ some place) :
    (next.lane place).written = (session.lane place).written ∧
      (next.lane place).closed = (session.lane place).closed := by
  rcases step_place moved place with kept | ⟨move, rfl, stepped⟩
  · rw [kept]
    exact ⟨rfl, rfl⟩
  · exact (Lane.step_untouched place stepped).writer other

/-- Only the reader reads. -/
theorem Session.step_reader_kept (moved : session.step action = some next)
    (other : action.user ≠ some place) :
    (next.lane place.other).read = (session.lane place.other).read ∧
      (next.lane place.other).eof = (session.lane place.other).eof := by
  rcases step_place moved place.other with kept | ⟨move, rfl, stepped⟩
  · rw [kept]
    exact ⟨rfl, rfl⟩
  · exact (Lane.step_untouched place.other stepped).reader (by rwa [Side.other_other])

/-- An end that has written or closed has done so for good. -/
theorem Session.step_spoken (moved : session.step action = some next)
    (spoken : (session.lane place).written ≠ [] ∨ (session.lane place).closed = true) :
    (next.lane place).written ≠ [] ∨ (next.lane place).closed = true := by
  rcases step_place moved place with kept | ⟨move, rfl, stepped⟩
  · rwa [kept]
  · have untouched := Lane.step_untouched place stepped
    rcases spoken with present | closed
    · exact .inl fun empty => present (List.prefix_nil.mp (empty ▸ untouched.written))
    · exact .inr (untouched.closed closed)

/-- An endpoint that has ended stays as it is. -/
theorem Session.step_ended (moved : session.step action = some next)
    (ended : session.endpoint place ≠ .running) :
    next.endpoint place = session.endpoint place := by
  have elsewhere : ∀ side, session.endpoint side = .running → place ≠ side := by
    rintro side running rfl
    exact ended running
  cases action with
  | lane side move =>
      obtain ⟨permitted, -, -, -, endpoints⟩ := step_lane moved
      rw [endpoints]
      cases move with
      | loseSend => exact Function.update_of_ne (elsewhere _ permitted.1) ..
      | loseReceive => exact Function.update_of_ne (elsewhere _ permitted.1) ..
      | _ => rfl
  | complete side =>
      obtain ⟨⟨running, -⟩, equation⟩ := Option.ite_none_right_eq_some.mp moved
      obtain rfl := Option.some.inj equation
      exact Function.update_of_ne (elsewhere _ running) ..
  | crash side =>
      obtain ⟨running, equation⟩ := Option.ite_none_right_eq_some.mp moved
      obtain rfl := Option.some.inj equation
      exact Function.update_of_ne (elsewhere _ running) ..

/-- An endpoint that has ended does not start again. -/
theorem Session.step_running (moved : session.step action = some next)
    (running : next.endpoint place = .running) : session.endpoint place = .running := by
  by_contra ended
  exact ended (step_ended moved ended ▸ running)

/-- A sending copy that is done has counted everything that was written. -/
theorem Lane.Valid.outbound_all {lane : Lane α} (valid : lane.Valid)
    (done : lane.outbound.status = .finished) : lane.outbound.copied = lane.written.length := by
  obtain ⟨-, socket, held⟩ := valid.sendDone done
  have conserved := congrArg List.length valid.conserved
  have given := valid.given
  have sent := valid.sent
  simp only [socket, held, List.append_nil, List.length_append, Lane.yielded]
    at conserved given sent
  omega

end Untouched

namespace Connection

variable {α : Type}

def initial : Connection α where
  bridge := .connecting
  satellite := .absent
  session := .initial

/-- The endpoint has both streams. -/
def attached (connection : Connection α) : Side → Bool
  | .client => connection.bridge = .copying
  | .buildkitd => connection.satellite = .copying

/-- The client is there from the start, buildkitd once it is connected to. -/
def ready (connection : Connection α) (action : Action α) : Bool :=
  action.copier.all connection.attached &&
    (action.user != some .buildkitd || connection.attached .buildkitd)

/-- Leave a phase for another while the endpoint runs. -/
def enter (connection : Connection α) (side : Side) (bridge : BridgePhase)
    (satellite : SatellitePhase) : Option (Connection α) :=
  if connection.session.endpoint side = .running then
    some { connection with bridge, satellite }
  else none

/-- Give up: the endpoint's connection and its Unix socket are dropped. -/
def abandon (connection : Connection α) (side : Side) (bridge : BridgePhase)
    (satellite : SatellitePhase) : Option (Connection α) :=
  (connection.session.step (.crash side)).map fun session => ⟨bridge, satellite, session⟩

def step (connection : Connection α) : ConnectionAction α → Option (Connection α)
  | .connect =>
      if connection.bridge = .connecting ∧ connection.satellite = .absent ∧
          connection.session.endpoint .buildkitd = .running then
        connection.enter .client .opening .checking
      else none
  | .failConnect =>
      if connection.bridge = .connecting then
        connection.abandon .client .connectFailed connection.satellite
      else none
  | .openBi =>
      if connection.bridge = .opening then
        connection.enter .client .copying connection.satellite
      else none
  | .failOpen =>
      if connection.bridge = .opening then
        connection.abandon .client .openFailed connection.satellite
      else none
  | .check allowed =>
      if connection.satellite = .checking then
        if allowed then connection.enter .buildkitd connection.bridge .accepting
        else connection.abandon .buildkitd connection.bridge .refused
      else none
  -- A stream is known to its acceptor from its first frame on.
  | .acceptBi =>
      if connection.satellite = .accepting ∧
          ((connection.session.lane .client).arrived ≠ [] ∨
            (connection.session.lane .client).finArrived = true) then
        connection.enter .buildkitd connection.bridge .dialing
      else none
  | .failAccept =>
      if connection.satellite = .accepting then
        connection.abandon .buildkitd connection.bridge .acceptFailed
      else none
  | .dial =>
      if connection.satellite = .dialing then
        connection.enter .buildkitd connection.bridge .copying
      else none
  | .failDial =>
      if connection.satellite = .dialing then
        connection.abandon .buildkitd connection.bridge .dialFailed
      else none
  | .session action =>
      if connection.ready action then
        (connection.session.step action).map fun session => { connection with session }
      else none

section Step

variable {connection next : Connection α} {side : Side} {bridge : BridgePhase}
  {satellite : SatellitePhase}

/-- A new phase leaves the session as it is. -/
theorem enter_eq_some (moved : connection.enter side bridge satellite = some next) :
    next = ⟨bridge, satellite, connection.session⟩ :=
  (Option.some.inj (Option.ite_none_right_eq_some.mp moved).2).symm

/-- An endpoint that gives up leaves what is under way as it is. -/
theorem abandon_eq_some (moved : connection.abandon side bridge satellite = some next) :
    next.bridge = bridge ∧ next.satellite = satellite ∧
      next.session.lane = connection.session.lane ∧
      connection.session.step (.crash side) = some next.session := by
  obtain ⟨session, crashed, rfl⟩ := Option.map_eq_some_iff.mp moved
  obtain ⟨-, equation⟩ := Option.ite_none_right_eq_some.mp crashed
  exact ⟨rfl, rfl, by rw [← Option.some.inj equation], crashed⟩

/-- A step of the session is one its phases are ready for. -/
theorem step_session {action : Action α} (moved : step connection (.session action) = some next) :
    connection.ready action = true ∧ connection.session.step action = some next.session ∧
      next.bridge = connection.bridge ∧ next.satellite = connection.satellite := by
  obtain ⟨ready, enabled⟩ := Option.ite_none_right_eq_some.mp moved
  obtain ⟨session, stepped, rfl⟩ := Option.map_eq_some_iff.mp enabled
  exact ⟨ready, stepped, rfl, rfl⟩

/-- What the steps between two phases change. -/
structure Passes (connection next : Connection α) : Prop where
  lanes : next.session.lane = connection.session.lane
  reachable : Transition.Reachable Session.step connection.session next.session
  bridge : next.bridge = connection.bridge ∨ connection.bridge = .connecting ∨
    connection.bridge = .opening
  /-- The copies of an endpoint do not stop but with it. -/
  attached : ∀ side, connection.attached side = true → next.attached side = true
  /-- Whoever is let on to buildkitd has shown its stream. -/
  asked : next.satellite.asked = true → connection.satellite.asked = true ∨
    (connection.session.lane .client).arrived ≠ [] ∨
      (connection.session.lane .client).finArrived = true

/-- An endpoint that gives up takes its connection with it. -/
theorem passes_of_abandon (moved : connection.abandon side bridge satellite = some next)
    (place : bridge = connection.bridge ∨ connection.bridge = .connecting ∨
      connection.bridge = .opening) (attached : ∀ side, connection.attached side = true →
      (⟨bridge, satellite, connection.session⟩ : Connection α).attached side = true)
    (asked : satellite.asked = true → connection.satellite.asked = true) :
    Passes connection next := by
  obtain ⟨rfl, rfl, lanes, crashed⟩ := abandon_eq_some moved
  exact ⟨lanes, .single crashed, place, attached, fun entered => .inl (asked entered)⟩

/-- A step from one phase to the next moves no bytes. -/
theorem passes_of_step {action : ConnectionAction α} (moved : step connection action = some next)
    (phase : ∀ move, action ≠ .session move) : Passes connection next := by
  have keeps : ∀ {bridge : BridgePhase} {satellite : SatellitePhase},
      (connection.bridge = .copying → bridge = .copying) →
      (connection.satellite = .copying → satellite = .copying) →
      ∀ side, connection.attached side = true →
        (⟨bridge, satellite, connection.session⟩ : Connection α).attached side = true := by
    intro bridge satellite first second side attached
    cases side with
    | client => exact decide_eq_true (first (of_decide_eq_true attached))
    | buildkitd => exact decide_eq_true (second (of_decide_eq_true attached))
  cases action with
  | session move => exact absurd rfl (phase move)
  | connect =>
      obtain ⟨⟨before, absent, -⟩, entered⟩ := Option.ite_none_right_eq_some.mp moved
      obtain rfl := enter_eq_some entered
      exact ⟨rfl, .refl _, .inr (.inl before), keeps (by rw [before]; nofun)
        (by rw [absent]; nofun), nofun⟩
  | failConnect =>
      obtain ⟨before, left⟩ := Option.ite_none_right_eq_some.mp moved
      exact passes_of_abandon left (.inr (.inl before)) (keeps (by rw [before]; nofun) id) id
  | openBi =>
      obtain ⟨before, entered⟩ := Option.ite_none_right_eq_some.mp moved
      obtain rfl := enter_eq_some entered
      exact ⟨rfl, .refl _, .inr (.inr before), keeps (fun _ => rfl) id, .inl⟩
  | failOpen =>
      obtain ⟨before, left⟩ := Option.ite_none_right_eq_some.mp moved
      exact passes_of_abandon left (.inr (.inr before)) (keeps (by rw [before]; nofun) id) id
  | check allowed =>
      obtain ⟨before, answered⟩ := Option.ite_none_right_eq_some.mp moved
      cases allowed with
      | true =>
          obtain rfl := enter_eq_some answered
          exact ⟨rfl, .refl _, .inl rfl, keeps id (by rw [before]; nofun), nofun⟩
      | false =>
          exact passes_of_abandon answered (.inl rfl) (keeps id (by rw [before]; nofun)) nofun
  | acceptBi =>
      obtain ⟨⟨before, seen⟩, entered⟩ := Option.ite_none_right_eq_some.mp moved
      obtain rfl := enter_eq_some entered
      exact ⟨rfl, .refl _, .inl rfl, keeps id (by rw [before]; nofun), fun _ => .inr seen⟩
  | failAccept =>
      obtain ⟨before, left⟩ := Option.ite_none_right_eq_some.mp moved
      exact passes_of_abandon left (.inl rfl) (keeps id (by rw [before]; nofun)) nofun
  | dial =>
      obtain ⟨before, entered⟩ := Option.ite_none_right_eq_some.mp moved
      obtain rfl := enter_eq_some entered
      exact ⟨rfl, .refl _, .inl rfl, keeps id (fun _ => rfl),
        fun _ => .inl (by rw [before]; rfl)⟩
  | failDial =>
      obtain ⟨before, left⟩ := Option.ite_none_right_eq_some.mp moved
      exact passes_of_abandon left (.inl rfl) (keeps id (by rw [before]; nofun))
        (fun _ => by rw [before]; rfl)

/-- Nobody is let in but by the predicate. -/
theorem admitted_step {action : ConnectionAction α} (moved : step connection action = some next)
    (admitted : next.satellite.admitted = true) :
    connection.satellite.admitted = true ∨ action = .check true := by
  cases action with
  | session move => exact .inl ((step_session moved).2.2.2 ▸ admitted)
  | check allowed =>
      obtain ⟨-, answered⟩ := Option.ite_none_right_eq_some.mp moved
      cases allowed with
      | true => exact .inr rfl
      | false =>
          rw [(abandon_eq_some answered).2.1] at admitted
          cases admitted
  | connect =>
      obtain ⟨-, entered⟩ := Option.ite_none_right_eq_some.mp moved
      rw [enter_eq_some entered] at admitted
      cases admitted
  | openBi =>
      obtain ⟨-, entered⟩ := Option.ite_none_right_eq_some.mp moved
      rw [enter_eq_some entered] at admitted
      exact .inl admitted
  | failConnect | failOpen =>
      obtain ⟨-, left⟩ := Option.ite_none_right_eq_some.mp moved
      rw [(abandon_eq_some left).2.1] at admitted
      exact .inl admitted
  | acceptBi =>
      obtain ⟨⟨before, -⟩, -⟩ := Option.ite_none_right_eq_some.mp moved
      exact .inl (by rw [before]; rfl)
  | failAccept | dial | failDial =>
      obtain ⟨before, -⟩ := Option.ite_none_right_eq_some.mp moved
      exact .inl (by rw [before]; rfl)

end Step

/-- A connection is a session that some steps have been kept from. -/
theorem projects :
    Transition.Projects (step (α := α)) Session.step Connection.session := by
  intro connection action next moved
  by_cases phase : ∃ move, action = .session move
  · obtain ⟨move, rfl⟩ := phase
    exact .single (step_session moved).2.1
  · exact (passes_of_step moved (not_exists.mp phase)).reachable

abbrev ReachableState (connection : Connection α) : Prop :=
  Transition.Reachable step initial connection

/-- The session of a reachable connection is a reachable session. -/
theorem ReachableState.session {connection : Connection α} (reached : connection.ReachableState) :
    connection.session.ReachableState :=
  projects.reachable reached

/-- An endpoint that has not got both streams copies nothing, and buildkitd is not spoken
to before its client has spoken. -/
@[mk_iff]
structure Staged (connection : Connection α) : Prop where
  unsent : ∀ side, connection.attached side = false →
    (connection.session.lane side).outbound = .initial
  untaken : ∀ side, connection.attached side = false →
    (connection.session.lane side.other).inbound = .initial
  unspoken : connection.attached .buildkitd = false →
    (connection.session.lane .buildkitd).written = [] ∧
      (connection.session.lane .buildkitd).closed = false
  unread : connection.attached .buildkitd = false →
    (connection.session.lane .client).read = [] ∧ (connection.session.lane .client).eof = false
  asked : connection.satellite.asked = true →
    (connection.session.lane .client).written ≠ [] ∨
      (connection.session.lane .client).closed = true

theorem Staged.initial : (Connection.initial : Connection α).Staged where
  unsent := fun _ _ => rfl
  untaken := fun _ _ => rfl
  unspoken := fun _ => ⟨rfl, rfl⟩
  unread := fun _ => ⟨rfl, rfl⟩
  asked := nofun

section Step

variable {connection next : Connection α}

/-- An endpoint without both streams copies nothing. -/
theorem copier_ne {action : Action α} (ready : connection.ready action = true) {side : Side}
    (detached : connection.attached side = false) : action.copier ≠ some side := by
  intro copies
  have attached := (Bool.and_eq_true_iff.mp ready).1
  rw [copies, Option.all_some, detached] at attached
  cases attached

/-- Nothing is written or read at buildkitd before it is connected to. -/
theorem user_ne {action : Action α} (ready : connection.ready action = true)
    (detached : connection.attached .buildkitd = false) : action.user ≠ some .buildkitd := by
  have either := (Bool.and_eq_true_iff.mp ready).2
  rw [detached, Bool.or_false] at either
  exact bne_iff_ne.mp either

/-- A stream that has been seen has been written to or closed by the client. -/
theorem spoken_of_seen (valid : connection.session.Valid)
    (seen : (connection.session.lane .client).arrived ≠ [] ∨
      (connection.session.lane .client).finArrived = true) :
    (connection.session.lane .client).written ≠ [] ∨
      (connection.session.lane .client).closed = true := by
  have lane := valid.lanes .client
  rcases seen with present | fin
  · left
    intro empty
    have conserved := lane.conserved
    simp only [empty, List.append_eq_nil_iff] at conserved
    exact present conserved.1.1.1.2
  · exact .inr (lane.sendDone (lane.finDone fin).1).1

/-- A step of the session keeps to the stages. -/
theorem Staged.step_session (staged : connection.Staged) {action : Action α}
    (moved : step connection (.session action) = some next) : next.Staged := by
  obtain ⟨ready, stepped, bridge, satellite⟩ := Connection.step_session moved
  have attached : ∀ side, next.attached side = connection.attached side := by
    intro side
    cases side with
    | client => simp only [Connection.attached, bridge]
    | buildkitd => simp only [Connection.attached, satellite]
  refine ⟨?_, ?_, ?_, ?_, ?_⟩
  · intro side detached
    rw [attached] at detached
    rw [Session.step_outbound_kept stepped (copier_ne ready detached)]
    exact staged.unsent side detached
  · intro side detached
    rw [attached] at detached
    rw [Session.step_inbound_kept stepped (copier_ne ready detached)]
    exact staged.untaken side detached
  · intro detached
    rw [attached] at detached
    obtain ⟨written, closed⟩ := Session.step_writer_kept stepped (user_ne ready detached)
    rw [written, closed]
    exact staged.unspoken detached
  · intro detached
    rw [attached] at detached
    obtain ⟨read, eof⟩ := Session.step_reader_kept stepped (user_ne ready detached)
    rw [Side.other] at read eof
    rw [read, eof]
    exact staged.unread detached
  · intro asked
    rw [satellite] at asked
    exact Session.step_spoken stepped (staged.asked asked)

/-- The step to a new phase keeps to the stages. -/
theorem Staged.passes (staged : connection.Staged) (valid : connection.session.Valid)
    (passes : Passes connection next) : next.Staged := by
  have detached : ∀ side, next.attached side = false → connection.attached side = false := by
    intro side later
    by_contra before
    rw [passes.attached side (Bool.not_eq_false _ ▸ before)] at later
    cases later
  rw [Connection.staged_iff, passes.lanes]
  exact ⟨fun side later => staged.unsent side (detached side later),
    fun side later => staged.untaken side (detached side later),
    fun later => staged.unspoken (detached _ later), fun later => staged.unread (detached _ later),
    fun asked => (passes.asked asked).elim staged.asked (spoken_of_seen valid)⟩

end Step

/-- Every reachable connection keeps to the stages. -/
theorem ReachableState.staged {connection : Connection α} (reached : connection.ReachableState) :
    connection.Staged := by
  refine Transition.Reachable.induction .initial ?_ reached
  intro before action next toBefore staged moved
  by_cases phase : ∃ move, action = .session move
  · obtain ⟨move, rfl⟩ := phase
    exact staged.step_session moved
  · exact staged.passes (ReachableState.session toBefore).valid
      (passes_of_step moved (not_exists.mp phase))

/-- Before buildkitd is connected to, it is given nothing and the client is answered
nothing. -/
theorem ReachableState.unserved {connection : Connection α} (reached : connection.ReachableState)
    (detached : connection.attached .buildkitd = false) :
    (connection.session.lane .client).received = [] ∧
      (connection.session.lane .buildkitd).written = [] ∧
      (connection.session.lane .buildkitd).received = [] := by
  have valid := (ReachableState.session reached).valid
  have staged := ReachableState.staged reached
  have silent := (staged.unspoken detached).1
  have given := (valid.lanes .client).given
  have untaken := staged.untaken .buildkitd detached
  rw [Side.other] at untaken
  rw [untaken] at given
  have answered := (valid.lanes .buildkitd).received_prefix_written
  rw [silent] at answered
  exact ⟨List.length_eq_zero_iff.mp given.symm, silent, List.prefix_nil.mp answered⟩

end Connection

end OrbitBuild.Tunnel
