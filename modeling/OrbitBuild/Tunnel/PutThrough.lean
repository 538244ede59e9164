import OrbitBuild.Tunnel.Connection

/-! # Clients that are put through

The satellite connects to buildkitd when it sees the client's stream, and it sees the
stream with what the client sends. A client that connects and waits to be spoken to is
not put through, though nothing has failed; any other client can be.
-/

namespace OrbitBuild.Tunnel

variable {α : Type}

/-- The steps that move a direction's bytes as far as its receiving endpoint. -/
def Lane.Sends : LaneAction α → Prop
  | .pull _ | .push _ | .finish | .arrive _ | .arriveFin => True
  | _ => False

section Seen

variable (lane : Lane α)

/-- The first bytes of the stream have been received, or its end. -/
def Lane.Seen (lane : Lane α) : Prop :=
  lane.arrived ≠ [] ∨ lane.finArrived = true

/-- What is on the stream can arrive. -/
theorem Lane.seen_of_flight (receiving : lane.inbound.status = .running)
    (present : lane.flight ≠ []) :
    ∃ next, Transition.ReachableBy Lane.step Lane.Sends lane next ∧ next.Seen := by
  have moved : lane.step (.arrive lane.flight.length) =
      some { lane with flight := [], arrived := lane.arrived ++ lane.flight } := by
    simp only [Lane.step, receiving, if_true, transfer_all _ present, Option.map_some]
  refine ⟨_, .single moved trivial, .inl ?_⟩
  intro empty
  exact present (List.append_eq_nil_iff.mp empty).2

/-- What the first copy holds can be sent. -/
theorem Lane.seen_of_held (receiving : lane.inbound.status = .running)
    (sending : lane.outbound.status = .running) (present : lane.outbound.held ≠ []) :
    ∃ next, Transition.ReachableBy Lane.step Lane.Sends lane next ∧ next.Seen := by
  have moved : lane.step (.push lane.outbound.held.length) =
      some { lane with
        outbound := { lane.outbound with
          held := [], copied := lane.outbound.copied + lane.outbound.held.length }
        flight := lane.flight ++ lane.outbound.held } := by
    simp only [Lane.step, CopyLoop.push, sending, if_true, transfer_all _ present, Option.map_some]
  obtain ⟨next, reached, seen⟩ := Lane.seen_of_flight
    { lane with
      outbound := { lane.outbound with
        held := [], copied := lane.outbound.copied + lane.outbound.held.length }
      flight := lane.flight ++ lane.outbound.held }
    receiving fun empty => present (List.append_eq_nil_iff.mp empty).2
  exact ⟨next, .cons moved trivial reached, seen⟩

/-- What waits in the socket can be taken and sent. -/
theorem Lane.seen_of_socket (receiving : lane.inbound.status = .running)
    (sending : lane.outbound.status = .running) (present : lane.socket ≠ []) :
    ∃ next, Transition.ReachableBy Lane.step Lane.Sends lane next ∧ next.Seen := by
  have moved : lane.step (.pull lane.socket.length) =
      some { lane with
        outbound := { lane.outbound with held := lane.outbound.held ++ lane.socket }
        socket := [] } := by
    simp only [Lane.step, CopyLoop.pull, sending, if_true, transfer_all _ present, Option.map_some]
  obtain ⟨next, reached, seen⟩ := Lane.seen_of_held
    { lane with
      outbound := { lane.outbound with held := lane.outbound.held ++ lane.socket }
      socket := [] }
    receiving sending fun empty => present (List.append_eq_nil_iff.mp empty).2
  exact ⟨next, .cons moved trivial reached, seen⟩

/-- A stream that was finished can be seen to be so. -/
theorem Lane.seen_of_finished (receiving : lane.inbound.status = .running)
    (sent : lane.outbound.status = .finished) (landed : lane.flight = []) :
    ∃ next, Transition.ReachableBy Lane.step Lane.Sends lane next ∧ next.Seen := by
  cases fin : lane.finArrived with
  | true => exact ⟨lane, .refl lane, .inr fin⟩
  | false =>
      have moved : lane.step .arriveFin = some { lane with finArrived := true } := by
        simp only [Lane.step, receiving, sent, landed, fin, and_self, if_true]
      exact ⟨_, .single moved trivial, .inr rfl⟩

/-- A stream whose writer has closed can be finished. -/
theorem Lane.seen_of_closed (receiving : lane.inbound.status = .running)
    (sending : lane.outbound.status = .running) (held : lane.outbound.held = [])
    (socket : lane.socket = []) (closed : lane.closed = true) (landed : lane.flight = []) :
    ∃ next, Transition.ReachableBy Lane.step Lane.Sends lane next ∧ next.Seen := by
  have moved : lane.step .finish =
      some { lane with outbound := { lane.outbound with status := .finished } } := by
    simp only [Lane.step, CopyLoop.finish, sending, held, socket, closed, and_self, if_true,
      Option.map_some]
  obtain ⟨next, reached, seen⟩ := Lane.seen_of_finished
    { lane with outbound := { lane.outbound with status := .finished } }
    receiving rfl landed
  exact ⟨next, .cons moved trivial reached, seen⟩

/-- The stream of a writer that has written or closed gets to be seen. -/
theorem Lane.Valid.exists_seen {lane : Lane α} (valid : lane.Valid)
    (receiving : lane.inbound.status = .running) (sound : lane.outbound.status ≠ .failed)
    (untaken : lane.received = []) (idle : lane.inbound.held = [])
    (spoken : lane.written ≠ [] ∨ lane.closed = true) :
    ∃ next, Transition.ReachableBy Lane.step Lane.Sends lane next ∧ next.Seen := by
  by_cases arrived : lane.arrived = []
  · by_cases landed : lane.flight = []
    · cases status : lane.outbound.status with
      | failed => exact absurd status sound
      | finished => exact Lane.seen_of_finished _ receiving status landed
      | running =>
          by_cases held : lane.outbound.held = []
          · by_cases socket : lane.socket = []
            · have conserved := valid.conserved
              rw [← Lane.received, untaken, idle, arrived, landed, held, socket] at conserved
              exact Lane.seen_of_closed _ receiving status held socket
                (spoken.resolve_left (not_not_intro conserved.symm)) landed
            · exact Lane.seen_of_socket _ receiving status socket
          · exact Lane.seen_of_held _ receiving status held
    · exact Lane.seen_of_flight _ receiving landed
  · exact ⟨lane, .refl lane, .inl arrived⟩

end Seen

namespace Connection

/-- Steps of the endpoints and of the network that nothing goes wrong in. -/
def Forward : ConnectionAction α → Prop
  | .connect | .openBi | .check true | .acceptBi | .dial => True
  | .session action => action.Internal ∧ action.user = none
  | _ => False

/-- The client has written something, or closed its writing side. -/
def Spoken (connection : Connection α) : Prop :=
  (connection.session.lane .client).written ≠ [] ∨
    (connection.session.lane .client).closed = true

/-- Both endpoints run, so nothing has failed. -/
def Running (connection : Connection α) : Prop :=
  ∀ side, connection.session.endpoint side = .running

/-- Both endpoints are copying. -/
def Attached (connection : Connection α) : Prop :=
  ∀ side, connection.attached side = true

/-- What the phases of two running endpoints tell of each other. -/
structure Phased (connection : Connection α) : Prop where
  absent : connection.satellite = .absent ↔
    connection.bridge = .connecting ∨ connection.bridge = .connectFailed
  dialed : connection.session.endpoint .client = .running →
    connection.bridge ≠ .connectFailed ∧ connection.bridge ≠ .openFailed
  served : connection.session.endpoint .buildkitd = .running →
    connection.satellite ≠ .refused ∧ connection.satellite ≠ .acceptFailed ∧
      connection.satellite ≠ .dialFailed

theorem Phased.initial : (Connection.initial : Connection α).Phased where
  absent := ⟨fun _ => .inl rfl, fun _ => rfl⟩
  dialed := fun _ => ⟨nofun, nofun⟩
  served := fun _ => ⟨nofun, nofun, nofun⟩

section Step

variable {connection next : Connection α} {side : Side} {bridge : BridgePhase}
  {satellite : SatellitePhase}

/-- An endpoint that gives up stops, and leaves the other one as it is. -/
theorem abandon_stops (moved : connection.abandon side bridge satellite = some next) :
    next.session.endpoint side ≠ .running ∧
      next.session.endpoint side.other = connection.session.endpoint side.other := by
  obtain ⟨-, -, -, crashed⟩ := abandon_eq_some moved
  obtain ⟨-, equation⟩ := Option.ite_none_right_eq_some.mp crashed
  rw [← Option.some.inj equation]
  constructor
  · simp only [Function.update_self, ne_eq, reduceCtorEq, not_false_eq_true]
  · exact Function.update_of_ne side.other_ne ..

/-- A new phase has to fit the phase of the other endpoint. -/
theorem Phased.enter (phased : connection.Phased)
    (entered : connection.enter side bridge satellite = some next)
    (absent : satellite = .absent ↔ bridge = .connecting ∨ bridge = .connectFailed)
    (dialed : bridge = connection.bridge ∨ bridge ≠ .connectFailed ∧ bridge ≠ .openFailed)
    (served : satellite = connection.satellite ∨
      satellite ≠ .refused ∧ satellite ≠ .acceptFailed ∧ satellite ≠ .dialFailed) :
    next.Phased := by
  obtain rfl := enter_eq_some entered
  refine ⟨absent, fun running => ?_, fun running => ?_⟩
  · rcases dialed with rfl | sound
    · exact phased.dialed running
    · exact sound
  · rcases served with rfl | sound
    · exact phased.served running
    · exact sound

/-- An endpoint that gives up says so in its own phase. -/
theorem Phased.abandon (phased : connection.Phased)
    (left : connection.abandon side bridge satellite = some next)
    (absent : satellite = .absent ↔ bridge = .connecting ∨ bridge = .connectFailed)
    (dialed : side = .buildkitd → bridge = connection.bridge)
    (served : side = .client → satellite = connection.satellite) : next.Phased := by
  obtain ⟨stopped, kept⟩ := abandon_stops left
  obtain ⟨rfl, rfl, -, -⟩ := abandon_eq_some left
  refine ⟨absent, fun running => ?_, fun running => ?_⟩
  · cases side with
    | client => exact absurd running stopped
    | buildkitd =>
        rw [dialed rfl]
        exact phased.dialed (kept.symm.trans running)
  · cases side with
    | buildkitd => exact absurd running stopped
    | client =>
        rw [served rfl]
        exact phased.served (kept.symm.trans running)

/-- Every step keeps the phases fitting. -/
theorem Phased.step {action : ConnectionAction α} (phased : connection.Phased)
    (moved : Connection.step connection action = some next) : next.Phased := by
  have present : connection.satellite ≠ .absent →
      ¬ (connection.bridge = .connecting ∨ connection.bridge = .connectFailed) :=
    fun there either => there (phased.absent.mpr either)
  cases action with
  | session move =>
      obtain ⟨-, stepped, bridge, satellite⟩ := step_session moved
      refine ⟨by rw [bridge, satellite]; exact phased.absent, ?_, ?_⟩
      · rw [bridge]
        exact fun running => phased.dialed (Session.step_running stepped running)
      · rw [satellite]
        exact fun running => phased.served (Session.step_running stepped running)
  | connect =>
      obtain ⟨-, entered⟩ := Option.ite_none_right_eq_some.mp moved
      exact phased.enter entered (by simp) (.inr ⟨nofun, nofun⟩) (.inr ⟨nofun, nofun, nofun⟩)
  | openBi =>
      obtain ⟨before, entered⟩ := Option.ite_none_right_eq_some.mp moved
      have there := phased.absent
      simp only [before, reduceCtorEq, or_self, iff_false] at there
      exact phased.enter entered (by simp [there]) (.inr ⟨nofun, nofun⟩) (.inl rfl)
  | failConnect =>
      obtain ⟨before, left⟩ := Option.ite_none_right_eq_some.mp moved
      exact phased.abandon left (by simp [phased.absent, before]) nofun fun _ => rfl
  | failOpen =>
      obtain ⟨before, left⟩ := Option.ite_none_right_eq_some.mp moved
      exact phased.abandon left (by simp [phased.absent, before]) nofun fun _ => rfl
  | check allowed =>
      obtain ⟨before, answered⟩ := Option.ite_none_right_eq_some.mp moved
      have there := present (by rw [before]; nofun)
      cases allowed with
      | true =>
          exact phased.enter answered (by simp [there]) (.inl rfl) (.inr ⟨nofun, nofun, nofun⟩)
      | false => exact phased.abandon answered (by simp [there]) (fun _ => rfl) nofun
  | acceptBi =>
      obtain ⟨⟨before, -⟩, entered⟩ := Option.ite_none_right_eq_some.mp moved
      have there := present (by rw [before]; nofun)
      exact phased.enter entered (by simp [there]) (.inl rfl) (.inr ⟨nofun, nofun, nofun⟩)
  | dial =>
      obtain ⟨before, entered⟩ := Option.ite_none_right_eq_some.mp moved
      have there := present (by rw [before]; nofun)
      exact phased.enter entered (by simp [there]) (.inl rfl) (.inr ⟨nofun, nofun, nofun⟩)
  | failAccept | failDial =>
      obtain ⟨before, left⟩ := Option.ite_none_right_eq_some.mp moved
      have there := present (by rw [before]; nofun)
      exact phased.abandon left (by simp [there]) (fun _ => rfl) nofun

end Step

/-- In every reachable connection the phases fit. -/
theorem ReachableState.phased {connection : Connection α} (reached : connection.ReachableState) :
    connection.Phased :=
  reached.invariant (fun _ _ _ phased moved => phased.step moved) .initial

section Advance

variable {connection : Connection α}

/-- An endpoint that runs can enter its next phase. -/
theorem enter_some (connection : Connection α) {side : Side}
    (running : connection.session.endpoint side = .running) (bridge : BridgePhase)
    (satellite : SatellitePhase) :
    connection.enter side bridge satellite = some ⟨bridge, satellite, connection.session⟩ :=
  if_pos running

/-- The connection with another state of what the client sends. -/
def withLane (connection : Connection α) (lane : Lane α) : Connection α :=
  { connection with session := { connection.session with
    lane := Function.update connection.session.lane .client lane } }

/-- What the client's direction can do, the connection can. -/
theorem withLane_step (copying : connection.bridge = .copying) (running : connection.Running)
    {lane next : Lane α} {move : LaneAction α} (sends : Lane.Sends move)
    (stepped : lane.step move = some next) :
    (connection.withLane lane).step (.session (.lane .client move)) =
      some (connection.withLane next) := by
  have lanes : (connection.withLane lane).session.lane .client = lane := by
    simp only [withLane, Function.update_self]
  have attached : (connection.withLane lane).attached .client = true := decide_eq_true copying
  have ready : (connection.withLane lane).ready (.lane .client move) = true := by
    cases move with
    | pull _ | push _ | finish =>
        simp only [Connection.ready, Action.copier, Option.all_some, attached]
        rfl
    | arrive _ | arriveFin => rfl
    | _ => exact sends.elim
  have permitted : (connection.withLane lane).session.Permits .client move := by
    cases move with
    | pull _ | push _ | finish => exact running .client
    | arrive _ | arriveFin => exact ⟨running .client, running .buildkitd⟩
    | _ => exact sends.elim
  have settled : Session.settle connection.session.endpoint .client move =
      connection.session.endpoint := by
    cases move with
    | pull _ | push _ | finish | arrive _ | arriveFin => rfl
    | _ => exact sends.elim
  simp only [step, ready, if_true, Session.step, if_pos permitted, lanes, stepped,
    Option.map_some]
  simp only [withLane, Function.update_idem, settled]

/-- What the client's direction can do, the connection can do. -/
theorem reachableBy_withLane (copying : connection.bridge = .copying)
    (running : connection.Running) {lane : Lane α}
    (reached : Transition.ReachableBy Lane.step Lane.Sends (connection.session.lane .client) lane) :
    Transition.ReachableBy step Forward connection (connection.withLane lane) := by
  refine reached.invariant (motive := fun lane =>
    Transition.ReachableBy step Forward connection (connection.withLane lane)) ?_ ?_
  · intro lane move next sends before stepped
    refine before.trans (.single (withLane_step copying running sends stepped) ?_)
    cases move with
    | pull _ | push _ | finish | arrive _ | arriveFin => exact ⟨trivial, rfl⟩
    | _ => exact sends.elim
  · have same : connection.withLane (connection.session.lane .client) = connection := by
      simp only [withLane, Function.update_eq_self]
    rw [same]
    exact .refl connection

/-- The bridge gets its stream, which the satellite's endpoint takes part in. -/
theorem exists_opened (phased : connection.Phased) (running : connection.Running) :
    ∃ satellite, satellite ≠ .absent ∧
      Transition.ReachableBy step Forward connection ⟨.copying, satellite, connection.session⟩ := by
  obtain ⟨bridge, satellite, session⟩ := connection
  have opens : ∀ satellite, step ⟨.opening, satellite, session⟩ .openBi =
      some ⟨.copying, satellite, session⟩ := by
    intro satellite
    rw [step, if_pos rfl]
    exact enter_some ⟨.opening, satellite, session⟩ (running .client) ..
  have dialed := phased.dialed (running .client)
  cases bridge with
  | connecting =>
      obtain rfl := phased.absent.mpr (.inl rfl)
      have connects : step ⟨.connecting, .absent, session⟩ .connect =
          some ⟨.opening, .checking, session⟩ := by
        rw [step, if_pos ⟨rfl, rfl, running .buildkitd⟩]
        exact enter_some ⟨.connecting, .absent, session⟩ (running .client) ..
      exact ⟨.checking, nofun, .cons connects trivial (.single (opens .checking) trivial)⟩
  | opening =>
      exact ⟨satellite, fun absent => (phased.absent.mp absent).elim nofun nofun,
        .single (opens satellite) trivial⟩
  | copying =>
      exact ⟨satellite, fun absent => (phased.absent.mp absent).elim nofun nofun, .refl _⟩
  | connectFailed => exact absurd rfl dialed.1
  | openFailed => exact absurd rfl dialed.2

/-- A peer that is allowed gets as far as `accept_bi`. -/
theorem exists_admitted (phased : connection.Phased) (running : connection.Running)
    (present : connection.satellite ≠ .absent) (copying : connection.bridge = .copying) :
    ∃ satellite, (satellite = .accepting ∨ satellite = .dialing ∨ satellite = .copying) ∧
      Transition.ReachableBy step Forward connection ⟨.copying, satellite, connection.session⟩ := by
  obtain ⟨bridge, satellite, session⟩ := connection
  subst copying
  have served := phased.served (running .buildkitd)
  cases satellite with
  | absent => exact absurd rfl present
  | checking =>
      have checks : step ⟨.copying, .checking, session⟩ (.check true) =
          some ⟨.copying, .accepting, session⟩ := by
        rw [step, if_pos rfl]
        exact enter_some ⟨.copying, .checking, session⟩ (running .buildkitd) ..
      exact ⟨.accepting, .inl rfl, .single checks trivial⟩
  | accepting => exact ⟨.accepting, .inl rfl, .refl _⟩
  | dialing => exact ⟨.dialing, .inr (.inl rfl), .refl _⟩
  | copying => exact ⟨.copying, .inr (.inr rfl), .refl _⟩
  | refused => exact absurd rfl served.1
  | acceptFailed => exact absurd rfl served.2.1
  | dialFailed => exact absurd rfl served.2.2

/-- The client's stream gets to be seen by the satellite that waits for it. -/
theorem exists_seen (valid : connection.session.Valid) (staged : connection.Staged)
    (running : connection.Running) (copying : connection.bridge = .copying)
    (accepting : connection.satellite = .accepting) (spoken : connection.Spoken) :
    ∃ lane : Lane α, lane.Seen ∧
      Transition.ReachableBy step Forward connection (connection.withLane lane) := by
  have detached : connection.attached .buildkitd = false := by
    rw [attached, accepting]
    rfl
  have untaken := staged.untaken .buildkitd detached
  rw [Side.other] at untaken
  have lane := valid.lanes .client
  have received : (connection.session.lane .client).received = [] := by
    have given := lane.given
    rw [untaken] at given
    exact List.length_eq_zero_iff.mp given.symm
  have sound : (connection.session.lane .client).outbound.status ≠ .failed := by
    intro lost
    cases (running .client).symm.trans ((valid.failed .client).mpr (.inl lost))
  obtain ⟨later, reached, seen⟩ :=
    lane.exists_seen (by rw [untaken]; rfl) sound received (by rw [untaken]; rfl) spoken
  exact ⟨later, seen, reachableBy_withLane copying running reached⟩

/-- A satellite that has accepted the stream can connect to buildkitd. -/
theorem dial_some (connection : Connection α) (running : connection.Running)
    (copying : connection.bridge = .copying) (dialing : connection.satellite = .dialing) :
    ∃ next, Transition.ReachableBy step Forward connection next ∧ next.Running ∧
      next.Attached := by
  have dials : step connection .dial = some ⟨.copying, .copying, connection.session⟩ := by
    rw [step, if_pos dialing, enter_some connection (running .buildkitd), copying]
  refine ⟨_, .single dials trivial, running, fun side => ?_⟩
  cases side <;> rfl

/-- Forward steps do not speak for the client. -/
theorem spoken_of_reachableBy {next : Connection α}
    (reached : Transition.ReachableBy step Forward connection next) (spoken : next.Spoken) :
    connection.Spoken := by
  have kept : (next.session.lane .client).written = (connection.session.lane .client).written ∧
      (next.session.lane .client).closed = (connection.session.lane .client).closed := by
    refine reached.invariant (motive := fun current =>
      (current.session.lane .client).written = (connection.session.lane .client).written ∧
        (current.session.lane .client).closed = (connection.session.lane .client).closed)
      ?_ ⟨rfl, rfl⟩
    intro before action after forward same moved
    by_cases phase : ∃ move, action = .session move
    · obtain ⟨move, rfl⟩ := phase
      obtain ⟨-, stepped, -, -⟩ := step_session moved
      have silent : move.user ≠ some .client := by
        rw [forward.2]
        nofun
      have writer := Session.step_writer_kept stepped silent
      rwa [writer.1, writer.2]
    · rwa [(passes_of_step moved (not_exists.mp phase)).lanes]
  rwa [Spoken, kept.1, kept.2] at spoken

end Advance

/-- **Putting through.** From any reachable state in which nothing has failed, the
endpoints and the network can go on until both endpoints copy if and only if the client
has written something or closed its writing side. -/
theorem putThrough_iff {connection : Connection α} (reached : connection.ReachableState)
    (running : connection.Running) :
    (∃ next, Transition.ReachableBy step Forward connection next ∧ next.Running ∧
      next.Attached) ↔ connection.Spoken := by
  constructor
  · intro through
    obtain ⟨next, forward, -, attached⟩ := through
    have later : next.ReachableState := Transition.Reachable.trans reached forward.reachable
    have copying : next.satellite = .copying := of_decide_eq_true (attached .buildkitd)
    exact spoken_of_reachableBy forward
      ((ReachableState.staged later).asked (by rw [copying]; rfl))
  · intro spoken
    obtain ⟨opened, present, toOpened⟩ := exists_opened (ReachableState.phased reached) running
    have reachedOpened := Transition.Reachable.trans reached toOpened.reachable
    obtain ⟨satellite, admitted, toAdmitted⟩ :=
      exists_admitted (ReachableState.phased reachedOpened) running present rfl
    have reachedAdmitted := Transition.Reachable.trans reachedOpened toAdmitted.reachable
    have before := toOpened.trans toAdmitted
    rcases admitted with rfl | rfl | rfl
    · obtain ⟨lane, seen, toSeen⟩ := exists_seen (ReachableState.session reachedAdmitted).valid
        (ReachableState.staged reachedAdmitted) running rfl rfl spoken
      have accepts : step (withLane ⟨.copying, .accepting, connection.session⟩ lane) .acceptBi =
          some (withLane ⟨.copying, .dialing, connection.session⟩ lane) := by
        have shown : (Function.update connection.session.lane .client lane .client).arrived ≠ [] ∨
            (Function.update connection.session.lane .client lane .client).finArrived = true := by
          rw [Function.update_self]
          exact seen
        rw [step, if_pos ⟨rfl, shown⟩]
        exact enter_some (withLane ⟨.copying, .accepting, connection.session⟩ lane)
          (running .buildkitd) ..
      obtain ⟨next, toNext, still, attached⟩ :=
        dial_some (withLane ⟨.copying, .dialing, connection.session⟩ lane) running rfl rfl
      exact ⟨next, before.trans (toSeen.trans (.cons accepts trivial toNext)), still, attached⟩
    · obtain ⟨next, toNext, still, attached⟩ :=
        dial_some ⟨.copying, .dialing, connection.session⟩ running rfl rfl
      exact ⟨next, before.trans toNext, still, attached⟩
    · refine ⟨_, before, running, fun side => ?_⟩
      cases side <;> rfl

/-- The client has written a byte to its socket, and nothing else has happened. -/
def spokenRun : List (ConnectionAction Nat) :=
  [.session (.lane .client (.write [1]))]

def spokenTo : Connection Nat :=
  (Transition.run step initial spokenRun).getD initial

theorem spokenTo_putThrough :
    Transition.run step initial spokenRun = some spokenTo ∧
      ∃ next, Transition.ReachableBy step Forward spokenTo next ∧ next.Running ∧
        next.Attached := by
  have reached : spokenTo.ReachableState := ⟨spokenRun, rfl⟩
  exact ⟨rfl, (putThrough_iff reached (fun _ => rfl)).mpr (.inl (by decide))⟩

/-- **The order of setting up.** Whatever fails, each end has been given a prefix of what
the other end wrote. Before buildkitd is connected to, it is given nothing and the client
is answered nothing, and it is connected to only once the client has spoken. Nothing
leaves the bridge before it has its stream. -/
theorem staged_exchange {connection : Connection α} (reached : connection.ReachableState) :
    (∀ side, (connection.session.lane side).received <+:
      (connection.session.lane side).written) ∧
    (connection.attached .buildkitd = false →
      (connection.session.lane .client).received = [] ∧
        (connection.session.lane .buildkitd).written = [] ∧
        (connection.session.lane .buildkitd).received = []) ∧
    (connection.satellite.asked = true → connection.Spoken) ∧
    (connection.attached .client = false →
      (connection.session.lane .client).outbound.copied = 0 ∧
        (connection.session.lane .buildkitd).received = []) := by
  have session := ReachableState.session reached
  have staged := ReachableState.staged reached
  refine ⟨fun side => (session.valid.lanes side).received_prefix_written,
    ReachableState.unserved reached, staged.asked, ?_⟩
  intro detached
  have given := (session.valid.lanes .buildkitd).given
  have untaken := staged.untaken .client detached
  rw [Side.other] at untaken
  rw [untaken] at given
  exact ⟨by rw [staged.unsent .client detached]; rfl, List.length_eq_zero_iff.mp given.symm⟩

/-- A client with something to say whose satellite refuses it. -/
def refusedRun : List (ConnectionAction Nat) :=
  [.session (.lane .client (.write [1])), .connect, .openBi,
    .session (.lane .client (.pull 1)), .session (.lane .client (.push 1)), .check false]

def refusedOne : Connection Nat :=
  (Transition.run step initial refusedRun).getD initial

theorem refusedOne_unanswered :
    refusedOne.satellite = .refused ∧ (refusedOne.session.lane .client).written = [1] ∧
      (refusedOne.session.lane .client).received = [] ∧
      (refusedOne.session.lane .buildkitd).received = [] := by
  have reached : refusedOne.ReachableState := ⟨refusedRun, rfl⟩
  obtain ⟨-, unanswered, -, -⟩ := staged_exchange reached
  obtain ⟨undelivered, -, silent⟩ := unanswered rfl
  exact ⟨rfl, rfl, undelivered, silent⟩

end Connection

end OrbitBuild.Tunnel
