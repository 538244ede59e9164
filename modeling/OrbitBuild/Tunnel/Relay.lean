import OrbitBuild.Tunnel.Session

/-! # What the tunnel relays

Whatever the copies read and write at a time, and also once one of them has failed,
each reader has been given a prefix of what the other end wrote. When both endpoints
return, their counts are the lengths of what was written.
-/

namespace OrbitBuild.Tunnel

namespace Session

variable {α : Type}

/-- The counts of an endpoint, once the other endpoint has received everything too. -/
theorem Valid.completed_eq {session : Session α} (valid : session.Valid) (side : Side)
    (here : (session.completed side).isSome) (there : (session.completed side.other).isSome) :
    session.completed side =
      some ((session.lane side).written.length, (session.lane side.other).written.length) := by
  obtain ⟨sent, received⟩ := completed_isSome.mp here
  have passed := (completed_isSome.mp there).2
  rw [Side.other_other] at passed
  have outbound := (valid.lanes side).outbound_copied passed
  have inbound := (valid.lanes side.other).inbound_copied received
  exact CopyLoop.join_eq_some.mpr ⟨⟨sent, received⟩, Prod.ext outbound inbound⟩

/-- **The relay.** Each end has been given a prefix of what the other end wrote, and
has read a prefix of that. When both endpoints return `Ok`, they return the same
counts, the lengths of what the two ends wrote. -/
theorem relays {session : Session α} (reached : session.ReachableState) :
    (∀ side, (session.lane side).received <+: (session.lane side).written ∧
      (session.lane side).read <+: (session.lane side).written) ∧
    (session.endpoint .client = .returned → session.endpoint .buildkitd = .returned →
      ∃ toSat toLocal toUnix toQuic, session.proxySession = some (toSat, toLocal) ∧
        session.accept = some (toQuic, toUnix) ∧ toSat = toUnix ∧ toLocal = toQuic ∧
        toSat = (session.lane .client).written.length ∧
        toLocal = (session.lane .buildkitd).written.length) := by
  have valid := reached.valid
  constructor
  · intro side
    have given := (valid.lanes side).received_prefix_written
    exact ⟨given, (session.lane side).read_prefix_received.trans given⟩
  · intro here there
    have proxied := valid.returned .client here
    have accepted := valid.returned .buildkitd there
    exact ⟨_, _, _, _, valid.completed_eq .client proxied accepted,
      valid.completed_eq .buildkitd accepted proxied, rfl, rfl, rfl, rfl⟩

/-- The client writes three bytes, the copies move them in uneven chunks, and
buildkitd answers with one. -/
def exchangeRun : List (Action Nat) :=
  [.lane .client (.write [1, 2]), .lane .client (.pull 1), .lane .client (.push 1),
    .lane .client (.write [3]), .lane .client .close,
    .lane .buildkitd (.write [9]), .lane .buildkitd (.pull 1), .lane .buildkitd (.push 1),
    .lane .client (.arrive 1), .lane .client (.pull 2), .lane .client (.push 1),
    .lane .client (.push 1), .lane .client .finish, .lane .client (.take 1),
    .lane .client (.arrive 2), .lane .client (.give 1), .lane .client .arriveFin,
    .lane .client (.take 2), .lane .client (.give 2), .lane .client .finishReceive,
    .lane .client (.read 2), .lane .buildkitd .close, .lane .buildkitd .finish,
    .lane .buildkitd (.arrive 1), .lane .buildkitd .arriveFin,
    .lane .buildkitd (.take 1), .lane .buildkitd (.give 1), .lane .buildkitd .finishReceive,
    .complete .client, .complete .buildkitd]

def exchanged : Session Nat :=
  (Transition.run step initial exchangeRun).getD initial

theorem exchanged_relays :
    Transition.run step initial exchangeRun = some exchanged ∧
      (exchanged.lane .client).read = [1, 2] ∧
      exchanged.proxySession = some (3, 1) ∧ exchanged.accept = some (1, 3) ∧
      (exchanged.lane .client).received <+: (exchanged.lane .client).written := by
  have reached : Transition.run step initial exchangeRun = some exchanged := rfl
  exact ⟨reached, rfl, rfl, rfl, ((relays ⟨exchangeRun, reached⟩).1 .client).1⟩

end Session

end OrbitBuild.Tunnel
