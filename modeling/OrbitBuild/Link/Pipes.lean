import OrbitBuild.Foundation.Pipe
import OrbitBuild.Link.Readiness

/-! # The pipes of the child

Link starts the child with a pipe for its standard output and one for its standard
error, and reads neither in any of its phases. Whatever the child logs stays in the
pipes, so the child is blocked by the first line that does not fit any more.
-/

namespace OrbitBuild

universe u

variable {ι : Type u} [DecidableEq ι] {curve : Curve}

namespace Link

inductive Stream
  | stdout
  | stderr
  deriving DecidableEq

inductive Level
  | info
  | warn
  | error
  deriving DecidableEq

/-- An event of `tracing` that passes the filter `orbitbuild=info`. -/
structure LogRecord where
  level : Level
  target : String
  message : String
  fields : List (String × String)
  deriving DecidableEq

/-- What the child does that makes it print or log. -/
inductive ChildEvent
  | sessionCompleted (platform : String) (toSatellite toLocal : Nat)
  | sessionFailed (platform error : String)
  | acceptFailed (platform error : String)
  /-- An entry of a satellite arrives in the Doc and decodes. -/
  | entryUpdated (satellite arch status : String)
  | entryUndecodable (key error : String)
  | entryUnreadable (key hash error : String)
  | subscriptionError (error : String)
  /-- A record of the start-up or the shutdown. -/
  | logged (record : LogRecord)
  /-- A line of `eprintln!`, or of a `docker` command, which inherits both pipes. -/
  | printed (stream : Stream) (text : String)
  deriving DecidableEq

/-- A record of an accept loop or of one of its sessions. -/
def bridgeRecord (level : Level) (message : String) (fields : List (String × String)) :
    LogRecord :=
  ⟨level, "orbitbuild::bridge", message, fields⟩

/-- A record of the task that monitors the Doc. -/
def monitorRecord (level : Level) (message : String) (fields : List (String × String)) :
    LogRecord :=
  ⟨level, "orbitbuild::mission_control", message, fields⟩

/-- The records of an event. An update to `offline` is logged twice. -/
def ChildEvent.records : ChildEvent → List LogRecord
  | .sessionCompleted platform toSatellite toLocal =>
      [bridgeRecord .info "proxy session completed" [("platform", platform),
        ("to_satellite", toString toSatellite), ("to_local", toString toLocal)]]
  | .sessionFailed platform error =>
      [bridgeRecord .warn "proxy session ended with error"
        [("platform", platform), ("error", error)]]
  | .acceptFailed platform error =>
      [bridgeRecord .warn "failed to accept Unix connection"
        [("platform", platform), ("error", error)]]
  | .entryUpdated satellite arch status =>
      monitorRecord .info "satellite entry updated in doc"
          [("satellite", satellite), ("arch", arch), ("status", status)] ::
        if status = "offline" then
          [monitorRecord .warn "satellite went offline" [("satellite", satellite), ("arch", arch)]]
        else []
  | .entryUndecodable key error =>
      [monitorRecord .warn "failed to deserialize satellite entry update"
        [("key", key), ("error", error)]]
  | .entryUnreadable key hash error =>
      [monitorRecord .warn "failed to read satellite entry blob"
        [("key", key), ("hash", hash), ("error", error)]]
  | .subscriptionError error =>
      [monitorRecord .warn "doc subscription error" [("error", error)]]
  | .logged record => [record]
  | .printed _ _ => []

/-- The lines the child writes; `fmt` is the formatter of `tracing_subscriber`. -/
def ChildEvent.lines (fmt : LogRecord → String) (event : ChildEvent) : List (Stream × String) :=
  match event with
  | .printed stream text => [(stream, text ++ "\n")]
  | other => other.records.map fun record => (.stdout, fmt record)

/-- A line does not fit into its pipe, and its writer waits for a reader. -/
def Blocked (pipe : Pipe) (unread : Stream → List Nat) : Prop :=
  pipe.holds (unread .stdout) = false ∨ pipe.holds (unread .stderr) = false

instance (pipe : Pipe) (unread : Stream → List Nat) : Decidable (Blocked pipe unread) :=
  inferInstanceAs (Decidable (_ ∨ _))

/-- The writes in the pipes and the write under way, after one more line. -/
def writeLine (pipe : Pipe) (unread : Stream → List Nat) (line : Stream × String) :
    Stream → List Nat :=
  if Blocked pipe unread then unread
  else Function.update unread line.1 (unread line.1 ++ [line.2.utf8ByteSize])

/-- Link and its child, with the sizes of the writes to each pipe that have not been read. -/
structure PipedState (ι : Type u) (curve : Curve) where
  link : State ι curve
  unread : Stream → List Nat

inductive PipedAction (ι : Type u)
  | link (action : Action ι)
  | child (event : ChildEvent)

def PipedState.initial (plan : ι → Host.Plan curve) (child : ι) (host : Host.State ι curve) :
    PipedState ι curve :=
  ⟨.initial plan child host, fun _ => []⟩

section Step

variable (plan : ι → Host.Plan curve) (child : ι) (pipe : Pipe) (fmt : LogRecord → String)

def pipedStep (state : PipedState ι curve) : PipedAction ι → Option (PipedState ι curve)
  -- No step of `run_link` reads from the child.
  | .link action => (step plan child state.link action).map fun link => { state with link := link }
  | .child event =>
      if (state.link.host.instances child).stage = .gone ∨ state.link.phase = .returned ∨
          Blocked pipe state.unread then none
      else some { state with
        unread := (event.lines fmt).foldl (writeLine pipe) state.unread }

/-- The lines the child writes in the course of a run. -/
def childLines (actions : List (PipedAction ι)) : List (Stream × String) :=
  actions.flatMap fun
    | .link _ => []
    | .child event => event.lines fmt

end Step

/-- The sizes of the lines for one of the pipes. -/
def writesTo (stream : Stream) (lines : List (Stream × String)) : List Nat :=
  (lines.filter (·.1 = stream)).map (·.2.utf8ByteSize)

/-! ## Nothing is read -/

/-- A line is written to the pipe of its stream. -/
theorem writesTo_cons (stream : Stream) (line : Stream × String) (rest : List (Stream × String)) :
    writesTo stream (line :: rest) =
      (if line.1 = stream then [line.2.utf8ByteSize] else []) ++ writesTo stream rest := by
  unfold writesTo
  rw [List.filter_cons]
  by_cases same : line.1 = stream
  · rw [if_pos same, if_pos (decide_eq_true same), List.map_cons, List.singleton_append]
  · rw [if_neg same, if_neg (by simpa using same), List.nil_append]

/-- What is written to a pipe is written in order. -/
theorem writesTo_append (stream : Stream) (first second : List (Stream × String)) :
    writesTo stream (first ++ second) = writesTo stream first ++ writesTo stream second := by
  simp only [writesTo, List.filter_append, List.map_append]

/-- A process is not blocked where both pipes hold all that is unread. -/
theorem not_blocked_iff {pipe : Pipe} {unread : Stream → List Nat} :
    ¬ Blocked pipe unread ↔ ∀ stream, pipe.holds (unread stream) = true := by
  simp only [Blocked, not_or, Bool.not_eq_false]
  constructor
  · intro both stream
    cases stream with
    | stdout => exact both.1
    | stderr => exact both.2
  · exact fun every => ⟨every .stdout, every .stderr⟩

/-- Lines block their writer exactly when the pipes have no room for all of them. -/
theorem not_blocked_foldl {pipe : Pipe} (lines : List (Stream × String))
    (unread : Stream → List Nat) :
    ¬ Blocked pipe (lines.foldl (writeLine pipe) unread) ↔
      ∀ stream, pipe.holds (unread stream ++ writesTo stream lines) = true := by
  induction lines generalizing unread with
  | nil => simp only [List.foldl_nil, not_blocked_iff, writesTo, List.filter_nil, List.map_nil,
      List.append_nil]
  | cons line rest ih =>
      rw [List.foldl_cons, ih]
      by_cases blocked : Blocked pipe unread
      · -- The writer waits already, and both sides fail.
        rw [writeLine, if_pos blocked]
        have full : ∀ later : Stream → List Nat,
            ¬ ∀ stream, pipe.holds (unread stream ++ later stream) = true :=
          fun later held => not_blocked_iff.mpr (fun stream => pipe.holds_of_append (held stream))
            blocked
        exact iff_of_false (full _) (full _)
      · rw [writeLine, if_neg blocked]
        apply forall_congr'
        intro stream
        rw [writesTo_cons]
        by_cases same : line.1 = stream
        · subst same
          rw [Function.update_self, if_pos rfl, List.append_assoc]
        · rw [Function.update_of_ne (Ne.symm same), if_neg same, List.nil_append]

section Run

variable {plan : ι → Host.Plan curve} {child : ι} {pipe : Pipe} {fmt : LogRecord → String}
  {state next : PipedState ι curve}

/-- What has been written and not read is all that has been written. -/
theorem unread_run {actions : List (PipedAction ι)}
    (reached : Transition.run (pipedStep plan child pipe fmt) state actions = some next) :
    next.unread = (childLines fmt actions).foldl (writeLine pipe) state.unread := by
  induction actions generalizing state with
  | nil => cases reached; rfl
  | cons action rest ih =>
      obtain ⟨middle, moved, tail⟩ := Transition.run_cons.mp reached
      rw [ih tail, childLines, childLines, List.flatMap_cons, List.foldl_append]
      cases action with
      | link action =>
          obtain ⟨link, -, rfl⟩ := Option.map_eq_some_iff.mp moved
          rfl
      | child event =>
          simp only [pipedStep] at moved
          split at moved
          · cases moved
          · cases moved
            rfl

/-- **When the child is never blocked.** In no state of a run is it blocked exactly when
each pipe has room for all the lines that are written to it in the run. -/
theorem never_blocked_iff {host : Host.State ι curve} {actions : List (PipedAction ι)}
    (reached : Transition.run (pipedStep plan child pipe fmt) (.initial plan child host)
      actions = some state) :
    (∀ front middle, front <+: actions →
        Transition.run (pipedStep plan child pipe fmt) (.initial plan child host) front =
          some middle → ¬ Blocked pipe middle.unread) ↔
      ∀ stream, pipe.holds (writesTo stream (childLines fmt actions)) = true := by
  have fits : ∀ {front middle},
      Transition.run (pipedStep plan child pipe fmt) (.initial plan child host) front =
        some middle →
      (¬ Blocked pipe middle.unread ↔
        ∀ stream, pipe.holds (writesTo stream (childLines fmt front)) = true) := by
    intro front middle ran
    rw [unread_run ran, not_blocked_foldl]
    simp only [PipedState.initial, List.nil_append]
  constructor
  · intro free
    exact (fits reached).mp (free actions state (List.prefix_refl _) reached)
  · intro whole front middle cut ran
    obtain ⟨rest, rfl⟩ := cut
    apply (fits ran).mpr
    intro stream
    have held := whole stream
    rw [childLines, List.flatMap_append, writesTo_append] at held
    exact pipe.holds_of_append held

/-- An event that is logged in one line adds that line to what is unread. -/
theorem step_child_line {event : ChildEvent} {line : String}
    (lines : event.lines fmt = [(.stdout, line)])
    (alive : (state.link.host.instances child).stage ≠ .gone)
    (running : state.link.phase ≠ .returned) (free : ¬ Blocked pipe state.unread) :
    pipedStep plan child pipe fmt state (.child event) =
      some { state with
        unread := Function.update state.unread .stdout
          (state.unread .stdout ++ [line.utf8ByteSize]) } := by
  rw [pipedStep, if_neg (by simp only [alive, running, free, or_self, not_false_eq_true]), lines]
  simp only [List.foldl_cons, List.foldl_nil, writeLine, if_neg free]

/-- A running child repeats an event of one line as long as there is room for it. -/
theorem run_repeated {event : ChildEvent} {line : String}
    (lines : event.lines fmt = [(.stdout, line)])
    (alive : (state.link.host.instances child).stage ≠ .gone)
    (running : state.link.phase ≠ .returned) (stderr : pipe.holds (state.unread .stderr) = true)
    {count : Nat}
    (room : pipe.holds
      (state.unread .stdout ++ List.replicate count line.utf8ByteSize) = true) :
    Transition.run (pipedStep plan child pipe fmt) state
        (List.replicate (count + 1) (.child event)) =
      some { state with
        unread := Function.update state.unread .stdout
          (state.unread .stdout ++ List.replicate (count + 1) line.utf8ByteSize) } := by
  have unblocked : ∀ {state : PipedState ι curve} {later : List Nat},
      pipe.holds (state.unread .stderr) = true →
        pipe.holds (state.unread .stdout ++ later) = true → ¬ Blocked pipe state.unread := by
    intro state later stderr room
    refine not_blocked_iff.mpr fun stream => ?_
    cases stream with
    | stdout => exact pipe.holds_of_append room
    | stderr => exact stderr
  induction count generalizing state with
  | zero =>
      have free := unblocked stderr room
      rw [List.replicate_one, Transition.run, step_child_line lines alive running free]
      rfl
  | succ count ih =>
      have free := unblocked stderr room
      rw [List.replicate_succ, List.append_cons] at room
      rw [List.replicate_succ, Transition.run, step_child_line lines alive running free,
        Option.bind_some, ih]
      · simp only [Function.update_self, Function.update_idem, List.append_assoc,
          List.singleton_append, ← List.replicate_succ]
      · exact alive
      · exact running
      · exact stderr
      · simpa only [Function.update_self] using room

end Run

/-! ## Enough sessions -/

/-- The name of a level, filled up to five characters. -/
def Level.padded : Level → String
  | .info => " INFO"
  | .warn => " WARN"
  | .error => "ERROR"

/-- The full format of `tracing_subscriber` without colours, at one moment. -/
def fullFmt (record : LogRecord) : String :=
  "2026-01-01T00:00:00.000000Z " ++ record.level.padded ++ " " ++ record.target ++ ": " ++
    record.message ++ String.join (record.fields.map fun field => " " ++ field.1 ++ "=" ++ field.2)
    ++ "\n"

/-- A proxied session that the child has completed. -/
def session : ChildEvent := .sessionCompleted "linux/amd64" 1024 4096

/-- Its line. -/
def sessionLine : String :=
  fullFmt (bridgeRecord .info "proxy session completed"
    [("platform", "linux/amd64"), ("to_satellite", "1024"), ("to_local", "4096")])

theorem session_lines : session.lines fullFmt = [(.stdout, sessionLine)] := rfl

theorem sessionLine_size : sessionLine.utf8ByteSize = 131 := by decide +kernel

theorem quiet_neverBlocked :
    (∀ front middle, front <+: [.link (.host (.discover true)), .child session] →
        Transition.run (pipedStep (fun _ => Host.amd64Plan) true .linux fullFmt)
            (.initial (fun _ => Host.amd64Plan) true (.initial (fun _ => none) fun _ => false))
            front = some middle →
          ¬ Blocked .linux middle.unread) ↔
      ∀ stream, Pipe.linux.holds (writesTo stream (childLines fullFmt
        [.link (.host (.discover true)), .child session])) = true :=
  never_blocked_iff rfl

/-- The child serves, and link waits for Ctrl+C. -/
def linkedActions : List (PipedAction Bool) :=
  (startup ++ [Action.report]).map PipedAction.link

/-- A pipe of Linux has room for the lines of 496 sessions, 31 on each page. -/
theorem sessions_fit : Pipe.linux.holds (List.replicate 496 131) = true := by decide +kernel

/-- Nothing else has been logged, and the line of the 497th session of 1024 bytes up and
4096 bytes down finds no room in a pipe of Linux. -/
theorem sessions_block :
    ∃ state, Transition.run (pipedStep (fun _ => Host.amd64Plan) true .linux fullFmt)
        (.initial (fun _ => Host.amd64Plan) true (.initial (fun _ => none) fun _ => false))
        (linkedActions ++ List.replicate 497 (.child session)) = some state ∧
      state.link.phase = .linked ∧ Blocked .linux state.unread := by
  have linked : ∃ state, Transition.run
      (pipedStep (fun _ => Host.amd64Plan) true .linux fullFmt)
      (.initial (fun _ => Host.amd64Plan) true (.initial (fun _ => none) fun _ => false))
      linkedActions = some state ∧ state.link.phase = .linked ∧
      (state.link.host.instances true).stage ≠ .gone ∧ ∀ stream, state.unread stream = [] := by
    refine ⟨_, rfl, rfl, ?_, fun _ => rfl⟩
    decide
  obtain ⟨state, reached, phase, alive, empty⟩ := linked
  have running : state.link.phase ≠ .returned := by rw [phase]; decide
  have room : Pipe.linux.holds
      (state.unread .stdout ++ List.replicate 496 sessionLine.utf8ByteSize) = true := by
    rw [empty, List.nil_append, sessionLine_size]
    exact sessions_fit
  have stderr : Pipe.linux.holds (state.unread .stderr) = true := by
    rw [empty]
    exact Pipe.linux.empty
  refine ⟨_, Transition.run_append_eq_some reached
    (run_repeated session_lines alive running stderr room), phase, Or.inl ?_⟩
  simp only [Function.update_self, empty, List.nil_append, sessionLine_size]
  decide +kernel

end Link

end OrbitBuild
