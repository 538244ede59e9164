import OrbitBuild.Core.Platform
import OrbitBuild.Foundation.FirstStop

/-! # Polling the sockets

`link` and `status --wait` each poll the sockets in rounds until all are alive or the
deadline has passed. What a check finds and how long it takes is up to the world, in
which sockets come and go at any time. Time is counted in nanoseconds.
-/

namespace OrbitBuild

/-- How an attempt to connect ends within its timeout. -/
inductive Connect
  | connected
  | refused
  | timedOut
  deriving DecidableEq, Repr

/-- `Duration::from_millis`. -/
def fromMillis (millis : Nat) : Nat := millis * 10 ^ 6

/-- `Duration::from_secs`. -/
def fromSecs (secs : UInt64) : Nat := secs.toNat * 10 ^ 9

/-- What the loops ask of the world. Its clock never goes back, and a sleep takes at
least as long as it says. -/
structure Environment (World : Type) where
  now : World → Nat
  pathExists : String → World → Bool × World
  connect : (limit : Nat) → String → World → Connect × World
  sleep : Nat → World → World
  now_pathExists : ∀ path world, now world ≤ now (pathExists path world).2
  now_connect : ∀ limit path world, now world ≤ now (connect limit path world).2
  now_sleep : ∀ duration world, now world + duration ≤ now (sleep duration world)

/-- The world, and what the process has printed. -/
structure Console (World : Type) where
  world : World
  stdout : List String
  stderr : List String

variable {World : Type}

/-- `eprint!`. -/
def Console.eprint (console : Console World) (text : String) : Console World :=
  { console with stderr := console.stderr ++ [text] }

/-- A socket is alive if its file exists and someone accepts a connection in time. -/
def checkSocketAlive (env : Environment World) (path : String) (world : World) : Bool × World :=
  match env.pathExists path world with
  | (false, after) => (false, after)
  | (true, after) =>
      match env.connect (fromMillis 500) path after with
      | (.connected, done) => (true, done)
      | (.refused, done) | (.timedOut, done) => (false, done)

/-- One round of checks, which is left at the first path that is not alive. -/
def checkRound (env : Environment World) : List (String × String) → World → Bool × World
  | [], world => (true, world)
  | (_, path) :: rest, world =>
      match checkSocketAlive env path world with
      | (false, after) => (false, after)
      | (true, after) => checkRound env rest after

namespace Link

/-- The loop of `wait_for_sockets`, at most `fuel` rounds of it. -/
def waitForSocketsLoop (env : Environment World) (socketPaths : List (String × String))
    (deadline start : Nat) : (fuel : Nat) → Console World → Option (Bool × Console World)
  | 0, _ => none
  | fuel + 1, console =>
      match checkRound env socketPaths console.world with
      | (true, after) => some (true, { console with world := after })
      | (false, after) =>
          if env.now after - start ≥ deadline then some (false, { console with world := after })
          else
            waitForSocketsLoop env socketPaths deadline start fuel
              ({ console with world := env.sleep (fromMillis 500) after }.eprint ".")

def waitForSockets (env : Environment World) (socketPaths : List (String × String))
    (deadline fuel : Nat) (console : Console World) : Option (Bool × Console World) :=
  waitForSocketsLoop env socketPaths deadline (env.now console.world) fuel console

end Link

namespace Status

structure StatusConfig where
  platforms : List String
  socketDir : String
  wait : Bool
  timeoutSecs : UInt64

/-- The loop of `run_status`, at most `fuel` rounds of it. -/
def waitLoop (env : Environment World) (socketPaths : List (String × String))
    (deadline start : Nat) : (fuel : Nat) → Console World → Option (Console World)
  | 0, _ => none
  | fuel + 1, console =>
      match checkRound env socketPaths console.world with
      | (true, after) => some ({ console with world := after }.eprint " ready!\n")
      | (false, after) =>
          if env.now after - start ≥ deadline then
            some ({ console with world := after }.eprint " timed out!\n")
          else
            waitLoop env socketPaths deadline start fuel
              ({ console with world := env.sleep (fromMillis 500) after }.eprint ".")

def statusLine (platform path : String) (alive : Bool) : String :=
  "  " ++ platform ++ " → " ++ path ++ " " ++
    (if alive then "✓ Ready" else "✗ Not connected") ++ "\n"

/-- The final pass: every path is checked, and the result of each is printed. -/
def finalPass (env : Environment World) :
    List (String × String) → (allReady : Bool) → Console World → Bool × Console World
  | [], allReady, console => (allReady, console)
  | (platform, path) :: rest, allReady, console =>
      match checkSocketAlive env path console.world with
      | (alive, after) =>
          finalPass env rest (if alive then allReady else false)
            { console with
              world := after
              stdout := console.stdout ++ [statusLine platform path alive] }

/-- The sockets of the requested platforms. -/
def socketPaths (config : StatusConfig) : Except Panic (List (String × String)) :=
  config.platforms.mapM fun platform => do
    let path ← socketPathForPlatform config.socketDir platform
    return (platform, path)

/-- The final pass, and what `run_status` returns after it. -/
def report (env : Environment World) (socketPaths : List (String × String))
    (console : Console World) : Except String Unit × Console World :=
  match finalPass env socketPaths true console with
  | (true, done) => (.ok (), done)
  | (false, done) => (.error "one or more bridge sockets are not ready", done)

/-- `run_status` after the socket paths are built. -/
def checkSockets (env : Environment World) (config : StatusConfig)
    (socketPaths : List (String × String)) (fuel : Nat) (console : Console World) :
    Option (Except String Unit × Console World) :=
  if config.wait then
    (waitLoop env socketPaths (fromSecs config.timeoutSecs) (env.now console.world) fuel
      (console.eprint "Waiting for bridges ")).map (report env socketPaths)
  else some (report env socketPaths console)

def runStatus (env : Environment World) (config : StatusConfig) (fuel : Nat)
    (console : Console World) : Except Panic (Option (Except String Unit × Console World)) := do
  let paths ← socketPaths config
  return checkSockets env config paths fuel console

end Status

/-! ## What a round finds -/

section Round

variable (env : Environment World)

/-- The world after each of the paths has been checked. -/
def afterChecks (paths : List (String × String)) (world : World) : World :=
  paths.foldl (fun world path => (checkSocketAlive env path.2 world).2) world

/-- Each path is alive when its turn to be checked has come. -/
def AllAlive (paths : List (String × String)) (world : World) : Prop :=
  ∀ (index : Nat) (path : String × String), paths[index]? = some path →
    (checkSocketAlive env path.2 (afterChecks env (paths.take index) world)).1 = true

/-- A check takes no negative time. -/
theorem now_checkSocketAlive (path : String) (world : World) :
    env.now world ≤ env.now (checkSocketAlive env path world).2 := by
  have found := env.now_pathExists path world
  unfold checkSocketAlive
  split
  · next after absent => rwa [absent] at found
  · next after present =>
      rw [present] at found
      have tried := env.now_connect (fromMillis 500) path after
      split
      · next done ended =>
          rw [ended] at tried
          exact found.trans tried
      · next done ended =>
          rw [ended] at tried
          exact found.trans tried
      · next done ended =>
          rw [ended] at tried
          exact found.trans tried

/-- A round takes no negative time. -/
theorem now_checkRound (paths : List (String × String)) (world : World) :
    env.now world ≤ env.now (checkRound env paths world).2 := by
  induction paths generalizing world with
  | nil => exact Nat.le_refl _
  | cons path rest ih =>
      have checked := now_checkSocketAlive env path.2 world
      rw [checkRound]
      split
      · next after dead => rwa [dead] at checked
      · next after alive =>
          rw [alive] at checked
          exact checked.trans (ih after)

theorem allAlive_nil (world : World) : AllAlive env [] world := by
  intro index path found
  cases found

/-- All paths are alive if the first is and the others are after its check. -/
theorem allAlive_cons {path : String × String} {rest : List (String × String)} {world : World} :
    AllAlive env (path :: rest) world ↔
      (checkSocketAlive env path.2 world).1 = true ∧
        AllAlive env rest (checkSocketAlive env path.2 world).2 := by
  constructor
  · intro alive
    exact ⟨alive 0 path rfl, fun index other found => alive (index + 1) other found⟩
  · rintro ⟨first, later⟩ index other found
    cases index with
    | zero =>
        cases found
        exact first
    | succ index => exact later index other found

/-- A round is good exactly if it finds all paths alive. -/
theorem checkRound_eq_true {paths : List (String × String)} {world : World} :
    (checkRound env paths world).1 = true ↔ AllAlive env paths world := by
  induction paths generalizing world with
  | nil => exact iff_of_true rfl (allAlive_nil env world)
  | cons path rest ih =>
      rw [checkRound, allAlive_cons]
      split
      · next after dead => simp only [dead, Bool.false_eq_true, false_and]
      · next after alive => simp only [alive, true_and, ih]

/-- The final pass is good if all that came before was and all paths are alive. -/
theorem finalPass_eq_true {paths : List (String × String)} {allReady : Bool}
    {console : Console World} :
    (Status.finalPass env paths allReady console).1 = true ↔
      allReady = true ∧ AllAlive env paths console.world := by
  induction paths generalizing allReady console with
  | nil => simp only [Status.finalPass, allAlive_nil, and_true]
  | cons path rest ih =>
      rw [Status.finalPass, allAlive_cons, ih]
      cases (checkSocketAlive env path.2 console.world).1 with
      | false => simp only [Bool.false_eq_true, ↓reduceIte, false_and, and_false]
      | true => simp only [↓reduceIte, true_and]

end Round

/-! ## The two loops -/

section Loops

variable (env : Environment World) (paths : List (String × String))

/-- The world at the end of a round of checks. -/
def roundEnd (world : World) : World := (checkRound env paths world).2

/-- The world at the beginning of the next round, after the sleep. -/
def nextRound (world : World) : World := env.sleep (fromMillis 500) (roundEnd env paths world)

/-- All paths are alive in the round that begins here, or it ends at the deadline or later. -/
def LastRound (deadline start : Nat) (world : World) : Prop :=
  AllAlive env paths world ∨ deadline ≤ env.now (roundEnd env paths world) - start

/-- The console at the beginning of the next round. -/
def Console.next (console : Console World) : Console World :=
  { console with world := nextRound env paths console.world }.eprint "."

variable {env paths} {deadline start : Nat} {console : Console World} {world : World}

/-- Each round prints one dot. -/
theorem Console.iterate_next (count : Nat) :
    (Console.next env paths)^[count] console =
      ⟨(nextRound env paths)^[count] console.world, console.stdout,
        console.stderr ++ List.replicate count "."⟩ := by
  induction count with
  | zero => rw [List.replicate_zero, List.append_nil]; rfl
  | succ count ih =>
      rw [Function.iterate_succ_apply', Function.iterate_succ_apply', ih, List.replicate_succ',
        ← List.append_assoc]
      rfl

/-- One round of the loop of link. -/
theorem Link.waitForSocketsLoop_succ (fuel : Nat) :
    Link.waitForSocketsLoop env paths deadline start (fuel + 1) console =
      if (checkRound env paths console.world).1 then
        some (true, { console with world := roundEnd env paths console.world })
      else if deadline ≤ env.now (roundEnd env paths console.world) - start then
        some (false, { console with world := roundEnd env paths console.world })
      else Link.waitForSocketsLoop env paths deadline start fuel (console.next env paths) := by
  rw [Link.waitForSocketsLoop, Console.next, nextRound, roundEnd]
  split
  · next ended => simp only [ended, ↓reduceIte]
  · next ended => simp only [ended, Bool.false_eq_true, ↓reduceIte, ge_iff_le]

/-- One round of the loop of `orbit status`. -/
theorem Status.waitLoop_succ (fuel : Nat) :
    Status.waitLoop env paths deadline start (fuel + 1) console =
      if (checkRound env paths console.world).1 then
        some ({ console with world := roundEnd env paths console.world }.eprint " ready!\n")
      else if deadline ≤ env.now (roundEnd env paths console.world) - start then
        some ({ console with world := roundEnd env paths console.world }.eprint " timed out!\n")
      else Status.waitLoop env paths deadline start fuel (console.next env paths) := by
  rw [Status.waitLoop, Console.next, nextRound, roundEnd]
  split
  · next ended => simp only [ended, ↓reduceIte]
  · next ended => simp only [ended, Bool.false_eq_true, ↓reduceIte, ge_iff_le]

/-- Polling goes on while some path is dead and the deadline is not reached. -/
theorem not_lastRound (going : ¬ LastRound env paths deadline start world) :
    (checkRound env paths world).1 = false ∧
      ¬ deadline ≤ env.now (roundEnd env paths world) - start := by
  rwa [LastRound, not_or, ← checkRound_eq_true, Bool.not_eq_true] at going

/-- A round that finds a path dead is the last one at the deadline or later. -/
theorem LastRound.late (stops : LastRound env paths deadline start world)
    (unready : (checkRound env paths world).1 = false) :
    deadline ≤ env.now (roundEnd env paths world) - start := by
  rw [LastRound, ← checkRound_eq_true, unready] at stops
  exact stops.resolve_left Bool.false_ne_true

/-- There is a last round, and no more rounds before it than fit before the deadline. -/
theorem exists_lastRound (env : Environment World) (paths : List (String × String))
    (deadline : Nat) (world : World) :
    ∃ count, FirstStop.At (LastRound env paths deadline (env.now world)) (nextRound env paths)
      world count ∧ count ≤ deadline ⌈/⌉ fromMillis 500 := by
  have positive : 0 < fromMillis 500 := by decide
  have rises : ∀ state, ¬ LastRound env paths deadline (env.now world) state →
      env.now state + fromMillis 500 ≤ env.now (nextRound env paths state) := by
    intro state _
    exact (Nat.add_le_add_right (now_checkRound env paths state) _).trans
      (env.now_sleep (fromMillis 500) _)
  have enough : ∀ state, env.now world + deadline ≤ env.now state →
      LastRound env paths deadline (env.now world) state := by
    intro state reached
    have later := now_checkRound env paths state
    right
    rw [roundEnd]
    omega
  obtain ⟨count, first, few⟩ := FirstStop.exists_at_le positive rises enough world
  rw [Nat.add_sub_cancel_left] at few
  exact ⟨count, first, few⟩

section First

variable {count : Nat} (console)
  (first : FirstStop.At (LastRound env paths deadline start) (nextRound env paths)
    console.world count)

include first

/-- What is printed does not change which round is the last. -/
theorem Console.next_at : FirstStop.At
    (fun console : Console World => LastRound env paths deadline start console.world)
    (Console.next env paths) console count := by
  refine ⟨?_, fun earlier before => ?_⟩
  · rw [Console.iterate_next]
    exact first.1
  · rw [Console.iterate_next]
    exact first.2 earlier before

/-- What a loop by this step equation has returned, for any way to make a result of whether
the last round finds all paths alive. -/
theorem pollLoop_eq {Result : Type} (loop : Nat → Console World → Option Result)
    (result : Bool → Console World → Result) (empty : ∀ console, loop 0 console = none)
    (round : ∀ fuel console, loop (fuel + 1) console =
      if (checkRound env paths console.world).1 then
        some (result true { console with world := roundEnd env paths console.world })
      else if deadline ≤ env.now (roundEnd env paths console.world) - start then
        some (result false { console with world := roundEnd env paths console.world })
      else loop fuel (console.next env paths)) (fuel : Nat) :
    loop fuel console =
      if count < fuel then
        some (result (checkRound env paths ((nextRound env paths)^[count] console.world)).1
          ⟨roundEnd env paths ((nextRound env paths)^[count] console.world), console.stdout,
            console.stderr ++ List.replicate count "."⟩)
      else none := by
  have stop : ∀ (fuel : Nat) (last : Console World),
      LastRound env paths deadline start last.world →
      loop (fuel + 1) last = some (result (checkRound env paths last.world).1
        { last with world := roundEnd env paths last.world }) := by
    intro fuel last stops
    rw [round]
    split
    · next ready => rw [ready]
    · next unready =>
        rw [Bool.not_eq_true] at unready
        rw [if_pos (stops.late unready), unready]
  have go : ∀ (fuel : Nat) (last : Console World),
      ¬ LastRound env paths deadline start last.world →
      loop (fuel + 1) last = loop fuel (last.next env paths) := by
    intro fuel last going
    obtain ⟨unready, early⟩ := not_lastRound going
    rw [round, unready, if_neg Bool.false_ne_true, if_neg early]
  rw [(Console.next_at console first).loop_eq loop _ empty stop go fuel, Console.iterate_next]

/-- Link's loop ends with the last round, if there is fuel for it. -/
theorem Link.waitForSocketsLoop_eq (fuel : Nat) :
    Link.waitForSocketsLoop env paths deadline start fuel console =
      if count < fuel then
        some ((checkRound env paths ((nextRound env paths)^[count] console.world)).1,
          ⟨roundEnd env paths ((nextRound env paths)^[count] console.world), console.stdout,
            console.stderr ++ List.replicate count "."⟩)
      else none := by
  apply pollLoop_eq console first _ (fun alive last => (alive, last)) fun _ => rfl
  intro fuel console
  exact Link.waitForSocketsLoop_succ fuel

/-- The loop of `orbit status` ends with the last round, if there is fuel for it. -/
theorem Status.waitLoop_eq (fuel : Nat) :
    Status.waitLoop env paths deadline start fuel console =
      if count < fuel then
        some ⟨roundEnd env paths ((nextRound env paths)^[count] console.world), console.stdout,
          console.stderr ++ List.replicate count "." ++
            [if (checkRound env paths ((nextRound env paths)^[count] console.world)).1 then
              " ready!\n" else " timed out!\n"]⟩
      else none := by
  apply pollLoop_eq console first _
    (fun alive last => last.eprint (if alive then " ready!\n" else " timed out!\n")) fun _ => rfl
  intro fuel console
  exact Status.waitLoop_succ fuel

end First

/-- The final pass decides the result, whatever the wait loop has found. -/
theorem Status.report_eq_ok :
    (Status.report env paths console).1 = .ok () ↔ AllAlive env paths console.world := by
  have pass : (Status.finalPass env paths true console).1 = true ↔
      AllAlive env paths console.world := by
    rw [finalPass_eq_true, eq_self_iff_true, true_and]
  rw [Status.report, ← pass]
  split
  · next done ended => simp only [ended]
  · next done ended => simp only [ended, reduceCtorEq, Bool.false_eq_true]

/-- With paths for all platforms the command goes on to check the sockets. -/
theorem Status.runStatus_eq {config : Status.StatusConfig}
    (derived : Status.socketPaths config = .ok paths) (fuel : Nat) :
    Status.runStatus env config fuel console =
      .ok (Status.checkSockets env config paths fuel console) := by
  rw [Status.runStatus, derived]
  rfl

end Loops

/-- **The polling loops.** For any sockets, world and deadline, both loops stop in the
same round, the first in which every path is alive when it is checked or which ends at
the deadline or later; that is one of the first `deadline / 500 ms + 1` rounds. Then
`wait_for_sockets` returns whether that round found every path alive, which it did if it
ended before the deadline; and `run_status` returns `Ok` if and only if its final pass,
after the loop, finds every path alive. -/
theorem polling_loops_agree (env : Environment World) (paths : List (String × String))
    (deadline : Nat) (world : World) :
    ∃ (round : Nat) (found : Bool) (after : World),
      round ≤ deadline ⌈/⌉ fromMillis 500 ∧
      (∀ earlier < round,
        ¬ LastRound env paths deadline (env.now world) ((nextRound env paths)^[earlier] world)) ∧
      LastRound env paths deadline (env.now world) ((nextRound env paths)^[round] world) ∧
      after = roundEnd env paths ((nextRound env paths)^[round] world) ∧
      (found = true ↔ AllAlive env paths ((nextRound env paths)^[round] world)) ∧
      (found = false → deadline ≤ env.now after - env.now world) ∧
      (∀ (stdout stderr : List String) (fuel : Nat),
        Link.waitForSockets env paths deadline fuel ⟨world, stdout, stderr⟩ =
          if round < fuel then
            some (found, ⟨after, stdout, stderr ++ List.replicate round "."⟩)
          else none) ∧
      (∀ (stdout stderr : List String) (fuel : Nat),
        Status.waitLoop env paths deadline (env.now world) fuel ⟨world, stdout, stderr⟩ =
          if round < fuel then
            some ⟨after, stdout, stderr ++ List.replicate round "." ++
              [if found then " ready!\n" else " timed out!\n"]⟩
          else none) ∧
      ∀ config : Status.StatusConfig, Status.socketPaths config = .ok paths →
        fromSecs config.timeoutSecs = deadline →
        ∀ (stdout stderr : List String) (fuel : Nat), config.wait = false ∨ round < fuel →
          ∃ result printed,
            Status.runStatus env config fuel ⟨world, stdout, stderr⟩ =
              .ok (some (result, printed)) ∧
            (result = .ok () ↔ AllAlive env paths (if config.wait then after else world)) := by
  obtain ⟨round, first, few⟩ := exists_lastRound env paths deadline world
  refine ⟨round, (checkRound env paths ((nextRound env paths)^[round] world)).1, _, few, first.2,
    first.1, rfl, checkRound_eq_true env, first.1.late, ?_, ?_, ?_⟩
  · intro stdout stderr fuel
    exact Link.waitForSocketsLoop_eq ⟨world, stdout, stderr⟩ first fuel
  · intro stdout stderr fuel
    exact Status.waitLoop_eq ⟨world, stdout, stderr⟩ first fuel
  · rintro config derived rfl stdout stderr fuel enough
    rw [Status.runStatus_eq derived, Status.checkSockets]
    cases waits : config.wait with
    | false => exact ⟨_, _, rfl, Status.report_eq_ok⟩
    | true =>
        have inside : round < fuel := by
          rw [waits] at enough
          exact enough.resolve_left Bool.false_ne_true.symm
        have loop := Status.waitLoop_eq ⟨world, stdout, stderr ++ ["Waiting for bridges "]⟩
          first fuel
        rw [if_pos inside] at loop
        rw [if_pos rfl, Console.eprint, loop]
        exact ⟨_, _, rfl, Status.report_eq_ok⟩

/-- A world that is its clock, in which nothing takes time but the sleeps, and every socket
appears at one time. -/
def Environment.appearing (time : Nat) : Environment Nat where
  now world := world
  pathExists _ world := (decide (time ≤ world), world)
  connect _ _ world := (.connected, world)
  sleep duration world := world + duration
  now_pathExists _ _ := Nat.le_refl _
  now_connect _ _ _ := Nat.le_refl _
  now_sleep _ _ := Nat.le_refl _

-- A socket that appears after the deadline is still found in the last round.
example : Link.waitForSockets (.appearing (fromMillis 900)) [("linux/amd64", "/tmp/a.sock")]
    (fromMillis 700) 5 ⟨0, [], []⟩ = some (true, ⟨fromMillis 1000, [], [".", "."]⟩) := by
  rfl

end OrbitBuild
