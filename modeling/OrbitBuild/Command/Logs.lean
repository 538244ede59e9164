import OrbitBuild.Core.Beacon
import OrbitBuild.Keys.Store
import OrbitBuild.Link.Pipes

/-! # What the commands log of the Beacon

`main` logs the text of the Beacon it is given before it parses it. What the commands
log after that is left open: they may log anything that depends on what they are called
with. So is how a record becomes a line, as long as the line shows the first field.
-/

namespace OrbitBuild

variable {curve : Curve}

/-! ## The command line -/

inductive StationCommand
  | init
  | join (beacon : String)
  deriving DecidableEq

inductive SatelliteCommand
  | join (beacon : String) (buildkitdSocket platforms : Option String)
  deriving DecidableEq

inductive Commands
  | station (cmd : StationCommand)
  | satellite (cmd : SatelliteCommand)
  | missionControl (beacon platforms : String)
  | status (wait : Bool) (timeoutSecs : UInt64) (platforms : String)
  | link (beacon platforms : String)
  | fleet (beacon : String)
  deriving DecidableEq

structure Cli where
  dataDir : Option String
  command : Commands
  deriving DecidableEq

namespace Command

/-- The variables of the environment, and whether a directory can be created. -/
structure System where
  home : Option String
  userProfile : Option String
  createDirAll : String → Except String Unit

def orbitbuildDir : String := ".orbitbuild"

def defaultDataDir (system : System) : Except String String :=
  match system.home.or system.userProfile with
  | some home => .ok (joinPath home orbitbuildDir)
  | none => .error "could not determine home directory: neither $HOME nor $USERPROFILE is set"

def resolveDataDir (system : System) : Option String → Except String String
  | some dir => (system.createDirAll dir).map fun _ => dir
  | none => defaultDataDir system

/-- What a command logs at the default filter, and how it ends. -/
structure Outcome where
  records : List Link.LogRecord
  result : Except String Unit

/-- Fail without a record. -/
def Outcome.error (message : String) : Outcome := ⟨[], .error message⟩

/-- Log, and go on. -/
def Outcome.logged (record : Link.LogRecord) (rest : Outcome) : Outcome :=
  ⟨record :: rest.records, rest.result⟩

/-- The functions that carry out the commands. -/
structure Handlers (curve : Curve) where
  runStationInit : (dataDir : String) → Outcome
  runStationJoin : Beacon curve → (dataDir : String) → Outcome
  runSatelliteJoin : Beacon curve → (dataDir : String) → (buildkitdSocket : Option String) →
    (extraPlatforms : Option (List String)) → Outcome
  runMissionControl : Beacon curve → (platforms : List String) →
    (socketDir dataDir builderName : String) → Outcome
  runStatus : (platforms : List String) → (socketDir : String) → (wait : Bool) →
    (timeoutSecs : UInt64) → Outcome
  runLink : Beacon curve → (platforms : List String) → (dataDir : String) → Outcome
  runFleet : Beacon curve → (dataDir : String) → Outcome

/-- A record of `main`. -/
def mainRecord (message : String) (fields : List (String × String)) : Link.LogRecord :=
  ⟨.info, "orbitbuild", message, fields⟩

/-- The `?` operator: an error ends the command. -/
def orElse {α : Type} (value : Except String α) (next : α → Outcome) : Outcome :=
  match value with
  | .ok value => next value
  | .error message => .error message

section Main

variable (format : Wire (DocTicket curve)) (handlers : Handlers curve)

/-- `main` after the data directory is resolved. -/
def dispatch (dataDir : String) : Commands → Outcome
  | .station .init =>
      .logged (mainRecord "station init" [("data_dir", dataDir)])
        (handlers.runStationInit dataDir)
  | .station (.join beacon) =>
      .logged (mainRecord "station join" [("beacon", beacon)])
        (orElse (Beacon.fromStr format beacon) fun beacon =>
          handlers.runStationJoin beacon dataDir)
  | .satellite (.join beacon buildkitdSocket platforms) =>
      .logged (mainRecord "satellite join" [("beacon", beacon)])
        (orElse (Beacon.fromStr format beacon) fun beacon =>
          orElse (platforms.mapM parseSatellitePlatforms) fun extraPlatforms =>
            handlers.runSatelliteJoin beacon dataDir buildkitdSocket extraPlatforms)
  | .missionControl beacon platforms =>
      .logged (mainRecord "mission-control" [("beacon", beacon), ("platforms", platforms)])
        (orElse (Beacon.fromStr format beacon) fun beacon =>
          orElse (parsePlatforms platforms) fun platforms =>
            handlers.runMissionControl beacon platforms "/tmp" dataDir "orbit")
  | .status wait timeoutSecs platforms =>
      .logged (mainRecord "status" [("wait", toString wait),
          ("timeout_secs", toString timeoutSecs), ("platforms", platforms)])
        (orElse (parsePlatforms platforms) fun platforms =>
          handlers.runStatus platforms "/tmp" wait timeoutSecs)
  | .link beacon platforms =>
      .logged (mainRecord "link" [("beacon", beacon), ("platforms", platforms)])
        (orElse (Beacon.fromStr format beacon) fun beacon =>
          orElse (parsePlatforms platforms) fun platforms =>
            handlers.runLink beacon platforms dataDir)
  | .fleet beacon =>
      .logged (mainRecord "fleet" [("beacon", beacon)])
        (orElse (Beacon.fromStr format beacon) fun beacon => handlers.runFleet beacon dataDir)

def main (system : System) (cli : Cli) : Outcome :=
  orElse (resolveDataDir system cli.dataDir) fun dataDir =>
    dispatch format handlers dataDir cli.command

/-- The lines that the program logs to its standard output, as the formatter of
`tracing_subscriber` writes them. -/
def logOutput (fmt : Link.LogRecord → String) (system : System) (cli : Cli) : List String :=
  (main format handlers system cli).records.map fmt

end Main

/-! ## Two Beacons of one Constellation -/

/-- The subcommands that take a Beacon, with all of their other arguments. -/
inductive TakesBeacon : (String → Commands) → Prop
  | stationJoin : TakesBeacon fun beacon => .station (.join beacon)
  | satelliteJoin (buildkitdSocket platforms : Option String) :
      TakesBeacon fun beacon => .satellite (.join beacon buildkitdSocket platforms)
  | missionControl (platforms : String) :
      TakesBeacon fun beacon => .missionControl beacon platforms
  | link (platforms : String) : TakesBeacon fun beacon => .link beacon platforms
  | fleet : TakesBeacon fun beacon => .fleet beacon

/-- The same namespace and the same nodes, once to write and once to read. -/
structure Paired (namespaceId : Bytes32 → Bytes32) (writer reader : Beacon curve) : Prop where
  capabilities : ∃ secret, writer.docTicket.capability = .write secret ∧
    reader.docTicket.capability = .read (namespaceId secret)
  nodes : writer.docTicket.nodes = reader.docTicket.nodes

/-- A Beacon to write is not one to read. -/
theorem Paired.ne {namespaceId : Bytes32 → Bytes32} {writer reader : Beacon curve}
    (paired : Paired namespaceId writer reader) : writer ≠ reader := by
  rintro rfl
  obtain ⟨secret, write, read⟩ := paired.capabilities
  rw [write] at read
  cases read

/-- A line shows the first field of its record, whatever comes after it. Nothing is asked
of texts with characters that a formatter may escape. -/
def ShowsFirst (fmt : Link.LogRecord → String) : Prop :=
  ∀ level target message name first second rest, Text.Printable first → Text.Printable second →
    fmt ⟨level, target, message, (name, first) :: rest⟩ =
      fmt ⟨level, target, message, (name, second) :: rest⟩ → first = second

/-- The line of a record, taken apart at the text of its first field. -/
theorem fullFmt_cons (level : Link.Level) (target message name text : String)
    (rest : List (String × String)) :
    Link.fullFmt ⟨level, target, message, (name, text) :: rest⟩ =
      "2026-01-01T00:00:00.000000Z " ++ level.padded ++ " " ++ target ++ ": " ++ message ++
        (" " ++ name ++ "=") ++ text ++
          (String.join (rest.map fun field => " " ++ field.1 ++ "=" ++ field.2) ++ "\n") := by
  unfold Link.fullFmt
  dsimp only
  rw [List.map_cons, String.join_cons]
  simp only [String.append_assoc]

/-- The default format shows the first field of a record. -/
theorem fullFmt_showsFirst : ShowsFirst Link.fullFmt := by
  intro level target message name first second rest _ _ same
  rwa [fullFmt_cons, fullFmt_cons, String.append_left_inj, String.append_right_inj] at same

section Logs

variable {format : Wire (DocTicket curve)} {handlers : Handlers curve}
  {fmt : Link.LogRecord → String}

/-- The texts that are accepted have no character to be escaped. -/
theorem printable_of_fromStr {text : String} {beacon : Beacon curve}
    (accepted : Beacon.fromStr format text = .ok beacon) : Text.Printable text := by
  obtain ⟨payload, rfl, -⟩ := Beacon.deserialize_eq_ok.mp accepted
  exact Beacon.printable_payloadText payload

/-- The first record of a command that takes a Beacon has its text in its first field. -/
theorem TakesBeacon.dispatch {command : String → Commands} (takes : TakesBeacon command)
    (format : Wire (DocTicket curve)) (handlers : Handlers curve) (dataDir : String) :
    ∃ message rest, ∀ beacon, ∃ later,
      (Command.dispatch format handlers dataDir (command beacon)).records =
        mainRecord message (("beacon", beacon) :: rest) :: later := by
  cases takes with
  | stationJoin => exact ⟨"station join", [], fun _ => ⟨_, rfl⟩⟩
  | satelliteJoin => exact ⟨"satellite join", [], fun _ => ⟨_, rfl⟩⟩
  | missionControl platforms =>
      exact ⟨"mission-control", [("platforms", platforms)], fun _ => ⟨_, rfl⟩⟩
  | link platforms => exact ⟨"link", [("platforms", platforms)], fun _ => ⟨_, rfl⟩⟩
  | fleet => exact ⟨"fleet", [], fun _ => ⟨_, rfl⟩⟩

/-- Without a data directory nothing is logged. -/
theorem logOutput_of_error {system : System} {cli : Cli} {error : String}
    (unresolved : resolveDataDir system cli.dataDir = .error error) :
    logOutput format handlers fmt system cli = [] := by
  rw [logOutput, main, unresolved]
  rfl

/-- With a data directory, the first line gives the text of the Beacon away. -/
theorem logOutput_injective (shows : ShowsFirst fmt) {command : String → Commands}
    (takes : TakesBeacon command) {system : System} {cliDataDir : Option String} {dataDir : String}
    (resolved : resolveDataDir system cliDataDir = .ok dataDir) {first second : String}
    (plain : Text.Printable first) (plain' : Text.Printable second)
    (same : logOutput format handlers fmt system ⟨cliDataDir, command first⟩ =
      logOutput format handlers fmt system ⟨cliDataDir, command second⟩) : first = second := by
  obtain ⟨message, rest, records⟩ := takes.dispatch format handlers dataDir
  obtain ⟨laterFirst, recordsFirst⟩ := records first
  obtain ⟨laterSecond, recordsSecond⟩ := records second
  rw [logOutput, logOutput, main, main, resolved] at same
  simp only [orElse, recordsFirst, recordsSecond, List.map_cons, List.cons.injEq] at same
  exact shows _ _ _ _ _ _ _ plain plain' same.1

/-- **The Beacon in the logs.** For every subcommand that takes a Beacon, and for the texts of
two Beacons of one namespace with the same nodes, one to write and one to read, the program
logs the same in both runs if and only if the data directory cannot be resolved, in which
case it logs nothing. -/
theorem logOutput_eq_iff (shows : ShowsFirst fmt) {namespaceId : Bytes32 → Bytes32}
    {writer reader : Beacon curve} (paired : Paired namespaceId writer reader)
    {writeText readText : String}
    (write : Beacon.fromStr format writeText = .ok writer)
    (read : Beacon.fromStr format readText = .ok reader) (handlers : Handlers curve)
    {command : String → Commands} (takes : TakesBeacon command) (system : System)
    (cliDataDir : Option String) :
    logOutput format handlers fmt system ⟨cliDataDir, command writeText⟩ =
        logOutput format handlers fmt system ⟨cliDataDir, command readText⟩ ↔
      ∃ error, resolveDataDir system cliDataDir = .error error := by
  cases resolved : resolveDataDir system cliDataDir with
  | error error =>
      refine iff_of_true ?_ ⟨error, rfl⟩
      exact (logOutput_of_error resolved).trans (logOutput_of_error resolved).symm
  | ok dataDir =>
      refine iff_of_false (fun same => ?_) nofun
      have texts := logOutput_injective shows takes resolved (printable_of_fromStr write)
        (printable_of_fromStr read) same
      rw [texts, read] at write
      exact paired.ne (Except.ok.inj write).symm

end Logs

/-! ## Two texts -/

/-- The namespace of the secret of seven repeated. -/
def sevenNamespace : Bytes32 :=
  ⟨[234, 74, 108, 99, 226, 156, 82, 10, 190, 245, 80, 123, 19, 46, 197, 249,
    149, 71, 118, 174, 190, 190, 123, 146, 66, 30, 234, 105, 20, 70, 210, 44], rfl⟩

def sevenWriter : Beacon Curve.full := ⟨⟨.write (Keys.keyOfByte 7), []⟩⟩

def sevenReader : Beacon Curve.full := ⟨⟨.read sevenNamespace, []⟩⟩

def sevenWriterText : String := "orbit-v1-ACAHBwcHBwcHBwcHBwcHBwcHBwcHBwcHBwcHBwcHBwcHBwA"

def sevenReaderText : String := "orbit-v1-AepKbGPinFIKvvVQexMuxfmVR3auvr57kkIe6mkURtIsAA"

theorem seven_paired : Paired (fun _ => sevenNamespace) sevenWriter sevenReader :=
  ⟨⟨_, rfl, rfl⟩, rfl⟩

theorem fromStr_sevenWriterText :
    Beacon.fromStr DocTicket.postcard sevenWriterText = .ok sevenWriter := by
  decide

theorem fromStr_sevenReaderText :
    Beacon.fromStr DocTicket.postcard sevenReaderText = .ok sevenReader := by
  decide

/-- Commands that log nothing of their own. -/
def silentHandlers : Handlers Curve.full where
  runStationInit _ := ⟨[], .ok ()⟩
  runStationJoin _ _ := ⟨[], .ok ()⟩
  runSatelliteJoin _ _ _ _ := ⟨[], .ok ()⟩
  runMissionControl _ _ _ _ _ := ⟨[], .ok ()⟩
  runStatus _ _ _ _ := ⟨[], .ok ()⟩
  runLink _ _ _ := ⟨[], .ok ()⟩
  runFleet _ _ := ⟨[], .ok ()⟩

/-- Every directory can be created, and there may be a home. -/
def systemWithHome (home : Option String) : System := ⟨home, none, fun _ => .ok ()⟩

/-- Without a home both runs log nothing. -/
theorem logOutput_homeless :
    logOutput DocTicket.postcard silentHandlers Link.fullFmt (systemWithHome none)
        ⟨none, .fleet sevenWriterText⟩ =
      logOutput DocTicket.postcard silentHandlers Link.fullFmt (systemWithHome none)
        ⟨none, .fleet sevenReaderText⟩ :=
  (logOutput_eq_iff fullFmt_showsFirst seven_paired fromStr_sevenWriterText
    fromStr_sevenReaderText silentHandlers .fleet (systemWithHome none) none).mpr ⟨_, rfl⟩

/-- The right to write is told from the right to read by the logs. -/
theorem logOutput_reveals :
    Paired (fun _ => sevenNamespace) sevenWriter sevenReader ∧
      Beacon.fromStr DocTicket.postcard sevenWriterText = .ok sevenWriter ∧
      Beacon.fromStr DocTicket.postcard sevenReaderText = .ok sevenReader ∧
      logOutput DocTicket.postcard silentHandlers Link.fullFmt (systemWithHome (some "/root"))
          ⟨none, .fleet sevenWriterText⟩ ≠
        logOutput DocTicket.postcard silentHandlers Link.fullFmt (systemWithHome (some "/root"))
          ⟨none, .fleet sevenReaderText⟩ := by
  refine ⟨seven_paired, fromStr_sevenWriterText, fromStr_sevenReaderText, fun same => ?_⟩
  have texts := logOutput_injective fullFmt_showsFirst .fleet rfl
    (printable_of_fromStr fromStr_sevenWriterText) (printable_of_fromStr fromStr_sevenReaderText)
    same
  exact absurd texts (by decide)

end Command

end OrbitBuild
