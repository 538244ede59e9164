import OrbitBuild.Bridge.Manager
import OrbitBuild.Satellite.Constellation

/-! # The addresses satellites announce

A run announces its node's own address while it is idle and the placeholder address
when it goes offline, so an address in the Doc belongs to the node of its key as long
as the entry is idle. Both passes of the selection return idle entries only.
-/

namespace OrbitBuild

variable {curve : Curve} {Blob : Type}

namespace Join

/-- The heartbeat announces the node's own address. -/
structure State.Own (config : JoinConfig curve) (state : State curve) : Prop where
  address : state.heartbeatAddr.id = config.nodeId
  sending : ∀ entry, state.heartbeat = .sending entry → config.Writes entry

theorem State.Own.initial (config : JoinConfig curve) (addrs : List TransportAddr) :
    (State.initial config addrs).Own config :=
  ⟨rfl, nofun⟩

/-- The entry of a heartbeat is one that the run writes. -/
theorem State.Own.heartbeat {config : JoinConfig curve} {state : State curve}
    (own : state.Own config) (now : UInt64) :
    config.Writes (config.idleEntry state.heartbeatAddr now) := by
  have address := own.address
  revert address
  generalize state.heartbeatAddr = addr
  intro address
  obtain ⟨id, addrs⟩ := addr
  cases address
  exact .idle addrs now

/-- Whatever a run writes is an entry of its own node. -/
theorem State.Own.step {config : JoinConfig curve} {state next : State curve} {action : Action}
    {written : Option (SatelliteEntry curve)} (own : state.Own config)
    (stepped : Join.step config state action = some (next, written)) :
    next.Own config ∧ ∀ entry ∈ written, config.Writes entry := by
  cases action with
  | addressChanges addrs =>
      cases stepped
      exact ⟨⟨own.address, own.sending⟩, nofun⟩
  | register now =>
      obtain ⟨-, equation⟩ := Option.ite_none_right_eq_some.mp stepped
      cases equation
      refine ⟨⟨own.address, own.sending⟩, ?_⟩
      intro entry wrote
      cases wrote
      exact .idle state.addrs now
  | spawnHeartbeat =>
      obtain ⟨-, equation⟩ := Option.ite_none_right_eq_some.mp stepped
      cases equation
      exact ⟨⟨rfl, nofun⟩, nofun⟩
  | sendOffline now =>
      obtain ⟨-, equation⟩ := Option.ite_none_right_eq_some.mp stepped
      cases equation
      refine ⟨⟨own.address, own.sending⟩, ?_⟩
      intro entry wrote
      cases wrote
      exact .offline now
  | submit now =>
      obtain ⟨-, equation⟩ := Option.ite_none_right_eq_some.mp stepped
      cases equation
      refine ⟨⟨own.address, nofun⟩, ?_⟩
      intro entry wrote
      cases wrote
      exact own.heartbeat now
  | suspend now =>
      obtain ⟨-, equation⟩ := Option.ite_none_right_eq_some.mp stepped
      cases equation
      refine ⟨⟨own.address, ?_⟩, nofun⟩
      intro entry sending
      cases sending
      exact own.heartbeat now
  | resume =>
      obtain ⟨entry, sending, rfl, rfl⟩ := step_resume_eq_some stepped
      refine ⟨⟨own.address, nofun⟩, ?_⟩
      intro entry wrote
      cases wrote
      exact own.sending entry sending
  | cancel =>
      obtain ⟨-, rfl, rfl⟩ := step_cancel_eq_some stepped
      exact ⟨⟨own.address, nofun⟩, nofun⟩
  -- The main function moves on and the heartbeat stays as it is.
  | ctrlC | offlineReply | abortEvents | abortHeartbeat | shutdownRouter =>
      obtain ⟨-, equation⟩ := Option.ite_none_right_eq_some.mp stepped
      cases equation
      exact ⟨⟨own.address, own.sending⟩, nofun⟩
  | tick | reply =>
      obtain ⟨-, equation⟩ := Option.ite_none_right_eq_some.mp stepped
      cases equation
      exact ⟨⟨own.address, nofun⟩, nofun⟩

end Join

namespace Constellation

/-- Every record of the Doc holds what a node has once written under its own key. A
replica that lags behind satisfies this too. -/
def Holds (codec : EntryCodec curve Blob) (log : List (PublicKey curve × SatelliteEntry curve))
    (doc : Doc Blob) : Prop :=
  ∀ record ∈ doc.records, ∃ node entry, (node, entry) ∈ log ∧
    record.key = satelliteKey node ∧ record.value = codec.toVec entry

/-- Every write is one of a run of the node that made it. -/
structure Honest (codec : EntryCodec curve Blob) (state : Constellation curve Blob) : Prop where
  runs : ∀ node active, state.active node = some active →
    active.config.nodeId = node ∧ active.state.Own active.config
  writes : ∀ node entry, (node, entry) ∈ state.log →
    ∃ config : JoinConfig curve, config.nodeId = node ∧ config.Writes entry
  records : Holds codec state.log state.doc

theorem Honest.initial (codec : EntryCodec curve Blob) :
    (initial : Constellation curve Blob).Honest codec :=
  ⟨nofun, nofun, nofun⟩

/-- No step writes for another node. -/
theorem Honest.step {codec : EntryCodec curve Blob} {state next : Constellation curve Blob}
    {action : Action curve} (honest : state.Honest codec)
    (moved : Constellation.step codec state action = some next) : next.Honest codec := by
  cases action with
  | start config addrs =>
      obtain ⟨-, doc, -, actives, log⟩ := step_start_eq_some moved
      refine ⟨?_, by rw [log]; exact honest.writes, by rw [doc, log]; exact honest.records⟩
      intro node active running
      rw [actives] at running
      rcases Transition.update_eq_some.mp running with ⟨rfl, started⟩ | ⟨-, old⟩
      · cases started
        exact ⟨rfl, .initial config addrs⟩
      · exact honest.runs node active old
  | stop stopped =>
      obtain ⟨-, doc, -, actives, log⟩ := step_stop_eq_some moved
      refine ⟨?_, by rw [log]; exact honest.writes, by rw [doc, log]; exact honest.records⟩
      intro node active running
      rw [actives] at running
      rcases Transition.update_eq_some.mp running with ⟨-, ended⟩ | ⟨-, old⟩
      · cases ended
      · exact honest.runs node active old
  | run owner action =>
      obtain ⟨active, moves, written, running, stepped, doc, -, actives, log⟩ :=
        step_run_eq_some moved
      obtain ⟨named, own⟩ := honest.runs owner active running
      obtain ⟨stays, writes⟩ := own.step stepped
      refine ⟨?_, ?_, ?_⟩
      · intro node other runs
        rw [actives] at runs
        rcases Transition.update_eq_some.mp runs with ⟨rfl, made⟩ | ⟨-, old⟩
        · cases made
          exact ⟨named, stays⟩
        · exact honest.runs node other old
      · intro node entry logged
        rw [log] at logged
        rcases List.mem_append.mp logged with old | fresh
        · exact honest.writes node entry old
        · obtain ⟨stored, wrote, equation⟩ := List.mem_map.mp fresh
          cases equation
          exact ⟨active.config, named, writes entry (Option.mem_toList.mp wrote)⟩
      · intro record held
        rw [doc, mem_applied] at held
        rw [log]
        rcases held with ⟨old, -⟩ | ⟨entry, wrote, rfl⟩
        · obtain ⟨node, entry, logged, both⟩ := honest.records record old
          exact ⟨node, entry, List.mem_append_left _ logged, both⟩
        · refine ⟨owner, entry, List.mem_append_right _ ?_, rfl, rfl⟩
          exact List.mem_map_of_mem (Option.mem_toList.mpr wrote)

/-- In every reachable state each write is one of its own node. -/
theorem Honest.of_reachable {codec : EntryCodec curve Blob} {state : Constellation curve Blob}
    (reached : Transition.Reachable (Constellation.step codec) Constellation.initial state) :
    state.Honest codec :=
  reached.invariant (fun _ _ _ honest moved => honest.step moved) (.initial codec)

/-- What a discovered pair was decoded from. -/
theorem Holds.discovered {codec : EntryCodec curve Blob}
    {log : List (PublicKey curve × SatelliteEntry curve)} {doc : Doc Blob}
    (holds : Holds codec log doc) {present : Blob → Bool} {record : DocEntry Blob}
    (member : record ∈ doc.records) {element : String × SatelliteEntry curve}
    (decoded : discoverEntry codec present record = some element) :
    ∃ node, record.key = satelliteKey node ∧ element.1 = node.display ∧
      (node, element.2) ∈ log := by
  obtain ⟨node, entry, logged, key, value⟩ := holds record member
  obtain ⟨suffix, prefixed, -, parsed, display⟩ := discoverEntry_eq_some.mp decoded
  refine ⟨node, key, ?_, ?_⟩
  · rw [display, List.append_cancel_left (prefixed.symm.trans key),
      Utf8.fromUtf8Lossy_encode node.display_ascii]
  · rw [value, codec.fromSlice_toVec] at parsed
    cases parsed
    exact logged

/-- The pair leads to the node that its key names, and was not written on shutdown. -/
structure LeadsTo (node : PublicKey curve) (element : String × SatelliteEntry curve) : Prop where
  named : element.1 = node.display
  address : element.2.endpointAddr.id = node
  announced : ∀ (config : JoinConfig curve) (now : UInt64), element.2 ≠ config.offlineEntry now
  /-- The all-zero key is nobody's public key. -/
  placeholder : node ≠ .zero → element.2.endpointAddr ≠ EndpointAddr.new .zero

/-- An idle entry that a node has written leads to it. -/
theorem Honest.leadsTo {codec : EntryCodec curve Blob} {state : Constellation curve Blob}
    (honest : state.Honest codec) {node : PublicKey curve} {element : String × SatelliteEntry curve}
    (named : element.1 = node.display) (logged : (node, element.2) ∈ state.log)
    (idle : element.2.status = "idle") : LeadsTo node element := by
  obtain ⟨config, own, writes⟩ := honest.writes node element.2 logged
  have address : element.2.endpointAddr.id = node := by
    revert idle
    generalize element.2 = entry at writes
    intro idle
    cases writes with
    | idle addrs now => exact own
    | offline now => exact absurd idle (config.offlineEntry_status_ne now)
  refine ⟨named, address, ?_, ?_⟩
  · intro config now same
    rw [same] at idle
    exact config.offlineEntry_status_ne now idle
  · intro nonzero same
    rw [same] at address
    exact nonzero address.symm

/-- A selected element was decoded from the record of the node it leads to. -/
theorem Honest.selected {codec : EntryCodec curve Blob} {state : Constellation curve Blob}
    (honest : state.Honest codec) {doc : Doc Blob} (holds : Holds codec state.log doc)
    {present : Blob → Bool} {stream : List (Except String (DocEntry Blob))}
    (drawn : ∀ record, .ok record ∈ stream → record ∈ doc.records)
    {found : List (String × SatelliteEntry curve)}
    (discovered : discoverSatellites codec present stream = .ok found) {platform : String}
    {element : String × SatelliteEntry curve}
    (chosen : selectElement found platform = .ok (some element)) :
    ∃ record ∈ doc.records, ∃ node, record.key = satelliteKey node ∧
      discoverEntry codec present record = some element ∧ LeadsTo node element := by
  obtain ⟨member, idle⟩ := selectElement_mem chosen
  obtain ⟨record, streamed, decoded⟩ := (mem_discoverSatellites discovered).mp member
  have stored := drawn record streamed
  obtain ⟨node, key, named, logged⟩ := holds.discovered stored decoded
  exact ⟨record, stored, node, key, decoded, honest.leadsTo named logged idle⟩

/-- **Dialled addresses.** Whatever honest satellites have written, a selected entry
carries the address of the node its key names, and so does every bridge that Mission
Control sets up from what it has discovered. -/
theorem selected_leadsTo (codec : EntryCodec curve Blob) {state : Constellation curve Blob}
    (reached : Transition.Reachable (step codec) initial state) {doc : Doc Blob}
    (holds : Holds codec state.log doc) {present : Blob → Bool}
    {stream : List (Except String (DocEntry Blob))}
    (drawn : ∀ record, .ok record ∈ stream → record ∈ doc.records)
    {found : List (String × SatelliteEntry curve)}
    (discovered : discoverSatellites codec present stream = .ok found) :
    (∀ platform element, selectElement found platform = .ok (some element) →
      selectSatelliteForPlatform found platform = .ok (some element.2) ∧
        ∃ record ∈ doc.records, ∃ node, record.key = satelliteKey node ∧
          discoverEntry codec present record = some element ∧ LeadsTo node element) ∧
    ∀ socketDir accepts before platforms bridges,
      Transition.Reachable (Bridge.step ⟨socketDir, found, accepts⟩) (.initial before platforms)
        bridges →
      ∀ task ∈ bridges.manager.tasks, ∃ element ∈ found, ∃ node, LeadsTo node element ∧
        task.bridge.satelliteAddr = element.2.endpointAddr := by
  have honest := Honest.of_reachable reached
  constructor
  · intro platform element chosen
    exact ⟨selectSatelliteForPlatform_eq_some.mpr ⟨element, chosen, rfl⟩,
      honest.selected holds drawn discovered chosen⟩
  · intro socketDir accepts before platforms bridges running task spawned
    have prepared := Bridge.Prepared.of_reachable running
    have planned : task.bridge ∈ Bridge.Setup.bridges ⟨socketDir, found, accepts⟩ platforms := by
      rw [← prepared.bridges]
      exact List.mem_append_left _ (List.mem_map_of_mem spawned)
    obtain ⟨platform, -, built⟩ := Bridge.Setup.mem_bridges.mp planned
    obtain ⟨-, -, entry, selected, address⟩ := Bridge.Setup.bridge_eq_some built
    obtain ⟨element, chosen, rfl⟩ := selectSatelliteForPlatform_eq_some.mp selected
    obtain ⟨record, -, node, -, -, leads⟩ := honest.selected holds drawn discovered chosen
    exact ⟨element, (selectElement_mem chosen).1, node, leads, address⟩

/-- One node stops gracefully, another has joined. -/
def relayedActions : List (Action Curve.full) :=
  gracefulActions 10 ++
    [.start Join.arm64Join [], .run Join.arm64Join.nodeId (.register 20)]

def relayed : Constellation Curve.full (SatelliteEntry Curve.full) :=
  (Transition.run (step .identity) initial relayedActions).getD initial

def relayedFound : List (String × SatelliteEntry Curve.full) :=
  relayed.doc.satelliteEntries.filterMap (discoverEntry .identity fun _ => true)

/-- The amd64 node is offline, and the arm64 node that emulates amd64 is selected. -/
theorem relayed_leadsTo :
    Transition.run (step .identity) initial relayedActions = some relayed ∧
      selectElement relayedFound "linux/amd64" =
        .ok (some (Join.arm64Join.nodeId.display,
          Join.arm64Join.idleEntry ⟨Join.arm64Join.nodeId, []⟩ 20)) ∧
      ∃ record ∈ relayed.doc.records, ∃ node, record.key = satelliteKey node ∧
        LeadsTo node (Join.arm64Join.nodeId.display,
          Join.arm64Join.idleEntry ⟨Join.arm64Join.nodeId, []⟩ 20) := by
  have reached : Transition.run (step .identity) initial relayedActions = some relayed := rfl
  have chosen : selectElement relayedFound "linux/amd64" =
      .ok (some (Join.arm64Join.nodeId.display,
        Join.arm64Join.idleEntry ⟨Join.arm64Join.nodeId, []⟩ 20)) := rfl
  have discovered : discoverSatellites .identity (fun _ => true)
      (relayed.doc.satelliteEntries.map Except.ok) = .ok relayedFound :=
    discoverSatellites_map_ok _ _ _
  obtain ⟨-, record, member, node, key, -, leads⟩ :=
    (selected_leadsTo .identity ⟨relayedActions, reached⟩
      (Honest.of_reachable ⟨relayedActions, reached⟩).records (fun _ => Doc.mem_of_queried)
      discovered).1 "linux/amd64" _ chosen
  exact ⟨reached, chosen, record, member, node, key, leads⟩

end Constellation

end OrbitBuild
