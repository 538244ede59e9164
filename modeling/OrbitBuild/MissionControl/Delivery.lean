import OrbitBuild.Bridge.Routing
import OrbitBuild.MissionControl.Selected
import OrbitBuild.Satellite.LastWords

/-! # From what satellites wrote to where a client arrives

Mission Control discovers the last words of a history, selects one of them for each
platform and sets up a bridge to it. A client that connects to the socket of a platform
is proxied to the node that spoke this word.
-/

namespace OrbitBuild

variable {curve : Curve} {Blob : Type}

/-- What is known of a selected entry does not depend on the order of the list. -/
theorem SelectedEntry.of_perm {entries others : List (String × SatelliteEntry curve)}
    {arch platform : String} {entry : SatelliteEntry curve}
    (selected : SelectedEntry entries arch platform entry) (same : entries.Perm others) :
    SelectedEntry others arch platform entry := by
  have members : ∀ element, element ∈ others ↔ element ∈ entries := fun _ => same.symm.mem_iff
  refine ⟨?_, selected.idle, ?_, ?_⟩
  · obtain ⟨nodeId, listed⟩ := selected.listed
    exact ⟨nodeId, (members _).mpr listed⟩
  · intro both
    obtain ⟨element, listed, native⟩ := both
    obtain ⟨passed, newest⟩ := selected.native ⟨element, (members _).mp listed, native⟩
    exact ⟨passed, fun other inside => newest other ((members _).mp inside)⟩
  · intro none
    obtain ⟨passed, newest⟩ := selected.emulated fun element listed =>
      none element ((members _).mpr listed)
    exact ⟨passed, fun other inside => newest other ((members _).mp inside)⟩

namespace Bridge

/-- A platform is bridged exactly if an entry is selected for it. -/
theorem Setup.bridge_isSome_iff (setup : Setup curve) {platform arch : String}
    (extracted : platformToArch platform = .ok arch) :
    (∃ bridge, setup.bridge platform = .ok (some bridge)) ↔
      ∃ entry, selectSatelliteForPlatform setup.entries platform = .ok (some entry) := by
  constructor
  · intro both
    obtain ⟨bridge, built⟩ := both
    obtain ⟨-, -, entry, selected, -⟩ := Setup.bridge_eq_some built
    exact ⟨entry, selected⟩
  · intro both
    obtain ⟨entry, selected⟩ := both
    have derived : socketPathForPlatform setup.socketDir platform =
        .ok (joinPath setup.socketDir (socketName arch)) :=
      socketPathForPlatform_eq_ok.mpr ⟨arch, extracted, rfl⟩
    refine ⟨⟨platform, joinPath setup.socketDir (socketName arch), entry.endpointAddr⟩, ?_⟩
    rw [Setup.bridge, extracted, selected, derived]
    rfl

/-- Once the bridge loop is over, the manager has the platforms that were selected for. -/
theorem Prepared.mem_platforms {setup : Setup curve} {platforms : List String} {state : State curve}
    (prepared : Prepared setup platforms state) (allAdded : state.pending = [])
    {platform : String} :
    platform ∈ state.manager.platforms ↔
      platform ∈ platforms ∧ ∃ bridge, setup.bridge platform = .ok (some bridge) := by
  rw [prepared.keys, prepared.tasks allAdded]
  constructor
  · intro both
    obtain ⟨bridge, member, rfl⟩ := both
    obtain ⟨asked, listed, built⟩ := Setup.mem_bridges.mp member
    obtain ⟨rfl, -⟩ := Setup.bridge_eq_some built
    exact ⟨listed, bridge, built⟩
  · intro both
    obtain ⟨listed, bridge, built⟩ := both
    exact ⟨bridge, Setup.mem_bridges.mpr ⟨platform, listed, built⟩, (Setup.bridge_eq_some built).1⟩

end Bridge

namespace Constellation

/-- A last word that is heard was written by its node, and can be traced to the log. -/
theorem heard_logged {codec : EntryCodec curve Blob} {actions : List (Action curve)}
    {final : Constellation curve Blob}
    (reached : Transition.run (step codec) initial actions = some final) {present : Blob → Bool}
    {word : Word curve} (listens : word ∈ heard codec present actions) :
    (word.node, word.entry) ∈ final.log := by
  obtain ⟨lasts, held⟩ := List.mem_filter.mp listens
  have recorded : word.record codec ∈ final.doc.records := by
    rw [records_eq_lastWords reached]
    exact List.mem_map_of_mem lasts
  have decoded := discoverEntry_record codec present word
  rw [if_pos held] at decoded
  obtain ⟨node, key, -, logged⟩ :=
    (Honest.of_reachable ⟨actions, reached⟩).records.discovered recorded decoded
  cases satelliteKey_injective key
  exact logged

/-- An idle word that is heard leads to the node that spoke it. -/
theorem address_of_heard {codec : EntryCodec curve Blob} {actions : List (Action curve)}
    {final : Constellation curve Blob}
    (reached : Transition.run (step codec) initial actions = some final) {present : Blob → Bool}
    {word : Word curve} (listens : word ∈ heard codec present actions)
    (idle : word.entry.status = "idle") : word.entry.endpointAddr.id = word.node :=
  ((Honest.of_reachable ⟨actions, reached⟩).leadsTo (rfl : word.element.1 = word.node.display)
    (heard_logged reached listens) idle).address

/-- For which platforms some word can be selected. -/
def Served (words : List (Word curve)) (arch platform : String) : Prop :=
  ∃ word ∈ words, word.entry.isNative arch = true ∨ word.entry.isEmulated platform = true

/-- A satellite is found for a platform exactly if one of the last words serves it. -/
theorem served_iff {words : List (Word curve)} {found : List (String × SatelliteEntry curve)}
    (same : found.Perm (words.map Word.element)) {platform arch : String}
    (extracted : platformToArch platform = .ok arch) :
    (∃ entry, selectSatelliteForPlatform found platform = .ok (some entry)) ↔
      Served words arch platform := by
  obtain ⟨result, chosen⟩ : ∃ result, selectSatelliteForPlatform found platform = .ok result :=
    ⟨_, selectSatelliteForPlatform_eq found extracted⟩
  have heard : ∀ element, element ∈ found ↔ ∃ word ∈ words, word.element = element :=
    fun element => same.mem_iff.trans List.mem_map
  constructor
  · intro both
    obtain ⟨entry, selected⟩ := both
    by_contra unserved
    have none : selectSatelliteForPlatform found platform = .ok none := by
      apply (selected_none_iff extracted).mpr
      intro element listed
      obtain ⟨word, spoken, rfl⟩ := (heard element).mp listed
      constructor <;> apply Bool.eq_false_iff.mpr <;> intro passes
      · exact unserved ⟨word, spoken, Or.inl passes⟩
      · exact unserved ⟨word, spoken, Or.inr passes⟩
    cases none.symm.trans selected
  · intro served
    obtain ⟨word, spoken, passes⟩ := served
    cases result with
    | some entry => exact ⟨entry, chosen⟩
    | none =>
        obtain ⟨native, emulated⟩ := (selected_none_iff extracted).mp chosen word.element
          ((heard _).mpr ⟨word, spoken, rfl⟩)
        rcases passes with isNative | isEmulated
        · cases native.symm.trans isNative
        · cases emulated.symm.trans isEmulated

/-- A client that connects at the path arrives at the node that spoke the word. -/
def Delivers (bridges : Bridge.State curve) (path : String) (word : Word curve) : Prop :=
  ∃ task, bridges.Accepts path task ∧ task.bridge.satelliteAddr = word.entry.endpointAddr ∧
    task.bridge.satelliteAddr.id = word.node

/-- The selected entry was spoken by a node, which the entry leads to. -/
theorem selected_heard {codec : EntryCodec curve Blob} {actions : List (Action curve)}
    {final : Constellation curve Blob}
    (reached : Transition.run (step codec) initial actions = some final) {present : Blob → Bool}
    {found : List (String × SatelliteEntry curve)}
    (same : found.Perm ((heard codec present actions).map Word.element)) {platform arch : String}
    (extracted : platformToArch platform = .ok arch) {entry : SatelliteEntry curve}
    (selected : selectSatelliteForPlatform found platform = .ok (some entry)) :
    ∃ word ∈ heard codec present actions, word.entry = entry ∧ entry.endpointAddr.id = word.node ∧
      SelectedEntry ((heard codec present actions).map Word.element) arch platform entry := by
  have spec := (selected_spec extracted selected).of_perm same
  obtain ⟨nodeId, listed⟩ := spec.listed
  obtain ⟨word, listens, equation⟩ := List.mem_map.mp listed
  have spoken : word.entry = entry := congrArg Prod.snd equation
  refine ⟨word, listens, spoken, ?_, spec⟩
  rw [← spoken]
  apply address_of_heard reached listens
  rw [spoken]
  exact spec.idle

/-- **Delivery.** After any history of satellites, for any order of the query and in every
interleaving of the bridge loop with the accept loops: once all accept loops run, a
requested platform has a bridge exactly if some run's last word is idle and serves it, and
whoever connects at the platform's path arrives at the node of such a word, native if one
is, and registered no earlier than the others of its class. -/
theorem delivery (codec : EntryCodec curve Blob) {actions : List (Action curve)}
    {final : Constellation curve Blob}
    (reached : Transition.run (step codec) initial actions = some final)
    {queried : List (DocEntry Blob)} {present : Blob → Bool}
    (order : queried.Perm final.doc.satelliteEntries) {found : List (String × SatelliteEntry curve)}
    (discovered : discoverSatellites codec present (queried.map .ok) = .ok found)
    {socketDir : String} {accepts : String → Bool} {before : SocketDir String Empty}
    {platforms : List String} {bridges : Bridge.State curve}
    (running : Transition.Reachable (Bridge.step ⟨socketDir, found, accepts⟩)
      (.initial before platforms) bridges)
    (all : bridges.AllListening)
    (distinct : Bridge.Setup.SegmentsDistinct ⟨socketDir, found, accepts⟩ platforms)
    {platform arch : String} (asked : platform ∈ platforms)
    (extracted : platformToArch platform = .ok arch) :
    (platform ∈ bridges.manager.platforms ↔ Served (heard codec present actions) arch platform) ∧
    (platform ∈ bridges.manager.platforms →
      ∃ word ∈ heard codec present actions,
        Delivers bridges (joinPath socketDir (socketName arch)) word ∧
        SelectedEntry ((heard codec present actions).map Word.element) arch platform
          word.entry) := by
  have same := discovered_perm_heard reached order discovered
  have prepared := Bridge.Prepared.of_reachable running
  have bridged : platform ∈ bridges.manager.platforms ↔
      ∃ entry, selectSatelliteForPlatform found platform = .ok (some entry) := by
    rw [prepared.mem_platforms all.1, Bridge.Setup.bridge_isSome_iff _ extracted]
    exact and_iff_right asked
  refine ⟨bridged.trans (served_iff same extracted), ?_⟩
  intro added
  obtain ⟨entry, selected⟩ := bridged.mp added
  obtain ⟨word, listens, rfl, address, spec⟩ := selected_heard reached same extracted selected
  have unshared := (Bridge.Setup.pathsUnshared_iff _ platforms).mpr distinct
  obtain ⟨task, accepted, dialled⟩ := Bridge.routes_of_pathsUnshared running all unshared platform
    added _ word.entry (socketPathForPlatform_eq_ok.mpr ⟨arch, extracted, rfl⟩) selected
  refine ⟨word, listens, ⟨task, accepted, dialled, ?_⟩, spec⟩
  rw [dialled]
  exact address

/-- Both platforms are asked for when only the arm64 node is still there. -/
def relayedSetup : Bridge.Setup Curve.full := ⟨"/tmp", relayedFound, fun _ => true⟩

theorem relayed_delivery :
    ∃ bridges, Transition.Reachable (Bridge.step relayedSetup)
        (.initial (fun _ => none) ["linux/amd64", "linux/arm64"]) bridges ∧
      ∃ word ∈ heard .identity (fun _ => true) relayedActions,
        Delivers bridges "/tmp/orbit-amd64.sock" word ∧ word.node = Join.arm64Join.nodeId := by
  have reached : Transition.run (step .identity) initial relayedActions = some relayed := rfl
  have running : Transition.run (Bridge.step relayedSetup)
      (.initial (fun _ => none) ["linux/amd64", "linux/arm64"])
      [.add, .add, .task 1, .task 0, .task 1, .task 0] = some _ := rfl
  have distinct : relayedSetup.SegmentsDistinct ["linux/amd64", "linux/arm64"] := by
    unfold Bridge.Setup.SegmentsDistinct
    decide
  have asked : "linux/amd64" ∈ ["linux/amd64", "linux/arm64"] := by decide
  have idle : ∀ word ∈ heard .identity (fun _ => true) relayedActions,
      word.entry.status = "idle" → word.node = Join.arm64Join.nodeId := by decide
  obtain ⟨-, delivers⟩ := delivery .identity reached (.refl _) (discoverSatellites_map_ok _ _ _)
    ⟨_, running⟩ ⟨rfl, by decide⟩ distinct asked rfl
  obtain ⟨word, listens, arrives, spec⟩ := delivers (by decide)
  exact ⟨_, ⟨_, running⟩, word, listens, arrives, idle word listens spec.idle⟩

end Constellation

end OrbitBuild
