import OrbitBuild.MissionControl.Delivery

/-! # The order that selection follows

The two passes of the selection look for the greatest entry of one order: a native
satellite comes before one that emulates the platform, and then the more recent
registration wins. So one scan finds the same entry, the entry selected from two lists
together is the better of the two selected from each (`selectSatelliteForPlatform_scan`),
and a Mission Control that knows of more entries bridges every platform it would have
bridged anyway, to a satellite that is at least as good (`bridges_improve`).
-/

namespace OrbitBuild

variable {curve : Curve} {Blob : Type}

/-- How good a satellite is for an architecture. -/
def SatelliteEntry.rank (arch : String) : SatelliteEntry curve → Bool ×ₗ ℕ :=
  Selection.preferring (fun entry => entry.isNative arch) fun entry => entry.registeredAt.toNat

/-- The better of two satellites for an architecture, the later one if they are equal. -/
def SatelliteEntry.better (arch : String) (best next : SatelliteEntry curve) :
    SatelliteEntry curve :=
  if next.rank arch < best.rank arch then best else next

/-- One of the two passes considers the entry. -/
def SatelliteEntry.serves (arch platform : String) (entry : SatelliteEntry curve) : Bool :=
  entry.isNative arch || entry.isEmulated platform

/-- Only an idle satellite serves. -/
theorem SatelliteEntry.idle_of_serves {entry : SatelliteEntry curve} {arch platform : String}
    (serves : entry.serves arch platform = true) : entry.status = "idle" := by
  rcases Bool.or_eq_true_iff.mp serves with native | emulated
  · exact (SatelliteEntry.isNative_iff.mp native).1
  · exact (SatelliteEntry.isEmulated_iff.mp emulated).1

/-- One step of a scan: the next pair competes with the best entry so far. -/
def scanElement (arch platform : String) (best : Option (SatelliteEntry curve))
    (next : String × SatelliteEntry curve) : Option (SatelliteEntry curve) :=
  if next.2.serves arch platform then
    match best with
    | none => some next.2
    | some best => some (best.better arch next.2)
  else best

section Order

variable {platform arch : String}

/-- Both passes together are one search under the rank. -/
theorem selected_eq_maxByKey (entries : List (String × SatelliteEntry curve))
    (extracted : platformToArch platform = .ok arch) :
    selectSatelliteForPlatform entries platform =
      .ok (Selection.maxByKey (SatelliteEntry.rank arch)
        ((entries.map Prod.snd).filter (SatelliteEntry.serves arch platform))) := by
  have passes : ∀ pass : SatelliteEntry curve → Bool, (mostRecent entries pass).map Prod.snd =
      Selection.maxByKey (fun entry => entry.registeredAt.toNat)
        ((entries.map Prod.snd).filter pass) := by
    intro pass
    rw [List.filter_map, Selection.maxByKey_map]
    rfl
  rw [selectSatelliteForPlatform_eq entries extracted, Option.map_or, passes, passes,
    Selection.maxByKey_or]
  rfl

/-- A scan of the pairs is a search under the rank. -/
theorem foldl_scanElement (entries : List (String × SatelliteEntry curve)) :
    entries.foldl (scanElement arch platform) none =
      Selection.maxByKey (SatelliteEntry.rank arch)
        ((entries.map Prod.snd).filter (SatelliteEntry.serves arch platform)) := by
  have scanned := Selection.foldl_merge_later (SatelliteEntry.rank arch)
    (SatelliteEntry.serves arch platform) (entries.map Prod.snd) none
  rw [Option.merge_none_left] at scanned
  rw [← scanned, List.foldl_map]
  congr 1
  funext best next
  unfold scanElement
  cases best <;> rfl

end Order

/-- **One scan in place of two passes.** For every platform and list, the panic for a
platform without a slash included, the two passes return what one scan returns that keeps,
among the entries that can serve the platform, the better one and of equally good ones the
later. The entry selected from a concatenation is the better of the two selected from
its parts. -/
theorem selectSatelliteForPlatform_scan (platform : String)
    (entries others : List (String × SatelliteEntry curve)) :
    (selectSatelliteForPlatform entries platform =
      (platformToArch platform).map fun arch => entries.foldl (scanElement arch platform) none) ∧
    selectSatelliteForPlatform (entries ++ others) platform = do
      let arch ← platformToArch platform
      let first ← selectSatelliteForPlatform entries platform
      let second ← selectSatelliteForPlatform others platform
      return first.merge (SatelliteEntry.better arch) second := by
  cases extracted : platformToArch platform with
  | error panic =>
      simp only [selectSatelliteForPlatform, selectElement, extracted]
      exact ⟨rfl, rfl⟩
  | ok arch =>
      rw [selected_eq_maxByKey entries extracted, selected_eq_maxByKey others extracted,
        selected_eq_maxByKey (entries ++ others) extracted, List.map_append, List.filter_append,
        Selection.maxByKey_append]
      constructor
      · rw [← foldl_scanElement]
        rfl
      · rfl

/-! ## More entries -/

/-- More entries of the Doc and more of its blobs: nothing discovered before is missed. -/
theorem discoverSatellites_mono {codec : EntryCodec curve Blob} {present wider : Blob → Bool}
    (held : ∀ blob, present blob = true → wider blob = true)
    {stream longer : List (Except String (DocEntry Blob))}
    (included : ∀ entry, .ok entry ∈ stream → .ok entry ∈ longer)
    {found others : List (String × SatelliteEntry curve)}
    (discovered : discoverSatellites codec present stream = .ok found)
    (rediscovered : discoverSatellites codec wider longer = .ok others) :
    ∀ element ∈ found, element ∈ others := by
  intro element listed
  obtain ⟨nodeId, satEntry⟩ := element
  obtain ⟨entry, drawn, decoded⟩ := (mem_discoverSatellites discovered).mp listed
  obtain ⟨suffix, key, fetched, parsed, display⟩ := discoverEntry_eq_some.mp decoded
  apply (mem_discoverSatellites rediscovered).mpr
  refine ⟨entry, included entry drawn, discoverEntry_eq_some.mpr ?_⟩
  exact ⟨suffix, key, held entry.value fetched, parsed, display⟩

/-- A longer list, in any order, does not select a worse satellite. -/
theorem selected_mono {entries others : List (String × SatelliteEntry curve)}
    (included : ∀ element ∈ entries, element ∈ others) {platform arch : String}
    (extracted : platformToArch platform = .ok arch) {entry : SatelliteEntry curve}
    (selected : selectSatelliteForPlatform entries platform = .ok (some entry)) :
    ∃ other, selectSatelliteForPlatform others platform = .ok (some other) ∧
      entry.rank arch ≤ other.rank arch := by
  rw [selected_eq_maxByKey entries extracted, Except.ok.injEq] at selected
  have candidates :
      ∀ candidate ∈ (entries.map Prod.snd).filter (SatelliteEntry.serves arch platform),
        candidate ∈ (others.map Prod.snd).filter (SatelliteEntry.serves arch platform) := by
    intro candidate passed
    obtain ⟨listed, serves⟩ := List.mem_filter.mp passed
    obtain ⟨element, member, rfl⟩ := List.mem_map.mp listed
    exact List.mem_filter.mpr ⟨List.mem_map_of_mem (included element member), serves⟩
  obtain ⟨other, chosen, better⟩ := Selection.maxByKey_mono candidates selected
  exact ⟨other, by rw [selected_eq_maxByKey others extracted, chosen], better⟩

namespace Bridge

/-- The manager bridges the platform to the satellite that registered with the entry. -/
def State.BridgesTo (state : State curve) (platform : String) (entry : SatelliteEntry curve) :
    Prop :=
  platform ∈ state.manager.platforms ∧
    ∃ task ∈ state.manager.tasks, task.bridge.platform = platform ∧
      task.bridge.satelliteAddr = entry.endpointAddr

/-- What a bridge leads to was selected for its platform. -/
theorem Prepared.bridgesTo_of_selected {setup : Setup curve} {platforms : List String}
    {state : State curve} (prepared : Prepared setup platforms state)
    (allAdded : state.pending = []) {platform : String} (asked : platform ∈ platforms)
    {entry : SatelliteEntry curve}
    (selected : selectSatelliteForPlatform setup.entries platform = .ok (some entry)) :
    state.BridgesTo platform entry := by
  obtain ⟨arch, extracted⟩ : ∃ arch, platformToArch platform = .ok arch := by
    cases extracted : platformToArch platform with
    | ok arch => exact ⟨arch, rfl⟩
    | error panic =>
        rw [selectSatelliteForPlatform, selectElement, extracted] at selected
        cases selected
  obtain ⟨bridge, built⟩ := (setup.bridge_isSome_iff extracted).mpr ⟨entry, selected⟩
  obtain ⟨named, -, chosen, same, address⟩ := Setup.bridge_eq_some built
  cases same.symm.trans selected
  have planned : bridge ∈ state.manager.tasks.map Task.bridge := by
    rw [prepared.tasks allAdded]
    exact Setup.mem_bridges.mpr ⟨platform, asked, built⟩
  obtain ⟨task, spawned, rfl⟩ := List.mem_map.mp planned
  exact ⟨(prepared.mem_platforms allAdded).mpr ⟨asked, task.bridge, built⟩, task, spawned, named,
    address⟩

/-- **More knowledge, no worse bridges.** Of two Mission Controls, whatever their directories
and the interleavings of their accept loops, let the second have discovered from at least
the Doc entries and blobs of the first, in any order, and have been asked for at least the
same platforms. Once both have added their bridges, every platform the first bridges is
bridged by the second, to a satellite of at least the same rank. -/
theorem bridges_improve (codec : EntryCodec curve Blob) {present wider : Blob → Bool}
    (held : ∀ blob, present blob = true → wider blob = true)
    {stream longer : List (Except String (DocEntry Blob))}
    (included : ∀ entry, .ok entry ∈ stream → .ok entry ∈ longer)
    {found others : List (String × SatelliteEntry curve)}
    (discovered : discoverSatellites codec present stream = .ok found)
    (rediscovered : discoverSatellites codec wider longer = .ok others)
    {platforms more : List String} (asked : platforms ⊆ more)
    {dir otherDir : String} {accepts otherAccepts : String → Bool}
    {before otherBefore : SocketDir String Empty} {state other : State curve}
    (running : Transition.Reachable (step ⟨dir, found, accepts⟩) (.initial before platforms) state)
    (added : state.pending = [])
    (otherRunning : Transition.Reachable (step ⟨otherDir, others, otherAccepts⟩)
      (.initial otherBefore more) other)
    (otherAdded : other.pending = []) {platform : String}
    (bridged : platform ∈ state.manager.platforms) :
    ∃ arch entry better, platformToArch platform = .ok arch ∧
      selectSatelliteForPlatform found platform = .ok (some entry) ∧
      selectSatelliteForPlatform others platform = .ok (some better) ∧
      state.BridgesTo platform entry ∧ other.BridgesTo platform better ∧
      entry.rank arch ≤ better.rank arch := by
  have prepared := Prepared.of_reachable running
  have otherPrepared := Prepared.of_reachable otherRunning
  obtain ⟨listed, bridge, built⟩ := (prepared.mem_platforms added).mp bridged
  obtain ⟨-, derived, entry, selected, -⟩ := Setup.bridge_eq_some built
  obtain ⟨arch, extracted, -⟩ := socketPathForPlatform_eq_ok.mp derived
  have known := discoverSatellites_mono held included discovered rediscovered
  obtain ⟨better, chosen, improved⟩ := selected_mono known extracted selected
  exact ⟨arch, entry, better, extracted, selected, chosen,
    prepared.bridgesTo_of_selected added listed selected,
    otherPrepared.bridgesTo_of_selected otherAdded (asked listed) chosen, improved⟩

/-- The record of a satellite that can build for 64-bit Arm. -/
def armRecord (byte : UInt8) (arch : String) (registeredAt : UInt64) :
    DocEntry (SatelliteEntry Curve.full) :=
  ⟨0, satelliteKey (.ofByte byte), (armCapable byte arch "idle" registeredAt).2⟩

/-- What is discovered from such records. -/
def armFound (records : List (DocEntry (SatelliteEntry Curve.full))) :
    List (String × SatelliteEntry Curve.full) :=
  records.filterMap (discoverEntry .identity fun _ => true)

/-- Once the older record of a native satellite is known too, the bridge leads there. -/
theorem bridges_improve_native :
    ∃ state other : State Curve.full, ∃ entry better,
      state.BridgesTo "linux/arm64" entry ∧ entry.nativeArch = "amd64" ∧
      other.BridgesTo "linux/arm64" better ∧ better.nativeArch = "arm64" ∧
      entry.rank "arm64" ≤ better.rank "arm64" := by
  have running : Transition.run
      (Bridge.step ⟨"/tmp", armFound [armRecord 6 "amd64" 20], fun _ => true⟩)
      (.initial (fun _ => none) ["linux/arm64"]) [.add] = some _ := rfl
  have otherRunning : Transition.run
      (Bridge.step ⟨"/run", armFound [armRecord 1 "arm64" 10, armRecord 6 "amd64" 20],
        fun _ => true⟩)
      (.initial (fun _ => none) ["linux/arm64"]) [.add] = some _ := rfl
  have included : ∀ record,
      (.ok record : Except String _) ∈ [armRecord 6 "amd64" 20].map Except.ok →
        (.ok record : Except String _) ∈
          [armRecord 1 "arm64" 10, armRecord 6 "amd64" 20].map Except.ok :=
    fun _ listed => List.mem_cons_of_mem _ listed
  obtain ⟨arch, entry, better, extracted, selected, chosen, leads, otherLeads, improved⟩ :=
    bridges_improve .identity (fun _ held => held) included (discoverSatellites_map_ok _ _ _)
      (discoverSatellites_map_ok _ _ _) (List.Subset.refl _) ⟨_, running⟩ rfl ⟨_, otherRunning⟩
      rfl (by decide : "linux/arm64" ∈ _)
  cases extracted
  cases selected
  cases chosen
  exact ⟨_, _, _, _, leads, rfl, otherLeads, rfl, improved⟩

end Bridge

end OrbitBuild
