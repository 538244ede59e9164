import OrbitBuild.MissionControl.Preference

/-! # Whether a bridge leads to a node that is up

A node that crashes leaves an idle entry behind, and nothing takes it away. Mission
Control only compares entries, so it is the entries of the nodes that are up that have to
keep it away from the others: each entry of a node that is down has to be outranked. In
particular a native satellite that has crashed is preferred to one that emulates the
platform, however long ago it crashed.
-/

namespace OrbitBuild

variable {curve : Curve} {Blob : Type}

namespace Constellation

/-- Whatever the order of the query: a bridge for the platform leads to a node that is up. -/
def BridgesUp (codec : EntryCodec curve Blob) (present : Blob → Bool)
    (state : Constellation curve Blob) (platform : String) : Prop :=
  ∀ (queried : List (DocEntry Blob)) (found : List (String × SatelliteEntry curve)),
    queried.Perm state.doc.satelliteEntries →
    discoverSatellites codec present (queried.map .ok) = .ok found →
    ∀ socketDir accepts bridge,
      Bridge.Setup.bridge ⟨socketDir, found, accepts⟩ platform = .ok (some bridge) →
        (state.active bridge.satelliteAddr.id).isSome

/-- Every word of a node that is down is outranked by one of a node that is up. -/
def Outranked (state : Constellation curve Blob) (words : List (Word curve))
    (arch platform : String) : Prop :=
  ∀ word ∈ words, word.entry.serves arch platform = true → state.active word.node = none →
    ∃ other ∈ words, other.entry.serves arch platform = true ∧
      (state.active other.node).isSome ∧ word.entry.rank arch < other.entry.rank arch

instance (state : Constellation curve Blob) (words : List (Word curve)) (arch platform : String) :
    Decidable (Outranked state words arch platform) :=
  inferInstanceAs (Decidable (∀ word ∈ words, word.entry.serves arch platform = true →
    state.active word.node = none → ∃ other ∈ words, other.entry.serves arch platform = true ∧
      (state.active other.node).isSome ∧ word.entry.rank arch < other.entry.rank arch))

section Availability

variable {codec : EntryCodec curve Blob} {actions : List (Action curve)}
  {final : Constellation curve Blob} {present : Blob → Bool} {platform arch : String}

/-- A word that is heard comes last in some order of the query. -/
theorem exists_discovered_last
    (reached : Transition.run (step codec) initial actions = some final) {word : Word curve}
    (listens : word ∈ heard codec present actions) :
    ∃ (queried : List (DocEntry Blob)) (before : List (String × SatelliteEntry curve)),
      queried.Perm final.doc.satelliteEntries ∧
        discoverSatellites codec present (queried.map .ok) = .ok (before ++ [word.element]) := by
  obtain ⟨lasts, held⟩ := List.mem_filter.mp listens
  have recorded : word.record codec ∈ final.doc.satelliteEntries := by
    rw [(Honest.of_reachable ⟨actions, reached⟩).records.satelliteEntries,
      records_eq_lastWords reached]
    exact List.mem_map_of_mem lasts
  obtain ⟨before, after, split⟩ := List.append_of_mem recorded
  refine ⟨before ++ after ++ [word.record codec],
    (before ++ after).filterMap (discoverEntry codec present), ?_, ?_⟩
  · rw [split]
    exact (List.perm_append_singleton _ _).trans List.perm_middle.symm
  · rw [discoverSatellites_map_ok, List.filterMap_append, List.filterMap_cons,
      discoverEntry_record, if_pos held, List.filterMap_nil]

/-- If no entry outranks the last one, the last one is selected. -/
theorem selected_last (extracted : platformToArch platform = .ok arch)
    {before : List (String × SatelliteEntry curve)} {element : String × SatelliteEntry curve}
    (serves : element.2.serves arch platform = true)
    (greatest : ∀ other ∈ before, other.2.serves arch platform = true →
      other.2.rank arch ≤ element.2.rank arch) :
    selectSatelliteForPlatform (before ++ [element]) platform = .ok (some element.2) := by
  rw [selected_eq_maxByKey _ extracted, Except.ok.injEq]
  apply Selection.maxByKey_eq_some.mpr
  refine ⟨(before.map Prod.snd).filter (SatelliteEntry.serves arch platform), [], ?_, ?_, nofun⟩
  · rw [List.map_append, List.filter_append, List.map_cons, List.map_nil, List.filter_singleton,
      serves]
    rfl
  · intro entry passed
    obtain ⟨listed, able⟩ := List.mem_filter.mp passed
    obtain ⟨other, member, rfl⟩ := List.mem_map.mp listed
    exact greatest other member able

/-- A word of a node that is down and that no word of a node that is up outranks can be
chosen so that no word at all outranks it. -/
theorem exists_greatest_down {words : List (Word curve)} {word : Word curve}
    (spoken : word ∈ words) (serves : word.entry.serves arch platform = true)
    (down : final.active word.node = none)
    (unmatched : ∀ other ∈ words, other.entry.serves arch platform = true →
      (final.active other.node).isSome → other.entry.rank arch ≤ word.entry.rank arch) :
    ∃ best ∈ words, best.entry.serves arch platform = true ∧ final.active best.node = none ∧
      ∀ other ∈ words, other.entry.serves arch platform = true →
        other.entry.rank arch ≤ best.entry.rank arch := by
  have candidate : word ∈ words.filter fun word =>
      word.entry.serves arch platform && (final.active word.node).isNone := by
    rw [List.mem_filter, serves, down]
    exact ⟨spoken, rfl⟩
  obtain ⟨best, chosen⟩ : ∃ best, Selection.maxByKey (fun word => word.entry.rank arch)
      (words.filter fun word =>
        word.entry.serves arch platform && (final.active word.node).isNone) = some best := by
    apply Option.ne_none_iff_exists'.mp
    intro none
    rw [Selection.maxByKey_eq_none.mp none] at candidate
    exact List.not_mem_nil candidate
  obtain ⟨listed, passes⟩ := List.mem_filter.mp (Selection.maxByKey_mem chosen)
  obtain ⟨able, absent⟩ := Bool.and_eq_true_iff.mp passes
  refine ⟨best, listed, able, Option.isNone_iff_eq_none.mp absent, ?_⟩
  intro other member otherServes
  cases running : final.active other.node with
  | some active =>
      have below := unmatched other member otherServes (by rw [running]; rfl)
      have top := Selection.le_of_maxByKey chosen candidate
      exact below.trans top
  | none =>
      apply Selection.le_of_maxByKey chosen
      rw [List.mem_filter, otherServes, running]
      exact ⟨member, rfl⟩

/-- **Availability.** After any history of satellites: whatever the order of the query, every
bridge that can be set up for the platform leads to a node that is up, if and only if each
last word that serves the platform and was spoken by a node that is down is outranked by
one of a node that is up. -/
theorem bridgesUp_iff (codec : EntryCodec curve Blob) {actions : List (Action curve)}
    {final : Constellation curve Blob}
    (reached : Transition.run (step codec) initial actions = some final) (present : Blob → Bool)
    {platform arch : String} (extracted : platformToArch platform = .ok arch) :
    BridgesUp codec present final platform ↔
      Outranked final (heard codec present actions) arch platform := by
  constructor
  · intro leads word spoken serves down
    by_contra unmatched
    obtain ⟨best, listens, able, absent, greatest⟩ := exists_greatest_down spoken serves down
      fun other member otherServes running =>
        not_lt.mp fun better => unmatched ⟨other, member, otherServes, running, better⟩
    obtain ⟨queried, before, order, discovered⟩ := exists_discovered_last reached listens
    have same := discovered_perm_heard reached order discovered
    have selected : selectSatelliteForPlatform (before ++ [best.element]) platform =
        .ok (some best.entry) := by
      apply selected_last extracted able
      intro other member otherServes
      obtain ⟨spokenOther, inside, rfl⟩ :=
        List.mem_map.mp (same.mem_iff.mp (List.mem_append_left _ member))
      exact greatest spokenOther inside otherServes
    obtain ⟨bridge, built⟩ :=
      (Bridge.Setup.bridge_isSome_iff ⟨"/tmp", before ++ [best.element], fun _ => true⟩
        extracted).mpr ⟨best.entry, selected⟩
    have running := leads queried _ order discovered "/tmp" (fun _ => true) bridge built
    obtain ⟨-, -, entry, chosen, address⟩ := Bridge.Setup.bridge_eq_some built
    cases chosen.symm.trans selected
    rw [address, address_of_heard reached listens (SatelliteEntry.idle_of_serves able),
      absent] at running
    cases running
  · intro outranked queried found order discovered socketDir accepts bridge built
    have same := discovered_perm_heard reached order discovered
    obtain ⟨-, -, entry, selected, address⟩ := Bridge.Setup.bridge_eq_some built
    obtain ⟨word, listens, rfl, leads, -⟩ := selected_heard reached same extracted selected
    rw [address, leads]
    by_contra stopped
    rw [selected_eq_maxByKey found extracted, Except.ok.injEq] at selected
    have serves := (List.mem_filter.mp (Selection.maxByKey_mem selected)).2
    obtain ⟨other, spoken, able, -, better⟩ := outranked word listens serves
      (Option.not_isSome_iff_eq_none.mp stopped)
    have listed : other.element ∈ found := same.mem_iff.mpr (List.mem_map_of_mem spoken)
    have bounded := Selection.le_of_maxByKey selected
      (List.mem_filter.mpr ⟨List.mem_map_of_mem listed, able⟩)
    exact absurd better bounded.not_gt

end Availability

/-- The amd64 node has crashed, and then an arm64 node that emulates amd64 has joined. -/
def emulatedActions : List (Action Curve.full) :=
  crashedActions 10 ++ [.start Join.arm64Join [], .run Join.arm64Join.nodeId (.register 20)]

/-- Builds for arm64 arrive at the node that is up. Those for amd64 do not: the entry that the
crash has left is native, and that is what counts first. -/
theorem bridgesUp_emulated :
    ∃ final, Transition.run (step .identity) initial emulatedActions = some final ∧
      BridgesUp .identity (fun _ => true) final "linux/arm64" ∧
      ¬BridgesUp .identity (fun _ => true) final "linux/amd64" := by
  obtain ⟨final, reached⟩ :
      ∃ final, Transition.run (step .identity) initial emulatedActions = some final := ⟨_, rfl⟩
  have arm64 : platformToArch "linux/arm64" = .ok "arm64" := rfl
  have amd64 : platformToArch "linux/amd64" = .ok "amd64" := rfl
  refine ⟨final, reached, ?_, ?_⟩
  · apply (bridgesUp_iff .identity reached (fun _ => true) arm64).mpr
    cases reached
    decide
  · intro leads
    have outranked := (bridgesUp_iff .identity reached (fun _ => true) amd64).mp leads
    cases reached
    revert outranked
    decide

end Constellation

end OrbitBuild
