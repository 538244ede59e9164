import OrbitBuild.MissionControl.Discover

/-! # Which satellite is selected

An idle native satellite comes before an idle one that only advertises the platform,
and within a class the most recent registration wins. Of entries registered at the
same time either may be returned, so what does not depend on the order of the list is
the class of the result and its time of registration.
-/

namespace OrbitBuild

variable {curve : Curve}

/-- What is known of a selected entry: its class, and that none of it is more recent. -/
structure SelectedEntry (entries : List (String × SatelliteEntry curve)) (arch platform : String)
    (entry : SatelliteEntry curve) : Prop where
  listed : ∃ nodeId, (nodeId, entry) ∈ entries
  idle : entry.status = "idle"
  native : (∃ element ∈ entries, element.2.isNative arch = true) →
    entry.isNative arch = true ∧
      ∀ element ∈ entries, element.2.isNative arch = true →
        element.2.registeredAt ≤ entry.registeredAt
  emulated : (∀ element ∈ entries, element.2.isNative arch = false) →
    entry.isEmulated platform = true ∧
      ∀ element ∈ entries, element.2.isEmulated platform = true →
        element.2.registeredAt ≤ entry.registeredAt

/-- The class of a selected entry and its time of registration. -/
def SatelliteEntry.standing (arch : String) (entry : SatelliteEntry curve) : Bool × UInt64 :=
  (entry.isNative arch, entry.registeredAt)

/-- One pass of the selection: the most recent entry that meets the condition. -/
def mostRecent (entries : List (String × SatelliteEntry curve))
    (pass : SatelliteEntry curve → Bool) : Option (String × SatelliteEntry curve) :=
  Selection.maxByKey (fun element => element.2.registeredAt.toNat)
    (entries.filter fun element => pass element.2)

section Pass

variable {entries : List (String × SatelliteEntry curve)} {pass : SatelliteEntry curve → Bool}

/-- There is no most recent entry where none passes. -/
theorem mostRecent_eq_none :
    mostRecent entries pass = none ↔ ∀ element ∈ entries, pass element.2 = false := by
  simp only [mostRecent, Selection.maxByKey_eq_none, List.filter_eq_nil_iff, Bool.not_eq_true]

/-- The most recent entry is one that passes. -/
theorem mostRecent_mem {element : String × SatelliteEntry curve}
    (found : mostRecent entries pass = some element) : element ∈ entries ∧ pass element.2 = true :=
  List.mem_filter.mp (Selection.maxByKey_mem found)

/-- No entry that passes is more recent. -/
theorem registeredAt_le_mostRecent {element best : String × SatelliteEntry curve}
    (found : mostRecent entries pass = some best) (member : element ∈ entries)
    (passed : pass element.2 = true) : element.2.registeredAt ≤ best.2.registeredAt := by
  rw [UInt64.le_iff_toNat_le]
  unfold mostRecent at found
  have bound := Selection.le_of_maxByKey found (List.mem_filter.mpr ⟨member, passed⟩)
  exact bound

/-- Entries that a pass does not consider may come and go in any order. -/
theorem mostRecent_registeredAt_congr (pass : SatelliteEntry curve → Bool)
    {others added : List (String × SatelliteEntry curve)} (same : others.Perm (entries ++ added))
    (irrelevant : ∀ element ∈ added, pass element.2 = false) :
    (mostRecent others pass).map (fun element => element.2.registeredAt) =
      (mostRecent entries pass).map fun element => element.2.registeredAt := by
  have members : ∀ element, element ∈ others.filter (fun element => pass element.2) ↔
      element ∈ entries.filter fun element => pass element.2 := by
    intro element
    rw [List.mem_filter, List.mem_filter, same.mem_iff, List.mem_append]
    constructor
    · intro both
      obtain ⟨either, passed⟩ := both
      rcases either with inside | extra
      · exact ⟨inside, passed⟩
      · simp [irrelevant element extra] at passed
    · intro both
      exact ⟨Or.inl both.1, both.2⟩
  have keys : (mostRecent others pass).map (fun element => element.2.registeredAt.toNat) =
      (mostRecent entries pass).map fun element => element.2.registeredAt.toNat :=
    Selection.map_maxByKey_congr members
  have times := congrArg (Option.map UInt64.ofNat) keys
  simpa only [Option.map_map, Function.comp_def, UInt64.ofNat_toNat] using times

end Pass

/-! ## The two passes -/

section Selection

variable {entries : List (String × SatelliteEntry curve)} {platform arch : String}

/-- The most recent native entry is selected, or else the most recent emulated one. -/
theorem selectSatelliteForPlatform_eq (entries : List (String × SatelliteEntry curve))
    (extracted : platformToArch platform = .ok arch) :
    selectSatelliteForPlatform entries platform =
      .ok (((mostRecent entries (·.isNative arch)).or
        (mostRecent entries (·.isEmulated platform))).map Prod.snd) := by
  rw [selectSatelliteForPlatform, selectElement_eq extracted]
  rfl

/-- Nothing is selected exactly if no entry is native or emulated. -/
theorem selected_none_iff (extracted : platformToArch platform = .ok arch) :
    selectSatelliteForPlatform entries platform = .ok none ↔
      ∀ element ∈ entries, element.2.isNative arch = false ∧
        element.2.isEmulated platform = false := by
  rw [selectSatelliteForPlatform_eq entries extracted, Except.ok.injEq, Option.map_eq_none_iff,
    Option.or_eq_none_iff, mostRecent_eq_none, mostRecent_eq_none]
  exact forall₂_and.symm

/-- What is selected is native if any entry is, and the most recent of its kind. -/
theorem selected_spec (extracted : platformToArch platform = .ok arch)
    {entry : SatelliteEntry curve}
    (selected : selectSatelliteForPlatform entries platform = .ok (some entry)) :
    SelectedEntry entries arch platform entry := by
  rw [selectSatelliteForPlatform_eq entries extracted, Except.ok.injEq,
    Option.map_eq_some_iff] at selected
  obtain ⟨⟨nodeId, _⟩, found, rfl⟩ := selected
  rcases Option.or_eq_some_iff.mp found with native | ⟨absent, emulated⟩
  · obtain ⟨member, passed⟩ := mostRecent_mem native
    refine ⟨⟨nodeId, member⟩, (SatelliteEntry.isNative_iff.mp passed).1, fun _ => ?_, ?_⟩
    · exact ⟨passed, fun other => registeredAt_le_mostRecent native⟩
    · intro none
      rw [none _ member] at passed
      cases passed
  · obtain ⟨member, passed⟩ := mostRecent_mem emulated
    refine ⟨⟨nodeId, member⟩, (SatelliteEntry.isEmulated_iff.mp passed).1, ?_, fun _ => ?_⟩
    · intro both
      obtain ⟨other, inside, isNative⟩ := both
      rw [mostRecent_eq_none.mp absent other inside] at isNative
      cases isNative
    · exact ⟨passed, fun other => registeredAt_le_mostRecent emulated⟩

/-- The standing of the selected entry, pass by pass. -/
theorem standing_eq (entries : List (String × SatelliteEntry curve)) (arch platform : String) :
    ((mostRecent entries (·.isNative arch)).or (mostRecent entries (·.isEmulated platform))).map
        (fun element => element.2.standing arch) =
      (((mostRecent entries (·.isNative arch)).map fun element => element.2.registeredAt).map
          (Prod.mk true)).or
        (((mostRecent entries (·.isEmulated platform)).map fun element =>
          element.2.registeredAt).map (Prod.mk false)) := by
  cases native : mostRecent entries (·.isNative arch) with
  | some element =>
      have passed := (mostRecent_mem native).2
      simp only [Option.some_or, Option.map_some, SatelliteEntry.standing, passed]
  | none =>
      have absent := mostRecent_eq_none.mp native
      cases emulated : mostRecent entries (·.isEmulated platform) with
      | none => rfl
      | some element =>
          have notNative := absent element (mostRecent_mem emulated).1
          simp only [Option.none_or, Option.map_none, Option.map_some, SatelliteEntry.standing,
            notNative]

/-- **Selection by class and recency.** Nothing is selected exactly when no entry is
idle and native or idle and advertises the platform. Otherwise the result is the most
recent entry of the better class there is, and neither the order of the list nor
entries of no class change its class and its time of registration. -/
theorem selectSatelliteForPlatform_spec (slash : '/' ∈ platform.toList)
    (entries : List (String × SatelliteEntry curve)) :
    ∃ arch, platformToArch platform = .ok arch ∧
      ∃ selected, selectSatelliteForPlatform entries platform = .ok selected ∧
        (selected = none ↔ ∀ element ∈ entries, element.2.isNative arch = false ∧
          element.2.isEmulated platform = false) ∧
        (∀ entry, selected = some entry → SelectedEntry entries arch platform entry) ∧
        ∀ others added : List (String × SatelliteEntry curve), others.Perm (entries ++ added) →
          (∀ element ∈ added, element.2.isNative arch = false ∧
            element.2.isEmulated platform = false) →
          ∃ other, selectSatelliteForPlatform others platform = .ok other ∧
            other.map (·.standing arch) = selected.map (·.standing arch) := by
  obtain ⟨arch, extracted⟩ := platformToArch_isOk slash
  have found := selectSatelliteForPlatform_eq entries extracted
  refine ⟨arch, extracted, _, found, ?_, fun entry same => ?_, fun others added same extra => ?_⟩
  · rw [← selected_none_iff extracted, found, Except.ok.injEq]
  · exact selected_spec extracted (by rw [found, same])
  · refine ⟨_, selectSatelliteForPlatform_eq others extracted, ?_⟩
    have native := mostRecent_registeredAt_congr (·.isNative arch) same fun element member =>
      (extra element member).1
    have emulated := mostRecent_registeredAt_congr (·.isEmulated platform) same
      fun element member => (extra element member).2
    have standing := standing_eq others arch platform
    rw [native, emulated, ← standing_eq] at standing
    simpa only [Option.map_map, Function.comp_def] using standing

/-- A satellite of an architecture that emulates 64-bit Arm as well. -/
def armCapable (byte : UInt8) (arch status : String) (registeredAt : UInt64) :
    String × SatelliteEntry Curve.full :=
  ((PublicKey.ofByte byte).display,
    ⟨arch, ["linux/" ++ arch, "linux/arm64"], status, .new (.ofByte byte), registeredAt⟩)

/-- The native satellite is selected although the other one is more recent, also when
the list is turned around and a busy satellite is added. -/
theorem selectSatelliteForPlatform_spec_emulated :
    (∃ entry, selectSatelliteForPlatform
        [armCapable 1 "arm64" "idle" 10, armCapable 6 "amd64" "idle" 20] "linux/arm64" =
          .ok (some entry) ∧ entry.standing "arm64" = (true, 10)) ∧
      ∃ entry, selectSatelliteForPlatform [armCapable 3 "arm64" "busy" 30,
          armCapable 6 "amd64" "idle" 20, armCapable 1 "arm64" "idle" 10] "linux/arm64" =
            .ok (some entry) ∧ entry.standing "arm64" = (true, 10) := by
  have slash : '/' ∈ "linux/arm64".toList := by decide
  obtain ⟨arch, extracted, selected, found, -, -, stable⟩ := selectSatelliteForPlatform_spec slash
    [armCapable 1 "arm64" "idle" 10, armCapable 6 "amd64" "idle" 20]
  cases extracted
  cases found
  refine ⟨⟨_, rfl, by decide⟩, ?_⟩
  obtain ⟨other, again, same⟩ := stable [armCapable 3 "arm64" "busy" 30,
    armCapable 6 "amd64" "idle" 20, armCapable 1 "arm64" "idle" 10]
    [armCapable 3 "arm64" "busy" 30] (by decide) (by decide)
  obtain ⟨entry, rfl, standing⟩ := Option.map_eq_some_iff.mp same
  exact ⟨entry, again, standing⟩

end Selection

end OrbitBuild
