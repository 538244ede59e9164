import OrbitBuild.MissionControl.Discover
import OrbitBuild.Satellite.Join

/-! # Advertised platforms and the selection

A satellite advertises `linux/<native_arch>` and the extra platforms it was given. The
emulated pass of the selection compares whole platforms, the native pass compares the
last segment only. Every advertised platform can be requested, and is served by some
satellite; a platform with more than two segments may be served by one that does not
advertise it.
-/

namespace OrbitBuild

variable {curve : Curve}

/-- The entry was written by a run on an architecture whose name is one segment. -/
def Published (element : String × SatelliteEntry curve) : Prop :=
  ∃ config : JoinConfig curve, '/' ∉ config.nativeArch.toList ∧ config.Writes element.2

/-- What is selected for the platform advertises it. -/
def SelectsAdvertised (entries : List (String × SatelliteEntry curve)) (platform : String) : Prop :=
  ∀ entry, selectSatelliteForPlatform entries platform = .ok (some entry) →
    platform ∈ entry.platforms

/-- The newest idle satellite that is native for the architecture, the last of them
where several are, advertises the platform. -/
def NewestAdvertises (entries : List (String × SatelliteEntry curve)) (arch platform : String) :
    Prop :=
  ∀ before element after,
    (entries.filter fun element => element.2.isNative arch) = before ++ element :: after →
    (∀ other ∈ before, other.2.registeredAt.toNat ≤ element.2.registeredAt.toNat) →
    (∀ other ∈ after, other.2.registeredAt.toNat < element.2.registeredAt.toNat) →
    platform ∈ element.2.platforms

/-- Every entry of a satellite has its own architecture and platforms. -/
theorem JoinConfig.Writes.native {config : JoinConfig curve} {entry : SatelliteEntry curve}
    (writes : config.Writes entry) :
    entry.nativeArch = config.nativeArch ∧ entry.platforms = config.platforms := by
  cases writes with
  | idle addrs now => exact ⟨rfl, rfl⟩
  | offline now => exact ⟨rfl, rfl⟩

/-- A satellite advertises the platform of its own architecture. -/
theorem Published.native_mem {element : String × SatelliteEntry curve}
    (published : Published element) : "linux/" ++ element.2.nativeArch ∈ element.2.platforms := by
  obtain ⟨config, -, writes⟩ := published
  obtain ⟨arch, platforms⟩ := writes.native
  rw [arch, platforms]
  exact List.mem_cons_self

/-- `arch_str` returns neither `aarch64` nor `x86_64`. -/
theorem archStr_ne_alias (target : String) :
    archStr target ≠ "aarch64" ∧ archStr target ≠ "x86_64" := by
  unfold archStr
  split
  · decide
  · decide
  · decide
  · decide
  · next arm _ amd _ => exact ⟨arm, amd⟩

/-- `arch_str` keeps all other names. -/
theorem archStr_of_ne_alias {arch : String} (arm : arch ≠ "aarch64") (amd : arch ≠ "x86_64") :
    archStr arch = arch := by
  unfold archStr
  split
  · exact absurd rfl arm
  · rfl
  · exact absurd rfl amd
  · rfl
  · rfl

/-- No satellite has an architecture that `arch_str` gives another name. -/
theorem Published.nativeArch_ne_alias {element : String × SatelliteEntry curve}
    (published : Published element) :
    element.2.nativeArch ≠ "aarch64" ∧ element.2.nativeArch ≠ "x86_64" := by
  obtain ⟨config, -, writes⟩ := published
  rw [writes.native.1]
  exact archStr_ne_alias config.target

/-- The entry of a host that emulates nothing. -/
def soloEntry (curve : Curve) (target : String) : String × SatelliteEntry curve :=
  ("", JoinConfig.idleEntry ⟨.zero, target, none⟩ (EndpointAddr.new .zero) 0)

/-- A host of the architecture writes this entry, where `arch_str` keeps its name. -/
theorem soloEntry_published {arch : String} (segment : '/' ∉ arch.toList)
    (own : archStr arch = arch) : Published (soloEntry curve arch) := by
  refine ⟨⟨.zero, arch, none⟩, ?_, .idle [] 0⟩
  rw [JoinConfig.nativeArch, own]
  exact segment

section Soundness

variable {platform arch : String}

/-- What is selected for a platform advertises it exactly if it is the platform of its own
architecture, or the newest satellite of that architecture advertises it. -/
theorem selectsAdvertised_iff (extracted : platformToArch platform = .ok arch)
    {entries : List (String × SatelliteEntry curve)}
    (published : ∀ element ∈ entries, Published element) :
    SelectsAdvertised entries platform ↔
      platform = "linux/" ++ arch ∨ NewestAdvertises entries arch platform := by
  constructor
  · intro sound
    right
    intro before element after split older newer
    have native := Selection.maxByKey_eq_some.mpr ⟨before, after, split, older, newer⟩
    apply sound
    rw [selectSatelliteForPlatform_eq_some]
    exact ⟨element, by rw [selectElement_eq extracted, native, Option.some_or], rfl⟩
  · intro either entry selected
    obtain ⟨element, chosen, rfl⟩ := selectSatelliteForPlatform_eq_some.mp selected
    rw [selectElement_eq extracted, Except.ok.injEq, Option.or_eq_some_iff] at chosen
    rcases chosen with native | ⟨-, emulated⟩
    · rcases either with rfl | newest
      · obtain ⟨member, isNative⟩ := List.mem_filter.mp (Selection.maxByKey_mem native)
        have advertised := (published element member).native_mem
        rwa [(SatelliteEntry.isNative_iff.mp isNative).2] at advertised
      · obtain ⟨before, after, split, older, newer⟩ := Selection.maxByKey_eq_some.mp native
        exact newest before element after split older newer
    · obtain ⟨-, isEmulated⟩ := List.mem_filter.mp (Selection.maxByKey_mem emulated)
      exact (SatelliteEntry.isEmulated_iff.mp isEmulated).2

/-- A platform with further segments is given to a solo satellite of its last segment. -/
theorem soloEntry_selected (extracted : platformToArch platform = .ok arch)
    (own : archStr arch = arch) :
    selectSatelliteForPlatform [soloEntry curve arch] platform =
      .ok (some (soloEntry curve arch).2) := by
  have native : (soloEntry curve arch).2.isNative arch = true :=
    SatelliteEntry.isNative_iff.mpr ⟨rfl, own⟩
  rw [selectSatelliteForPlatform_eq_some]
  refine ⟨soloEntry curve arch, ?_, rfl⟩
  rw [selectElement_eq extracted, List.filter_cons, if_pos native]
  rfl

/-- For which platforms the selection is sound whatever satellites there are. -/
theorem selectsAdvertised_always_iff (extracted : platformToArch platform = .ok arch) :
    (∀ entries : List (String × SatelliteEntry curve), (∀ element ∈ entries, Published element) →
      SelectsAdvertised entries platform) ↔
      platform = "linux/" ++ arch ∨ arch = "aarch64" ∨ arch = "x86_64" := by
  constructor
  · intro always
    by_cases arm : arch = "aarch64"
    · exact Or.inr (Or.inl arm)
    by_cases amd : arch = "x86_64"
    · exact Or.inr (Or.inr amd)
    left
    have own := archStr_of_ne_alias arm amd
    have published : ∀ element ∈ [soloEntry curve arch], Published element := by
      intro element member
      rw [List.mem_singleton.mp member]
      exact soloEntry_published (not_mem_of_platformToArch extracted) own
    have advertised := always _ published _ (soloEntry_selected extracted own)
    have only : (soloEntry curve arch).2.platforms = ["linux/" ++ arch] := by
      change ["linux/" ++ archStr arch] = ["linux/" ++ arch]
      rw [own]
    rw [only] at advertised
    exact List.mem_singleton.mp advertised
  · intro either entries published
    rw [selectsAdvertised_iff extracted published]
    apply either.imp_right
    intro renamed before element after split
    have member : element ∈ entries.filter fun element => element.2.isNative arch := by
      rw [split]
      exact List.mem_append_right _ List.mem_cons_self
    obtain ⟨listed, isNative⟩ := List.mem_filter.mp member
    have named := (SatelliteEntry.isNative_iff.mp isNative).2
    obtain ⟨arm, amd⟩ := (published element listed).nativeArch_ne_alias
    rw [named] at arm amd
    exact (renamed.elim arm amd).elim

/-- **Soundness of the selection.** For an accepted platform, the selected satellite
advertises it exactly when the platform is `linux/<arch>` or the newest idle native
satellite of its last segment, if there is one, advertises it. Whatever satellites
there are, only platforms of two segments are safe, and those whose last segment is no
satellite's architecture. -/
theorem selection_sound_iff {text : String} {accepted : List String}
    (parsed : parsePlatforms text = .ok accepted) (member : platform ∈ accepted) :
    ∃ arch, platformToArch platform = .ok arch ∧
      (∀ entries : List (String × SatelliteEntry curve),
        (∀ element ∈ entries, Published element) →
          (SelectsAdvertised entries platform ↔
            platform = "linux/" ++ arch ∨ NewestAdvertises entries arch platform)) ∧
      ((∀ entries : List (String × SatelliteEntry curve),
        (∀ element ∈ entries, Published element) → SelectsAdvertised entries platform) ↔
          platform = "linux/" ++ arch ∨ arch = "aarch64" ∨ arch = "x86_64") := by
  obtain ⟨arch, extracted⟩ := platformToArch_isOk_of_parsePlatforms parsed member
  exact ⟨arch, extracted, fun _ published => selectsAdvertised_iff extracted published,
    selectsAdvertised_always_iff extracted⟩

end Soundness

def amd64Element : String × SatelliteEntry Curve.full :=
  (Join.amd64Join.nodeId.display, Join.amd64Join.idleEntry ⟨Join.amd64Join.nodeId, []⟩ 10)

/-- The element is one that a satellite has written. -/
theorem amd64Element_published : ∀ element ∈ [amd64Element], Published element := by
  intro element member
  rw [List.mem_singleton.mp member]
  exact ⟨Join.amd64Join, by decide, .idle [] 10⟩

theorem amd64_selectsAdvertised :
    parsePlatforms "linux/amd64" = .ok ["linux/amd64"] ∧
      selectSatelliteForPlatform [amd64Element] "linux/amd64" = .ok (some amd64Element.2) ∧
      SelectsAdvertised [amd64Element] "linux/amd64" := by
  have parsed : parsePlatforms "linux/amd64" = .ok ["linux/amd64"] := by decide
  obtain ⟨arch, extracted, each, -⟩ :=
    @selection_sound_iff Curve.full "linux/amd64" _ _ parsed List.mem_cons_self
  cases extracted
  exact ⟨parsed, rfl, (each _ amd64Element_published).mpr (Or.inl rfl)⟩

/-- The native pass accepts an empty segment before the architecture. -/
theorem emptySegment_unadvertised :
    parsePlatforms "linux//amd64" = .ok ["linux//amd64"] ∧
      (∀ element ∈ [amd64Element], Published element) ∧
      selectSatelliteForPlatform [amd64Element] "linux//amd64" = .ok (some amd64Element.2) ∧
      ¬ SelectsAdvertised [amd64Element] "linux//amd64" := by
  refine ⟨by decide, amd64Element_published, rfl, ?_⟩
  intro sound
  have advertised := sound _ rfl
  revert advertised
  decide

/-! ## Requesting what is advertised -/

/-- Parsing an accepted piece again yields that piece alone. -/
theorem parsePlatforms_self {platform : String} (whole : ',' ∉ platform.toList)
    (trimmed : Text.trim platform = platform)
    (linux : Text.startsWith platform "linux/" = true) :
    parsePlatforms platform = .ok [platform] := by
  have nonempty : platform ≠ "" := by
    rintro rfl
    exact absurd linux (by decide)
  have pieces : platformPieces platform = [platform] := by
    rw [platformPieces, Text.split_of_not_mem whole, List.map_singleton, trimmed]
    exact List.filter_cons_of_pos (decide_eq_true nonempty)
  rw [parsePlatforms_eq_ok, pieces]
  refine ⟨rfl, List.cons_ne_nil _ _, ?_⟩
  intro piece member
  rw [List.mem_singleton.mp member]
  exact linux

/-- A platform that a satellite has accepted can be requested. -/
theorem parsePlatforms_extra {text platform : String} {extras : List String}
    (parsed : parseSatellitePlatforms text = .ok extras) (member : platform ∈ extras) :
    parsePlatforms platform = .ok [platform] := by
  obtain ⟨rfl, linux⟩ := ensureLinux_eq_ok.mp parsed
  obtain ⟨listed, -⟩ := List.mem_filter.mp member
  obtain ⟨piece, split, rfl⟩ := List.mem_map.mp listed
  refine parsePlatforms_self ?_ (Text.trim_trim piece) (linux _ member)
  intro inside
  exact Text.not_mem_of_mem_split split (Text.mem_of_mem_trim inside)

/-- A name without `/`, comma or blank. -/
def SimpleName (arch : String) : Prop :=
  ∀ c ∈ arch.toList, c ≠ '/' ∧ c ≠ ',' ∧ Text.isWhiteSpace c = false

instance SimpleName.decidable (arch : String) : Decidable (SimpleName arch) :=
  decidable_of_iff
    (arch.toList.all (fun c => c != '/' && c != ',' && !Text.isWhiteSpace c) = true)
    (by simp only [SimpleName, List.all_eq_true, Bool.and_eq_true, bne_iff_ne, ne_eq,
      Bool.not_eq_true', and_assoc])

/-- The platform of a simple architecture can be requested. -/
theorem parsePlatforms_native {arch : String} (simple : SimpleName arch) :
    parsePlatforms ("linux/" ++ arch) = .ok ["linux/" ++ arch] := by
  have chars : ("linux/" ++ arch).toList = "linux/".toList ++ arch.toList := String.toList_append
  refine parsePlatforms_self ?_ (Text.trim_of_solid ?_) ?_
  · rw [chars, List.mem_append]
    intro either
    rcases either with front | inside
    · exact absurd front (by decide)
    · exact (simple _ inside).2.1 rfl
  · rw [chars]
    intro c member
    rcases List.mem_append.mp member with front | inside
    · have solid : "linux/".toList.all (fun c => !Text.isWhiteSpace c) = true := by decide
      simpa using List.all_eq_true.mp solid c front
    · exact (simple c inside).2.2
  · rw [Text.startsWith, chars]
    exact List.isPrefixOf_iff_prefix.mpr (List.prefix_append ..)

/-- An idle entry that lists the platform is enough for a selection. -/
theorem selected_of_listed {entries : List (String × SatelliteEntry curve)} {platform arch : String}
    (extracted : platformToArch platform = .ok arch) {element : String × SatelliteEntry curve}
    (member : element ∈ entries) (idle : element.2.status = "idle")
    (listed : platform ∈ element.2.platforms) :
    ∃ entry, selectSatelliteForPlatform entries platform = .ok (some entry) := by
  have emulated : element ∈ entries.filter fun element => element.2.isEmulated platform :=
    List.mem_filter.mpr ⟨member, SatelliteEntry.isEmulated_iff.mpr ⟨idle, listed⟩⟩
  simp only [selectSatelliteForPlatform_eq_some, selectElement_eq extracted, Except.ok.injEq]
  cases native : Selection.maxByKey (fun element => element.2.registeredAt.toNat)
      (entries.filter fun element => element.2.isNative arch) with
  | some element => exact ⟨element.2, element, rfl, rfl⟩
  | none =>
      cases fallback : Selection.maxByKey (fun element => element.2.registeredAt.toNat)
          (entries.filter fun element => element.2.isEmulated platform) with
      | some element => exact ⟨element.2, element, rfl, rfl⟩
      | none =>
          rw [Selection.maxByKey_eq_none.mp fallback] at emulated
          exact (List.not_mem_nil emulated).elim

/-- **Advertised platforms are served.** Every platform a satellite advertises is
accepted by Mission Control's parser as it stands, has an architecture, and is given
to some satellite as long as the advertising one is idle. -/
theorem advertised_served {text : String} {extras : List String} (config : JoinConfig curve)
    (parsed : parseSatellitePlatforms text = .ok extras)
    (given : config.extraPlatforms = some extras) (simple : SimpleName config.nativeArch)
    {platform : String} (advertised : platform ∈ config.platforms) :
    parsePlatforms platform = .ok [platform] ∧
      (∃ arch, platformToArch platform = .ok arch) ∧
      ∀ entries : List (String × SatelliteEntry curve), ∀ nodeId addr now,
        (nodeId, config.idleEntry addr now) ∈ entries →
          ∃ entry, selectSatelliteForPlatform entries platform = .ok (some entry) := by
  have accepted : parsePlatforms platform = .ok [platform] := by
    rcases List.mem_cons.mp advertised with rfl | extra
    · exact parsePlatforms_native simple
    · rw [given, Option.getD_some] at extra
      exact parsePlatforms_extra parsed (List.mem_of_mem_filter extra)
  obtain ⟨arch, extracted⟩ := platformToArch_isOk_of_parsePlatforms accepted List.mem_cons_self
  refine ⟨accepted, ⟨arch, extracted⟩, ?_⟩
  intro entries nodeId addr now member
  exact selected_of_listed extracted member rfl advertised

/-- An arm64 host that emulates a platform with a blank inside, among others. -/
def spacedJoin : JoinConfig Curve.full :=
  ⟨.ofByte 3, "aarch64", some ["linux/my arch", "linux/arm64"]⟩

theorem spaced_served :
    parseSatellitePlatforms " linux/my arch ,,linux/arm64" = .ok ["linux/my arch", "linux/arm64"] ∧
      parsePlatforms "linux/my arch" = .ok ["linux/my arch"] ∧
      ∃ entry, selectSatelliteForPlatform
        [("", spacedJoin.idleEntry ⟨spacedJoin.nodeId, []⟩ 10)] "linux/my arch" =
          .ok (some entry) := by
  have parsed : parseSatellitePlatforms " linux/my arch ,,linux/arm64" =
      .ok ["linux/my arch", "linux/arm64"] := by decide
  have advertised : "linux/my arch" ∈ spacedJoin.platforms := by decide
  obtain ⟨accepted, -, served⟩ :=
    advertised_served spacedJoin parsed rfl (by decide) advertised
  exact ⟨parsed, accepted, served _ "" _ 10 List.mem_cons_self⟩

end OrbitBuild
