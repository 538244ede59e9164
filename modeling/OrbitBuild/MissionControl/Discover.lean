import OrbitBuild.Core.Doc
import OrbitBuild.Core.Platform
import OrbitBuild.Foundation.Selection

/-! # Discovering satellites and selecting one for a platform

Discovery reads every entry under the satellites' prefix, whoever wrote it, and
drops those whose blob is missing or does not decode. Selection prefers an idle
native satellite and takes the most recently registered one.
-/

namespace OrbitBuild

variable {curve : Curve} {Blob : Type}

/-- The content of a blob, if the local store holds it. The error names the hash of the blob
and the cause, and its callers only log it. -/
def readEntryBlob (present : Blob → Bool) (content : Blob) : Option Blob :=
  if present content then some content else none

/-- The pair a Doc entry yields, if its blob is present and decodes. -/
def discoverEntry (codec : EntryCodec curve Blob) (present : Blob → Bool) (entry : DocEntry Blob) :
    Option (String × SatelliteEntry curve) :=
  match stripPrefix satellitePrefix entry.key with
  | none => none
  | some nodeIdHexBytes =>
      match readEntryBlob present entry.value with
      | none => none
      | some valueBytes =>
          match codec.fromSlice valueBytes with
          | .error _ => none
          | .ok satEntry => some (Utf8.fromUtf8Lossy nodeIdHexBytes, satEntry)

/-- The pairs of node id and entry that a query stream yields. An error item of
the stream ends the discovery. -/
def discoverSatellites (codec : EntryCodec curve Blob) (present : Blob → Bool) :
    List (Except String (DocEntry Blob)) → Except String (List (String × SatelliteEntry curve))
  | [] => .ok []
  | .error error :: _ => .error ("failed to read doc entry: " ++ error)
  | .ok entry :: rest => do
      let tail ← discoverSatellites codec present rest
      return (discoverEntry codec present entry).toList ++ tail

/-- Idle and native for the architecture. -/
def SatelliteEntry.isNative (entry : SatelliteEntry curve) (arch : String) : Bool :=
  entry.status == "idle" && entry.nativeArch == arch

/-- Idle and advertising the platform. -/
def SatelliteEntry.isEmulated (entry : SatelliteEntry curve) (platform : String) : Bool :=
  entry.status == "idle" && entry.platforms.any (· == platform)

/-- The first pass takes idle satellites of the architecture. -/
theorem SatelliteEntry.isNative_iff {entry : SatelliteEntry curve} {arch : String} :
    entry.isNative arch = true ↔ entry.status = "idle" ∧ entry.nativeArch = arch := by
  rw [isNative, Bool.and_eq_true, beq_iff_eq, beq_iff_eq]

/-- The second pass takes idle satellites that advertise the platform. -/
theorem SatelliteEntry.isEmulated_iff {entry : SatelliteEntry curve} {platform : String} :
    entry.isEmulated platform = true ↔ entry.status = "idle" ∧ platform ∈ entry.platforms := by
  rw [isEmulated, Bool.and_eq_true, beq_iff_eq, List.any_beq', List.contains_iff_mem]

/-- The element of the list that the selection refers to. -/
def selectElement (entries : List (String × SatelliteEntry curve)) (platform : String) :
    Except Panic (Option (String × SatelliteEntry curve)) := do
  let arch ← platformToArch platform
  match Selection.maxByKey (fun element => element.2.registeredAt.toNat)
      (entries.filter fun element => element.2.isNative arch) with
  | some native => return some native
  | none =>
      return Selection.maxByKey (fun element => element.2.registeredAt.toNat)
        (entries.filter fun element => element.2.isEmulated platform)

/-- Select the most recent idle satellite that is native for the platform, or else
the most recent idle one that advertises it. -/
def selectSatelliteForPlatform (entries : List (String × SatelliteEntry curve))
    (platform : String) : Except Panic (Option (SatelliteEntry curve)) :=
  (selectElement entries platform).map (Option.map Prod.snd)

/-! ## What discovery and selection return -/

/-- An entry is discovered if its key has the prefix and its blob is present and decodes.
-/
theorem discoverEntry_eq_some {codec : EntryCodec curve Blob} {present : Blob → Bool}
    {entry : DocEntry Blob} {nodeId : String} {satEntry : SatelliteEntry curve} :
    discoverEntry codec present entry = some (nodeId, satEntry) ↔
      ∃ suffix, entry.key = satellitePrefix ++ suffix ∧ present entry.value = true ∧
        codec.fromSlice entry.value = .ok satEntry ∧ nodeId = Utf8.fromUtf8Lossy suffix := by
  unfold discoverEntry readEntryBlob
  constructor
  · intro decoded
    split at decoded
    · cases decoded
    · next suffix stripped =>
        split at decoded
        · cases decoded
        · next read =>
            split at read
            · next held =>
                cases read
                split at decoded
                · cases decoded
                · next satEntry parsed =>
                    cases decoded
                    exact ⟨suffix, stripPrefix_eq_some.mp stripped, held, parsed, rfl⟩
            · cases read
  · intro both
    obtain ⟨suffix, key, held, parsed, rfl⟩ := both
    rw [stripPrefix_eq_some.mpr key]
    simp only [held, ↓reduceIte, parsed]

/-- Every pair discovered comes from an entry of the stream. -/
theorem mem_discoverSatellites {codec : EntryCodec curve Blob} {present : Blob → Bool}
    {stream : List (Except String (DocEntry Blob))} {found : List (String × SatelliteEntry curve)}
    (discovered : discoverSatellites codec present stream = .ok found)
    {element : String × SatelliteEntry curve} :
    element ∈ found ↔
      ∃ entry, .ok entry ∈ stream ∧ discoverEntry codec present entry = some element := by
  induction stream generalizing found with
  | nil =>
      cases discovered
      simp only [List.not_mem_nil, false_and, exists_false]
  | cons item rest ih =>
      cases item with
      | error error => cases discovered
      | ok entry =>
          simp only [discoverSatellites] at discovered
          cases tail : discoverSatellites codec present rest with
          | error error => rw [tail] at discovered; cases discovered
          | ok pairs =>
              rw [tail] at discovered
              cases discovered
              rw [List.mem_append, ih tail]
              simp only [Option.mem_toList, List.mem_cons, Except.ok.injEq]
              constructor
              · intro either
                rcases either with here | ⟨other, member, decoded⟩
                · exact ⟨entry, Or.inl rfl, here⟩
                · exact ⟨other, Or.inr member, decoded⟩
              · intro both
                obtain ⟨other, rfl | member, decoded⟩ := both
                · exact Or.inl decoded
                · exact Or.inr ⟨other, member, decoded⟩

/-- A query without error items yields what its entries decode to. -/
theorem discoverSatellites_map_ok (codec : EntryCodec curve Blob) (present : Blob → Bool)
    (entries : List (DocEntry Blob)) :
    discoverSatellites codec present (entries.map .ok) =
      .ok (entries.filterMap (discoverEntry codec present)) := by
  induction entries with
  | nil => rfl
  | cons entry rest ih =>
      simp only [List.map_cons, discoverSatellites, ih, bind, Except.bind, pure, Except.pure,
        List.filterMap_cons]
      cases discoverEntry codec present entry <;> rfl

/-- The native pass comes first; the other one is for when it finds nothing. -/
theorem selectElement_eq {entries : List (String × SatelliteEntry curve)} {platform arch : String}
    (extracted : platformToArch platform = .ok arch) :
    selectElement entries platform =
      .ok ((Selection.maxByKey (fun element => element.2.registeredAt.toNat)
        (entries.filter fun element => element.2.isNative arch)).or
        (Selection.maxByKey (fun element => element.2.registeredAt.toNat)
          (entries.filter fun element => element.2.isEmulated platform))) := by
  simp only [selectElement, extracted, bind, Except.bind]
  split
  · next found =>
      rw [found]
      rfl
  · next absent =>
      rw [absent]
      rfl

/-- The selected element is an idle element of the list. -/
theorem selectElement_mem {entries : List (String × SatelliteEntry curve)} {platform : String}
    {element : String × SatelliteEntry curve}
    (selected : selectElement entries platform = .ok (some element)) :
    element ∈ entries ∧ element.2.status = "idle" := by
  cases extracted : platformToArch platform with
  | error panic =>
      rw [selectElement, extracted] at selected
      cases selected
  | ok arch =>
      rw [selectElement_eq extracted, Except.ok.injEq, Option.or_eq_some_iff] at selected
      rcases selected with native | ⟨-, emulated⟩
      · obtain ⟨member, isNative⟩ := List.mem_filter.mp (Selection.maxByKey_mem native)
        exact ⟨member, (SatelliteEntry.isNative_iff.mp isNative).1⟩
      · obtain ⟨member, isEmulated⟩ := List.mem_filter.mp (Selection.maxByKey_mem emulated)
        exact ⟨member, (SatelliteEntry.isEmulated_iff.mp isEmulated).1⟩

/-- What is selected is the entry of the selected element. -/
theorem selectSatelliteForPlatform_eq_some {entries : List (String × SatelliteEntry curve)}
    {platform : String} {entry : SatelliteEntry curve} :
    selectSatelliteForPlatform entries platform = .ok (some entry) ↔
      ∃ element, selectElement entries platform = .ok (some element) ∧ element.2 = entry := by
  unfold selectSatelliteForPlatform
  cases selectElement entries platform with
  | error panic => simp only [Except.map, reduceCtorEq, false_and, exists_false]
  | ok selected =>
      simp only [Except.map, Except.ok.injEq, Option.map_eq_some_iff]

end OrbitBuild
