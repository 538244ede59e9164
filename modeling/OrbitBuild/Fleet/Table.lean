import OrbitBuild.Foundation.Fallible
import OrbitBuild.MissionControl.Discover

/-! # The fleet table

`orbit fleet` prints one row for every satellite discovered in the Doc. The node
id comes from the lossy decoding of an arbitrary key, and the row shows its first
16 bytes, which need not end at a character boundary.
-/

namespace OrbitBuild

universe u

variable {curve : Curve} {Blob : Type} {DateTime : Type u}

/-- The two functions of `chrono` that the table uses. -/
structure Chrono (DateTime : Type u) where
  fromTimestamp : Int64 → Option DateTime
  format : DateTime → String

namespace Fleet

variable (chrono : Chrono DateTime)

/-- A unix timestamp as a date and time, or as a number where there is no such date. -/
def formatTimestamp (ts : UInt64) : String :=
  ((chrono.fromTimestamp ts.toInt64).map chrono.format).getD (toString ts.toNat)

/-- The column format `{:<width}`, which counts characters. -/
def padRight (width : Nat) (text : String) : String :=
  text ++ String.ofList (List.replicate (width - text.toList.length) ' ')

/-- `&node_id[..16]`, or the whole id if it has at most 16 bytes. -/
def shortId (nodeId : String) : Except Panic String :=
  if Utf8.size nodeId.toList > 16 then
    match Utf8.takeBytes nodeId.toList 16 with
    | some chars => .ok (String.ofList chars)
    | none => .error ⟨"end byte index 16 is not a char boundary"⟩
  else .ok nodeId

def formatSatelliteRow (nodeId : String) (entry : SatelliteEntry curve) : Except Panic String := do
  let short ← shortId nodeId
  return padRight 20 short ++ " " ++ padRight 12 entry.nativeArch ++ " " ++
    padRight 30 (", ".intercalate entry.platforms) ++ " " ++ padRight 10 entry.status ++ " " ++
    formatTimestamp chrono entry.registeredAt

/-- The header line. -/
def header : String :=
  padRight 20 "NODE ID" ++ " " ++ padRight 12 "NATIVE" ++ " " ++ padRight 30 "PLATFORMS" ++ " " ++
    padRight 10 "STATUS" ++ " REGISTERED"

/-- The lines of the table. A row is printed before the next one is formatted. -/
def printFleetTable (satellites : List (String × SatelliteEntry curve)) :
    List String × Except Panic Unit :=
  let (rows, ended) := Fallible.untilError
    (fun satellite => formatSatelliteRow chrono satellite.1 satellite.2) satellites
  (header :: rows, ended)

/-- What has been printed by the end, and how it ends. -/
structure Display where
  lines : List String
  ended : Except Panic (Except String Unit)

/-- What `run_fleet` prints after the initial sync: an error of the discovery is
returned, a panic is not caught. -/
def displayFleet (codec : EntryCodec curve Blob) (present : Blob → Bool)
    (stream : List (Except String (DocEntry Blob))) : Display :=
  match discoverSatellites codec present stream with
  | .error error => ⟨[], .ok (.error error)⟩
  | .ok satellites =>
      if satellites.isEmpty then ⟨["No satellites found in the Constellation."], .ok (.ok ())⟩
      else
        let (lines, ended) := printFleetTable chrono satellites
        ⟨lines, ended.map .ok⟩

/-- The text of a key suffix is short, or some of its leading pieces fill exactly
16 bytes. An ill-formed piece counts as the three bytes of its replacement. -/
def CutsAtBoundary (suffix : List UInt8) : Prop :=
  (((Utf8.pieces suffix).map Utf8.pieceSize).sum ≤ 16) ∨
    ∃ taken, (((Utf8.pieces suffix).map Utf8.pieceSize).take taken).sum = 16

/-- Decoded pieces take as many bytes as their sizes add up to. -/
theorem size_map_getD (pieces : List (Option Char)) :
    Utf8.size (pieces.map (·.getD Utf8.replacement)) = (pieces.map Utf8.pieceSize).sum := by
  rw [Utf8.size, List.map_map]
  exact congrArg List.sum (List.map_congr_left fun piece _ => Utf8.utf8Size_getD piece)

/-- A decoded id is cut without a panic exactly at a boundary of its pieces. -/
theorem shortId_isOk_iff (suffix : List UInt8) :
    (∃ short, shortId (Utf8.fromUtf8Lossy suffix) = .ok short) ↔ CutsAtBoundary suffix := by
  have whole := size_map_getD (Utf8.pieces suffix)
  have front : ∀ taken,
      Utf8.size (((Utf8.pieces suffix).map (·.getD Utf8.replacement)).take taken) =
        (((Utf8.pieces suffix).map Utf8.pieceSize).take taken).sum := by
    intro taken
    rw [← List.map_take, size_map_getD, List.map_take]
  have boundary :=
    Utf8.takeBytes_isSome ((Utf8.pieces suffix).map (·.getD Utf8.replacement)) 16
  simp only [front] at boundary
  unfold shortId CutsAtBoundary
  rw [Utf8.fromUtf8Lossy, String.toList_ofList, whole, ← boundary]
  split
  · next long =>
      cases cut : Utf8.takeBytes ((Utf8.pieces suffix).map (·.getD Utf8.replacement)) 16 with
      | none => simpa using long
      | some chars => simp
  · next fits => simpa using Or.inl (Nat.le_of_not_lt fits)

/-- A row is formatted exactly if its node id can be cut. -/
theorem formatSatelliteRow_isOk_iff (nodeId : String) (entry : SatelliteEntry curve) :
    (∃ row, formatSatelliteRow chrono nodeId entry = .ok row) ↔
      ∃ short, shortId nodeId = .ok short := by
  unfold formatSatelliteRow
  cases shortId nodeId with
  | error panic => simp [bind, Except.bind]
  | ok short => simp [bind, Except.bind, pure, Except.pure]

/-- The table is printed exactly if all its node ids can be cut. -/
theorem printFleetTable_isOk_iff (satellites : List (String × SatelliteEntry curve)) :
    (printFleetTable chrono satellites).2 = .ok () ↔
      ∀ satellite ∈ satellites, ∃ short, shortId satellite.1 = .ok short := by
  have rows := Fallible.untilError_isOk_iff
    (fun satellite : String × SatelliteEntry curve =>
      formatSatelliteRow chrono satellite.1 satellite.2) satellites
  simp only [formatSatelliteRow_isOk_iff] at rows
  exact rows

/-- **Listing the fleet does not panic** exactly when the key of every entry that
is discovered cuts at a boundary. -/
theorem displayFleet_isOk_iff (codec : EntryCodec curve Blob) (present : Blob → Bool)
    (entries : List (DocEntry Blob)) :
    (∃ result, (displayFleet chrono codec present (entries.map .ok)).ended = .ok result) ↔
      ∀ entry ∈ entries, ∀ suffix, entry.key = satellitePrefix ++ suffix →
        (discoverEntry codec present entry).isSome → CutsAtBoundary suffix := by
  have table := printFleetTable_isOk_iff chrono
    (entries.filterMap (discoverEntry codec present))
  have shown : (∃ result, (displayFleet chrono codec present (entries.map .ok)).ended =
        .ok result) ↔
      (printFleetTable chrono (entries.filterMap (discoverEntry codec present))).2 = .ok () := by
    unfold displayFleet
    rw [discoverSatellites_map_ok]
    cases found : entries.filterMap (discoverEntry codec present) with
    | nil => exact iff_of_true ⟨_, rfl⟩ rfl
    | cons first rest =>
        simp only [List.isEmpty_cons, Bool.false_eq_true, ↓reduceIte]
        cases (printFleetTable chrono (first :: rest)).2 <;> simp [Except.map]
  rw [shown, table]
  constructor
  · intro cut entry member suffix key found
    obtain ⟨⟨nodeId, satEntry⟩, decoded⟩ := Option.isSome_iff_exists.mp found
    obtain ⟨other, otherKey, -, -, rfl⟩ := discoverEntry_eq_some.mp decoded
    have listed := List.mem_filterMap.mpr ⟨entry, member, decoded⟩
    rw [List.append_cancel_left (key.symm.trans otherKey)]
    exact (shortId_isOk_iff other).mp (cut (Utf8.fromUtf8Lossy other, satEntry) listed)
  · intro cut both member
    obtain ⟨nodeId, satEntry⟩ := both
    obtain ⟨entry, inDoc, decoded⟩ := List.mem_filterMap.mp member
    obtain ⟨suffix, key, -, -, rfl⟩ := discoverEntry_eq_some.mp decoded
    have found := Option.isSome_of_mem (Option.mem_def.mpr decoded)
    exact (shortId_isOk_iff suffix).mpr (cut entry inDoc suffix key found)

/-- A key of ASCII is cut at a character boundary. -/
theorem cutsAtBoundary_ascii {suffix : List UInt8} (ascii : ∀ byte ∈ suffix, byte.toNat < 0x80) :
    CutsAtBoundary suffix := by
  have sizes : (Utf8.pieces suffix).map Utf8.pieceSize = List.replicate suffix.length 1 := by
    rw [Utf8.pieces_ascii ascii, List.map_map]
    apply List.map_eq_replicate_iff.mpr
    intro byte member
    exact Utf8.pieceSize_ascii (ascii byte member)
  unfold CutsAtBoundary
  rw [sizes]
  by_cases short : suffix.length ≤ 16
  · left
    simpa using short
  · right
    refine ⟨16, ?_⟩
    rw [List.take_replicate, Nat.min_eq_left (by omega)]
    rfl

/-- The key a satellite registers under does not make the table panic. -/
theorem cutsAtBoundary_display (node : PublicKey curve) :
    CutsAtBoundary (Utf8.encode node.display) :=
  cutsAtBoundary_ascii (Utf8.bytes_ascii node.display_ascii)

/-- A calendar that knows the beginning of the epoch only. -/
def epoch : Chrono Unit where
  fromTimestamp ts := if ts = 0 then some () else none
  format _ := "1970-01-01 00:00:00"

/-- An entry under a key of 15 ASCII characters and one character of two bytes. -/
def accentedEntry : DocEntry (SatelliteEntry Curve.full) :=
  ⟨0, satellitePrefix ++ List.replicate 15 0x61 ++ [0xC3, 0xA9],
    ⟨"amd64", ["linux/amd64"], "idle", .new .zero, 0⟩⟩

/-- The cut of this key is inside its last character. -/
theorem accentedEntry_panics :
    displayFleet epoch .identity (fun _ => true) [.ok accentedEntry] =
      ⟨[header], .error ⟨"end byte index 16 is not a char boundary"⟩⟩ := by
  rfl

end Fleet

end OrbitBuild
