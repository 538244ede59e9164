import OrbitBuild.Fleet.Timestamp
import OrbitBuild.Satellite.LastWords

/-! # The fleet table of a history

What `orbit fleet` prints of a Doc that only satellites have written to: a row for every
run that has got as far as its registration, with what this run wrote last, or one line if
there is none. The first column is the beginning of the node's key, and cutting it out
never panics.
-/

namespace OrbitBuild

universe u

variable {curve : Curve} {Blob : Type} {DateTime : Type u}

namespace Fleet

open Constellation

/-- The first column: the first eight bytes of the key in hexadecimal. -/
theorem shortId_display (node : PublicKey curve) :
    shortId node.display = .ok (Hex.encode (node.bytes.take 8)) := by
  have digits : node.display.toList = Hex.encodeChars node.bytes := String.toList_ofList
  have ascii : ∀ char ∈ Hex.encodeChars node.bytes, char.toNat < 0x80 := by
    rw [← digits]
    exact node.display_ascii
  have length : (Hex.encodeChars node.bytes).length = 64 := by
    rw [Hex.length_encodeChars, node.length_eq]
  have first : Utf8.takeBytes (Hex.encodeChars node.bytes) 16 =
      some (Hex.encodeChars (node.bytes.take 8)) := by
    rw [Utf8.takeBytes_ascii ascii (by omega), Hex.encodeChars_take]
  rw [shortId, digits, Utf8.size_ascii ascii, length, if_pos (by decide), first]
  rfl

/-- The row of a word. -/
def wordRow (chrono : Chrono DateTime) (word : Word curve) : String :=
  padRight 20 (Hex.encode (word.node.bytes.take 8)) ++ " " ++
    padRight 12 word.entry.nativeArch ++ " " ++
    padRight 30 (", ".intercalate word.entry.platforms) ++ " " ++ padRight 10 word.entry.status ++
    " " ++ formatTimestamp chrono word.entry.registeredAt

/-- The row of a run's last entry is made from that entry. -/
theorem formatSatelliteRow_element (chrono : Chrono DateTime) (word : Word curve) :
    formatSatelliteRow chrono word.element.1 word.element.2 = .ok (wordRow chrono word) := by
  rw [formatSatelliteRow, Word.element, shortId_display]
  rfl

/-- **The table of a history.** Whatever the order of the query: no panic, and one row for
each last word whose blob is there. -/
theorem displayFleet_history (chrono : Chrono DateTime) (codec : EntryCodec curve Blob)
    {actions : List (Action curve)} {final : Constellation curve Blob}
    (reached : Transition.run (step codec) initial actions = some final)
    {queried : List (DocEntry Blob)} (order : queried.Perm final.doc.satelliteEntries)
    (present : Blob → Bool) :
    ∃ rows, rows.Perm ((heard codec present actions).map (wordRow chrono)) ∧
      displayFleet chrono codec present (queried.map .ok) =
        ⟨if rows = [] then ["No satellites found in the Constellation."] else header :: rows,
          .ok (.ok ())⟩ := by
  obtain ⟨found, discovered⟩ : ∃ found,
      discoverSatellites codec present (queried.map .ok) = .ok found :=
    ⟨_, discoverSatellites_map_ok codec present queried⟩
  have same := discovered_perm_heard reached order discovered
  have listed : ∀ satellite ∈ found, ∃ row,
      formatSatelliteRow chrono satellite.1 satellite.2 = .ok row := by
    intro satellite member
    obtain ⟨word, -, rfl⟩ := List.mem_map.mp (same.mem_iff.mp member)
    exact ⟨_, formatSatelliteRow_element chrono word⟩
  have complete := (Fallible.untilError_isOk_iff _ found).mpr listed
  have made := Fallible.map_of_untilError _ complete
  obtain ⟨rows, printed⟩ : ∃ rows, (Fallible.untilError
    (fun satellite : String × SatelliteEntry curve =>
      formatSatelliteRow chrono satellite.1 satellite.2) found) = (rows, .ok ()) :=
    ⟨_, Prod.ext rfl complete⟩
  rw [printed] at made
  refine ⟨rows, ?_, ?_⟩
  · have formatted := same.map fun satellite : String × SatelliteEntry curve =>
      formatSatelliteRow chrono satellite.1 satellite.2
    rw [made, List.map_map, Function.comp_def] at formatted
    simp only [formatSatelliteRow_element] at formatted
    have injective : (Except.ok : String → Except Panic String).Injective :=
      fun _ _ => Except.ok.inj
    apply (List.map_perm_map_iff injective).mp
    rw [List.map_map]
    exact formatted
  · have empty : rows = [] ↔ found = [] := by
      rw [← List.length_eq_zero_iff, ← List.length_eq_zero_iff, ← List.length_map Except.ok,
        ← made, List.length_map]
    rw [displayFleet, discovered]
    cases found with
    | nil =>
        simp only [empty.mpr rfl, List.isEmpty_nil, ↓reduceIte]
    | cons first rest =>
        have some : rows ≠ [] := fun none => nomatch empty.mp none
        simp only [some, List.isEmpty_cons, ↓reduceIte, printFleetTable, printed, Except.map,
          Bool.false_eq_true]

/-- One of two nodes has gone offline, and both have a row. -/
theorem relayed_listed :
    ∃ rows, rows.length = 2 ∧
      displayFleet calendarChrono .identity (fun _ => true)
        (relayed.doc.satelliteEntries.map .ok) = ⟨header :: rows, .ok (.ok ())⟩ := by
  have reached : Transition.run (step .identity) initial relayedActions = some relayed := rfl
  obtain ⟨rows, same, shown⟩ :=
    displayFleet_history calendarChrono .identity reached (.refl _) fun _ => true
  have two : rows.length = 2 := by
    rw [same.length_eq, List.length_map]
    rfl
  refine ⟨rows, two, ?_⟩
  rw [shown, if_neg]
  rintro rfl
  cases two

end Fleet

end OrbitBuild
