import OrbitBuild.Core.Node
import OrbitBuild.Foundation.AuthorStore

/-! # The Doc and its events

The Doc is a store with one record per author and key; a value is the content of
the blob the record names. The type of blobs and the JSON codec of satellite
entries are parameters; the only law of the codec is that an encoded entry decodes
to itself.
-/

namespace OrbitBuild

variable {curve : Curve} {Blob : Type}

/-- `serde_json` on satellite entries. -/
structure EntryCodec (curve : Curve) (Blob : Type) where
  toVec : SatelliteEntry curve → Blob
  fromSlice : Blob → Except String (SatelliteEntry curve)
  fromSlice_toVec : ∀ entry, fromSlice (toVec entry) = .ok entry

/-- Blobs that are the entries themselves. -/
def EntryCodec.identity : EntryCodec curve (SatelliteEntry curve) :=
  ⟨fun entry => entry, .ok, fun _ => rfl⟩

/-- An author as `author_create` numbers them: every call returns the next. -/
abbrev Author := Nat

/-- An entry of the Doc with the content of its blob. -/
abbrev DocEntry (Blob : Type) := AuthorRecord Author (List UInt8) Blob

/-- The content of a Doc as every synchronised replica holds it. -/
abbrev Doc (Blob : Type) := AuthorStore Author (List UInt8) Blob

/-- `Query::key_prefix(b"satellite/")`: the entries of every author. -/
def Doc.satelliteEntries (doc : Doc Blob) : List (DocEntry Blob) :=
  doc.records.filter fun entry => satellitePrefix.isPrefixOf entry.key

/-- A query without errors yields records of the Doc. -/
theorem Doc.mem_of_queried {doc : Doc Blob} {record : DocEntry Blob}
    (queried : (.ok record : Except String (DocEntry Blob)) ∈ doc.satelliteEntries.map Except.ok) :
    record ∈ doc.records := by
  obtain ⟨source, listed, same⟩ := List.mem_map.mp queried
  cases same
  exact (List.mem_filter.mp listed).1

/-- What a subscription to the Doc delivers. A sync attempt reports its result. -/
inductive LiveEvent (curve : Curve) (Blob : Type)
  | insertLocal (entry : DocEntry Blob)
  | insertRemote (entry : DocEntry Blob)
  | contentReady
  | pendingContentReady
  | neighborUp (peer : PublicKey curve)
  | neighborDown (peer : PublicKey curve)
  | syncFinished (result : Except String Unit)

end OrbitBuild
