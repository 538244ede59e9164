import OrbitBuild.MissionControl.Discover
import OrbitBuild.Satellite.Join

/-! # Histories of a constellation

Any number of nodes run `run_satellite_join` any number of times with the same
key. Every run writes under an author of its own, so an entry an earlier run left
is not replaced by what a later run of the same node writes.
-/

namespace OrbitBuild

variable {curve : Curve} {Blob : Type}

/-- A run in progress and the author it created. -/
structure ActiveRun (curve : Curve) where
  config : JoinConfig curve
  author : Author
  state : Join.State curve

/-- The Doc, the runs in progress and every write so far, oldest first. -/
structure Constellation (curve : Curve) (Blob : Type) where
  doc : Doc Blob
  nextAuthor : Author
  active : PublicKey curve → Option (ActiveRun curve)
  log : List (PublicKey curve × SatelliteEntry curve)

namespace Constellation

/-- No node has joined yet. -/
def initial : Constellation curve Blob := ⟨AuthorStore.empty, 0, fun _ => none, []⟩

inductive Action (curve : Curve)
  /-- A node starts a run: the endpoint is bound and a fresh author created. -/
  | start (config : JoinConfig curve) (addrs : List TransportAddr)
  | run (node : PublicKey curve) (action : Join.Action)
  /-- The process of a node ends, by returning or by a crash. -/
  | stop (node : PublicKey curve)

/-- `doc.set_bytes` of an entry under the node's key. -/
def write (codec : EntryCodec curve Blob) (doc : Doc Blob) (author : Author)
    (node : PublicKey curve) (entry : SatelliteEntry curve) : Doc Blob :=
  AuthorStore.write doc ⟨author, satelliteKey node, codec.toVec entry⟩

/-- The Doc after a step of a run, which may have written one entry. -/
def applied (codec : EntryCodec curve Blob) (doc : Doc Blob) (author : Author)
    (node : PublicKey curve) : Option (SatelliteEntry curve) → Doc Blob
  | none => doc
  | some entry => write codec doc author node entry

/-- A step of the constellation. -/
def step (codec : EntryCodec curve Blob) (state : Constellation curve Blob) :
    Action curve → Option (Constellation curve Blob)
  | .start config addrs =>
      match state.active config.nodeId with
      | some _ => none
      | none =>
          some { state with
            nextAuthor := state.nextAuthor + 1
            active := Function.update state.active config.nodeId
              (some ⟨config, state.nextAuthor, .initial config addrs⟩) }
  | .run node action =>
      match state.active node with
      | none => none
      | some active =>
          match Join.step active.config active.state action with
          | none => none
          | some (next, written) =>
              some { state with
                doc := applied codec state.doc active.author node written
                active := Function.update state.active node (some { active with state := next })
                log := state.log ++ written.toList.map fun entry => (node, entry) }
  | .stop node =>
      match state.active node with
      | none => none
      | some _ => some { state with active := Function.update state.active node none }

/-- The status of the most recent write of a node. -/
def lastStatus (state : Constellation curve Blob) (node : PublicKey curve) : Option String :=
  (state.log.filter fun write => write.1 = node).getLast?.map fun write => write.2.status

/-- The status a Doc entry decodes to. -/
def storedStatus (codec : EntryCodec curve Blob) (entry : DocEntry Blob) : Option String :=
  (codec.fromSlice entry.value).toOption.map SatelliteEntry.status

/-- Mission Control never selects an entry of the node, in whatever order the
query yields the entries and whichever blobs are present. -/
def NeverSelected (codec : EntryCodec curve Blob) (doc : Doc Blob) (node : PublicKey curve) :
    Prop :=
  ∀ present stream found platform element,
    stream.Perm (doc.satelliteEntries.map Except.ok) →
    discoverSatellites codec present stream = .ok found →
    selectElement found platform = .ok (some element) → element.1 ≠ node.display

/-- A run of the node ends only with an offline entry, or none, under its author. -/
def StopsOffline (codec : EntryCodec curve Blob) (node : PublicKey curve)
    (state : Constellation curve Blob) : Action curve → Prop
  | .stop stopped =>
      stopped = node → ∀ active ∈ state.active node, ∀ entry ∈ state.doc.records,
        entry.author = active.author → entry.key = satelliteKey node →
          storedStatus codec entry = some "offline"
  | _ => True

instance (codec : EntryCodec curve Blob) (node : PublicKey curve) (state : Constellation curve Blob)
    (action : Action curve) : Decidable (StopsOffline codec node state action) := by
  cases action <;> unfold StopsOffline <;> infer_instance

/-- What the Doc holds under a node's key: offline entries, and what the run in
progress wrote last. -/
structure Settled (codec : EntryCodec curve Blob) (node : PublicKey curve)
    (state : Constellation curve Blob) : Prop where
  keys : ∀ entry ∈ state.doc.records, ∃ owner : PublicKey curve, entry.key = satelliteKey owner
  entries : ∀ entry ∈ state.doc.records, entry.key = satelliteKey node →
    storedStatus codec entry = some "offline" ∨
      ∃ active ∈ state.active node, entry.author = active.author ∧
        storedStatus codec entry = state.lastStatus node

/-- The status of an encoded entry can be read back. -/
theorem storedStatus_toVec (codec : EntryCodec curve Blob) (author : Author) (key : List UInt8)
    (entry : SatelliteEntry curve) :
    storedStatus codec ⟨author, key, codec.toVec entry⟩ = some entry.status := by
  rw [storedStatus, codec.fromSlice_toVec]
  rfl

/-- A write makes its status the last one of its node. -/
theorem lastStatus_append_self {state next : Constellation curve Blob} {node : PublicKey curve}
    {entry : SatelliteEntry curve} (log : next.log = state.log ++ [(node, entry)]) :
    next.lastStatus node = some entry.status := by
  simp [lastStatus, log]

/-- The writes of other nodes do not change a node's last status. -/
theorem lastStatus_append_other {state next : Constellation curve Blob}
    {node owner : PublicKey curve} (different : owner ≠ node)
    {entries : List (SatelliteEntry curve)}
    (log : next.log = state.log ++ entries.map fun entry => (owner, entry)) :
    next.lastStatus node = state.lastStatus node := by
  have dropped : (entries.map fun entry => (owner, entry)).filter
      (fun write => write.1 = node) = [] := by
    apply List.filter_eq_nil_iff.mpr
    intro write member
    obtain ⟨entry, -, rfl⟩ := List.mem_map.mp member
    simpa using different
  rw [lastStatus, log, List.filter_append, dropped, List.append_nil, lastStatus]

/-- What a step of a run leaves in the Doc: the entry it wrote, and what other slots held. -/
theorem mem_applied {codec : EntryCodec curve Blob} {doc : Doc Blob} {author : Author}
    {node : PublicKey curve} {written : Option (SatelliteEntry curve)} {element : DocEntry Blob} :
    element ∈ (applied codec doc author node written).records ↔
      (element ∈ doc.records ∧ (written.isSome → element.slot ≠ (author, satelliteKey node))) ∨
        ∃ entry ∈ written, element = ⟨author, satelliteKey node, codec.toVec entry⟩ := by
  cases written with
  | none => simp [applied]
  | some entry => simp [applied, write, AuthorStore.mem_write, AuthorRecord.slot]

/-- A run starts with an author of its own. -/
theorem step_start_eq_some {codec : EntryCodec curve Blob} {state next : Constellation curve Blob}
    {config : JoinConfig curve} {addrs : List TransportAddr}
    (moved : step codec state (.start config addrs) = some next) :
    state.active config.nodeId = none ∧ next.doc = state.doc ∧
      next.nextAuthor = state.nextAuthor + 1 ∧
      next.active = Function.update state.active config.nodeId
        (some ⟨config, state.nextAuthor, .initial config addrs⟩) ∧
      next.log = state.log := by
  simp only [step] at moved
  split at moved
  · cases moved
  · next idle =>
      cases moved
      exact ⟨idle, rfl, rfl, rfl, rfl⟩

/-- A run that stops leaves the Doc and the log as they are. -/
theorem step_stop_eq_some {codec : EntryCodec curve Blob} {state next : Constellation curve Blob}
    {node : PublicKey curve} (moved : step codec state (.stop node) = some next) :
    (state.active node).isSome ∧ next.doc = state.doc ∧ next.nextAuthor = state.nextAuthor ∧
      next.active = Function.update state.active node none ∧ next.log = state.log := by
  simp only [step] at moved
  split at moved
  · cases moved
  · next active running =>
      cases moved
      exact ⟨Option.isSome_of_mem running, rfl, rfl, rfl, rfl⟩

/-- A step of a run in progress: the run moves on and may write one entry. -/
theorem step_run_eq_some {codec : EntryCodec curve Blob} {state next : Constellation curve Blob}
    {node : PublicKey curve} {action : Join.Action}
    (moved : step codec state (.run node action) = some next) :
    ∃ active moves written, state.active node = some active ∧
      Join.step active.config active.state action = some (moves, written) ∧
      next.doc = applied codec state.doc active.author node written ∧
      next.nextAuthor = state.nextAuthor ∧
      next.active = Function.update state.active node (some { active with state := moves }) ∧
      next.log = state.log ++ written.toList.map fun entry => (node, entry) := by
  simp only [step] at moved
  split at moved
  · cases moved
  · next active running =>
      split at moved
      · cases moved
      · next moves written stepped =>
          cases moved
          exact ⟨active, moves, written, running, stepped, rfl, rfl, rfl, rfl⟩

/-- The start of a run writes nothing. -/
theorem Settled.start {codec : EntryCodec curve Blob} {node : PublicKey curve}
    {state next : Constellation curve Blob} {config : JoinConfig curve} {addrs : List TransportAddr}
    (valid : Settled codec node state)
    (moved : step codec state (.start config addrs) = some next) :
    Settled codec node next := by
  obtain ⟨idle, doc, -, actives, log⟩ := step_start_eq_some moved
  have last : next.lastStatus node = state.lastStatus node := by rw [lastStatus, log, lastStatus]
  refine ⟨by rw [doc]; exact valid.keys, ?_⟩
  rw [doc]
  intro entry member key
  rcases valid.entries entry member key with offline | ⟨active, running, author, status⟩
  · exact Or.inl offline
  · have other : node ≠ config.nodeId := by
      rintro rfl
      cases idle.symm.trans running
    refine Or.inr ⟨active, ?_, author, status.trans last.symm⟩
    rw [actives, Function.update_of_ne other]
    exact running

/-- A run that stops offline leaves its offline entry behind. -/
theorem Settled.stop {codec : EntryCodec curve Blob} {node stopped : PublicKey curve}
    {state next : Constellation curve Blob} (valid : Settled codec node state)
    (allowed : StopsOffline codec node state (.stop stopped))
    (moved : step codec state (.stop stopped) = some next) : Settled codec node next := by
  obtain ⟨-, doc, -, actives, log⟩ := step_stop_eq_some moved
  have last : next.lastStatus node = state.lastStatus node := by rw [lastStatus, log, lastStatus]
  refine ⟨by rw [doc]; exact valid.keys, ?_⟩
  rw [doc]
  intro entry member key
  rcases valid.entries entry member key with offline | ⟨active, running, author, status⟩
  · exact Or.inl offline
  · by_cases same : stopped = node
    · exact Or.inl (allowed same active running entry member author key)
    · refine Or.inr ⟨active, ?_, author, status.trans last.symm⟩
      rw [actives, Function.update_of_ne (Ne.symm same)]
      exact running

/-- A run writes under its own author, so what it wrote last is what its slot holds. -/
theorem Settled.runs {codec : EntryCodec curve Blob} {node owner : PublicKey curve}
    {state next : Constellation curve Blob} {action : Join.Action}
    (valid : Settled codec node state)
    (moved : step codec state (.run owner action) = some next) : Settled codec node next := by
  obtain ⟨active, moves, written, running, -, doc, -, actives, log⟩ := step_run_eq_some moved
  have keys : ∀ entry ∈ next.doc.records,
      ∃ owner : PublicKey curve, entry.key = satelliteKey owner := by
    intro entry member
    rw [doc, mem_applied] at member
    rcases member with ⟨old, -⟩ | ⟨stored, -, rfl⟩
    · exact valid.keys entry old
    · exact ⟨owner, rfl⟩
  refine ⟨keys, fun entry member key => ?_⟩
  rw [doc, mem_applied] at member
  by_cases same : owner = node
  · subst same
    have now : next.active owner = some { active with state := moves } := by
      rw [actives, Function.update_self]
    rcases member with ⟨old, elsewhere⟩ | ⟨stored, wrote, rfl⟩
    · rcases valid.entries entry old key with offline | ⟨before, was, author, status⟩
      · exact Or.inl offline
      · cases running.symm.trans was
        cases written with
        | none => exact Or.inr ⟨_, now, author, by simpa [lastStatus, log] using status⟩
        | some stored => exact (elsewhere rfl (Prod.ext author key)).elim
    · cases wrote
      refine Or.inr ⟨_, now, rfl, ?_⟩
      rw [storedStatus_toVec, lastStatus_append_self log]
  · rcases member with ⟨old, -⟩ | ⟨stored, -, rfl⟩
    · rcases valid.entries entry old key with offline | ⟨before, was, author, status⟩
      · exact Or.inl offline
      · refine Or.inr ⟨before, ?_, author, ?_⟩
        · rw [actives, Function.update_of_ne (Ne.symm same)]
          exact was
        · rw [status, lastStatus_append_other same log]
    · exact (same (satelliteKey_injective key)).elim

/-- A run that ends offline leaves nothing but offline entries. -/
theorem Settled.step {codec : EntryCodec curve Blob} {node : PublicKey curve}
    {state next : Constellation curve Blob} {action : Action curve}
    (valid : Settled codec node state)
    (allowed : StopsOffline codec node state action) (moved : step codec state action = some next) :
    Settled codec node next := by
  cases action with
  | start config addrs => exact valid.start moved
  | run owner action => exact valid.runs moved
  | stop stopped => exact valid.stop allowed moved

theorem Settled.initial (codec : EntryCodec curve Blob) (node : PublicKey curve) :
    Settled codec node initial :=
  ⟨fun _ member => (List.not_mem_nil member).elim, fun _ member => (List.not_mem_nil member).elim⟩

/-- An element discovered under the node's id carries the status of an entry under its key. -/
theorem Settled.neverSelected {codec : EntryCodec curve Blob} {node : PublicKey curve}
    {state : Constellation curve Blob} (valid : Settled codec node state)
    (offline : state.lastStatus node = some "offline") :
    NeverSelected codec state.doc node := by
  intro present stream found platform element order discovered selected named
  obtain ⟨member, idle⟩ := selectElement_mem selected
  obtain ⟨entry, streamed, decoded⟩ := (mem_discoverSatellites discovered).mp member
  obtain ⟨suffix, key, -, parsed, display⟩ := discoverEntry_eq_some.mp decoded
  have inDoc : entry ∈ state.doc.records := Doc.mem_of_queried (order.mem_iff.mp streamed)
  obtain ⟨owner, ownKey⟩ := valid.keys entry inDoc
  have same : owner = node := by
    apply PublicKey.display_injective
    rw [← named, display, List.append_cancel_left (key.symm.trans ownKey),
      Utf8.fromUtf8Lossy_encode owner.display_ascii]
  subst same
  have status : storedStatus codec entry = some "offline" := by
    rcases valid.entries entry inDoc ownKey with settled | ⟨-, -, -, status⟩
    · exact settled
    · exact status.trans offline
  rw [storedStatus, parsed] at status
  have both : element.2.status = "offline" := Option.some.inj status
  rw [idle] at both
  exact absurd both (by decide)

/-- **Offline nodes are not selected.** When no earlier run of a node left an
entry behind that is not offline, a node whose latest write is offline is not
selected for any platform. -/
theorem lastOffline_neverSelected (codec : EntryCodec curve Blob) (node : PublicKey curve)
    (actions : List (Action curve)) (final : Constellation curve Blob)
    (stops : Transition.Meets (step codec) (StopsOffline codec node) initial actions)
    (reached : Transition.run (step codec) initial actions = some final)
    (offline : final.lastStatus node = some "offline") : NeverSelected codec final.doc node := by
  have valid : Settled codec node final :=
    Transition.run_invariant_of_meets
      (fun _ _ _ valid allowed moved => valid.step allowed moved)
      (Settled.initial codec node) stops reached
  exact valid.neverSelected offline

/-- A run of the amd64 satellite up to its offline write. -/
def gracefulActions (now : UInt64) : List (Action Curve.full) :=
  .start Join.amd64Join [] ::
    ([.register now, .spawnHeartbeat, .ctrlC, .sendOffline (now + 5)] : List Join.Action).map
      (.run Join.amd64Join.nodeId)

/-- A run of the amd64 satellite that crashes after its registration. -/
def crashedActions (now : UInt64) : List (Action Curve.full) :=
  [.start Join.amd64Join [], .run Join.amd64Join.nodeId (.register now),
    .stop Join.amd64Join.nodeId]

theorem restarted_neverSelected :
    ∃ final, Transition.run (step .identity) initial
        (gracefulActions 10 ++ .stop Join.amd64Join.nodeId :: gracefulActions 20) = some final ∧
      NeverSelected .identity final.doc Join.amd64Join.nodeId :=
  ⟨_, rfl, lastOffline_neverSelected .identity Join.amd64Join.nodeId
    (gracefulActions 10 ++ .stop Join.amd64Join.nodeId :: gracefulActions 20) _
    (by decide) rfl (by decide)⟩

/-- The idle entry of a crashed run outlives the offline entry of the next run. -/
theorem crashed_selected :
    ∃ final, Transition.run (step .identity) initial
        (crashedActions 10 ++ gracefulActions 20) = some final ∧
      final.lastStatus Join.amd64Join.nodeId = some "offline" ∧
      ¬ NeverSelected .identity final.doc Join.amd64Join.nodeId := by
  refine ⟨_, rfl, by decide, fun never => ?_⟩
  exact never (fun _ => true) _ _ "linux/amd64" _ (List.Perm.refl _) rfl rfl rfl

end Constellation

end OrbitBuild
