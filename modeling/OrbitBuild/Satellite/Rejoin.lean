import OrbitBuild.Fleet.Timestamp
import OrbitBuild.Satellite.Announce

/-! # Nodes that join again

A run registers under an author it has just created, so its registration takes a slot
of its own and its later writes replace it. The Doc has as many entries under a node's
key as runs of the node have registered, and discovery returns all of them.
-/

namespace OrbitBuild

variable {curve : Curve} {Blob : Type}

namespace Join

/-- Nothing but the registration is written before it. -/
structure State.Silent (state : State curve) : Prop where
  joining : state.main = .joining
  unspawned : state.heartbeat = .notSpawned

/-- The step is the registration. -/
def Action.isRegister : Action → Bool
  | .register _ => true
  | _ => false

/-- A run that has not registered does so, or stays silent. -/
theorem State.Silent.step {config : JoinConfig curve} {state next : State curve} {action : Action}
    {written : Option (SatelliteEntry curve)} (silent : state.Silent)
    (stepped : Join.step config state action = some (next, written)) :
    (action.isRegister = true ∧ next.main ≠ .joining ∧ written.isSome) ∨
      (action.isRegister = false ∧ next.Silent ∧ written = none) := by
  obtain ⟨joining, unspawned⟩ := silent
  cases action with
  | register now =>
      obtain ⟨-, equation⟩ := Option.ite_none_right_eq_some.mp stepped
      cases equation
      exact Or.inl ⟨rfl, nofun, rfl⟩
  | addressChanges addrs =>
      cases stepped
      exact Or.inr ⟨rfl, ⟨joining, unspawned⟩, rfl⟩
  | spawnHeartbeat | ctrlC | sendOffline _ | offlineReply | abortEvents | abortHeartbeat
  | shutdownRouter =>
      obtain ⟨phase, -⟩ := Option.ite_none_right_eq_some.mp stepped
      cases joining.symm.trans phase
  | tick | reply =>
      obtain ⟨⟨phase, -⟩, -⟩ := Option.ite_none_right_eq_some.mp stepped
      cases unspawned.symm.trans phase
  | submit _ | suspend _ =>
      obtain ⟨phase, -⟩ := Option.ite_none_right_eq_some.mp stepped
      cases unspawned.symm.trans phase
  | resume =>
      obtain ⟨entry, sending, -⟩ := step_resume_eq_some stepped
      cases unspawned.symm.trans sending
  | cancel => exact absurd unspawned (step_cancel_eq_some stepped).1

/-- A run that has registered does not register again. -/
theorem step_registered {config : JoinConfig curve} {state next : State curve} {action : Action}
    {written : Option (SatelliteEntry curve)} (registered : state.main ≠ .joining)
    (stepped : Join.step config state action = some (next, written)) :
    action.isRegister = false ∧ next.main ≠ .joining := by
  cases action with
  | register now =>
      obtain ⟨joining, -⟩ := Option.ite_none_right_eq_some.mp stepped
      exact absurd joining registered
  | addressChanges addrs =>
      cases stepped
      exact ⟨rfl, registered⟩
  | spawnHeartbeat | ctrlC | sendOffline _ | offlineReply | abortEvents | abortHeartbeat
  | shutdownRouter =>
      obtain ⟨-, equation⟩ := Option.ite_none_right_eq_some.mp stepped
      cases equation
      exact ⟨rfl, nofun⟩
  | tick | reply | submit _ | suspend _ =>
      obtain ⟨-, equation⟩ := Option.ite_none_right_eq_some.mp stepped
      cases equation
      exact ⟨rfl, registered⟩
  | resume =>
      obtain ⟨entry, -, rfl, -⟩ := step_resume_eq_some stepped
      exact ⟨rfl, registered⟩
  | cancel =>
      obtain ⟨-, rfl, -⟩ := step_cancel_eq_some stepped
      exact ⟨rfl, registered⟩

end Join

namespace Constellation

/-- The step registers the node. -/
def Action.registers (node : PublicKey curve) : Action curve → Bool
  | .run owner action => decide (owner = node) && action.isRegister
  | _ => false

/-- How many runs of the node have registered. -/
def registrations (node : PublicKey curve) (actions : List (Action curve)) : Nat :=
  actions.countP (Action.registers node)

/-- Discovery returns at most one pair for every node id, in whatever order the query
yields the entries and whichever blobs are present. -/
def OnePerNode (codec : EntryCodec curve Blob) (doc : Doc Blob) : Prop :=
  ∀ (present : Blob → Bool) (entries : List (DocEntry Blob))
    (found : List (String × SatelliteEntry curve)),
    entries.Perm doc.satelliteEntries →
    discoverSatellites codec present (entries.map .ok) = .ok found → (found.map Prod.fst).Nodup

/-- A write of a run uses the run's own slot. -/
theorem uses_applied {codec : EntryCodec curve Blob} {doc : Doc Blob} {author : Author}
    {node : PublicKey curve} {written : Option (SatelliteEntry curve)}
    {slot : Author × List UInt8} :
    (applied codec doc author node written).Uses slot ↔
      doc.Uses slot ∨ (written.isSome ∧ slot = (author, satelliteKey node)) := by
  cases written with
  | none => simp only [applied, Option.isSome_none, Bool.false_eq_true, false_and, or_false]
  | some entry =>
      simp only [applied, write, AuthorStore.uses_write, AuthorRecord.slot, Option.isSome_some,
        true_and]

/-- The slot of a run in progress is used exactly once it has registered. -/
structure Slotted (state : Constellation curve Blob) : Prop where
  authors : ∀ record ∈ state.doc.records, record.author < state.nextAuthor
  below : ∀ node active, state.active node = some active → active.author < state.nextAuthor
  runs : ∀ node active, state.active node = some active →
    (active.state.Silent ∧ ¬ state.doc.Uses (active.author, satelliteKey node)) ∨
      (active.state.main ≠ .joining ∧ state.doc.Uses (active.author, satelliteKey node))

theorem Slotted.initial : (initial : Constellation curve Blob).Slotted :=
  ⟨nofun, nofun, nofun⟩

namespace Slotted

variable {codec : EntryCodec curve Blob} {state next : Constellation curve Blob}

/-- A new run has a slot that nobody has used. -/
theorem start (slotted : state.Slotted) {config : JoinConfig curve} {addrs : List TransportAddr}
    (moved : Constellation.step codec state (.start config addrs) = some next) : next.Slotted := by
  obtain ⟨-, doc, author, actives, -⟩ := step_start_eq_some moved
  refine ⟨?_, ?_, ?_⟩
  · intro record member
    rw [doc] at member
    rw [author]
    exact Nat.lt_succ_of_lt (slotted.authors record member)
  · intro node active running
    rw [actives] at running
    rw [author]
    rcases Transition.update_eq_some.mp running with ⟨-, started⟩ | ⟨-, old⟩
    · cases started
      exact Nat.lt_succ_self _
    · exact Nat.lt_succ_of_lt (slotted.below node active old)
  · intro node active running
    rw [actives] at running
    rw [doc]
    rcases Transition.update_eq_some.mp running with ⟨-, started⟩ | ⟨-, old⟩
    · cases started
      refine Or.inl ⟨⟨rfl, rfl⟩, ?_⟩
      intro used
      obtain ⟨record, member, slot⟩ := used
      have taken : record.author = state.nextAuthor := congrArg Prod.fst slot
      exact (slotted.authors record member).ne taken
    · exact slotted.runs node active old

/-- A run that stops leaves the slots of the others. -/
theorem stop (slotted : state.Slotted) {stopped : PublicKey curve}
    (moved : Constellation.step codec state (.stop stopped) = some next) : next.Slotted := by
  obtain ⟨-, doc, author, actives, -⟩ := step_stop_eq_some moved
  have before : ∀ node active, next.active node = some active →
      state.active node = some active := by
    intro node active running
    rw [actives] at running
    rcases Transition.update_eq_some.mp running with ⟨-, ended⟩ | ⟨-, old⟩
    · cases ended
    · exact old
  refine ⟨?_, ?_, ?_⟩
  · rw [doc, author]
    exact slotted.authors
  · intro node active running
    rw [author]
    exact slotted.below node active (before node active running)
  · intro node active running
    rw [doc]
    exact slotted.runs node active (before node active running)

/-- A step of a run adds the key of its node when it registers, and no key otherwise. -/
theorem run (slotted : state.Slotted) {owner : PublicKey curve} {action : Join.Action}
    (moved : Constellation.step codec state (.run owner action) = some next) :
    next.Slotted ∧ next.doc.keys.Perm
      (state.doc.keys ++ if action.isRegister then [satelliteKey owner] else []) := by
  obtain ⟨active, moves, written, running, stepped, doc, author, actives, -⟩ :=
    step_run_eq_some moved
  -- What the owner's run does decides about its own slot and about the keys.
  have own : ((moves.Silent ∧ ¬ next.doc.Uses (active.author, satelliteKey owner)) ∨
      (moves.main ≠ .joining ∧ next.doc.Uses (active.author, satelliteKey owner))) ∧
      next.doc.keys.Perm
        (state.doc.keys ++ if action.isRegister then [satelliteKey owner] else []) := by
    rw [doc]
    rcases slotted.runs owner active running with ⟨silent, free⟩ | ⟨registered, used⟩
    · rcases silent.step stepped with ⟨register, joined, wrote⟩ | ⟨other, stays, rfl⟩
      · obtain ⟨entry, rfl⟩ := Option.isSome_iff_exists.mp wrote
        refine ⟨Or.inr ⟨joined, uses_applied.mpr (Or.inr ⟨rfl, rfl⟩)⟩, ?_⟩
        rw [register, if_pos rfl]
        exact .of_eq (AuthorStore.keys_write_of_free free)
      · refine ⟨Or.inl ⟨stays, free⟩, ?_⟩
        rw [other, if_neg Bool.false_ne_true, List.append_nil]
        exact .refl _
    · obtain ⟨other, joined⟩ := Join.step_registered registered stepped
      refine ⟨Or.inr ⟨joined, uses_applied.mpr (Or.inl used)⟩, ?_⟩
      rw [other, if_neg Bool.false_ne_true, List.append_nil]
      cases written with
      | none => exact .refl _
      | some entry => exact AuthorStore.keys_write_of_uses used
  refine ⟨⟨?_, ?_, ?_⟩, own.2⟩
  · intro record member
    rw [doc, mem_applied] at member
    rw [author]
    rcases member with ⟨old, -⟩ | ⟨entry, -, rfl⟩
    · exact slotted.authors record old
    · exact slotted.below owner active running
  · intro node other runs
    rw [actives] at runs
    rw [author]
    rcases Transition.update_eq_some.mp runs with ⟨-, made⟩ | ⟨-, old⟩
    · cases made
      exact slotted.below owner active running
    · exact slotted.below node other old
  · intro node other runs
    rw [actives] at runs
    rcases Transition.update_eq_some.mp runs with ⟨rfl, made⟩ | ⟨different, old⟩
    · cases made
      exact own.1
    · have elsewhere : next.doc.Uses (other.author, satelliteKey node) ↔
          state.doc.Uses (other.author, satelliteKey node) := by
        rw [doc, uses_applied]
        apply or_iff_left
        intro both
        exact different (satelliteKey_injective (congrArg Prod.snd both.2))
      rw [elsewhere]
      exact slotted.runs node other old

/-- A step adds the key of the node it registers, and no other. -/
theorem step (slotted : state.Slotted) {action : Action curve}
    (moved : Constellation.step codec state action = some next) :
    next.Slotted ∧ ∀ node : PublicKey curve, next.doc.keys.count (satelliteKey node) =
      state.doc.keys.count (satelliteKey node) + if action.registers node then 1 else 0 := by
  cases action with
  | start config addrs =>
      obtain ⟨-, doc, -⟩ := step_start_eq_some moved
      exact ⟨slotted.start moved, fun node => by rw [doc]; rfl⟩
  | stop stopped =>
      obtain ⟨-, doc, -⟩ := step_stop_eq_some moved
      exact ⟨slotted.stop moved, fun node => by rw [doc]; rfl⟩
  | run owner action =>
      obtain ⟨valid, keys⟩ := slotted.run moved
      refine ⟨valid, ?_⟩
      intro node
      rw [keys.count_eq, List.count_append]
      congr 1
      by_cases register : action.isRegister = true
      · by_cases same : owner = node
        · simp only [register, same, Action.registers, ↓reduceIte, decide_true, Bool.and_self,
            List.count_singleton_self]
        · have different : satelliteKey owner ≠ satelliteKey node :=
            fun equal => same (satelliteKey_injective equal)
          simp only [register, same, Action.registers, ↓reduceIte, decide_false, Bool.false_and,
            Bool.false_eq_true, List.count_singleton, beq_iff_eq, different]
      · simp only [register, Action.registers, Bool.and_false, Bool.false_eq_true, ↓reduceIte,
          List.count_nil]

/-- Over a run, the entries under a node's key are as many as its registrations. -/
theorem count {actions : List (Action curve)} (slotted : state.Slotted)
    (reached : Transition.run (Constellation.step codec) state actions = some next)
    (node : PublicKey curve) : next.doc.keys.count (satelliteKey node) =
      state.doc.keys.count (satelliteKey node) + registrations node actions := by
  induction actions generalizing state with
  | nil =>
      cases reached
      rfl
  | cons action rest ih =>
      obtain ⟨middle, moved, tail⟩ := Transition.run_cons.mp reached
      obtain ⟨valid, counted⟩ := slotted.step moved
      rw [ih valid tail, counted node, registrations, registrations, List.countP_cons]
      omega

end Slotted

/-- Honest satellites write nothing but records under the satellites' prefix. -/
theorem Holds.satelliteEntries {codec : EntryCodec curve Blob}
    {log : List (PublicKey curve × SatelliteEntry curve)} {doc : Doc Blob}
    (holds : Holds codec log doc) : doc.satelliteEntries = doc.records := by
  apply List.filter_eq_self.mpr
  intro record member
  obtain ⟨node, -, -, key, -⟩ := holds record member
  rw [key]
  exact List.isPrefixOf_iff_prefix.mpr (List.prefix_append ..)

/-- With every blob present, each record of the Doc yields a pair of its own. -/
theorem map_fst_discovered {codec : EntryCodec curve Blob}
    {log : List (PublicKey curve × SatelliteEntry curve)} {records : List (DocEntry Blob)}
    (holds : ∀ record ∈ records, ∃ node entry, (node, entry) ∈ log ∧
      record.key = satelliteKey node ∧ record.value = codec.toVec entry) :
    (records.filterMap (discoverEntry codec fun _ => true)).map Prod.fst =
      (records.map AuthorRecord.key).map
        fun key => Utf8.fromUtf8Lossy (key.drop satellitePrefix.length) := by
  induction records with
  | nil => rfl
  | cons record rest ih =>
      obtain ⟨node, entry, -, key, value⟩ := holds record List.mem_cons_self
      have decoded : discoverEntry codec (fun _ => true) record =
          some (Utf8.fromUtf8Lossy (Utf8.encode node.display), entry) :=
        discoverEntry_eq_some.mpr
          ⟨_, key, rfl, by rw [value, codec.fromSlice_toVec], rfl⟩
      rw [List.filterMap_cons, decoded, List.map_cons, List.map_cons, List.map_cons,
        ih fun other member => holds other (List.mem_cons_of_mem _ member), key, satelliteKey,
        List.drop_left]

/-- Discovery is unambiguous exactly when no two records share a key. -/
theorem Holds.onePerNode_iff_nodup {codec : EntryCodec curve Blob}
    {log : List (PublicKey curve × SatelliteEntry curve)} {doc : Doc Blob}
    (holds : Holds codec log doc) : OnePerNode codec doc ↔ doc.keys.Nodup := by
  constructor
  · intro unique
    have ids := unique (fun _ => true) doc.satelliteEntries _ (.refl _)
      (discoverSatellites_map_ok _ _ _)
    rw [holds.satelliteEntries, map_fst_discovered holds] at ids
    exact ids.of_map _
  · intro nodup present entries found order discovered
    rw [discoverSatellites_map_ok, Except.ok.injEq] at discovered
    rw [holds.satelliteEntries] at order
    have apart : entries.Pairwise fun first second => first.key ≠ second.key :=
      List.pairwise_map.mp ((order.map AuthorRecord.key).nodup_iff.mpr nodup)
    rw [← discovered, List.Nodup, List.pairwise_map]
    refine List.Pairwise.filterMap _ ?_
      (apart.imp_of_mem (S := fun first second => first ∈ entries ∧ second ∈ entries ∧
        first.key ≠ second.key) fun here there different => ⟨here, there, different⟩)
    intro first second both one decoded other decodedOther same
    obtain ⟨here, there, different⟩ := both
    obtain ⟨node, key, named, -⟩ := holds.discovered (order.mem_iff.mp here) decoded
    obtain ⟨twin, keyOther, namedOther, -⟩ :=
      holds.discovered (order.mem_iff.mp there) decodedOther
    apply different
    rw [key, keyOther, PublicKey.display_injective (named.symm.trans (same.trans namedOther))]

/-- **One pair for each node.** After any history, discovery returns at most one pair
for each node id exactly when every node has registered in at most one of its runs. -/
theorem onePerNode_iff (codec : EntryCodec curve Blob) {actions : List (Action curve)}
    {final : Constellation curve Blob}
    (reached : Transition.run (step codec) initial actions = some final) :
    OnePerNode codec final.doc ↔
      ∀ node : PublicKey curve, registrations node actions ≤ 1 := by
  have holds := (Honest.of_reachable ⟨actions, reached⟩).records
  have counts : ∀ node : PublicKey curve,
      final.doc.keys.count (satelliteKey node) = registrations node actions := by
    intro node
    rw [Slotted.initial.count reached node]
    exact Nat.zero_add _
  rw [holds.onePerNode_iff_nodup, List.nodup_iff_count_le_one]
  constructor
  · intro bounded node
    rw [← counts node]
    exact bounded _
  · intro bounded key
    by_cases used : key ∈ final.doc.keys
    · obtain ⟨record, member, rfl⟩ := List.mem_map.mp used
      obtain ⟨node, -, -, key, -⟩ := holds record member
      rw [key, counts node]
      exact bounded node
    · rw [List.count_eq_zero_of_not_mem used]
      exact Nat.zero_le 1

/-- Two nodes join once each. -/
theorem relayed_onePerNode :
    Transition.run (step .identity) initial relayedActions = some relayed ∧
      OnePerNode .identity relayed.doc := by
  have reached : Transition.run (step .identity) initial relayedActions = some relayed := rfl
  refine ⟨reached, (onePerNode_iff .identity reached).mpr ?_⟩
  intro node
  by_cases first : Join.amd64Join.nodeId = node
  · subst first
    decide
  · simp only [registrations, relayedActions, gracefulActions, List.map_cons, List.map_nil,
      List.cons_append, List.nil_append, List.countP_cons, List.countP_nil, Action.registers,
      Join.Action.isRegister, first, decide_false, Bool.and_true, Bool.and_false,
      Bool.false_eq_true, ↓reduceIte, Nat.zero_add, Nat.add_zero]
    split <;> decide

/-- The amd64 node stops gracefully and joins again. -/
def rejoinedActions : List (Action Curve.full) :=
  gracefulActions 10 ++
    [.stop Join.amd64Join.nodeId, .start Join.amd64Join [],
      .run Join.amd64Join.nodeId (.register 20)]

def rejoined : Constellation Curve.full (SatelliteEntry Curve.full) :=
  (Transition.run (step .identity) initial rejoinedActions).getD initial

/-- The offline entry of the first run is listed beside the idle one of the second. -/
theorem rejoined_listedTwice :
    Transition.run (step .identity) initial rejoinedActions = some rejoined ∧
      ¬ OnePerNode .identity rejoined.doc ∧
      ∃ first second, Fleet.displayFleet Fleet.calendarChrono .identity (fun _ => true)
        (rejoined.doc.satelliteEntries.map .ok) =
          ⟨[Fleet.header, first, second], .ok (.ok ())⟩ := by
  refine ⟨rfl, ?_, _, _, rfl⟩
  intro unique
  have ids := unique (fun _ => true) _ _ (.refl _) (discoverSatellites_map_ok _ _ _)
  revert ids
  decide

end Constellation

end OrbitBuild
