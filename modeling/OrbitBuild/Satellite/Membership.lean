import OrbitBuild.Satellite.Access

/-! # What the allowed peers are

The set of allowed peers is filled from the answers of one query and from the events
of the subscription, which may repeat, contradict or leave out what the query found.
It is what both sources have named so far, in any order of events, and it misses no
satellite that was in the replica before the subscription or came with an event.
-/

namespace OrbitBuild

variable {curve : Curve} {Blob : Type}

namespace Access

/-- The entry is under a well-formed key of the peer. -/
def Names (entry : DocEntry Blob) (peer : PublicKey curve) : Prop :=
  ∃ nodeIdHex, entry.key = satellitePrefix ++ nodeIdHex ∧ parseNodeIdFromHex nodeIdHex = some peer

/-- An entry names the peer that its key gives. -/
theorem names_iff {entry : DocEntry Blob} {peer : PublicKey curve} :
    Names entry peer ↔ keyPeer entry.key = some peer := by
  simp only [Names, keyPeer, Option.bind_eq_some_iff, stripPrefix_eq_some]

/-- A satellite about to import a Doc of which its replica already holds something. -/
def State.importing (before : Doc Blob) : State curve Blob :=
  { State.initial with replica := before }

/-- The snapshot has been inserted and the lock released. -/
def Phase.started : Phase curve Blob → Bool
  | .populated | .serving _ => true
  | _ => false

/-- The start-up is over and every delivered item has been processed. -/
def State.CaughtUp (state : State curve Blob) : Prop :=
  state.phase.started = true ∧ state.processed = state.delivered

/-- Another node has written under the peer's key: before the import, or with an event. -/
def State.Announced (state : State curve Blob) (before : Doc Blob) (peer : PublicKey curve) :
    Prop :=
  (∃ entry ∈ before.records, Names entry peer) ∨
    ∃ entry, .ok (.insertRemote entry) ∈ state.delivered ∧ Names entry peer

/-- The three sources of the allowed peers. -/
theorem recorded_iff {state : State curve Blob} :
    state.Recorded ↔ ∀ peer, peer ∈ state.allowed ↔
      (∃ entry, .ok entry ∈ state.drained ∧ Names entry peer) ∨
        (∃ entry, .ok (.insertRemote entry) ∈ state.processed ∧ Names entry peer) ∨
          .ok (.neighborUp peer) ∈ state.processed := by
  have answers : ∀ peer : PublicKey curve, (∃ item ∈ state.drained, itemPeer item = some peer) ↔
      ∃ entry, .ok entry ∈ state.drained ∧ Names entry peer := by
    intro peer
    constructor
    · intro both
      obtain ⟨item, member, named⟩ := both
      cases item with
      | error error => cases named
      | ok entry => exact ⟨entry, member, names_iff.mpr named⟩
    · intro both
      obtain ⟨entry, member, named⟩ := both
      exact ⟨.ok entry, member, names_iff.mp named⟩
  have events : ∀ peer : PublicKey curve, (∃ item ∈ state.processed, eventPeer item = some peer) ↔
      (∃ entry, .ok (.insertRemote entry) ∈ state.processed ∧ Names entry peer) ∨
        .ok (.neighborUp peer) ∈ state.processed := by
    intro peer
    constructor
    · intro both
      obtain ⟨item, member, named⟩ := both
      cases item with
      | error error => cases named
      | ok event =>
          cases event with
          | insertRemote entry => exact Or.inl ⟨entry, member, names_iff.mpr named⟩
          | neighborUp other =>
              cases named
              exact Or.inr member
          | _ => cases named
    · intro either
      rcases either with ⟨entry, member, named⟩ | member
      · exact ⟨.ok (.insertRemote entry), member, names_iff.mp named⟩
      · exact ⟨.ok (.neighborUp peer), member, rfl⟩
  simp only [State.Recorded, answers, events]

/-- Once the start-up is over the whole snapshot has been inserted. -/
theorem drained_of_started {state : State curve Blob} (started : state.phase.started = true) :
    state.drained = state.snapshot := by
  have nothing : state.phase.pending = [] := by
    cases phase : state.phase with
    | populated | serving _ => rfl
    | _ => rw [phase] at started; cases started
  rw [State.snapshot, nothing, List.append_nil]

variable [DecidableEq Blob]

section Step

variable {state next : State curve Blob} {action : Action curve Blob}

/-- No step takes a peer away. -/
theorem allowed_subset_step (moved : step state action = some next) :
    state.allowed ⊆ next.allowed := by
  have grows : ∀ named : Option (PublicKey curve), state.allowed ⊆ learn state.allowed named :=
    fun named peer member => mem_learn.mpr (Or.inr member)
  cases moves_of_step moved with
  | drain populating => exact grows _
  | insert inserting => exact grows _
  | _ => exact subset_rfl

/-- Peers that are allowed stay allowed. -/
theorem allowed_subset {later : State curve Blob}
    (reached : Transition.Reachable step state later) :
    state.allowed ⊆ later.allowed :=
  reached.invariant (motive := fun current => state.allowed ⊆ current.allowed)
    (fun _ _ _ within moved => within.trans (allowed_subset_step moved)) subset_rfl

/-- What the snapshot and the events are known to contain. -/
structure Sourced (before : Doc Blob) (state : State curve Blob) : Prop where
  recorded : state.Recorded
  arrived : ∀ entry, .ok (.insertRemote entry) ∈ state.delivered → state.Holds entry.key
  answers : ∀ entry, .ok entry ∈ state.snapshot → state.Holds entry.key
  kept : ∀ entry ∈ before.records, state.Holds entry.key
  /-- The query has found what was there before the subscription. -/
  covered : state.phase.asked = true → ∀ entry ∈ before.records,
    satellitePrefix.isPrefixOf entry.key = true →
      ∃ found : DocEntry Blob, .ok found ∈ state.snapshot ∧ found.key = entry.key

omit [DecidableEq Blob] in
theorem Sourced.importing (before : Doc Blob) :
    Sourced before (State.importing before : State curve Blob) := by
  refine ⟨?_, nofun, nofun, fun entry member => ⟨entry, member, rfl⟩, nofun⟩
  intro peer
  simp only [State.importing, State.initial, Finset.notMem_empty, List.not_mem_nil, false_and,
    exists_false, or_self]

/-- Every step keeps what the allowed peers are taken from in the replica. -/
theorem Sourced.step {before : Doc Blob} (sourced : Sourced before state)
    (moved : Access.step state action = some next) : Sourced before next := by
  refine ⟨sourced.recorded.step moved, step_arrived sourced.arrived moved,
    step_answered sourced.answers moved, fun entry member => (sourced.kept entry member).step moved,
    ?_⟩
  rcases step_snapshot moved with ⟨items, -, -, -, snapshot, answers⟩ | ⟨-, same, snapshot⟩
  · intro _ entry member matching
    obtain ⟨held, stored, key⟩ := sourced.kept entry member
    have listed : held ∈ state.replica.satelliteEntries :=
      List.mem_filter.mpr ⟨stored, by rwa [key]⟩
    refine ⟨held, ?_, key⟩
    rw [snapshot]
    exact List.mem_append_right _ (EventStream.mem_events.mp (answers.mem_iff.mpr listed))
  · rw [same, snapshot]
    exact sourced.covered

end Step

/-- In every reachable state the replica holds what the allowed peers are taken from. -/
theorem Sourced.of_reachable {before : Doc Blob} {state : State curve Blob}
    (reached : Transition.Reachable Access.step (State.importing before) state) :
    Sourced before state :=
  reached.invariant (fun _ _ _ sourced moved => sourced.step moved) (.importing before)

omit [DecidableEq Blob] in
/-- No stranger is allowed. -/
theorem Sourced.of_mem_allowed {before : Doc Blob} {state : State curve Blob}
    (sourced : Sourced before state) {peer : PublicKey curve} (member : peer ∈ state.allowed) :
    (∃ entry ∈ state.replica.records, Names entry peer) ∨
      .ok (.neighborUp peer) ∈ state.processed := by
  rcases recorded_iff.mp sourced.recorded peer |>.mp member with
    ⟨entry, drained, named⟩ | ⟨entry, processed, named⟩ | neighbour
  · obtain ⟨held, stored, key⟩ := sourced.answers entry (List.mem_append_left _ drained)
    exact Or.inl ⟨held, stored, names_iff.mpr (key ▸ names_iff.mp named)⟩
  · have delivered : .ok (.insertRemote entry) ∈ state.delivered :=
      List.mem_append_left _ (List.mem_append_left _ processed)
    obtain ⟨held, stored, key⟩ := sourced.arrived entry delivered
    exact Or.inl ⟨held, stored, names_iff.mpr (key ▸ names_iff.mp named)⟩
  · exact Or.inr neighbour

omit [DecidableEq Blob] in
/-- Whoever is admitted is allowed. -/
theorem mem_allowed_of_admits {state : State curve Blob} {peer : PublicKey curve}
    (admitted : state.admits peer = true) : peer ∈ state.allowed := by
  unfold State.admits at admitted
  split at admitted
  · cases admitted
  · exact of_decide_eq_true admitted

omit [DecidableEq Blob] in
/-- No stranger is admitted. -/
theorem Sourced.of_admits {before : Doc Blob} {state : State curve Blob}
    (sourced : Sourced before state) {peer : PublicKey curve}
    (admitted : state.admits peer = true) :
    (∃ entry ∈ state.replica.records, Names entry peer) ∨
      .ok (.neighborUp peer) ∈ state.processed :=
  sourced.of_mem_allowed (mem_allowed_of_admits admitted)

omit [DecidableEq Blob] in
/-- No satellite that another node has announced is missed. -/
theorem Sourced.mem_of_caughtUp {before : Doc Blob} {state : State curve Blob}
    (sourced : Sourced before state) (caughtUp : state.CaughtUp) {peer : PublicKey curve}
    (announced : state.Announced before peer) : peer ∈ state.allowed := by
  obtain ⟨started, processed⟩ := caughtUp
  apply (recorded_iff.mp sourced.recorded peer).mpr
  rcases announced with ⟨entry, member, named⟩ | ⟨entry, delivered, named⟩
  · left
    obtain ⟨nodeIdHex, key, parsed⟩ := named
    have matching : satellitePrefix.isPrefixOf entry.key = true := by
      rw [key]
      exact List.isPrefixOf_iff_prefix.mpr (List.prefix_append ..)
    have asked : state.phase.asked = true := by
      cases phase : state.phase with
      | importing | subscribed => rw [phase] at started; cases started
      | _ => rfl
    obtain ⟨found, listed, same⟩ := sourced.covered asked entry member matching
    exact ⟨found, by rwa [drained_of_started started], nodeIdHex, same.trans key, parsed⟩
  · rw [← processed] at delivered
    exact Or.inr (Or.inl ⟨entry, delivered, named⟩)

/-- A query is answered once. -/
theorem snapshot_of_asked {actions : List (Action curve Blob)} {state final : State curve Blob}
    (asked : state.phase.asked = true)
    (reached : Transition.run step state actions = some final) :
    final.snapshot = state.snapshot ∧ ∀ items, .query items ∉ actions := by
  induction actions generalizing state with
  | nil =>
      cases reached
      exact ⟨rfl, nofun⟩
  | cons action rest ih =>
      obtain ⟨next, moved, tail⟩ := Transition.run_cons.mp reached
      rcases step_snapshot moved with ⟨-, -, subscribed, -⟩ | ⟨other, same, snapshot⟩
      · rw [subscribed] at asked
        cases asked
      · obtain ⟨kept, silent⟩ := ih (same.trans asked) tail
        refine ⟨kept.trans snapshot, ?_⟩
        intro items member
        rcases List.mem_cons.mp member with rfl | later
        · exact other items rfl
        · exact silent items later

/-- The snapshot is what the query of the run has answered. -/
theorem run_snapshot {actions : List (Action curve Blob)} {state final : State curve Blob}
    (fresh : state.phase.asked = false → state.snapshot = [])
    (unasked : state.phase.asked = false)
    (reached : Transition.run step state actions = some final) :
    (∀ items, .query items ∈ actions → final.snapshot = items) ∧
      ((∀ items, .query items ∉ actions) → final.snapshot = []) := by
  induction actions generalizing state with
  | nil =>
      cases reached
      exact ⟨nofun, fun _ => fresh unasked⟩
  | cons action rest ih =>
      obtain ⟨next, moved, tail⟩ := Transition.run_cons.mp reached
      rcases step_snapshot moved with ⟨asking, rfl, -, asked, snapshot, -⟩ | ⟨other, same, snapshot⟩
      · obtain ⟨kept, silent⟩ := snapshot_of_asked asked tail
        have nothing := (List.append_eq_nil_iff.mp (fresh unasked)).1
        rw [nothing, List.nil_append] at snapshot
        constructor
        · intro items member
          rcases List.mem_cons.mp member with ⟨⟨⟩⟩ | later
          · exact kept.trans snapshot
          · exact absurd later (silent items)
        · intro none
          exact absurd List.mem_cons_self (none asking)
      · have before := ih (fun unasked => snapshot.trans (fresh (same.symm.trans unasked)))
          (same.trans unasked) tail
        constructor
        · intro items member
          rcases List.mem_cons.mp member with equal | later
          · exact absurd equal.symm (other items)
          · exact before.1 items later
        · intro none
          exact before.2 fun items later => none items (List.mem_cons_of_mem _ later)

/-- **The allowed peers.** At every moment they are those that the inserted part of
the snapshot, the processed insertions and the processed neighbour events name. They
never shrink, the predicate admits no stranger, and once everything delivered has been
processed nobody whom another node has announced is missing. -/
theorem allowed_exact {before : Doc Blob} {actions : List (Action curve Blob)}
    {state : State curve Blob}
    (reached : Transition.run step (State.importing before) actions = some state) :
    (∀ peer, peer ∈ state.allowed ↔
      (∃ entry, .ok entry ∈ state.drained ∧ Names entry peer) ∨
        (∃ entry, .ok (.insertRemote entry) ∈ state.processed ∧ Names entry peer) ∨
          .ok (.neighborUp peer) ∈ state.processed) ∧
    (∀ items, .query items ∈ actions →
      state.drained <+: items ∧ (state.phase.started = true → state.drained = items)) ∧
    ((∀ items, .query items ∉ actions) → state.drained = []) ∧
    (∀ later, Transition.Reachable step state later → state.allowed ⊆ later.allowed) ∧
    (∀ peer, state.admits peer = true →
      (∃ entry ∈ state.replica.records, Names entry peer) ∨
        .ok (.neighborUp peer) ∈ state.processed) ∧
    (state.CaughtUp → ∀ peer, state.Announced before peer → peer ∈ state.allowed) := by
  have sourced := Sourced.of_reachable ⟨actions, reached⟩
  obtain ⟨answered, silent⟩ := run_snapshot (fun _ => rfl) rfl reached
  refine ⟨recorded_iff.mp sourced.recorded, ?_, ?_, fun _ => allowed_subset,
    fun _ => sourced.of_admits, fun caughtUp _ => sourced.mem_of_caughtUp caughtUp⟩
  · intro items member
    rw [← answered items member]
    exact ⟨List.prefix_append .., drained_of_started⟩
  · intro none
    exact (List.append_eq_nil_iff.mp (silent none)).1

/-- The record of a node that has written under its own key. -/
def ownRecord (author : Author) (byte : UInt8) : DocEntry Unit :=
  ⟨author, satelliteKey (PublicKey.ofByte byte), ()⟩

/-- A replica that already holds the first node's record. -/
def heldBefore : Doc Unit := AuthorStore.empty.write (ownRecord 1 1)

/-- Between the query and the insertion of its answers a second node's record arrives,
and a neighbour comes and goes. -/
def gapActions : List (Action Curve.full Unit) :=
  [.subscribe, .query [.error "lost", .ok (ownRecord 1 1)],
    .deliver (.ok (.insertRemote (ownRecord 2 3))),
    .deliver (.ok (.insertRemote ⟨3, satellitePrefix ++ [0x7A], ()⟩)), .lock, .drain,
    .deliver (.ok (.neighborUp (.ofByte 6))), .drain, .unlock, .spawn,
    .deliver (.ok (.neighborDown (.ofByte 6))), .take, .acquire, .insert, .take, .take, .acquire,
    .insert, .take]

def gapped : State Curve.full Unit :=
  (Transition.run step (State.importing heldBefore) gapActions).getD .initial

theorem gapped_allowed :
    Transition.run step (State.importing heldBefore) gapActions = some gapped ∧
      gapped.CaughtUp ∧ gapped.allowed = {.ofByte 1, .ofByte 3, .ofByte 6} ∧
      PublicKey.ofByte 1 ∈ gapped.allowed := by
  have reached : Transition.run step (State.importing heldBefore) gapActions = some gapped := rfl
  have caughtUp : gapped.CaughtUp := ⟨rfl, rfl⟩
  obtain ⟨-, -, -, -, -, complete⟩ := allowed_exact reached
  refine ⟨reached, caughtUp, by decide, complete caughtUp _ (Or.inl ?_)⟩
  exact ⟨ownRecord 1 1, List.mem_singleton_self _, names_iff.mpr (keyPeer_satelliteKey _)⟩

end Access

end OrbitBuild
