import OrbitBuild.Foundation.LastWrites
import OrbitBuild.Satellite.Rejoin

/-! # What discovery finds of a history

Every run of a satellite writes under an author of its own and always to the same key,
so of each run the Doc keeps what it wrote last, and a later run replaces nothing of an
earlier one. Mission Control discovers one pair for each run that got as far as its
registration.
-/

namespace OrbitBuild

variable {curve : Curve} {Blob : Type}

namespace Constellation

/-- An entry that a run of a node has written under its author. -/
structure Word (curve : Curve) where
  author : Author
  node : PublicKey curve
  entry : SatelliteEntry curve
  deriving DecidableEq

/-- The record that the write puts in the Doc. -/
def Word.record (codec : EntryCodec curve Blob) (word : Word curve) : DocEntry Blob :=
  ⟨word.author, satelliteKey word.node, codec.toVec word.entry⟩

/-- The pair that is discovered of the record. -/
def Word.element (word : Word curve) : String × SatelliteEntry curve :=
  (word.node.display, word.entry)

/-- What a step writes to the Doc. -/
def said (state : Constellation curve Blob) : Action curve → List (Word curve)
  | .start _ _ | .stop _ => []
  | .run node action =>
      match state.active node with
      | none => []
      | some active =>
          match Join.step active.config active.state action with
          | none => []
          | some (_, written) => written.toList.map fun entry => ⟨active.author, node, entry⟩

/-- Everything the runs of a history have written, oldest first. -/
def transcript (codec : EntryCodec curve Blob) (actions : List (Action curve)) :
    List (Word curve) :=
  Transition.outputs (step codec) said initial actions

/-- What each run of a history has written last. -/
def lastWords (codec : EntryCodec curve Blob) (actions : List (Action curve)) :
    List (Word curve) :=
  LastWrites.lasting Word.author (transcript codec actions)

/-- A step of a run says what it writes. -/
theorem said_run {codec : EntryCodec curve Blob} {state next : Constellation curve Blob}
    {node : PublicKey curve} {action : Join.Action}
    (moved : step codec state (.run node action) = some next) :
    ∃ active moves written, state.active node = some active ∧
      Join.step active.config active.state action = some (moves, written) ∧
      next.active = Function.update state.active node (some { active with state := moves }) ∧
      next.nextAuthor = state.nextAuthor ∧
      said state (.run node action) =
        written.toList.map (fun entry => ⟨active.author, node, entry⟩) ∧
      next.doc = applied codec state.doc active.author node written := by
  obtain ⟨active, moves, written, running, stepped, doc, author, actives, -⟩ :=
    step_run_eq_some moved
  refine ⟨active, moves, written, running, stepped, actives, author, ?_, doc⟩
  simp only [said, running, stepped]

/-- The Doc is what the writes leave of it, and each author belongs to one run. -/
structure Told (codec : EntryCodec curve Blob) (words : List (Word curve))
    (state : Constellation curve Blob) : Prop where
  doc : state.doc = (words.map (Word.record codec)).foldl AuthorStore.write AuthorStore.empty
  spoken : ∀ word ∈ words, word.author < state.nextAuthor
  running : ∀ node active, state.active node = some active → active.author < state.nextAuthor ∧
    ∀ word ∈ words, word.author = active.author → word.node = node
  apart : ∀ first second one other, state.active first = some one →
    state.active second = some other → one.author = other.author → first = second
  faithful : ∀ first ∈ words, ∀ second ∈ words, first.author = second.author →
    first.node = second.node

theorem Told.initial (codec : EntryCodec curve Blob) : Told codec [] initial := by
  refine ⟨rfl, nofun, nofun, ?_, nofun⟩
  intro first second one other running
  cases running

/-- A new run has an author of its own. -/
theorem Told.start {codec : EntryCodec curve Blob} {words : List (Word curve)}
    {state next : Constellation curve Blob} {config : JoinConfig curve} {addrs : List TransportAddr}
    (told : Told codec words state) (moved : step codec state (.start config addrs) = some next) :
    Told codec words next := by
  obtain ⟨-, doc, author, actives, -⟩ := step_start_eq_some moved
  have sooner : ∀ {earlier : Author}, earlier < state.nextAuthor → earlier < next.nextAuthor := by
    intro earlier before
    rw [author]
    exact Nat.lt_succ_of_lt before
  refine ⟨doc.trans told.doc, fun word member => sooner (told.spoken word member), ?_, ?_,
    told.faithful⟩
  · intro node active runs
    rw [actives] at runs
    rcases Transition.update_eq_some.mp runs with ⟨rfl, made⟩ | ⟨-, old⟩
    · cases made
      refine ⟨by rw [author]; exact Nat.lt_succ_self _, fun word member same => ?_⟩
      exact absurd same (Nat.ne_of_lt (told.spoken word member))
    · obtain ⟨before, kept⟩ := told.running node active old
      exact ⟨sooner before, kept⟩
  · intro first second one other runsFirst runsSecond same
    rw [actives] at runsFirst runsSecond
    rcases Transition.update_eq_some.mp runsFirst with ⟨rfl, madeFirst⟩ | ⟨-, oldFirst⟩ <;>
      rcases Transition.update_eq_some.mp runsSecond with ⟨rfl, madeSecond⟩ | ⟨-, oldSecond⟩
    · rfl
    · cases madeFirst
      exact absurd same.symm (Nat.ne_of_lt (told.running second other oldSecond).1)
    · cases madeSecond
      exact absurd same (Nat.ne_of_lt (told.running first one oldFirst).1)
    · exact told.apart first second one other oldFirst oldSecond same

/-- A run that stops says nothing more. -/
theorem Told.stop {codec : EntryCodec curve Blob} {words : List (Word curve)}
    {state next : Constellation curve Blob} {node : PublicKey curve}
    (told : Told codec words state) (moved : step codec state (.stop node) = some next) :
    Told codec words next := by
  obtain ⟨-, doc, author, actives, -⟩ := step_stop_eq_some moved
  have stays : ∀ other active, next.active other = some active →
      state.active other = some active := by
    intro other active runs
    rw [actives] at runs
    rcases Transition.update_eq_some.mp runs with ⟨-, ended⟩ | ⟨-, old⟩
    · cases ended
    · exact old
  refine ⟨doc.trans told.doc, ?_, ?_, ?_, told.faithful⟩
  · rw [author]
    exact told.spoken
  · intro other active runs
    rw [author]
    exact told.running other active (stays other active runs)
  · intro first second one other runsFirst runsSecond
    exact told.apart first second one other (stays first one runsFirst)
      (stays second other runsSecond)

/-- A run writes under the author it was started with. -/
theorem Told.run {codec : EntryCodec curve Blob} {words : List (Word curve)}
    {state next : Constellation curve Blob} {node : PublicKey curve} {action : Join.Action}
    (told : Told codec words state) (moved : step codec state (.run node action) = some next) :
    Told codec (words ++ said state (.run node action)) next := by
  obtain ⟨active, moves, written, runs, -, actives, author, words', doc⟩ := said_run moved
  obtain ⟨issued, own⟩ := told.running node active runs
  have fresh : ∀ word ∈ said state (.run node action),
      word.author = active.author ∧ word.node = node := by
    rw [words']
    intro word member
    obtain ⟨entry, -, rfl⟩ := List.mem_map.mp member
    exact ⟨rfl, rfl⟩
  have stays : ∀ other later, next.active other = some later →
      ∃ before, state.active other = some before ∧ later.author = before.author := by
    intro other later now
    rw [actives] at now
    rcases Transition.update_eq_some.mp now with ⟨rfl, made⟩ | ⟨-, old⟩
    · cases made
      exact ⟨active, runs, rfl⟩
    · exact ⟨later, old, rfl⟩
  refine ⟨?_, ?_, ?_, ?_, ?_⟩
  · rw [doc, told.doc, words', List.map_append, List.foldl_append]
    cases written <;> rfl
  · intro word member
    rw [author]
    rcases List.mem_append.mp member with old | now
    · exact told.spoken word old
    · rw [(fresh word now).1]
      exact issued
  · intro other later now
    obtain ⟨before, was, same⟩ := stays other later now
    obtain ⟨earlier, kept⟩ := told.running other before was
    rw [author, same]
    refine ⟨earlier, fun word member equal => ?_⟩
    rcases List.mem_append.mp member with old | wrote
    · exact kept word old equal
    · obtain ⟨by_, at_⟩ := fresh word wrote
      rw [at_]
      exact told.apart node other active before runs was (by_.symm.trans equal)
  · intro first second one other runsFirst runsSecond same
    obtain ⟨was, running, equal⟩ := stays first one runsFirst
    obtain ⟨wasOther, runningOther, equalOther⟩ := stays second other runsSecond
    rw [equal, equalOther] at same
    exact told.apart first second was wasOther running runningOther same
  · intro first memberFirst second memberSecond same
    rcases List.mem_append.mp memberFirst with oldFirst | newFirst <;>
      rcases List.mem_append.mp memberSecond with oldSecond | newSecond
    · exact told.faithful first oldFirst second oldSecond same
    · obtain ⟨by_, at_⟩ := fresh second newSecond
      rw [at_]
      exact own first oldFirst (same.trans by_)
    · obtain ⟨by_, at_⟩ := fresh first newFirst
      rw [at_]
      exact (own second oldSecond (same.symm.trans by_)).symm
    · rw [(fresh first newFirst).2, (fresh second newSecond).2]

/-- The Doc follows what is said in every step. -/
theorem Told.step {codec : EntryCodec curve Blob} {words : List (Word curve)}
    {state next : Constellation curve Blob} {action : Action curve}
    (told : Told codec words state) (moved : Constellation.step codec state action = some next) :
    Told codec (words ++ said state action) next := by
  cases action with
  | start config addrs =>
      rw [said, List.append_nil]
      exact told.start moved
  | run node action => exact told.run moved
  | stop node =>
      rw [said, List.append_nil]
      exact told.stop moved

/-- After every run the Doc is what has been said leaves of it. -/
theorem Told.of_run {codec : EntryCodec curve Blob} {actions : List (Action curve)}
    {final : Constellation curve Blob}
    (reached : Transition.run (Constellation.step codec) Constellation.initial actions =
      some final) : Told codec (transcript codec actions) final :=
  Transition.run_outputs_invariant (fun _ _ _ _ told moved => told.step moved) (Told.initial codec)
    reached

/-- The Doc holds the last words, in the order in which they were written. -/
theorem records_eq_lastWords {codec : EntryCodec curve Blob} {actions : List (Action curve)}
    {final : Constellation curve Blob}
    (reached : Transition.run (Constellation.step codec) Constellation.initial actions =
      some final) :
    final.doc.records = (lastWords codec actions).map (Word.record codec) := by
  have told := Told.of_run reached
  have slots : ∀ first ∈ transcript codec actions, ∀ second ∈ transcript codec actions,
      (AuthorRecord.slot ∘ Word.record codec) first =
          (AuthorRecord.slot ∘ Word.record codec) second ↔
        first.author = second.author := by
    intro first memberFirst second memberSecond
    simp only [Function.comp_apply, AuthorRecord.slot, Word.record, Prod.mk.injEq]
    constructor
    · exact fun both => both.1
    · intro same
      exact ⟨same, by rw [told.faithful first memberFirst second memberSecond same]⟩
  rw [told.doc, AuthorStore.records_writes_empty, LastWrites.lasting_map,
    LastWrites.lasting_congr slots, lastWords]

/-- The entry of a word is discovered if its blob is present. -/
theorem discoverEntry_record (codec : EntryCodec curve Blob) (present : Blob → Bool)
    (word : Word curve) :
    discoverEntry codec present (word.record codec) =
      if present (codec.toVec word.entry) then some word.element else none := by
  split
  · next held =>
      apply discoverEntry_eq_some.mpr
      refine ⟨_, rfl, held, codec.fromSlice_toVec word.entry, ?_⟩
      exact (Utf8.fromUtf8Lossy_encode word.node.display_ascii).symm
  · next missing =>
      apply Option.eq_none_iff_forall_ne_some.mpr
      intro element decoded
      obtain ⟨-, -, held, -⟩ := discoverEntry_eq_some.mp decoded
      exact missing held

/-- The last words whose blob Mission Control has. -/
def heard (codec : EntryCodec curve Blob) (present : Blob → Bool) (actions : List (Action curve)) :
    List (Word curve) :=
  (lastWords codec actions).filter fun word => present (codec.toVec word.entry)

/-- The words whose blobs are present are discovered, in order. -/
theorem filterMap_discoverEntry (codec : EntryCodec curve Blob) (present : Blob → Bool)
    (words : List (Word curve)) :
    (words.map (Word.record codec)).filterMap (discoverEntry codec present) =
      (words.filter fun word => present (codec.toVec word.entry)).map Word.element := by
  induction words with
  | nil => rfl
  | cons word rest ih =>
      rw [List.map_cons, List.filterMap_cons, discoverEntry_record, List.filter_cons, ih]
      cases present (codec.toVec word.entry) <;> rfl

/-- Whatever the order of the query, the last words that are heard are what it yields. -/
theorem discovered_perm_heard {codec : EntryCodec curve Blob} {actions : List (Action curve)}
    {final : Constellation curve Blob}
    (reached : Transition.run (Constellation.step codec) Constellation.initial actions = some final)
    {queried : List (DocEntry Blob)} (order : queried.Perm final.doc.satelliteEntries)
    {present : Blob → Bool} {found : List (String × SatelliteEntry curve)}
    (discovered : discoverSatellites codec present (queried.map .ok) = .ok found) :
    found.Perm ((heard codec present actions).map Word.element) := by
  have holds := (Honest.of_reachable ⟨actions, reached⟩).records
  rw [discoverSatellites_map_ok, Except.ok.injEq] at discovered
  rw [holds.satelliteEntries, records_eq_lastWords reached] at order
  rw [← discovered, heard, ← filterMap_discoverEntry]
  exact order.filterMap _

/-- No run in progress has this author, and it has been issued. -/
def Retired (state : Constellation curve Blob) (author : Author) : Prop :=
  author < state.nextAuthor ∧
    ∀ node active, state.active node = some active → active.author ≠ author

/-- The author of a run that has ended stays silent. -/
theorem Retired.step {codec : EntryCodec curve Blob} {state next : Constellation curve Blob}
    {action : Action curve} {author : Author} (retired : state.Retired author)
    (moved : Constellation.step codec state action = some next) :
    next.Retired author ∧ ∀ word ∈ said state action, author ≠ word.author := by
  obtain ⟨issued, idle⟩ := retired
  cases action with
  | start config addrs =>
      obtain ⟨-, -, later, actives, -⟩ := step_start_eq_some moved
      refine ⟨⟨by rw [later]; exact Nat.lt_succ_of_lt issued, ?_⟩, nofun⟩
      intro node active runs
      rw [actives] at runs
      rcases Transition.update_eq_some.mp runs with ⟨-, made⟩ | ⟨-, old⟩
      · cases made
        exact (Nat.ne_of_lt issued).symm
      · exact idle node active old
  | run owner action =>
      obtain ⟨active, moves, written, running, -, actives, same, words, -⟩ := said_run moved
      refine ⟨⟨by rw [same]; exact issued, ?_⟩, ?_⟩
      · intro node later runs
        rw [actives] at runs
        rcases Transition.update_eq_some.mp runs with ⟨-, made⟩ | ⟨-, old⟩
        · cases made
          exact idle owner active running
        · exact idle node later old
      · rw [words]
        intro word member
        obtain ⟨entry, -, rfl⟩ := List.mem_map.mp member
        exact (idle owner active running).symm
  | stop stopped =>
      obtain ⟨-, -, same, actives, -⟩ := step_stop_eq_some moved
      refine ⟨⟨by rw [same]; exact issued, ?_⟩, nofun⟩
      intro node active runs
      rw [actives] at runs
      rcases Transition.update_eq_some.mp runs with ⟨-, ended⟩ | ⟨-, old⟩
      · cases ended
      · exact idle node active old

/-- An author whose run has ended says nothing more. -/
theorem Retired.silent {codec : EntryCodec curve Blob} {state final : Constellation curve Blob}
    {actions : List (Action curve)} {author : Author} (retired : state.Retired author)
    (reached : Transition.run (Constellation.step codec) state actions = some final) :
    ∀ word ∈ Transition.outputs (Constellation.step codec) said state actions,
      author ≠ word.author := by
  induction actions generalizing state with
  | nil => nofun
  | cons action rest ih =>
      obtain ⟨next, moved, tail⟩ := Transition.run_cons.mp reached
      obtain ⟨stays, silent⟩ := retired.step moved
      intro word member
      simp only [Transition.outputs, moved] at member
      rcases List.mem_append.mp member with now | later
      · exact silent word now
      · exact ih stays tail word later

/-- **What is discovered.** Whatever the order of the query and whichever blobs are there:
of each run Mission Control discovers what it wrote last and nothing else, and what a run
that has ended wrote last is there after every continuation of the history. -/
theorem discovered_lastWords (codec : EntryCodec curve Blob) {actions : List (Action curve)}
    {final : Constellation curve Blob}
    (reached : Transition.run (step codec) initial actions = some final) :
    (∀ word, word ∈ lastWords codec actions ↔
      ∃ before after, transcript codec actions = before ++ word :: after ∧
        ∀ other ∈ after, word.author ≠ other.author) ∧
    (∀ word ∈ transcript codec actions, ∃ last ∈ lastWords codec actions,
      last.author = word.author ∧ last.node = word.node) ∧
    (lastWords codec actions).Pairwise (fun first second => first.author ≠ second.author) ∧
    (∀ (queried : List (DocEntry Blob)) (present : Blob → Bool),
      queried.Perm final.doc.satelliteEntries →
      ∃ found, discoverSatellites codec present (queried.map .ok) = .ok found ∧
        found.Perm ((heard codec present actions).map Word.element)) ∧
    ∀ word ∈ lastWords codec actions, final.Retired word.author → ∀ more later,
      Transition.run (step codec) final more = some later →
        word ∈ lastWords codec (actions ++ more) := by
  refine ⟨fun _ => LastWrites.mem_lasting, ?_, LastWrites.pairwise_lasting _, ?_, ?_⟩
  · intro word member
    obtain ⟨last, lasts, same⟩ : ∃ last ∈ lastWords codec actions, last.author = word.author :=
      LastWrites.exists_lasting member
    have spoken := LastWrites.mem_of_mem_lasting lasts
    exact ⟨last, lasts, same, (Told.of_run reached).faithful last spoken word member same⟩
  · intro queried present order
    refine ⟨_, discoverSatellites_map_ok codec present queried, ?_⟩
    exact discovered_perm_heard reached order (discoverSatellites_map_ok codec present queried)
  · intro word member retired more later continued
    rw [lastWords, transcript, Transition.outputs_append reached]
    exact LastWrites.mem_lasting_append member (retired.silent continued)

/-- The amd64 node has registered and crashed. -/
def crashed : Constellation Curve.full (SatelliteEntry Curve.full) :=
  (Transition.run (step .identity) initial (crashedActions 10)).getD initial

/-- The entry of the crashed run is there after another run of the node. -/
theorem crashed_lastWords :
    ∃ later, Transition.run (step .identity) crashed (gracefulActions 20) = some later ∧
      ⟨0, Join.amd64Join.nodeId, Join.amd64Join.idleEntry ⟨Join.amd64Join.nodeId, []⟩ 10⟩ ∈
        lastWords .identity (crashedActions 10 ++ gracefulActions 20) := by
  have reached : Transition.run (step .identity) initial (crashedActions 10) = some crashed := rfl
  obtain ⟨lasts, -, -, -, kept⟩ := discovered_lastWords .identity reached
  refine ⟨_, rfl, kept _ ((lasts _).mpr ⟨[], [], rfl, nofun⟩) ⟨by decide, ?_⟩ _ _ rfl⟩
  intro node active running
  rcases Transition.update_eq_some.mp running with ⟨-, ended⟩ | ⟨other, before⟩
  · cases ended
  · rcases Transition.update_eq_some.mp before with ⟨same, -⟩ | ⟨-, before⟩
    · exact absurd same other
    · rcases Transition.update_eq_some.mp before with ⟨same, -⟩ | ⟨-, none⟩
      · exact absurd same other
      · cases none

end Constellation

end OrbitBuild
