import OrbitBuild.Core.Doc
import OrbitBuild.Foundation.EventStream
import OrbitBuild.Foundation.Transition
import Mathlib.Data.Finset.Insert

/-! # Who may open a build connection

A satellite keeps the set of allowed peers behind a lock: the start-up inserts
the peers named in the Doc, then a task inserts those named in later events and
the neighbours in the gossip swarm. The predicate of `AccessLimit` tries the lock
and denies the connection while it is held.
-/

namespace OrbitBuild

variable {curve : Curve} {Blob : Type}

namespace Access

/-- Where the event task is in its loop. -/
inductive TaskPhase (curve : Curve) (Blob : Type)
  | waiting
  /-- At `allowed_clone.write().await`, with a peer to insert. -/
  | locking (event : LiveEvent curve Blob)
  /-- The write lock is held. -/
  | inserting (event : LiveEvent curve Blob)

/-- How far the satellite has come. -/
inductive Phase (curve : Curve) (Blob : Type)
  /-- Before `import_and_subscribe` returns. -/
  | importing
  | subscribed
  /-- The query for the existing entries has been answered. -/
  | queried (items : List (Except String (DocEntry Blob)))
  /-- The write lock is held while the answers are inserted. -/
  | populating (items : List (Except String (DocEntry Blob)))
  | populated
  /-- The event task is spawned. -/
  | serving (task : TaskPhase curve Blob)

structure State (curve : Curve) (Blob : Type) where
  /-- The entries the local replica of the Doc holds. -/
  replica : Doc Blob
  allowed : Finset (PublicKey curve)
  phase : Phase curve Blob
  /-- The items of the subscription that the task has not taken. -/
  queue : List (Except String (LiveEvent curve Blob))
  /-- The answers and the items whose handling is complete, oldest first. -/
  drained : List (Except String (DocEntry Blob))
  processed : List (Except String (LiveEvent curve Blob))

/-- The docs of a node live in memory, so a run starts with an empty replica. -/
def State.initial : State curve Blob where
  replica := AuthorStore.empty
  allowed := ∅
  phase := .importing
  queue := []
  drained := []
  processed := []

/-- Whether the write lock of the allowed peers is held. The predicate is asked for one
connection at a time: no writer waits behind the read guard of another call. -/
def Phase.locked : Phase curve Blob → Bool
  | .populating _ | .serving (.inserting _) => true
  | _ => false

/-- The `AccessLimit` predicate: `try_read`, then membership. -/
def State.admits (state : State curve Blob) (peer : PublicKey curve) : Bool :=
  if state.phase.locked then false else decide (peer ∈ state.allowed)

/-- The peer an answer of the query names. -/
def itemPeer : Except String (DocEntry Blob) → Option (PublicKey curve)
  | .ok entry => keyPeer entry.key
  | .error _ => none

/-- The peer the event task inserts for an item. Nothing is done for a neighbour that leaves. -/
def eventPeer : Except String (LiveEvent curve Blob) → Option (PublicKey curve)
  | .ok (.insertRemote entry) => keyPeer entry.key
  | .ok (.neighborUp peer) => some peer
  | _ => none

/-- The allowed peers after an answer or an item that may name one. -/
def learn (allowed : Finset (PublicKey curve)) : Option (PublicKey curve) → Finset (PublicKey curve)
  | none => allowed
  | some peer => insert peer allowed

/-- The replica after an item of the subscription. -/
def applyEvent (replica : Doc Blob) : Except String (LiveEvent curve Blob) → Doc Blob
  | .ok (.insertRemote entry) | .ok (.insertLocal entry) => replica.write entry
  | _ => replica

inductive Action (curve : Curve) (Blob : Type)
  | subscribe
  /-- The Docs engine applies an event and puts it in the subscription. -/
  | deliver (item : Except String (LiveEvent curve Blob))
  | query (items : List (Except String (DocEntry Blob)))
  | lock
  | drain
  | unlock
  | spawn
  | take
  | acquire
  | insert

/-- The answers of a query: the matching entries in some order, and errors. -/
def Answers (replica : Doc Blob) (items : List (Except String (DocEntry Blob))) : Prop :=
  (EventStream.events items).Perm replica.satelliteEntries

instance [DecidableEq Blob] (replica : Doc Blob) (items : List (Except String (DocEntry Blob))) :
    Decidable (Answers replica items) :=
  inferInstanceAs (Decidable ((EventStream.events items).Perm replica.satelliteEntries))

variable [DecidableEq Blob]

def step (state : State curve Blob) : Action curve Blob → Option (State curve Blob)
  | .subscribe =>
      match state.phase with
      | .importing => some { state with phase := .subscribed }
      | _ => none
  | .deliver item =>
      match state.phase with
      | .importing => none
      | _ => some { state with
          replica := applyEvent state.replica item
          queue := state.queue ++ [item] }
  | .query items =>
      match state.phase with
      | .subscribed =>
          if Answers state.replica items then some { state with phase := .queried items } else none
      | _ => none
  | .lock =>
      match state.phase with
      | .queried items => some { state with phase := .populating items }
      | _ => none
  | .drain =>
      match state.phase with
      | .populating (item :: rest) =>
          some { state with
            phase := .populating rest
            allowed := learn state.allowed (itemPeer item)
            drained := state.drained ++ [item] }
      | _ => none
  | .unlock =>
      match state.phase with
      | .populating [] => some { state with phase := .populated }
      | _ => none
  | .spawn =>
      match state.phase with
      | .populated => some { state with phase := .serving .waiting }
      | _ => none
  | .take =>
      match state.phase, state.queue with
      | .serving .waiting, .ok event :: rest =>
          if (eventPeer (.ok event)).isSome then
            some { state with phase := .serving (.locking event), queue := rest }
          else some { state with queue := rest, processed := state.processed ++ [.ok event] }
      | .serving .waiting, .error error :: rest =>
          some { state with queue := rest, processed := state.processed ++ [.error error] }
      | _, _ => none
  | .acquire =>
      match state.phase with
      | .serving (.locking event) => some { state with phase := .serving (.inserting event) }
      | _ => none
  | .insert =>
      match state.phase with
      | .serving (.inserting event) =>
          some { state with
            phase := .serving .waiting
            allowed := learn state.allowed (eventPeer (.ok event))
            processed := state.processed ++ [.ok event] }
      | _ => none

/-- The event the task has taken and not finished. -/
def Phase.inHand : Phase curve Blob → List (Except String (LiveEvent curve Blob))
  | .serving (.locking event) | .serving (.inserting event) => [.ok event]
  | _ => []

/-- The answers of the query that are still to be inserted. -/
def Phase.pending : Phase curve Blob → List (Except String (DocEntry Blob))
  | .queried items | .populating items => items
  | _ => []

/-- Every item of the subscription so far: handled, in hand, or still queued. -/
def State.delivered (state : State curve Blob) : List (Except String (LiveEvent curve Blob)) :=
  state.processed ++ state.phase.inHand ++ state.queue

/-- The event task waits and no event is left to process. -/
def State.Quiescent (state : State curve Blob) : Prop :=
  state.phase = .serving .waiting ∧ state.queue = []

omit [DecidableEq Blob] in
/-- The peer that is named joins those that are allowed. -/
theorem mem_learn {allowed : Finset (PublicKey curve)} {named : Option (PublicKey curve)}
    {peer : PublicKey curve} : peer ∈ learn allowed named ↔ named = some peer ∨ peer ∈ allowed := by
  cases named with
  | none => simp [learn]
  | some other => simp [learn, eq_comm]

/-- What each action needs, and what it makes of the state. -/
inductive Moves (state : State curve Blob) : Action curve Blob → State curve Blob → Prop
  | subscribe (importing : state.phase = .importing) :
      Moves state .subscribe { state with phase := .subscribed }
  | deliver (item : Except String (LiveEvent curve Blob)) :
      Moves state (.deliver item)
        { state with
          replica := applyEvent state.replica item
          queue := state.queue ++ [item] }
  | query (items : List (Except String (DocEntry Blob))) (subscribed : state.phase = .subscribed)
      (answers : Answers state.replica items) :
      Moves state (.query items) { state with phase := .queried items }
  | lock {items : List (Except String (DocEntry Blob))} (queried : state.phase = .queried items) :
      Moves state .lock { state with phase := .populating items }
  | drain {item : Except String (DocEntry Blob)} {rest : List (Except String (DocEntry Blob))}
      (populating : state.phase = .populating (item :: rest)) :
      Moves state .drain
        { state with
          phase := .populating rest
          allowed := learn state.allowed (itemPeer item)
          drained := state.drained ++ [item] }
  | unlock (drained : state.phase = .populating []) :
      Moves state .unlock { state with phase := .populated }
  | spawn (populated : state.phase = .populated) :
      Moves state .spawn { state with phase := .serving .waiting }
  | takeNamed {event : LiveEvent curve Blob} {rest : List (Except String (LiveEvent curve Blob))}
      (waiting : state.phase = .serving .waiting) (queue : state.queue = .ok event :: rest) :
      Moves state .take { state with phase := .serving (.locking event), queue := rest }
  | takeUnnamed {item : Except String (LiveEvent curve Blob)}
      {rest : List (Except String (LiveEvent curve Blob))}
      (waiting : state.phase = .serving .waiting) (queue : state.queue = item :: rest)
      (unnamed : eventPeer item = none) :
      Moves state .take { state with queue := rest, processed := state.processed ++ [item] }
  | acquire {event : LiveEvent curve Blob} (locking : state.phase = .serving (.locking event)) :
      Moves state .acquire { state with phase := .serving (.inserting event) }
  | insert {event : LiveEvent curve Blob} (inserting : state.phase = .serving (.inserting event)) :
      Moves state .insert
        { state with
          phase := .serving .waiting
          allowed := learn state.allowed (eventPeer (.ok event))
          processed := state.processed ++ [.ok event] }

/-- Each step of the code is one of those listed. -/
theorem moves_of_step {state next : State curve Blob} {action : Action curve Blob}
    (moved : Access.step state action = some next) : Moves state action next := by
  cases action with
  | query items =>
      simp only [Access.step] at moved
      split at moved
      · next subscribed =>
          obtain ⟨answers, equation⟩ := Option.ite_none_right_eq_some.mp moved
          cases equation
          exact .query items subscribed answers
      · cases moved
  | take =>
      simp only [Access.step] at moved
      split at moved
      · next event rest waiting queue =>
          split at moved
          · cases moved
            exact .takeNamed waiting queue
          · next unnamed =>
              cases moved
              exact .takeUnnamed waiting queue (Option.not_isSome_iff_eq_none.mp unnamed)
      · next error rest waiting queue =>
          cases moved
          exact .takeUnnamed waiting queue rfl
      · cases moved
  | deliver item =>
      simp only [Access.step] at moved
      split at moved
      · cases moved
      · cases moved
        exact .deliver item
  | _ =>
      simp only [Access.step] at moved
      split at moved
      · next phase =>
          cases moved
          constructor
          exact phase
      · cases moved

/-- The allowed peers are those that an inserted answer or a processed event names. -/
def State.Recorded (state : State curve Blob) : Prop :=
  ∀ peer, peer ∈ state.allowed ↔
    (∃ item ∈ state.drained, itemPeer item = some peer) ∨
      ∃ item ∈ state.processed, eventPeer item = some peer

/-- Every step accounts for the peers it allows. -/
theorem State.Recorded.step {state next : State curve Blob} {action : Action curve Blob}
    (recorded : state.Recorded) (moved : Access.step state action = some next) : next.Recorded := by
  intro peer
  have before := recorded peer
  cases moves_of_step moved with
  | drain populating =>
      simp only [mem_learn, before, List.mem_append, List.mem_singleton]
      grind
  | takeUnnamed waiting queue unnamed =>
      simp only [before, List.mem_append, List.mem_singleton]
      grind
  | insert inserting =>
      simp only [mem_learn, before, List.mem_append, List.mem_singleton]
      grind
  | _ => exact before

/-- Only a delivery changes the replica and the items of the subscription. -/
theorem step_delivered {state next : State curve Blob} {action : Action curve Blob}
    (moved : Access.step state action = some next) :
    (∃ item, action = .deliver item ∧ next.delivered = state.delivered ++ [item] ∧
      next.replica = applyEvent state.replica item) ∨
      (∀ item, action ≠ .deliver item) ∧ next.delivered = state.delivered ∧
        next.replica = state.replica := by
  cases moves_of_step moved with
  | deliver item =>
      exact Or.inl ⟨item, rfl, (List.append_assoc _ _ _).symm, rfl⟩
  | takeNamed waiting queue | takeUnnamed waiting queue unnamed =>
      refine Or.inr ⟨nofun, ?_, rfl⟩
      simp only [State.delivered, Phase.inHand, waiting, queue, List.append_nil, List.append_assoc,
        List.singleton_append]
  | subscribe phase | query items phase answers | lock phase | drain phase | unlock phase
  | spawn phase | acquire phase | insert phase =>
      refine Or.inr ⟨nofun, ?_, rfl⟩
      simp only [State.delivered, Phase.inHand, phase, List.append_nil]

/-- What the query has answered: inserted, or still to be inserted. -/
def State.snapshot (state : State curve Blob) : List (Except String (DocEntry Blob)) :=
  state.drained ++ state.phase.pending

/-- The query has been answered. -/
def Phase.asked : Phase curve Blob → Bool
  | .importing | .subscribed => false
  | _ => true

/-- Only the query changes the snapshot. -/
theorem step_snapshot {state next : State curve Blob} {action : Action curve Blob}
    (moved : Access.step state action = some next) :
    (∃ items, action = .query items ∧ state.phase = .subscribed ∧ next.phase.asked = true ∧
      next.snapshot = state.drained ++ items ∧ Answers state.replica items) ∨
      (∀ items, action ≠ .query items) ∧ next.phase.asked = state.phase.asked ∧
        next.snapshot = state.snapshot := by
  cases moves_of_step moved with
  | query items subscribed answers =>
      exact Or.inl ⟨items, rfl, subscribed, rfl, rfl, answers⟩
  | deliver item => exact Or.inr ⟨nofun, rfl, rfl⟩
  | drain populating =>
      refine Or.inr ⟨nofun, by rw [populating]; rfl, ?_⟩
      simp only [State.snapshot, Phase.pending, populating, List.append_assoc,
        List.singleton_append]
  | subscribe phase | lock phase | unlock phase | spawn phase | takeNamed phase queue
  | takeUnnamed phase queue unnamed | acquire phase | insert phase =>
      refine Or.inr ⟨nofun, by simp only [phase, Phase.asked], ?_⟩
      simp only [State.snapshot, Phase.pending, phase]

/-- Some entry of the replica is under this key. -/
def State.Holds (state : State curve Blob) (key : List UInt8) : Prop :=
  ∃ held ∈ state.replica.records, held.key = key

/-- The keys of the replica are those of the insertions delivered so far, and the
answers of the query are under such keys. -/
structure Replicated (state : State curve Blob) : Prop where
  arrived : ∀ entry, .ok (.insertRemote entry) ∈ state.delivered → state.Holds entry.key
  origin : ∀ key, state.Holds key → ∃ entry : DocEntry Blob, entry.key = key ∧
    (.ok (.insertRemote entry) ∈ state.delivered ∨ .ok (.insertLocal entry) ∈ state.delivered)
  answers : ∀ entry, .ok entry ∈ state.drained ++ state.phase.pending → state.Holds entry.key

omit [DecidableEq Blob] in
/-- An item of the subscription adds its key and takes none away. -/
theorem holds_applyEvent {state next : State curve Blob}
    {item : Except String (LiveEvent curve Blob)}
    (replica : next.replica = applyEvent state.replica item) {key : List UInt8} :
    next.Holds key ↔ state.Holds key ∨ ∃ entry : DocEntry Blob, entry.key = key ∧
      (item = .ok (.insertRemote entry) ∨ item = .ok (.insertLocal entry)) := by
  unfold State.Holds
  rw [replica]
  cases item with
  | error error => simp [applyEvent]
  | ok event =>
      cases event with
      | insertRemote entry =>
          simp only [applyEvent, AuthorStore.exists_key_write, Except.ok.injEq,
            LiveEvent.insertRemote.injEq, reduceCtorEq, or_false]
          grind
      | insertLocal entry =>
          simp only [applyEvent, AuthorStore.exists_key_write, Except.ok.injEq,
            LiveEvent.insertLocal.injEq, reduceCtorEq, false_or]
          grind
      | _ => simp [applyEvent]

section Step

variable {state next : State curve Blob} {action : Action curve Blob}

/-- Entries are replaced, never removed. -/
theorem State.Holds.step {key : List UInt8} (held : state.Holds key)
    (moved : Access.step state action = some next) : next.Holds key := by
  rcases step_delivered moved with ⟨item, -, -, replica⟩ | ⟨-, -, replica⟩
  · exact (holds_applyEvent replica).mpr (Or.inl held)
  · rwa [State.Holds, replica]

omit [DecidableEq Blob] in
/-- The replica holds every key that the query yields. -/
theorem holds_of_answers {items : List (Except String (DocEntry Blob))}
    (answers : Answers state.replica items) {entry : DocEntry Blob}
    (member : .ok entry ∈ items) : state.Holds entry.key := by
  have found := answers.mem_iff.mp (EventStream.mem_events.mpr member)
  exact ⟨entry, (List.mem_filter.mp found).1, rfl⟩

/-- The keys of the answers stay in the replica. -/
theorem step_answered
    (answers : ∀ entry, .ok entry ∈ state.snapshot → state.Holds entry.key)
    (moved : Access.step state action = some next) :
    ∀ entry, .ok entry ∈ next.snapshot → next.Holds entry.key := by
  intro entry member
  refine State.Holds.step ?_ moved
  rcases step_snapshot moved with ⟨items, -, -, -, snapshot, asked⟩ | ⟨-, -, snapshot⟩
  · rw [snapshot] at member
    rcases List.mem_append.mp member with old | fresh
    · exact answers entry (List.mem_append_left _ old)
    · exact holds_of_answers asked fresh
  · rw [snapshot] at member
    exact answers entry member

/-- An insertion that has arrived stays in the replica. -/
theorem step_arrived
    (arrived : ∀ entry, .ok (.insertRemote entry) ∈ state.delivered → state.Holds entry.key)
    (moved : Access.step state action = some next) :
    ∀ entry, .ok (.insertRemote entry) ∈ next.delivered → next.Holds entry.key := by
  intro entry member
  rcases step_delivered moved with ⟨item, -, delivered, replica⟩ | ⟨-, delivered, -⟩
  · rw [delivered, List.mem_append, List.mem_singleton] at member
    rcases member with old | rfl
    · exact (arrived entry old).step moved
    · exact (holds_applyEvent replica).mpr (Or.inr ⟨entry, rfl, Or.inl rfl⟩)
  · rw [delivered] at member
    exact (arrived entry member).step moved

/-- Every step keeps the replica to the insertions that have been delivered. -/
theorem Replicated.step (replicated : Replicated state)
    (moved : Access.step state action = some next) : Replicated next := by
  refine ⟨step_arrived replicated.arrived moved, ?_, step_answered replicated.answers moved⟩
  intro key held
  rcases step_delivered moved with ⟨item, -, delivered, replica⟩ | ⟨-, delivered, replica⟩
  · rw [delivered]
    rcases (holds_applyEvent replica).mp held with old | ⟨entry, same, inserted⟩
    · obtain ⟨entry, same, inserted⟩ := replicated.origin key old
      exact ⟨entry, same, inserted.imp (List.mem_append_left _) (List.mem_append_left _)⟩
    · refine ⟨entry, same, inserted.imp ?_ ?_⟩ <;> rintro rfl <;>
        exact List.mem_append_right _ (List.mem_singleton_self _)
  · rw [delivered]
    rw [State.Holds, replica] at held
    exact replicated.origin key held

end Step

omit [DecidableEq Blob] in
/-- When no event is being processed, the predicate admits a peer exactly if a
neighbour event named it or the replica holds a key that names it. -/
theorem admits_iff_of_quiescent {state : State curve Blob} (recorded : state.Recorded)
    (replicated : Replicated state) (quiescent : state.Quiescent) {peer : PublicKey curve}
    (foreign : ∀ entry, .ok (.insertLocal entry) ∈ state.delivered →
      keyPeer entry.key ≠ some peer) :
    state.admits peer = true ↔
      .ok (.neighborUp peer) ∈ state.delivered ∨
        ∃ key, state.Holds key ∧ keyPeer key = some peer := by
  obtain ⟨phase, queue⟩ := quiescent
  have delivered : state.delivered = state.processed := by
    simp [State.delivered, phase, queue, Phase.inHand]
  rw [State.admits, phase]
  simp only [Phase.locked, Bool.false_eq_true, ↓reduceIte, decide_eq_true_eq]
  rw [recorded, delivered]
  constructor
  · intro either
    rcases either with ⟨item, member, named⟩ | ⟨item, member, named⟩
    · cases item with
      | error error => cases named
      | ok entry =>
          exact Or.inr ⟨entry.key, replicated.answers entry (List.mem_append_left _ member), named⟩
    · cases item with
      | error error => cases named
      | ok event =>
          cases event with
          | insertRemote entry =>
              exact Or.inr ⟨entry.key, replicated.arrived entry (delivered ▸ member), named⟩
          | neighborUp other =>
              cases named
              exact Or.inl member
          | _ => cases named
  · intro either
    rcases either with member | ⟨key, held, named⟩
    · exact Or.inr ⟨_, member, rfl⟩
    · obtain ⟨entry, rfl, inserted | inserted⟩ := replicated.origin key held
      · exact Or.inr ⟨.ok (.insertRemote entry), delivered ▸ inserted, named⟩
      · exact (foreign entry inserted named).elim

end Access

end OrbitBuild
