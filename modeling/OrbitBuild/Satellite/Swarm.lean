import OrbitBuild.MissionControl.Discover
import OrbitBuild.Satellite.Access
import Mathlib.Logic.Relation

/-! # A satellite in the gossip swarm

Nodes that hold the Beacon import the Doc and join its swarm, whose topology
changes freely. One satellite is followed in detail: it learns of peers from the
keys of the Doc and from becoming a direct neighbour. Mission Control writes no
entry, so the satellite knows it only as a neighbour.
-/

namespace OrbitBuild

variable {curve : Curve} {Blob : Type}

namespace Swarm

structure State (curve : Curve) (Blob : Type) where
  /-- Everything written so far. -/
  doc : Doc Blob
  /-- The nodes that have imported the Doc and joined the swarm. -/
  members : List (PublicKey curve)
  missionControls : List (PublicKey curve)
  /-- The pairs of direct neighbours. -/
  links : List (PublicKey curve × PublicKey curve)
  /-- The peers that have been direct neighbours of the satellite. -/
  met : List (PublicKey curve)
  access : Access.State curve Blob

def State.initial : State curve Blob where
  doc := AuthorStore.empty
  members := []
  missionControls := []
  links := []
  met := []
  access := .initial

inductive Action (curve : Curve) (Blob : Type)
  /-- A station or another satellite imports the Doc. -/
  | join (node : PublicKey curve)
  | joinMissionControl (node : PublicKey curve)
  | linkUp (first second : PublicKey curve)
  | linkDown (first second : PublicKey curve)
  /-- A member that is not Mission Control writes an entry. -/
  | publish (node : PublicKey curve) (entry : DocEntry Blob)
  /-- The satellite writes its own entry. -/
  | register (author : Author) (entry : SatelliteEntry curve)
  /-- An entry reaches the satellite's replica. -/
  | arrive (entry : DocEntry Blob)
  /-- An item of the subscription that concerns neither entries nor neighbours. -/
  | notify (item : Except String (LiveEvent curve Blob))
  /-- A step of the satellite. -/
  | satellite (action : Access.Action curve Blob)

/-- Whether an item is an error or about the progress of the sync. -/
def isNotice : Except String (LiveEvent curve Blob) → Bool
  | .ok .contentReady | .ok .pendingContentReady | .ok (.syncFinished _) | .error _ => true
  | _ => false

variable [DecidableEq Blob]

/-- The satellite's Docs engine delivers an item. -/
def deliver (state : State curve Blob) (item : Except String (LiveEvent curve Blob)) :
    Option (State curve Blob) :=
  (Access.step state.access (.deliver item)).map fun access => { state with access := access }

/-- The other end of a link of the satellite. -/
def otherEnd (host first second : PublicKey curve) : Option (PublicKey curve) :=
  if first = host then some second else if second = host then some first else none

def step (codec : EntryCodec curve Blob) (host : PublicKey curve) (state : State curve Blob) :
    Action curve Blob → Option (State curve Blob)
  | .join node =>
      if node = host then none else some { state with members := node :: state.members }
  | .joinMissionControl node =>
      if node = host then none
      else some { state with
        members := node :: state.members
        missionControls := node :: state.missionControls }
  | .linkUp first second =>
      if first ≠ second ∧ first ∈ state.members ∧ second ∈ state.members then
        let linked := { state with links := (first, second) :: state.links }
        match otherEnd host first second with
        | none => some linked
        | some peer => deliver { linked with met := peer :: state.met } (.ok (.neighborUp peer))
      else none
  | .linkDown first second =>
      if (first, second) ∈ state.links then
        let unlinked := { state with links := state.links.erase (first, second) }
        match otherEnd host first second with
        | none => some unlinked
        | some peer => deliver unlinked (.ok (.neighborDown peer))
      else none
  | .publish node entry =>
      if node ∈ state.members ∧ node ∉ state.missionControls ∧ node ≠ host then
        some { state with doc := state.doc.write entry }
      else none
  | .register author entry =>
      let record := ⟨author, satelliteKey host, codec.toVec entry⟩
      deliver { state with doc := state.doc.write record } (.ok (.insertLocal record))
  | .arrive entry =>
      if entry ∈ state.doc.records then deliver state (.ok (.insertRemote entry)) else none
  | .notify item => if isNotice item then deliver state item else none
  | .satellite action =>
      match action with
      | .deliver _ => none
      | .subscribe =>
          (Access.step state.access .subscribe).map fun access =>
            { state with members := host :: state.members, access := access }
      | action =>
          (Access.step state.access action).map fun access => { state with access := access }

/-- Every two members are joined by a path of direct neighbours. -/
def State.Connected (state : State curve Blob) : Prop :=
  ∀ first ∈ state.members, ∀ second ∈ state.members,
    Relation.ReflTransGen (fun one other => (one, other) ∈ state.links ∨ (other, one) ∈ state.links)
      first second

/-- The selection for a platform yields the satellite, from whatever part of the Doc
Mission Control holds. -/
def Picks (codec : EntryCodec curve Blob) (host : PublicKey curve) (state : State curve Blob)
    (platform : String) : Prop :=
  ∃ present stream found element,
    (∀ item ∈ stream, ∃ entry ∈ state.doc.satelliteEntries, item = .ok entry) ∧
    discoverSatellites codec present stream = .ok found ∧
    selectElement found platform = .ok (some element) ∧ element.1 = host.display

/-- Holding the Beacon is enough: the satellite admits every Mission Control that picks it. -/
def SoleGate (codec : EntryCodec curve Blob) (host : PublicKey curve) (state : State curve Blob) :
    Prop :=
  ∀ node ∈ state.missionControls, ∀ platform, Picks codec host state platform →
    state.access.admits node = true

/-- The peer has been a direct neighbour of the satellite, or a key of its replica names it. -/
def State.Knows (state : State curve Blob) (node : PublicKey curve) : Prop :=
  node ∈ state.met ∨ ∃ key, state.access.Holds key ∧ keyPeer key = some node

/-- The satellite is told of whoever it meets, and of its own entries only by itself. -/
structure Valid (host : PublicKey curve) (state : State curve Blob) : Prop where
  recorded : state.access.Recorded
  replicated : Access.Replicated state.access
  met : ∀ peer, .ok (.neighborUp peer) ∈ state.access.delivered ↔ peer ∈ state.met
  own : ∀ entry, .ok (.insertLocal entry) ∈ state.access.delivered → entry.key = satelliteKey host
  foreign : host ∉ state.missionControls

omit [DecidableEq Blob] in
theorem Valid.initial (host : PublicKey curve) : Valid host (State.initial : State curve Blob) := by
  have delivered : (State.initial : State curve Blob).access.delivered = [] := rfl
  have holds : ∀ key, ¬ (State.initial : State curve Blob).access.Holds key := by
    intro key both
    obtain ⟨held, member, -⟩ := both
    cases member
  refine ⟨?_, ⟨?_, ?_, ?_⟩, ?_, ?_, List.not_mem_nil⟩
  · simp [State.initial, Access.State.initial, Access.State.Recorded]
  · simp [delivered]
  · exact fun key held => (holds key held).elim
  · simp [State.initial, Access.State.initial, Access.Phase.pending]
  · intro peer
    rw [delivered]
    exact iff_of_false List.not_mem_nil List.not_mem_nil
  · simp [delivered]

omit [DecidableEq Blob] in
/-- The satellite's neighbours, its events and the Mission Controls are all that matters. -/
theorem Valid.of_eq {host : PublicKey curve} {state next : State curve Blob}
    (valid : Valid host state) (access : next.access = state.access) (met : next.met = state.met)
    (controls : next.missionControls = state.missionControls) : Valid host next := by
  refine ⟨?_, ?_, fun peer => ?_, ?_, ?_⟩
  · rw [access]
    exact valid.recorded
  · rw [access]
    exact valid.replicated
  · rw [access, met]
    exact valid.met peer
  · rw [access]
    exact valid.own
  · rw [controls]
    exact valid.foreign

/-- A step of the satellite that delivers nothing keeps what is known of its events. -/
theorem Valid.access {host : PublicKey curve} {state next : State curve Blob}
    {action : Access.Action curve Blob} (valid : Valid host state)
    (moved : Access.step state.access action = some next.access)
    (silent : ∀ item, action ≠ .deliver item) (met : next.met = state.met)
    (controls : next.missionControls = state.missionControls) : Valid host next := by
  have delivered : next.access.delivered = state.access.delivered := by
    rcases Access.step_delivered moved with ⟨item, same, -⟩ | ⟨-, delivered, -⟩
    · exact (silent item same).elim
    · exact delivered
  refine ⟨valid.recorded.step moved, valid.replicated.step moved, fun peer => ?_, ?_, ?_⟩
  · rw [delivered, met, valid.met]
  · rw [delivered]
    exact valid.own
  · rw [controls]
    exact valid.foreign

/-- A delivery adds its item to what is known of the satellite's events. -/
theorem Valid.deliver {host : PublicKey curve} {state next : State curve Blob}
    {item : Except String (LiveEvent curve Blob)} (valid : Valid host state)
    (moved : Access.step state.access (.deliver item) = some next.access)
    (met : ∀ peer, peer ∈ next.met ↔ peer ∈ state.met ∨ item = .ok (.neighborUp peer))
    (own : ∀ entry, item = .ok (.insertLocal entry) → entry.key = satelliteKey host)
    (controls : next.missionControls = state.missionControls) : Valid host next := by
  have delivered : next.access.delivered = state.access.delivered ++ [item] := by
    rcases Access.step_delivered moved with ⟨other, same, delivered, -⟩ | ⟨silent, -⟩
    · cases same
      exact delivered
    · exact (silent item rfl).elim
  refine ⟨valid.recorded.step moved, valid.replicated.step moved, fun peer => ?_,
    fun entry member => ?_, ?_⟩
  · rw [delivered, met, ← valid.met, List.mem_append, List.mem_singleton, eq_comm (a := item)]
  · rw [delivered, List.mem_append, List.mem_singleton] at member
    exact member.elim (valid.own entry) fun same => own entry same.symm
  · rw [controls]
    exact valid.foreign

/-- A delivered item goes to the satellite's own Docs engine. -/
theorem deliver_eq_some {state next : State curve Blob}
    {item : Except String (LiveEvent curve Blob)} :
    deliver state item = some next ↔
      ∃ access, Access.step state.access (.deliver item) = some access ∧
        next = { state with access := access } := by
  rw [deliver, Option.map_eq_some_iff]
  simp only [eq_comm]

/-- Every step of the swarm accounts for what the satellite is told. -/
theorem Valid.step {codec : EntryCodec curve Blob} {host : PublicKey curve}
    {state next : State curve Blob} {action : Action curve Blob} (valid : Valid host state)
    (moved : Swarm.step codec host state action = some next) : Valid host next := by
  cases action with
  | join node =>
      simp only [Swarm.step] at moved
      split at moved <;> cases moved
      exact valid.of_eq rfl rfl rfl
  | joinMissionControl node =>
      simp only [Swarm.step] at moved
      split at moved <;> cases moved
      next different =>
        refine ⟨valid.recorded, valid.replicated, valid.met, valid.own, fun member => ?_⟩
        rcases List.mem_cons.mp member with same | old
        · exact different same.symm
        · exact valid.foreign old
  | linkUp first second =>
      simp only [Swarm.step] at moved
      split at moved
      · split at moved
        · cases moved
          exact valid.of_eq rfl rfl rfl
        · next peer found =>
            obtain ⟨access, delivered, rfl⟩ := deliver_eq_some.mp moved
            refine valid.deliver delivered (fun other => ?_) nofun rfl
            simp only [List.mem_cons, Except.ok.injEq, LiveEvent.neighborUp.injEq]
            rw [or_comm, eq_comm]
      · cases moved
  | linkDown first second =>
      simp only [Swarm.step] at moved
      split at moved
      · split at moved
        · cases moved
          exact valid.of_eq rfl rfl rfl
        · next peer found =>
            obtain ⟨access, delivered, rfl⟩ := deliver_eq_some.mp moved
            exact valid.deliver delivered (fun other => by simp) nofun rfl
      · cases moved
  | publish node entry =>
      simp only [Swarm.step] at moved
      split at moved <;> cases moved
      exact valid.of_eq rfl rfl rfl
  | register author entry =>
      simp only [Swarm.step] at moved
      obtain ⟨access, delivered, rfl⟩ := deliver_eq_some.mp moved
      refine valid.deliver delivered (fun other => by simp) (fun record same => ?_) rfl
      cases same
      rfl
  | arrive entry =>
      simp only [Swarm.step] at moved
      split at moved
      · obtain ⟨access, delivered, rfl⟩ := deliver_eq_some.mp moved
        exact valid.deliver delivered (fun other => by simp) nofun rfl
      · cases moved
  | notify item =>
      simp only [Swarm.step] at moved
      split at moved
      · next notice =>
          obtain ⟨access, delivered, rfl⟩ := deliver_eq_some.mp moved
          refine valid.deliver delivered (fun other => ?_) (fun entry same => ?_) rfl
          · refine ⟨Or.inl, fun either => either.elim id fun same => ?_⟩
            rw [same] at notice
            cases notice
          · rw [same] at notice
            cases notice
      · cases moved
  | satellite action =>
      cases action with
      | deliver item => cases moved
      | _ =>
          simp only [Swarm.step, Option.map_eq_some_iff] at moved
          obtain ⟨access, stepped, rfl⟩ := moved
          exact valid.access stepped nofun rfl rfl

/-- **Admission.** Whatever the topology and the order of the events: when no event is
being processed, every Mission Control that picks the satellite is admitted exactly if
each of them has been its direct neighbour or is named by a key of its replica. -/
theorem soleGate_iff (codec : EntryCodec curve Blob) (host : PublicKey curve)
    (actions : List (Action curve Blob)) (state : State curve Blob)
    (reached : Transition.run (step codec host) .initial actions = some state)
    (quiescent : state.access.Quiescent) :
    SoleGate codec host state ↔
      ∀ node ∈ state.missionControls, ∀ platform, Picks codec host state platform →
        state.Knows node := by
  have valid : Valid host state :=
    Transition.run_invariant (fun _ _ _ valid moved => valid.step moved) (Valid.initial host)
      reached
  have admitted : ∀ node ∈ state.missionControls,
      state.access.admits node = true ↔ state.Knows node := by
    intro node member
    rw [Access.admits_iff_of_quiescent valid.recorded valid.replicated quiescent, valid.met]
    · rfl
    · intro entry inserted named
      rw [valid.own entry inserted, keyPeer_satelliteKey] at named
      cases named
      exact valid.foreign member
  constructor
  · intro gate node member platform picks
    exact (admitted node member).mp (gate node member platform picks)
  · intro knows node member platform picks
    exact (admitted node member).mpr (knows node member platform picks)

omit [DecidableEq Blob] in
/-- A swarm in which every member is a neighbour of one node is connected. -/
theorem connected_of_centre {state : State curve Blob} {centre : PublicKey curve}
    (star : ∀ node ∈ state.members,
      node = centre ∨ (node, centre) ∈ state.links ∨ (centre, node) ∈ state.links) :
    state.Connected := by
  intro first memberFirst second memberSecond
  refine Relation.ReflTransGen.trans (b := centre) ?_ ?_
  · rcases star first memberFirst with rfl | link
    · exact .refl
    · exact .single link
  · rcases star second memberSecond with rfl | link
    · exact .refl
    · exact .single link.symm

/-- The satellite's entry in the following runs. -/
def hostEntry : SatelliteEntry Curve.full :=
  ⟨"amd64", ["linux/amd64"], "idle", .new (.ofByte 1), 10⟩

/-- A station, key 6, and the satellite, key 1, are neighbours; Mission Control, key 3,
joins as a neighbour of the station once the satellite has processed its events. -/
def pathActions : List (Action Curve.full (SatelliteEntry Curve.full)) :=
  [.join (.ofByte 6), .satellite .subscribe, .linkUp (.ofByte 6) (.ofByte 1),
    .satellite (.query []), .satellite .lock, .satellite .unlock, .register 0 hostEntry,
    .satellite .spawn,
    .satellite .take, .satellite .acquire, .satellite .insert, .satellite .take,
    .joinMissionControl (.ofByte 3), .linkUp (.ofByte 3) (.ofByte 6)]

/-- The same, after which Mission Control becomes a neighbour of the satellite. -/
def triangleActions : List (Action Curve.full (SatelliteEntry Curve.full)) :=
  pathActions ++ [.linkUp (.ofByte 3) (.ofByte 1), .satellite .take, .satellite .acquire,
    .satellite .insert]

theorem triangle_soleGate :
    ∃ state, Transition.run (step .identity (.ofByte 1)) .initial triangleActions = some state ∧
      SoleGate .identity (.ofByte 1) state := by
  refine ⟨_, rfl, (soleGate_iff .identity (.ofByte 1) triangleActions _ rfl ⟨rfl, rfl⟩).mpr ?_⟩
  intro node member platform picks
  have same : node = .ofByte 3 := List.mem_singleton.mp member
  rw [same]
  exact Or.inl List.mem_cons_self

/-- In the path of three nodes Mission Control picks the satellite and is refused. -/
theorem path_refused :
    ∃ state, Transition.run (step .identity (.ofByte 1)) .initial pathActions = some state ∧
      state.access.Quiescent ∧ state.Connected ∧ ¬ SoleGate .identity (.ofByte 1) state := by
  refine ⟨_, rfl, ⟨rfl, rfl⟩, ?_, fun gate => ?_⟩
  · have station : ∀ node ∈ [PublicKey.ofByte 3, .ofByte 1, .ofByte 6], node = .ofByte 6 ∨
        (node, PublicKey.ofByte 6) ∈ [(PublicKey.ofByte 3, .ofByte 6), (.ofByte 6, .ofByte 1)] ∨
        (PublicKey.ofByte 6, node) ∈ [(PublicKey.ofByte 3, .ofByte 6), (.ofByte 6, .ofByte 1)] := by
      decide
    exact connected_of_centre station
  · have listed : ∀ item : Except String (DocEntry (SatelliteEntry Curve.full)),
        item ∈ [.ok ⟨0, satelliteKey (.ofByte 1), hostEntry⟩] →
          ∃ entry ∈ [⟨0, satelliteKey (.ofByte 1), hostEntry⟩], item = .ok entry :=
      fun item member => ⟨_, List.mem_singleton_self _, List.mem_singleton.mp member⟩
    have admitted := gate (.ofByte 3) List.mem_cons_self "linux/amd64"
      ⟨fun _ => true, _, _, _, listed, rfl, rfl, rfl⟩
    exact absurd admitted (by decide)

end Swarm

end OrbitBuild
