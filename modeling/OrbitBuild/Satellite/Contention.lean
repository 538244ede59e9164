import OrbitBuild.Satellite.Membership

/-! # Build connections while the lock is held

The predicate of `AccessLimit` denies rather than waits. An allowed peer is therefore
turned away while the snapshot is inserted, and whenever its connection meets the
insertion of some other peer, which every heartbeat brings about again. The lock is
released by the steps of its holder alone, and the peer stays allowed.
-/

namespace OrbitBuild

variable {curve : Curve} {Blob : Type} [DecidableEq Blob]

namespace Access

omit [DecidableEq Blob] in
/-- The two holders of the write lock. -/
theorem locked_iff {phase : Phase curve Blob} :
    phase.locked = true ↔
      (∃ items, phase = .populating items) ∨ ∃ event, phase = .serving (.inserting event) := by
  cases phase with
  | populating items => simp [Phase.locked]
  | serving task => cases task <;> simp [Phase.locked]
  | _ => simp [Phase.locked]

/-- The holder of the lock can always go on until it is released. -/
theorem released (state : State curve Blob) :
    ∃ later, Transition.Reachable step state later ∧ later.phase.locked = false := by
  cases free : state.phase.locked with
  | false => exact ⟨state, .refl state, free⟩
  | true =>
      rcases locked_iff.mp free with ⟨items, populating⟩ | ⟨event, inserting⟩
      · clear free
        induction items generalizing state with
        | nil =>
            refine ⟨{ state with phase := .populated }, ⟨[.unlock], ?_⟩, rfl⟩
            simp only [Transition.run, step, populating, Option.bind_some]
        | cons item rest ih =>
            let drained : State curve Blob :=
              { state with
                phase := .populating rest
                allowed := learn state.allowed (itemPeer item)
                drained := state.drained ++ [item] }
            have moved : step state .drain = some drained := by
              simp only [step, populating, drained]
            obtain ⟨later, reached, unlocked⟩ := ih drained rfl
            exact ⟨later, .trans (.snoc (.refl state) moved) reached, unlocked⟩
      · let inserted : State curve Blob :=
          { state with
            phase := .serving .waiting
            allowed := learn state.allowed (eventPeer (.ok event))
            processed := state.processed ++ [.ok event] }
        have moved : step state .insert = some inserted := by simp only [step, inserting, inserted]
        exact ⟨inserted, .snoc (.refl state) moved, rfl⟩

/-- **Admission of an allowed peer.** Whatever happens later, the peer stays allowed,
and its connections are admitted exactly when neither the start-up snapshot nor the
insertion of an event holds the lock at that moment; and the lock can be released. -/
theorem admits_later {state later : State curve Blob} {peer : PublicKey curve}
    (allowed : peer ∈ state.allowed) (reached : Transition.Reachable step state later) :
    peer ∈ later.allowed ∧
      (later.admits peer = true ↔
        (∀ items, later.phase ≠ .populating items) ∧
          ∀ event, later.phase ≠ .serving (.inserting event)) ∧
      ∃ free, Transition.Reachable step later free ∧ free.admits peer = true := by
  have kept : ∀ {after}, Transition.Reachable step state after → peer ∈ after.allowed :=
    fun reached => allowed_subset reached allowed
  have admitted : ∀ {after}, Transition.Reachable step state after →
      after.admits peer = !after.phase.locked := by
    intro after reached
    rw [State.admits, decide_eq_true (kept reached)]
    cases after.phase.locked <;> rfl
  refine ⟨kept reached, ?_, ?_⟩
  · rw [admitted reached, Bool.not_eq_true', ← Bool.not_eq_true, locked_iff, not_or, not_exists,
      not_exists]
  · obtain ⟨free, continued, unlocked⟩ := released later
    exact ⟨free, continued, by rw [admitted (reached.trans continued), unlocked]; rfl⟩

/-- A neighbour is allowed; then the heartbeat of another satellite is being inserted. -/
def contendedActions : List (Action Curve.full Unit) :=
  [.subscribe, .query [], .lock, .unlock, .spawn, .deliver (.ok (.neighborUp (.ofByte 1))), .take,
    .acquire, .insert, .deliver (.ok (.insertRemote (ownRecord 2 2))), .take, .acquire]

/-- The state of the satellite after some of these actions. -/
def contended (count : Nat) : State Curve.full Unit :=
  (Transition.run step .initial (contendedActions.take count)).getD .initial

theorem contended_admits :
    PublicKey.ofByte 1 ∈ (contended 11).allowed ∧
      ((contended 11).admits (.ofByte 1) = true ↔
        (∀ items, (contended 11).phase ≠ .populating items) ∧
          ∀ event, (contended 11).phase ≠ .serving (.inserting event)) ∧
      ∃ free, Transition.Reachable step (contended 11) free ∧ free.admits (.ofByte 1) = true := by
  have allowed : PublicKey.ofByte 1 ∈ (contended 9).allowed := by decide
  exact admits_later allowed ⟨[.deliver (.ok (.insertRemote (ownRecord 2 2))), .take], rfl⟩

/-- An allowed peer is refused while a heartbeat is processed. -/
theorem contended_refused :
    Transition.run step .initial (contendedActions.take 9) = some (contended 9) ∧
      PublicKey.ofByte 1 ∈ (contended 9).allowed ∧
      Transition.run step (contended 9) (contendedActions.drop 9) = some (contended 12) ∧
      (contended 12).admits (.ofByte 1) = false :=
  ⟨rfl, by decide, rfl, rfl⟩

end Access

end OrbitBuild
