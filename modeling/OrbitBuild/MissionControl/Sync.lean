import OrbitBuild.Core.Doc
import OrbitBuild.Foundation.EventStream

/-! # Waiting for the initial sync

Mission Control reads the Doc's events until the sync is finished and no content
is pending, and hands a stream to its subscription task. That stream consists of
the buffered events only; the part of the subscription not yet read is dropped
with the function's locals.
-/

open Stream' (Seq)

namespace OrbitBuild

variable {curve : Curve} {Blob : Type}

/-- The events a subscription delivers, with its errors. -/
abbrev DocEvents (curve : Curve) (Blob : Type) := Seq (Except String (LiveEvent curve Blob))

namespace MissionControl

/-- The loop of `wait_for_sync` for at most `fuel` items: the buffered items and
the unread rest of the stream. -/
def waitLoop : Nat → Bool → List (Except String (LiveEvent curve Blob)) → DocEvents curve Blob →
    Option (List (Except String (LiveEvent curve Blob)) × DocEvents curve Blob)
  | 0, _, _, _ => none
  | fuel + 1, gotSyncFinished, buffered, stream =>
      match stream.destruct with
      | none => some (buffered, stream)
      | some (.error _, rest) => waitLoop fuel gotSyncFinished buffered rest
      | some (.ok (.syncFinished result), rest) =>
          waitLoop fuel true (buffered ++ [.ok (.syncFinished result)]) rest
      | some (.ok .pendingContentReady, rest) =>
          if gotSyncFinished then some (buffered ++ [.ok .pendingContentReady], rest)
          else waitLoop fuel gotSyncFinished (buffered ++ [.ok .pendingContentReady]) rest
      | some (.ok event, rest) => waitLoop fuel gotSyncFinished (buffered ++ [.ok event]) rest

/-- The stream for the subscription task, once the loop has ended. -/
def waitForSync (fuel : Nat) (events : DocEvents curve Blob) : Option (DocEvents curve Blob) :=
  (waitLoop fuel false [] events).map fun (buffered, _) => Seq.ofList buffered

/-- At this position content is ready and the sync has finished before. -/
def SyncedAt (events : DocEvents curve Blob) (stop : Nat) : Prop :=
  events.get? stop = some (.ok .pendingContentReady) ∧
    ∃ index < stop, ∃ result, events.get? index = some (.ok (.syncFinished result))

/-- No event follows the position at which the initial sync is complete. -/
def QuietAfterSync (events : DocEvents curve Blob) : Prop :=
  ∀ stop index event, SyncedAt events stop → stop < index → events.get? index ≠ some (.ok event)

/-- Where the loop stops, depending on whether the sync had finished before. -/
def StopsAt (gotSyncFinished : Bool) (events : DocEvents curve Blob) (stop : Nat) : Prop :=
  events.get? stop = some (.ok .pendingContentReady) ∧
    (gotSyncFinished = true ∨
      ∃ index < stop, ∃ result, events.get? index = some (.ok (.syncFinished result)))

/-- Whether an item reports a finished sync. -/
def finishesSync : Except String (LiveEvent curve Blob) → Bool
  | .ok (.syncFinished _) => true
  | _ => false

/-- Whether an item reports that no content is pending. -/
def contentComplete : Except String (LiveEvent curve Blob) → Bool
  | .ok .pendingContentReady => true
  | _ => false

/-- What ends the wait is `PendingContentReady`. -/
theorem contentComplete_iff {item : Except String (LiveEvent curve Blob)} :
    contentComplete item = true ↔ item = .ok .pendingContentReady := by
  cases item with
  | error error => simp [contentComplete]
  | ok event => cases event <;> simp [contentComplete]

/-- What the wait remembers is any `SyncFinished`, a failed one too. -/
theorem finishesSync_iff {item : Except String (LiveEvent curve Blob)} :
    finishesSync item = true ↔ ∃ result, item = .ok (.syncFinished result) := by
  cases item with
  | error error => simp [finishesSync]
  | ok event => cases event <;> simp [finishesSync]

/-- One iteration of the loop. -/
theorem waitLoop_cons (fuel : Nat) (got : Bool)
    (buffered : List (Except String (LiveEvent curve Blob)))
    (item : Except String (LiveEvent curve Blob)) (rest : DocEvents curve Blob) :
    waitLoop (fuel + 1) got buffered (Seq.cons item rest) =
      if got && contentComplete item then some (buffered ++ [item], rest)
      else waitLoop fuel (got || finishesSync item)
        (buffered ++ (EventStream.events [item]).map .ok) rest := by
  cases item with
  | error error => simp [waitLoop, contentComplete, finishesSync]
  | ok event =>
      cases event <;> cases got <;> simp [waitLoop, contentComplete, finishesSync]

/-- The wait stops at an item that completes the content after a sync. -/
theorem stopsAt_zero {got : Bool} {item : Except String (LiveEvent curve Blob)}
    {rest : DocEvents curve Blob} :
    StopsAt got (Seq.cons item rest) 0 ↔ (got && contentComplete item) = true := by
  simp [StopsAt, contentComplete_iff, and_comm]

/-- The wait remembers whether an item has finished a sync. -/
theorem stopsAt_succ {got : Bool} {item : Except String (LiveEvent curve Blob)}
    {rest : DocEvents curve Blob} {stop : Nat} :
    StopsAt got (Seq.cons item rest) (stop + 1) ↔ StopsAt (got || finishesSync item) rest stop := by
  unfold StopsAt
  rw [Seq.get?_cons_succ, Bool.or_eq_true, finishesSync_iff]
  apply and_congr_right
  intro _
  constructor
  · intro either
    rcases either with before | ⟨index, earlier, result, found⟩
    · exact Or.inl (Or.inl before)
    · cases index with
      | zero => exact Or.inl (Or.inr ⟨result, Option.some.inj found⟩)
      | succ index => exact Or.inr ⟨index, Nat.lt_of_succ_lt_succ earlier, result, found⟩
  · intro either
    rcases either with (before | ⟨result, here⟩) | ⟨index, earlier, result, found⟩
    · exact Or.inl before
    · exact Or.inr ⟨0, Nat.succ_pos stop, result, congrArg some here⟩
    · exact Or.inr ⟨index + 1, Nat.succ_lt_succ earlier, result, found⟩

/-- A stream is synced where the wait that has seen nothing stops. -/
theorem syncedAt_iff {events : DocEvents curve Blob} {stop : Nat} :
    SyncedAt events stop ↔ StopsAt false events stop := by
  simp [SyncedAt, StopsAt]

/-- **What the loop has read.** The buffer holds the events read, and the loop
reads up to the first stop, or to the end of the stream. -/
theorem waitLoop_eq_some {fuel : Nat} {got : Bool}
    {buffered kept : List (Except String (LiveEvent curve Blob))}
    {stream rest : DocEvents curve Blob}
    (returned : waitLoop fuel got buffered stream = some (kept, rest)) :
    ∃ read, rest = stream.drop read ∧
      kept = buffered ++ (EventStream.events (stream.take read)).map .ok ∧
      (stream.get? read = none ∨ ∃ stop, read = stop + 1 ∧ StopsAt got stream stop) ∧
      ∀ stop, StopsAt got stream stop → read ≤ stop + 1 := by
  induction fuel generalizing got buffered stream with
  | zero => cases returned
  | succ fuel ih =>
      cases stream using Stream'.Seq.recOn with
      | nil =>
          cases returned
          exact ⟨0, rfl, by simp, Or.inl rfl, fun _ _ => Nat.zero_le _⟩
      | cons item tail =>
          rw [waitLoop_cons] at returned
          split at returned
          · next stops =>
              cases returned
              refine ⟨1, by simp, ?_, Or.inr ⟨0, rfl, stopsAt_zero.mpr stops⟩, by omega⟩
              rw [contentComplete_iff.mp (Bool.and_eq_true_iff.mp stops).2]
              simp
          · next continues =>
              obtain ⟨read, rfl, rfl, ended, first⟩ := ih returned
              refine ⟨read + 1, by simp, ?_, ?_, ?_⟩
              · rw [Seq.take_succ_cons, List.append_assoc, ← List.map_append,
                  ← EventStream.events_append, List.singleton_append]
              · rcases ended with ended | ⟨stop, rfl, stops⟩
                · exact Or.inl ended
                · exact Or.inr ⟨stop + 1, rfl, stopsAt_succ.mpr stops⟩
              · intro stop stops
                cases stop with
                | zero => exact (continues (stopsAt_zero.mp stops)).elim
                | succ stop => exact Nat.succ_le_succ (first stop (stopsAt_succ.mp stops))

/-- The loop ends at a stop and at the end of the stream. -/
theorem waitLoop_isSome {got : Bool} {buffered : List (Except String (LiveEvent curve Blob))}
    {stream : DocEvents curve Blob} {bound : Nat}
    (ends : stream.get? bound = none ∨ StopsAt got stream bound) :
    (waitLoop (bound + 1) got buffered stream).isSome := by
  induction bound generalizing got buffered stream with
  | zero =>
      cases stream using Stream'.Seq.recOn with
      | nil => rfl
      | cons item tail =>
          rcases ends with ended | stops
          · cases ended
          · rw [waitLoop_cons, if_pos (stopsAt_zero.mp stops)]
            rfl
  | succ bound ih =>
      cases stream using Stream'.Seq.recOn with
      | nil => rfl
      | cons item tail =>
          rw [waitLoop_cons]
          split
          · rfl
          · exact ih (ends.imp id stopsAt_succ.mp)

/-- The initial sync ends exactly when the stream ends or reaches a stop. -/
theorem waitForSync_returns_iff (events : DocEvents curve Blob) :
    (∃ fuel, (waitForSync fuel events).isSome) ↔
      events.Terminates ∨ ∃ stop, SyncedAt events stop := by
  simp only [syncedAt_iff, waitForSync, Option.isSome_map]
  constructor
  · intro both
    obtain ⟨fuel, returned⟩ := both
    obtain ⟨⟨kept, rest⟩, returned⟩ := Option.isSome_iff_exists.mp returned
    obtain ⟨read, -, -, ended | ⟨stop, -, stops⟩, -⟩ := waitLoop_eq_some returned
    · exact Or.inl ⟨read, ended⟩
    · exact Or.inr ⟨stop, stops⟩
  · intro either
    rcases either with ⟨bound, ended⟩ | ⟨stop, stops⟩
    · exact ⟨bound + 1, waitLoop_isSome (Or.inl ended)⟩
    · exact ⟨stop + 1, waitLoop_isSome (Or.inr stops)⟩

/-- The stream handed over holds the events read up to the first stop. -/
theorem waitForSync_eq_some {fuel : Nat} {events handed : DocEvents curve Blob}
    (returned : waitForSync fuel events = some handed) :
    ∃ read, handed = Seq.ofList ((EventStream.events (events.take read)).map .ok) ∧
      (events.get? read = none ∨ ∃ stop, read = stop + 1 ∧ SyncedAt events stop) ∧
      ∀ stop, SyncedAt events stop → read ≤ stop + 1 := by
  obtain ⟨⟨kept, rest⟩, looped, rfl⟩ := Option.map_eq_some_iff.mp returned
  obtain ⟨read, -, rfl, ended, first⟩ := waitLoop_eq_some looped
  simp only [syncedAt_iff]
  exact ⟨read, rfl, ended, first⟩

/-- **No event is lost** exactly when none follows the end of the initial sync. -/
theorem waitForSync_sameEvents_iff (events : DocEvents curve Blob) :
    (∀ fuel handed, waitForSync fuel events = some handed → EventStream.SameEvents handed events) ↔
      QuietAfterSync events := by
  constructor
  · intro same stop index event synced late
    obtain ⟨fuel, returned⟩ := (waitForSync_returns_iff events).mpr (Or.inr ⟨stop, synced⟩)
    obtain ⟨handed, returned⟩ := Option.isSome_iff_exists.mp returned
    have all := same fuel handed returned
    obtain ⟨read, rfl, -, first⟩ := waitForSync_eq_some returned
    exact (EventStream.sameEvents_read_iff events read).mp all index event
      ((first stop synced).trans late)
  · intro quiet fuel handed returned
    obtain ⟨read, rfl, ended, -⟩ := waitForSync_eq_some returned
    apply (EventStream.sameEvents_read_iff events read).mpr
    intro index event late
    rcases ended with ended | ⟨stop, rfl, synced⟩
    · rw [events.le_stable late ended]
      exact (Option.some_ne_none _).symm
    · exact quiet stop index event synced late

/-- A satellite registers right after the initial sync. -/
def lateRegistration : DocEvents Curve.full (SatelliteEntry Curve.full) :=
  Seq.ofList [.ok (.syncFinished (.ok ())), .ok .pendingContentReady,
    .ok (.insertRemote ⟨0, satelliteKey (.ofByte 1),
      ⟨"amd64", ["linux/amd64"], "idle", .new (.ofByte 1), 10⟩⟩)]

/-- The registration does not reach the subscription task. -/
theorem lateRegistration_lost :
    ∃ handed, waitForSync 2 lateRegistration = some handed ∧
      ¬ EventStream.SameEvents handed lateRegistration := by
  refine ⟨_, rfl, fun same => ?_⟩
  exact (EventStream.sameEvents_read_iff lateRegistration 2).mp same 2 _ le_rfl rfl

end MissionControl

end OrbitBuild
