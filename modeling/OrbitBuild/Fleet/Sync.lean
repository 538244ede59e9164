import OrbitBuild.MissionControl.Sync

/-! # The two waits for the initial sync

`orbit fleet` has its own `wait_for_sync`, which keeps no events. It goes through the
same iterations as Mission Control's and stops for the same reason. Neither looks at
the result a finished sync attempt reports.
-/

open Stream' (Seq)

namespace OrbitBuild

variable {curve : Curve} {Blob : Type}

namespace Fleet

/-- The loop of `wait_for_sync` for at most `fuel` items: the unread rest of the stream. -/
def waitLoop : Nat → Bool → DocEvents curve Blob → Option (DocEvents curve Blob)
  | 0, _, _ => none
  | fuel + 1, gotSyncFinished, stream =>
      match stream.destruct with
      | none => some stream
      | some (.error _, rest) => waitLoop fuel gotSyncFinished rest
      | some (.ok (.syncFinished _), rest) => waitLoop fuel true rest
      | some (.ok .pendingContentReady, rest) =>
          if gotSyncFinished then some rest else waitLoop fuel gotSyncFinished rest
      | some (.ok _, rest) => waitLoop fuel gotSyncFinished rest

/-- What `wait_for_sync` leaves of the events. -/
def waitForSync (fuel : Nat) (events : DocEvents curve Blob) : Option (DocEvents curve Blob) :=
  waitLoop fuel false events

end Fleet

namespace MissionControl

/-- The two loops go hand in hand, whatever is in the buffer. -/
theorem fleet_waitLoop (fuel : Nat) (got : Bool)
    (buffered : List (Except String (LiveEvent curve Blob))) (stream : DocEvents curve Blob) :
    Fleet.waitLoop fuel got stream = (waitLoop fuel got buffered stream).map Prod.snd := by
  induction fuel generalizing got buffered stream with
  | zero => rfl
  | succ fuel ih =>
      cases stream using Stream'.Seq.recOn with
      | nil => rfl
      | cons item rest =>
          cases item with
          | error error => simpa [Fleet.waitLoop, waitLoop] using ih got buffered rest
          | ok event =>
              cases event with
              | pendingContentReady =>
                  cases got with
                  | true => simp [Fleet.waitLoop, waitLoop]
                  | false => simpa [Fleet.waitLoop, waitLoop] using ih false _ rest
              | syncFinished result => simpa [Fleet.waitLoop, waitLoop] using ih true _ rest
              | _ => simpa [Fleet.waitLoop, waitLoop] using ih got _ rest

/-! ## How many iterations the loop makes -/

/-- Where the loop goes on after an item, the item is one more of those it reads. -/
theorem waitLoop_cons_of_going {got : Bool}
    {buffered : List (Except String (LiveEvent curve Blob))}
    {item : Except String (LiveEvent curve Blob)} {rest left : DocEvents curve Blob}
    {bound read : Nat} (goes : ¬ StopsAt got (Seq.cons item rest) 0)
    (later : ∀ buffered fuel, waitLoop fuel (got || finishesSync item) buffered rest =
      if bound < fuel then
        some (buffered ++ (EventStream.events (rest.take read)).map .ok, left)
      else none) (fuel : Nat) :
    waitLoop fuel got buffered (Seq.cons item rest) =
      if bound + 1 < fuel then
        some (buffered ++ (EventStream.events ((Seq.cons item rest).take (read + 1))).map .ok, left)
      else none := by
  rw [stopsAt_zero] at goes
  cases fuel with
  | zero => rfl
  | succ fuel =>
      rw [waitLoop_cons, if_neg goes, later]
      simp only [Nat.add_lt_add_iff_right, Seq.take_succ_cons, List.append_assoc,
        ← List.map_append, ← EventStream.events_append, List.singleton_append]

/-- The loop stops with the item at its first stop. -/
theorem waitLoop_of_stop {got : Bool} {buffered : List (Except String (LiveEvent curve Blob))}
    {stream : DocEvents curve Blob} {stop : Nat} (stops : StopsAt got stream stop)
    (first : ∀ earlier < stop, ¬ StopsAt got stream earlier) (fuel : Nat) :
    waitLoop fuel got buffered stream =
      if stop < fuel then
        some (buffered ++ (EventStream.events (stream.take (stop + 1))).map .ok,
          stream.drop (stop + 1))
      else none := by
  induction stop generalizing got buffered stream fuel with
  | zero =>
      cases fuel with
      | zero => rfl
      | succ fuel =>
          cases stream using Stream'.Seq.recOn with
          | nil => cases stops.1
          | cons item rest =>
              have here := stopsAt_zero.mp stops
              have ready := contentComplete_iff.mp (Bool.and_eq_true_iff.mp here).2
              rw [waitLoop_cons, if_pos here, if_pos (Nat.succ_pos fuel), ready]
              simp
  | succ stop ih =>
      cases stream using Stream'.Seq.recOn with
      | nil => cases stops.1
      | cons item rest =>
          have others : ∀ earlier < stop, ¬ StopsAt (got || finishesSync item) rest earlier := by
            intro earlier less
            rw [← stopsAt_succ]
            exact first (earlier + 1) (Nat.succ_lt_succ less)
          rw [Seq.drop_succ_cons]
          apply waitLoop_cons_of_going (first 0 (Nat.succ_pos stop))
          intro buffered fuel
          exact ih (stopsAt_succ.mp stops) others fuel

/-- Without a stop the loop reads the stream to its end. -/
theorem waitLoop_of_end {got : Bool} {buffered : List (Except String (LiveEvent curve Blob))}
    {stream : DocEvents curve Blob} {length : Nat} (ended : stream.get? length = none)
    (present : ∀ index < length, stream.get? index ≠ none)
    (quiet : ∀ stop, ¬ StopsAt got stream stop) (fuel : Nat) :
    waitLoop fuel got buffered stream =
      if length < fuel then
        some (buffered ++ (EventStream.events (stream.take length)).map .ok, Seq.nil)
      else none := by
  induction length generalizing got buffered stream fuel with
  | zero =>
      cases fuel with
      | zero => rfl
      | succ fuel =>
          cases stream using Stream'.Seq.recOn with
          | nil => simp [waitLoop]
          | cons item rest => cases ended
  | succ length ih =>
      cases stream using Stream'.Seq.recOn with
      | nil => exact (present 0 (Nat.succ_pos length) rfl).elim
      | cons item rest =>
          have others : ∀ stop, ¬ StopsAt (got || finishesSync item) rest stop := by
            intro stop
            rw [← stopsAt_succ]
            exact quiet (stop + 1)
          have inside : ∀ index < length, rest.get? index ≠ none :=
            fun index less => present (index + 1) (Nat.succ_lt_succ less)
          apply waitLoop_cons_of_going (quiet 0)
          intro buffered fuel
          exact ih ended inside others fuel

/-- Where the initial sync is complete for the first time. -/
def FirstSynced (events : DocEvents curve Blob) (stop : Nat) : Prop :=
  SyncedAt events stop ∧ ∀ earlier < stop, ¬ SyncedAt events earlier

/-- The stream has this many items. -/
def HasLength (events : DocEvents curve Blob) (length : Nat) : Prop :=
  events.get? length = none ∧ ∀ index < length, events.get? index ≠ none

/-- **The two waits agree.** Both make the same iterations and leave the same events. They
stop with the first item at which the sync is complete; where there is none, at the end of
the stream or never. Mission Control's buffer holds the events of all items read. -/
theorem waits_agree (events : DocEvents curve Blob) :
    (∀ fuel, Fleet.waitForSync fuel events = (waitLoop fuel false [] events).map Prod.snd) ∧
      (∀ stop, FirstSynced events stop → ∀ fuel, waitLoop fuel false [] events =
        if stop < fuel then
          some ((EventStream.events (events.take (stop + 1))).map .ok, events.drop (stop + 1))
        else none) ∧
      (∀ length, HasLength events length → (∀ stop, ¬ SyncedAt events stop) → ∀ fuel,
        waitLoop fuel false [] events =
          if length < fuel then some ((EventStream.events (events.take length)).map .ok, Seq.nil)
          else none) ∧
      (¬ events.Terminates → (∀ stop, ¬ SyncedAt events stop) → ∀ fuel,
        waitLoop fuel false [] events = none) := by
  refine ⟨fun fuel => fleet_waitLoop fuel false [] events, ?_, ?_, ?_⟩
  · intro stop both fuel
    obtain ⟨synced, first⟩ := both
    have earlier : ∀ earlier < stop, ¬ StopsAt false events earlier := by
      intro earlier less
      rw [← syncedAt_iff]
      exact first earlier less
    exact waitLoop_of_stop (syncedAt_iff.mp synced) earlier fuel
  · intro length both quiet fuel
    obtain ⟨ended, present⟩ := both
    have others : ∀ stop, ¬ StopsAt false events stop := by
      intro stop
      rw [← syncedAt_iff]
      exact quiet stop
    exact waitLoop_of_end ended present others fuel
  · intro endless quiet fuel
    rw [Option.eq_none_iff_forall_ne_some]
    intro result returned
    have handed : (waitForSync fuel events).isSome := by
      rw [waitForSync, returned]
      rfl
    rcases (waitForSync_returns_iff events).mp ⟨fuel, handed⟩ with ended | ⟨stop, synced⟩
    · exact endless ended
    · exact quiet stop synced

/-! ## What a finished sync says -/

/-- The wait ends with the item at this position. -/
def StopsEarly {Result : Type} (wait : Nat → Option Result) (events : DocEvents curve Blob)
    (stop : Nat) : Prop :=
  (∀ fuel, (wait fuel).isSome ↔ stop < fuel) ∧ events.get? stop ≠ none

/-- A sync attempt has succeeded before this position. -/
def SucceededBefore (events : DocEvents curve Blob) (stop : Nat) : Prop :=
  ∃ index < stop, events.get? index = some (.ok (.syncFinished (.ok ())))

/-- After a failed attempt, content is not reported ready before an attempt has succeeded. -/
def FailuresMended (events : DocEvents curve Blob) : Prop :=
  ∀ failed stop error, failed < stop →
    events.get? failed = some (.ok (.syncFinished (.error error))) →
    events.get? stop = some (.ok .pendingContentReady) → SucceededBefore events stop

/-- If a stream is synced anywhere, there is a first place where it is. -/
theorem exists_firstSynced {events : DocEvents curve Blob} {stop : Nat}
    (synced : SyncedAt events stop) : ∃ first ≤ stop, FirstSynced events first := by
  induction stop using Nat.strong_induction_on with
  | _ stop ih =>
      by_cases first : ∀ earlier < stop, ¬ SyncedAt events earlier
      · exact ⟨stop, le_rfl, synced, first⟩
      · simp only [not_forall, not_not] at first
        obtain ⟨earlier, less, before⟩ := first
        obtain ⟨least, le, found⟩ := ih earlier less before
        exact ⟨least, le.trans less.le, found⟩

/-- A stream that ends has a length. -/
theorem exists_hasLength {events : DocEvents curve Blob} (finite : events.Terminates) :
    ∃ length, HasLength events length := by
  classical
  exact ⟨Nat.find finite, Nat.find_spec finite, fun index less => Nat.find_min finite less⟩

/-- Of two thresholds that decide alike, neither is the larger one. -/
theorem eq_of_lt_iff {first second : Nat} (same : ∀ fuel, first < fuel ↔ second < fuel) :
    first = second := by
  have left := (same (first + 1)).mp (Nat.lt_succ_self first)
  have right := (same (second + 1)).mpr (Nat.lt_succ_self second)
  omega

/-- A wait that returns when Mission Control's loop does ends early where that one stops. -/
theorem stopsEarly_iff {Result : Type} {wait : Nat → Option Result}
    {events : DocEvents curve Blob} {stop : Nat}
    (alike : ∀ fuel, (wait fuel).isSome = (waitLoop fuel false [] events).isSome) :
    StopsEarly wait events stop ↔ FirstSynced events stop := by
  obtain ⟨-, stops, ends, runs⟩ := waits_agree events
  constructor
  · intro both
    obtain ⟨calls, present⟩ := both
    by_cases synced : ∃ stop, SyncedAt events stop
    · obtain ⟨other, synced⟩ := synced
      obtain ⟨first, -, least⟩ := exists_firstSynced synced
      have same : stop = first := by
        apply eq_of_lt_iff
        intro fuel
        rw [← calls, alike, stops first least]
        split <;> simp [*]
      rwa [same]
    · have quiet : ∀ stop, ¬ SyncedAt events stop := not_exists.mp synced
      by_cases finite : events.Terminates
      · obtain ⟨length, whole⟩ := exists_hasLength finite
        have same : stop = length := by
          apply eq_of_lt_iff
          intro fuel
          rw [← calls, alike, ends length whole quiet]
          split <;> simp [*]
        exact (present (same ▸ whole.1)).elim
      · have returned := (calls (stop + 1)).mpr (Nat.lt_succ_self stop)
        rw [alike, runs finite quiet] at returned
        cases returned
  · intro least
    refine ⟨fun fuel => ?_, ?_⟩
    · rw [alike, stops stop least]
      split <;> simp [*]
    · rw [least.1.1]
      exact Option.some_ne_none _

/-- Mission Control stops where the stream is synced first. -/
theorem missionControl_stopsEarly_iff {events : DocEvents curve Blob} {stop : Nat} :
    StopsEarly (fun fuel => waitForSync fuel events) events stop ↔ FirstSynced events stop := by
  apply stopsEarly_iff
  intro fuel
  rw [waitForSync, Option.isSome_map]

/-- `orbit fleet` stops where the stream is synced first. -/
theorem fleet_stopsEarly_iff {events : DocEvents curve Blob} {stop : Nat} :
    StopsEarly (fun fuel => Fleet.waitForSync fuel events) events stop ↔
      FirstSynced events stop := by
  apply stopsEarly_iff
  intro fuel
  rw [Fleet.waitForSync, fleet_waitLoop fuel false [], Option.isSome_map]

/-- Where the loop stops, an attempt has succeeded, exactly if failures are mended. -/
theorem firstSynced_succeeded_iff (events : DocEvents curve Blob) :
    (∀ stop, FirstSynced events stop → SucceededBefore events stop) ↔ FailuresMended events := by
  constructor
  · intro sound failed stop error less failure ready
    have synced : SyncedAt events stop := ⟨ready, failed, less, .error error, failure⟩
    obtain ⟨first, le, least⟩ := exists_firstSynced synced
    obtain ⟨index, before, success⟩ := sound first least
    exact ⟨index, before.trans_le le, success⟩
  · intro mended stop least
    obtain ⟨ready, index, less, result, finished⟩ := least.1
    cases result with
    | ok _ => exact ⟨index, less, finished⟩
    | error error => exact mended index stop error less finished ready

/-- **A sync that succeeded.** Either wait that ends before the stream does has received the
report of a successful attempt exactly if content is not reported ready between a failed
attempt and the first successful one. -/
theorem waits_succeed_iff (events : DocEvents curve Blob) :
    ((∀ stop, StopsEarly (fun fuel => waitForSync fuel events) events stop →
        SucceededBefore events stop) ↔ FailuresMended events) ∧
      ((∀ stop, StopsEarly (fun fuel => Fleet.waitForSync fuel events) events stop →
        SucceededBefore events stop) ↔ FailuresMended events) := by
  simp only [missionControl_stopsEarly_iff, fleet_stopsEarly_iff, firstSynced_succeeded_iff,
    and_self]

/-- The first peer refuses the sync, and the second one has not answered yet. -/
def refusedFirst : DocEvents Curve.full (SatelliteEntry Curve.full) :=
  Seq.ofList [.ok (.syncFinished (.error "connection refused")), .ok .pendingContentReady,
    .ok (.syncFinished (.ok ()))]

/-- Both waits end with the second item. -/
theorem refusedFirst_ends :
    StopsEarly (fun fuel => waitForSync fuel refusedFirst) refusedFirst 1 ∧
      StopsEarly (fun fuel => Fleet.waitForSync fuel refusedFirst) refusedFirst 1 ∧
      ¬ SucceededBefore refusedFirst 1 := by
  have least : FirstSynced refusedFirst 1 := by
    refine ⟨⟨rfl, 0, Nat.one_pos, _, rfl⟩, fun earlier less both => ?_⟩
    obtain ⟨-, index, before, -⟩ := both
    omega
  refine ⟨missionControl_stopsEarly_iff.mpr least, fleet_stopsEarly_iff.mpr least, fun both => ?_⟩
  obtain ⟨index, less, success⟩ := both
  obtain rfl : index = 0 := by omega
  cases success

end MissionControl

end OrbitBuild
