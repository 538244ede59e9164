import Mathlib.Data.Seq.Basic

/-! # Fallible event streams

A stream is a finite or infinite sequence of items, each an event or an error.
Two streams yield the same events when every event one of them has delivered
after some time has also been delivered by the other, in the same order.
-/

open Stream' (Seq)

universe u v

variable {ε : Type u} {α : Type v}

namespace EventStream

/-- The events among finitely many items. -/
def events (items : List (Except ε α)) : List α := items.filterMap Except.toOption

@[simp] theorem events_nil : events ([] : List (Except ε α)) = [] := rfl

@[simp] theorem events_cons_ok (event : α) (items : List (Except ε α)) :
    events (.ok event :: items) = event :: events items := rfl

@[simp] theorem events_cons_error (error : ε) (items : List (Except ε α)) :
    events (.error error :: items) = events items := rfl

@[simp] theorem events_append (first second : List (Except ε α)) :
    events (first ++ second) = events first ++ events second :=
  List.filterMap_append

@[simp] theorem events_map_ok (kept : List α) :
    events (kept.map (Except.ok : α → Except ε α)) = kept := by
  induction kept with
  | nil => rfl
  | cons event rest ih => rw [List.map_cons, events_cons_ok, ih]

/-- Whatever the first stream delivers, the second delivers too. -/
def Within (first second : Seq (Except ε α)) : Prop :=
  ∀ count, ∃ bound, events (first.take count) <+: events (second.take bound)

/-- Both streams deliver the same events in the same order. -/
def SameEvents (first second : Seq (Except ε α)) : Prop :=
  Within first second ∧ Within second first

/-- A longer beginning continues a shorter one. -/
theorem take_add (stream : Seq (Except ε α)) (count more : Nat) :
    stream.take (count + more) = stream.take count ++ (stream.drop count).take more := by
  induction count generalizing stream with
  | zero => simp
  | succ count ih =>
      cases stream with
      | nil => simp
      | cons item rest =>
          rw [Nat.add_right_comm, Seq.take_succ_cons, Seq.take_succ_cons, Seq.drop_succ_cons, ih,
            List.cons_append]

theorem take_ofList (items : List (Except ε α)) (count : Nat) :
    (Seq.ofList items).take count = items.take count := by
  induction items generalizing count with
  | nil => simp
  | cons item rest ih =>
      cases count with
      | zero => rfl
      | succ count => simp [ih]

/-- What has been seen of a stream stays seen. -/
theorem events_take_mono (stream : Seq (Except ε α)) {count more : Nat} (le : count ≤ more) :
    events (stream.take count) <+: events (stream.take more) := by
  obtain ⟨extra, rfl⟩ := Nat.exists_eq_add_of_le le
  rw [take_add, events_append]
  exact List.prefix_append _ _

/-- The events are the items that are no errors. -/
theorem mem_events {items : List (Except ε α)} {event : α} :
    event ∈ events items ↔ .ok event ∈ items := by
  unfold events
  rw [List.mem_filterMap]
  constructor
  · intro both
    obtain ⟨item, member, kept⟩ := both
    cases item with
    | error error => cases kept
    | ok other =>
        cases kept
        exact member
  · exact fun member => ⟨.ok event, member, rfl⟩

/-- No event is among the items from a position on. -/
theorem events_take_drop_eq_nil {stream : Seq (Except ε α)} {read : Nat}
    (silent : ∀ index event, read ≤ index → stream.get? index ≠ some (.ok event)) (more : Nat) :
    events ((stream.drop read).take more) = [] := by
  apply List.eq_nil_iff_forall_not_mem.mpr
  intro event member
  obtain ⟨index, found⟩ := List.mem_iff_getElem?.mp (mem_events.mp member)
  rw [Seq.getElem?_take, Seq.drop_get?] at found
  split at found
  · exact silent (read + index) event (Nat.le_add_right read index) found
  · cases found

/-- **A stream cut after some items.** The events read so far are all the events
of the stream exactly when no event comes later. -/
theorem sameEvents_read_iff (stream : Seq (Except ε α)) (read : Nat) :
    SameEvents (Seq.ofList ((events (stream.take read)).map .ok)) stream ↔
      ∀ index event, read ≤ index → stream.get? index ≠ some (.ok event) := by
  constructor
  · intro both index event late found
    obtain ⟨-, all⟩ := both
    obtain ⟨bound, within⟩ := all (index + 1)
    rw [take_ofList, ← List.map_take, events_map_ok] at within
    obtain ⟨extra, rfl⟩ := Nat.exists_eq_add_of_le late
    have here : event ∈ events ((stream.drop read).take (extra + 1)) := by
      apply mem_events.mpr
      apply Seq.get?_mem_take (Nat.lt_succ_self extra)
      rw [Seq.drop_get?, found]
    rw [Nat.add_assoc, take_add, events_append] at within
    have short := (within.trans (List.take_prefix bound _)).length_le
    rw [List.length_append] at short
    have positive := List.length_pos_of_mem here
    omega
  · intro silent
    refine ⟨fun count => ⟨read, ?_⟩, fun count => ⟨(events (stream.take read)).length, ?_⟩⟩
    · rw [take_ofList, ← List.map_take, events_map_ok]
      exact List.take_prefix _ _
    · rw [take_ofList, ← List.map_take, events_map_ok, List.take_length]
      have longer := events_take_mono stream (Nat.le_add_left count read)
      rwa [take_add, events_append, events_take_drop_eq_nil silent, List.append_nil] at longer

end EventStream
