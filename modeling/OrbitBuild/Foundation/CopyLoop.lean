import Mathlib.Data.List.Basic

/-! # Copy loops between byte pipes

A copy loop takes elements from a source in chunks of any size, holds them, writes
them in order to a target with any partial writes, and ends when its source has
ended and it holds nothing, or when one of the two fails. It does not shut its
target down.
-/

/-- Move a nonempty chunk from the front of one queue to the back of another. -/
def transfer {α : Type} (count : Nat) (source target : List α) : Option (List α × List α) :=
  if 0 < count ∧ count ≤ source.length then
    some (source.drop count, target ++ source.take count)
  else none

section Transfer

variable {α : Type} {count : Nat} {source target rest extended : List α}

/-- What is moved leaves the front of the source for the end of the target. -/
theorem transfer_spec (moved : transfer count source target = some (rest, extended)) :
    extended ++ rest = target ++ source := by
  obtain ⟨-, equation⟩ := Option.ite_none_right_eq_some.mp moved
  obtain ⟨rfl, rfl⟩ := Prod.mk.inj (Option.some.inj equation)
  rw [List.append_assoc, List.take_append_drop]

/-- As many elements arrive as are moved. -/
theorem transfer_length (moved : transfer count source target = some (rest, extended)) :
    extended.length = target.length + count := by
  obtain ⟨enabled, equation⟩ := Option.ite_none_right_eq_some.mp moved
  obtain ⟨rfl, rfl⟩ := Prod.mk.inj (Option.some.inj equation)
  rw [List.length_append, List.length_take_of_le enabled.2]

/-- Something moves. -/
theorem transfer_shorter (moved : transfer count source target = some (rest, extended)) :
    rest.length < source.length := by
  obtain ⟨⟨positive, bounded⟩, equation⟩ := Option.ite_none_right_eq_some.mp moved
  obtain ⟨rfl, rfl⟩ := Prod.mk.inj (Option.some.inj equation)
  rw [List.length_drop]
  omega

/-- Everything in a nonempty queue can move at once. -/
theorem transfer_all (target : List α) (present : source ≠ []) :
    transfer source.length source target = some ([], target ++ source) := by
  have positive : 0 < source.length := List.length_pos_iff.mpr present
  unfold transfer
  rw [if_pos ⟨positive, Nat.le_refl _⟩, List.take_length, List.drop_length]

/-- Nothing can be moved out of an empty source, and only there. -/
theorem transfer_eq_none_iff (source target : List α) :
    (∀ count, transfer count source target = none) ↔ source = [] := by
  constructor
  · intro still
    by_contra present
    cases (transfer_all target present).symm.trans (still source.length)
  · rintro rfl count
    apply if_neg
    intro both
    obtain ⟨positive, bounded⟩ := both
    exact absurd bounded (Nat.not_le.mpr positive)

end Transfer

inductive CopyStatus
  | running
  | finished
  | failed
  deriving DecidableEq, Repr

structure CopyLoop (α : Type) where
  /-- Taken from the source and not yet written. -/
  held : List α
  /-- How many elements have been written. -/
  copied : Nat
  status : CopyStatus
  deriving DecidableEq, Repr

namespace CopyLoop

variable {α : Type}

def initial : CopyLoop α where
  held := []
  copied := 0
  status := .running

/-- Take a chunk of the source. -/
def pull (loop : CopyLoop α) (count : Nat) (source : List α) : Option (CopyLoop α × List α) :=
  if loop.status = .running then
    (transfer count source loop.held).map fun (rest, held) => ({ loop with held }, rest)
  else none

/-- Write a part of what is held. -/
def push (loop : CopyLoop α) (count : Nat) (target : List α) : Option (CopyLoop α × List α) :=
  if loop.status = .running then
    (transfer count loop.held target).map fun (held, extended) =>
      ({ loop with held, copied := loop.copied + count }, extended)
  else none

/-- Find the source at its end. -/
def finish (loop : CopyLoop α) (source : List α) (ended : Bool) : Option (CopyLoop α) :=
  if loop.status = .running ∧ loop.held = [] ∧ source = [] ∧ ended = true then
    some { loop with status := .finished }
  else none

/-- A read or a write fails. -/
def fail (loop : CopyLoop α) : Option (CopyLoop α) :=
  if loop.status = .running then some { loop with status := .failed } else none

/-- Join two loops: both counts once both have finished. -/
def join (first second : CopyLoop α) : Option (Nat × Nat) :=
  if first.status = .finished ∧ second.status = .finished then
    some (first.copied, second.copied)
  else none

/-- A read keeps the order of what is held and what is still to be read. -/
theorem pull_spec {loop next : CopyLoop α} {count : Nat} {source rest : List α}
    (moved : loop.pull count source = some (next, rest)) :
    loop.status = .running ∧ next.status = .running ∧ next.copied = loop.copied ∧
      next.held ++ rest = loop.held ++ source := by
  obtain ⟨running, enabled⟩ := Option.ite_none_right_eq_some.mp moved
  obtain ⟨⟨left, held⟩, chunk, equation⟩ := Option.map_eq_some_iff.mp enabled
  obtain ⟨rfl, rfl⟩ := Prod.mk.inj equation
  exact ⟨running, running, rfl, transfer_spec chunk⟩

/-- A read takes at least one byte. -/
theorem pull_length {loop next : CopyLoop α} {count : Nat} {source rest : List α}
    (moved : loop.pull count source = some (next, rest)) : rest.length < source.length := by
  obtain ⟨-, enabled⟩ := Option.ite_none_right_eq_some.mp moved
  obtain ⟨⟨left, held⟩, chunk, equation⟩ := Option.map_eq_some_iff.mp enabled
  obtain ⟨-, rfl⟩ := Prod.mk.inj equation
  exact transfer_shorter chunk

/-- A write gives away at least one byte. -/
theorem push_length {loop next : CopyLoop α} {count : Nat} {target extended : List α}
    (moved : loop.push count target = some (next, extended)) :
    next.held.length < loop.held.length := by
  obtain ⟨-, enabled⟩ := Option.ite_none_right_eq_some.mp moved
  obtain ⟨⟨held, grown⟩, chunk, equation⟩ := Option.map_eq_some_iff.mp enabled
  obtain ⟨rfl, -⟩ := Prod.mk.inj equation
  exact transfer_shorter chunk

/-- A write keeps the order, and counts what it has written. -/
theorem push_spec {loop next : CopyLoop α} {count : Nat} {target extended : List α}
    (moved : loop.push count target = some (next, extended)) :
    loop.status = .running ∧ next.status = .running ∧
      next.copied + target.length = loop.copied + extended.length ∧
      extended ++ next.held = target ++ loop.held := by
  obtain ⟨running, enabled⟩ := Option.ite_none_right_eq_some.mp moved
  obtain ⟨⟨held, grown⟩, chunk, equation⟩ := Option.map_eq_some_iff.mp enabled
  obtain ⟨rfl, rfl⟩ := Prod.mk.inj equation
  refine ⟨running, running, ?_, transfer_spec chunk⟩
  have grows := transfer_length chunk
  simp only
  omega

/-- A copy is done when it holds nothing and its source has ended. -/
theorem finish_spec {loop next : CopyLoop α} {source : List α} {ended : Bool}
    (moved : loop.finish source ended = some next) :
    loop.status = .running ∧ loop.held = [] ∧ source = [] ∧ ended = true ∧
      next = { loop with status := .finished } := by
  obtain ⟨⟨running, held, empty, atEnd⟩, equation⟩ := Option.ite_none_right_eq_some.mp moved
  exact ⟨running, held, empty, atEnd, (Option.some.inj equation).symm⟩

/-- Only a copy that runs can fail. -/
theorem fail_spec {loop next : CopyLoop α} (moved : loop.fail = some next) :
    loop.status = .running ∧ next = { loop with status := .failed } := by
  obtain ⟨running, equation⟩ := Option.ite_none_right_eq_some.mp moved
  exact ⟨running, (Option.some.inj equation).symm⟩

/-- The loop is done, or it waits for a source that has not ended. -/
def Blocked (loop : CopyLoop α) (source : List α) (ended : Bool) : Prop :=
  loop.status = .running → loop.held = [] ∧ source = [] ∧ ended = false

/-- A copy is blocked exactly when it can neither read nor write nor finish. -/
theorem blocked_iff (loop : CopyLoop α) (source target : List α) (ended : Bool) :
    loop.Blocked source ended ↔
      (∀ count, loop.pull count source = none) ∧ (∀ count, loop.push count target = none) ∧
        loop.finish source ended = none := by
  unfold Blocked pull push finish
  by_cases running : loop.status = .running
  · simp only [running, if_true, true_and, Option.map_eq_none_iff, forall_const,
      transfer_eq_none_iff, ite_eq_right_iff, reduceCtorEq, imp_false, not_and,
      Bool.not_eq_true]
    constructor
    · intro both
      obtain ⟨held, empty, unended⟩ := both
      exact ⟨empty, held, fun _ _ => unended⟩
    · intro both
      obtain ⟨empty, held, unended⟩ := both
      exact ⟨held, empty, unended held empty⟩
  · simp only [running, if_false, false_and, implies_true, and_self, false_implies]

/-- Two joined copies give their counts once both are done. -/
theorem join_eq_some {first second : CopyLoop α} {counts : Nat × Nat} :
    join first second = some counts ↔
      (first.status = .finished ∧ second.status = .finished) ∧
        (first.copied, second.copied) = counts := by
  unfold join
  split
  case isTrue both => simp only [both, and_self, true_and, Option.some.injEq]
  case isFalse apart => simp only [apart, false_and, reduceCtorEq]

end CopyLoop
