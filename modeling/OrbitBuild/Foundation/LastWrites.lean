import OrbitBuild.Foundation.AuthorStore
import Mathlib.Data.List.Pairwise

/-! # What a sequence of writes leaves

Of the writes to one slot the last is what counts. A store that replaces what its slots
hold can be told from the writes alone: it holds those that no later write replaces, in
the order of these last writes.
-/

universe uWrite uSlot

namespace LastWrites

variable {Write : Type uWrite} {Slot : Type uSlot} [DecidableEq Slot] {slot : Write → Slot}

/-- The writes whose slot no later write has, in order. -/
def lasting (slot : Write → Slot) (writes : List Write) : List Write :=
  writes.pwFilter fun first second => slot first ≠ slot second

/-- A write that no lasting one replaces is replaced by none. -/
theorem forall_lasting {writes : List Write} {write : Write} :
    (∀ later ∈ lasting slot writes, slot write ≠ slot later) ↔
      ∀ later ∈ writes, slot write ≠ slot later := by
  apply List.forall_mem_pwFilter
  intro first second third different
  by_cases same : slot first = slot second
  · right
    rwa [← same]
  · exact Or.inl same

/-- The first write lasts exactly if none of the later ones has its slot. -/
theorem lasting_cons (write : Write) (later : List Write) :
    lasting slot (write :: later) =
      if ∀ other ∈ later, slot write ≠ slot other then write :: lasting slot later
      else lasting slot later := by
  unfold lasting
  split
  · next final => exact List.pwFilter_cons_of_pos (forall_lasting.mpr final)
  · next replaced =>
      apply List.pwFilter_cons_of_neg
      intro kept
      exact replaced (forall_lasting.mp kept)

/-- No two of the lasting writes have the same slot. -/
theorem pairwise_lasting (writes : List Write) :
    (lasting slot writes).Pairwise fun first second => slot first ≠ slot second :=
  List.pairwise_pwFilter writes

/-- A write lasts if no later one has its slot. -/
theorem mem_lasting {writes : List Write} {write : Write} :
    write ∈ lasting slot writes ↔ ∃ before after, writes = before ++ write :: after ∧
      ∀ other ∈ after, slot write ≠ slot other := by
  induction writes with
  | nil => simp [lasting]
  | cons first later ih =>
      rw [lasting_cons]
      constructor
      · intro member
        have either : (write = first ∧ ∀ other ∈ later, slot first ≠ slot other) ∨
            write ∈ lasting slot later := by
          split at member
          · next final => exact (List.mem_cons.mp member).imp_left fun same => ⟨same, final⟩
          · exact Or.inr member
        rcases either with ⟨rfl, final⟩ | inside
        · exact ⟨[], later, rfl, final⟩
        · obtain ⟨before, after, rfl, last⟩ := ih.mp inside
          exact ⟨first :: before, after, rfl, last⟩
      · rintro ⟨before, after, split, last⟩
        cases before with
        | nil =>
            cases split
            rw [if_pos last]
            exact List.mem_cons_self
        | cons head before =>
            cases split
            have inside := ih.mpr ⟨before, after, rfl, last⟩
            split
            · exact List.mem_cons_of_mem _ inside
            · exact inside

/-- What lasts has been written. -/
theorem mem_of_mem_lasting {writes : List Write} {write : Write}
    (member : write ∈ lasting slot writes) : write ∈ writes :=
  List.pwFilter_subset writes member

/-- Every slot that was written to has a lasting write. -/
theorem exists_lasting {writes : List Write} {write : Write} (member : write ∈ writes) :
    ∃ last ∈ lasting slot writes, slot last = slot write := by
  by_contra none
  apply forall_lasting.mp (fun last lasts same => none ⟨last, lasts, same.symm⟩) write member
  rfl

/-- Two slots that never disagree on a list of writes leave the same writes. -/
theorem lasting_congr {Other : Type uSlot} [DecidableEq Other] {other : Write → Other}
    {writes : List Write}
    (same : ∀ first ∈ writes, ∀ second ∈ writes,
      slot first = slot second ↔ other first = other second) :
    lasting slot writes = lasting other writes := by
  induction writes with
  | nil => rfl
  | cons first later ih =>
      have inside : ∀ write ∈ later, write ∈ first :: later :=
        fun write member => List.mem_cons_of_mem _ member
      rw [lasting_cons, lasting_cons, ih fun one memberOne two memberTwo =>
        same one (inside one memberOne) two (inside two memberTwo)]
      have agree : (∀ write ∈ later, slot first ≠ slot write) ↔
          ∀ write ∈ later, other first ≠ other write :=
        forall₂_congr fun write member =>
          not_congr (same first List.mem_cons_self write (inside write member))
      simp only [agree]

/-- Which writes last depends on their slots alone. -/
theorem lasting_map {Source : Type uWrite} (make : Source → Write) (sources : List Source) :
    lasting slot (sources.map make) = (lasting (slot ∘ make) sources).map make :=
  List.pwFilter_map make sources

/-- What later writes have nothing to do with lasts on. -/
theorem mem_lasting_append {writes others : List Write} {write : Write}
    (member : write ∈ lasting slot writes) (apart : ∀ other ∈ others, slot write ≠ slot other) :
    write ∈ lasting slot (writes ++ others) := by
  obtain ⟨before, after, rfl, last⟩ := mem_lasting.mp member
  refine mem_lasting.mpr ⟨before, after ++ others, ?_, ?_⟩
  · rw [List.append_assoc, List.cons_append]
  · intro other listed
    rcases List.mem_append.mp listed with inside | added
    · exact last other inside
    · exact apart other added

end LastWrites

namespace AuthorStore

universe uAuthor uKey uValue

variable {Author : Type uAuthor} {Key : Type uKey} {Value : Type uValue}
  [DecidableEq Author] [DecidableEq Key]

/-- A store after some writes: the old records whose slot is not among them, and the
writes that none of the later ones replaces. -/
theorem records_writes (store : AuthorStore Author Key Value)
    (writes : List (AuthorRecord Author Key Value)) :
    (writes.foldl write store).records =
      (store.records.filter fun old => ∀ later ∈ writes, old.slot ≠ later.slot) ++
        LastWrites.lasting AuthorRecord.slot writes := by
  induction writes generalizing store with
  | nil => simp [LastWrites.lasting]
  | cons first later ih =>
      have kept :
          store.records.filter (fun old => ∀ other ∈ first :: later, old.slot ≠ other.slot) =
          (store.records.filter fun old => old.slot ≠ first.slot).filter
            fun old => ∀ other ∈ later, old.slot ≠ other.slot := by
        rw [List.filter_filter]
        apply List.filter_congr
        intro old _
        simp only [List.forall_mem_cons, Bool.decide_and, Bool.and_comm]
      rw [List.foldl_cons, ih, LastWrites.lasting_cons, kept, write, List.filter_append,
        List.append_assoc]
      congr 1
      split
      · next final =>
          rw [List.filter_cons, if_pos (by simpa using final)]
          rfl
      · next replaced =>
          rw [List.filter_cons, if_neg (by simpa using replaced)]
          rfl

/-- A store that began empty holds the writes that no later one replaces. -/
theorem records_writes_empty (writes : List (AuthorRecord Author Key Value)) :
    (writes.foldl write empty).records = LastWrites.lasting AuthorRecord.slot writes :=
  records_writes empty writes

end AuthorStore
