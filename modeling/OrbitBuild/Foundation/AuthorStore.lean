import Mathlib.Data.List.Nodup

/-! # A replicated store with one record per author and key

Every author has its own slot for a key. A write replaces the record of the same
author and key and leaves every other record, those of other authors under the
same key included. Keys are compared as wholes: where a store drops the records under
longer keys with the written one, no key in use is a front part of another.
-/

universe uAuthor uKey uValue

variable {Author : Type uAuthor} {Key : Type uKey} {Value : Type uValue}

/-- A value stored by an author under a key. -/
structure AuthorRecord (Author : Type uAuthor) (Key : Type uKey) (Value : Type uValue) where
  author : Author
  key : Key
  value : Value
  deriving DecidableEq

/-- The slot a record occupies. -/
def AuthorRecord.slot (record : AuthorRecord Author Key Value) : Author × Key :=
  (record.author, record.key)

/-- Records in distinct slots. -/
structure AuthorStore (Author : Type uAuthor) (Key : Type uKey) (Value : Type uValue) where
  records : List (AuthorRecord Author Key Value)
  unique : (records.map AuthorRecord.slot).Nodup

namespace AuthorStore

/-- The store without records. -/
def empty : AuthorStore Author Key Value := ⟨[], List.nodup_nil⟩

variable [DecidableEq Author] [DecidableEq Key]

/-- Store a record in its slot. -/
def write (store : AuthorStore Author Key Value) (record : AuthorRecord Author Key Value) :
    AuthorStore Author Key Value where
  records := store.records.filter (fun old => old.slot ≠ record.slot) ++ [record]
  unique := by
    rw [List.map_append, List.map_singleton]
    refine List.Nodup.append (store.unique.sublist (List.filter_sublist.map _))
      (List.nodup_singleton _) ?_
    intro slot kept fresh
    obtain ⟨old, member, rfl⟩ := List.mem_map.mp kept
    simp only [ne_eq, decide_not, List.mem_filter, Bool.not_eq_eq_eq_not, Bool.not_true,
      decide_eq_false_iff_not] at member
    exact member.2 (List.mem_singleton.mp fresh)

/-- A write puts its record in the place of the one with its slot and keeps the others. -/
theorem mem_write {store : AuthorStore Author Key Value}
    {record element : AuthorRecord Author Key Value} :
    element ∈ (store.write record).records ↔
      (element ∈ store.records ∧ element.slot ≠ record.slot) ∨ element = record := by
  simp only [write, List.mem_append, List.mem_filter, List.mem_singleton, decide_eq_true_eq]

/-- A key that is in use stays in use. -/
theorem exists_key_write {store : AuthorStore Author Key Value}
    {record : AuthorRecord Author Key Value} {key : Key} :
    (∃ element ∈ (store.write record).records, element.key = key) ↔
      record.key = key ∨ ∃ element ∈ store.records, element.key = key := by
  constructor
  · intro both
    obtain ⟨element, member, rfl⟩ := both
    rcases mem_write.mp member with ⟨old, -⟩ | rfl
    · exact Or.inr ⟨element, old, rfl⟩
    · exact Or.inl rfl
  · intro either
    rcases either with rfl | ⟨element, member, rfl⟩
    · exact ⟨record, mem_write.mpr (Or.inr rfl), rfl⟩
    · by_cases same : element.slot = record.slot
      · exact ⟨record, mem_write.mpr (Or.inr rfl), (congrArg Prod.snd same).symm⟩
      · exact ⟨element, mem_write.mpr (Or.inl ⟨member, same⟩), rfl⟩

/-- Some record is in the slot. -/
def Uses (store : AuthorStore Author Key Value) (slot : Author × Key) : Prop :=
  ∃ record ∈ store.records, record.slot = slot

/-- A write uses its own slot and no other new one. -/
theorem uses_write {store : AuthorStore Author Key Value}
    {record : AuthorRecord Author Key Value} {slot : Author × Key} :
    (store.write record).Uses slot ↔ store.Uses slot ∨ slot = record.slot := by
  constructor
  · intro both
    obtain ⟨element, member, rfl⟩ := both
    rcases mem_write.mp member with ⟨old, -⟩ | rfl
    · exact Or.inl ⟨element, old, rfl⟩
    · exact Or.inr rfl
  · intro either
    by_cases same : slot = record.slot
    · exact ⟨record, mem_write.mpr (Or.inr rfl), same.symm⟩
    · obtain ⟨element, old, rfl⟩ := either.resolve_right same
      exact ⟨element, mem_write.mpr (Or.inl ⟨old, same⟩), rfl⟩

/-- The key of every record, once for each author that has written under it. -/
def keys (store : AuthorStore Author Key Value) : List Key :=
  store.records.map AuthorRecord.key

/-- The key that is written moves to the end of the list of keys. -/
theorem keys_write (store : AuthorStore Author Key Value)
    (record : AuthorRecord Author Key Value) :
    (store.write record).keys =
      (store.records.filter fun old => old.slot ≠ record.slot).map AuthorRecord.key ++
        [record.key] :=
  List.map_append

/-- Writing to a slot in use leaves the keys as they are, up to their order. -/
theorem keys_write_of_uses {store : AuthorStore Author Key Value}
    {record : AuthorRecord Author Key Value} (used : store.Uses record.slot) :
    (store.write record).keys.Perm store.keys := by
  obtain ⟨old, member, same⟩ := used
  obtain ⟨front, back, split⟩ := List.append_of_mem member
  have unique := store.unique
  rw [split, List.map_append, List.map_cons, List.nodup_middle, List.nodup_cons, same] at unique
  have others : ∀ element ∈ front ++ back, decide (element.slot ≠ record.slot) = true := by
    intro element listed
    apply decide_eq_true
    intro equal
    apply unique.1
    rw [← List.map_append, ← equal]
    exact List.mem_map_of_mem listed
  have kept : store.records.filter (fun element => element.slot ≠ record.slot) = front ++ back := by
    rw [split, List.filter_append, List.filter_cons, if_neg (by simp only [same, ne_eq,
      not_true_eq_false, decide_false, Bool.false_eq_true, not_false_eq_true]),
      ← List.filter_append, List.filter_eq_self.mpr others]
  have named : record.key = old.key := (congrArg Prod.snd same).symm
  rw [keys_write, kept, keys, split, named, List.map_append, List.map_append, List.map_cons,
    List.append_assoc]
  exact (List.perm_append_singleton _ _).append_left _

/-- Writing to a free slot adds its key. -/
theorem keys_write_of_free {store : AuthorStore Author Key Value}
    {record : AuthorRecord Author Key Value} (free : ¬ store.Uses record.slot) :
    (store.write record).keys = store.keys ++ [record.key] := by
  have kept : store.records.filter (fun element => element.slot ≠ record.slot) = store.records :=
    List.filter_eq_self.mpr fun element member =>
      decide_eq_true fun same => free ⟨element, member, same⟩
  rw [keys_write, kept, keys]

end AuthorStore
