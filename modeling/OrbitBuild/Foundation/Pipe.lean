import Mathlib.Data.List.Induction

/-! # Pipes that nobody reads

A pipe takes whole writes in their order until one does not fit, and that one waits.
What fits need not be a matter of the number of bytes: Linux keeps the bytes of a pipe
in pages, and a small write goes into the last page only where all of it has room there.
-/

/-- Which writes a pipe has room for, given by their sizes in order. -/
structure Pipe where
  holds : List Nat → Bool
  empty : holds [] = true
  /-- A write that waits is not passed by a later one. -/
  waits : ∀ writes size, holds (writes ++ [size]) = true → holds writes = true

namespace Pipe

/-- What is written first is held if all of it is. -/
theorem holds_of_append (pipe : Pipe) {first second : List Nat}
    (held : pipe.holds (first ++ second) = true) : pipe.holds first = true := by
  induction second using List.reverseRecOn with
  | nil => rwa [List.append_nil] at held
  | append_singleton front size ih =>
      rw [← List.append_assoc] at held
      exact ih (pipe.waits _ _ held)

/-! ## Pages -/

/-- How many pages are in use, and how many bytes are in the last of them. -/
structure Pages where
  used : Nat
  filled : Nat

/-- The bytes beyond whole pages go into the last page in use where they fit, and the
others into new pages. -/
def Pages.write (page : Nat) (pages : Pages) (size : Nat) : Pages :=
  let beyond := size % page
  let whole := size / page
  if beyond = 0 then
    if whole = 0 then pages else ⟨pages.used + whole, page⟩
  else if pages.used ≠ 0 ∧ pages.filled + beyond ≤ page then
    if whole = 0 then ⟨pages.used, pages.filled + beyond⟩ else ⟨pages.used + whole, page⟩
  else ⟨pages.used + whole + 1, beyond⟩

/-- A write gives no page back. -/
theorem Pages.used_le_write (page : Nat) (pages : Pages) (size : Nat) :
    pages.used ≤ (pages.write page size).used := by
  simp only [Pages.write]
  split_ifs
  · exact Nat.le_refl _
  · exact Nat.le_add_right _ _
  · exact Nat.le_refl _
  · exact Nat.le_add_right _ _
  · exact Nat.le_add_right_of_le (Nat.le_add_right _ _)

/-- A pipe of so many pages of the same size. -/
def paged (count page : Nat) : Pipe where
  holds writes := decide ((writes.foldl (Pages.write page) ⟨0, 0⟩).used ≤ count)
  empty := decide_eq_true (Nat.zero_le count)
  waits writes size held := by
    rw [List.foldl_append, List.foldl_cons, List.foldl_nil, decide_eq_true_eq] at held
    rw [decide_eq_true_eq]
    exact Nat.le_trans (Pages.used_le_write page _ size) held

/-- A pipe of Linux, with the default of 16 pages. -/
def linux : Pipe := paged 16 4096

/-- A page has room for 31 writes of 131 bytes. -/
example : (paged 1 4096).holds (List.replicate 31 131) = true ∧
    (paged 1 4096).holds (List.replicate 32 131) = false := by decide +kernel

end Pipe
