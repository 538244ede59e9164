import Mathlib.Logic.Function.Basic

/-! # A directory of Unix sockets

A path holds nothing, a file left by a process that is gone, something that the
operating system does not let its processes remove, or a socket together with the owner
of its listener. Whatever can be removed is removed by an unlink; binding needs a free
path that the operating system accepts. The processes run as one user.
-/

universe uPath uOwner

/-- What is at a path. -/
inductive File (Owner : Type uOwner)
  | stale
  /-- A directory, or a file of another user in a sticky directory such as `/tmp`. -/
  | unremovable
  | socket (owner : Owner)
  deriving DecidableEq

/-- The content of the directory. -/
abbrev SocketDir (Path : Type uPath) (Owner : Type uOwner) := Path → Option (File Owner)

namespace SocketDir

variable {Path : Type uPath} {Owner : Type uOwner}

/-- The same directory seen by processes that own none of its sockets. -/
def inherit (dir : SocketDir Path Empty) : SocketDir Path Owner := fun path =>
  match dir path with
  | none => none
  | some .stale => some .stale
  | some .unremovable => some .unremovable

/-- No socket of an earlier process is one of the owners'. -/
theorem inherit_ne_socket (dir : SocketDir Path Empty) (path : Path) (owner : Owner) :
    dir.inherit path ≠ some (.socket owner) := by
  unfold inherit
  split <;> simp

/-- Whether `remove_file` fails at the path although something is there. -/
def blocked (dir : SocketDir Path Owner) (path : Path) : Bool :=
  match dir path with
  | some .unremovable => true
  | _ => false

/-- What could not be removed before cannot be removed now. -/
theorem blocked_inherit (dir : SocketDir Path Empty) (path : Path) :
    (dir.inherit : SocketDir Path Owner).blocked path = dir.blocked path := by
  unfold blocked inherit
  cases dir path with
  | none => rfl
  | some file =>
      cases file with
      | socket owner => exact owner.elim
      | _ => rfl

/-- Only a file that cannot be removed blocks its path. -/
theorem blocked_eq_true {dir : SocketDir Path Owner} {path : Path} :
    dir.blocked path = true ↔ dir path = some .unremovable := by
  unfold blocked
  split
  · next unremovable => simp [unremovable]
  · next other => simpa using other

variable [DecidableEq Path]

/-- `remove_file`, which fails without effect where it fails. -/
def unlink (dir : SocketDir Path Owner) (path : Path) : SocketDir Path Owner :=
  if dir.blocked path then dir else Function.update dir path none

/-- Bind a listening socket, unless the path is taken or not acceptable. -/
def bind (accepts : Path → Bool) (dir : SocketDir Path Owner) (path : Path) (owner : Owner) :
    Option (SocketDir Path Owner) :=
  match accepts path, dir path with
  | true, none => some (Function.update dir path (some (.socket owner)))
  | _, _ => none

/-- An unlink leaves other paths alone. -/
theorem unlink_of_ne (dir : SocketDir Path Owner) {path other : Path} (different : other ≠ path) :
    dir.unlink path other = dir other := by
  unfold unlink
  split
  · rfl
  · exact Function.update_of_ne different _ _

/-- An unlink frees a path that is not blocked. -/
theorem unlink_self {dir : SocketDir Path Owner} {path : Path}
    (removable : dir.blocked path = false) : dir.unlink path path = none := by
  rw [unlink, if_neg (by simp [removable])]
  exact Function.update_self _ _ _

/-- Only what cannot be removed is left after an unlink. -/
theorem unlink_self_cases (dir : SocketDir Path Owner) (path : Path) :
    dir.unlink path path = none ∨ dir.unlink path path = some .unremovable := by
  cases found : dir.blocked path with
  | true =>
      rw [unlink, if_pos found]
      exact Or.inr (blocked_eq_true.mp found)
  | false => exact Or.inl (unlink_self found)

/-- No socket is at a path that has been unlinked. -/
theorem unlink_ne_socket (dir : SocketDir Path Owner) (path : Path) (owner : Owner) :
    dir.unlink path path ≠ some (.socket owner) := by
  intro socket
  rcases dir.unlink_self_cases path with empty | unremovable
  · cases empty.symm.trans socket
  · cases unremovable.symm.trans socket

/-- An unlink blocks no path and frees no blocked one. -/
theorem blocked_unlink (dir : SocketDir Path Owner) (path other : Path) :
    (dir.unlink path).blocked other = dir.blocked other := by
  by_cases same : other = path
  · subst same
    cases found : dir.blocked other with
    | true => rw [unlink, if_pos found, found]
    | false => rw [blocked, unlink_self found]
  · rw [blocked, unlink_of_ne dir same, blocked]

/-- A bind takes a free path that the system accepts, and nothing else. -/
theorem bind_eq_some {accepts : Path → Bool} {dir next : SocketDir Path Owner} {path : Path}
    {owner : Owner} :
    dir.bind accepts path owner = some next ↔
      accepts path = true ∧ dir path = none ∧
        next = Function.update dir path (some (.socket owner)) := by
  unfold bind
  split
  · next accepted free => simp [accepted, free, eq_comm]
  · next refused =>
      simp only [reduceCtorEq, false_iff, not_and]
      exact fun accepted free => (refused accepted free).elim

/-- A bind fails at a path that is taken or not accepted. -/
theorem bind_eq_none {accepts : Path → Bool} {dir : SocketDir Path Owner} {path : Path}
    {owner : Owner} :
    dir.bind accepts path owner = none ↔ ¬ (accepts path = true ∧ dir path = none) := by
  rw [Option.eq_none_iff_forall_ne_some]
  simp only [ne_eq, bind_eq_some, not_and]
  exact ⟨fun none accepted free => none _ accepted free rfl,
    fun refused _ accepted free _ => refused accepted free⟩

/-- A bind blocks no path and frees no blocked one. -/
theorem blocked_bind {accepts : Path → Bool} {dir next : SocketDir Path Owner} {path : Path}
    {owner : Owner} (bound : dir.bind accepts path owner = some next) (other : Path) :
    next.blocked other = dir.blocked other := by
  obtain ⟨-, free, rfl⟩ := bind_eq_some.mp bound
  by_cases same : other = path
  · subst same
    rw [blocked, Function.update_self, blocked, free]
  · rw [blocked, Function.update_of_ne same, blocked]

end SocketDir
