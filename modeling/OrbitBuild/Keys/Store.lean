import OrbitBuild.Core.Node

/-! # The key file of a node

`load_or_generate_secret_key` takes the existence of the file for the sign that a key
has been persisted, and `save_secret_key` opens the file with truncation before it
writes. A save that stops in between leaves a file that no later start can load.
-/

namespace OrbitBuild

/-- The canonical form of an ed25519 secret key. -/
abbrev SecretKey := Bytes32

namespace Keys

/-- The path of the key and its parent directory, as the messages show them. -/
structure Location where
  path : String
  parent : String

/-- The parent directory with the content of the key file. -/
inductive Disk
  | noDirectory
  | directory (file : Option (List UInt8))
  deriving DecidableEq

namespace Disk

def file : Disk → Option (List UInt8)
  | .noDirectory => none
  | .directory file => file

/-- `create_dir_all`. -/
def createDirAll : Disk → Disk
  | .noDirectory => .directory none
  | .directory file => .directory file

/-- Create the key file or drop its content. Without the directory this fails. -/
def openTruncate : Disk → Option Disk
  | .noDirectory => none
  | .directory _ => some (.directory (some []))

/-- Write at the start of the file. -/
def write (bytes : List UInt8) : Disk → Disk
  | .noDirectory => .noDirectory
  | .directory file => .directory (file.map fun old => bytes ++ old.drop bytes.length)

/-- There is no key file, or it holds a whole key. -/
def Complete (disk : Disk) : Prop := ∀ bytes, disk.file = some bytes → bytes.length = 32

/-- Without a directory there is no file that could be cut short. -/
theorem complete_noDirectory : noDirectory.Complete := by
  intro bytes found
  cases found

end Disk

def loadSecretKey (location : Location) (disk : Disk) : Except String SecretKey :=
  match disk.file with
  | none => .error ("failed to read secret key from " ++ location.path)
  | some bytes =>
      if length : bytes.length = 32 then .ok ⟨bytes, length⟩
      else .error "secret key file must be exactly 32 bytes"

/-- Where a save stops, because the operation fails or the process dies. -/
inductive Fault
  | createDirAll
  | openFile
  /-- The file is open and this many bytes of the key are written. -/
  | write (written : Nat)
  deriving DecidableEq

/-- The disk after a save, and what the save returns unless the process has died. -/
def saveSecretKey (location : Location) (key : SecretKey) (fault : Option Fault) (disk : Disk) :
    Disk × Except String Unit :=
  match fault with
  | some .createDirAll => (disk, .error ("failed to create directory " ++ location.parent))
  | some .openFile =>
      (disk.createDirAll, .error ("failed to write secret key to " ++ location.path))
  | some (.write written) =>
      match disk.createDirAll.openTruncate with
      | none => (disk.createDirAll, .error ("failed to write secret key to " ++ location.path))
      | some truncated =>
          (truncated.write (key.1.take written),
            .error ("failed to write secret key to " ++ location.path))
  | none =>
      match disk.createDirAll.openTruncate with
      | none => (disk.createDirAll, .error ("failed to write secret key to " ++ location.path))
      | some truncated => (truncated.write key.1, .ok ())

/-- A call with the key it would generate and the fault it would meet in a save. -/
structure Call where
  fresh : SecretKey
  fault : Option Fault

def loadOrGenerateSecretKey (location : Location) (call : Call) (disk : Disk) :
    Disk × Except String SecretKey :=
  if disk.file.isSome then (disk, loadSecretKey location disk)
  else
    match saveSecretKey location call.fresh call.fault disk with
    | (after, .error error) => (after, .error error)
    | (after, .ok ()) => (after, .ok call.fresh)

/-- The disk after calls in a row, and what they returned. -/
def history (location : Location) : Disk → List Call → Disk × List (Except String SecretKey)
  | disk, [] => (disk, [])
  | disk, call :: rest =>
      let (next, result) := loadOrGenerateSecretKey location call disk
      let (last, results) := history location next rest
      (last, result :: results)

/-- How many bytes of the key a call writes, if its save gets as far as the open. -/
def Call.written (call : Call) : Option Nat :=
  match call.fault with
  | some .createDirAll | some .openFile => none
  | some (.write written) => some (min written 32)
  | none => some 32

/-- After the calls the next start works, and it returns the key returned before. -/
def Recovers (location : Location) (start : Disk) (calls : List Call) : Prop :=
  (history location start calls).1.Complete ∧
    ∀ fresh, ∃ key,
      (loadOrGenerateSecretKey location ⟨fresh, none⟩ (history location start calls).1).2 =
          .ok key ∧
        ∀ old : SecretKey, start.file = some old.1 ∨ .ok old ∈ (history location start calls).2 →
          key = old

/-! ## What one call does -/

variable {location : Location} {disk : Disk}

/-- A key is loaded exactly if it is what the file holds. -/
theorem loadSecretKey_eq_ok {key : SecretKey} :
    loadSecretKey location disk = .ok key ↔ disk.file = some key.1 := by
  unfold loadSecretKey
  cases disk.file with
  | none => simp only [reduceCtorEq]
  | some bytes =>
      by_cases length : bytes.length = 32
      · simp only [dif_pos length, Except.ok.injEq, Option.some.injEq, Subtype.ext_iff]
      · simp only [dif_neg length, reduceCtorEq, Option.some.injEq, false_iff]
        rintro rfl
        exact length key.2

/-- A file that exists is loaded and left as it is. -/
theorem call_of_file {bytes : List UInt8} (found : disk.file = some bytes) (call : Call) :
    loadOrGenerateSecretKey location call disk = (disk, loadSecretKey location disk) := by
  rw [loadOrGenerateSecretKey, if_pos (by rw [found]; rfl)]

/-- Creating the directory makes no file. -/
theorem createDirAll_of_absent (absent : disk.file = none) :
    disk.createDirAll = .directory none := by
  cases disk with
  | noDirectory => rfl
  | directory file => rw [Disk.file] at absent; rw [absent]; rfl

/-- Without a file, a call leaves the part of its key that it writes. -/
theorem call_of_absent (location : Location) (absent : disk.file = none) (call : Call) :
    (loadOrGenerateSecretKey location call disk).1.file =
        call.written.map (call.fresh.1.take ·) ∧
      ∀ key, (loadOrGenerateSecretKey location call disk).2 = .ok key →
        key = call.fresh ∧ call.written = some 32 := by
  have length := call.fresh.2
  have whole : call.fresh.1.take 32 = call.fresh.1 :=
    List.take_of_length_le (Nat.le_of_eq length)
  unfold loadOrGenerateSecretKey Call.written
  rw [if_neg (by rw [absent]; decide)]
  cases call.fault with
  | none =>
      simp only [saveSecretKey, createDirAll_of_absent absent, Disk.openTruncate, Disk.write,
        Disk.file, Option.map_some, List.drop_nil, List.append_nil, whole, true_and]
      intro key returned
      exact ⟨(Except.ok.inj returned).symm, trivial⟩
  | some fault =>
      cases fault with
      | createDirAll => exact ⟨absent, nofun⟩
      | openFile =>
          simp only [saveSecretKey, createDirAll_of_absent absent]
          exact ⟨rfl, nofun⟩
      | write written =>
          have shorter : call.fresh.1.take (min written 32) = call.fresh.1.take written := by
            rw [List.take_eq_take_iff, length]
            omega
          simp only [saveSecretKey, createDirAll_of_absent absent, Disk.openTruncate, Disk.write,
            Disk.file, Option.map_some, List.drop_nil, List.append_nil, shorter, true_and]
          exact nofun

/-- On a working file system a call without a file succeeds. -/
theorem fresh_of_absent (absent : disk.file = none) (fresh : SecretKey) :
    (loadOrGenerateSecretKey location ⟨fresh, none⟩ disk).2 = .ok fresh := by
  rw [loadOrGenerateSecretKey, if_neg (by rw [absent]; decide)]
  simp only [saveSecretKey, createDirAll_of_absent absent, Disk.openTruncate]

/-! ## What calls in a row do -/

/-- A part of a key that is as long as a key is the key. -/
theorem eq_of_take_eq {key old : SecretKey} {written : Nat} (part : key.1.take written = old.1) :
    key.1 = old.1 := by
  have length := congrArg List.length part
  rw [List.length_take, key.2, old.2] at length
  rw [← part, List.take_of_length_le (by rw [key.2]; omega)]

/-- Once there is a file, all calls load it and none changes it. -/
theorem history_of_file {bytes : List UInt8} (found : disk.file = some bytes)
    (calls : List Call) :
    history location disk calls =
      (disk, List.replicate calls.length (loadSecretKey location disk)) := by
  induction calls with
  | nil => rfl
  | cons call rest ih =>
      simp only [history, call_of_file found, ih, List.length_cons, List.replicate_succ]

/-- A call writes at most the 32 bytes of its key. -/
theorem written_le {calls : List Call} {written : Nat}
    (first : calls.findSome? Call.written = some written) : written ≤ 32 := by
  obtain ⟨call, -, found⟩ := List.exists_of_findSome?_eq_some first
  unfold Call.written at found
  split at found
  · cases found
  · cases found
  · rw [← Option.some.inj found]
    exact Nat.min_le_right _ _
  · exact Nat.le_of_eq (Option.some.inj found).symm

/-- The first save that gets as far as the open decides what the file holds, and only
its key is ever returned. -/
theorem history_of_absent (location : Location) (absent : disk.file = none) (calls : List Call) :
    (calls.findSome? Call.written = none ∧ (history location disk calls).1.file = none ∧
        ∀ key, .ok key ∉ (history location disk calls).2) ∨
      ∃ (key : SecretKey) (written : Nat), calls.findSome? Call.written = some written ∧
        (history location disk calls).1.file = some (key.1.take written) ∧
        ∀ old, .ok old ∈ (history location disk calls).2 → old = key := by
  induction calls generalizing disk with
  | nil => exact Or.inl ⟨rfl, absent, fun _ => List.not_mem_nil⟩
  | cons call rest ih =>
      obtain ⟨left, returned⟩ := call_of_absent location absent call
      generalize outcome : loadOrGenerateSecretKey location call disk = next at left returned
      obtain ⟨after, result⟩ := next
      simp only [history, outcome, List.findSome?_cons]
      cases opened : call.written with
      | none =>
          rw [opened] at left
          have failed : ∀ key, .ok key ≠ result := by
            intro key same
            cases opened.symm.trans (returned key same.symm).2
          rcases ih left with ⟨never, still, nothing⟩ | ⟨key, written, first, held, only⟩
          · refine Or.inl ⟨never, still, fun key member => ?_⟩
            rcases List.mem_cons.mp member with here | later
            · exact failed key here
            · exact nothing key later
          · refine Or.inr ⟨key, written, first, held, fun old member => ?_⟩
            rcases List.mem_cons.mp member with here | later
            · exact (failed old here).elim
            · exact only old later
      | some written =>
          rw [opened] at left
          refine Or.inr ⟨call.fresh, written, rfl, ?_, fun old member => ?_⟩
          · rw [history_of_file left]
            exact left
          · rcases List.mem_cons.mp member with here | later
            · exact (returned old here.symm).1
            · rw [history_of_file left] at later
              have loaded := loadSecretKey_eq_ok.mp (List.eq_of_mem_replicate later).symm
              rw [left, Option.map_some, Option.some.injEq] at loaded
              exact Subtype.ext (eq_of_take_eq loaded).symm

/-- **When the node keeps its identity.** After failed and completed calls in any order,
the next start works and returns the key returned before, exactly when there was a key
file from the beginning or the first save that got as far as opening the file wrote
all 32 bytes. -/
theorem recovers_iff (location : Location) {start : Disk} (complete : start.Complete)
    (calls : List Call) :
    Recovers location start calls ↔
      start.file.isSome = true ∨
        ∀ written, calls.findSome? Call.written = some written → written = 32 := by
  cases found : start.file with
  | some bytes =>
      have length := complete bytes found
      have loaded : loadSecretKey location start = .ok ⟨bytes, length⟩ :=
        loadSecretKey_eq_ok.mpr found
      simp only [Option.isSome_some, true_or, iff_true]
      rw [Recovers, history_of_file found]
      refine ⟨complete, fun fresh => ⟨⟨bytes, length⟩, ?_, fun old returned => ?_⟩⟩
      · rw [call_of_file found, loaded]
      · rcases returned with kept | member
        · exact Subtype.ext (Option.some.inj (found.symm.trans kept))
        · rw [loaded] at member
          exact (Except.ok.inj (List.eq_of_mem_replicate member)).symm
  | none =>
      simp only [Option.isSome_none, Bool.false_eq_true, false_or]
      rcases history_of_absent location found calls with
        ⟨never, absent, nothing⟩ | ⟨key, written, first, held, only⟩
      · simp only [never, reduceCtorEq, false_implies, implies_true, iff_true]
        refine ⟨fun bytes file => ?_, fun fresh => ⟨fresh, fresh_of_absent absent fresh, ?_⟩⟩
        · cases absent.symm.trans file
        · intro old returned
          rcases returned with kept | member
          · cases found.symm.trans kept
          · exact (nothing old member).elim
      · simp only [first, Option.some.injEq, forall_eq']
        have bound := written_le first
        constructor
        · intro recovers
          have whole := recovers.1 _ held
          rw [List.length_take, key.2] at whole
          omega
        · rintro rfl
          rw [List.take_of_length_le (Nat.le_of_eq key.2)] at held
          refine ⟨fun bytes file => ?_, fun fresh => ⟨key, ?_, fun old returned => ?_⟩⟩
          · rw [← Option.some.inj (held.symm.trans file)]
            exact key.2
          · rw [call_of_file held]
            exact loadSecretKey_eq_ok.mpr held
          · rcases returned with kept | member
            · cases found.symm.trans kept
            · exact (only old member).symm

theorem length_repeated (byte : UInt8) : (List.replicate 32 byte).length = 32 :=
  List.length_replicate

/-- A key of one repeated byte. -/
def keyOfByte (byte : UInt8) : SecretKey := ⟨List.replicate 32 byte, length_repeated byte⟩

theorem recovers_after_createDirAll :
    Recovers ⟨"/home/node/.orbitbuild/node.key", "/home/node/.orbitbuild"⟩ .noDirectory
        [⟨keyOfByte 1, some .createDirAll⟩, ⟨keyOfByte 2, some .openFile⟩,
          ⟨keyOfByte 3, none⟩] ↔
      Disk.noDirectory.file.isSome = true ∨
        ∀ written,
          [⟨keyOfByte 1, some .createDirAll⟩, ⟨keyOfByte 2, some .openFile⟩,
            ⟨keyOfByte 3, none⟩].findSome? Call.written = some written → written = 32 :=
  recovers_iff _ Disk.complete_noDirectory _

/-- A full disk: the file is created and nothing is written, and the node is locked out. -/
theorem full_disk_locks_out :
    ¬ Recovers ⟨"/home/node/.orbitbuild/node.key", "/home/node/.orbitbuild"⟩ .noDirectory
      [⟨keyOfByte 1, some (.write 0)⟩] := by
  intro recovers
  have whole := recovers.1 [] rfl
  cases whole

end Keys

end OrbitBuild
