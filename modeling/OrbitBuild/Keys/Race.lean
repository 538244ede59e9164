import Mathlib.Data.Fintype.Defs
import OrbitBuild.Foundation.Transition
import OrbitBuild.Keys.Store

/-! # Processes that share a key file

Any number of nodes call `load_or_generate_secret_key` on one path. The check, the
truncating open and the write are separate steps: two nodes that find no file each
generate a key, and a node can read the file between the open and the write. Without
such overlaps every node runs under the persisted key.
-/

namespace OrbitBuild

universe u

variable {ι : Type u} [DecidableEq ι]

namespace Keys

/-- How far a call has come. -/
inductive Phase
  | started
  /-- No file was found, and a key is generated. -/
  | generating
  /-- The parent directory exists. -/
  | opening
  /-- The file is open and empty. -/
  | writing
  /-- A file was found. -/
  | loading
  | returned (result : Except String SecretKey)
  deriving DecidableEq

structure State (ι : Type u) where
  disk : Disk
  phase : ι → Phase

def State.initial (disk : Disk) : State ι := ⟨disk, fun _ => .started⟩

/-- The process moves on, and leaves this disk. -/
def State.put (state : State ι) (process : ι) (disk : Disk) (phase : Phase) : State ι :=
  ⟨disk, Function.update state.phase process phase⟩

/-- The next step of a process; `keys` are the keys they would generate. -/
def step (location : Location) (keys : ι → SecretKey) (state : State ι) (process : ι) :
    Option (State ι) :=
  match state.phase process with
  | .started =>
      if state.disk.file.isSome then some (state.put process state.disk .loading)
      else some (state.put process state.disk .generating)
  | .generating => some (state.put process state.disk.createDirAll .opening)
  | .opening =>
      match state.disk.openTruncate with
      | none =>
          some (state.put process state.disk
            (.returned (.error ("failed to write secret key to " ++ location.path))))
      | some truncated => some (state.put process truncated .writing)
  | .writing =>
      some (state.put process (state.disk.write (keys process).1) (.returned (.ok (keys process))))
  | .loading => some (state.put process state.disk (.returned (loadSecretKey location state.disk)))
  | .returned _ => none

/-- Whoever has returned runs under the key that the file holds. -/
def State.Agreed (state : State ι) : Prop :=
  ∀ process result, state.phase process = .returned result →
    ∃ key, result = .ok key ∧ state.disk.file = some key.1

/-- The process does not find the file missing while another one is about to create
it, and does not read it while another one has yet to write it. -/
def Undisturbed (state : State ι) (process : ι) : Prop :=
  (state.phase process = .started ∧ state.disk.file = none →
    ∀ other, state.phase other ≠ .generating ∧ state.phase other ≠ .opening) ∧
  (state.phase process = .loading → ∀ other, state.phase other ≠ .writing)

instance [Fintype ι] (state : State ι) (process : ι) : Decidable (Undisturbed state process) :=
  inferInstanceAs (Decidable (_ ∧ _))

/-! ## One process at a time -/

section Alone

variable (location : Location) (keys : ι → SecretKey) (state : State ι) (process : ι)

/-- A process that is left alone does what the sequential function does. -/
theorem run_alone (started : state.phase process = .started) :
    ∃ count, Transition.run (Keys.step location keys) state (List.replicate count process) =
      some (state.put process
        (loadOrGenerateSecretKey location ⟨keys process, none⟩ state.disk).1
        (.returned (loadOrGenerateSecretKey location ⟨keys process, none⟩ state.disk).2)) := by
  cases found : state.disk.file with
  | some bytes =>
      refine ⟨2, ?_⟩
      rw [call_of_file found]
      simp [List.replicate, Transition.run, Keys.step, started, found, State.put]
  | none =>
      refine ⟨4, ?_⟩
      simp [List.replicate, Transition.run, Keys.step, started, found, State.put,
        loadOrGenerateSecretKey, saveSecretKey, createDirAll_of_absent found, Disk.openTruncate]

end Alone

/-- What holds as long as the steps are undisturbed: one process at most is on its way
to the open, or one has the file open, or the key is persisted. -/
inductive Serial (keys : ι → SecretKey) (state : State ι) : Prop
  | absent (missing : state.disk.file = none)
      (phases : ∀ process, state.phase process = .started ∨ state.phase process = .generating ∨
        state.phase process = .opening ∧ state.disk = .directory none)
      (single : ∀ first second, state.phase first ≠ .started → state.phase second ≠ .started →
        first = second)
  | truncated (saver : ι) (writing : state.phase saver = .writing)
      (empty : state.disk = .directory (some []))
      (others : ∀ process ≠ saver, state.phase process = .started ∨
        state.phase process = .loading)
  | persisted (key : SecretKey) (held : state.disk.file = some key.1)
      (phases : ∀ process, state.phase process = .started ∨ state.phase process = .loading ∨
        state.phase process = .returned (.ok key))

variable {location : Location} {keys : ι → SecretKey} {state next : State ι} {process : ι}

omit [DecidableEq ι] in
theorem Serial.initial {disk : Disk} (complete : disk.Complete) :
    Serial keys (.initial disk : State ι) := by
  cases found : disk.file with
  | none =>
      exact .absent found (fun _ => Or.inl rfl) fun first second moved => (moved rfl).elim
  | some bytes => exact .persisted ⟨bytes, complete bytes found⟩ found fun _ => Or.inl rfl

/-- As long as the steps are undisturbed, the processes agree. -/
theorem Serial.agreed (serial : Serial keys state) : state.Agreed := by
  intro process result returned
  cases serial with
  | absent missing phases single =>
      rcases phases process with phase | phase | ⟨phase, -⟩ <;> cases phase.symm.trans returned
  | truncated saver writing empty others =>
      by_cases same : process = saver
      · subst same
        cases writing.symm.trans returned
      · rcases others process same with phase | phase <;> cases phase.symm.trans returned
  | persisted key held phases =>
      rcases phases process with phase | phase | phase
      · cases phase.symm.trans returned
      · cases phase.symm.trans returned
      · cases phase.symm.trans returned
        exact ⟨key, rfl, held⟩

@[simp] theorem put_phase_self (disk : Disk) (phase : Phase) :
    (state.put process disk phase).phase process = phase :=
  Function.update_self _ _ _

theorem put_phase_of_ne {other : ι} (different : other ≠ process) (disk : Disk) (phase : Phase) :
    (state.put process disk phase).phase other = state.phase other :=
  Function.update_of_ne different _ _

/-- After a step, what holds of the process that has moved and held of the others
holds of all. -/
@[elab_as_elim]
theorem put_phase_cases {motive : Phase → Prop} {disk : Disk} {phase : Phase} (other : ι)
    (own : motive phase) (kept : other ≠ process → motive (state.phase other)) :
    motive ((state.put process disk phase).phase other) := by
  by_cases same : other = process
  · rw [same, put_phase_self]
    exact own
  · rw [put_phase_of_ne same]
    exact kept same

/-- A step of one process leaves the others where they are. -/
theorem phase_step_of_ne {other : ι} (different : other ≠ process)
    (moved : Keys.step location keys state process = some next) :
    next.phase other = state.phase other := by
  unfold Keys.step at moved
  repeat' split at moved
  all_goals cases moved
  all_goals exact put_phase_of_ne different _ _

/-- Without a file one process at most goes on to make one. -/
theorem Serial.step_absent (missing : state.disk.file = none)
    (phases : ∀ process, state.phase process = .started ∨ state.phase process = .generating ∨
      state.phase process = .opening ∧ state.disk = .directory none)
    (single : ∀ first second, state.phase first ≠ .started → state.phase second ≠ .started →
      first = second)
    (undisturbed : Undisturbed state process)
    (moved : Keys.step location keys state process = some next) : Serial keys next := by
  have alone : ∀ {phase : Phase} {disk : Disk},
      (∀ other ≠ process, state.phase other = .started) →
        ∀ first second, (state.put process disk phase).phase first ≠ .started →
          (state.put process disk phase).phase second ≠ .started → first = second := by
    intro phase disk idle
    have only : ∀ other, (state.put process disk phase).phase other ≠ .started →
        other = process := by
      intro other busy
      by_contra different
      rw [put_phase_of_ne different] at busy
      exact busy (idle other different)
    intro first second busyFirst busySecond
    rw [only first busyFirst, only second busySecond]
  rcases phases process with phase | phase | ⟨phase, created⟩
  · simp only [Keys.step, phase, missing, Option.isSome_none, Bool.false_eq_true, ↓reduceIte,
      Option.some.injEq] at moved
    subst moved
    have idle : ∀ other ≠ process, state.phase other = .started := by
      intro other _
      obtain ⟨notGenerating, notOpening⟩ := undisturbed.1 ⟨phase, missing⟩ other
      rcases phases other with started | generating | ⟨opening, -⟩
      · exact started
      · exact (notGenerating generating).elim
      · exact (notOpening opening).elim
    refine .absent missing (fun other => ?_) (alone idle)
    refine put_phase_cases other (Or.inr (Or.inl rfl)) fun different => ?_
    exact Or.inl (idle other different)
  · simp only [Keys.step, phase, Option.some.injEq] at moved
    subst moved
    have idle : ∀ other ≠ process, state.phase other = .started := by
      intro other different
      by_contra busy
      exact different (single other process busy (by rw [phase]; decide))
    have created : state.disk.createDirAll = .directory none := createDirAll_of_absent missing
    refine .absent (by rw [State.put, created]; rfl) (fun other => ?_) (alone idle)
    refine put_phase_cases other (Or.inr (Or.inr ⟨rfl, created⟩)) fun different => ?_
    exact Or.inl (idle other different)
  · simp only [Keys.step, phase, created, Disk.openTruncate, Option.some.injEq] at moved
    subst moved
    refine .truncated process (put_phase_self _ _) rfl fun other different => ?_
    rw [put_phase_of_ne different]
    left
    by_contra busy
    exact different (single other process busy (by rw [phase]; decide))

/-- While the file is empty only the one that has opened it goes on. -/
theorem Serial.step_truncated {saver : ι} (writing : state.phase saver = .writing)
    (empty : state.disk = .directory (some []))
    (others : ∀ process ≠ saver, state.phase process = .started ∨ state.phase process = .loading)
    (undisturbed : Undisturbed state process)
    (moved : Keys.step location keys state process = some next) : Serial keys next := by
  by_cases same : process = saver
  · subst same
    simp only [Keys.step, writing, Option.some.injEq] at moved
    subst moved
    refine .persisted (keys process) ?_ ?_
    · simp [State.put, empty, Disk.write, Disk.file]
    · intro other
      refine put_phase_cases other (Or.inr (Or.inr rfl)) fun different => ?_
      exact (others other different).imp_right Or.inl
  · rcases others process same with phase | phase
    · have found : state.disk.file.isSome = true := by rw [empty]; rfl
      simp only [Keys.step, phase, found, ↓reduceIte, Option.some.injEq] at moved
      subst moved
      refine .truncated saver ?_ empty ?_
      · rw [put_phase_of_ne (Ne.symm same)]
        exact writing
      · intro other different
        exact put_phase_cases other (Or.inr rfl) fun _ => others other different
    · exact (undisturbed.2 phase saver writing).elim

/-- A file that is there is loaded by everyone else. -/
theorem Serial.step_persisted {key : SecretKey} (held : state.disk.file = some key.1)
    (phases : ∀ process, state.phase process = .started ∨ state.phase process = .loading ∨
      state.phase process = .returned (.ok key))
    (moved : Keys.step location keys state process = some next) : Serial keys next := by
  rcases phases process with phase | phase | phase
  · simp only [Keys.step, phase, held, Option.isSome_some, ↓reduceIte, Option.some.injEq] at moved
    subst moved
    refine .persisted key held fun other => ?_
    exact put_phase_cases other (Or.inr (Or.inl rfl)) fun _ => phases other
  · have loaded : loadSecretKey location state.disk = .ok key := loadSecretKey_eq_ok.mpr held
    simp only [Keys.step, phase, loaded, Option.some.injEq] at moved
    subst moved
    refine .persisted key held fun other => ?_
    exact put_phase_cases other (Or.inr (Or.inr rfl)) fun _ => phases other
  · simp only [Keys.step, phase] at moved
    cases moved

/-- **An undisturbed step** keeps the processes from getting in each other's way. -/
theorem Serial.step (serial : Serial keys state) (undisturbed : Undisturbed state process)
    (moved : Keys.step location keys state process = some next) : Serial keys next := by
  cases serial with
  | absent missing phases single => exact step_absent missing phases single undisturbed moved
  | truncated saver writing empty others =>
      exact step_truncated writing empty others undisturbed moved
  | persisted key held phases => exact step_persisted held phases moved

/-- **One identity for all.** From no file or a whole key, when no step is disturbed,
every call that has returned has succeeded with the key that the file holds. -/
theorem agreed_of_undisturbed (location : Location) (keys : ι → SecretKey) {disk : Disk}
    (complete : disk.Complete) {schedule : List ι}
    (undisturbed : Transition.Meets (Keys.step location keys) Undisturbed (.initial disk) schedule)
    (reached : Transition.run (Keys.step location keys) (.initial disk) schedule = some state) :
    state.Agreed :=
  Serial.agreed (Transition.run_invariant_of_meets
    (fun _ _ _ serial permitted moved => serial.step permitted moved)
    (Serial.initial complete : Serial keys (.initial disk)) undisturbed reached)

/-- Two nodes that share a key file. -/
abbrev stepTwo : State Bool → Bool → Option (State Bool) :=
  Keys.step ⟨"node.key", ""⟩ fun first => keyOfByte (if first then 1 else 2)

/-- The second node starts when the first one has persisted its key. -/
theorem agreed_of_undisturbed_sequential :
    ∃ state, Transition.run stepTwo (.initial .noDirectory)
        [true, true, true, true, false, false] = some state ∧ state.Agreed := by
  have undisturbed : Transition.Meets stepTwo Undisturbed (.initial .noDirectory)
      [true, true, true, true, false, false] := by
    decide
  exact ⟨_, rfl, agreed_of_undisturbed _ _ Disk.complete_noDirectory undisturbed rfl⟩

/-- Both nodes find no file: the first one runs under a key that is not persisted. -/
theorem overlapping_disagree :
    ∃ state, Transition.run stepTwo (.initial .noDirectory)
        [true, false, true, true, true, false, false, false] = some state ∧
      (∀ process, ∃ result, state.phase process = .returned result) ∧ ¬ state.Agreed := by
  refine ⟨_, rfl, fun process => ?_, fun agreed => ?_⟩
  · cases process <;> exact ⟨_, rfl⟩
  · obtain ⟨key, same, held⟩ := agreed true _ rfl
    cases same
    exact absurd held (by decide)

/-! ## No other way to agree -/

/-- A process that has found no file, and what it can still return. -/
def Phase.Generates (key : SecretKey) : Phase → Prop
  | .generating | .opening | .writing => True
  | .returned result => ∀ other, result = .ok other → other = key
  | .started | .loading => False

/-- Two processes generate a key, or a call has failed. -/
def Doomed (keys : ι → SecretKey) (state : State ι) : Prop :=
  (∃ first second, first ≠ second ∧ (state.phase first).Generates (keys first) ∧
    (state.phase second).Generates (keys second)) ∨
  ∃ process error, state.phase process = .returned (.error error)

/-- A process that has found no file can return no key but its own. -/
theorem generates_step {other : ι} (generates : (state.phase other).Generates (keys other))
    (moved : Keys.step location keys state process = some next) :
    (next.phase other).Generates (keys other) := by
  by_cases same : other = process
  · subst same
    cases phase : state.phase other with
    | started => rw [phase] at generates; exact generates.elim
    | loading => rw [phase] at generates; exact generates.elim
    | generating =>
        simp only [Keys.step, phase, Option.some.injEq] at moved
        subst moved
        rw [put_phase_self]
        trivial
    | opening =>
        simp only [Keys.step, phase] at moved
        split at moved
        · cases moved
          rw [put_phase_self]
          exact nofun
        · cases moved
          rw [put_phase_self]
          trivial
    | writing =>
        simp only [Keys.step, phase, Option.some.injEq] at moved
        subst moved
        rw [put_phase_self]
        intro key returned
        exact (Except.ok.inj returned).symm
    | returned result =>
        simp only [Keys.step, phase] at moved
        cases moved
  · have kept : next.phase other = state.phase other := phase_step_of_ne same moved
    rw [kept]
    exact generates

/-- Two generated keys, or a failed call, stay so. -/
theorem Doomed.step (doomed : Doomed keys state)
    (moved : Keys.step location keys state process = some next) : Doomed keys next := by
  rcases doomed with ⟨first, second, different, left, right⟩ | ⟨other, error, failed⟩
  · exact Or.inl ⟨first, second, different, generates_step left moved, generates_step right moved⟩
  · refine Or.inr ⟨other, error, ?_⟩
    have different : other ≠ process := by
      rintro rfl
      simp only [Keys.step, failed] at moved
      cases moved
    rw [phase_step_of_ne different moved]
    exact failed

omit [DecidableEq ι] in
/-- With two generated keys, or a failed call, the processes do not agree. -/
theorem Doomed.not_agreed (injective : Function.Injective keys) (doomed : Doomed keys state)
    (finished : ∀ process, ∃ result, state.phase process = .returned result) :
    ¬ state.Agreed := by
  intro agreed
  rcases doomed with ⟨first, second, different, left, right⟩ | ⟨other, error, failed⟩
  · have own : ∀ process, (state.phase process).Generates (keys process) →
        state.disk.file = some (keys process).1 := by
      intro process generates
      obtain ⟨result, returned⟩ := finished process
      obtain ⟨key, rfl, held⟩ := agreed process result returned
      rw [returned] at generates
      rw [held, generates key rfl]
    have files := (own first left).symm.trans (own second right)
    exact different (injective (Subtype.ext (Option.some.inj files)))
  · obtain ⟨key, same, -⟩ := agreed other _ failed
    cases same

/-- The first step that is disturbed dooms the run. -/
theorem Serial.doomed (serial : Serial keys state) (disturbed : ¬ Undisturbed state process)
    (moved : Keys.step location keys state process = some next) : Doomed keys next := by
  rcases not_and_or.mp disturbed with overlapping | early
  · obtain ⟨⟨phase, missing⟩, other, saving⟩ :=
      not_forall.mp overlapping |>.imp fun _ => not_forall.mp
    have different : other ≠ process := by
      rintro rfl
      exact saving ⟨by rw [phase]; decide, by rw [phase]; decide⟩
    have generates : (state.phase other).Generates (keys other) := by
      by_contra idle
      exact saving ⟨fun phase => idle (by rw [phase]; trivial),
        fun phase => idle (by rw [phase]; trivial)⟩
    refine Or.inl ⟨other, process, different, generates_step generates moved, ?_⟩
    simp only [Keys.step, phase, missing, Option.isSome_none, Bool.false_eq_true, ↓reduceIte,
      Option.some.injEq] at moved
    rw [← moved, put_phase_self]
    trivial
  · obtain ⟨phase, other, notIdle⟩ := not_forall.mp early |>.imp fun _ => not_forall.mp
    have writing := not_not.mp notIdle
    cases serial with
    | absent missing phases single =>
        rcases phases process with started | generating | ⟨opening, -⟩
        · cases phase.symm.trans started
        · cases phase.symm.trans generating
        · cases phase.symm.trans opening
    | persisted key held phases =>
        rcases phases other with started | loading | returned
        · cases writing.symm.trans started
        · cases writing.symm.trans loading
        · cases writing.symm.trans returned
    | truncated saver saving empty others =>
        have short : loadSecretKey location state.disk =
            .error "secret key file must be exactly 32 bytes" := by
          rw [empty]
          rfl
        simp only [Keys.step, phase, short, Option.some.injEq] at moved
        exact Or.inr ⟨process, _, by rw [← moved, put_phase_self]⟩

/-- **Exactness.** When all keys that could be generated differ and all calls have
returned, they agree only if no step of the run was disturbed. -/
theorem undisturbed_of_agreed (injective : Function.Injective keys) {schedule : List ι}
    (serial : Serial keys state)
    (reached : Transition.run (Keys.step location keys) state schedule = some next)
    (finished : ∀ process, ∃ result, next.phase process = .returned result)
    (agreed : next.Agreed) :
    Transition.Meets (Keys.step location keys) Undisturbed state schedule := by
  induction schedule generalizing state with
  | nil => trivial
  | cons process rest ih =>
      obtain ⟨middle, moved, tail⟩ := Transition.run_cons.mp reached
      by_cases undisturbed : Undisturbed state process
      · simp only [Transition.Meets, moved]
        exact ⟨undisturbed, ih (serial.step undisturbed moved) tail⟩
      · have doomed : Doomed keys next :=
          Transition.run_invariant (fun _ _ _ doomed moved => doomed.step moved)
            (serial.doomed undisturbed moved) tail
        exact (doomed.not_agreed injective finished agreed).elim

end Keys

end OrbitBuild
