import OrbitBuild.Foundation.Components
import OrbitBuild.Host.Unlinking

/-! # Where files are removed

`cleanup_socket` removes whatever file is at the path it is given, and the paths
are built from platforms that were typed in. Whatever text the parser accepts, the
path is that of a file right below the socket directory, named for an architecture.
-/

namespace OrbitBuild

universe u

variable {ι : Type u} [DecidableEq ι] {curve : Curve}

/-- The path of a file right below the directory, `orbit-<arch>.sock`. -/
def IsSocketPath (dir path : String) : Prop :=
  ∃ arch, '/' ∉ arch.toList ∧ PathText.parent path = some (PathText.components dir) ∧
    PathText.fileName path = some ("orbit-" ++ arch ++ ".sock")

/-- A plain name that is joined to a directory is one more component. -/
theorem components_joinPath {name : String} (dir : String) (plain : PathText.Plain name)
    (relative : Text.startsWith name "/" = false) :
    PathText.components (joinPath dir name) = PathText.components dir ++ [.normal name] := by
  rw [joinPath, relative, if_neg Bool.false_ne_true]
  split
  · next closed =>
      rcases List.eq_nil_or_concat' dir.toList with empty | ⟨front, last, chars⟩
      · obtain rfl : dir = "" := String.toList_inj.mp empty
        rw [String.empty_append, PathText.components_plain plain]
        rfl
      · rw [chars, List.getLast?_concat, Option.all_some, beq_iff_eq] at closed
        obtain rfl : dir = String.ofList front ++ "/" := by
          apply String.toList_inj.mp
          rw [chars, closed, String.toList_append, String.toList_ofList]
          rfl
        rw [PathText.components_append_slash, PathText.split_plain plain]
  · next opened =>
      have visible : dir ≠ "" := by
        rintro rfl
        exact opened rfl
      rw [PathText.components_append_slash, PathText.components_slash visible,
        PathText.split_plain plain]

/-- The name of a socket is a plain file name. -/
theorem plain_socketName {arch : String} (single : '/' ∉ arch.toList) :
    PathText.Plain (socketName arch) := by
  have chars : (socketName arch).toList =
      'o' :: ("rbit-".toList ++ arch.toList ++ ".sock".toList) := by
    simp only [socketName, String.toList_append]
    rfl
  have other : ∀ piece : String, piece.toList.head? ≠ some 'o' → socketName arch ≠ piece := by
    rintro piece head rfl
    exact head (by rw [chars, List.head?_cons])
  refine ⟨?_, ?_⟩
  · rw [socketName, String.toList_append, String.toList_append]
    simp only [List.mem_append, single, or_false]
    decide
  · rw [PathText.component, if_neg, if_neg]
    · apply other
      decide
    · rintro (empty | dot)
      · exact other _ (by decide) empty
      · exact other _ (by decide) dot

/-- The socket of an architecture without a `/` is right below its directory. -/
theorem child_joinPath {arch : String} (dir : String) (single : '/' ∉ arch.toList) :
    PathText.parent (joinPath dir (socketName arch)) = some (PathText.components dir) ∧
      PathText.fileName (joinPath dir (socketName arch)) =
        some ("orbit-" ++ arch ++ ".sock") := by
  have split := components_joinPath dir (plain_socketName single)
    (not_startsWith_slash_socketName arch)
  exact ⟨PathText.parent_of_components split, PathText.fileName_of_components split⟩

/-- A path that is derived from a platform is one of a socket in the directory. -/
theorem isSocketPath {dir platform path : String}
    (derived : socketPathForPlatform dir platform = .ok path) : IsSocketPath dir path := by
  obtain ⟨arch, extracted, rfl⟩ := socketPathForPlatform_eq_ok.mp derived
  have single := not_mem_of_platformToArch extracted
  exact ⟨arch, single, child_joinPath dir single⟩

namespace Host

variable {plan : ι → Plan curve} {before : SocketDir String Empty} {known : String → Bool}
  {state next : State ι curve} {action : Action ι}

/-- A process removes a file only at a socket path of its directory. -/
theorem isSocketPath_of_unlinks
    (reached : Transition.Reachable (step plan) (.initial before known) state) {path : String}
    (unlinks : state.Unlinks path action) :
    ∃ i, state.actor action = some i ∧ IsSocketPath (plan i).setup.socketDir path := by
  obtain ⟨i, bridge, actor, member, rfl⟩ := (Tracked.of_reachable reached).unlinks unlinks
  exact ⟨i, actor, isSocketPath (Bridge.Setup.socketPath_of_mem member)⟩

/-- A file that a step takes away was at a path the step removes. -/
theorem unlinks_of_removed (moved : step plan state action = some next) {path : String}
    (present : state.dir path ≠ none) (removed : next.dir path = none) :
    state.Unlinks path action := by
  rcases step_dir moved with
    same | ⟨other, unlinks, same⟩ | ⟨index, i, task, -, -, -, bound⟩
  · exact (present (same ▸ removed)).elim
  · by_cases equal : path = other
    · exact equal ▸ unlinks
    · rw [same, SocketDir.unlink_of_ne _ equal] at removed
      exact (present removed).elim
  · obtain ⟨-, free, same⟩ := SocketDir.bind_eq_some.mp bound
    rw [same] at removed
    by_cases equal : path = task.bridge.socketPath
    · exact (present (equal ▸ free)).elim
    · rw [Function.update_of_ne equal] at removed
      exact (present removed).elim

end Host

/-- **Removals stay in the socket directory.** Whatever text is accepted, the
architecture of each of its platforms is extracted without a panic and its path is
a socket path of the directory; and in every run of any number of processes, each
path that a step removes, and each file that one takes away, is at a socket path of
the directory of the process that takes the step. -/
theorem removals_confined :
    (∀ text accepted, parsePlatforms text = .ok accepted → ∀ platform ∈ accepted, ∀ dir,
      ∃ arch path, platformToArch platform = .ok arch ∧ '/' ∉ arch.toList ∧
        socketPathForPlatform dir platform = .ok path ∧
        PathText.parent path = some (PathText.components dir) ∧
        PathText.fileName path = some ("orbit-" ++ arch ++ ".sock")) ∧
    ∀ (plan : ι → Host.Plan curve) (before : SocketDir String Empty) (known : String → Bool)
      (state : Host.State ι curve),
      Transition.Reachable (Host.step plan) (.initial before known) state →
      ∀ (action : Host.Action ι) (path : String),
        (state.Unlinks path action →
          ∃ i, state.actor action = some i ∧ IsSocketPath (plan i).setup.socketDir path) ∧
        ∀ next, Host.step plan state action = some next → state.dir path ≠ none →
          next.dir path = none →
          ∃ i, state.actor action = some i ∧ IsSocketPath (plan i).setup.socketDir path := by
  constructor
  · intro text accepted parsed platform member dir
    obtain ⟨arch, extracted⟩ := platformToArch_isOk_of_parsePlatforms parsed member
    have single := not_mem_of_platformToArch extracted
    have path : socketPathForPlatform dir platform = .ok (joinPath dir (socketName arch)) :=
      socketPathForPlatform_eq_ok.mpr ⟨arch, extracted, rfl⟩
    exact ⟨arch, _, extracted, single, path, child_joinPath dir single⟩
  · intro plan before known state reached action path
    refine ⟨Host.isSocketPath_of_unlinks reached, ?_⟩
    intro next moved present removed
    exact Host.isSocketPath_of_unlinks reached (Host.unlinks_of_removed moved present removed)

end OrbitBuild
