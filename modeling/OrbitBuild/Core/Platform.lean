import OrbitBuild.Foundation.Text

/-! # Platform strings and the socket paths derived from them

The platform parsers of Mission Control and of the Satellite, the architecture
extracted from a platform, and the path of the Unix socket a platform is bridged
at. A call that panics is an error of type `Panic`; a call that returns an error
carries the message of that error.
-/

namespace OrbitBuild

/-- A Rust panic, with its message. -/
structure Panic where
  message : String
  deriving DecidableEq, Repr

/-- The path of `name` below `dir`, as `Path::join` builds it. -/
def joinPath (dir name : String) : String :=
  if Text.startsWith name "/" then name
  else if dir.toList.getLast?.all (· == '/') then dir ++ name
  else dir ++ "/" ++ name

/-- The architecture of a platform: what follows its last `/`. -/
def platformToArch (platform : String) : Except Panic String :=
  match Text.rsplitOnce platform '/' with
  | some (_, arch) => .ok arch
  | none => .error ⟨"platform string must contain '/': got '" ++ platform ++ "'"⟩

/-- The file name of a socket for an architecture. -/
def socketName (arch : String) : String := "orbit-" ++ arch ++ ".sock"

/-- The Unix socket path of a platform under the given directory. -/
def socketPathForPlatform (socketDir platform : String) : Except Panic String := do
  let arch ← platformToArch platform
  return joinPath socketDir (socketName arch)

/-- The trimmed nonempty pieces of a comma-separated list. -/
def platformPieces (platforms : String) : List String :=
  ((Text.split platforms ',').map Text.trim).filter (· ≠ "")

/-- The error for a platform that is not a Linux platform. -/
def unsupportedPlatform (platform : String) : String :=
  "unsupported platform '" ++ platform ++ "': only linux/* platforms are supported"

/-- Accept the platforms if each starts with `linux/`; report the first that does not. -/
def ensureLinux (platforms : List String) : Except String (List String) :=
  match platforms.find? fun platform => !Text.startsWith platform "linux/" with
  | some platform => .error (unsupportedPlatform platform)
  | none => .ok platforms

/-- Mission Control's parser: at least one platform must be given. -/
def parsePlatforms (platforms : String) : Except String (List String) :=
  if (platformPieces platforms).isEmpty then .error "at least one platform must be specified"
  else ensureLinux (platformPieces platforms)

/-- The Satellite's parser of its additional platforms, which may be none. -/
def parseSatellitePlatforms (platforms : String) : Except String (List String) :=
  ensureLinux (platformPieces platforms)

/-- Platforms are accepted as they are, if all of them are Linux platforms. -/
theorem ensureLinux_eq_ok {platforms accepted : List String} :
    ensureLinux platforms = .ok accepted ↔
      accepted = platforms ∧ ∀ platform ∈ platforms, Text.startsWith platform "linux/" := by
  unfold ensureLinux
  split
  · next platform found =>
      have rejected := List.find?_some found
      simp only [reduceCtorEq, false_iff, not_and, not_forall]
      exact fun _ => ⟨platform, List.mem_of_find?_eq_some found, by simpa using rejected⟩
  · next absent =>
      simp only [List.find?_eq_none, Bool.not_eq_eq_eq_not, Bool.not_true,
        Bool.not_eq_false] at absent
      rw [Except.ok.injEq]
      exact ⟨fun same => ⟨same.symm, absent⟩, fun both => both.1.symm⟩

/-- A text is accepted for its pieces: at least one, and Linux platforms all. -/
theorem parsePlatforms_eq_ok {text : String} {accepted : List String} :
    parsePlatforms text = .ok accepted ↔
      accepted = platformPieces text ∧ accepted ≠ [] ∧
        ∀ platform ∈ accepted, Text.startsWith platform "linux/" := by
  unfold parsePlatforms
  split
  · next empty =>
      simp only [reduceCtorEq, false_iff]
      intro both
      obtain ⟨rfl, nonempty, -⟩ := both
      exact nonempty (List.isEmpty_iff.mp empty)
  · next nonempty =>
      rw [ensureLinux_eq_ok]
      constructor
      · intro both
        obtain ⟨rfl, linux⟩ := both
        exact ⟨rfl, fun empty => nonempty (List.isEmpty_iff.mpr empty), linux⟩
      · intro both
        obtain ⟨rfl, -, linux⟩ := both
        exact ⟨rfl, linux⟩

/-- The accepted platforms are accepted again when they are handed on in one text. -/
theorem parsePlatforms_join {text : String} {accepted : List String}
    (parsed : parsePlatforms text = .ok accepted) :
    parsePlatforms (Text.join accepted ',') = .ok accepted := by
  obtain ⟨pieces, nonempty, linux⟩ := parsePlatforms_eq_ok.mp parsed
  have piece : ∀ platform ∈ accepted, ',' ∉ platform.toList ∧ Text.trim platform = platform ∧
      platform ≠ "" := by
    intro platform member
    rw [pieces, platformPieces, List.mem_filter, List.mem_map] at member
    obtain ⟨⟨part, listed, rfl⟩, visible⟩ := member
    exact ⟨fun separator => Text.not_mem_of_mem_split listed (Text.mem_of_mem_trim separator),
      Text.trim_trim part, of_decide_eq_true visible⟩
  refine parsePlatforms_eq_ok.mpr ⟨?_, nonempty, linux⟩
  have trimmed : accepted.map Text.trim = accepted :=
    (List.map_congr_left fun platform member => (piece platform member).2.1).trans
      (List.map_id accepted)
  rw [platformPieces, Text.split_join nonempty fun platform member => (piece platform member).1,
    trimmed]
  exact (List.filter_eq_self.mpr fun platform member =>
    decide_eq_true (piece platform member).2.2).symm

/-- A Linux platform has a slash. -/
theorem mem_of_startsWith_linux {platform : String}
    (linux : Text.startsWith platform "linux/" = true) : '/' ∈ platform.toList := by
  obtain ⟨rest, split⟩ := List.isPrefixOf_iff_prefix.mp linux
  rw [← split]
  exact List.mem_append_left _ (by decide)

/-- The architecture is what follows the last slash. -/
theorem platformToArch_eq_ok {platform arch : String}
    (extracted : platformToArch platform = .ok arch) :
    '/' ∈ platform.toList ∧ arch.toList = platform.toList.rtakeWhile (· ≠ '/') := by
  unfold platformToArch at extracted
  split at extracted
  · next divided =>
      cases extracted
      exact Text.rsplitOnce_eq_some divided
  · cases extracted

/-- An architecture has no slash. -/
theorem not_mem_of_platformToArch {platform arch : String}
    (extracted : platformToArch platform = .ok arch) : '/' ∉ arch.toList := by
  unfold platformToArch at extracted
  split at extracted
  · next divided =>
      cases extracted
      exact Text.not_mem_of_rsplitOnce divided
  · cases extracted

/-- The architecture of a platform that contains a `/` is extracted without a panic. -/
theorem platformToArch_isOk {platform : String} (member : '/' ∈ platform.toList) :
    ∃ arch, platformToArch platform = .ok arch := by
  unfold platformToArch
  split
  · exact ⟨_, rfl⟩
  · next absent => exact (Text.rsplitOnce_eq_none.mp absent member).elim

/-- No platform that Mission Control accepts makes the extraction panic. -/
theorem platformToArch_isOk_of_parsePlatforms {text : String} {accepted : List String}
    (parsed : parsePlatforms text = .ok accepted) {platform : String}
    (member : platform ∈ accepted) : ∃ arch, platformToArch platform = .ok arch :=
  platformToArch_isOk
    (mem_of_startsWith_linux ((parsePlatforms_eq_ok.mp parsed).2.2 platform member))

/-- The socket of a platform is named after its last segment. -/
theorem socketPathForPlatform_eq_ok {dir platform path : String} :
    socketPathForPlatform dir platform = .ok path ↔
      ∃ arch, platformToArch platform = .ok arch ∧ path = joinPath dir (socketName arch) := by
  unfold socketPathForPlatform
  cases platformToArch platform with
  | error _ => simp [bind, Except.bind]
  | ok arch => simp [bind, Except.bind, pure, Except.pure, eq_comm]

/-- Different architectures have different sockets. -/
theorem socketName_injective {first second : String}
    (same : socketName first = socketName second) : first = second := by
  have chars := congrArg String.toList same
  simp only [socketName, String.toList_append] at chars
  exact String.toList_inj.mp (List.append_cancel_left (List.append_cancel_right chars))

/-- The name of a socket is no absolute path. -/
theorem not_startsWith_slash_socketName (arch : String) :
    Text.startsWith (socketName arch) "/" = false := by
  have chars : (socketName arch).toList =
      'o' :: ("rbit-".toList ++ arch.toList ++ ".sock".toList) := by
    simp only [socketName, String.toList_append]
    rfl
  rw [Text.startsWith, chars]
  rfl

/-- Different architectures have different sockets in one directory. -/
theorem joinPath_socketName_injective {dir first second : String}
    (same : joinPath dir (socketName first) = joinPath dir (socketName second)) :
    first = second := by
  unfold joinPath at same
  simp only [not_startsWith_slash_socketName, Bool.false_eq_true, ↓reduceIte] at same
  apply socketName_injective
  split at same <;>
    exact String.toList_inj.mp (List.append_cancel_left
      (by simpa only [String.toList_append] using congrArg String.toList same))

end OrbitBuild
