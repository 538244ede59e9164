import OrbitBuild.Core.Platform
import Mathlib.Data.Set.Basic

/-! # The sockets of the GitHub Action

The two scripts of the Action recompute the socket paths of Mission Control from
the same platforms input. They know two architectures and look for the text
`arm64` anywhere in a piece, while Mission Control takes the last segment of every
nonempty piece.
-/

namespace OrbitBuild.Action

/-- The white space that JavaScript's `trim` removes. -/
def isJsWhiteSpace (c : Char) : Bool :=
  (Text.isWhiteSpace c && c.toNat != 0x85) || c.toNat == 0xFEFF

def trim (s : String) : String := Text.trimBy isJsWhiteSpace s

def socketDir : String := "/tmp"

/-- The architecture both scripts read off a platform. -/
def arch (platform : String) : String :=
  if Text.contains platform "arm64" then "arm64" else "amd64"

/-- `platformToSocket` of the cleanup script. -/
def cleanupSocket (platform : String) : String :=
  socketDir ++ "/orbit-" ++ arch platform ++ ".sock"

/-- `platformToSocket` of the main script; the parts are already normalised for `path.join`. -/
def mainSocket (platform : String) : String :=
  socketDir ++ "/" ++ ("orbit-" ++ arch platform ++ ".sock")

/-- The platforms the cleanup works on: the saved input, or the default. -/
def savedPlatforms (state : String) : String :=
  if state = "" then "linux/amd64,linux/arm64" else state

/-- The paths `cleanupSockets` unlinks, in order. -/
def cleanupSockets (state : String) : List String :=
  ((Text.split (savedPlatforms state) ',').map trim).map cleanupSocket

/-- The platforms and paths the main script reports. -/
def getSocketPaths (platforms : List String) : List (String × String) :=
  platforms.map fun platform => (platform, mainSocket platform)

def reportedSockets (platforms : String) : List String :=
  (getSocketPaths (Text.split platforms ',')).map Prod.snd

/-- The socket paths Mission Control uses for the parsed platforms. -/
def missionControlSockets (accepted : List String) : Set String :=
  { path | ∃ platform ∈ accepted, socketPathForPlatform socketDir platform = .ok path }

/-- The cleanup unlinks and the main script reports exactly Mission Control's sockets. -/
def SocketsAgree (platforms : String) (accepted : List String) : Prop :=
  { path | path ∈ cleanupSockets platforms } = missionControlSockets accepted ∧
    { path | path ∈ reportedSockets platforms } = missionControlSockets accepted

/-- Some piece of the input is blank, as after a trailing comma. -/
def HasBlankPiece (platforms : String) : Prop :=
  ∃ piece ∈ Text.split platforms ',', Text.trim piece = ""

/-- Some accepted platform has this architecture as its last segment. -/
def Requests (accepted : List String) (name : String) : Prop :=
  ∃ platform ∈ accepted, platformToArch platform = .ok name

/-- When the scripts and Mission Control agree on an input. -/
structure Agrees (platforms : String) (accepted : List String) : Prop where
  known : ∀ name, Requests accepted name → name = "amd64" ∨ name = "arm64"
  blank : HasBlankPiece platforms → Requests accepted "amd64"
  plain : Requests accepted "amd64" →
    HasBlankPiece platforms ∨ ∃ platform ∈ accepted, Text.contains platform "arm64" = false
  mentioned : (∃ platform ∈ accepted, Text.contains platform "arm64" = true) →
    Requests accepted "arm64"

/-- Trimming as in JavaScript does not change whether a platform has `arm64` in it. -/
theorem contains_trim (s : String) : Text.contains (trim s) "arm64" = Text.contains s "arm64" :=
  Text.contains_trimBy s (by decide)

/-- Trimming as in Rust does not change whether a platform has `arm64` in it. -/
theorem contains_strTrim (s : String) :
    Text.contains (Text.trim s) "arm64" = Text.contains s "arm64" :=
  Text.contains_trimBy s (by decide)

/-- A path of either script is the socket of the architecture the scripts read off. -/
theorem mainSocket_eq (platform : String) :
    mainSocket platform = joinPath socketDir (socketName (arch platform)) := by
  unfold mainSocket arch
  split <;> rfl

/-- The paths of the post script are those of the main script. -/
theorem cleanupSocket_eq (platform : String) :
    cleanupSocket platform = joinPath socketDir (socketName (arch platform)) := by
  unfold cleanupSocket arch
  split <;> rfl

/-- An input that Mission Control accepts is saved as it is. -/
theorem savedPlatforms_eq {platforms : String} {accepted : List String}
    (parsed : parsePlatforms platforms = .ok accepted) : savedPlatforms platforms = platforms := by
  unfold savedPlatforms
  split
  · next empty =>
      subst empty
      cases parsed
  · rfl

/-- The scripts derive the same paths, with and without trimming the pieces. -/
theorem mem_cleanupSockets_iff {platforms : String} {accepted : List String}
    (parsed : parsePlatforms platforms = .ok accepted) (path : String) :
    path ∈ cleanupSockets platforms ↔ path ∈ reportedSockets platforms := by
  have same : ∀ piece, cleanupSocket (trim piece) = mainSocket piece := by
    intro piece
    rw [cleanupSocket_eq, mainSocket_eq, arch, arch, contains_trim]
  simp only [cleanupSockets, savedPlatforms_eq parsed, reportedSockets, getSocketPaths,
    List.map_map, Function.comp_def, same]

/-- A platform is accepted exactly if some piece of the input is trimmed to it. -/
theorem mem_accepted_iff {platforms : String} {accepted : List String}
    (parsed : parsePlatforms platforms = .ok accepted) {platform : String} :
    platform ∈ accepted ↔
      ∃ piece ∈ Text.split platforms ',', Text.trim piece = platform ∧ platform ≠ "" := by
  rw [(parsePlatforms_eq_ok.mp parsed).1, platformPieces, List.mem_filter, List.mem_map]
  simp only [decide_eq_true_eq]
  constructor
  · intro both
    obtain ⟨⟨piece, member, trimmed⟩, nonempty⟩ := both
    exact ⟨piece, member, trimmed, nonempty⟩
  · intro both
    obtain ⟨piece, member, trimmed, nonempty⟩ := both
    exact ⟨⟨piece, member, trimmed⟩, nonempty⟩

/-- The architectures the scripts find among the pieces of the input. -/
theorem exists_arch_iff {platforms : String} {accepted : List String}
    (parsed : parsePlatforms platforms = .ok accepted) (name : String) :
    (∃ piece ∈ Text.split platforms ',', arch piece = name) ↔
      (name = "arm64" ∧ ∃ platform ∈ accepted, Text.contains platform "arm64" = true) ∨
        (name = "amd64" ∧ (HasBlankPiece platforms ∨
          ∃ platform ∈ accepted, Text.contains platform "arm64" = false)) := by
  constructor
  · intro both
    obtain ⟨piece, member, rfl⟩ := both
    by_cases blank : Text.trim piece = ""
    · right
      have plain : Text.contains piece "arm64" = false := by
        rw [← contains_strTrim, blank]
        decide
      exact ⟨by rw [arch, plain]; rfl, Or.inl ⟨piece, member, blank⟩⟩
    · have listed := (mem_accepted_iff parsed).mpr ⟨piece, member, rfl, blank⟩
      cases found : Text.contains piece "arm64" with
      | true => exact Or.inl ⟨by rw [arch, found]; rfl, _, listed, by rwa [contains_strTrim]⟩
      | false =>
          exact Or.inr ⟨by rw [arch, found]; rfl, Or.inr ⟨_, listed, by rwa [contains_strTrim]⟩⟩
  · intro either
    rcases either with
      ⟨rfl, platform, listed, found⟩ | ⟨rfl, ⟨piece, member, blank⟩ | ⟨platform, listed, found⟩⟩
    · obtain ⟨piece, member, rfl, -⟩ := (mem_accepted_iff parsed).mp listed
      exact ⟨piece, member, by rw [arch, ← contains_strTrim, found]; rfl⟩
    · refine ⟨piece, member, ?_⟩
      rw [arch, ← contains_strTrim, blank]
      rfl
    · obtain ⟨piece, member, rfl, -⟩ := (mem_accepted_iff parsed).mp listed
      exact ⟨piece, member, by rw [arch, ← contains_strTrim, found]; rfl⟩

/-- The last segment of a platform occurs in it. -/
theorem contains_of_platformToArch {platform name : String}
    (extracted : platformToArch platform = .ok name) : Text.contains platform name = true := by
  apply Text.contains_of_infix
  rw [(platformToArch_eq_ok extracted).2]
  exact (List.rtakeWhile_suffix _ _).isInfix

/-- Both sets of paths are given by sets of architectures. -/
theorem reported_eq_iff (platforms : String) (accepted : List String) :
    { path | path ∈ reportedSockets platforms } = missionControlSockets accepted ↔
      ∀ name, (∃ piece ∈ Text.split platforms ',', arch piece = name) ↔ Requests accepted name := by
  have reported : ∀ path, path ∈ reportedSockets platforms ↔
      ∃ piece ∈ Text.split platforms ',', joinPath socketDir (socketName (arch piece)) = path := by
    intro path
    simp only [reportedSockets, getSocketPaths, List.map_map, List.mem_map, Function.comp_apply,
      mainSocket_eq]
  have bridged : ∀ path, path ∈ missionControlSockets accepted ↔
      ∃ name, Requests accepted name ∧ joinPath socketDir (socketName name) = path := by
    intro path
    constructor
    · intro both
      obtain ⟨platform, listed, derived⟩ := both
      obtain ⟨name, extracted, rfl⟩ := socketPathForPlatform_eq_ok.mp derived
      exact ⟨name, ⟨platform, listed, extracted⟩, rfl⟩
    · intro both
      obtain ⟨name, ⟨platform, listed, extracted⟩, rfl⟩ := both
      exact ⟨platform, listed, socketPathForPlatform_eq_ok.mpr ⟨name, extracted, rfl⟩⟩
  constructor
  · intro same name
    have atName := Set.ext_iff.mp same (joinPath socketDir (socketName name))
    rw [Set.mem_ofPred_eq, reported, bridged] at atName
    constructor
    · intro both
      obtain ⟨piece, member, rfl⟩ := both
      obtain ⟨other, requested, path⟩ := atName.mp ⟨piece, member, rfl⟩
      rwa [← joinPath_socketName_injective path]
    · intro requested
      obtain ⟨piece, member, path⟩ := atName.mpr ⟨name, requested, rfl⟩
      exact ⟨piece, member, joinPath_socketName_injective path⟩
  · intro same
    apply Set.ext
    intro path
    rw [Set.mem_ofPred_eq, reported, bridged]
    constructor
    · intro both
      obtain ⟨piece, member, rfl⟩ := both
      exact ⟨arch piece, (same _).mp ⟨piece, member, rfl⟩, rfl⟩
    · intro both
      obtain ⟨name, requested, rfl⟩ := both
      obtain ⟨piece, member, rfl⟩ := (same name).mpr requested
      exact ⟨piece, member, rfl⟩

/-- A platform that does not mention arm64 ends in the other known architecture. -/
theorem Agrees.requests_amd64 {platforms : String} {accepted : List String}
    (agrees : Agrees platforms accepted) (parsed : parsePlatforms platforms = .ok accepted)
    {platform : String} (listed : platform ∈ accepted)
    (plain : Text.contains platform "arm64" = false) : Requests accepted "amd64" := by
  obtain ⟨name, extracted⟩ := platformToArch_isOk_of_parsePlatforms parsed listed
  rcases agrees.known name ⟨platform, listed, extracted⟩ with rfl | rfl
  · exact ⟨platform, listed, extracted⟩
  · rw [contains_of_platformToArch extracted] at plain
    cases plain

/-- **The Action and Mission Control use the same sockets** exactly on the inputs
that the two derivations agree on. -/
theorem socketsAgree_iff (platforms : String) (accepted : List String)
    (parsed : parsePlatforms platforms = .ok accepted) :
    SocketsAgree platforms accepted ↔ Agrees platforms accepted := by
  have reduced : SocketsAgree platforms accepted ↔
      { path | path ∈ reportedSockets platforms } = missionControlSockets accepted := by
    have same : { path | path ∈ cleanupSockets platforms } =
        { path | path ∈ reportedSockets platforms } :=
      Set.ext (mem_cleanupSockets_iff parsed)
    rw [SocketsAgree, same, and_self]
  rw [reduced, reported_eq_iff]
  simp only [exists_arch_iff parsed]
  constructor
  · intro same
    refine ⟨fun name requested => ?_, fun blank => ?_, fun requested => ?_, fun found => ?_⟩
    · rcases (same name).mpr requested with ⟨known, -⟩ | ⟨known, -⟩
      · exact Or.inr known
      · exact Or.inl known
    · exact (same "amd64").mp (Or.inr ⟨rfl, Or.inl blank⟩)
    · rcases (same "amd64").mpr requested with ⟨clash, -⟩ | ⟨-, plain⟩
      · exact absurd clash (by decide)
      · exact plain
    · exact (same "arm64").mp (Or.inl ⟨rfl, found⟩)
  · intro agrees name
    constructor
    · intro either
      rcases either with ⟨rfl, found⟩ | ⟨rfl, blank | ⟨platform, listed, plain⟩⟩
      · exact agrees.mentioned found
      · exact agrees.blank blank
      · exact agrees.requests_amd64 parsed listed plain
    · intro requested
      rcases agrees.known name requested with rfl | rfl
      · exact Or.inr ⟨rfl, agrees.plain requested⟩
      · obtain ⟨platform, listed, extracted⟩ := requested
        exact Or.inl ⟨rfl, platform, listed, contains_of_platformToArch extracted⟩

/-- The default input, with a blank after the comma. -/
theorem defaultSockets_agree :
    SocketsAgree "linux/amd64, linux/arm64" ["linux/amd64", "linux/arm64"] := by
  apply (socketsAgree_iff _ _ (by decide)).mpr
  refine ⟨?_, fun _ => ⟨_, List.mem_cons_self, by decide⟩, fun _ => Or.inr ?_, fun _ => ?_⟩
  · intro name both
    obtain ⟨platform, listed, extracted⟩ := both
    rcases List.mem_pair.mp listed with rfl | rfl
    · exact Or.inl (Except.ok.inj extracted).symm
    · exact Or.inr (Except.ok.inj extracted).symm
  · exact ⟨_, List.mem_cons_self, by decide⟩
  · exact ⟨_, List.mem_cons_of_mem _ List.mem_cons_self, by decide⟩

/-- For riscv64 the cleanup unlinks the socket of an amd64 job and leaves its own. -/
theorem riscv64Sockets_differ :
    parsePlatforms "linux/riscv64" = .ok ["linux/riscv64"] ∧
      ¬ SocketsAgree "linux/riscv64" ["linux/riscv64"] := by
  refine ⟨by decide, fun agree => ?_⟩
  have unlinked : "/tmp/orbit-amd64.sock" ∈ cleanupSockets "linux/riscv64" := by decide
  obtain ⟨platform, listed, path⟩ := (Set.ext_iff.mp agree.1 _).mp unlinked
  rw [List.mem_singleton.mp listed] at path
  exact absurd path (by decide)

end OrbitBuild.Action
