import OrbitBuild.Link.Run

/-! # The platforms of the child

`spawn_mission_control` hands the child its platforms as one argument, and the child
parses it again. The two processes work on the same list: what the parser accepts
contains no comma, no blank at an end and no empty platform, so it survives joining
and splitting.
-/

namespace OrbitBuild

variable {curve : Curve}

namespace Link

/-- The argument of `--platforms` that the child is started with. -/
def platformsString (platforms : List String) : String := Text.join platforms ','

/-- The platforms with the sockets that `wait_for_sockets` polls. -/
def pollTargets (platforms : List String) : Except Panic (List (String × String)) :=
  platforms.mapM fun platform => do
    let path ← socketPathForPlatform defaultSocketDir platform
    return (platform, path)

/-- Every accepted platform has a socket to poll. -/
theorem pollTargets_isOk {text : String} {platforms : List String}
    (parsed : parsePlatforms text = .ok platforms) :
    ∃ targets, pollTargets platforms = .ok targets := by
  refine (Fallible.mapM_isOk_iff _ platforms).mpr fun platform member => ?_
  obtain ⟨path, derived⟩ := socketPathForPlatform_isOk parsed defaultSocketDir platform member
  exact ⟨(platform, path), by rw [derived]; rfl⟩

/-- The targets are the platforms, each with its own socket. -/
theorem mem_pollTargets {platforms : List String} {targets : List (String × String)}
    (derived : pollTargets platforms = .ok targets) :
    targets.map Prod.fst = platforms ∧
      targets.map (fun target => Except.ok target.2) =
        platforms.map (socketPathForPlatform defaultSocketDir) := by
  have whole := Fallible.map_of_mapM _ derived
  clear derived
  induction platforms generalizing targets with
  | nil =>
      cases List.map_eq_nil_iff.mp whole.symm
      exact ⟨rfl, rfl⟩
  | cons platform rest ih =>
      cases targets with
      | nil => cases whole
      | cons target targets =>
          obtain ⟨head, tail⟩ := List.cons.inj whole
          obtain ⟨names, paths⟩ := ih tail
          cases path : socketPathForPlatform defaultSocketDir platform with
          | error panic =>
              simp only [path, bind, Except.bind] at head
              cases head
          | ok socket =>
              simp only [path, bind, Except.bind, pure, Except.pure, Except.ok.injEq] at head
              cases head
              exact ⟨congrArg _ names, by rw [List.map_cons, List.map_cons, path, paths]⟩

/-- **The child works on the platforms that link polls.** The argument it is started
with parses to the list it was made from, and the polled paths are those of the
platforms the child has parsed, in their order. -/
theorem spawned_child_platforms {text : String} {platforms : List String}
    (parsed : parsePlatforms text = .ok platforms) :
    parsePlatforms (platformsString platforms) = .ok platforms ∧
      ∃ targets, pollTargets platforms = .ok targets ∧
        ∀ childPlatforms, parsePlatforms (platformsString platforms) = .ok childPlatforms →
          targets.map Prod.fst = childPlatforms ∧
            targets.map (fun target => Except.ok target.2) =
              childPlatforms.map (socketPathForPlatform defaultSocketDir) := by
  have same : parsePlatforms (platformsString platforms) = .ok platforms :=
    parsePlatforms_join parsed
  obtain ⟨targets, derived⟩ := pollTargets_isOk parsed
  refine ⟨same, targets, derived, fun childPlatforms accepted => ?_⟩
  rw [same] at accepted
  cases accepted
  exact mem_pollTargets derived

theorem spawned_child_platforms_blanks :
    parsePlatforms (platformsString ["linux/amd64", "linux/arm64", "linux/amd64"]) =
        .ok ["linux/amd64", "linux/arm64", "linux/amd64"] ∧
      ∃ targets, pollTargets ["linux/amd64", "linux/arm64", "linux/amd64"] = .ok targets ∧
        ∀ childPlatforms,
          parsePlatforms (platformsString ["linux/amd64", "linux/arm64", "linux/amd64"]) =
              .ok childPlatforms →
            targets.map Prod.fst = childPlatforms ∧
              targets.map (fun target => Except.ok target.2) =
                childPlatforms.map (socketPathForPlatform defaultSocketDir) := by
  have parsed : parsePlatforms " linux/amd64,, linux/arm64 ,linux/amd64," =
      .ok ["linux/amd64", "linux/arm64", "linux/amd64"] := by
    decide
  exact spawned_child_platforms parsed

/-- What the process model of link polls are the paths of these targets. -/
theorem socketPaths_eq_targets (plan : Host.Plan curve) {targets : List (String × String)}
    (derived : pollTargets plan.platforms = .ok targets) :
    socketPaths plan = targets.map Prod.snd := by
  have paths := (mem_pollTargets derived).2
  rw [map_socketPath] at paths
  have injective : Function.Injective (Except.ok : String → Except Panic String) :=
    fun _ _ same => Except.ok.inj same
  apply (List.map_injective_iff.mpr injective)
  rw [← paths, List.map_map]
  rfl

end Link

end OrbitBuild
