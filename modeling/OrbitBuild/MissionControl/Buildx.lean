import Mathlib.Data.Finset.Basic
import Mathlib.Data.Finset.Image
import OrbitBuild.Core.Platform

/-! # Registering the sockets with buildx

Mission Control asks `docker buildx` for each bridged platform whether the builder
exists, and then creates it or appends to it. The platforms come in the order of a
hash map, and each `create` may fail. Whatever the order, the builder ends with the
nodes it had and those of the platforms whose `create` has not failed.
-/

namespace OrbitBuild

namespace Docker

/-- How a command ends: it may not start at all, and a signal leaves no code. -/
inductive Exit
  | notStarted (error : String)
  | exited (code : Option Int)
  deriving DecidableEq, Repr

/-- `ExitStatus::success`. -/
def Exit.success : Exit → Bool
  | .exited (some code) => code == 0
  | _ => false

/-- A node of a builder. -/
structure Node where
  endpoint : String
  platform : String
  deriving DecidableEq, Repr

/-- The `docker` command, run on a world, and the nodes of the builders in a world. -/
structure Cli (World : Type) where
  run : List String → World → Exit × World
  builder : World → String → Option (Finset Node)

variable {World : Type}

/-- What a builder holds; one that does not exist holds nothing. -/
def Cli.held (docker : Cli World) (world : World) (name : String) : Finset Node :=
  (docker.builder world name).getD ∅

/-- The command succeeds, and leaves the builders like this. -/
def Cli.Sets (docker : Cli World) (args : List String) (world : World)
    (builders : String → Option (Finset Node)) : Prop :=
  (docker.run args world).1.success = true ∧
    docker.builder (docker.run args world).2 = builders

/-- What `docker buildx inspect` and `docker buildx create` do. How an `--append` ends whose
endpoint the builder has already is left open. -/
structure Cli.Documented (docker : Cli World) : Prop where
  inspect : ∀ name world,
    (docker.run ["buildx", "inspect", name] world).1.success =
        (docker.builder world name).isSome ∧
      docker.builder (docker.run ["buildx", "inspect", name] world).2 = docker.builder world
  create : ∀ name endpoint platform world, docker.builder world name = none →
    docker.Sets ["buildx", "create", "--name", name, "--driver", "remote", endpoint,
        "--platform", platform] world
      (Function.update (docker.builder world) name (some {⟨endpoint, platform⟩}))
  append : ∀ name endpoint platform world nodes, docker.builder world name = some nodes →
    (∀ node ∈ nodes, node.endpoint ≠ endpoint) →
    docker.Sets ["buildx", "create", "--name", name, "--driver", "remote", endpoint,
        "--platform", platform, "--append"] world
      (Function.update (docker.builder world) name (some (insert ⟨endpoint, platform⟩ nodes)))
  again : ∀ name endpoint platform world nodes, docker.builder world name = some nodes →
    ⟨endpoint, platform⟩ ∈ nodes →
    docker.builder (docker.run ["buildx", "create", "--name", name, "--driver", "remote", endpoint,
        "--platform", platform, "--append"] world).2 = docker.builder world

/-- The platforms whose `create` fails, and how. -/
abbrev Faults := String → Option { exit : Exit // exit.success = false }

/-- The same command, where the `create` for some platforms fails without effect. -/
def Cli.failing (docker : Cli World) (faults : Faults) : Cli World where
  run args world :=
    if args.take 2 = ["buildx", "create"] then
      match args[8]?.bind faults with
      | some fault => (fault.1, world)
      | none => docker.run args world
    else docker.run args world
  builder := docker.builder

/-! ## The functions of Mission Control -/

/-- The arguments of `docker` that `buildx_create_command` puts together. -/
def buildxCreateCommand (builderName socketPath platform : String) (append : Bool) : List String :=
  ["buildx", "create", "--name", builderName, "--driver", "remote", "unix://" ++ socketPath,
    "--platform", platform] ++ (if append then ["--append"] else [])

def buildxBuilderExists (docker : Cli World) (builderName : String) (world : World) :
    Bool × World :=
  match docker.run ["buildx", "inspect", builderName] world with
  | (.exited code, after) => ((Exit.exited code).success, after)
  | (.notStarted _, after) => (false, after)

/-- Create the builder or append to it. A command that fails is logged, and only one that
cannot be started is an error. -/
def buildxEnsureBuilder (docker : Cli World) (builderName socketPath platform : String)
    (world : World) : Except String Unit × World :=
  let (builderExists, inspected) := buildxBuilderExists docker builderName world
  match docker.run (buildxCreateCommand builderName socketPath platform builderExists)
      inspected with
  | (.notStarted error, after) =>
      (.error ("failed to run docker buildx create — is docker installed? " ++ error), after)
  | (.exited _, after) => (.ok (), after)

/-- The buildx loop of `run_mission_control`, which goes on after an error. -/
def registerAll (docker : Cli World) (builderName socketDir : String) :
    (platforms : List String) → World → Except Panic World
  | [], world => .ok world
  | platform :: rest, world => do
      let socket ← socketPathForPlatform socketDir platform
      match buildxEnsureBuilder docker builderName socket platform world with
      | (.ok (), after) | (.error _, after) => registerAll docker builderName socketDir rest after

/-! ## One platform -/

section Step

variable {docker : Cli World} {faults : Faults} {name : String} {world : World}

/-- An `inspect` is not made to fail. -/
theorem failing_inspect :
    (docker.failing faults).run ["buildx", "inspect", name] world =
      docker.run ["buildx", "inspect", name] world := by
  simp [Cli.failing]

/-- A `create` fails as it is made to, or runs. -/
theorem failing_create (socket platform : String) (append : Bool) :
    (docker.failing faults).run (buildxCreateCommand name socket platform append) world =
      match faults platform with
      | some fault => (fault.1, world)
      | none => docker.run (buildxCreateCommand name socket platform append) world := by
  rfl

/-- The builder exists exactly if `inspect` succeeds. -/
theorem buildxBuilderExists_eq :
    buildxBuilderExists docker name world =
      ((docker.run ["buildx", "inspect", name] world).1.success,
        (docker.run ["buildx", "inspect", name] world).2) := by
  unfold buildxBuilderExists
  split
  · next ended => rw [ended]
  · next ended => rw [ended]; rfl

/-- One `inspect` and one `create`, which appends if the `inspect` has succeeded. -/
theorem buildxEnsureBuilder_snd (socket platform : String) :
    (buildxEnsureBuilder docker name socket platform world).2 =
      (docker.run (buildxCreateCommand name socket platform
        (docker.run ["buildx", "inspect", name] world).1.success)
        (docker.run ["buildx", "inspect", name] world).2).2 := by
  rw [buildxEnsureBuilder, buildxBuilderExists_eq]
  dsimp only
  split
  · next ended => rw [ended]
  · next ended => rw [ended]

/-- A new node is appended. -/
theorem Cli.Documented.sets_append (documented : docker.Documented) {endpoint platform : String}
    {nodes : Finset Node} (present : docker.builder world name = some nodes)
    (compatible : ∀ node ∈ nodes, node.endpoint = endpoint → node.platform = platform)
    (fresh : ⟨endpoint, platform⟩ ∉ nodes) :
    docker.Sets ["buildx", "create", "--name", name, "--driver", "remote", endpoint,
        "--platform", platform, "--append"] world
      (Function.update (docker.builder world) name
        (some (insert ⟨endpoint, platform⟩ nodes))) := by
  refine documented.append name endpoint platform world nodes present ?_
  intro node listed same
  apply fresh
  rw [← same, ← compatible node listed same]
  exact listed

/-- After an `--append` the node is in the builder, whether it is new or was there before. -/
theorem Cli.Documented.builder_append (documented : docker.Documented) {endpoint platform : String}
    {nodes : Finset Node} (present : docker.builder world name = some nodes)
    (compatible : ∀ node ∈ nodes, node.endpoint = endpoint → node.platform = platform) :
    docker.builder (docker.run ["buildx", "create", "--name", name, "--driver", "remote", endpoint,
        "--platform", platform, "--append"] world).2 =
      Function.update (docker.builder world) name (some (insert ⟨endpoint, platform⟩ nodes)) := by
  by_cases old : ⟨endpoint, platform⟩ ∈ nodes
  · rw [documented.again name endpoint platform world nodes present old,
      Finset.insert_eq_self.mpr old, ← present, Function.update_eq_self]
  · exact (documented.sets_append present compatible old).2

/-- What one iteration makes of the builders. -/
theorem builder_buildxEnsureBuilder (documented : docker.Documented) {socket platform : String}
    (compatible : ∀ node ∈ docker.held world name,
      node.endpoint = "unix://" ++ socket → node.platform = platform) :
    docker.builder (buildxEnsureBuilder (docker.failing faults) name socket platform world).2 =
      if faults platform = none then
        Function.update (docker.builder world) name
          (some (insert ⟨"unix://" ++ socket, platform⟩ (docker.held world name)))
      else docker.builder world := by
  obtain ⟨answer, inspected⟩ := documented.inspect name world
  rw [buildxEnsureBuilder_snd, failing_inspect, failing_create, answer]
  cases faults platform with
  | some fault => exact inspected
  | none =>
      rw [if_pos rfl, Cli.held]
      cases present : docker.builder world name with
      | none =>
          have created := (documented.create name ("unix://" ++ socket) platform _
            ((congrFun inspected name).trans present)).2
          rw [inspected] at created
          rw [Option.getD_none, insert_empty_eq]
          exact created
      | some nodes =>
          rw [Cli.held, present] at compatible
          have appended := documented.builder_append
            ((congrFun inspected name).trans present) compatible
          rw [inspected] at appended
          exact appended

end Step

/-! ## All platforms -/

/-- The socket path of a platform that has one. -/
def socketOf (socketDir platform : String) : String :=
  (socketPathForPlatform socketDir platform).toOption.getD ""

/-- The node of a platform: its own socket and itself. -/
def Node.of (socketDir platform : String) : Node :=
  ⟨"unix://" ++ socketOf socketDir platform, platform⟩

/-- The nodes of those platforms whose `create` does not fail. -/
def registered (faults : Faults) (socketDir : String) (platforms : Finset String) : Finset Node :=
  (platforms.filter fun platform => faults platform = none).image (Node.of socketDir)

/-- A node that is on the socket of a platform carries the platform. -/
def Compatible (socketDir : String) (platforms : Finset String) (nodes : Finset Node) : Prop :=
  ∀ platform ∈ platforms, ∀ node ∈ nodes,
    node.endpoint = (Node.of socketDir platform).endpoint → node.platform = platform

section Loop

variable {docker : Cli World} {faults : Faults} {name socketDir : String}

/-- Nodes are registered platform by platform. -/
theorem registered_union (first second : Finset String) :
    registered faults socketDir (first ∪ second) =
      registered faults socketDir first ∪ registered faults socketDir second := by
  rw [registered, Finset.filter_union, Finset.image_union, registered, registered]

theorem registered_singleton (platform : String) :
    registered faults socketDir {platform} =
      if faults platform = none then {Node.of socketDir platform} else ∅ := by
  rw [registered, Finset.filter_singleton]
  split
  · exact Finset.image_singleton _ _
  · exact Finset.image_empty _

/-- Nodes of platforms with sockets of their own are in nobody's way. -/
theorem Compatible.registered {platforms others : Finset String} {nodes : Finset Node}
    (compatible : Compatible socketDir platforms nodes)
    (distinct : ∀ other ∈ others, ∀ platform ∈ platforms,
      socketOf socketDir other = socketOf socketDir platform → other = platform) :
    Compatible socketDir platforms (nodes ∪ registered faults socketDir others) := by
  intro platform member node listed same
  rcases Finset.mem_union.mp listed with old | new
  · exact compatible platform member node old same
  · obtain ⟨other, among, rfl⟩ := Finset.mem_image.mp new
    exact distinct other (Finset.mem_filter.mp among).1 platform member
      ((String.append_right_inj "unix://").mp same)

/-- Between two worlds the builder has got the nodes of the platforms whose `create` does
not fail, and the other builders are the same. -/
structure Registers (docker : Cli World) (faults : Faults) (socketDir name : String)
    (platforms : Finset String) (before after : World) : Prop where
  held : docker.held after name = docker.held before name ∪ registered faults socketDir platforms
  present : (docker.builder after name).isSome ↔
    (docker.builder before name).isSome ∨ ∃ platform ∈ platforms, faults platform = none
  frame : ∀ other, other ≠ name → docker.builder after other = docker.builder before other

theorem Registers.refl (world : World) : Registers docker faults socketDir name ∅ world world where
  held := by
    rw [registered, Finset.filter_empty, Finset.image_empty, Finset.union_empty]
  present := by
    simp only [Finset.notMem_empty, false_and, exists_false, or_false]
  frame _ _ := rfl

theorem Registers.trans {first second : Finset String} {before between after : World}
    (start : Registers docker faults socketDir name first before between)
    (rest : Registers docker faults socketDir name second between after) :
    Registers docker faults socketDir name (first ∪ second) before after where
  held := by rw [rest.held, start.held, registered_union, Finset.union_assoc]
  present := by
    rw [rest.present, start.present]
    simp only [Finset.mem_union, or_and_right, exists_or, or_assoc]
  frame other different := (rest.frame other different).trans (start.frame other different)

/-- One iteration registers its platform. -/
theorem registers_buildxEnsureBuilder (documented : docker.Documented) {platform : String}
    {world : World} (compatible : Compatible socketDir {platform} (docker.held world name)) :
    Registers docker faults socketDir name {platform} world
      (buildxEnsureBuilder (docker.failing faults) name (socketOf socketDir platform) platform
        world).2 := by
  obtain ⟨after, ensured⟩ : ∃ after, after = (buildxEnsureBuilder (docker.failing faults) name
    (socketOf socketDir platform) platform world).2 := ⟨_, rfl⟩
  have own := compatible platform (Finset.mem_singleton_self _)
  have builders : docker.builder after = if faults platform = none then
      Function.update (docker.builder world) name
        (some (insert (Node.of socketDir platform) (docker.held world name)))
      else docker.builder world :=
    ensured ▸ builder_buildxEnsureBuilder documented own
  rw [← ensured]
  by_cases works : faults platform = none
  · rw [if_pos works] at builders
    refine ⟨?_, ?_, ?_⟩
    · rw [registered_singleton, if_pos works, Cli.held, builders, Function.update_self,
        Option.getD_some, Finset.union_comm, ← Finset.insert_eq]
    · rw [builders, Function.update_self]
      exact iff_of_true rfl (Or.inr ⟨platform, Finset.mem_singleton_self _, works⟩)
    · intro other different
      rw [builders, Function.update_of_ne different]
  · rw [if_neg works] at builders
    refine ⟨?_, ?_, ?_⟩
    · rw [registered_singleton, if_neg works, Finset.union_empty, Cli.held, builders, Cli.held]
    · simp only [builders, Finset.mem_singleton, exists_eq_left, works, or_false]
    · intro other _
      rw [builders]

/-- The loop registers the first platform and goes on. -/
theorem registerAll_cons {docker : Cli World} {platform socket : String}
    (derived : socketPathForPlatform socketDir platform = .ok socket) (rest : List String)
    (world : World) :
    registerAll docker name socketDir (platform :: rest) world =
      registerAll docker name socketDir rest
        (buildxEnsureBuilder docker name socket platform world).2 := by
  rw [registerAll, derived]
  dsimp only [bind, Except.bind]
  split
  · next after ended => rw [ended]
  · next after ended => rw [ended]

/-- The loop registers all platforms, whichever of them come first. -/
theorem registers_registerAll (documented : docker.Documented) {order : List String}
    (derived : ∀ platform ∈ order,
      socketPathForPlatform socketDir platform = .ok (socketOf socketDir platform))
    (distinct : ∀ platform ∈ order, ∀ other ∈ order,
      socketOf socketDir platform = socketOf socketDir other → platform = other)
    (world : World) (compatible : Compatible socketDir order.toFinset (docker.held world name)) :
    ∃ after, registerAll (docker.failing faults) name socketDir order world = .ok after ∧
      Registers docker faults socketDir name order.toFinset world after := by
  induction order generalizing world with
  | nil => exact ⟨world, rfl, .refl world⟩
  | cons platform rest ih =>
      have whole : (platform :: rest).toFinset = {platform} ∪ rest.toFinset := by
        rw [List.toFinset_cons, Finset.insert_eq]
      rw [whole] at compatible ⊢
      have own : Compatible socketDir {platform} (docker.held world name) :=
        fun other member => compatible other (Finset.mem_union_left _ member)
      have others : Compatible socketDir rest.toFinset (docker.held world name) :=
        fun other member => compatible other (Finset.mem_union_right _ member)
      have stepped : Registers docker faults socketDir name {platform} world _ :=
        registers_buildxEnsureBuilder documented own
      have spared : Compatible socketDir rest.toFinset (docker.held
          (buildxEnsureBuilder (docker.failing faults) name (socketOf socketDir platform) platform
            world).2 name) := by
        rw [stepped.held]
        apply others.registered
        intro one member other listed
        rw [Finset.mem_singleton] at member
        rw [List.mem_toFinset] at listed
        exact distinct one (member ▸ List.mem_cons_self) other (List.mem_cons_of_mem _ listed)
      obtain ⟨after, ran, registers⟩ := ih
        (fun other member => derived other (List.mem_cons_of_mem _ member))
        (fun one member other listed =>
          distinct one (List.mem_cons_of_mem _ member) other (List.mem_cons_of_mem _ listed))
        _ spared
      rw [registerAll_cons (derived platform List.mem_cons_self)]
      exact ⟨after, ran, stepped.trans registers⟩

end Loop

/-- An accepted platform has a socket. -/
theorem socketPathForPlatform_socketOf {text : String} {accepted : List String}
    (parsed : parsePlatforms text = .ok accepted) {platform : String}
    (member : platform ∈ accepted) (socketDir : String) :
    socketPathForPlatform socketDir platform = .ok (socketOf socketDir platform) := by
  obtain ⟨arch, extracted⟩ := platformToArch_isOk_of_parsePlatforms parsed member
  have path : socketPathForPlatform socketDir platform =
      .ok (joinPath socketDir (socketName arch)) :=
    socketPathForPlatform_eq_ok.mpr ⟨arch, extracted, rfl⟩
  rw [socketOf, path]
  rfl

/-- **The builder after the buildx loop.** If the bridged platforms have different
sockets, and a node that is already on one of them carries its platform, then in every
order of the platforms and whichever of the `create` commands fail, the loop ends with
the same nodes in the builder: those it had and one for each platform whose command has
not failed. Other builders are left alone. -/
theorem registerAll_registers {docker : Cli World} (documented : docker.Documented)
    {text : String} {accepted : List String} (parsed : parsePlatforms text = .ok accepted)
    {platforms : Finset String} (bridged : ∀ platform ∈ platforms, platform ∈ accepted)
    {socketDir : String}
    (distinct : ∀ platform ∈ platforms, ∀ other ∈ platforms,
      socketPathForPlatform socketDir platform = socketPathForPlatform socketDir other →
        platform = other)
    (name : String) (before : World)
    (compatible : Compatible socketDir platforms (docker.held before name)) (faults : Faults) :
    ∃ nodes, nodes = docker.held before name ∪ registered faults socketDir platforms ∧
      ∀ order : List String, order.toFinset = platforms →
        ∃ after, registerAll (docker.failing faults) name socketDir order before = .ok after ∧
          docker.held after name = nodes ∧
          ((docker.builder after name).isSome ↔
            (docker.builder before name).isSome ∨
              ∃ platform ∈ platforms, faults platform = none) ∧
          ∀ other, other ≠ name → docker.builder after other = docker.builder before other := by
  refine ⟨_, rfl, ?_⟩
  rintro order rfl
  have derived : ∀ platform ∈ order,
      socketPathForPlatform socketDir platform = .ok (socketOf socketDir platform) :=
    fun platform member => socketPathForPlatform_socketOf parsed
      (bridged platform (List.mem_toFinset.mpr member)) socketDir
  have apart : ∀ platform ∈ order, ∀ other ∈ order,
      socketOf socketDir platform = socketOf socketDir other → platform = other := by
    intro platform member other listed same
    apply distinct platform (List.mem_toFinset.mpr member) other (List.mem_toFinset.mpr listed)
    rw [derived platform member, derived other listed, same]
  obtain ⟨after, ran, registers⟩ := registers_registerAll documented derived apart before compatible
  exact ⟨after, ran, registers.held, registers.present, registers.frame⟩

/-- A `docker` that keeps the builders and does nothing else. It refuses an endpoint that
the builder has already. -/
def Cli.keeping : Cli (String → Option (Finset Node)) where
  builder world := world
  run args world :=
    match args with
    | [_, _, name] => (.exited (some (if (world name).isSome then 0 else 1)), world)
    | [_, _, _, name, _, _, endpoint, _, platform] =>
        match world name with
        | none =>
            (.exited (some 0), Function.update world name (some {⟨endpoint, platform⟩}))
        | some _ => (.exited (some 1), world)
    | [_, _, _, name, _, _, endpoint, _, platform, _] =>
        match world name with
        | none => (.exited (some 1), world)
        | some nodes =>
            if ∃ node ∈ nodes, node.endpoint = endpoint then (.exited (some 1), world)
            else
              (.exited (some 0),
                Function.update world name (some (insert ⟨endpoint, platform⟩ nodes)))
    | _ => (.exited (some 1), world)

/-- The command that keeps the builders does what is documented. -/
theorem Cli.keeping_documented : Cli.keeping.Documented where
  inspect name world := by
    refine ⟨?_, rfl⟩
    simp only [Cli.keeping]
    cases world name <;> rfl
  create name endpoint platform world absent := by
    simp only [Cli.keeping] at absent
    simp only [Cli.Sets, Cli.keeping, absent]
    exact ⟨rfl, trivial⟩
  append name endpoint platform world nodes present fresh := by
    simp only [Cli.keeping] at present
    have absent : ¬ ∃ node ∈ nodes, node.endpoint = endpoint := by
      intro both
      obtain ⟨node, listed, same⟩ := both
      exact fresh node listed same
    simp only [Cli.Sets, Cli.keeping, present, if_neg absent]
    exact ⟨rfl, trivial⟩
  again name endpoint platform world nodes present old := by
    simp only [Cli.keeping] at present
    have taken : ∃ node ∈ nodes, node.endpoint = endpoint := ⟨_, old, rfl⟩
    simp only [Cli.keeping, present, if_pos taken]

def amd64Fails : Faults := fun platform =>
  if platform = "linux/amd64" then some ⟨.exited (some 1), rfl⟩ else none

/-- The command for one of two platforms fails, and that for the other creates the builder. -/
theorem registerAll_arm64 :
    ∃ after, registerAll (Cli.keeping.failing amd64Fails) "orbit" "/tmp"
        ["linux/arm64", "linux/amd64"] (fun _ => none) = .ok after ∧
      Cli.keeping.held after "orbit" = {⟨"unix:///tmp/orbit-arm64.sock", "linux/arm64"⟩} := by
  have parsed : parsePlatforms "linux/amd64,linux/arm64" = .ok ["linux/amd64", "linux/arm64"] := by
    decide
  have bridged : ∀ platform ∈ ({"linux/amd64", "linux/arm64"} : Finset String),
      platform ∈ ["linux/amd64", "linux/arm64"] := by
    decide
  have distinct : ∀ platform ∈ ({"linux/amd64", "linux/arm64"} : Finset String),
      ∀ other ∈ ({"linux/amd64", "linux/arm64"} : Finset String),
      socketPathForPlatform "/tmp" platform = socketPathForPlatform "/tmp" other →
        platform = other := by
    decide
  have compatible : Compatible "/tmp" {"linux/amd64", "linux/arm64"}
      (Cli.keeping.held (fun _ => none) "orbit") :=
    fun _ _ node listed => (Finset.notMem_empty node listed).elim
  obtain ⟨nodes, same, all⟩ := registerAll_registers Cli.keeping_documented parsed bridged
    distinct "orbit" _ compatible amd64Fails
  obtain ⟨after, ran, held, -⟩ := all ["linux/arm64", "linux/amd64"] (by decide)
  refine ⟨after, ran, held.trans (same.trans ?_)⟩
  decide

end Docker

end OrbitBuild
