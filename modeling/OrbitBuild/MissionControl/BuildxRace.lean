import OrbitBuild.Foundation.Transition
import OrbitBuild.MissionControl.Buildx

/-! # Mission Controls that share a builder

Any number of Mission Controls register their sockets under one name, and nothing keeps
the `docker buildx inspect` of one and the `create` that follows it together. A `create`
that was to make the builder fails when another one has been first; what it was for is
logged and not tried again. From then on the builder is there and every answer is right.
-/

namespace OrbitBuild

universe u

namespace Docker

variable {World : Type} {ι : Type u}

/-- Without `--append` a builder that is there is an error. -/
def Cli.Exclusive (docker : Cli World) : Prop :=
  ∀ name endpoint platform world, (docker.builder world name).isSome →
    (docker.run ["buildx", "create", "--name", name, "--driver", "remote", endpoint,
        "--platform", platform] world).1.success = false ∧
      docker.builder (docker.run ["buildx", "create", "--name", name, "--driver", "remote",
        endpoint, "--platform", platform] world).2 = docker.builder world

/-- A Mission Control in its buildx loop. -/
structure Registrar where
  /-- The platforms that are still to be registered. -/
  pending : List String
  /-- What `buildx_builder_exists` has returned for the first of them. -/
  answer : Option Bool
  /-- The platforms that a warning has been logged for. -/
  warned : List String
  deriving DecidableEq

/-- The `create` for this platform has succeeded. -/
def Registrar.Served (plan : List String) (registrar : Registrar) (platform : String) : Prop :=
  platform ∈ plan ∧ platform ∉ registrar.pending ∧ platform ∉ registrar.warned

/-- The platforms lost to another Mission Control: their `create` was not made to fail, and
the builder has no node of them. -/
def Registrar.lost (fault : Faults) (socketDir : String) (held : Finset Node)
    (registrar : Registrar) : List String :=
  registrar.warned.filter fun platform =>
    (fault platform).isNone && decide (Node.of socketDir platform ∉ held)

section Lost

variable {fault : Faults} {socketDir : String} {held grown : Finset Node} {registrar : Registrar}

/-- A larger builder lacks no more. -/
theorem Registrar.lost_mono (grows : held ⊆ grown) :
    (registrar.lost fault socketDir grown).Sublist (registrar.lost fault socketDir held) := by
  refine List.monotone_filter_right _ fun platform => ?_
  simp only [Bool.and_eq_true, decide_eq_true_eq]
  exact And.imp_right fun absent member => absent (grows member)

/-- What others put into the builder makes up for a loss. -/
theorem Registrar.lost_sublist {next : Registrar} (grows : held ⊆ grown)
    (same : next.warned = registrar.warned) :
    (next.lost fault socketDir grown).Sublist (registrar.lost fault socketDir held) := by
  rw [lost, same]
  exact Registrar.lost_mono grows

/-- Nothing is lost with a `create` that succeeds, or is made to fail, or whose node the
builder has. -/
theorem Registrar.lost_create {platform : String} {success : Bool} (grows : held ⊆ grown)
    (rest : List String)
    (excused : success = false → fault platform = none → Node.of socketDir platform ∈ grown) :
    (Registrar.lost fault socketDir grown
      ⟨rest, none, registrar.warned ++ if success then [] else [platform]⟩).Sublist
        (registrar.lost fault socketDir held) := by
  have nothing : (if success then [] else [platform]).filter (fun platform =>
      (fault platform).isNone && decide (Node.of socketDir platform ∉ grown)) = [] := by
    cases success with
    | true => rfl
    | false =>
        refine List.filter_eq_nil_iff.mpr fun other member => ?_
        rw [if_neg Bool.false_ne_true, List.mem_singleton] at member
        subst member
        simp only [Bool.and_eq_true, Option.isNone_iff_eq_none, decide_eq_true_eq, not_and,
          not_not]
        exact excused rfl
  rw [lost, List.filter_append, nothing, List.append_nil]
  exact Registrar.lost_mono grows

/-- With one `create` at most its own platform is lost. -/
theorem Registrar.lost_late {platform : String} {success : Bool} (grows : held ⊆ grown)
    (rest : List String) :
    (Registrar.lost fault socketDir grown
      ⟨rest, none, registrar.warned ++ if success then [] else [platform]⟩).Sublist
        (registrar.lost fault socketDir held ++ [platform]) := by
  rw [lost, List.filter_append]
  refine List.Sublist.append (Registrar.lost_mono grows) ?_
  refine List.filter_sublist.trans ?_
  cases success with
  | true => exact List.nil_sublist _
  | false => exact List.Sublist.refl _

end Lost

namespace Race

structure State (World : Type) (ι : Type u) where
  world : World
  registrars : ι → Registrar

inductive Action (ι : Type u)
  | inspect (i : ι)
  | create (i : ι)

def initial (world : World) (plan : ι → List String) : State World ι :=
  ⟨world, fun i => ⟨plan i, none, []⟩⟩

variable [DecidableEq ι]

def step (docker : Cli World) (faults : ι → Faults) (name socketDir : String)
    (state : State World ι) : Action ι → Option (State World ι)
  | .inspect i =>
      match (state.registrars i).pending, (state.registrars i).answer with
      | _ :: _, none =>
          let (builderExists, after) := buildxBuilderExists (docker.failing (faults i)) name
            state.world
          some ⟨after, Function.update state.registrars i
            { state.registrars i with answer := some builderExists }⟩
      | _, _ => none
  | .create i =>
      match (state.registrars i).pending, (state.registrars i).answer with
      | platform :: rest, some append =>
          let (ended, after) := (docker.failing (faults i)).run
            (buildxCreateCommand name (socketOf socketDir platform) platform append) state.world
          some ⟨after, Function.update state.registrars i
            ⟨rest, none, (state.registrars i).warned ++
              if ended.success then [] else [platform]⟩⟩
      | _, _ => none

omit [DecidableEq ι] in
/-- What a Mission Control has lost so far. -/
def State.lost (docker : Cli World) (faults : ι → Faults) (name socketDir : String)
    (state : State World ι) (i : ι) : List String :=
  (state.registrars i).lost (faults i) socketDir (docker.held state.world name)

/-- Nothing is left to register. -/
def State.Over (state : State World ι) : Prop := ∀ i, (state.registrars i).pending = []

/-! ## What a step does -/

section Step

variable {docker : Cli World} {faults : ι → Faults} {name socketDir : String}
  {state next : State World ι}

/-- An `inspect` notes its answer. -/
theorem step_inspect_eq_some {i : ι}
    (moved : step docker faults name socketDir state (.inspect i) = some next) :
    (state.registrars i).answer = none ∧
      next = ⟨(docker.run ["buildx", "inspect", name] state.world).2,
        Function.update state.registrars i { state.registrars i with
          answer := some (docker.run ["buildx", "inspect", name] state.world).1.success }⟩ := by
  simp only [step] at moved
  split at moved
  · next free =>
      rw [buildxBuilderExists_eq, failing_inspect] at moved
      cases moved
      exact ⟨free, rfl⟩
  · cases moved

/-- A `create` uses the answer up, and warns if it fails. -/
theorem step_create_eq_some {i : ι}
    (moved : step docker faults name socketDir state (.create i) = some next) :
    ∃ platform rest append ended, (state.registrars i).pending = platform :: rest ∧
      (state.registrars i).answer = some append ∧
      (docker.failing (faults i)).run
        (buildxCreateCommand name (socketOf socketDir platform) platform append) state.world =
          (ended, next.world) ∧
      next.registrars = Function.update state.registrars i
        ⟨rest, none, (state.registrars i).warned ++
          if ended.success then [] else [platform]⟩ := by
  simp only [step] at moved
  split at moved
  · next platform rest append pending answered =>
      cases moved
      exact ⟨platform, rest, append, _, pending, answered, rfl, rfl⟩
  · cases moved

/-- What comes of a `create` that follows an answer and is not made to fail: its node is
put into the builder or has been there before, or it was to make a builder that is there
by now. -/
theorem run_create (documented : docker.Documented) (exclusive : docker.Exclusive)
    {platform : String} {append : Bool} {world after : World} {ended : Exit}
    (known : append = true → (docker.builder world name).isSome)
    (compatible : ∀ node ∈ docker.held world name,
      node.endpoint = (Node.of socketDir platform).endpoint → node.platform = platform)
    (ran : docker.run (buildxCreateCommand name (socketOf socketDir platform) platform append)
      world = (ended, after)) :
    (ended.success = true ∧ docker.builder after = Function.update (docker.builder world) name
      (some (insert (Node.of socketDir platform) (docker.held world name)))) ∨
    (Node.of socketDir platform ∈ docker.held world name ∧
      docker.builder after = docker.builder world) ∨
    (ended.success = false ∧ append = false ∧ (docker.builder world name).isSome ∧
      docker.builder after = docker.builder world) := by
  have ended_eq : ended = _ := (congrArg Prod.fst ran).symm
  have after_eq : after = _ := (congrArg Prod.snd ran).symm
  rw [ended_eq, after_eq]
  cases present : docker.builder world name with
  | none =>
      cases append with
      | true => cases present ▸ known rfl
      | false =>
          rw [Cli.held, present, Option.getD_none, insert_empty_eq]
          exact Or.inl (documented.create name _ platform world present)
  | some nodes =>
      cases append with
      | true =>
          rw [Cli.held, present, Option.getD_some] at compatible ⊢
          by_cases old : Node.of socketDir platform ∈ nodes
          · exact Or.inr (Or.inl ⟨old, documented.again name _ platform world nodes present old⟩)
          · exact Or.inl (documented.sets_append present compatible old)
      | false =>
          obtain ⟨fails, builders⟩ := exclusive name ("unix://" ++ socketOf socketDir platform)
            platform world (by rw [present]; rfl)
          exact Or.inr (Or.inr ⟨fails, rfl, rfl, builders⟩)

/-- How a `create` ends that follows an answer. If it succeeds its node is in the builder;
and it fails only if it is made to, or was to make a builder that is there by now, or finds
its node there. -/
theorem create_spec (documented : docker.Documented) (exclusive : docker.Exclusive)
    {fault : Faults} {platform : String} {append : Bool} {world after : World} {ended : Exit}
    (known : append = true → (docker.builder world name).isSome)
    (compatible : ∀ node ∈ docker.held world name,
      node.endpoint = (Node.of socketDir platform).endpoint → node.platform = platform)
    (ran : (docker.failing fault).run
      (buildxCreateCommand name (socketOf socketDir platform) platform append) world =
        (ended, after)) :
    docker.builder after = (if ended.success then
        Function.update (docker.builder world) name
          (some (insert (Node.of socketDir platform) (docker.held world name)))
      else docker.builder world) ∧
    (fault platform ≠ none → ended.success = false) ∧
    (ended.success = false → fault platform = none →
      (append = false ∧ (docker.builder world name).isSome) ∨
        Node.of socketDir platform ∈ docker.held world name) := by
  rw [failing_create] at ran
  cases made : fault platform with
  | some failure =>
      rw [made] at ran
      cases ran
      refine ⟨?_, fun _ => failure.2, fun _ => nofun⟩
      rw [failure.2, if_neg Bool.false_ne_true]
  | none =>
      rw [made] at ran
      rcases run_create documented exclusive known compatible ran with
        ⟨succeeds, builders⟩ | ⟨old, same⟩ | ⟨fails, first, present, same⟩
      · exact ⟨by rw [if_pos succeeds, builders], fun other => (other rfl).elim,
          fun failed => (Bool.noConfusion (succeeds.symm.trans failed))⟩
      · refine ⟨?_, fun other => (other rfl).elim, fun _ _ => Or.inr old⟩
        split
        · obtain ⟨nodes, held⟩ : ∃ nodes, docker.builder world name = some nodes := by
            cases present : docker.builder world name with
            | some nodes => exact ⟨nodes, rfl⟩
            | none =>
                rw [Cli.held, present] at old
                exact (Finset.notMem_empty _ old).elim
          rw [Finset.insert_eq_self.mpr old, Cli.held, held, Option.getD_some, ← held,
            Function.update_eq_self, same]
        · exact same
      · refine ⟨?_, fun other => (other rfl).elim, fun _ _ => Or.inl ⟨first, present⟩⟩
        rw [fails, if_neg Bool.false_ne_true, same]

end Step

section Alone

variable {docker : Cli World} {faults : ι → Faults} {name socketDir : String} {i : ι}
  {state : State World ι}

/-- An inspection and the `create` after it are one iteration of the loop. -/
theorem run_iteration {platform : String} {rest : List String}
    (pending : (state.registrars i).pending = platform :: rest)
    (free : (state.registrars i).answer = none) :
    ∃ next, Transition.Reachable (step docker faults name socketDir) state next ∧
      next.world = (buildxEnsureBuilder (docker.failing (faults i)) name
        (socketOf socketDir platform) platform state.world).2 ∧
      (next.registrars i).pending = rest ∧ (next.registrars i).answer = none ∧
      ∀ j, j ≠ i → next.registrars j = state.registrars j := by
  obtain ⟨asked, inspected⟩ : ∃ asked,
      step docker faults name socketDir state (.inspect i) = some asked := by
    apply Option.isSome_iff_exists.mp
    simp only [step, pending, free, Option.isSome_some]
  obtain ⟨-, same⟩ := step_inspect_eq_some inspected
  have here : asked.registrars i = { state.registrars i with
      answer := some (docker.run ["buildx", "inspect", name] state.world).1.success } := by
    rw [same]
    exact Function.update_self _ _ _
  obtain ⟨next, created⟩ : ∃ next,
      step docker faults name socketDir asked (.create i) = some next := by
    apply Option.isSome_iff_exists.mp
    simp only [step, here, pending, Option.isSome_some]
  obtain ⟨first, later, append, ended, before, answered, ran, made⟩ := step_create_eq_some created
  rw [here] at before answered made
  cases pending.symm.trans before
  cases answered
  refine ⟨next, ((Transition.Reachable.refl state).snoc inspected).snoc created, ?_, ?_, ?_, ?_⟩
  · rw [buildxEnsureBuilder_snd, failing_inspect]
    rw [same] at ran
    exact (congrArg Prod.snd ran).symm
  · rw [made, Function.update_self]
  · rw [made, Function.update_self]
  · intro j different
    rw [made, Function.update_of_ne different, same]
    exact Function.update_of_ne different _ _

/-- A loop that nobody interrupts is the loop of `run_mission_control`. -/
theorem run_alone {platforms : List String}
    (derived : ∀ platform ∈ platforms,
      socketPathForPlatform socketDir platform = .ok (socketOf socketDir platform))
    (pending : (state.registrars i).pending = platforms)
    (free : (state.registrars i).answer = none) :
    ∃ final, Transition.Reachable (step docker faults name socketDir) state final ∧
      registerAll (docker.failing (faults i)) name socketDir platforms state.world =
        .ok final.world ∧
      (final.registrars i).pending = [] ∧
      ∀ j, j ≠ i → final.registrars j = state.registrars j := by
  induction platforms generalizing state with
  | nil => exact ⟨state, .refl state, rfl, pending, fun _ _ => rfl⟩
  | cons platform rest ih =>
      obtain ⟨next, reached, world, later, again, others⟩ := run_iteration pending free
      obtain ⟨final, onwards, registered, finished, apart⟩ := ih
        (fun other member => derived other (List.mem_cons_of_mem _ member)) later again
      refine ⟨final, reached.trans onwards, ?_, finished, ?_⟩
      · rw [registerAll_cons (derived platform List.mem_cons_self), ← world]
        exact registered
      · intro j different
        rw [apart j different, others j different]

end Alone

/-! ## The race -/

section Registrar

variable {plan : List String} {registrar : Registrar} {platform : String} {rest : List String}

/-- With the end of a `create` its platform is served or warned of. -/
theorem served_advance (distinct : plan.Nodup) (suffix : registrar.pending <:+ plan)
    (pending : registrar.pending = platform :: rest) (fresh : platform ∉ registrar.warned)
    (success : Bool) (other : String) :
    Registrar.Served plan ⟨rest, none, registrar.warned ++ if success then [] else [platform]⟩
        other ↔
      registrar.Served plan other ∨ (success = true ∧ other = platform) := by
  rw [pending] at suffix
  have planned : platform ∈ plan := suffix.mem List.mem_cons_self
  have once : platform ∉ rest := (List.nodup_cons.mp (distinct.sublist suffix.sublist)).1
  unfold Registrar.Served
  rw [pending, List.mem_cons, not_or]
  cases success with
  | true =>
      simp only [↓reduceIte, List.append_nil, true_and]
      constructor
      · intro both
        obtain ⟨asked, later, silent⟩ := both
        by_cases same : other = platform
        · exact Or.inr same
        · exact Or.inl ⟨asked, ⟨same, later⟩, silent⟩
      · intro either
        rcases either with ⟨asked, ⟨-, later⟩, silent⟩ | rfl
        · exact ⟨asked, later, silent⟩
        · exact ⟨planned, once, fresh⟩
  | false =>
      simp only [Bool.false_eq_true, ↓reduceIte, List.mem_append, List.mem_singleton, not_or,
        false_and, or_false]
      constructor
      · intro both
        obtain ⟨asked, later, silent, different⟩ := both
        exact ⟨asked, ⟨different, later⟩, silent⟩
      · intro both
        obtain ⟨asked, ⟨different, later⟩, silent⟩ := both
        exact ⟨asked, later, silent, different⟩

end Registrar

/-- Some Mission Control has been served a platform with this property. -/
def SomeServed (plan : ι → List String) (state : State World ι) (property : String → Prop) : Prop :=
  ∃ i platform, (state.registrars i).Served (plan i) platform ∧ property platform

/-- The builder has the nodes of the platforms that have been served, and what it had. -/
structure Tracked (docker : Cli World) (faults : ι → Faults) (plan : ι → List String)
    (name socketDir : String) (before : World) (state : State World ι) : Prop where
  suffix : ∀ i, (state.registrars i).pending <:+ plan i
  warned : ∀ i, ∀ platform ∈ (state.registrars i).warned,
    platform ∈ plan i ∧ platform ∉ (state.registrars i).pending
  failed : ∀ i, ∀ platform ∈ plan i, platform ∉ (state.registrars i).pending →
    faults i platform ≠ none → platform ∈ (state.registrars i).warned
  held : ∀ node, node ∈ docker.held state.world name ↔
    node ∈ docker.held before name ∨
      SomeServed plan state fun platform => node = Node.of socketDir platform
  present : (docker.builder state.world name).isSome ↔
    (docker.builder before name).isSome ∨ SomeServed plan state fun _ => True
  frame : ∀ other, other ≠ name → docker.builder state.world other = docker.builder before other

/-- What is lost at any moment of the race. -/
structure Contended (docker : Cli World) (faults : ι → Faults) (plan : ι → List String)
    (name socketDir : String) (before : World) (state : State World ι) : Prop
    extends Tracked docker faults plan name socketDir before state where
  known : ∀ i, (state.registrars i).answer = some true →
    (docker.builder state.world name).isSome
  /-- Who has lost a platform will not lose another one. -/
  once : ∀ i, (state.lost docker faults name socketDir i).length ≤ 1 ∧
    (state.lost docker faults name socketDir i ≠ [] →
      (docker.builder state.world name).isSome ∧ (state.registrars i).answer ≠ some false)
  kept : (docker.builder before name).isSome → ∀ i,
    state.lost docker faults name socketDir i = [] ∧ (state.registrars i).answer ≠ some false
  /-- Whoever has made the builder has lost nothing and will not. -/
  first : (docker.builder state.world name).isSome → (docker.builder before name).isSome ∨
    ∃ i, state.lost docker faults name socketDir i = [] ∧
      (state.registrars i).answer ≠ some false

section Contended

variable {docker : Cli World} {faults : ι → Faults} {plan : ι → List String}
  {name socketDir : String} {before : World} {state next : State World ι}

omit [DecidableEq ι] in
theorem Contended.initial :
    Contended docker faults plan name socketDir before (initial before plan) := by
  have none : ∀ property, ¬ SomeServed plan (Race.initial before plan) property := by
    intro property both
    obtain ⟨i, platform, ⟨asked, taken, -⟩, -⟩ := both
    exact taken asked
  refine ⟨⟨fun i => List.suffix_refl _, nofun, ?_, ?_, ?_, fun _ _ => rfl⟩, nofun,
    fun i => ⟨Nat.zero_le 1, fun some => (some rfl).elim⟩, fun _ i => ⟨rfl, nofun⟩,
    fun present => Or.inl present⟩
  · intro i platform asked taken
    exact (taken asked).elim
  · intro node
    exact (or_iff_left (none _)).symm
  · exact (or_iff_left (none _)).symm

/-- An answer is right when it is given. -/
theorem Contended.inspect (documented : docker.Documented)
    (contended : Contended docker faults plan name socketDir before state) {i : ι}
    (moved : step docker faults name socketDir state (.inspect i) = some next) :
    Contended docker faults plan name socketDir before next := by
  obtain ⟨-, rfl⟩ := step_inspect_eq_some moved
  obtain ⟨answer, builders⟩ := documented.inspect name state.world
  obtain ⟨registrars, made⟩ : ∃ registrars, registrars = Function.update state.registrars i
    { state.registrars i with
      answer := some (docker.run ["buildx", "inspect", name] state.world).1.success } := ⟨_, rfl⟩
  have rests : ∀ j, (registrars j).pending = (state.registrars j).pending ∧
      (registrars j).warned = (state.registrars j).warned ∧
      ((registrars j).answer = (state.registrars j).answer ∨
        (registrars j).answer = some (docker.builder state.world name).isSome) := by
    intro j
    rw [made]
    by_cases same : j = i
    · subst same
      rw [Function.update_self, answer]
      exact ⟨rfl, rfl, Or.inr rfl⟩
    · rw [Function.update_of_ne same]
      exact ⟨rfl, rfl, Or.inl rfl⟩
  have served : ∀ property, SomeServed plan
      ⟨(docker.run ["buildx", "inspect", name] state.world).2, registrars⟩ property ↔
        SomeServed plan state property := by
    intro property
    unfold SomeServed Registrar.Served
    simp only [rests]
  have lost : ∀ j, State.lost docker faults name socketDir
      ⟨(docker.run ["buildx", "inspect", name] state.world).2, registrars⟩ j =
        state.lost docker faults name socketDir j := by
    intro j
    rw [State.lost, State.lost, Registrar.lost, Registrar.lost, (rests j).2.1, Cli.held, Cli.held,
      builders]
  have unfounded : ∀ j, (docker.builder state.world name).isSome →
      (state.registrars j).answer ≠ some false → (registrars j).answer ≠ some false := by
    intro j present before
    rcases (rests j).2.2 with same | fresh
    · rwa [same]
    · rw [fresh, present]
      exact fun same => Bool.noConfusion (Option.some.inj same)
  rw [← made]
  refine ⟨⟨?_, ?_, ?_, ?_, ?_, ?_⟩, ?_, ?_, ?_, ?_⟩
  · intro j
    rw [(rests j).1]
    exact contended.suffix j
  · intro j
    rw [(rests j).1, (rests j).2.1]
    exact contended.warned j
  · intro j
    rw [(rests j).1, (rests j).2.1]
    exact contended.failed j
  · intro node
    rw [Cli.held, builders, served]
    exact contended.held node
  · rw [builders, served]
    exact contended.present
  · rw [builders]
    exact contended.frame
  · intro j answered
    rw [builders]
    rcases (rests j).2.2 with same | fresh
    · exact contended.known j (same.symm.trans answered)
    · exact Option.some.inj (fresh.symm.trans answered)
  · intro j
    rw [lost, builders]
    refine ⟨(contended.once j).1, fun some => ?_⟩
    obtain ⟨present, right⟩ := (contended.once j).2 some
    exact ⟨present, unfounded j present right⟩
  · intro old j
    obtain ⟨none, right⟩ := contended.kept old j
    rw [lost]
    exact ⟨none, unfounded j (contended.present.mpr (Or.inl old)) right⟩
  · rw [builders]
    intro present
    rcases contended.first present with old | ⟨j, none, right⟩
    · exact Or.inl old
    · exact Or.inr ⟨j, (lost j).trans none, unfounded j present right⟩

omit [DecidableEq ι] in
/-- A platform is compatible with what the builder holds, at any moment. -/
theorem Tracked.compatible (tracked : Tracked docker faults plan name socketDir before state)
    (own : ∀ i, ∀ platform ∈ plan i, ∀ node ∈ docker.held before name,
      node.endpoint = (Node.of socketDir platform).endpoint → node.platform = platform)
    (apart : ∀ i, ∀ platform ∈ plan i, ∀ j, ∀ other ∈ plan j,
      socketOf socketDir platform = socketOf socketDir other → platform = other)
    {i : ι} {platform : String} (asked : platform ∈ plan i) :
    ∀ node ∈ docker.held state.world name,
      node.endpoint = (Node.of socketDir platform).endpoint → node.platform = platform := by
  intro node listed same
  rcases (tracked.held node).mp listed with old | ⟨j, other, ⟨planned, -⟩, rfl⟩
  · exact own i platform asked node old same
  · exact apart j other planned i platform asked ((String.append_right_inj "unix://").mp same)

/-- What the end of a `create` makes of what has been served. -/
theorem someServed_create (distinct : ∀ i, (plan i).Nodup)
    (tracked : Tracked docker faults plan name socketDir before state) {i : ι}
    {platform : String} {rest : List String}
    (pending : (state.registrars i).pending = platform :: rest) {success : Bool}
    (made : next.registrars = Function.update state.registrars i
      ⟨rest, none, (state.registrars i).warned ++ if success then [] else [platform]⟩)
    (property : String → Prop) :
    SomeServed plan next property ↔
      SomeServed plan state property ∨ (success = true ∧ property platform) := by
  have fresh : platform ∉ (state.registrars i).warned := by
    intro warned
    apply (tracked.warned i platform warned).2
    rw [pending]
    exact List.mem_cons_self
  have advance := served_advance (distinct i) (tracked.suffix i) pending fresh success
  unfold SomeServed
  rw [made]
  constructor
  · intro both
    obtain ⟨j, other, served, holds⟩ := both
    by_cases same : j = i
    · subst same
      rw [Function.update_self] at served
      rcases (advance other).mp served with old | ⟨succeeds, rfl⟩
      · exact Or.inl ⟨j, other, old, holds⟩
      · exact Or.inr ⟨succeeds, holds⟩
    · rw [Function.update_of_ne same] at served
      exact Or.inl ⟨j, other, served, holds⟩
  · intro either
    rcases either with ⟨j, other, served, holds⟩ | ⟨succeeds, holds⟩
    · refine ⟨j, other, ?_, holds⟩
      by_cases same : j = i
      · subst same
        rw [Function.update_self]
        exact (advance other).mpr (Or.inl served)
      · rw [Function.update_of_ne same]
        exact served
    · refine ⟨i, platform, ?_, holds⟩
      rw [Function.update_self]
      exact (advance platform).mpr (Or.inr ⟨succeeds, rfl⟩)

/-- A `create` that succeeds adds the node of its platform, and one that fails nothing. -/
theorem Tracked.create (distinct : ∀ i, (plan i).Nodup)
    (tracked : Tracked docker faults plan name socketDir before state) {i : ι} {platform : String}
    {rest : List String} (pending : (state.registrars i).pending = platform :: rest)
    {success : Bool}
    (made : next.registrars = Function.update state.registrars i
      ⟨rest, none, (state.registrars i).warned ++ if success then [] else [platform]⟩)
    (builders : docker.builder next.world = if success then
        Function.update (docker.builder state.world) name
          (some (insert (Node.of socketDir platform) (docker.held state.world name)))
      else docker.builder state.world)
    (faulty : faults i platform ≠ none → success = false) :
    Tracked docker faults plan name socketDir before next := by
  have suffix := tracked.suffix i
  rw [pending] at suffix
  have asked : platform ∈ plan i := suffix.mem List.mem_cons_self
  have once : platform ∉ rest := (List.nodup_cons.mp ((distinct i).sublist suffix.sublist)).1
  have served := someServed_create distinct tracked pending made
  have others : ∀ j, j ≠ i → next.registrars j = state.registrars j := by
    intro j different
    rw [made, Function.update_of_ne different]
  have here : next.registrars i = ⟨rest, none, (state.registrars i).warned ++
      if success then [] else [platform]⟩ := by
    rw [made, Function.update_self]
  refine ⟨?_, ?_, ?_, ?_, ?_, ?_⟩
  · intro j
    by_cases same : j = i
    · rw [same, here]
      exact (List.suffix_cons platform rest).trans suffix
    · rw [others j same]
      exact tracked.suffix j
  · intro j other warned
    by_cases same : j = i
    · subst same
      rw [here] at warned ⊢
      rcases List.mem_append.mp warned with old | new
      · obtain ⟨planned, taken⟩ := tracked.warned j other old
        rw [pending] at taken
        exact ⟨planned, fun later => taken (List.mem_cons_of_mem _ later)⟩
      · cases success with
        | true => cases new
        | false =>
            cases List.mem_singleton.mp new
            exact ⟨asked, once⟩
    · rw [others j same] at warned ⊢
      exact tracked.warned j other warned
  · intro j other planned taken fault
    by_cases same : j = i
    · subst same
      rw [here] at taken ⊢
      by_cases now : other = platform
      · subst now
        rw [faulty fault]
        exact List.mem_append_right _ List.mem_cons_self
      · apply List.mem_append_left
        apply tracked.failed j other planned _ fault
        rw [pending]
        exact List.not_mem_cons_of_ne_of_not_mem now taken
    · rw [others j same] at taken ⊢
      exact tracked.failed j other planned taken fault
  · intro node
    rw [served, ← or_assoc, ← tracked.held, Cli.held, builders]
    cases success with
    | true =>
        simp only [↓reduceIte, Function.update_self, Option.getD_some, Finset.mem_insert, true_and]
        exact or_comm
    | false => simp only [Bool.false_eq_true, ↓reduceIte, false_and, or_false, Cli.held]
  · rw [served, ← or_assoc, ← tracked.present, builders]
    cases success with
    | true => simp only [↓reduceIte, Function.update_self, Option.isSome_some, and_self, or_true]
    | false => simp only [Bool.false_eq_true, ↓reduceIte, false_and, or_false]
  · intro other different
    rw [builders, ← tracked.frame other different]
    cases success with
    | true =>
        rw [if_pos rfl]
        exact Function.update_of_ne different _ _
    | false => rfl

/-- With the end of a `create` its platform is served, or failed, or lost to whoever has
made the builder since the answer. -/
theorem Contended.create (documented : docker.Documented) (exclusive : docker.Exclusive)
    (distinct : ∀ i, (plan i).Nodup)
    (own : ∀ i, ∀ platform ∈ plan i, ∀ node ∈ docker.held before name,
      node.endpoint = (Node.of socketDir platform).endpoint → node.platform = platform)
    (apart : ∀ i, ∀ platform ∈ plan i, ∀ j, ∀ other ∈ plan j,
      socketOf socketDir platform = socketOf socketDir other → platform = other)
    (contended : Contended docker faults plan name socketDir before state) {i : ι}
    (moved : step docker faults name socketDir state (.create i) = some next) :
    Contended docker faults plan name socketDir before next := by
  obtain ⟨platform, rest, append, ended, pending, answered, ran, made⟩ :=
    step_create_eq_some moved
  have asked : platform ∈ plan i := by
    apply (contended.suffix i).mem
    rw [pending]
    exact List.mem_cons_self
  have known : append = true → (docker.builder state.world name).isSome := by
    rintro rfl
    exact contended.known i answered
  obtain ⟨builders, faulty, late⟩ := create_spec documented exclusive known
    (contended.toTracked.compatible own apart asked) ran
  have tracked := contended.toTracked.create distinct pending made builders faulty
  have grows : (docker.builder state.world name).isSome →
      (docker.builder next.world name).isSome := by
    intro present
    rw [builders]
    split
    · rw [Function.update_self]
      rfl
    · exact present
  have larger : docker.held state.world name ⊆ docker.held next.world name := by
    intro node member
    rw [Cli.held, builders]
    split
    · rw [Function.update_self, Option.getD_some]
      exact Finset.mem_insert_of_mem member
    · exact member
  have others : ∀ j, j ≠ i → next.registrars j = state.registrars j := by
    intro j different
    rw [made, Function.update_of_ne different]
  have here : next.registrars i = ⟨rest, none, (state.registrars i).warned ++
      if ended.success then [] else [platform]⟩ := by
    rw [made, Function.update_self]
  have silent : (next.registrars i).answer ≠ some false := by
    rw [here]
    exact (Option.some_ne_none false).symm
  -- With the `create` others lose nothing, and this one only if it comes too late.
  have spared : ∀ j, j ≠ i → (next.lost docker faults name socketDir j).Sublist
      (state.lost docker faults name socketDir j) :=
    fun j different =>
      Registrar.lost_sublist larger (congrArg Registrar.warned (others j different))
  have lost : (next.lost docker faults name socketDir i).Sublist
        (state.lost docker faults name socketDir i) ∨
      (append = false ∧ (docker.builder state.world name).isSome ∧
        (next.lost docker faults name socketDir i).Sublist
          (state.lost docker faults name socketDir i ++ [platform])) := by
    rw [State.lost, here]
    by_cases tooLate : append = false ∧ (docker.builder state.world name).isSome
    · exact Or.inr ⟨tooLate.1, tooLate.2, Registrar.lost_late larger rest⟩
    · refine Or.inl (Registrar.lost_create larger rest fun failed sound => ?_)
      exact larger ((late failed sound).resolve_left tooLate)
  have punctual : (state.registrars i).answer ≠ some false →
      (next.lost docker faults name socketDir i).Sublist
        (state.lost docker faults name socketDir i) := by
    intro right
    apply lost.resolve_right
    rintro ⟨rfl, -⟩
    exact right answered
  have still : ∀ j, state.lost docker faults name socketDir j = [] →
      (state.registrars j).answer ≠ some false →
        next.lost docker faults name socketDir j = [] ∧
          (next.registrars j).answer ≠ some false := by
    intro j none right
    by_cases same : j = i
    · subst same
      exact ⟨List.sublist_nil.mp (none ▸ punctual right), silent⟩
    · rw [others j same]
      exact ⟨List.sublist_nil.mp (none ▸ spared j same), right⟩
  refine ⟨tracked, ?_, ?_, ?_, ?_⟩
  · intro j answer
    by_cases same : j = i
    · subst same
      rw [here] at answer
      cases answer
    · rw [others j same] at answer
      exact grows (contended.known j answer)
  · intro j
    by_cases same : j = i
    · subst same
      obtain ⟨few, only⟩ := contended.once j
      rcases lost with less | ⟨rfl, present, more⟩
      · refine ⟨less.length_le.trans few, fun some => ?_⟩
        exact ⟨grows (only fun none => some (List.sublist_nil.mp (none ▸ less))).1, silent⟩
      · have none : state.lost docker faults name socketDir j = [] := by
          by_contra some
          exact (only some).2 answered
        rw [none] at more
        exact ⟨more.length_le, fun _ => ⟨grows present, silent⟩⟩
    · obtain ⟨few, only⟩ := contended.once j
      have less := spared j same
      refine ⟨less.length_le.trans few, fun some => ?_⟩
      obtain ⟨present, right⟩ := only fun none => some (List.sublist_nil.mp (none ▸ less))
      rw [others j same]
      exact ⟨grows present, right⟩
  · intro old j
    obtain ⟨none, right⟩ := contended.kept old j
    exact still j none right
  · intro _
    by_cases present : (docker.builder state.world name).isSome
    · rcases contended.first present with old | ⟨j, none, right⟩
      · exact Or.inl old
      · exact Or.inr ⟨j, still j none right⟩
    · right
      have none : state.lost docker faults name socketDir i = [] := by
        by_contra some
        exact present ((contended.once i).2 some).1
      have unchanged := lost.resolve_right fun both => present both.2.1
      exact ⟨i, List.sublist_nil.mp (none ▸ unchanged), silent⟩

/-- In every reachable state each loop has lost at most one platform. -/
theorem Contended.of_reachable (documented : docker.Documented) (exclusive : docker.Exclusive)
    (distinct : ∀ i, (plan i).Nodup)
    (own : ∀ i, ∀ platform ∈ plan i, ∀ node ∈ docker.held before name,
      node.endpoint = (Node.of socketDir platform).endpoint → node.platform = platform)
    (apart : ∀ i, ∀ platform ∈ plan i, ∀ j, ∀ other ∈ plan j,
      socketOf socketDir platform = socketOf socketDir other → platform = other)
    (reachable : Transition.Reachable (step docker faults name socketDir) (Race.initial before plan)
      state) : Contended docker faults plan name socketDir before state := by
  refine reachable.invariant (fun earlier action later contended moved => ?_) Contended.initial
  cases action with
  | inspect i => exact contended.inspect documented moved
  | create i => exact contended.create documented exclusive distinct own apart moved

end Contended

/-- **The shared builder.** However the loops of any number of Mission Controls are
interleaved: at the end the builder has what it had and the node of every platform that no
warning has been logged for. What is made to fail is warned of. No loop loses more than one
platform to another loop, and none does where the builder has been there before; if one
loses a platform, there is one that loses none. -/
theorem shared_builder {docker : Cli World} (documented : docker.Documented)
    (exclusive : docker.Exclusive) (faults : ι → Faults) (plan : ι → List String)
    (distinct : ∀ i, (plan i).Nodup) (name socketDir : String) (before : World)
    (own : ∀ i, ∀ platform ∈ plan i, ∀ node ∈ docker.held before name,
      node.endpoint = (Node.of socketDir platform).endpoint → node.platform = platform)
    (apart : ∀ i, ∀ platform ∈ plan i, ∀ j, ∀ other ∈ plan j,
      socketOf socketDir platform = socketOf socketDir other → platform = other)
    {state : State World ι}
    (reachable : Transition.Reachable (step docker faults name socketDir) (initial before plan)
      state) (finished : state.Over) :
    (∀ node, node ∈ docker.held state.world name ↔ node ∈ docker.held before name ∨
      ∃ i, ∃ platform ∈ plan i, platform ∉ (state.registrars i).warned ∧
        node = Node.of socketDir platform) ∧
    (∀ other, other ≠ name → docker.builder state.world other = docker.builder before other) ∧
    (∀ i, ∀ platform ∈ plan i, faults i platform ≠ none →
      platform ∈ (state.registrars i).warned) ∧
    (∀ i, (state.lost docker faults name socketDir i).length ≤ 1) ∧
    ((docker.builder before name).isSome →
      ∀ i, state.lost docker faults name socketDir i = []) ∧
    ((∃ i, state.lost docker faults name socketDir i ≠ []) →
      ∃ i, state.lost docker faults name socketDir i = []) := by
  have contended := Contended.of_reachable documented exclusive distinct own apart reachable
  have taken : ∀ i platform, platform ∉ (state.registrars i).pending := by
    intro i platform listed
    rw [finished i] at listed
    cases listed
  refine ⟨?_, contended.frame, ?_, ?_, ?_, ?_⟩
  · intro node
    rw [contended.held]
    constructor
    · intro either
      rcases either with old | ⟨i, platform, ⟨asked, -, silent⟩, same⟩
      · exact Or.inl old
      · exact Or.inr ⟨i, platform, asked, silent, same⟩
    · intro either
      rcases either with old | ⟨i, platform, asked, silent, same⟩
      · exact Or.inl old
      · exact Or.inr ⟨i, platform, ⟨asked, taken i platform, silent⟩, same⟩
  · intro i platform asked
    exact contended.failed i platform asked (taken i platform)
  · exact fun i => (contended.once i).1
  · exact fun old i => (contended.kept old i).1
  · intro both
    obtain ⟨i, some⟩ := both
    have present := ((contended.once i).2 some).1
    rcases contended.first present with old | ⟨j, none, -⟩
    · exact (some (contended.kept old i).1).elim
    · exact ⟨j, none⟩

/-- The command that keeps the builders creates none twice. -/
theorem keeping_exclusive : Cli.keeping.Exclusive := by
  intro name endpoint platform world present
  obtain ⟨nodes, held⟩ := Option.isSome_iff_exists.mp present
  simp only [Cli.keeping] at held
  simp only [Cli.keeping, held]
  exact ⟨rfl, trivial⟩

/-- Two Mission Controls, for one platform each. -/
def twoPlans : Bool → List String
  | true => ["linux/amd64"]
  | false => ["linux/arm64"]

/-- Both find no builder, and the second `create` fails. -/
theorem bothInspect_lost :
    ∃ state, Transition.Reachable (step Cli.keeping (fun _ _ => none) "orbit" "/tmp")
        (initial (fun _ => none) twoPlans) state ∧
      (state.registrars false).warned = ["linux/arm64"] ∧
      ∀ node, node ∈ Cli.keeping.held state.world "orbit" ↔
        ∃ i, ∃ platform ∈ twoPlans i, platform ∉ (state.registrars i).warned ∧
          node = Node.of "/tmp" platform := by
  have reached : Transition.Reachable (step Cli.keeping (fun _ _ => none) "orbit" "/tmp")
      (initial (fun _ => none) twoPlans) _ :=
    ⟨[.inspect true, .inspect false, .create true, .create false], rfl⟩
  obtain ⟨held, -⟩ := shared_builder Cli.keeping_documented keeping_exclusive _ twoPlans
    (by decide) "orbit" "/tmp" _ (fun _ _ _ _ listed => (Finset.notMem_empty _ listed).elim)
    (by decide) reached (by unfold State.Over; decide)
  refine ⟨_, reached, rfl, fun node => (held node).trans ?_⟩
  exact or_iff_right (Finset.notMem_empty _)

end Race

end Docker

end OrbitBuild
