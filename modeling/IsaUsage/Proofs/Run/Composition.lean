import IsaUsage.Proofs.Run.Call
import IsaUsage.Proofs.Run.Kernel
import IsaUsage.Proofs.Run.Pipeline
import IsaUsage.Proofs.Tool.Translation
import IsaUsage.Proofs.Usage.Total

namespace IsaUsage

/-!
# Runs one after the other

A run of some kernels and then of others is a run of the first ones followed by a
run of the others, apart from the event that closes a run. A run that fails
therefore ends at one kernel: those before it are done as in a run of their own,
and those after it have no say in anything.
-/

open IsaUsage.Action

/-- Whether an emission is the event that closes a run. -/
def Emission.isClosing : Emission → Bool
  | .logged (.documentDone _ _) => true
  | _ => false

/-- Effects that are the same apart from events that close a run. -/
structure Effect.SameButClosing (left right : Effect Memory α) : Prop where
  outcome_eq : left.outcome = right.outcome
  world_eq : left.world = right.world
  emissions_eq :
    left.emissions.filter (fun emission => !emission.isClosing) =
      right.emissions.filter fun emission => !emission.isClosing

namespace Effect.SameButClosing

theorem refl (effect : Effect Memory α) : SameButClosing effect effect :=
  ⟨rfl, rfl, rfl⟩

/-- What follows the same action may differ in events that close a run. -/
theorem bind
    {action : Action Memory α}
    {leftNext rightNext : α → Action Memory β}
    {world : World Memory}
    (same : ∀ value world,
      SameButClosing (leftNext value world) (rightNext value world)) :
    SameButClosing ((action >>= leftNext) world)
      ((action >>= rightNext) world) := by
  rw [bind_apply, bind_apply]
  cases (action world).outcome with
  | error error =>
      exact refl _
  | ok value =>
      obtain ⟨outcome, after, emissions⟩ := same value (action world).world
      exact ⟨outcome, after, by simp [emissions]⟩

/-- A closing event can be left out. -/
theorem skip_closing
    {left right : Action Memory α}
    {kernels : Nat}
    {totals : UsageRecord}
    {world : World Memory}
    (same : SameButClosing (left world) (right world)) :
    SameButClosing (left world)
      ((Action.log (.documentDone kernels totals) >>= fun _ => right)
        world) := by
  obtain ⟨outcome, after, emissions⟩ := same
  refine ⟨outcome, after, emissions.trans ?_⟩
  rfl

end Effect.SameButClosing

namespace Pipeline

/-- Run two documents one after the other; together they have one summary. -/
def runInTurn
    (pipeline : Pipeline Memory)
    (onKernel : KernelUsage → Action Memory Unit)
    (first second : Document) :
    Action Memory Summary := do
  let earlier ← pipeline.runDocument onKernel first
  let later ← pipeline.runDocument onKernel second
  return earlier ++ later

/-- The calls of two runs one after the other. -/
def callsInTurn
    (pipeline : Pipeline Memory)
    (onKernel : KernelUsage → Action Memory Unit)
    (first second : Document)
    (world : World Memory) :
    List Call :=
  let earlier := pipeline.runDocument onKernel first world
  pipeline.calls onKernel first world ++
    match earlier.outcome with
    | .ok _ => pipeline.calls onKernel second earlier.world
    | .error _ => []

variable {pipeline : Pipeline Memory}
  {onKernel : KernelUsage → Action Memory Unit}

/-- What was summed up before an artifact stays in front. -/
theorem advance_append
    (earlier summary : Summary)
    (artifact : String × String) :
    pipeline.advance onKernel (earlier ++ summary) artifact =
      (earlier ++ ·) <$> pipeline.advance onKernel summary artifact := by
  unfold advance
  simp only [map_bind, map_pure, Summary.append_push]

/-- What was done before a run goes in front of what the run does. -/
theorem runArtifacts_append_summary
    (earlier summary : Summary)
    (artifacts : List (String × String)) :
    pipeline.runArtifacts onKernel (earlier ++ summary) artifacts =
      (earlier ++ ·) <$> pipeline.runArtifacts onKernel summary artifacts := by
  induction artifacts generalizing summary with
  | nil =>
      exact (map_pure _ _).symm
  | cons artifact artifacts inductionHypothesis =>
      have continued (next : Summary) :
          pipeline.runArtifacts onKernel (earlier ++ next) artifacts =
            (earlier ++ ·) <$> pipeline.runArtifacts onKernel next artifacts :=
        inductionHypothesis next
      rw [runArtifacts, List.foldlM_cons, advance_append, bind_map_left]
      simp only [runArtifacts] at continued
      simp only [continued, runArtifacts, List.foldlM_cons, map_bind]

/-- What was summed up before a loop stays in front. -/
theorem runArtifacts_eq_map
    (summary : Summary)
    (artifacts : List (String × String)) :
    pipeline.runArtifacts onKernel summary artifacts =
      (summary ++ ·) <$> pipeline.runArtifacts onKernel .empty artifacts := by
  rw [← runArtifacts_append_summary, Summary.append_empty]

/-- A loop over artifacts goes on from its first part. -/
theorem runArtifacts_append
    (summary : Summary)
    (first second : List (String × String)) :
    pipeline.runArtifacts onKernel summary (first ++ second) =
      pipeline.runArtifacts onKernel summary first >>= fun next =>
        pipeline.runArtifacts onKernel next second :=
  List.foldlM_append

/-- A run of two lists of kernels is a run of both in turn. -/
theorem sameButClosing_runInTurn
    (preamble : String)
    (first second : List KernelBlock)
    (world : World Memory) :
    Effect.SameButClosing
      (pipeline.runDocument onKernel ⟨preamble, first ++ second⟩ world)
      (pipeline.runInTurn onKernel ⟨preamble, first⟩ ⟨preamble, second⟩
        world) := by
  have artifacts : Document.artifacts ⟨preamble, first ++ second⟩ =
      Document.artifacts ⟨preamble, first⟩ ++
        Document.artifacts ⟨preamble, second⟩ :=
    List.map_append
  unfold runInTurn runDocument
  rw [artifacts, runArtifacts_append]
  simp only [bind_assoc]
  apply Effect.SameButClosing.bind
  intro earlier world
  rw [runArtifacts_eq_map earlier, bind_map_left]
  simp only [pure_bind]
  apply Effect.SameButClosing.skip_closing
  apply Effect.SameButClosing.bind
  intro later world
  exact ⟨rfl, rfl, rfl⟩

/-- The calls of a run of two lists of kernels are those of both in turn. -/
theorem calls_append
    (preamble : String)
    (first second : List KernelBlock)
    (world : World Memory) :
    pipeline.calls onKernel ⟨preamble, first ++ second⟩ world =
      pipeline.callsInTurn onKernel ⟨preamble, first⟩ ⟨preamble, second⟩
        world := by
  have inTurn := (@sameButClosing_runInTurn _ pipeline.watched
    (watching onKernel) preamble first second world.recording).world_eq
  have closing (earlier : Summary) :
      Notes
        (do
          let later ← pipeline.watched.runDocument (watching onKernel)
            ⟨preamble, second⟩
          return earlier ++ later)
        (do
          let later ← pipeline.runDocument onKernel ⟨preamble, second⟩
          return earlier ++ later) :=
    Notes.isCongruence.bind (notes_runDocument _) fun _ =>
      Notes.isCongruence.pure _
  refine (congrArg (fun world => world.memory.2) inTurn).trans ?_
  refine (Notes.entries_bind (notes_runDocument _) closing world).trans ?_
  refine congrArg _ ?_
  cases (pipeline.runDocument onKernel ⟨preamble, first⟩ world).outcome with
  | error error =>
      rfl
  | ok earlier =>
      refine (Notes.entries_bind (notes_runDocument _)
        (fun _ => Notes.isCongruence.pure _) _).trans ?_
      dsimp only
      split <;> simp [calls]

section InTurn

variable {preamble : String} {first : List KernelBlock} {world : World Memory}

/-- A run goes on from where a run of its first kernels ends. -/
theorem runDocument_append_of_ok
    {earlier : Summary}
    (done : (pipeline.runDocument onKernel ⟨preamble, first⟩ world).outcome =
      .ok earlier)
    (second : List KernelBlock) :
    let rest := pipeline.runDocument onKernel ⟨preamble, second⟩
      (pipeline.runDocument onKernel ⟨preamble, first⟩ world).world
    (pipeline.runDocument onKernel ⟨preamble, first ++ second⟩ world).outcome =
        (earlier ++ ·) <$> rest.outcome ∧
      (pipeline.runDocument onKernel ⟨preamble, first ++ second⟩ world).world =
        rest.world := by
  intro rest
  obtain ⟨outcome, after, -⟩ := @sameButClosing_runInTurn _ pipeline onKernel
    preamble first second world
  obtain ⟨turnOutcome, turnAfter⟩ := @bind_of_ok _ _ _ _
    (fun earlier => do
      let later ← pipeline.runDocument onKernel ⟨preamble, second⟩
      return earlier ++ later) _ _ done
  rw [outcome, after]
  refine ⟨turnOutcome.trans ?_, turnAfter.trans ?_⟩
  · rw [bind_apply]
    cases rest.outcome <;> rfl
  · rw [bind_apply]
    cases rest.outcome <;> rfl

/-- A run ends with its first kernels if those cannot be done. -/
theorem runDocument_append_of_error
    {error : RunError}
    (failed : (pipeline.runDocument onKernel ⟨preamble, first⟩
      world).outcome = .error error)
    (second : List KernelBlock) :
    (pipeline.runDocument onKernel ⟨preamble, first ++ second⟩ world).outcome =
        .error error ∧
      (pipeline.runDocument onKernel ⟨preamble, first ++ second⟩ world).world =
        (pipeline.runDocument onKernel ⟨preamble, first⟩ world).world := by
  obtain ⟨outcome, after, -⟩ := @sameButClosing_runInTurn _ pipeline onKernel
    preamble first second world
  rw [outcome, after]
  exact bind_of_error failed

/-- A run that succeeds has done its first kernels and then the others. -/
theorem exists_of_runDocument_append
    {second : List KernelBlock}
    {summary : Summary}
    (done : (pipeline.runDocument onKernel ⟨preamble, first ++ second⟩
      world).outcome = .ok summary) :
    ∃ earlier later,
      (pipeline.runDocument onKernel ⟨preamble, first⟩ world).outcome =
          .ok earlier ∧
        (pipeline.runDocument onKernel ⟨preamble, second⟩
          (pipeline.runDocument onKernel ⟨preamble, first⟩
            world).world).outcome = .ok later ∧
        summary = earlier ++ later := by
  cases here : (pipeline.runDocument onKernel ⟨preamble, first⟩
      world).outcome with
  | error error =>
      rw [(runDocument_append_of_error here second).1] at done
      contradiction
  | ok earlier =>
      rw [(runDocument_append_of_ok here second).1] at done
      cases there : (pipeline.runDocument onKernel ⟨preamble, second⟩
          (pipeline.runDocument onKernel ⟨preamble, first⟩
            world).world).outcome with
      | error error =>
          rw [there] at done
          contradiction
      | ok later =>
          rw [there] at done
          cases done
          exact ⟨earlier, later, rfl, rfl, rfl⟩

end InTurn

/-! ## One kernel -/

section Single

variable {preamble name artifact : String} {block : KernelBlock}
  {world : World Memory} {error : RunError}

/-- A run of one kernel does this one kernel. -/
theorem runDocument_single
    (preamble : String)
    (block : KernelBlock)
    (world : World Memory) :
    (pipeline.runDocument onKernel ⟨preamble, [block]⟩ world).outcome =
        (pipeline.advance onKernel .empty
          (block.name, block.artifact preamble) world).outcome ∧
      (pipeline.runDocument onKernel ⟨preamble, [block]⟩ world).world =
        (pipeline.advance onKernel .empty
          (block.name, block.artifact preamble) world).world := by
  have single : pipeline.runArtifacts onKernel .empty
      (Document.artifacts ⟨preamble, [block]⟩) =
        pipeline.advance onKernel .empty (block.name, block.artifact preamble) :=
    bind_pure _
  rw [← single]
  exact runDocument_eq _ world

theorem calls_single
    (preamble : String)
    (block : KernelBlock)
    (world : World Memory) :
    pipeline.calls onKernel ⟨preamble, [block]⟩ world =
      (pipeline.watched.advance (watching onKernel) .empty
        (block.name, block.artifact preamble)).entries world :=
  congrArg (fun world : World (Memory × List Call) => world.memory.2)
    (@runDocument_single _ pipeline.watched (watching onKernel) preamble block
      world.recording).2

/-- The usage of a kernel is named after it. -/
theorem kernel_of_process
    {usage : KernelUsage}
    (built : (pipeline.process name artifact world).outcome = .ok usage) :
    usage.kernel = name := by
  obtain ⟨_, -, rest, -⟩ := bind_eq_ok built
  obtain ⟨_, -, rest, -⟩ := bind_eq_ok rest
  obtain ⟨_, -, rest, -⟩ := bind_eq_ok rest
  obtain ⟨_, -, rest, -⟩ := bind_eq_ok rest
  cases rest
  rfl

/-- The caller is told of a kernel once it is built. -/
theorem entries_advance (summary : Summary) :
    (pipeline.watched.advance (watching onKernel) summary
        (name, artifact)).entries world =
      (pipeline.watched.process name artifact).entries world ++
        match (pipeline.process name artifact world).outcome with
        | .error _ => []
        | .ok usage => [.told usage] := by
  refine (Notes.entries_bind (notes_process name artifact) (fun usage =>
    Notes.isCongruence.bind (Notes.noting _ (onKernel usage)) fun _ =>
      Notes.isCongruence.pure _) world).trans (congrArg _ ?_)
  cases (pipeline.process name artifact world).outcome with
  | error error =>
      rfl
  | ok usage =>
      refine (Notes.entries_bind (Notes.noting _ (onKernel usage))
        (fun _ => Notes.isCongruence.pure _) _).trans ?_
      split <;> rfl

/-- How a kernel fails, in which world, and of what the caller was told. -/
inductive Fails
    (pipeline : Pipeline Memory)
    (onKernel : KernelUsage → Action Memory Unit)
    (name artifact : String)
    (world : World Memory)
    (error : RunError) :
    World Memory → List KernelUsage → Prop where
  /-- The kernel could not be built, and the caller never heard of it. -/
  | building
      (failed : (pipeline.process name artifact world).outcome =
        .error error) :
      Fails pipeline onKernel name artifact world error
        (pipeline.process name artifact world).world []
  /-- The kernel was built, and the caller refused it. -/
  | telling
      (usage : KernelUsage)
      (built : (pipeline.process name artifact world).outcome = .ok usage)
      (refused : (onKernel usage
        (pipeline.process name artifact world).world).outcome =
          .error error) :
      Fails pipeline onKernel name artifact world error
        (onKernel usage (pipeline.process name artifact world).world).world
        [usage]

/-- A kernel that ends a run was not built, or it was refused. -/
theorem exists_fails
    (failed : (pipeline.runDocument onKernel ⟨preamble, [block]⟩
      world).outcome = .error error) :
    ∃ told,
      pipeline.Fails onKernel block.name (block.artifact preamble) world error
          (pipeline.runDocument onKernel ⟨preamble, [block]⟩ world).world
          told ∧
        (∀ usage ∈ told, usage.kernel = block.name) ∧
        pipeline.calls onKernel ⟨preamble, [block]⟩ world =
          (pipeline.watched.process block.name
            (block.artifact preamble)).entries world ++ told.map .told := by
  obtain ⟨outcome, after⟩ := @runDocument_single _ pipeline onKernel preamble
    block world
  rw [outcome] at failed
  rw [after, calls_single, entries_advance]
  cases built : (pipeline.process block.name (block.artifact preamble)
      world).outcome with
  | error other =>
      obtain ⟨sameError, sameWorld⟩ := @advance_of_error _ pipeline onKernel
        .empty (block.name, block.artifact preamble) world other built
      rw [sameError, Except.error.injEq] at failed
      subst other
      rw [sameWorld]
      exact ⟨[], .building built, by simp, rfl⟩
  | ok usage =>
      cases heard : (onKernel usage (pipeline.process block.name
          (block.artifact preamble) world).world).outcome with
      | error other =>
          obtain ⟨sameError, sameWorld⟩ := @advance_of_refused _ pipeline
            onKernel .empty (block.name, block.artifact preamble) usage world
            other built heard
          rw [sameError, Except.error.injEq] at failed
          subst other
          rw [sameWorld]
          exact ⟨[usage], .telling usage built heard,
            by simpa using kernel_of_process built, rfl⟩
      | ok _ =>
          rw [(advance_of_taken built heard).1] at failed
          contradiction

/-- A kernel that a run has done is in its summary, and the caller knows it. -/
theorem exists_of_runDocument_single
    {summary : Summary}
    (done : (pipeline.runDocument onKernel ⟨preamble, [block]⟩
      world).outcome = .ok summary) :
    ∃ usage,
      summary = Summary.empty.push usage ∧
        usage.kernel = block.name ∧
        pipeline.calls onKernel ⟨preamble, [block]⟩ world =
          (pipeline.watched.process block.name
            (block.artifact preamble)).entries world ++ [.told usage] := by
  rw [(runDocument_single preamble block world).1] at done
  obtain ⟨usage, built, rfl, -⟩ := advance_eq_ok done
  refine ⟨usage, rfl, kernel_of_process built, ?_⟩
  rw [calls_single, entries_advance, built]

end Single

/-! ## Many kernels -/

section Whole

variable {preamble : String} {kernels : List KernelBlock}
  {world : World Memory} {error : RunError}

theorem filterMap_told?_entries_process (name artifact : String) :
    ((pipeline.watched.process name artifact).entries world).filterMap
      Call.told? = [] :=
  List.prefix_nil.mp ((entries_process name artifact world).filterMap _)

/-- A run that succeeds has told the caller of every kernel, in order. -/
theorem told_of_runDocument
    {summary : Summary}
    (done : (pipeline.runDocument onKernel ⟨preamble, kernels⟩ world).outcome =
      .ok summary) :
    summary.kernels.map KernelUsage.kernel = kernels.map KernelBlock.name ∧
      (pipeline.calls onKernel ⟨preamble, kernels⟩ world).filterMap Call.told? =
        summary.kernels := by
  induction kernels generalizing world summary with
  | nil =>
      cases done
      exact ⟨rfl, rfl⟩
  | cons block rest inductionHypothesis =>
      rw [← List.singleton_append] at done ⊢
      obtain ⟨first, others, firstDone, othersDone, rfl⟩ :=
        exists_of_runDocument_append done
      obtain ⟨usage, rfl, named, told⟩ :=
        exists_of_runDocument_single firstDone
      obtain ⟨othersNamed, othersTold⟩ := inductionHypothesis othersDone
      constructor
      · simp [Summary.push, Summary.empty, named, othersNamed]
      · rw [calls_append, callsInTurn, firstDone, told]
        simp [filterMap_told?_entries_process, othersTold, Summary.push,
          Summary.empty, Call.told?]

/-- A run that fails does so at one kernel, after it has done all before. -/
theorem exists_first_failure
    (failed : (pipeline.runDocument onKernel ⟨preamble, kernels⟩
      world).outcome = .error error) :
    ∃ earlier block later done,
      kernels = earlier ++ block :: later ∧
        (pipeline.runDocument onKernel ⟨preamble, earlier⟩ world).outcome =
          .ok done ∧
        (pipeline.runDocument onKernel ⟨preamble, [block]⟩
          (pipeline.runDocument onKernel ⟨preamble, earlier⟩
            world).world).outcome = .error error := by
  induction kernels generalizing world with
  | nil =>
      cases failed
  | cons block rest inductionHypothesis =>
      rw [← List.singleton_append] at failed
      cases here : (pipeline.runDocument onKernel ⟨preamble, [block]⟩
          world).outcome with
      | error other =>
          rw [(runDocument_append_of_error here rest).1,
            Except.error.injEq] at failed
          subst other
          exact ⟨[], block, rest, .empty, rfl, rfl, here⟩
      | ok first =>
          rw [(runDocument_append_of_ok here rest).1] at failed
          cases there : (pipeline.runDocument onKernel ⟨preamble, rest⟩
              (pipeline.runDocument onKernel ⟨preamble, [block]⟩
                world).world).outcome with
          | ok others =>
              rw [there] at failed
              contradiction
          | error other =>
              rw [there] at failed
              cases failed
              obtain ⟨earlier, failing, later, done, rfl, earlierDone,
                failedHere⟩ := inductionHypothesis there
              obtain ⟨outcome, after⟩ := runDocument_append_of_ok here earlier
              rw [earlierDone] at outcome
              rw [← after] at failedHere
              exact ⟨block :: earlier, failing, later, first ++ done, rfl,
                outcome, failedHere⟩

/--
A run ends at a kernel that fails: those before it are done as in a run of their
own, and those after it have no say in anything.
-/
structure EndsAt
    (pipeline : Pipeline Memory)
    (onKernel : KernelUsage → Action Memory Unit)
    (preamble : String)
    (earlier : List KernelBlock)
    (block : KernelBlock)
    (world : World Memory)
    (error : RunError)
    (done : Summary)
    (told : List KernelUsage)
    (final : World Memory) :
    Prop where
  earlier_done :
    (pipeline.runDocument onKernel ⟨preamble, earlier⟩ world).outcome =
      .ok done
  earlier_kernels :
    done.kernels.map KernelUsage.kernel = earlier.map KernelBlock.name
  earlier_told :
    (pipeline.calls onKernel ⟨preamble, earlier⟩ world).filterMap Call.told? =
      done.kernels
  /-- The kernel fails where the run of those before it has ended. -/
  fails :
    pipeline.Fails onKernel block.name (block.artifact preamble)
      (pipeline.runDocument onKernel ⟨preamble, earlier⟩ world).world error
      final told
  told_kernel : ∀ usage ∈ told, usage.kernel = block.name
  /-- Whatever follows, this is how the run ends, and nobody hears of more. -/
  ends :
    ∃ asked,
      asked <+: [.commandLine block.name,
          .sourcePath pipeline.outputDirectory block.name,
          .isaReport block.name pipeline.outputDirectory] ∧
        ∀ later,
          let run := pipeline.runDocument onKernel
            ⟨preamble, earlier ++ block :: later⟩ world
          run.outcome = .error error ∧
            run.world = final ∧
            pipeline.calls onKernel ⟨preamble, earlier ++ block :: later⟩
                world =
              pipeline.calls onKernel ⟨preamble, earlier⟩ world ++
                (asked ++ told.map .told)

/-- A run ends at a kernel that fails after others have succeeded. -/
theorem exists_endsAt
    {earlier : List KernelBlock}
    {block : KernelBlock}
    {done : Summary}
    (earlierDone : (pipeline.runDocument onKernel ⟨preamble, earlier⟩
      world).outcome = .ok done)
    (failed : (pipeline.runDocument onKernel ⟨preamble, [block]⟩
      (pipeline.runDocument onKernel ⟨preamble, earlier⟩
        world).world).outcome = .error error) :
    ∃ told final,
      pipeline.EndsAt onKernel preamble earlier block world error done told
        final := by
  obtain ⟨told, fails, toldKernel, calls⟩ := exists_fails failed
  obtain ⟨named, heard⟩ := told_of_runDocument earlierDone
  refine ⟨told, _, earlierDone, named, heard, fails, toldKernel, _,
    entries_process block.name (block.artifact preamble)
      (pipeline.runDocument onKernel ⟨preamble, earlier⟩ world).world,
    fun later => ?_⟩
  obtain ⟨outcome, after⟩ :=
    runDocument_append_of_ok earlierDone (block :: later)
  obtain ⟨blockOutcome, blockAfter⟩ := runDocument_append_of_error failed later
  rw [List.singleton_append] at blockOutcome blockAfter
  rw [blockOutcome] at outcome
  refine ⟨outcome, after.trans blockAfter, ?_⟩
  rw [calls_append, callsInTurn, earlierDone]
  refine congrArg _ ?_
  rw [← List.singleton_append]
  dsimp only
  rw [calls_append, callsInTurn, failed, calls]
  exact List.append_nil _

/--
Running some kernels and then others is running all of them, and a run that
fails ends cleanly at the kernel that failed.
-/
theorem runDocument_composes
    (pipeline : Pipeline Memory)
    (onKernel : KernelUsage → Action Memory Unit)
    (preamble : String)
    (world : World Memory) :
    (∀ first second,
      Effect.SameButClosing
          (pipeline.runDocument onKernel ⟨preamble, first ++ second⟩ world)
          (pipeline.runInTurn onKernel ⟨preamble, first⟩ ⟨preamble, second⟩
            world) ∧
        pipeline.calls onKernel ⟨preamble, first ++ second⟩ world =
          pipeline.callsInTurn onKernel ⟨preamble, first⟩ ⟨preamble, second⟩
            world) ∧
      ∀ kernels error,
        (pipeline.runDocument onKernel ⟨preamble, kernels⟩ world).outcome =
            .error error →
          ∃ earlier block later done told final,
            kernels = earlier ++ block :: later ∧
              pipeline.EndsAt onKernel preamble earlier block world error done
                told final := by
  refine ⟨fun first second => ⟨sameButClosing_runInTurn preamble first second
    world, calls_append preamble first second world⟩, ?_⟩
  intro kernels error failed
  obtain ⟨earlier, block, later, done, shape, earlierDone, blockFailed⟩ :=
    exists_first_failure failed
  obtain ⟨told, final, endsAt⟩ := exists_endsAt earlierDone blockFailed
  exact ⟨earlier, block, later, done, told, final, shape, endsAt⟩

end Whole
end Pipeline

/-- A caller that takes one kernel and refuses the next. -/
def takeOne (_ : KernelUsage) : Action Bool Unit :=
  fun world =>
    if world.memory then ⟨.error (.failed .notUtf8), world, []⟩
    else ⟨.ok (), { world with memory := true }, []⟩

/-- Two kernels of one name and with different texts. -/
def namesakes : List KernelBlock :=
  [⟨"b", "__kernel void b\n"⟩, ⟨"b", "__kernel void b;\n"⟩]

open HsailToolchain FileSystem in
/-- Two kernels of one name, and a listener that takes one usage. -/
theorem runDocument_composes_namesakes :
    let pipeline : Pipeline Bool := copying.pipeline ⟨"w"⟩
    let world : World Bool := ⟨workshop, false⟩
    (pipeline.runDocument takeOne ⟨"", namesakes⟩ world).outcome =
        .error (.failed .notUtf8) ∧
      ∃ earlier block later done told final,
        namesakes = earlier ++ block :: later ∧
          pipeline.EndsAt takeOne "" earlier block world (.failed .notUtf8)
            done told final := by
  intro pipeline world
  have failed : (pipeline.runDocument takeOne ⟨"", namesakes⟩ world).outcome =
      .error (.failed .notUtf8) := by
    decide +kernel
  exact ⟨failed,
    (Pipeline.runDocument_composes pipeline takeOne "" world).2 _ _ failed⟩

open HsailToolchain FileSystem in
/--
What a kernel that fails leaves may be in the way of a kernel before it: both
have the same files if they have the same name.
-/
theorem namesake_overwritten :
    let toolchain : HsailToolchain Bool := copying
    let run (kernels : List KernelBlock) :=
      (toolchain.pipeline ⟨"w"⟩).runDocument takeOne ⟨"", kernels⟩
        ⟨workshop, false⟩
    let source (kernels : List KernelBlock) :=
      (run kernels).world.files.readText toolchain.base
        (toolchain.config.sourcePath ⟨"w"⟩ "b")
    (run (namesakes.take 1)).outcome.isOk = true ∧
      (run namesakes).outcome = .error (.failed .notUtf8) ∧
      source (namesakes.take 1) = .ok "__kernel void b\n" ∧
      source namesakes = .ok "__kernel void b;\n" := by
  decide +kernel

end IsaUsage
