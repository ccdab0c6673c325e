import IsaUsage.Proofs.CommandLine.Survival
import IsaUsage.Proofs.Run.Build
import IsaUsage.Proofs.Run.Printing
import IsaUsage.Proofs.Toolchain.Environment
import Mathlib.Data.List.Basic

namespace IsaUsage.CommandLine

/-!
# Presentation

JSON, the detail of the log and the colors of names decide what is shown of a run,
and nothing else: the run itself is the same, down to the tools that it starts, and
whatever it shows is a view of one summary and one log (`execute_shows_one_run`).
Part of this is asked for by environment variables, which the tools inherit, so the
tools have to do the same whether they are set or not (`report_shows_environment`).
-/

open IsaUsage.Action

/-- The arguments without what they say about the presentation. -/
def Arguments.unpresented (given : Arguments) : Arguments :=
  { given with
    json := false
    verbosity := 0 }

/-- Command lines that differ at most in how a run is to be presented. -/
structure DifferInPresentation
    (leftEnvironment rightEnvironment : Environment)
    (leftArguments rightArguments : List String) :
    Prop where
  compiler_eq : leftEnvironment.compiler = rightEnvironment.compiler
  finalizer_eq : leftEnvironment.finalizer = rightEnvironment.finalizer
  given :
    ∃ left right,
      readArguments .splitter .none leftArguments = .ok left ∧
        readArguments .splitter .none rightArguments = .ok right ∧
        left.unpresented = right.unpresented

/-- The request for the same run in another presentation. -/
def SplitRequest.presentedAs
    (request : SplitRequest)
    (json : Bool)
    (verbosity : Nat) :
    SplitRequest :=
  { request with
    json := json
    verbosity := verbosity }

/-- Arguments that differ in presentation make requests that do. -/
theorem splitRequest_of_unpresented
    {leftEnvironment rightEnvironment : Environment}
    {left right : Arguments}
    {request : SplitRequest}
    (compiler : leftEnvironment.compiler = rightEnvironment.compiler)
    (finalizer : leftEnvironment.finalizer = rightEnvironment.finalizer)
    (same : left.unpresented = right.unpresented)
    (asked : splitRequest leftEnvironment left = .ok request) :
    splitRequest rightEnvironment right =
      .ok (request.presentedAs right.json right.verbosity) := by
  cases left
  cases right
  simp only [Arguments.unpresented, Arguments.mk.injEq, true_and] at same
  obtain ⟨rfl, rfl, rfl, rfl, rfl, -⟩ := same
  obtain ⟨source, named, asked⟩ := bind_eq_ok_iff.mp asked
  obtain ⟨chosen, chosenCompiler, asked⟩ := bind_eq_ok_iff.mp asked
  obtain ⟨other, chosenFinalizer, asked⟩ := bind_eq_ok_iff.mp asked
  cases asked
  rw [compiler] at chosenCompiler
  rw [finalizer] at chosenFinalizer
  rw [splitRequest, bind_eq_ok_iff]
  refine ⟨source, named, ?_⟩
  rw [bind_eq_ok_iff]
  refine ⟨chosen, chosenCompiler, ?_⟩
  rw [bind_eq_ok_iff]
  exact ⟨other, chosenFinalizer, rfl⟩

/-- What one of two such command lines asks for, the other asks for as well. -/
theorem DifferInPresentation.requested
    {leftEnvironment rightEnvironment : Environment}
    {leftArguments rightArguments : List String}
    {request : SplitRequest}
    (differ : DifferInPresentation leftEnvironment rightEnvironment
      leftArguments rightArguments)
    (asked : CommandLine.requested leftEnvironment leftArguments =
      .ok request) :
    ∃ json verbosity,
      CommandLine.requested rightEnvironment rightArguments =
        .ok (request.presentedAs json verbosity) := by
  obtain ⟨left, right, leftGiven, rightGiven, same⟩ := differ.given
  obtain ⟨given, accepted, asked⟩ := bind_eq_ok_iff.mp asked
  cases leftGiven.symm.trans accepted
  refine ⟨right.json, right.verbosity, ?_⟩
  rw [CommandLine.requested, rightGiven]
  exact splitRequest_of_unpresented differ.compiler_eq differ.finalizer_eq same
    asked

/-- A run of the splitter with what decided on its presentation. -/
structure Showing (Memory : Type) where
  environment : Environment
  request : SplitRequest
  execution : Execution Memory

namespace Showing

/-- What the log shows. -/
def filter (shown : Showing Memory) : LogFilter :=
  LogFilter.choose shown.environment.logDirectives shown.request.verbosity

/-- What is printed about the kernels one by one. -/
def printedKernels (shown : Showing Memory) (kernels : List KernelUsage) :
    String :=
  if shown.request.json then ""
  else
    String.join
      (kernels.map fun kernel => kernel.lines shown.environment.wantsColor)

/-- What is printed in all about a summary. -/
def printedSummary (shown : Showing Memory) (summary : Summary) : String :=
  if shown.request.json then summary.json.indentedText ++ "\n"
  else summary.report shown.environment.wantsColor

end Showing

/-- The last words of a program, after its log. -/
def lastWords : Except RunError α → String
  | .ok _ => ""
  | .error error => "Error: " ++ error.message ++ "\n"

/-- A run of the splitter is a silent run, and shows a view of it. -/
structure Shows
    (pipeline : Pipeline Memory)
    (source : Path)
    (world : World Memory)
    (shown : Showing Memory) :
    Prop where
  world_eq : shown.execution.world = (pipeline.silentRun source world).world
  exitCode_eq :
    shown.execution.exitCode =
      if (pipeline.silentRun source world).outcome.isOk then 0 else 1
  stderr_eq :
    shown.execution.stderr =
      shown.filter.lines (pipeline.silentRun source world).events ++
        lastWords (pipeline.silentRun source world).outcome
  stdout_eq :
    shown.execution.stdout =
      match (pipeline.silentRun source world).outcome with
      | .error _ => shown.printedKernels (pipeline.heard source world)
      | .ok summary => shown.printedSummary summary

/-- A kernel is printed unless the summary is written as JSON. -/
theorem prints_printKernel (request : SplitRequest) (colored : Bool) :
    HsailToolchain.Prints
      (fun kernel => if request.json then "" else kernel.lines colored)
      (request.printKernel colored :
        KernelUsage → Action Memory Unit) := by
  constructor
  all_goals
    intro usage world
    unfold SplitRequest.printKernel
    split <;> rfl

/-- The kernels are printed one after the other. -/
theorem Showing.join_printKernel
    (shown : Showing Memory)
    (kernels : List KernelUsage) :
    String.join (kernels.map fun kernel =>
      if shown.request.json then ""
      else kernel.lines shown.environment.wantsColor) =
        shown.printedKernels kernels := by
  unfold printedKernels
  split
  · induction kernels with
    | nil =>
        rfl
    | cons kernel kernels inductionHypothesis =>
        simpa using inductionHypothesis
  · rfl

/-- The kernels and the summary are all that is printed. -/
theorem Showing.printedKernels_append_printSummary
    (shown : Showing Memory)
    (summary : Summary)
    (world : World Memory) :
    shown.printedKernels summary.kernels ++
        (shown.request.printSummary summary world).output =
      shown.printedSummary summary := by
  unfold printedKernels printedSummary SplitRequest.printSummary
  split
  · rw [output_print]
    exact String.empty_append
  · rw [output_print]
    rfl

/-- An accepted command line shows a silent run. -/
theorem shows_execute
    {machine : Machine Memory}
    {arguments : List String}
    {request : SplitRequest}
    (asked : requested machine.environment arguments = .ok request)
    (world : World Memory) :
    Shows (request.pipeline machine) request.source world
      ⟨machine.environment, request,
        execute .splitter machine arguments world⟩ := by
  let shown : Showing Memory := ⟨machine.environment, request,
    execute .splitter machine arguments world⟩
  let spoken := (request.pipeline machine).runFile
    (request.printKernel machine.environment.wantsColor) request.source
  have printing := @HsailToolchain.runFile_of_prints Memory
    (request.toolchain machine) request.outputDirectory _ _
    (prints_printKernel request machine.environment.wantsColor) request.source
    world
  obtain ⟨sameOutcome, sameWorld, sameEvents, output⟩ := printing
  have samePipeline : (request.toolchain machine).pipeline
      request.outputDirectory = request.pipeline machine := rfl
  rw [samePipeline] at sameOutcome sameWorld sameEvents output
  rw [shown.join_printKernel] at output
  have executed := execute_of_requested asked world
  have isAction : (request.job machine).action =
      (spoken >>= request.printSummary) := rfl
  cases outcome : ((request.pipeline machine).silentRun request.source
      world).outcome with
  | error error =>
      have failed := sameOutcome.trans outcome
      obtain ⟨ended, after⟩ :=
        @bind_of_error _ _ _ _ request.printSummary _ _ failed
      have execution := @execution_of_error _
        (request.job machine) world error ended
      rw [isAction, after, events_bind_of_error failed,
        output_bind_of_error failed, sameWorld, sameEvents, output,
        ← executed] at execution
      constructor
      · exact congrArg Execution.world execution
      · rw [outcome]
        exact congrArg Execution.exitCode execution
      · rw [outcome]
        refine (congrArg Execution.stderr execution).trans ?_
        simp [lastWords, String.append_assoc, SplitRequest.job, Showing.filter]
      · rw [outcome]
        exact congrArg Execution.stdout execution
  | ok summary =>
      have done := sameOutcome.trans outcome
      obtain ⟨ended, after⟩ :=
        @bind_of_ok _ _ _ _ request.printSummary _ _ done
      rw [request.outcome_printSummary] at ended
      have execution := @execution_of_ok _
        (request.job machine) world ended
      rw [isAction, after, events_bind_of_ok done, output_bind_of_ok done,
        request.world_printSummary, request.events_printSummary, sameWorld,
        sameEvents, output, Pipeline.heard_of_ok outcome,
        shown.printedKernels_append_printSummary, ← executed] at execution
      constructor
      · exact congrArg Execution.world execution
      · rw [outcome]
        exact congrArg Execution.exitCode execution
      · rw [outcome]
        refine (congrArg Execution.stderr execution).trans ?_
        simp [lastWords, SplitRequest.job, Showing.filter]
      · rw [outcome]
        exact congrArg Execution.stdout execution

/-- A higher verbosity asks for no lower level. -/
theorem rank_ofVerbosity_le
    {low high : Nat}
    (le : low ≤ high) :
    (LogLevel.ofVerbosity low).rank ≤ (LogLevel.ofVerbosity high).rank := by
  match low, high with
  | 0, _ => exact Nat.zero_le _
  | 1, 1 => exact Nat.le_refl _
  | 1, _ + 2 => exact Nat.le_succ 1
  | _ + 2, _ + 2 => exact Nat.le_refl _

/-- A filter shows exactly the events up to a level. -/
def ShowsUpTo (filter : LogFilter) (level : LogLevel) : Prop :=
  ∀ event, filter.shows event = decide (event.level.rank ≤ level.rank)

/-- A filter that hides nothing of what another one shows prints its lines. -/
theorem LogFilter.shownLines_sublist
    {left right : LogFilter}
    (shows : ∀ event, left.shows event = true → right.shows event = true)
    (events : List LogEvent) :
    (left.shownLines events).Sublist (right.shownLines events) :=
  (List.monotone_filter_right events shows).map LogEvent.line

/-- The lines up to a level are among those up to a higher one, in their order. -/
theorem ShowsUpTo.shownLines_sublist
    {left right : LogFilter}
    {low high : LogLevel}
    (leftUpTo : ShowsUpTo left low)
    (rightUpTo : ShowsUpTo right high)
    (le : low.rank ≤ high.rank)
    (events : List LogEvent) :
    (left.shownLines events).Sublist (right.shownLines events) := by
  apply LogFilter.shownLines_sublist
  intro event shown
  rw [leftUpTo event, decide_eq_true_eq] at shown
  rw [rightUpTo event, decide_eq_true_eq]
  exact shown.trans le

/-- With more verbosity, no line is missing that less of it prints. -/
theorem shownLines_sublist_of_verbosity_le
    {low high : Nat}
    (le : low ≤ high)
    (directives : Option String)
    (events : List LogEvent) :
    ((LogFilter.choose directives low).shownLines events).Sublist
      ((LogFilter.choose directives high).shownLines events) := by
  unfold LogFilter.choose
  split
  · exact List.Sublist.refl _
  · exact ShowsUpTo.shownLines_sublist (LogFilter.shows_upTo _)
      (LogFilter.shows_upTo _) (rank_ofVerbosity_le le) events

/-- Two showings are of one run. -/
structure ShowOneRun
    (pipeline : Pipeline Memory)
    (source : Path)
    (world : World Memory)
    (left right : Showing Memory) :
    Prop where
  exitCode_eq : left.execution.exitCode = right.execution.exitCode
  world_eq : left.execution.world = right.execution.world
  /-- Both logs are of the same events, and both end in the same words. -/
  logs :
    ∃ events ending,
      (left.execution.exitCode = 0 ∧ ending = "" ∨
          left.execution.exitCode = 1 ∧
            ∃ error : RunError,
              ending = "Error: " ++ error.message ++ "\n") ∧
        left.execution.stderr =
            String.join (left.filter.shownLines events) ++ ending ∧
        right.execution.stderr =
            String.join (right.filter.shownLines events) ++ ending ∧
        (left.environment.logDirectives = right.environment.logDirectives →
          left.request.verbosity ≤ right.request.verbosity →
            (left.filter.shownLines events).Sublist
              (right.filter.shownLines events)) ∧
        ∀ low high,
          ShowsUpTo left.filter low →
            ShowsUpTo right.filter high →
              low.rank ≤ high.rank →
                (left.filter.shownLines events).Sublist
                  (right.filter.shownLines events)
  stdout_eq :
    left.request.json = right.request.json →
      left.environment.wantsColor = right.environment.wantsColor →
        left.execution.stdout = right.execution.stdout
  /-- On success both print views of one summary. -/
  success :
    left.execution.exitCode = 0 →
      ∃ summary,
        (pipeline.silentRun source world).outcome = .ok summary ∧
          left.execution.stdout = left.printedSummary summary ∧
          right.execution.stdout = right.printedSummary summary
  /-- On failure both print the kernels before the failure, or none of them. -/
  failure :
    left.execution.exitCode ≠ 0 →
      ∃ kernels,
        ((∃ failure,
            world.files.readText pipeline.workingDirectory source =
                .error failure ∧
              kernels = []) ∨
          ∃ text earlier block later error done final,
            world.files.readText pipeline.workingDirectory source = .ok text ∧
              (Document.split text).kernels = earlier ++ block :: later ∧
              pipeline.EndsAt (fun _ => pure ()) (Document.split text).preamble
                earlier block world error done [] final ∧
              kernels = done.kernels) ∧
          left.execution.stdout = left.printedKernels kernels ∧
          right.execution.stdout = right.printedKernels kernels

/-- Two showings of one run show one run. -/
theorem Shows.showOneRun
    {pipeline : Pipeline Memory}
    {source : Path}
    {world : World Memory}
    {left right : Showing Memory}
    (leftShows : Shows pipeline source world left)
    (rightShows : Shows pipeline source world right) :
    ShowOneRun pipeline source world left right where
  exitCode_eq := leftShows.exitCode_eq.trans rightShows.exitCode_eq.symm
  world_eq := leftShows.world_eq.trans rightShows.world_eq.symm
  logs := by
    refine ⟨_, _, ?_, leftShows.stderr_eq, rightShows.stderr_eq, ?_,
      fun _ _ leftUpTo rightUpTo le =>
        leftUpTo.shownLines_sublist rightUpTo le _⟩
    · rw [leftShows.exitCode_eq]
      cases (pipeline.silentRun source world).outcome with
      | error error =>
          exact Or.inr ⟨rfl, error, rfl⟩
      | ok summary =>
          exact Or.inl ⟨rfl, rfl⟩
    · intro sameDirectives le
      unfold Showing.filter
      rw [sameDirectives]
      exact shownLines_sublist_of_verbosity_le le _ _
  stdout_eq := by
    intro sameJson sameColor
    rw [leftShows.stdout_eq, rightShows.stdout_eq]
    unfold Showing.printedKernels Showing.printedSummary
    rw [sameJson, sameColor]
  success := by
    intro exited
    have leftStdout := leftShows.stdout_eq
    have rightStdout := rightShows.stdout_eq
    rw [leftShows.exitCode_eq] at exited
    cases outcome : (pipeline.silentRun source world).outcome with
    | error error =>
        rw [outcome] at exited
        contradiction
    | ok summary =>
        rw [outcome] at leftStdout rightStdout
        exact ⟨summary, rfl, leftStdout, rightStdout⟩
  failure := by
    intro exited
    have leftStdout := leftShows.stdout_eq
    have rightStdout := rightShows.stdout_eq
    rw [leftShows.exitCode_eq] at exited
    cases outcome : (pipeline.silentRun source world).outcome with
    | ok summary =>
        rw [outcome] at exited
        contradiction
    | error error =>
        rw [outcome] at leftStdout rightStdout
        refine ⟨_, ?_, leftStdout, rightStdout⟩
        rcases Pipeline.heard_of_error outcome with
          ⟨failure, unreadable, unheard⟩ |
            ⟨text, earlier, block, later, done, final, read, shape, endsAt,
              heard⟩
        · exact Or.inl ⟨failure, unreadable, unheard⟩
        · exact Or.inr ⟨text, earlier, block, later, error, done, final, read,
            shape, endsAt, heard⟩

/-- The tool runs of the splitter in order. -/
def toolRuns
    (machine : Machine Memory)
    (arguments : List String)
    (world : World Memory) :
    List ToolRun :=
  (execute .splitter machine.recorded arguments world.recording).world.memory.2

/-- Recording the tools changes nothing about a silent run. -/
theorem forget_silentRun_recorded
    (request : SplitRequest)
    (machine : Machine Memory)
    (world : World Memory) :
    ((request.pipeline machine.recorded).silentRun request.source
        world.recording).forget =
      (request.pipeline machine).silentRun request.source world :=
  Records.isCongruence.runFile
    ((request.toolchain machine).recorded_matches request.outputDirectory)
    (fun _ => Records.pure ()) request.source world.recording

/-- Recording the tools changes nothing about what the splitter leaves. -/
theorem forget_world_execute_recorded
    {machine : Machine Memory}
    {arguments : List String}
    {request : SplitRequest}
    (asked : requested machine.environment arguments = .ok request)
    (world : World Memory) :
    (execute .splitter machine.recorded arguments
        world.recording).world.forget =
      (execute .splitter machine arguments world).world := by
  have recorded := congrArg World.forget
    (@shows_execute _ machine.recorded _ _ asked world.recording).world_eq
  have plain := (shows_execute asked world).world_eq
  have records := forget_silentRun_recorded request machine world
  exact recorded.trans ((congrArg Effect.world records).trans plain.symm)

/-- Tools that act alike in two environments run one pipeline. -/
theorem SplitRequest.pipeline_inEnvironment
    {request : SplitRequest}
    {machine : Machine Memory}
    {left right : Environment}
    (alike : (request.toolchain machine).ActsAlike left right) :
    request.pipeline (machine.inEnvironment left) =
      request.pipeline (machine.inEnvironment right) := by
  have shape (environment : Environment) :
      request.pipeline (machine.inEnvironment environment) =
        ⟨((request.toolchain machine).inEnvironment environment).toToolchain,
          request.outputDirectory, machine.workingDirectory⟩ :=
    rfl
  rw [shape, shape, HsailToolchain.toToolchain_inEnvironment alike]

/-- A request in two presentations shows one silent run. -/
theorem shows_execute_presentedAs
    {leftEnvironment rightEnvironment : Environment}
    {leftArguments rightArguments : List String}
    {left : SplitRequest}
    {json : Bool}
    {verbosity : Nat}
    {machine : Machine Memory}
    (asked : requested leftEnvironment leftArguments = .ok left)
    (rightAsked : requested rightEnvironment rightArguments =
      .ok (left.presentedAs json verbosity))
    (alike : (left.toolchain machine).ActsAlike leftEnvironment
      rightEnvironment)
    (world : World Memory) :
    Shows (left.pipeline (machine.inEnvironment leftEnvironment)) left.source
        world
        ⟨leftEnvironment, left,
          execute .splitter (machine.inEnvironment leftEnvironment)
            leftArguments world⟩ ∧
      Shows (left.pipeline (machine.inEnvironment leftEnvironment)) left.source
        world
        ⟨rightEnvironment, left.presentedAs json verbosity,
          execute .splitter (machine.inEnvironment rightEnvironment)
            rightArguments world⟩ := by
  have leftShows := @shows_execute _ (machine.inEnvironment leftEnvironment) _ _
    asked world
  have rightShows := @shows_execute _ (machine.inEnvironment rightEnvironment)
    _ _ rightAsked world
  have samePipeline : (left.presentedAs json verbosity).pipeline
      (machine.inEnvironment rightEnvironment) =
        left.pipeline (machine.inEnvironment leftEnvironment) :=
    (left.pipeline_inEnvironment alike).symm
  rw [samePipeline] at rightShows
  exact ⟨leftShows, rightShows⟩

/--
Two command lines that differ at most in the presentation show one run, each in
its own way, if the tools do the same in both environments.
-/
theorem execute_shows_one_run
    {leftEnvironment rightEnvironment : Environment}
    {leftArguments rightArguments : List String}
    {left : SplitRequest}
    {machine : Machine Memory}
    (differ : DifferInPresentation leftEnvironment rightEnvironment
      leftArguments rightArguments)
    (asked : requested leftEnvironment leftArguments = .ok left)
    (alike : (left.toolchain machine).ActsAlike leftEnvironment
      rightEnvironment)
    (world : World Memory) :
    ∃ right,
      requested rightEnvironment rightArguments = .ok right ∧
        toolRuns (machine.inEnvironment leftEnvironment) leftArguments world =
          toolRuns (machine.inEnvironment rightEnvironment) rightArguments
            world ∧
        ShowOneRun (left.pipeline (machine.inEnvironment leftEnvironment))
          left.source world
          ⟨leftEnvironment, left,
            execute .splitter (machine.inEnvironment leftEnvironment)
              leftArguments world⟩
          ⟨rightEnvironment, right,
            execute .splitter (machine.inEnvironment rightEnvironment)
              rightArguments world⟩ := by
  obtain ⟨json, verbosity, rightAsked⟩ := differ.requested asked
  refine ⟨_, rightAsked, ?_, ?_⟩
  · have alikeRecorded : (left.toolchain machine.recorded).ActsAlike
        leftEnvironment rightEnvironment :=
      alike.recorded
    have recorded := shows_execute_presentedAs asked rightAsked alikeRecorded
      world.recording
    exact congrArg (fun world => world.memory.2)
      (recorded.1.world_eq.trans recorded.2.world_eq.symm)
  · have plain := shows_execute_presentedAs asked rightAsked alike world
    exact plain.1.showOneRun plain.2

/-- The environment of a caller who wants to see more, and in color. -/
def showyEnvironment : Environment :=
  { Environment.empty with
    logDirectives := some "info"
    colorForce := some "1" }

/-- Arguments for the workshop that ask for JSON and for more detail. -/
def showyArguments : List String :=
  ["--json", "-vv", "w/all.cl", "--output-dir=w"]

theorem differInPresentation_showy :
    DifferInPresentation .empty showyEnvironment
      ["w/all.cl", "--output-dir=w"] showyArguments := by
  refine ⟨rfl, rfl, ?_⟩
  refine ⟨⟨some "w/all.cl", some "w", none, none, none, false, 0⟩,
    ⟨some "w/all.cl", some "w", none, none, none, true, 2⟩, ?_, ?_, rfl⟩
  · decide +kernel
  · decide +kernel

/-- The workshop with a directory where the second binary would go. -/
def blockedWorkshop : World Unit where
  files := (sourceWorkshop "all.cl").files.put ["w", "b.brig"] .directory
  memory := ()

/--
A run that succeeds and one that fails after its first kernel, each shown in two
ways.
-/
theorem execute_shows_one_run_workshop :
    let machine : Machine Unit := HsailToolchain.copying.machine
    let arguments := ["w/all.cl", "--output-dir=w"]
    let plain (world : World Unit) :=
      execute .splitter (machine.inEnvironment .empty) arguments world
    let showy (world : World Unit) :=
      execute .splitter (machine.inEnvironment showyEnvironment) showyArguments
        world
    let kernelLines :=
      "a\ncloc.sh -hsail a.cl\nvector register: 0\nscalar register: 0\n" ++
        "Num of instructions: 0\n"
    let logLines :=
      "INFO read source document source=w/all.cl bytes=32\n" ++
        "INFO running tool=cloc.sh args=[\"-hsail\", \"a.cl\"] kernel=\"a\"\n" ++
        "INFO running tool=finalizer_dumper args=[\"a.brig\"] kernel=\"a\"\n"
    let lastWords := "Error: Failed to write w/b.brig: " ++
      "Is a directory (os error 21)\n"
    DifferInPresentation .empty showyEnvironment arguments showyArguments ∧
      requested .empty arguments = .ok workshopRequest ∧
      (workshopRequest.toolchain machine).ActsAlike .empty showyEnvironment ∧
      (∀ world, ∃ right,
        requested showyEnvironment showyArguments = .ok right ∧
          toolRuns (machine.inEnvironment .empty) arguments world =
            toolRuns (machine.inEnvironment showyEnvironment) showyArguments
              world ∧
          ShowOneRun (workshopRequest.pipeline (machine.inEnvironment .empty))
            ⟨"w/all.cl"⟩ world ⟨.empty, workshopRequest, plain world⟩
            ⟨showyEnvironment, right, showy world⟩) ∧
      ((plain (sourceWorkshop "all.cl")).exitCode = 0 ∧
        (plain (sourceWorkshop "all.cl")).stderr = "" ∧
        (showy (sourceWorkshop "all.cl")).stderr =
          logLines ++
            "INFO running tool=cloc.sh args=[\"-hsail\", \"b.cl\"] kernel=\"b\"\n" ++
            "INFO running tool=finalizer_dumper args=[\"b.brig\"] kernel=\"b\"\n") ∧
      (plain blockedWorkshop).exitCode = 1 ∧
      (plain blockedWorkshop).stdout = kernelLines ∧
      (plain blockedWorkshop).stderr = lastWords ∧
      (showy blockedWorkshop).stdout = "" ∧
      (showy blockedWorkshop).stderr = logLines ++ lastWords := by
  intro machine arguments plain showy kernelLines logLines lastWords
  have alike : (workshopRequest.toolchain machine).ActsAlike .empty
      showyEnvironment :=
    ⟨fun _ _ _ _ _ _ => rfl, fun _ _ _ _ _ _ => rfl⟩
  have succeeded : (plain (sourceWorkshop "all.cl")).exitCode = 0 ∧
      (plain (sourceWorkshop "all.cl")).stderr = "" ∧
      (showy (sourceWorkshop "all.cl")).stderr =
        logLines ++
          "INFO running tool=cloc.sh args=[\"-hsail\", \"b.cl\"] kernel=\"b\"\n" ++
          "INFO running tool=finalizer_dumper args=[\"b.brig\"] kernel=\"b\"\n" := by
    decide +kernel
  have failed : (plain blockedWorkshop).exitCode = 1 ∧
      (plain blockedWorkshop).stdout = kernelLines ∧
      (plain blockedWorkshop).stderr = lastWords ∧
      (showy blockedWorkshop).stdout = "" ∧
      (showy blockedWorkshop).stderr = logLines ++ lastWords := by
    decide +kernel
  exact ⟨differInPresentation_showy, requested_workshopRequest, alike,
    execute_shows_one_run differInPresentation_showy requested_workshopRequest
      alike, succeeded, failed⟩

/-- A machine whose finalizer puts into its report what it was told to log. -/
def loggingFinalizer : Machine Unit where
  workingDirectory := []
  searchPath := [⟨"/bin"⟩]
  environment := .empty
  behaveIn environment invocation world :=
    match invocation.arguments with
    | [_] =>
        let report := "v1 // " ++ environment.logDirectives.getD "" ++ "\n"
        (⟨.exited 0, ByteArray.empty, ByteArray.empty⟩,
          { world with
            files := world.files.put (invocation.directory ++ ["isa.txt"])
              (.file report.toUTF8 false) })
    | _ => (Machine.copying [⟨"/bin"⟩]).behave invocation world

/--
A finalizer that inherits the wish for another log, and honors it, leaves another
report.
-/
theorem report_shows_environment :
    let warning := { Environment.empty with logDirectives := some "warn" }
    let arguments := ["w/all.cl", "--output-dir=w"]
    let run (environment : Environment) :=
      execute .splitter (loggingFinalizer.inEnvironment environment) arguments
        (sourceWorkshop "all.cl")
    DifferInPresentation .empty warning arguments arguments ∧
      requested .empty arguments = .ok workshopRequest ∧
      (run .empty).exitCode = 0 ∧
      (run warning).exitCode = 0 ∧
      (run .empty).world.files.readText [] ⟨"w/a.isa"⟩ = .ok "v1 // \n" ∧
      (run warning).world.files.readText [] ⟨"w/a.isa"⟩ =
        .ok "v1 // warn\n" := by
  intro warning arguments run
  have differ : DifferInPresentation .empty warning arguments arguments := by
    refine ⟨rfl, rfl, ?_⟩
    refine ⟨⟨some "w/all.cl", some "w", none, none, none, false, 0⟩, _, ?_, ?_,
      rfl⟩
    · decide +kernel
    · decide +kernel
  exact ⟨differ, requested_workshopRequest, by decide +kernel⟩

end IsaUsage.CommandLine
