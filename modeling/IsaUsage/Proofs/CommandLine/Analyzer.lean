import IsaUsage.CommandLine.Execution
import IsaUsage.Proofs.Run.Printing
import IsaUsage.Proofs.Run.Report

namespace IsaUsage.CommandLine

/-!
# The analyzers agree with the splitter

Two programs analyze one report each. Started on the report that a run has left of
a kernel, they print what the run has shown of the last kernel of that name: one
the lines of the registers, the other the line of the instructions
(`analyzers_confirm_runDocument`).
-/

open FileSystem HsailToolchain IsaUsage.Action

/-- Arguments that a program accepts and that name its file. -/
def NamesFile (program : Program) (arguments : List String) (file : Path) :
    Prop :=
  ∃ given,
    readArguments program .none arguments = .ok given ∧
      given.file = some file.text

/-- What comes after two dashes is a file, whatever it looks like. -/
theorem namesFile_dashes
    {file : Path}
    (named : file.text ≠ "")
    (program : Program) :
    NamesFile program ["--", file.text] file := by
  refine ⟨{ Arguments.none with file := some file.text }, ?_, rfl⟩
  simp [readArguments, Arguments.setFiles, Arguments.setFile, Arguments.none,
    named, bind, Except.bind]

section Jobs

variable {machine : Machine Memory} {arguments : List String} {report : Path} {usage : UsageRecord}
  {world : World Memory}

/-- A job on a report that can be read prints its part of the usage. -/
theorem execution_reportAction
    {base : Location}
    (shown : world.files.ShowsUsage base report usage)
    (part : UsageRecord → String)
    (filter : LogFilter) :
    Job.execution ⟨reportAction base report part, filter⟩ world =
      ⟨0, part usage, "", world⟩ := by
  have analyzed := analyzeReport_of_showsUsage shown
  have isDone : (analyzeReport base report world).outcome = .ok usage := by
    rw [analyzed]
  have printed : (reportAction base report part world).output = part usage := by
    rw [reportAction, output_bind_of_ok isDone, output_print, analyzed]
    exact String.empty_append
  obtain ⟨outcome, after⟩ :=
    @bind_of_ok _ _ _ _ (fun usage => Action.print (part usage)) _ _ isDone
  have silent : (reportAction base report part world).events = [] := by
    rw [reportAction, events_bind_of_ok isDone, analyzed]
    rfl
  have same : (reportAction base report part world).world = world := by
    rw [reportAction, after, analyzed]
    rfl
  rw [Job.execution]
  simp only [printed, silent, same]
  rw [reportAction, outcome]
  rfl

/-- The part of a usage that an analyzer prints. -/
def Program.part? : Program → Option (UsageRecord → String)
  | .splitter => none
  | .registers => some UsageRecord.registerLines
  | .instructions => some UsageRecord.instructionLine

/-- An analyzer prints its part of the usage that a report shows. -/
theorem execute_analyzer
    {program : Program}
    {part : UsageRecord → String}
    (analyzes : program.part? = some part)
    (named : NamesFile program arguments report)
    (shown : world.files.ShowsUsage machine.workingDirectory report usage) :
    execute program machine arguments world =
      ⟨0, part usage, "", world⟩ := by
  obtain ⟨given, accepted, isFile⟩ := named
  have isJob : job program machine arguments =
      .ok ⟨reportAction machine.workingDirectory report part,
        .choose machine.environment.logDirectives given.verbosity⟩ := by
    cases program with
    | splitter =>
        contradiction
    | registers =>
        cases analyzes
        simp [job, accepted, requiredFile, isFile, bind, Except.bind, pure,
          Except.pure]
    | instructions =>
        cases analyzes
        simp [job, accepted, requiredFile, isFile, bind, Except.bind, pure,
          Except.pure]
  rw [execute, isJob]
  exact execution_reportAction shown _ _

end Jobs

/-- The lines that show a kernel, but those of its usage. -/
def headingLines (kernel : KernelUsage) (colored : Bool) : String :=
  (if colored then Highlight.apply kernel.kernel else kernel.kernel) ++ "\n" ++
    kernel.command ++ "\n"

/-- Analyzing a report gives and prints the usage that is shown of a kernel. -/
structure Confirms
    (machine : Machine Memory)
    (world : World Memory)
    (report : Path)
    (kernel : KernelUsage) :
    Prop where
  analyzed :
    analyzeReport machine.workingDirectory report world =
      ⟨.ok kernel.usage, world, []⟩
  registers :
    ∀ environment arguments,
      NamesFile .registers arguments report →
        execute .registers (machine.inEnvironment environment) arguments
            world =
          ⟨0, kernel.usage.registerLines, "", world⟩
  instructions :
    ∀ environment arguments,
      NamesFile .instructions arguments report →
        execute .instructions (machine.inEnvironment environment) arguments
            world =
          ⟨0, kernel.usage.instructionLine, "", world⟩
  /-- Both programs can be told to analyze the report. -/
  nameable : ∀ program, NamesFile program ["--", report.text] report
  /-- What the programs print is what is shown of the kernel. -/
  lines_eq :
    ∀ environment registersArguments instructionsArguments colored,
      NamesFile .registers registersArguments report →
        NamesFile .instructions instructionsArguments report →
          kernel.lines colored =
            headingLines kernel colored ++
              (execute .registers (machine.inEnvironment environment)
                registersArguments world).stdout ++
              (execute .instructions (machine.inEnvironment environment)
                instructionsArguments world).stdout

theorem confirms_of_showsUsage
    {machine : Machine Memory}
    {world : World Memory}
    {report : Path}
    {kernel : KernelUsage}
    (named : report.text ≠ "")
    (shown : world.files.ShowsUsage machine.workingDirectory report
      kernel.usage) :
    Confirms machine world report kernel where
  analyzed := analyzeReport_of_showsUsage shown
  registers := fun _ _ names => execute_analyzer rfl names shown
  instructions := fun _ _ names => execute_analyzer rfl names shown
  nameable := namesFile_dashes named
  lines_eq := by
    intro environment registersArguments instructionsArguments colored
      forRegisters forInstructions
    have registers : execute .registers (machine.inEnvironment environment)
        registersArguments world =
          ⟨0, kernel.usage.registerLines, "", world⟩ :=
      execute_analyzer rfl forRegisters shown
    have instructions : execute .instructions
        (machine.inEnvironment environment) instructionsArguments world =
          ⟨0, kernel.usage.instructionLine, "", world⟩ :=
      execute_analyzer rfl forInstructions shown
    rw [registers, instructions]
    rfl

/--
After a run that succeeds, the analyzers print of the report of every name what the
run has shown of the last kernel of this name.
-/
theorem analyzers_confirm_runDocument
    {toolchain : HsailToolchain Memory}
    {directory : Path}
    {onKernel : KernelUsage → Action Memory Unit}
    {source : String}
    {summary : Summary}
    {world : World Memory}
    (keepsApart : toolchain.config.KeepsApart (Document.split source).names)
    (keeps : toolchain.KeepsToOutputs directory (Document.split source).names)
    (still : ∀ usage world, (onKernel usage world).world.files = world.files)
    (done : ((toolchain.pipeline directory).runDocument onKernel
      (Document.split source) world).outcome = .ok summary) :
    summary.kernels.map KernelUsage.kernel = (Document.split source).names ∧
      HoldsOfLast KernelUsage.kernel
        (fun kernel =>
          Confirms toolchain.machine
            ((toolchain.pipeline directory).runDocument onKernel
              (Document.split source) world).world
            (toolchain.config.reportPath directory kernel.kernel) kernel)
        summary.kernels := by
  have names : ∀ kernel ∈ (Document.split source).names,
      Declaration.IsName kernel.toList :=
    fun _ => Document.isName_of_mem_names
  refine ⟨(Pipeline.told_of_runDocument done).1, ?_⟩
  intro name isName
  obtain ⟨earlier, kernel, later, shape, isKernel, isLast, shown⟩ :=
    runDocument_showsLast keepsApart names keeps still done name isName
  have named : (toolchain.config.reportPath directory kernel.kernel).text ≠
      "" := by
    rw [(Pipeline.told_of_runDocument done).1] at isName
    rw [isKernel]
    have ordinary := ToolchainConfig.isOrdinary_fileName (names name isName)
      keepsApart.report_single
    exact text_join_ne ordinary.single (Or.inr ordinary.named)
  exact ⟨earlier, kernel, later, shape, isKernel, isLast,
    confirms_of_showsUsage named shown⟩

/-- A document that declares a kernel once more, with other registers. -/
def revision : String :=
  "__kernel void a\nv7 // 1\n__kernel void a\nv2 s4 // 2\n__kernel void b\n"

theorem analyzers_confirm_runDocument_revision :
    let toolchain : HsailToolchain Unit := copying
    let run := (toolchain.pipeline ⟨"w"⟩).runDocument (fun _ => pure ())
      (Document.split revision) ⟨workshop, ()⟩
    let shown (program : Program) :=
      execute program toolchain.machine ["w/a.isa"] run.world
    toolchain.config.KeepsApart (Document.split revision).names ∧
      toolchain.KeepsToOutputs ⟨"w"⟩ (Document.split revision).names ∧
      ∃ summary,
        run.outcome = .ok summary ∧
          summary.kernels.map KernelUsage.kernel = ["a", "a", "b"] ∧
          HoldsOfLast KernelUsage.kernel
            (fun kernel =>
              Confirms toolchain.machine run.world
                (toolchain.config.reportPath ⟨"w"⟩ kernel.kernel) kernel)
            summary.kernels ∧
          (shown .registers).stdout =
            "vector register: 2\nscalar register: 4\n" ∧
          (shown .instructions).stdout = "Num of instructions: 1\n" := by
  intro toolchain run shown
  have isNames : (Document.split revision).names = ["a", "a", "b"] := by
    decide +kernel
  have keepsApart :
      toolchain.config.KeepsApart (Document.split revision).names := by
    rw [isNames]
    decide
  have keeps :
      toolchain.KeepsToOutputs ⟨"w"⟩ (Document.split revision).names := by
    rw [isNames]
    exact keepsToOutputs_copyingTools (by decide +kernel) (by decide +kernel)
  have evaluated : run.outcome.isOk = true ∧
      (shown .registers).stdout = "vector register: 2\nscalar register: 4\n" ∧
      (shown .instructions).stdout = "Num of instructions: 1\n" := by
    decide +kernel
  obtain ⟨summary, done⟩ := exists_eq_ok_of_isOk evaluated.1
  obtain ⟨named, confirms⟩ := analyzers_confirm_runDocument keepsApart keeps
    (fun _ _ => rfl) done
  exact ⟨keepsApart, keeps, summary, done, named.trans isNames, confirms,
    evaluated.2⟩

end IsaUsage.CommandLine
