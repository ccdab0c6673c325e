import IsaUsage.CommandLine.Arguments
import IsaUsage.Run.LogFilter
import IsaUsage.Run.Pipeline
import IsaUsage.Summary.Text
import IsaUsage.Toolchain.Hsail
import IsaUsage.Usage.Json

namespace IsaUsage.CommandLine

/-!
# Running the programs

A command line and a few environment variables decide what a program does; the
rest is an action on the world. The environment is that of the machine, so the
tools inherit what the program reads. What the action prints goes to the standard
output, and what it logs goes, as far as the log shows it, to the standard error
output, where an error comes last.
-/

/-- What the splitter is asked to do. -/
structure SplitRequest where
  source : Path
  outputDirectory : Path
  compiler : Path
  finalizer : Path
  sourceExtension : String
  json : Bool
  verbosity : Nat
  deriving DecidableEq

/-- The standard names, which apply where no others are asked for. -/
def standardConfig : ToolchainConfig := {}

/-- A path given as an option or, failing that, by the environment. -/
def chosenPath
    (given environment : Option String)
    (standard : Path)
    (what : String) :
    Except Stop Path :=
  match given, environment with
  | some text, _ => .ok ⟨text⟩
  | none, some text =>
      if text = "" then .error (.misuse (.emptyPath what)) else .ok ⟨text⟩
  | none, none => .ok standard

/-- The file that a command line has to name. -/
def requiredFile (given : Arguments) : Except Stop Path :=
  match given.file with
  | some text => .ok ⟨text⟩
  | none => .error (.misuse .missingArgument)

/-- What arguments and environment ask the splitter to do. -/
def splitRequest (environment : Environment) (given : Arguments) :
    Except Stop SplitRequest := do
  let source ← requiredFile given
  let compiler ← chosenPath given.compiler environment.compiler
    standardConfig.compiler "--compiler"
  let finalizer ← chosenPath given.finalizer environment.finalizer
    standardConfig.finalizer "--finalizer"
  return {
    source := source
    outputDirectory := ⟨given.outputDirectory.getD "."⟩
    compiler := compiler
    finalizer := finalizer
    sourceExtension :=
      given.sourceExtension.getD standardConfig.sourceExtension
    json := given.json
    verbosity := given.verbosity
  }

namespace SplitRequest

/-- The configuration of a request, with tools that any directory can start. -/
def config (request : SplitRequest) (base : Location) : ToolchainConfig :=
  { standardConfig with
    compiler := request.compiler.ofTool base
    finalizer := request.finalizer.ofTool base
    sourceExtension := request.sourceExtension }

/-- The pipeline of a request. -/
def pipeline (request : SplitRequest) (machine : Machine Memory) :
    Pipeline Memory where
  toolchain :=
    HsailToolchain.toToolchain
      ⟨request.config machine.workingDirectory, machine⟩
  outputDirectory := request.outputDirectory
  workingDirectory := machine.workingDirectory

/-- Print a kernel as soon as its usage is known, unless JSON is wanted. -/
def printKernel
    (request : SplitRequest)
    (colored : Bool)
    (kernel : KernelUsage) :
    Action Memory Unit :=
  if request.json then pure () else Action.print (kernel.lines colored)

/-- Print what remains to be said after the last kernel. -/
def printSummary (request : SplitRequest) (summary : Summary) :
    Action Memory Unit :=
  if request.json then Action.print (summary.json.indentedText ++ "\n")
  else Action.print summary.totals.totalLines

/-- Build the kernels of the source and print their usage. -/
def action
    (request : SplitRequest)
    (machine : Machine Memory)
    (colored : Bool) :
    Action Memory Unit := do
  let summary ←
    (request.pipeline machine).runFile (request.printKernel colored)
      request.source
  request.printSummary summary

end SplitRequest

/-- Analyze a report and print a part of its usage. -/
def reportAction
    (base : Location)
    (report : Path)
    (part : UsageRecord → String) :
    Action Memory Unit := do
  let usage ← analyzeReport base report
  Action.print (part usage)

/-- What a program does once its command line is accepted. -/
structure Job (Memory : Type) where
  action : Action Memory Unit
  filter : LogFilter

/-- The job that a command line describes. -/
def job
    (program : Program)
    (machine : Machine Memory)
    (arguments : List String) :
    Except Stop (Job Memory) := do
  let environment := machine.environment
  let given ← readArguments program .none arguments
  let filter := LogFilter.choose environment.logDirectives given.verbosity
  match program with
  | .splitter => do
      let request ← splitRequest environment given
      return ⟨request.action machine environment.wantsColor, filter⟩
  | .registers => do
      let report ← requiredFile given
      return ⟨reportAction machine.workingDirectory report
        UsageRecord.registerLines, filter⟩
  | .instructions => do
      let report ← requiredFile given
      return ⟨reportAction machine.workingDirectory report
        UsageRecord.instructionLine, filter⟩

/-- What is left of a program after it has ended. -/
structure Execution (Memory : Type) where
  exitCode : Nat
  stdout : String
  stderr : String
  world : World Memory

/-- The version of the programs. -/
def versionNumber : String := "0.1.0"

/-- The exit code of a program whose command line was not accepted. -/
def misuseExitCode : Nat := 2

/-- The end of a program that did no job. -/
def Stop.execution (stop : Stop) (program : Program) (world : World Memory) :
    Execution Memory :=
  match stop with
  | .version => ⟨0, program.name ++ " " ++ versionNumber ++ "\n", "", world⟩
  | .help => ⟨0, program.summary ++ "\n\n" ++ program.usage ++ "\n", "", world⟩
  | .misuse reason =>
      ⟨misuseExitCode, "", reason.message ++ "\n\n" ++ program.usage ++ "\n",
        world⟩

/-- The end of a program that did its job. -/
def Job.execution (job : Job Memory) (world : World Memory) :
    Execution Memory :=
  let effect := job.action world
  let log := job.filter.lines effect.events
  match effect.outcome with
  | .ok () => ⟨0, effect.output, log, effect.world⟩
  | .error error =>
      ⟨1, effect.output, log ++ "Error: " ++ error.message ++ "\n",
        effect.world⟩

/-- Run a program. -/
def execute
    (program : Program)
    (machine : Machine Memory)
    (arguments : List String)
    (world : World Memory) :
    Execution Memory :=
  match job program machine arguments with
  | .error stop => stop.execution program world
  | .ok job => job.execution world

end IsaUsage.CommandLine
