import IsaUsage.CommandLine.Execution
import IsaUsage.Proofs.File.Walk

namespace IsaUsage.CommandLine

/-!
# What the splitter is asked to do

An accepted command line comes down to a request. The program then runs the
pipeline of the request, prints what the request wants to be printed, and shows
the log as the request and the environment want it shown.
-/

/-- What a command line asks the splitter to do. -/
def requested (environment : Environment) (arguments : List String) :
    Except Stop SplitRequest := do
  let given ← readArguments .splitter .none arguments
  splitRequest environment given

/-- The job of a request. -/
def SplitRequest.job
    (request : SplitRequest)
    (machine : Machine Memory) :
    Job Memory where
  action := request.action machine machine.environment.wantsColor
  filter :=
    LogFilter.choose machine.environment.logDirectives request.verbosity

/-- The toolchain of a request. -/
def SplitRequest.toolchain
    (request : SplitRequest)
    (machine : Machine Memory) :
    HsailToolchain Memory where
  config := request.config machine.workingDirectory
  machine := machine

/-- A request is as verbose as the arguments ask for. -/
theorem verbosity_of_splitRequest
    {environment : Environment}
    {given : Arguments}
    {request : SplitRequest}
    (asked : splitRequest environment given = .ok request) :
    request.verbosity = given.verbosity := by
  obtain ⟨_, -, asked⟩ := bind_eq_ok_iff.mp asked
  obtain ⟨_, -, asked⟩ := bind_eq_ok_iff.mp asked
  obtain ⟨_, -, asked⟩ := bind_eq_ok_iff.mp asked
  cases asked
  rfl

/-- A job that succeeds exits with zero and shows what it prints. -/
theorem execution_of_ok
    {job : Job Memory}
    {world : World Memory}
    (done : (job.action world).outcome = .ok ()) :
    job.execution world =
      ⟨0, (job.action world).output,
        job.filter.lines (job.action world).events,
        (job.action world).world⟩ := by
  simp [Job.execution, done]

/-- A job that fails exits with one and shows its error below the log. -/
theorem execution_of_error
    {job : Job Memory}
    {world : World Memory}
    {error : RunError}
    (failed : (job.action world).outcome = .error error) :
    job.execution world =
      ⟨1, (job.action world).output,
        job.filter.lines (job.action world).events ++ "Error: " ++
          error.message ++ "\n",
        (job.action world).world⟩ := by
  simp [Job.execution, failed]

theorem world_execution (job : Job Memory) (world : World Memory) :
    (job.execution world).world = (job.action world).world := by
  unfold Job.execution
  dsimp only
  split <;> rfl

/-- The splitter does the job that it is asked to do. -/
theorem execute_of_requested
    {machine : Machine Memory}
    {arguments : List String}
    {request : SplitRequest}
    (asked : requested machine.environment arguments = .ok request)
    (world : World Memory) :
    execute .splitter machine arguments world =
      (request.job machine).execution world := by
  obtain ⟨given, accepted, asked⟩ := bind_eq_ok_iff.mp asked
  have isJob : CommandLine.job .splitter machine arguments =
      .ok (request.job machine) := by
    unfold CommandLine.job SplitRequest.job
    rw [accepted, verbosity_of_splitRequest asked]
    show (splitRequest machine.environment given >>= _) = _
    rw [asked]
    rfl
  unfold execute
  rw [isJob]

namespace SplitRequest

variable (request : SplitRequest)

theorem world_printKernel
    (colored : Bool)
    (kernel : KernelUsage)
    (world : World Memory) :
    (request.printKernel colored kernel world).world = world := by
  unfold printKernel
  split <;> rfl

/-- Printing a summary succeeds. -/
theorem outcome_printSummary (summary : Summary) (world : World Memory) :
    (request.printSummary summary world).outcome = .ok () := by
  unfold printSummary
  split <;> rfl

/-- Printing a summary logs nothing. -/
theorem events_printSummary (summary : Summary) (world : World Memory) :
    (request.printSummary summary world).events = [] := by
  unfold printSummary
  split <;> rfl

theorem world_printSummary (summary : Summary) (world : World Memory) :
    (request.printSummary summary world).world = world := by
  unfold printSummary
  split <;> rfl

end SplitRequest

end IsaUsage.CommandLine
