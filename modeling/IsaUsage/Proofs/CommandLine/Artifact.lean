import IsaUsage.Proofs.CommandLine.Presentation
import IsaUsage.Proofs.Kernel.Division
import IsaUsage.Proofs.Run.Artifact

namespace IsaUsage.CommandLine

/-!
# The splitter keeps its artifacts

Whatever extension is asked for, the compiler meets the text of a kernel as it was
written, and a run that succeeds leaves it so, unless another file of the run is
where the kernel's source is (`execute_keeps_artifacts`). The extensions of binaries
and reports put one there, and so does one that makes a source out of the report of
fixed name.
-/

open FileSystem HsailToolchain IsaUsage.Action

/-- The artifacts of a document are named like its kernels. -/
theorem names_artifacts (document : Document) :
    document.artifacts.map Prod.fst = document.names :=
  List.map_map

/-- A silent run that is recorded keeps the artifacts of its document. -/
theorem keepsArtifacts_silentRun
    {toolchain : HsailToolchain Memory}
    {directory source : Path}
    {text : String}
    {world : World Memory}
    (read : world.files.readText toolchain.base source = .ok text)
    (nodup : (Document.split text).names.Nodup)
    (keeps : toolchain.KeepsToOutputs directory (Document.split text).names)
    (apart : toolchain.config.SourcesApart directory (Document.split text).names
      toolchain.base world.files) :
    toolchain.KeepsArtifacts directory (Document.split text).artifacts []
      ((toolchain.recorded.pipeline directory).silentRun source
        world.recording) := by
  have names := names_artifacts (Document.split text)
  have run := @keepsArtifacts_runArtifacts _ toolchain directory _
    (fun _ => pure ()) world.recording keeps (fun _ _ => ⟨rfl, rfl⟩)
    (Document.split text).artifacts
    (fun artifact member => names ▸ List.mem_map_of_mem member)
    (names ▸ nodup) apart .empty
  obtain ⟨ranOutcome, ranWorld⟩ := @Pipeline.runFile_of_readable _
    (toolchain.recorded.pipeline directory) source world.recording
    (fun _ => pure ()) text read
  obtain ⟨outcome, after⟩ := @Pipeline.runDocument_eq _
    (toolchain.recorded.pipeline directory) (fun _ => pure ())
    (Document.split text) world.recording
  have sameOutcome := ranOutcome.trans outcome
  have sameWorld := ranWorld.trans after
  constructor
  · obtain ⟨added, noted, all⟩ := run.started
    exact ⟨added, (congrArg (fun world => world.memory.2) sameWorld).trans noted,
      all⟩
  · intro summary done artifact member
    have kept := run.kept summary (sameOutcome.symm.trans done) artifact member
    rw [← sameWorld] at kept
    exact kept

/--
The splitter starts the compiler for a kernel while the source holds the kernel's
text as it was written, and if it exits with 0, the source still holds it.
-/
theorem execute_keeps_artifacts
    {machine : Machine Memory}
    {arguments : List String}
    {request : SplitRequest}
    {text : String}
    {world : World Memory}
    (asked : requested machine.environment arguments = .ok request)
    (read : world.files.readText machine.workingDirectory request.source =
      .ok text)
    (nodup : (Document.split text).names.Nodup)
    (keeps : (request.toolchain machine).KeepsToOutputs request.outputDirectory
      (Document.split text).names)
    (apart : (request.config machine.workingDirectory).SourcesApart
      request.outputDirectory (Document.split text).names
      machine.workingDirectory world.files) :
    ∀ artifact ∈ (Document.split text).artifacts,
      (∀ run ∈ toolRuns machine arguments world,
        run.invocation.arguments =
            (request.config machine.workingDirectory).compilerArguments
              artifact.1 →
          (request.toolchain machine).HoldsArtifact request.outputDirectory
            artifact run.before) ∧
      ((execute .splitter machine arguments world).exitCode = 0 →
        (request.toolchain machine).HoldsArtifact request.outputDirectory
          artifact
          (execute .splitter machine arguments
            world).world.files) := by
  intro artifact member
  let toolchain := request.toolchain machine
  have run : toolchain.KeepsArtifacts request.outputDirectory
      (Document.split text).artifacts []
      ((request.pipeline machine.recorded).silentRun request.source
        world.recording) :=
    @keepsArtifacts_silentRun _ toolchain _ _ _ _ read nodup keeps apart
  have recorded : (execute .splitter machine.recorded arguments
      world.recording).world =
        ((request.pipeline machine.recorded).silentRun request.source
          world.recording).world :=
    (@shows_execute _ machine.recorded _ _ asked world.recording).world_eq
  have records := forget_silentRun_recorded request machine world
  have exitCode : (execute .splitter machine arguments
      world).exitCode =
        if ((request.pipeline machine).silentRun request.source
          world).outcome.isOk then 0 else 1 :=
    (shows_execute asked world).exitCode_eq
  have left : (execute .splitter machine arguments world).world =
      ((request.pipeline machine).silentRun request.source world).world :=
    (shows_execute asked world).world_eq
  rw [← records] at exitCode left
  generalize (request.pipeline machine.recorded).silentRun request.source
    world.recording = effect at run recorded exitCode left
  have names : ((Document.split text).artifacts.map Prod.fst).Nodup := by
    rw [names_artifacts]
    exact nodup
  constructor
  · intro toolRun isRun compiles
    rw [toolRuns, recorded] at isRun
    exact run.holdsArtifact names member isRun compiles
  · intro exited
    rw [exitCode] at exited
    cases outcome : effect.outcome with
    | error error =>
        simp [Effect.forget, outcome, Except.isOk, Except.toBool] at exited
    | ok summary =>
        rw [left]
        exact run.kept summary outcome artifact member

/-- The request of the workshop with another extension of sources. -/
def extensionRequest (extension : String) : SplitRequest :=
  { workshopRequest with sourceExtension := extension }

/-- The arguments of this request. -/
def extensionArguments (extension : String) : List String :=
  ["w/all.cl", "--output-dir=w", "--source-ext=" ++ extension]

theorem toolchain_extensionRequest (extension : String) :
    (extensionRequest extension).toolchain
        (copying : HsailToolchain Unit).machine =
      ⟨{ compiler := ⟨"cloc.sh"⟩
         finalizer := ⟨"finalizer_dumper"⟩
         sourceExtension := extension }, .copying [⟨"/bin"⟩]⟩ := by
  have compiler : Path.ofTool [] ⟨"cloc.sh"⟩ = ⟨"cloc.sh"⟩ := by
    decide +kernel
  have finalizer : Path.ofTool [] ⟨"finalizer_dumper"⟩ =
      ⟨"finalizer_dumper"⟩ := by
    decide +kernel
  simp only [SplitRequest.toolchain, SplitRequest.config, extensionRequest,
    workshopRequest, copying, copyingTools, Machine.copying, compiler, finalizer,
    standardConfig]

/--
The tools that copy keep to their outputs under any extension without dots.
-/
theorem keepsToOutputs_extensionRequest
    {extension : String}
    (noDot : '.' ∉ extension.toList) :
    ((extensionRequest extension).toolchain
      (copying : HsailToolchain Unit).machine).KeepsToOutputs ⟨"w"⟩
        (Document.split siblings).names := by
  rw [toolchain_extensionRequest, names_siblings]
  exact keepsToOutputs_copying noDot (by decide +kernel) (by decide +kernel)

theorem sourcesApart_oclRequest (files : FileSystem) :
    ((extensionRequest "ocl").config []).SourcesApart ⟨"w"⟩
      (Document.split siblings).names [] files := by
  have keepsApart : ((extensionRequest "ocl").config []).KeepsApart
      (Document.split siblings).names := by
    rw [names_siblings]
    decide +kernel
  exact .of_keepsApart keepsApart (fun _ => Document.isName_of_mem_names)
    ⟨keepsApart.dump_single, by decide, by decide, by decide⟩

/-- Two kernels whose sources have an extension of their own. -/
theorem execute_keeps_artifacts_workshop :
    let machine : Machine Unit := copying.machine
    let request := extensionRequest "ocl"
    let arguments := extensionArguments "ocl"
    let world := sourceWorkshop "all.cl"
    requested machine.environment arguments = .ok request ∧
      world.files.readText machine.workingDirectory request.source =
        .ok siblings ∧
      (Document.split siblings).names.Nodup ∧
      (request.toolchain machine).KeepsToOutputs request.outputDirectory
        (Document.split siblings).names ∧
      (request.config machine.workingDirectory).SourcesApart
        request.outputDirectory (Document.split siblings).names
        machine.workingDirectory world.files ∧
      (toolRuns machine arguments world).map
          (fun run => run.invocation.arguments) =
        [["-hsail", "a.ocl"], ["a.brig"], ["-hsail", "b.ocl"], ["b.brig"]] ∧
      (execute .splitter machine arguments world).exitCode = 0 ∧
      ∀ artifact ∈ (Document.split siblings).artifacts,
        (request.toolchain machine).HoldsArtifact request.outputDirectory
          artifact
          (execute .splitter machine arguments
            world).world.files := by
  intro machine request arguments world
  have asked : requested machine.environment arguments = .ok request := by
    decide +kernel
  have read : world.files.readText machine.workingDirectory request.source =
      .ok siblings := by
    decide +kernel
  have nodup : (Document.split siblings).names.Nodup := by
    rw [names_siblings]
    decide
  have keeps : (request.toolchain machine).KeepsToOutputs
      request.outputDirectory (Document.split siblings).names :=
    keepsToOutputs_extensionRequest (by decide)
  have apart := sourcesApart_oclRequest world.files
  have evaluated :
      (toolRuns machine arguments world).map
          (fun run => run.invocation.arguments) =
        [["-hsail", "a.ocl"], ["a.brig"], ["-hsail", "b.ocl"], ["b.brig"]] ∧
      (execute .splitter machine arguments world).exitCode =
        0 := by
    decide +kernel
  have kept := execute_keeps_artifacts asked read nodup keeps apart
  exact ⟨asked, read, nodup, keeps, apart, evaluated.1, evaluated.2,
    fun artifact member => (kept artifact member).2 evaluated.2⟩

/--
With the extension of binaries a source is taken for an old binary and cleared away
before the compiler starts.
-/
theorem artifact_cleared_away :
    let machine : Machine Unit := copying.machine
    let arguments := extensionArguments "brig"
    let world := sourceWorkshop "all.cl"
    requested machine.environment arguments = .ok (extensionRequest "brig") ∧
      world.files.readText [] ⟨"w/all.cl"⟩ = .ok siblings ∧
      (Document.split siblings).names.Nodup ∧
      ((extensionRequest "brig").toolchain machine).KeepsToOutputs ⟨"w"⟩
        (Document.split siblings).names ∧
      ∃ run ∈ toolRuns machine arguments world,
        run.invocation.arguments = ["-hsail", "a.brig"] ∧
          run.before.readFile [] ⟨"w/a.brig"⟩ = .error (.system .notFound) := by
  intro machine arguments world
  have nodup : (Document.split siblings).names.Nodup := by
    rw [names_siblings]
    decide
  refine ⟨by decide +kernel, by decide +kernel, nodup,
    keepsToOutputs_extensionRequest (by decide), ?_⟩
  have cleared : (toolRuns machine arguments world).any
      (fun run =>
        run.invocation.arguments = ["-hsail", "a.brig"] ∧
          run.before.readFile [] ⟨"w/a.brig"⟩ =
            .error (.system .notFound)) = true := by
    decide +kernel
  obtain ⟨run, member, met⟩ := List.any_eq_true.mp cleared
  exact ⟨run, member, of_decide_eq_true met⟩

end IsaUsage.CommandLine
