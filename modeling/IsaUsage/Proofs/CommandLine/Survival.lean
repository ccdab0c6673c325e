import IsaUsage.Proofs.CommandLine.Splitter
import IsaUsage.Proofs.Run.Confinement

namespace IsaUsage

/-!
# The source survives

A run over a file writes only where the files of its kernels are. So the file that
it reads is as it was afterwards, however the run ends, unless it is itself one of
those files: a source that is called like the source of one of its own kernels is
written over.
-/

open FileSystem HsailToolchain IsaUsage.Action CommandLine

section Running

variable {toolchain : HsailToolchain Memory} {directory source : Path}
  {onKernel : KernelUsage → Action Memory Unit} {world : World Memory}
  {contents : ByteArray} {paths : List Path}

/-- A run over a file changes nothing but what its text makes it generate. -/
theorem staysWithin_runFile
    (own : ∀ text,
      world.files.readText toolchain.base source = .ok text →
        toolchain.KeepsToOutputs directory (Document.split text).names ∧
          ∀ path ∈ generatedPaths toolchain.config directory text,
            path ∈ paths)
    (hearing : ∀ usage, Confined toolchain.base paths (onKernel usage)) :
    ((toolchain.pipeline directory).runFile onKernel source world).StaysWithin
      toolchain.base paths world.files := by
  apply Effect.StaysWithin.bind (Confined.inspect _ _ world)
  intro text read
  obtain ⟨keeps, listed⟩ := own text (inspect_eq_ok read)
  have confined : Confined toolchain.base paths (do
      Action.log (.sourceRead source text.utf8ByteSize)
      (toolchain.pipeline directory).runText onKernel text) := by
    apply Confined.bind (Confined.log _)
    intro _
    apply Confined.bind fun _ => .of_still rfl
    intro _
    apply confined_runDocument keeps _ hearing
    intro kernel member path isOwn
    exact listed path (mem_generatedPaths member isOwn)
  exact confined _

/-- The text of a file is its decoded bytes. -/
theorem decode?_of_readText
    {files : FileSystem}
    {base : Location}
    {text : String}
    (bytes : files.readFile base source = .ok contents)
    (read : files.readText base source = .ok text) :
    Text.decode? contents = some text := by
  unfold readText at read
  rw [bytes] at read
  dsimp only [bind, Except.bind] at read
  split at read
  · rename_i decoded
    cases read
    exact decoded
  · contradiction

/--
A run leaves the file that it reads as it was, and so does the splitter, unless
the file is one of those that the run generates.
-/
theorem runFile_keeps_source
    (readable : world.files.readFile toolchain.base source = .ok contents)
    (keeps : ∀ text,
      Text.decode? contents = some text →
        toolchain.KeepsToOutputs directory (Document.split text).names)
    (apart : ∀ text,
      Text.decode? contents = some text →
        ∀ path ∈ generatedPaths toolchain.config directory text,
          world.files.locate toolchain.base path ≠
            world.files.locate toolchain.base source) :
    (∀ onKernel : KernelUsage → Action Memory Unit,
      (∀ usage world, (onKernel usage world).world.files = world.files) →
        ((toolchain.pipeline directory).runFile onKernel source
          world).world.files.readFile toolchain.base source = .ok contents) ∧
      ∀ arguments request,
        requested toolchain.machine.environment arguments = .ok request →
          request.toolchain toolchain.machine = toolchain →
            request.outputDirectory = directory →
              request.source = source →
                (execute .splitter toolchain.machine arguments
                  world).world.files.readFile toolchain.base source =
                    .ok contents := by
  have survives (onKernel : KernelUsage → Action Memory Unit)
      (still : ∀ usage world,
        (onKernel usage world).world.files = world.files) :
      ((toolchain.pipeline directory).runFile onKernel source
        world).world.files.readFile toolchain.base source = .ok contents := by
    have hearing (paths : List Path) (usage : KernelUsage) :
        Confined toolchain.base paths (onKernel usage) :=
      fun _ => .of_still (still usage _)
    cases decoded : Text.decode? contents with
    | none =>
        refine (staysWithin_runFile ?_ (hearing [])).changed.readFile readable
          (by simp)
        intro text read
        rw [decode?_of_readText readable read] at decoded
        contradiction
    | some text =>
        refine (staysWithin_runFile ?_ (hearing _)).changed.readFile readable
          (apart text decoded)
        intro other read
        cases decoded.symm.trans (decode?_of_readText readable read)
        exact ⟨keeps text decoded, fun _ => id⟩
  refine ⟨survives, ?_⟩
  intro arguments request asked sameToolchain sameDirectory sameSource
  have samePipeline : request.pipeline toolchain.machine =
      toolchain.pipeline directory := by
    rw [← sameToolchain, ← sameDirectory]
    rfl
  rw [execute_of_requested asked, world_execution, SplitRequest.job]
  show ((request.action toolchain.machine
    toolchain.machine.environment.wantsColor) world).world.files.readFile toolchain.base source = .ok contents
  rw [SplitRequest.action, world_bind_of_still request.world_printSummary,
    samePipeline, sameSource]
  exact survives _ fun usage world =>
    congrArg World.files (request.world_printKernel _ usage world)

end Running

/-- A document that declares two kernels of different names. -/
def siblings : String :=
  "__kernel void a\n__kernel void b\n"

theorem names_siblings : (Document.split siblings).names = ["a", "b"] := by
  decide +kernel

theorem keepsToOutputs_siblings :
    (copying : HsailToolchain Unit).KeepsToOutputs ⟨"w"⟩
      (Document.split siblings).names := by
  rw [names_siblings]
  exact keepsToOutputs_copyingTools (by decide +kernel) (by decide +kernel)

/-- The workshop with the document under a given name. -/
def sourceWorkshop (name : String) : World Unit where
  files := workshop.put ["w", name] (.file siblings.toUTF8 false)
  memory := ()

/-- A request to build the kernels of the workshop in the workshop. -/
def workshopRequest : SplitRequest :=
  ⟨⟨"w/all.cl"⟩, ⟨"w"⟩, ⟨"cloc.sh"⟩, ⟨"finalizer_dumper"⟩, "cl", false, 0⟩

theorem requested_workshopRequest :
    requested .empty ["w/all.cl", "--output-dir=w"] = .ok workshopRequest := by
  decide +kernel

theorem toolchain_workshopRequest :
    workshopRequest.toolchain (copying : HsailToolchain Unit).machine =
      copying := by
  have sameConfig : workshopRequest.config [] =
      (copying : HsailToolchain Unit).config := by
    decide +kernel
  exact congrArg (HsailToolchain.mk · copying.machine) sameConfig

/-- A source next to its artifacts, which lies apart from them. -/
theorem runFile_keeps_source_workshop :
    let world := sourceWorkshop "all.cl"
    let run := (copying.pipeline ⟨"w"⟩).runFile (fun _ => pure ())
      ⟨"w/all.cl"⟩ world
    let execution := execute .splitter copying.machine
      ["w/all.cl", "--output-dir=w"] world
    world.files.readFile [] ⟨"w/all.cl"⟩ = .ok siblings.toUTF8 ∧
      run.outcome.isOk = true ∧
      run.world.files.readFile [] ⟨"w/all.cl"⟩ = .ok siblings.toUTF8 ∧
      execution.exitCode = 0 ∧
      execution.world.files.readFile [] ⟨"w/all.cl"⟩ =
        .ok siblings.toUTF8 := by
  have readable : (sourceWorkshop "all.cl").files.readFile [] ⟨"w/all.cl"⟩ =
      .ok siblings.toUTF8 := by
    decide +kernel
  have apart : ∀ path ∈ generatedPaths (copying : HsailToolchain Unit).config
      ⟨"w"⟩ siblings,
      (sourceWorkshop "all.cl").files.locate [] path ≠
        (sourceWorkshop "all.cl").files.locate [] ⟨"w/all.cl"⟩ := by
    decide +kernel
  have isText (text : String)
      (decoded : Text.decode? siblings.toUTF8 = some text) :
      siblings = text :=
    Option.some.inj ((Text.decode?_toUTF8 siblings).symm.trans decoded)
  obtain ⟨runs, programs⟩ := @runFile_keeps_source _ copying ⟨"w"⟩
    ⟨"w/all.cl"⟩ (sourceWorkshop "all.cl") siblings.toUTF8 readable
    (by
      intro text decoded
      obtain rfl := isText text decoded
      exact keepsToOutputs_siblings)
    (by
      intro text decoded
      obtain rfl := isText text decoded
      exact apart)
  exact ⟨readable, by decide +kernel, runs (fun _ => pure ()) fun _ _ => rfl,
    by decide +kernel, programs _ _ requested_workshopRequest
      toolchain_workshopRequest rfl rfl⟩

/--
A source that is called like the source of its first kernel is written over, and
the other kernels are lost.
-/
theorem source_overwritten :
    let toolchain : HsailToolchain Unit := copying
    let world := sourceWorkshop "a.cl"
    let run := (toolchain.pipeline ⟨"w"⟩).runFile (fun _ => pure ())
      ⟨"w/a.cl"⟩ world
    toolchain.KeepsToOutputs ⟨"w"⟩ (Document.split siblings).names ∧
      world.files.readText toolchain.base ⟨"w/a.cl"⟩ = .ok siblings ∧
      run.outcome.isOk = true ∧
      run.world.files.readText toolchain.base ⟨"w/a.cl"⟩ =
        .ok "__kernel void a\n" :=
  ⟨keepsToOutputs_siblings, by decide +kernel⟩

end IsaUsage
