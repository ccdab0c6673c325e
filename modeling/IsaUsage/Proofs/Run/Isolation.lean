import IsaUsage.Proofs.Kernel.Division
import IsaUsage.Proofs.Run.Kernel
import IsaUsage.Proofs.Run.Pipeline
import Mathlib.Data.List.Forall2

namespace IsaUsage

/-!
# Kernels do not disturb each other

All kernels of a document share one directory and one report of fixed name, and
kernels of the same name share every file. Still each of them comes to what it
comes to alone: the first kernel of a run that fails is the first one that fails
by itself, and the entries of a summary are those of runs with a single kernel.
-/

open FileSystem HsailToolchain IsaUsage.Action

/--
A caller that takes every kernel, and that leaves directories and the programs of
the tools as they are.
-/
structure HsailToolchain.IsPatient
    (toolchain : HsailToolchain Memory)
    (files : FileSystem)
    (directory : Path)
    (onKernel : KernelUsage → Action Memory Unit) :
    Prop where
  never_fails :
    ∀ usage world, (onKernel usage world).outcome = .ok ()
  reworks :
    ∀ usage (world : World Memory),
      world.files.Reworked
        (fun location => ¬ toolchain.IsExecutable files directory location)
        (onKernel usage world).world.files

/-- A run of many kernels comes to what runs of single kernels come to. -/
structure Isolated
    (kernels : List KernelBlock)
    (single : KernelBlock → Except RunError Summary)
    (whole : Except RunError Summary) :
    Prop where
  ok_iff :
    (∃ summary, whole = .ok summary) ↔
      ∀ block ∈ kernels, ∃ summary, single block = .ok summary
  /-- The entries are those of the single runs, in order. -/
  entries :
    ∀ summary,
      whole = .ok summary →
        List.Forall₂
          (fun block entry =>
            ∃ alone, single block = .ok alone ∧ alone.kernels = [entry])
          kernels summary.kernels
  /-- The error is that of the first kernel that fails alone. -/
  first_error :
    ∀ error,
      whole = .error error →
        ∃ earlier block later,
          kernels = earlier ++ block :: later ∧
            (∀ other ∈ earlier, ∃ summary, single other = .ok summary) ∧
            single block = .error error

section Gathering

variable {built : KernelBlock → Except RunError KernelUsage}
  {kernels : List KernelBlock} {summary final : Summary}

/-- Add the kernels that were built to a summary, up to the first failure. -/
def gather
    (built : KernelBlock → Except RunError KernelUsage)
    (summary : Summary)
    (kernels : List KernelBlock) :
    Except RunError Summary :=
  kernels.foldlM (fun summary block => (built block).map summary.push) summary

/-- The first kernel that fails ends the gathering. -/
theorem gather_cons_of_error
    {block : KernelBlock}
    {error : RunError}
    (failed : built block = .error error) :
    gather built summary (block :: kernels) = .error error := by
  unfold gather
  rw [List.foldlM_cons, failed]
  rfl

/-- A kernel that succeeds adds its usage. -/
theorem gather_cons_of_ok
    {block : KernelBlock}
    {usage : KernelUsage}
    (done : built block = .ok usage) :
    gather built summary (block :: kernels) =
      gather built (summary.push usage) kernels := by
  unfold gather
  rw [List.foldlM_cons, done]
  rfl

/-- What is gathered are the usages of all kernels in order. -/
theorem gather_eq_ok
    (gathered : gather built summary kernels = .ok final) :
    ∃ entries,
      List.Forall₂ (fun block entry => built block = .ok entry) kernels
          entries ∧
        final.kernels = summary.kernels ++ entries := by
  induction kernels generalizing summary with
  | nil =>
      cases gathered
      exact ⟨[], .nil, by simp⟩
  | cons block kernels inductionHypothesis =>
      cases outcome : built block with
      | error error =>
          rw [gather_cons_of_error outcome] at gathered
          contradiction
      | ok usage =>
          rw [gather_cons_of_ok outcome] at gathered
          obtain ⟨entries, built, shape⟩ := inductionHypothesis gathered
          exact ⟨usage :: entries, .cons outcome built,
            by simp [shape, Summary.push]⟩

/-- If all is gathered, every kernel succeeded. -/
theorem built_of_gather_eq_ok
    (gathered : gather built summary kernels = .ok final) :
    ∀ block ∈ kernels, ∃ usage, built block = .ok usage := by
  obtain ⟨entries, all, -⟩ := gather_eq_ok gathered
  clear gathered
  induction all with
  | nil =>
      simp
  | cons done _ inductionHypothesis =>
      intro other member
      rcases List.mem_cons.mp member with rfl | later
      · exact ⟨_, done⟩
      · exact inductionHypothesis other later

/-- If gathering fails, it is with the error of the first kernel that failed. -/
theorem gather_eq_error
    {error : RunError}
    (gathered : gather built summary kernels = .error error) :
    ∃ earlier block later,
      kernels = earlier ++ block :: later ∧
        (∀ other ∈ earlier, ∃ usage, built other = .ok usage) ∧
        built block = .error error := by
  induction kernels generalizing summary with
  | nil =>
      contradiction
  | cons block kernels inductionHypothesis =>
      cases outcome : built block with
      | error first =>
          rw [gather_cons_of_error outcome] at gathered
          cases gathered
          exact ⟨[], block, kernels, rfl, by simp, outcome⟩
      | ok usage =>
          rw [gather_cons_of_ok outcome] at gathered
          obtain ⟨earlier, failing, later, rfl, fine, failed⟩ :=
            inductionHypothesis gathered
          refine ⟨block :: earlier, failing, later, rfl, ?_, failed⟩
          intro other member
          rcases List.mem_cons.mp member with rfl | member
          · exact ⟨usage, outcome⟩
          · exact fine other member

/-- If every kernel succeeds, all is gathered. -/
theorem exists_gather_eq_ok
    (all : ∀ block ∈ kernels, ∃ usage, built block = .ok usage) :
    ∃ final, gather built summary kernels = .ok final := by
  cases gathered : gather built summary kernels with
  | ok final =>
      exact ⟨final, rfl⟩
  | error error =>
      obtain ⟨earlier, block, later, rfl, -, failed⟩ :=
        gather_eq_error gathered
      obtain ⟨usage, done⟩ := all block (by simp)
      rw [failed] at done
      contradiction

/-- Gathering independent results is an isolated run. -/
theorem isolated_gather
    {single : KernelBlock → Except RunError Summary}
    {whole : Except RunError Summary}
    (single_eq : ∀ block ∈ kernels,
      single block = gather built .empty [block])
    (whole_eq : whole = gather built .empty kernels) :
    Isolated kernels single whole := by
  have single_of_ok {block : KernelBlock} (member : block ∈ kernels)
      {usage : KernelUsage} (done : built block = .ok usage) :
      single block = .ok (Summary.empty.push usage) := by
    rw [single_eq block member, gather_cons_of_ok done]
    rfl
  have ok_of_single {block : KernelBlock} (member : block ∈ kernels)
      {summary : Summary} (done : single block = .ok summary) :
      ∃ usage, built block = .ok usage := by
    cases outcome : built block with
    | ok usage =>
        exact ⟨usage, rfl⟩
    | error error =>
        rw [single_eq block member, gather_cons_of_error outcome] at done
        contradiction
  subst whole_eq
  refine ⟨⟨?_, ?_⟩, ?_, ?_⟩
  · rintro ⟨summary, gathered⟩ block member
    obtain ⟨usage, done⟩ := built_of_gather_eq_ok gathered block member
    exact ⟨_, single_of_ok member done⟩
  · intro all
    apply exists_gather_eq_ok
    intro block member
    obtain ⟨summary, done⟩ := all block member
    exact ok_of_single member done
  · intro summary gathered
    obtain ⟨entries, all, shape⟩ := gather_eq_ok gathered
    rw [shape, show Summary.empty.kernels = [] from rfl, List.nil_append]
    have members : List.Forall₂
        (fun block entry => block ∈ kernels ∧ built block = .ok entry)
        kernels entries :=
      (List.forall₂_and_left kernels entries).mpr ⟨fun _ => id, all⟩
    refine members.imp ?_
    rintro block entry ⟨member, done⟩
    exact ⟨_, single_of_ok member done, rfl⟩
  · intro error gathered
    obtain ⟨earlier, block, later, rfl, fine, failed⟩ :=
      gather_eq_error gathered
    refine ⟨earlier, block, later, rfl, ?_, ?_⟩
    · intro other member
      obtain ⟨usage, done⟩ := fine other member
      exact ⟨_, single_of_ok (by simp [member]) done⟩
    · rw [single_eq block (by simp), gather_cons_of_error failed]

end Gathering

section Running

variable {toolchain : HsailToolchain Memory} {changeable : Location → Prop}
  {origin : FileSystem} {directory : Path} {place : Location}
  {onKernel : KernelUsage → Action Memory Unit} {preamble : String}

/-- What comes of one kernel from a given world. -/
def HsailToolchain.built
    (toolchain : HsailToolchain Memory)
    (directory : Path)
    (preamble : String)
    (world : World Memory)
    (block : KernelBlock) :
    Except RunError KernelUsage :=
  ((toolchain.pipeline directory).process block.name
    (block.artifact preamble) world).outcome

/-- A run whose first kernel cannot be built ends there. -/
theorem outcome_runArtifacts_of_all_fail
    {blocks : List KernelBlock}
    {world : World Memory}
    (fails : ∀ block ∈ blocks, ∀ usage,
      toolchain.built directory preamble world block ≠ .ok usage)
    (summary : Summary) :
    ((toolchain.pipeline directory).runArtifacts onKernel summary
        (Document.artifacts ⟨preamble, blocks⟩) world).outcome =
      gather (toolchain.built directory preamble world) summary blocks := by
  cases blocks with
  | nil =>
      rfl
  | cons block blocks =>
      cases outcome : toolchain.built directory preamble world block with
      | ok usage =>
          exact (fails block List.mem_cons_self usage outcome).elim
      | error error =>
          have ended := @Pipeline.advance_of_error _
            (toolchain.pipeline directory) onKernel summary
            (block.name, block.artifact preamble) world error outcome
          rw [gather_cons_of_error outcome]
          exact (bind_of_error ended.1).1

/-- From reworked files a run comes to what its kernels come to at the origin. -/
theorem outcome_runArtifacts_of_prepared
    {blocks : List KernelBlock}
    (prepared : ∀ block ∈ blocks,
      toolchain.Prepared changeable origin directory place block.name)
    (compilerSteady : toolchain.IsSteady changeable origin directory
      toolchain.config.compiler)
    (finalizerSteady : toolchain.IsSteady changeable origin directory
      toolchain.config.finalizer)
    (never_fails : ∀ usage world, (onKernel usage world).outcome = .ok ())
    (reworks : ∀ usage (world : World Memory),
      world.files.Reworked changeable (onKernel usage world).world.files)
    {first world : World Memory}
    (start : first.files = origin)
    (reworked : origin.Reworked changeable world.files)
    (summary : Summary) :
    ((toolchain.pipeline directory).runArtifacts onKernel summary
        (Document.artifacts ⟨preamble, blocks⟩) world).outcome =
      gather (toolchain.built directory preamble first) summary blocks := by
  induction blocks generalizing world summary with
  | nil =>
      rfl
  | cons block blocks inductionHypothesis =>
      have preparedHere := prepared block List.mem_cons_self
      obtain ⟨binary, report, outcome, settles⟩ :=
        preparedHere.process_settled compilerSteady finalizerSteady
          (block.artifact preamble)
      have holds : Holds changeable origin [] world.files :=
        ⟨reworked, by simp⟩
      have holdsFirst : Holds changeable origin [] first.files :=
        ⟨by rw [start]; exact Reworked.refl _, by simp⟩
      have alone : toolchain.built directory preamble first block = outcome :=
        settles.outcome_eq first holdsFirst
      have here := settles.outcome_eq world holds
      cases outcome with
      | error error =>
          have ended := @Pipeline.advance_of_error _
            (toolchain.pipeline directory) onKernel summary
            (block.name, block.artifact preamble) world error here
          rw [gather_cons_of_error alone]
          exact (bind_of_error ended.1).1
      | ok usage =>
          have processed := settles.reached world holds usage rfl
          obtain ⟨advanced, advancedWorld⟩ :=
            @Pipeline.advance_of_taken _ (toolchain.pipeline directory)
              onKernel summary (block.name, block.artifact preamble) usage
              world here (never_fails _ _)
          rw [gather_cons_of_ok alone]
          refine (bind_of_ok advanced).1.trans ?_
          apply inductionHypothesis
            (fun other member =>
              prepared other (List.mem_cons_of_mem block member))
          rw [advancedWorld]
          exact processed.reworked.trans (reworks _ _)

/-- A run with one or all kernels comes to what they come to by themselves. -/
theorem outcome_runDocument_eq_gather
    {kernels blocks : List KernelBlock}
    {world : World Memory}
    (names : ∀ block ∈ kernels, Declaration.IsName block.name.toList)
    (keepsApart : toolchain.config.KeepsApart (kernels.map KernelBlock.name))
    (wellBehaved : toolchain.IsWellBehaved world.files directory
      (kernels.map KernelBlock.name))
    (patient : toolchain.IsPatient world.files directory onKernel)
    (subset : ∀ block ∈ blocks, block ∈ kernels) :
    ((toolchain.pipeline directory).runDocument onKernel ⟨preamble, blocks⟩
        world).outcome =
      gather (toolchain.built directory preamble world) .empty blocks := by
  refine (Pipeline.runDocument_eq _ _).1.trans ?_
  by_cases some_built : ∃ block ∈ blocks, ∃ usage,
      toolchain.built directory preamble world block = .ok usage
  · obtain ⟨block, member, usage, done⟩ := some_built
    obtain ⟨place, resolved⟩ := exists_directoryAt_of_process
      (ToolchainConfig.isOrdinary_fileName
        (names block (subset block member)) keepsApart.source_single) done
    have prepared (other : KernelBlock) (isBlock : other ∈ blocks) :
        toolchain.Prepared
          (fun location =>
            ¬ toolchain.IsExecutable world.files directory location)
          world.files directory place other.name := by
      have isKernel : other.name ∈ kernels.map KernelBlock.name :=
        List.mem_map_of_mem (subset other isBlock)
      exact ⟨reaches_of_directoryAt resolved,
        names other (subset other isBlock), keepsApart.of_mem isKernel,
        wellBehaved.executables_apart place resolved _ isKernel,
        wellBehaved.translates _ isKernel⟩
    have steady (tool : Path)
        (isTool : tool = toolchain.config.compiler ∨
          tool = toolchain.config.finalizer)
        (found : ∃ program,
          toolchain.machine.program world.files place tool = .ok program) :
        toolchain.IsSteady
          (fun location =>
            ¬ toolchain.IsExecutable world.files directory location)
          world.files directory tool := by
      rcases found with ⟨program, found⟩
      have executable :
          toolchain.IsExecutable world.files directory program := by
        rcases isTool with rfl | rfl
        · exact ⟨place, resolved, Or.inl found⟩
        · exact ⟨place, resolved, Or.inr found⟩
      intro other resolvedOther files reworked
      rw [resolved, Except.ok.injEq] at resolvedOther
      subst resolvedOther
      rw [found]
      exact Machine.program_of_reworked reworked found (not_not.mpr executable)
    obtain ⟨compilerFound, finalizerFound⟩ :=
      (prepared block member).exists_programs_of_process
        (steady _ (Or.inl rfl)) ⟨Reworked.refl _, by simp⟩ done
    exact outcome_runArtifacts_of_prepared prepared
      (steady _ (Or.inl rfl) compilerFound)
      (steady _ (Or.inr rfl) finalizerFound) patient.never_fails
      patient.reworks rfl (Reworked.refl _) .empty
  · apply outcome_runArtifacts_of_all_fail
    intro block member usage done
    exact some_built ⟨block, member, usage, done⟩

/--
A run of a whole document succeeds exactly if every kernel can be built by
itself from the same start, and then has the same entries; otherwise it fails as
the first kernel does that cannot.
-/
theorem runDocument_isolated
    {source : String}
    {world : World Memory}
    (keepsApart : toolchain.config.KeepsApart (Document.split source).names)
    (wellBehaved : toolchain.IsWellBehaved world.files directory
      (Document.split source).names)
    (patient : toolchain.IsPatient world.files directory onKernel) :
    Isolated (Document.split source).kernels
      (fun block =>
        ((toolchain.pipeline directory).runDocument onKernel
          ⟨(Document.split source).preamble, [block]⟩ world).outcome)
      ((toolchain.pipeline directory).runDocument onKernel
        (Document.split source) world).outcome := by
  have names : ∀ block ∈ (Document.split source).kernels,
      Declaration.IsName block.name.toList :=
    fun _ => Document.isName_of_mem_split
  apply isolated_gather
  · intro block member
    apply outcome_runDocument_eq_gather names keepsApart wellBehaved patient
    intro other isBlock
    rw [List.mem_singleton.mp isBlock]
    exact member
  · exact outcome_runDocument_eq_gather names keepsApart wellBehaved patient
      fun _ => id

end Running

/-- A document that declares two kernels of one name. -/
def twins : String :=
  "__kernel void b\n__kernel void b\n"

/-- A caller that does nothing is patient. -/
theorem isPatient_pure
    (toolchain : HsailToolchain Memory)
    (files : FileSystem)
    (directory : Path) :
    toolchain.IsPatient files directory fun _ => pure () where
  never_fails := fun _ _ => rfl
  reworks := fun _ world => Reworked.refl world.files

theorem names_twins : (Document.split twins).names = ["b", "b"] := by
  decide +kernel

theorem keepsApart_twins :
    (copying : HsailToolchain Unit).config.KeepsApart
      (Document.split twins).names := by
  rw [names_twins]
  decide

theorem isWellBehaved_twins :
    (copying : HsailToolchain Unit).IsWellBehaved workshop ⟨"w"⟩
      (Document.split twins).names := by
  have isPlace : workshop.directoryAt [] ⟨"w"⟩ = .ok ["w"] :=
    eq_ok_of_toOption (by decide +kernel)
  rw [names_twins]
  apply isWellBehaved_copyingTools isPlace
  decide +kernel

/-- Two kernels of one name. -/
theorem runDocument_isolated_twins :
    (copying : HsailToolchain Unit).config.KeepsApart
        (Document.split twins).names ∧
      (copying : HsailToolchain Unit).IsWellBehaved workshop ⟨"w"⟩
        (Document.split twins).names ∧
      Isolated (Document.split twins).kernels
        (fun block =>
          ((copying.pipeline ⟨"w"⟩).runDocument (fun _ => pure ())
            ⟨(Document.split twins).preamble, [block]⟩
            ⟨workshop, ()⟩).outcome)
        ((copying.pipeline ⟨"w"⟩).runDocument (fun _ => pure ())
          (Document.split twins) ⟨workshop, ()⟩).outcome :=
  ⟨keepsApart_twins, isWellBehaved_twins,
    runDocument_isolated keepsApart_twins isWellBehaved_twins
      (isPatient_pure copying workshop ⟨"w"⟩)⟩

/-- Kernels that can be built alone but not together are not isolated. -/
theorem not_isolated_of_toOption
    {kernels : List KernelBlock}
    {single : KernelBlock → Except RunError Summary}
    {whole : Except RunError Summary}
    (alone : ∀ block ∈ kernels, (single block).toOption.isSome)
    (together : whole.toOption = none) :
    ¬ Isolated kernels single whole := by
  intro isolated
  have each : ∀ block ∈ kernels, ∃ summary, single block = .ok summary := by
    intro block member
    obtain ⟨summary, found⟩ :=
      Option.isSome_iff_exists.mp (alone block member)
    exact ⟨summary, eq_ok_of_toOption found⟩
  obtain ⟨summary, done⟩ := isolated.ok_iff.mpr each
  rw [done] at together
  contradiction

/-- A workshop in which a finalizer stands where a report will be kept. -/
def crowdedWorkshop : FileSystem :=
  workshop.put ["w", "b.isa"] (.file ByteArray.empty true)

/--
Apart from sources, binaries and the report of fixed name is not enough: a
finalizer among the kept reports is written over by the first of two kernels of
one name, so that the second cannot be built although each can alone.
-/
theorem not_isolated_crowdedWorkshop :
    let toolchain : HsailToolchain Unit := copyingTools ⟨"cloc.sh"⟩ ⟨"./b.isa"⟩
    let run (document : Document) :=
      ((toolchain.pipeline ⟨"w"⟩).runDocument (fun _ => pure ()) document
        ⟨crowdedWorkshop, ()⟩).outcome
    toolchain.config.KeepsApart (Document.split twins).names ∧
      (∀ kernel ∈ (Document.split twins).names,
        toolchain.TranslatesKernel crowdedWorkshop ⟨"w"⟩ kernel ∧
          ∀ location ∈ [toolchain.sourceLocation ["w"] kernel,
              toolchain.binaryLocation ["w"] kernel,
              toolchain.dumpLocation ["w"]],
            ¬ toolchain.IsExecutable crowdedWorkshop ⟨"w"⟩ location) ∧
      toolchain.IsPatient crowdedWorkshop ⟨"w"⟩ (fun _ => pure ()) ∧
      ¬ Isolated (Document.split twins).kernels
        (fun block => run ⟨(Document.split twins).preamble, [block]⟩)
        (run (Document.split twins)) := by
  intro toolchain run
  refine ⟨?_, ?_, isPatient_pure toolchain crowdedWorkshop ⟨"w"⟩, ?_⟩
  · rw [names_twins]
    decide
  · intro kernel member
    refine ⟨translatesKernel_copyingTools _ _ _ _ kernel, ?_⟩
    rw [names_twins] at member
    have isTwin : kernel = "b" := by
      simpa using member
    subst isTwin
    intro location listed
    apply not_isExecutable
    revert location
    decide +kernel
  · exact not_isolated_of_toOption (by decide +kernel) (by decide +kernel)

/-- A caller that takes every kernel, and takes the compiler away. -/
def takeCompiler (_ : KernelUsage) : Action Unit Unit :=
  fun world =>
    ⟨.ok (), { world with files := world.files.erase ["bin", "cloc.sh"] }, []⟩

/--
That no call fails is not enough either: a caller that takes the compiler away
leaves none to the kernels that follow.
-/
theorem not_isolated_takeCompiler :
    (copying : HsailToolchain Unit).config.KeepsApart
        (Document.split twins).names ∧
      (copying : HsailToolchain Unit).IsWellBehaved workshop ⟨"w"⟩
        (Document.split twins).names ∧
      (∀ usage world, (takeCompiler usage world).outcome = .ok ()) ∧
      ¬ Isolated (Document.split twins).kernels
        (fun block =>
          ((copying.pipeline ⟨"w"⟩).runDocument takeCompiler
            ⟨(Document.split twins).preamble, [block]⟩
            ⟨workshop, ()⟩).outcome)
        ((copying.pipeline ⟨"w"⟩).runDocument takeCompiler
          (Document.split twins) ⟨workshop, ()⟩).outcome :=
  ⟨keepsApart_twins, isWellBehaved_twins, fun _ _ => rfl,
    not_isolated_of_toOption (by decide +kernel) (by decide +kernel)⟩

/-- A document that declares two kernels. -/
def couple : String :=
  "__kernel void a\n__kernel void b\n"

theorem names_couple : (Document.split couple).names = ["a", "b"] := by
  decide +kernel

/--
Tools that copy, the compiler into a program. What is started from elsewhere is no
tool and fails.
-/
def markingTools : HsailToolchain Unit where
  config := { compiler := ⟨"a.brig"⟩, finalizer := ⟨"finalizer_dumper"⟩ }
  machine := {
    workingDirectory := []
    searchPath := [⟨"."⟩, ⟨"/bin"⟩]
    environment := .empty
    behaveIn := fun _ invocation world =>
      let input := invocation.directory ++ [Script.lastArgument invocation]
      match invocation.program, world.files.find? input with
      | "bin" :: _, some (.file contents _) =>
          (⟨.exited 0, ByteArray.empty, ByteArray.empty⟩,
            { world with
              files := world.files.put
                (invocation.directory ++ [Machine.copyName invocation])
                (.file contents (invocation.program == ["bin", "a.brig"])) })
      | _, _ => (⟨.exited 1, ByteArray.empty, ByteArray.empty⟩, world)
  }

/--
That outputs are no programs is needed too: where a compiler of the name of a
binary is looked for in the output directory first, the binary is found in place
of the compiler by the kernels that follow.
-/
theorem not_isolated_markingTools :
    let files := workshop.put ["bin", "a.brig"] (.file ByteArray.empty true)
    let run (document : Document) :=
      ((markingTools.pipeline ⟨"w"⟩).runDocument (fun _ => pure ()) document
        ⟨files, ()⟩).outcome
    markingTools.config.KeepsApart (Document.split couple).names ∧
      (∀ kernel ∈ (Document.split couple).names,
        ∀ location ∈ markingTools.ownLocations ["w"] kernel,
          ¬ markingTools.IsExecutable files ⟨"w"⟩ location) ∧
      markingTools.IsPatient files ⟨"w"⟩ (fun _ => pure ()) ∧
      ¬ Isolated (Document.split couple).kernels
        (fun block => run ⟨(Document.split couple).preamble, [block]⟩)
        (run (Document.split couple)) := by
  intro files run
  refine ⟨?_, ?_, isPatient_pure markingTools files ⟨"w"⟩, ?_⟩
  · rw [names_couple]
    decide
  · have plain : ∀ kernel ∈ ["a", "b"],
        ∀ location ∈ markingTools.ownLocations ["w"] kernel,
          IsPlain (files.find? location) := by
      decide +kernel
    rw [names_couple]
    exact fun kernel member location own =>
      not_isExecutable (plain kernel member location own)
  · exact not_isolated_of_toOption (by decide +kernel) (by decide +kernel)

end IsaUsage
