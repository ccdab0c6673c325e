import IsaUsage.Proofs.Toolchain.Build
import IsaUsage.Run.Pipeline

namespace IsaUsage

/-!
# One kernel of a run is settled

A run writes the source of a kernel before it builds it, so nothing that was at
any of the kernel's own locations has a say in what comes of it.
-/

open FileSystem HsailToolchain IsaUsage.Action

/-- The pipeline of a toolchain with its output directory. -/
def HsailToolchain.pipeline
    (toolchain : HsailToolchain Memory)
    (directory : Path) :
    Pipeline Memory where
  toolchain := toolchain.toToolchain
  outputDirectory := directory
  workingDirectory := toolchain.base

variable {toolchain : HsailToolchain Memory} {changeable : Location → Prop}
  {origin : FileSystem} {directory : Path} {place : Location}
  {kernel : String}

/-- The two tools need not be asked where a source goes: it is written there. -/
theorem HsailToolchain.writeArtifact_eq
    (toolchain : HsailToolchain Memory)
    (directory : Path)
    (kernel artifact : String) :
    (toolchain.pipeline directory).writeArtifact kernel artifact = (do
      let path := toolchain.config.sourcePath directory kernel
      Action.change
        (fun files => files.createFile toolchain.base path artifact.toUTF8)
        (.unwritable path)
      Action.log (.artifactWritten kernel path)) :=
  pure_bind _ _

/-- What is shown as the command is fixed before a kernel is built. -/
theorem HsailToolchain.process_eq
    (toolchain : HsailToolchain Memory)
    (directory : Path)
    (kernel artifact : String) :
    (toolchain.pipeline directory).process kernel artifact = (do
      (toolchain.pipeline directory).writeArtifact kernel artifact
      let report ← toolchain.isaReport kernel directory
      let usage ← analyzeReport toolchain.base report
      return ⟨kernel, toolchain.config.compileCommand kernel, usage⟩) :=
  pure_bind _ _

/-- A report is only looked at. -/
theorem world_analyzeReport
    (base : Location)
    (report : Path)
    (world : World Memory) :
    (analyzeReport base report world).world = world :=
  (world_bind_of_still (fun _ _ => rfl) world).trans (world_inspect _ _ world)

/-- Reading a report of known contents is settled. -/
theorem analyzeReport_settled
    {base : Location}
    {name : String}
    {contents : ByteArray}
    {facts : List (Location × Finding)}
    (touched : List Location)
    (reaches : origin.Reaches base directory place)
    (ordinary : IsOrdinary name)
    (given : TellBytes facts (place ++ [name]) contents) :
    Settled (Holds changeable origin facts)
      (analyzeReport base (directory.join ⟨name⟩) :
        Action Memory UsageRecord)
      touched fun _ => Holds changeable origin facts := by
  have looked (files : FileSystem)
      (holds : Holds changeable origin facts files) :
      files.readText base (directory.join ⟨name⟩) =
        slot directory place name >>= fun _ =>
          (Text.decode? contents).elim (.error .notUtf8) .ok := by
    obtain ⟨isProgram, found⟩ := holds.find?_of_tellBytes given
    unfold readText readFile
    rw [(holds.reworked.sameDirectories.reaches reaches).nodeAt_join ordinary]
    cases usable : slot directory place name with
    | error failure =>
        rfl
    | ok location =>
        have isEntry := slot_eq_ok usable
        subst isEntry
        cases decoded : Text.decode? contents <;>
          simp [bind, Except.bind, found, decoded]
  refine (Settled.inspect _ looked).bind fun text => ?_
  exact (Settled.pure (analyzeText text)).weaken (fun _ => id) (fun _ => id)
    fun _ _ => And.right

/-- A kernel that was built had its source written and then its report made. -/
theorem HsailToolchain.process_eq_ok
    {artifact : String}
    {usage : KernelUsage}
    {world : World Memory}
    (processed : ((toolchain.pipeline directory).process kernel artifact
      world).outcome = .ok usage) :
    ∃ written report,
      ((toolchain.pipeline directory).writeArtifact kernel artifact
          world).outcome = .ok () ∧
        ((toolchain.pipeline directory).writeArtifact kernel artifact
          world).world = written ∧
        (toolchain.isaReport kernel directory written).outcome = .ok report ∧
        ((toolchain.pipeline directory).process kernel artifact world).world =
          (toolchain.isaReport kernel directory written).world := by
  rw [process_eq] at processed ⊢
  obtain ⟨_, written, rest, afterWriting⟩ := Action.bind_eq_ok processed
  obtain ⟨report, built, -, afterBuilding⟩ := Action.bind_eq_ok rest
  refine ⟨_, report, written, rfl, built, ?_⟩
  rw [afterWriting, afterBuilding, world_bind_of_still (fun _ _ => rfl),
    world_analyzeReport]

/-- A kernel is built only in a directory that there is. -/
theorem HsailToolchain.exists_directoryAt_of_process
    {artifact : String}
    {usage : KernelUsage}
    {world : World Memory}
    (ordinary : IsOrdinary (toolchain.config.sourceName kernel))
    (processed : ((toolchain.pipeline directory).process kernel artifact
      world).outcome = .ok usage) :
    ∃ place,
      world.files.directoryAt toolchain.base directory = .ok place := by
  obtain ⟨_, report, written, rfl, built, -⟩ := process_eq_ok processed
  rw [writeArtifact_eq] at written built
  obtain ⟨_, changed, -, -⟩ := Action.bind_eq_ok written
  obtain ⟨files, created⟩ := Action.change_eq_ok changed
  obtain ⟨place, reaches⟩ := reaches_of_createFile ordinary created
  obtain ⟨_, _, compiled, -⟩ := isaReport_eq_ok built
  obtain ⟨started, invocation, -, -, invoked, -⟩ := produce_eq_ok compiled
  obtain ⟨_, _, resolved, -, -⟩ := Machine.invocation_eq_ok invoked
  exact ⟨place,
    reaches.directoryAt_of_checkPath (checkPath_of_directoryAt resolved)⟩

namespace HsailToolchain.Prepared

variable
  (prepared : toolchain.Prepared changeable origin directory place kernel)

include prepared

/-- Writing the source of a kernel is settled. -/
theorem writeArtifact_settled (artifact : String) :
    Settled (Holds changeable origin [])
      ((toolchain.pipeline directory).writeArtifact kernel artifact)
      [toolchain.sourceLocation place kernel]
      fun _ => Holds changeable origin
        (toolchain.writtenFacts place kernel artifact.toUTF8) := by
  have created (files : FileSystem) (holds : Holds changeable origin [] files) :=
    (holds.reworked.sameDirectories.reaches prepared.reaches).createFile_join
      prepared.source_ordinary artifact.toUTF8
  have allowed : changeable (toolchain.sourceLocation place kernel) :=
    prepared.allowed _ (mem_ownLocations.mpr (Or.inl rfl))
  rw [writeArtifact_eq]
  refine Settled.bind ?_ fun _ => Settled.log _
  cases usable : slot directory place (toolchain.config.sourceName kernel) with
  | error failure =>
      apply Settled.change_of_error failure
      intro files holds
      refine (created files holds).trans ?_
      rw [usable]
      rfl
  | ok location =>
      have isEntry : location = toolchain.sourceLocation place kernel :=
        slot_eq_ok usable
      subst isEntry
      by_cases isDirectory :
          origin.find? (toolchain.sourceLocation place kernel) =
            some .directory
      · apply Settled.change_of_error (.system .isADirectory)
        intro files holds
        have found := (holds.reworked.sameDirectories _).mp isDirectory
        refine (created files holds).trans ?_
        rw [usable]
        simp only [bind, Except.bind, found]
      · apply Settled.change_of_ok fun files =>
          files.put (toolchain.sourceLocation place kernel)
            (.file artifact.toUTF8
              ((files.find? (toolchain.sourceLocation place kernel)).any
                Node.isProgram))
        · intro files holds
          have free := holds.ne_directory isDirectory
          refine (created files holds).trans ?_
          rw [usable]
          simp only [bind, Except.bind]
        · intro files _ other notTouched
          rw [find?_put, if_neg]
          rintro rfl
          exact notTouched List.mem_cons_self
        · intro files holds
          exact holds.rewrite (by simp) allowed (holds.ne_directory isDirectory) _

/-- What comes of a kernel is settled, and so is what is left of it. -/
theorem process_settled
    (compilerSteady : toolchain.IsSteady changeable origin directory
      toolchain.config.compiler)
    (finalizerSteady : toolchain.IsSteady changeable origin directory
      toolchain.config.finalizer)
    (artifact : String) :
    ∃ binary report,
      Settled (Holds changeable origin [])
        ((toolchain.pipeline directory).process kernel artifact)
        (toolchain.ownLocations place kernel)
        fun _ => Holds changeable origin
          (toolchain.builtFacts place kernel artifact.toUTF8 binary
            report) := by
  obtain ⟨binary, report, built⟩ := prepared.isaReport_settled compilerSteady
    finalizerSteady artifact.toUTF8
  rw [process_eq]
  refine ⟨binary, report, Settled.bind
    ((prepared.writeArtifact_settled artifact).weaken (fun _ => id) ?_
      fun _ _ => id) fun _ => Settled.bind built fun path => ?_⟩
  · intro location member
    rw [List.mem_singleton.mp member]
    exact mem_ownLocations.mpr (Or.inl rfl)
  · apply Settled.of_fact
    rintro rfl
    refine Settled.bind (analyzeReport_settled _ prepared.reaches
      prepared.kept_ordinary (Or.inr ⟨false, List.mem_cons_self⟩))
        fun usage => ?_
    exact (Settled.pure _).weaken (fun _ => id) (fun _ => id)
      fun _ _ => And.right

/-- A kernel is built only with tools that were found at the origin. -/
theorem exists_programs_of_process
    {artifact : String}
    {usage : KernelUsage}
    {world : World Memory}
    (steady :
      (∃ program,
        toolchain.machine.program origin place toolchain.config.compiler =
          .ok program) →
        toolchain.IsSteady changeable origin directory toolchain.config.compiler)
    (holds : Holds changeable origin [] world.files)
    (processed : ((toolchain.pipeline directory).process kernel artifact
      world).outcome = .ok usage) :
    (∃ program,
      toolchain.machine.program origin place toolchain.config.compiler =
        .ok program) ∧
      ∃ program,
        toolchain.machine.program origin place toolchain.config.finalizer =
          .ok program := by
  obtain ⟨_, report, written, rfl, built, -⟩ := process_eq_ok processed
  obtain ⟨outcome, settles⟩ := prepared.writeArtifact_settled artifact
  have holdsWritten := settles.reached world holds ()
    ((settles.outcome_eq world holds).symm.trans written)
  by_cases compiler : ∃ program,
      toolchain.machine.program origin place toolchain.config.compiler =
        .ok program
  · refine ⟨compiler, ?_⟩
    by_cases finalizer : ∃ program,
        toolchain.machine.program origin place toolchain.config.finalizer =
          .ok program
    · exact finalizer
    · exact (prepared.isaReport_ne_ok_of_finalizer (steady compiler)
        (not_exists.mp finalizer) holdsWritten report built).elim
  · exact (prepared.isaReport_ne_ok_of_compiler (not_exists.mp compiler)
      holdsWritten report built).elim

end HsailToolchain.Prepared
end IsaUsage
