import IsaUsage.Proofs.Run.Outcome

namespace IsaUsage

/-!
# Reports that are left

The usage of a kernel is read off its report in the middle of a run. No kernel of
another name touches this report later, so at the end of the run the last entry of
every name still says what the report of this name shows
(`HsailToolchain.runDocument_showsLast`).
-/

open FileSystem HsailToolchain IsaUsage.Action

/-- A file is a report of a certain usage. -/
def FileSystem.ShowsUsage
    (files : FileSystem)
    (base : Location)
    (report : Path)
    (usage : UsageRecord) :
    Prop :=
  ∃ text, files.readText base report = .ok text ∧ analyzeText text = usage

section Analysis

variable {base : Location} {report : Path} {usage : UsageRecord}
  {world : World Memory}

theorem analyzeReport_of_showsUsage
    (shown : world.files.ShowsUsage base report usage) :
    analyzeReport base report world = ⟨.ok usage, world, []⟩ := by
  obtain ⟨text, read, rfl⟩ := shown
  rw [analyzeReport, bind_apply, inspect_of_ok read]
  rfl

theorem showsUsage_of_analyzeReport
    (analyzed : (analyzeReport base report world).outcome = .ok usage) :
    world.files.ShowsUsage base report usage := by
  obtain ⟨text, read, shown, -⟩ := bind_eq_ok analyzed
  cases shown
  exact ⟨text, inspect_eq_ok read, rfl⟩

/-- What a report shows depends only on what is at its path. -/
theorem FileSystem.ShowsUsage.of_nodeAt
    {before after : FileSystem}
    (shown : before.ShowsUsage base report usage)
    (same : after.nodeAt base report = before.nodeAt base report) :
    after.ShowsUsage base report usage := by
  obtain ⟨text, read, analyzed⟩ := shown
  refine ⟨text, ?_, analyzed⟩
  rw [← read, readText, readText, readFile, readFile, same]

end Analysis

namespace HsailToolchain

variable {toolchain : HsailToolchain Memory} {directory : Path}

/-- The usage of a kernel is what its report shows. -/
theorem showsUsage_of_process
    {kernel artifact : String}
    {entry : KernelUsage}
    {world : World Memory}
    (processed : ((toolchain.pipeline directory).process kernel artifact
      world).outcome = .ok entry) :
    ((toolchain.pipeline directory).process kernel artifact
      world).world.files.ShowsUsage toolchain.base
        (toolchain.config.reportPath directory kernel) entry.usage := by
  rw [process_eq] at processed ⊢
  obtain ⟨_, -, rest, afterWriting⟩ := bind_eq_ok processed
  obtain ⟨report, built, rest, afterBuilding⟩ := bind_eq_ok rest
  obtain ⟨usage, analyzed, made, -⟩ := bind_eq_ok rest
  cases made
  obtain ⟨_, _, -, -, -, -, kept, -⟩ := isaReport_eq_ok built
  obtain ⟨rfl, -, -⟩ := keepReport_eq_ok kept
  rw [afterWriting, afterBuilding, world_bind_of_still (fun _ _ => rfl),
    world_analyzeReport]
  exact showsUsage_of_analyzeReport analyzed

/-- The files show the usage of the last entry of every name. -/
def ShowsLast
    (toolchain : HsailToolchain Memory)
    (directory : Path)
    (entries : List KernelUsage)
    (files : FileSystem) :
    Prop :=
  HoldsOfLast KernelUsage.kernel
    (fun entry =>
      files.ShowsUsage toolchain.base
        (toolchain.config.reportPath directory entry.kernel) entry.usage)
    entries

/-- A run that is recorded leaves the reports of the last entries. -/
theorem recorded_runDocument_showsLast
    {kernels : List String}
    {preamble : String}
    {blocks : List KernelBlock}
    {summary : Summary}
    {hearing : KernelUsage → Action (Memory × List ToolRun) Unit}
    {world after : World (Memory × List ToolRun)}
    (keepsApart : toolchain.config.KeepsApart kernels)
    (names : ∀ kernel ∈ kernels, Declaration.IsName kernel.toList)
    (keeps : toolchain.KeepsToOutputs directory kernels)
    (still : ∀ usage world,
      (hearing usage world).world.files = world.files ∧
        (hearing usage world).world.memory.2 = world.memory.2)
    (subset : ∀ block ∈ blocks, block.name ∈ kernels)
    (done : ((toolchain.recorded.pipeline directory).runDocument hearing
      ⟨preamble, blocks⟩ world).outcome = .ok summary)
    (ended : ((toolchain.recorded.pipeline directory).runDocument hearing
      ⟨preamble, blocks⟩ world).world = after) :
    toolchain.ShowsLast directory summary.kernels after.files := by
  -- A report is as it was read until a kernel of the same name comes again,
  -- and then it is not the last one.
  induction blocks generalizing world summary with
  | nil =>
      cases done
      simp [ShowsLast, HoldsOfLast, Summary.empty]
  | cons block rest inductionHypothesis =>
      have member := subset block List.mem_cons_self
      have restSubset (other : KernelBlock) (isOther : other ∈ rest) :=
        subset other (List.mem_cons_of_mem block isOther)
      rw [← List.singleton_append] at done ended
      obtain ⟨first, others, here, there, rfl⟩ :=
        Pipeline.exists_of_runDocument_append done
      rw [(Pipeline.runDocument_append_of_ok here rest).2] at ended
      obtain ⟨entry, build, place, processed, onlyEntry, sameFiles, -, built,
        reaches⟩ :=
          runDocument_single_leaves keepsApart names keeps still member here rfl
      generalize ((toolchain.recorded.pipeline directory).runDocument hearing
        ⟨preamble, [block]⟩ world).world = middle
        at there ended sameFiles built reaches
      have shownHere := showsUsage_of_process processed
      rw [← sameFiles] at shownHere
      have isEntry : entry.kernel = block.name :=
        Pipeline.kernel_of_process processed
      have entries : (first ++ others).kernels = entry :: others.kernels := by
        show first.kernels ++ others.kernels = _
        rw [onlyEntry]
        rfl
      rw [entries]
      apply HoldsOfLast.cons (inductionHypothesis restSubset there ended)
      rw [(Pipeline.told_of_runDocument there).1, isEntry]
      intro notAgain
      exact shownHere.of_nodeAt (nodeAt_fileName_of_changedOnlyAt keepsApart
        names member (List.forall_mem_map.mpr restSubset) notAgain reaches
        (changedOnlyAt_runDocument keeps still restSubset ended) (by simp))

/-- A run that succeeds leaves the reports of the last entries of its summary. -/
theorem runDocument_showsLast
    {onKernel : KernelUsage → Action Memory Unit}
    {document : Document}
    {summary : Summary}
    {world : World Memory}
    (keepsApart : toolchain.config.KeepsApart document.names)
    (names : ∀ kernel ∈ document.names, Declaration.IsName kernel.toList)
    (keeps : toolchain.KeepsToOutputs directory document.names)
    (still : ∀ usage world, (onKernel usage world).world.files = world.files)
    (done : ((toolchain.pipeline directory).runDocument onKernel document
      world).outcome = .ok summary) :
    toolchain.ShowsLast directory summary.kernels
      ((toolchain.pipeline directory).runDocument onKernel document
        world).world.files := by
  have records :=
    toolchain.forget_runDocument_recorded directory onKernel document world
  rw [← records] at done ⊢
  exact recorded_runDocument_showsLast keepsApart names keeps
    (fun usage world => ⟨still usage world.forget, List.append_nil _⟩)
    (fun block member => List.mem_map_of_mem member) done rfl

end HsailToolchain
end IsaUsage
