import IsaUsage.Run.Pipeline

namespace IsaUsage

/-!
# Comparing runs

Actions on two memories can be compared in many ways: one keeps a record that the
other does not keep, or it prints what the other leaves out. A comparison that
sequences respect holds of two whole runs as soon as it holds of what their
toolchains and their callers do (`IsCongruence.runFile`).
-/

/-- A comparison that holds of the same steps and that sequences respect. -/
structure Action.IsCongruence
    (Alike : ∀ {α : Type}, Action First α → Action Second α → Prop) :
    Prop where
  pure : ∀ {α : Type} (value : α), Alike (pure value) (pure value)
  bind :
    ∀ {α β : Type} {first : Action First α} {second : Action Second α}
      {firstNext : α → Action First β} {secondNext : α → Action Second β},
      Alike first second →
        (∀ value, Alike (firstNext value) (secondNext value)) →
          Alike (first >>= firstNext) (second >>= secondNext)
  log : ∀ event, Alike (log event) (log event)
  logAll : ∀ events, Alike (logAll events) (logAll events)
  inspect :
    ∀ {α : Type} (look : FileSystem → Except Failure α)
      (explain : Failure → RunError),
      Alike (inspect look explain) (inspect look explain)
  change :
    ∀ (edit : FileSystem → Except Failure FileSystem)
      (explain : Failure → RunError),
      Alike (change edit explain) (change edit explain)

/-- Pipelines on the same directories whose toolchains compare. -/
structure Pipeline.Matches
    (Alike : ∀ {α : Type}, Action First α → Action Second α → Prop)
    (first : Pipeline First)
    (second : Pipeline Second) :
    Prop where
  outputDirectory_eq : first.outputDirectory = second.outputDirectory
  workingDirectory_eq : first.workingDirectory = second.workingDirectory
  commandLine :
    ∀ kernel,
      Alike (first.toolchain.commandLine kernel)
        (second.toolchain.commandLine kernel)
  sourcePath :
    ∀ directory kernel,
      Alike (first.toolchain.sourcePath directory kernel)
        (second.toolchain.sourcePath directory kernel)
  isaReport :
    ∀ kernel directory,
      Alike (first.toolchain.isaReport kernel directory)
        (second.toolchain.isaReport kernel directory)

namespace Action.IsCongruence

variable {Alike : ∀ {α : Type}, Action First α → Action Second α → Prop}
  {first : Pipeline First} {second : Pipeline Second}
  {firstHears : KernelUsage → Action First Unit}
  {secondHears : KernelUsage → Action Second Unit}

/-- An analysis is like itself. -/
theorem analyzeReport
    (congruence : IsCongruence Alike)
    (base : Location)
    (report : Path) :
    Alike (analyzeReport base report) (analyzeReport base report) := by
  apply congruence.bind (congruence.inspect _ _)
  intro text
  exact congruence.pure _

section Kernels

variable (congruence : IsCongruence Alike)
  (matching : Pipeline.Matches Alike first second)

include congruence matching

theorem writeArtifact (name artifact : String) :
    Alike (first.writeArtifact name artifact)
      (second.writeArtifact name artifact) := by
  unfold Pipeline.writeArtifact
  rw [matching.outputDirectory_eq, matching.workingDirectory_eq]
  apply congruence.bind (matching.sourcePath _ _)
  intro path
  apply congruence.bind (congruence.change _ _)
  intro _
  exact congruence.log _

/-- What is done for one kernel is alike in two pipelines that match. -/
theorem process (name artifact : String) :
    Alike (first.process name artifact) (second.process name artifact) := by
  unfold Pipeline.process
  rw [matching.outputDirectory_eq, matching.workingDirectory_eq]
  apply congruence.bind (matching.commandLine _)
  intro command
  apply congruence.bind (congruence.writeArtifact matching _ _)
  intro _
  apply congruence.bind (matching.isaReport _ _)
  intro report
  apply congruence.bind (congruence.analyzeReport _ _)
  intro usage
  exact congruence.pure _

end Kernels

section Runs

variable (congruence : IsCongruence Alike)
  (matching : Pipeline.Matches Alike first second)
  (hearing : ∀ usage, Alike (firstHears usage) (secondHears usage))

include congruence matching hearing

theorem advance (summary : Summary) (artifact : String × String) :
    Alike (first.advance firstHears summary artifact)
      (second.advance secondHears summary artifact) := by
  apply congruence.bind (congruence.process matching _ _)
  intro usage
  apply congruence.bind (hearing usage)
  intro _
  exact congruence.pure _

/-- So is what is done for several artifacts. -/
theorem runArtifacts
    (summary : Summary)
    (artifacts : List (String × String)) :
    Alike (first.runArtifacts firstHears summary artifacts)
      (second.runArtifacts secondHears summary artifacts) := by
  induction artifacts generalizing summary with
  | nil =>
      exact congruence.pure summary
  | cons artifact artifacts inductionHypothesis =>
      apply congruence.bind
        (congruence.advance matching hearing summary artifact)
      intro next
      exact inductionHypothesis next

/-- So is what is done for a document. -/
theorem runDocument (document : Document) :
    Alike (first.runDocument firstHears document)
      (second.runDocument secondHears document) := by
  apply congruence.bind (congruence.runArtifacts matching hearing _ _)
  intro summary
  apply congruence.bind (congruence.log _)
  intro _
  exact congruence.pure summary

/-- Runs over one source compare as their toolchains and callers do. -/
theorem runFile (source : Path) :
    Alike (first.runFile firstHears source)
      (second.runFile secondHears source) := by
  unfold Pipeline.runFile
  rw [matching.workingDirectory_eq]
  apply congruence.bind (congruence.inspect _ _)
  intro text
  apply congruence.bind (congruence.log _)
  intro _
  apply congruence.bind (congruence.logAll _)
  intro _
  exact congruence.runDocument matching hearing _

end Runs

end Action.IsCongruence
end IsaUsage
