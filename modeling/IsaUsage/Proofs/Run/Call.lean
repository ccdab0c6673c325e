import IsaUsage.Proofs.Run.Recording

namespace IsaUsage

/-!
# What a run asks of others

A run asks its toolchain for what it needs and tells its caller of every kernel.
A watched pipeline notes each of these calls when it is made, and for the rest does
what the pipeline does (`Pipeline.notes_runDocument`). So its record says which
calls a run makes, in which order.
-/

/-- A question to the toolchain, or a word to the caller. -/
inductive Call where
  | commandLine (kernel : String)
  | sourcePath (directory : Path) (kernel : String)
  | isaReport (kernel : String) (directory : Path)
  | told (usage : KernelUsage)
  deriving DecidableEq

namespace Call

/-- The kernel that a call is about. -/
def kernel : Call → String
  | .commandLine kernel => kernel
  | .sourcePath _ kernel => kernel
  | .isaReport kernel _ => kernel
  | .told usage => usage.kernel

/-- What the caller is told, if it is the one who is called. -/
def told? : Call → Option KernelUsage
  | .told usage => some usage
  | _ => none

end Call

namespace Action

variable {Memory Entry α : Type}

@[simp] theorem entries_pure (value : α) (world : World Memory) :
    (pure value : Action (Memory × List Entry) α).entries world = [] :=
  rfl

@[simp] theorem entries_log (event : LogEvent) (world : World Memory) :
    (log event : Action (Memory × List Entry) Unit).entries world = [] :=
  rfl

@[simp] theorem entries_noting
    (added : List Entry)
    (plain : Action Memory α)
    (world : World Memory) :
    (plain.noting added).entries world = added :=
  rfl

@[simp] theorem entries_inspect
    (look : FileSystem → Except Failure α)
    (explain : Failure → RunError)
    (world : World Memory) :
    (inspect look explain : Action (Memory × List Entry) α).entries world =
      [] :=
  (Silent.inspect look explain).entries_eq world

@[simp] theorem entries_change
    (edit : FileSystem → Except Failure FileSystem)
    (explain : Failure → RunError)
    (world : World Memory) :
    (change edit explain : Action (Memory × List Entry) Unit).entries world =
      [] :=
  (Silent.change edit explain).entries_eq world

end Action

namespace Pipeline

open IsaUsage.Action

/-- The pipeline that notes every call of its toolchain. -/
def watched (pipeline : Pipeline Memory) : Pipeline (Memory × List Call) where
  toolchain := {
    commandLine := fun kernel =>
      (pipeline.toolchain.commandLine kernel).noting [.commandLine kernel]
    sourcePath := fun directory kernel =>
      (pipeline.toolchain.sourcePath directory kernel).noting
        [.sourcePath directory kernel]
    isaReport := fun kernel directory =>
      (pipeline.toolchain.isaReport kernel directory).noting
        [.isaReport kernel directory]
  }
  outputDirectory := pipeline.outputDirectory
  workingDirectory := pipeline.workingDirectory

/-- The caller that notes every kernel it is told of. -/
def watching
    (onKernel : KernelUsage → Action Memory Unit)
    (usage : KernelUsage) :
    Action (Memory × List Call) Unit :=
  (onKernel usage).noting [.told usage]

/-- The calls of a run in order. -/
def calls
    (pipeline : Pipeline Memory)
    (onKernel : KernelUsage → Action Memory Unit)
    (document : Document)
    (world : World Memory) :
    List Call :=
  (pipeline.watched.runDocument (watching onKernel) document).entries world

variable {pipeline : Pipeline Memory}
  {onKernel : KernelUsage → Action Memory Unit}

theorem watched_matches (pipeline : Pipeline Memory) :
    Matches (@Notes Memory Call) pipeline.watched pipeline where
  outputDirectory_eq := rfl
  workingDirectory_eq := rfl
  commandLine := fun _ => Notes.noting _ _
  sourcePath := fun _ _ => Notes.noting _ _
  isaReport := fun _ _ => Notes.noting _ _

theorem notes_process (name artifact : String) :
    Notes (pipeline.watched.process name artifact)
      (pipeline.process name artifact) :=
  Notes.isCongruence.process pipeline.watched_matches name artifact

/-- Watching a run changes nothing about it. -/
theorem notes_runDocument (document : Document) :
    Notes (pipeline.watched.runDocument (watching onKernel) document)
      (pipeline.runDocument onKernel document) :=
  Notes.isCongruence.runDocument pipeline.watched_matches
    (fun _ => Notes.noting _ _) document

theorem entries_writeArtifact
    (name artifact : String)
    (world : World Memory) :
    (pipeline.watched.writeArtifact name artifact).entries world =
      [.sourcePath pipeline.outputDirectory name] := by
  -- What follows the question goes to the files and to the log.
  exact Notes.entries_bind_of_silent
    (pipeline.watched_matches.sourcePath _ _)
    (fun path => Silent.isCongruence.bind (Silent.change _ _) fun _ =>
      Silent.isCongruence.log _) world

/-- Building a kernel asks the toolchain three times, unless it fails before. -/
theorem entries_process
    (name artifact : String)
    (world : World Memory) :
    (pipeline.watched.process name artifact).entries world <+:
      [.commandLine name, .sourcePath pipeline.outputDirectory name,
        .isaReport name pipeline.outputDirectory] := by
  have finishing (report : Path) (command : String) :
      Notes
        (do
          let usage ← analyzeReport pipeline.workingDirectory report
          return ⟨name, command, usage⟩ :
          Action (Memory × List Call) KernelUsage)
        (do
          let usage ← analyzeReport pipeline.workingDirectory report
          return ⟨name, command, usage⟩) :=
    Notes.isCongruence.bind (Notes.isCongruence.analyzeReport _ _) fun _ =>
      Notes.isCongruence.pure _
  refine Notes.entries_bind_isPrefixOf
    (pipeline.watched_matches.commandLine name)
    (fun command => Notes.isCongruence.bind
      (Notes.isCongruence.writeArtifact pipeline.watched_matches name artifact)
      fun _ => Notes.isCongruence.bind
        (pipeline.watched_matches.isaReport name _) fun report =>
          finishing report command)
    rfl fun command world => ?_
  refine Notes.entries_bind_isPrefixOf
    (Notes.isCongruence.writeArtifact pipeline.watched_matches name artifact)
    (fun _ => Notes.isCongruence.bind
      (pipeline.watched_matches.isaReport name _) fun report =>
        finishing report command)
    (entries_writeArtifact name artifact world) fun _ world => ?_
  refine Notes.entries_bind_isPrefixOf
    (pipeline.watched_matches.isaReport name _)
    (fun report => finishing report command) rfl fun report world => ?_
  rw [List.prefix_nil, Notes.entries_bind_of_silent
    (Notes.isCongruence.analyzeReport _ _)
    fun _ => Silent.isCongruence.pure _]
  exact (Silent.isCongruence.analyzeReport _ report).entries_eq world

end Pipeline
end IsaUsage
