import IsaUsage.Proofs.Run.Action
import IsaUsage.Run.Pipeline

namespace IsaUsage.Pipeline

/-!
# How a run goes on

A run builds a kernel, tells the caller of it, and goes on with the kernels that
are left. It ends at the first kernel that cannot be built or that the caller
refuses.
-/

open IsaUsage.Action

variable {pipeline : Pipeline Memory}
  {onKernel : KernelUsage → Action Memory Unit} {summary : Summary}
  {artifact : String × String} {artifacts : List (String × String)}
  {usage : KernelUsage} {world : World Memory} {error : RunError}

theorem advance_of_error
    (failed : (pipeline.process artifact.1 artifact.2 world).outcome =
      .error error) :
    (pipeline.advance onKernel summary artifact world).outcome =
        .error error ∧
      (pipeline.advance onKernel summary artifact world).world =
        (pipeline.process artifact.1 artifact.2 world).world :=
  bind_of_error failed

theorem advance_of_refused
    (done : (pipeline.process artifact.1 artifact.2 world).outcome = .ok usage)
    (refused : (onKernel usage
      (pipeline.process artifact.1 artifact.2 world).world).outcome =
        .error error) :
    (pipeline.advance onKernel summary artifact world).outcome =
        .error error ∧
      (pipeline.advance onKernel summary artifact world).world =
        (onKernel usage
          (pipeline.process artifact.1 artifact.2 world).world).world := by
  obtain ⟨outcome, after⟩ := bind_of_ok done
  obtain ⟨heardOutcome, heardAfter⟩ := bind_of_error refused
  exact ⟨outcome.trans heardOutcome, after.trans heardAfter⟩

theorem advance_of_taken
    (done : (pipeline.process artifact.1 artifact.2 world).outcome = .ok usage)
    (taken : (onKernel usage
      (pipeline.process artifact.1 artifact.2 world).world).outcome =
        .ok ()) :
    (pipeline.advance onKernel summary artifact world).outcome =
        .ok (summary.push usage) ∧
      (pipeline.advance onKernel summary artifact world).world =
        (onKernel usage
          (pipeline.process artifact.1 artifact.2 world).world).world := by
  obtain ⟨outcome, after⟩ := bind_of_ok done
  obtain ⟨heardOutcome, heardAfter⟩ := bind_of_ok taken
  exact ⟨outcome.trans heardOutcome, after.trans heardAfter⟩

/-- A kernel is added to a summary once it is built and the caller took it. -/
theorem advance_eq_ok
    {next : Summary}
    (advanced : (pipeline.advance onKernel summary artifact world).outcome =
      .ok next) :
    ∃ usage,
      (pipeline.process artifact.1 artifact.2 world).outcome = .ok usage ∧
        next = summary.push usage ∧
        (pipeline.advance onKernel summary artifact world).world =
          (onKernel usage
            (pipeline.process artifact.1 artifact.2 world).world).world := by
  obtain ⟨usage, built, told, -⟩ := bind_eq_ok advanced
  obtain ⟨_, taken, pushed, -⟩ := bind_eq_ok told
  cases pushed
  exact ⟨usage, built, rfl, (advance_of_taken built taken).2⟩

theorem runArtifacts_cons
    (summary : Summary)
    (artifact : String × String)
    (artifacts : List (String × String)) :
    pipeline.runArtifacts onKernel summary (artifact :: artifacts) =
      pipeline.advance onKernel summary artifact >>= fun next =>
        pipeline.runArtifacts onKernel next artifacts :=
  rfl

/-- A document is run by running its artifacts. -/
theorem runDocument_eq (document : Document) (world : World Memory) :
    (pipeline.runDocument onKernel document world).outcome =
        (pipeline.runArtifacts onKernel .empty document.artifacts
          world).outcome ∧
      (pipeline.runDocument onKernel document world).world =
        (pipeline.runArtifacts onKernel .empty document.artifacts
          world).world := by
  cases outcome : (pipeline.runArtifacts onKernel .empty document.artifacts
      world).outcome with
  | error error =>
      exact bind_of_error outcome
  | ok summary =>
      exact bind_of_ok outcome

end IsaUsage.Pipeline
