import IsaUsage.Proofs.Run.Kernel
import IsaUsage.Proofs.Run.Pipeline
import IsaUsage.Proofs.Tool.Translation
import IsaUsage.Proofs.Usage.Sum

namespace IsaUsage

/-!
# The total of a run

A run adds up usage while it goes on, kernel by kernel, and a list of kernels has a
total of its own. Each kernel that a run adds keeps the two the same
(`Summary.push_ofKernels`), so the summary of a run that succeeds is the one of its
kernels (`Pipeline.runDocument_eq_ofKernels`).
-/

namespace Summary

/-- The summary of one kernel more. -/
theorem push_ofKernels (kernels : List KernelUsage) (kernel : KernelUsage) :
    (ofKernels kernels).push kernel = ofKernels (kernels ++ [kernel]) := by
  apply ext
  · rfl
  · simp [push, ofKernels, UsageRecord.sum]

/-- Adding kernels one by one gives the summary of their list. -/
theorem foldl_push (earlier kernels : List KernelUsage) :
    kernels.foldl push (ofKernels earlier) = ofKernels (earlier ++ kernels) := by
  induction kernels generalizing earlier with
  | nil =>
      rw [List.foldl_nil, List.append_nil]
  | cons kernel kernels inductionHypothesis =>
      rw [List.foldl_cons, push_ofKernels, inductionHypothesis,
        List.append_assoc, List.singleton_append]

end Summary

namespace Pipeline

open IsaUsage.Action

variable {pipeline : Pipeline Memory}
  {onKernel : KernelUsage → Action Memory Unit} {world : World Memory}

/-- Kernels that are built are added to those before them. -/
theorem runArtifacts_eq_ofKernels
    {earlier : List KernelUsage}
    {artifacts : List (String × String)}
    {summary : Summary}
    (done : (pipeline.runArtifacts onKernel (.ofKernels earlier) artifacts
      world).outcome = .ok summary) :
    summary = .ofKernels summary.kernels := by
  induction artifacts generalizing earlier world with
  | nil =>
      cases done
      rfl
  | cons artifact artifacts inductionHypothesis =>
      rw [runArtifacts_cons] at done
      obtain ⟨next, advanced, rest, -⟩ := bind_eq_ok done
      obtain ⟨usage, -, rfl, -⟩ := advance_eq_ok advanced
      rw [Summary.push_ofKernels] at rest
      exact inductionHypothesis rest

/-- A run that succeeds sums up its own kernels. -/
theorem runDocument_eq_ofKernels
    {document : Document}
    {summary : Summary}
    (done : (pipeline.runDocument onKernel document world).outcome =
      .ok summary) :
    summary = .ofKernels summary.kernels := by
  rw [(runDocument_eq document world).1] at done
  exact runArtifacts_eq_ofKernels done

end Pipeline

namespace UsageRecord

/--
Usage adds up exactly, each field up to the limit. It does so for records that are
given or looked up, for kernels that are added one by one or all at once, in any
order and by way of any partial sums, and so it does in a run.
-/
theorem sums_are_exact
    {Memory : Type}
    (pipeline : Pipeline Memory)
    (onKernel : KernelUsage → Action Memory Unit) :
    (∀ (Item : Type) (usage : Item → UsageRecord) (items : List Item),
      (sum (items.map usage)).IsTotalOf (items.map usage)) ∧
    (∀ kernels : List KernelUsage,
      kernels.foldl Summary.push .empty = .ofKernels kernels ∧
        (Summary.ofKernels kernels).totals.IsTotalOf
          (kernels.map KernelUsage.usage)) ∧
    (∀ records total, AddsUp records total ↔ total.IsTotalOf records) ∧
    (∀ records other, records.Perm other → sum records = sum other) ∧
    (∀ groups : List (List UsageRecord),
      sum (groups.map sum) = sum groups.flatten) ∧
    (∀ first second third : UsageRecord,
      first + second + third = first + (second + third) ∧
        first + second = second + first ∧
        0 + first = first ∧ first + 0 = first) ∧
    ∀ document world summary,
      (pipeline.runDocument onKernel document world).outcome = .ok summary →
        summary = .ofKernels summary.kernels ∧
          summary.totals.IsTotalOf
            (summary.kernels.map KernelUsage.usage) := by
  refine ⟨fun _ usage items => isTotalOf_sum (items.map usage), ?_,
    fun _ _ => addsUp_iff, fun _ _ => sum_perm,
    fun groups => (sum_flatten groups).symm, ?_, ?_⟩
  · intro kernels
    exact ⟨Summary.foldl_push [] kernels,
      isTotalOf_sum (kernels.map KernelUsage.usage)⟩
  · intro first second third
    exact ⟨add_assoc first second third, add_comm first second,
      zero_add first, add_zero first⟩
  · intro document world summary done
    have whole := Pipeline.runDocument_eq_ofKernels done
    refine ⟨whole, ?_⟩
    rw [whole]
    exact isTotalOf_sum _

end UsageRecord

/-- Two kernels of which one uses registers and the other does not. -/
def annotatedKernels : List KernelBlock :=
  [⟨"a", "__kernel void a // v7 s[2:3]\n"⟩, ⟨"b", "__kernel void b //\n"⟩]

open HsailToolchain FileSystem in
theorem sums_are_exact_annotatedKernels :
    let small : UsageRecord := ⟨.saturate 5, .saturate 6, .saturate 7⟩
    let full : UsageRecord := ⟨.saturate (2 ^ 64), .saturate 1, 0⟩
    let document : Document := ⟨"", annotatedKernels⟩
    let run := (copying.pipeline ⟨"w"⟩).runDocument (fun _ => pure ()) document
      (⟨workshop, ()⟩ : World Unit)
    [full, small].Perm [small, full] ∧
      UsageRecord.sum [full, small] = UsageRecord.sum [small, full] ∧
      ∃ summary,
        run.outcome = .ok summary ∧
          summary.totals = ⟨.saturate 7, .saturate 3, .saturate 2⟩ ∧
          summary = .ofKernels summary.kernels := by
  intro small full document run
  have swapped : [full, small].Perm [small, full] := .swap small full []
  let first : KernelUsage :=
    ⟨"a", "cloc.sh -hsail a.cl", ⟨.saturate 7, .saturate 3, .saturate 1⟩⟩
  let second : KernelUsage :=
    ⟨"b", "cloc.sh -hsail b.cl", ⟨.saturate 0, .saturate 0, .saturate 1⟩⟩
  have done : run.outcome = .ok
      ⟨[first, second], ⟨.saturate 7, .saturate 3, .saturate 2⟩⟩ :=
    eq_ok_of_toOption (by decide +kernel)
  have ⟨_, _, _, anyOrder, _, _, ofRun⟩ :=
    UsageRecord.sums_are_exact (copying.pipeline ⟨"w"⟩)
      (fun _ => (pure () : Action Unit Unit))
  exact ⟨swapped, anyOrder _ _ swapped, _, done, rfl,
    (ofRun document _ _ done).1⟩

end IsaUsage
