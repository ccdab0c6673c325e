import IsaUsage.Proofs.Kernel.Division

namespace IsaUsage.Document

/-!
# Artifacts are documents of their own

A block that is put behind its preamble is a document with that preamble and
that block alone: the cut between them is where a line ends, so nothing that is
a declaration, or none, in the one text becomes another in the other. Dividing
an artifact therefore gives back what it was made of (`split_artifact`).
-/

/-- Any block of a division, alone with the preamble, divides its artifact. -/
theorem IsDivisionOf.artifact
    {document : Document}
    {source : String}
    {block : KernelBlock}
    (division : document.IsDivisionOf source)
    (member : block ∈ document.kernels) :
    (⟨document.preamble, [block]⟩ : Document).IsDivisionOf
      (block.artifact document.preamble) where
  text_eq := by
    simp [text, KernelBlock.artifact]
  preamble_lines := division.preamble_lines
  preamble_free := division.preamble_free
  blocks other isBlock := by
    rw [List.mem_singleton.mp isBlock]
    exact division.blocks block member
  preamble_cut _ := division.preamble_cut (List.ne_nil_of_mem member)
  body_cut other isEarlier := by
    simp at isEarlier

/-- An artifact is divided into the preamble and the block that it is made of. -/
theorem split_artifact
    {source : String}
    {block : KernelBlock}
    (member : block ∈ (split source).kernels) :
    split (block.artifact (split source).preamble) =
        ⟨(split source).preamble, [block]⟩ ∧
      (split (block.artifact (split source).preamble)).artifacts =
        [(block.name, block.artifact (split source).preamble)] := by
  have division := (gathers_split source).isDivisionOf
  have alone := (division.artifact member).split_eq
  refine ⟨alone, ?_⟩
  rw [alone]
  rfl

/-- A document with lines that end in two ways, and a last one that does not. -/
def unevenLines : String :=
  "#define N 4\r\n__kernel void a() {}\r\n\n//\r\n  __kernel void b"

theorem split_artifact_unevenLines :
    let block : KernelBlock := ⟨"b", "  __kernel void b"⟩
    block ∈ (split unevenLines).kernels ∧
      split "#define N 4\r\n  __kernel void b" =
        ⟨"#define N 4\r\n", [block]⟩ := by
  intro block
  have member : block ∈ (split unevenLines).kernels := by
    decide +kernel
  have preamble : (split unevenLines).preamble = "#define N 4\r\n" := by
    decide +kernel
  have alone := (split_artifact member).1
  rw [preamble] at alone
  exact ⟨member, alone⟩

end IsaUsage.Document
