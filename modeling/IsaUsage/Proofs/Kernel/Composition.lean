import IsaUsage.Proofs.Kernel.Division
import Mathlib.Data.List.Basic

namespace IsaUsage

/-!
# Documents one after the other

Documents can be put one after the other: the preamble of the second one goes on
with the last block of the first one, or with its preamble as long as there is no
block. This is associative, every line is a small document of its own
(`Document.ofLine`), and a division under way stands for the documents of its
lines in order (`Division.closed_run`). So a text that follows a finished line is
divided apart from what stands before it (`Document.split_append`), and an edit of
one block leaves the others alone (`Document.split_append_and_edit`).
-/

namespace Document

/-- The document of no lines. -/
def empty : Document where
  preamble := ""
  kernels := []

/--
One document after another. What the second one has before its first block belongs
to the last block of the first one, or to the preamble if there is none.
-/
instance : Append Document where
  append first second :=
    match first.kernels.getLast? with
    | none =>
        ⟨first.preamble ++ second.preamble, second.kernels⟩
    | some last =>
        ⟨first.preamble,
          first.kernels.dropLast ++
            { last with body := last.body ++ second.preamble } ::
              second.kernels⟩

/-- A document without kernels becomes part of the preamble. -/
theorem append_of_nil (preamble : String) (second : Document) :
    (⟨preamble, []⟩ : Document) ++ second =
      ⟨preamble ++ second.preamble, second.kernels⟩ :=
  rfl

/-- The preamble of the second document joins the last kernel of the first. -/
theorem append_of_concat
    (preamble : String)
    (earlier : List KernelBlock)
    (last : KernelBlock)
    (second : Document) :
    (⟨preamble, earlier ++ [last]⟩ : Document) ++ second =
      ⟨preamble,
        earlier ++
          { last with body := last.body ++ second.preamble } ::
            second.kernels⟩ := by
  show (match (earlier ++ [last]).getLast? with
    | none => _
    | some last => _) = _
  rw [List.getLast?_concat, List.dropLast_concat]

/-- Blocks that come without a preamble leave those before them as they are. -/
theorem append_blocks (document : Document) (kernels : List KernelBlock) :
    document ++ ⟨"", kernels⟩ =
      ⟨document.preamble, document.kernels ++ kernels⟩ := by
  rcases document with ⟨preamble, earlier⟩
  rcases List.eq_nil_or_concat' earlier with rfl | ⟨earlier, last, rfl⟩
  · simp [append_of_nil]
  · simp [append_of_concat]

theorem append_empty (document : Document) : document ++ empty = document := by
  rw [empty, append_blocks, List.append_nil]

theorem empty_append (document : Document) : empty ++ document = document := by
  rw [empty, append_of_nil, String.empty_append]

/-- Where documents are joined first makes no difference. -/
theorem append_assoc (first second third : Document) :
    first ++ second ++ third = first ++ (second ++ third) := by
  rcases first with ⟨preamble, kernels⟩
  rcases second with ⟨middlePreamble, middleKernels⟩
  rcases List.eq_nil_or_concat' middleKernels with rfl | ⟨earlier, last, rfl⟩
  · -- The preambles of both go on with whatever the first document ends in.
    rcases List.eq_nil_or_concat' kernels with rfl | ⟨before, kept, rfl⟩
    · simp only [append_of_nil, String.append_assoc]
    · simp only [append_of_nil, append_of_concat, String.append_assoc]
  · rcases List.eq_nil_or_concat' kernels with rfl | ⟨before, kept, rfl⟩
    · simp only [append_of_nil, append_of_concat]
    · have regrouped (block : KernelBlock) :
          before ++ block :: (earlier ++ [last]) =
            (before ++ block :: earlier) ++ [last] := by
        simp
      rw [append_of_concat, append_of_concat, append_of_concat, regrouped,
        append_of_concat]
      simp

/-- The document of one line: a block if it declares a kernel. -/
def ofLine (line : String) : Document :=
  match Declaration.kernelName? line with
  | some name => ⟨"", [⟨name, line⟩]⟩
  | none => ⟨line, []⟩

/-- The document of lines: those of the single lines one after the other. -/
def ofLines (lines : List String) : Document :=
  lines.foldr (fun line rest => ofLine line ++ rest) empty

theorem ofLines_cons (line : String) (lines : List String) :
    ofLines (line :: lines) = ofLine line ++ ofLines lines :=
  rfl

/-- The document of some lines is made of those of its parts. -/
theorem ofLines_append (first second : List String) :
    ofLines (first ++ second) = ofLines first ++ ofLines second := by
  induction first with
  | nil =>
      exact (empty_append _).symm
  | cons line first inductionHypothesis =>
      rw [List.cons_append, ofLines_cons, inductionHypothesis, ofLines_cons,
        append_assoc]

end Document

namespace Division

/-- Blocks are finished only while a later one is open. -/
def IsOrderly (division : Division) : Prop :=
  division.openBlock = none → division.finished.kernels = []

theorem isOrderly_start : start.IsOrderly :=
  fun _ => rfl

/-- Every further line keeps a division orderly. -/
theorem isOrderly_step
    {division : Division}
    (orderly : division.IsOrderly)
    (line : String) :
    (division.step line).IsOrderly := by
  unfold step
  cases Declaration.kernelName? line with
  | some name =>
      exact fun noneOpen => nomatch noneOpen
  | none =>
      cases isOpen : division.openBlock with
      | none =>
          intro _
          simpa [extend, isOpen] using orderly isOpen
      | some block =>
          intro noneOpen
          simp [extend, isOpen] at noneOpen

/-- One line more puts the document of this line behind what there is. -/
theorem closed_step
    {division : Division}
    (orderly : division.IsOrderly)
    (line : String) :
    (division.step line).closed = division.closed ++ Document.ofLine line := by
  unfold step Document.ofLine
  cases Declaration.kernelName? line with
  | some name =>
      exact (Document.append_blocks _ _).symm
  | none =>
      cases isOpen : division.openBlock with
      | none =>
          have noKernels := orderly isOpen
          rcases finished : division.finished with ⟨preamble, kernels⟩
          rw [finished] at noKernels
          subst noKernels
          simp [closed, extend, isOpen, finished, Document.append_of_nil]
      | some block =>
          simp [closed, extend, isOpen, Document.append_of_concat]

/-- What a division comes to is what it was, followed by its further lines. -/
theorem closed_run
    {division : Division}
    (orderly : division.IsOrderly)
    (lines : List String) :
    (division.run lines).closed =
      division.closed ++ Document.ofLines lines := by
  induction lines generalizing division with
  | nil =>
      exact (Document.append_empty _).symm
  | cons line lines inductionHypothesis =>
      have further := inductionHypothesis (isOrderly_step orderly line)
      rw [run, List.foldl_cons]
      refine further.trans ?_
      rw [closed_step orderly, Document.append_assoc, Document.ofLines_cons]

end Division

namespace Document

/-- A text is divided into the documents of its lines. -/
theorem split_eq_ofLines (source : String) :
    split source = ofLines (Text.pieces source) :=
  (Division.closed_run Division.isOrderly_start _).trans (empty_append _)

/-- A text that follows a finished line is divided for itself. -/
theorem split_append
    {source : String}
    (atStart : Text.AtLineStart source.toList)
    (further : String) :
    split (source ++ further) = split source ++ split further := by
  simp only [split_eq_ofLines, Text.pieces_append atStart, ofLines_append]

section Edit

variable {preamble source : String} {earlier later kernels : List KernelBlock}
  {block edited : KernelBlock}

/-- Another block in place of one makes a division of another text. -/
theorem IsDivisionOf.replaceBlock
    (division : (⟨preamble, earlier ++ block :: later⟩ : Document).IsDivisionOf
      source)
    (opens : edited.OpensLines (Text.pieces edited.body))
    (cut : later ≠ [] → Text.EndsLine edited.body.toList) :
    (⟨preamble, earlier ++ edited :: later⟩ : Document).IsDivisionOf
      (text ⟨preamble, earlier ++ edited :: later⟩) where
  text_eq := rfl
  preamble_lines := division.preamble_lines
  preamble_free := division.preamble_free
  blocks := by
    intro other member
    rcases List.mem_append.mp member with before | after
    · exact division.blocks other (List.mem_append_left _ before)
    · rcases List.mem_cons.mp after with rfl | after
      · exact opens
      · exact division.blocks other
          (List.mem_append_right _ (List.mem_cons_of_mem _ after))
  preamble_cut _ := division.preamble_cut (by simp)
  body_cut := by
    have wasCut := division.body_cut
    simp only [List.dropLast_append_cons, List.mem_append] at wasCut ⊢
    rintro other (before | after)
    · exact wasCut other (Or.inl before)
    · cases later with
      | nil =>
          simp at after
      | cons next later =>
          rw [List.dropLast_cons_cons] at wasCut after
          rcases List.mem_cons.mp after with rfl | after
          · exact cut (by simp)
          · exact wasCut other (Or.inr (List.mem_cons_of_mem _ after))

/-- Another preamble without declarations makes a division of another text. -/
theorem IsDivisionOf.replacePreamble
    {editedPreamble : String}
    (division : (⟨preamble, kernels⟩ : Document).IsDivisionOf source)
    (silent : ∀ line ∈ Text.pieces editedPreamble,
      Declaration.kernelName? line = none)
    (cut : kernels ≠ [] → Text.AtLineStart editedPreamble.toList) :
    (⟨editedPreamble, kernels⟩ : Document).IsDivisionOf
      (text ⟨editedPreamble, kernels⟩) where
  text_eq := rfl
  preamble_lines := silent
  preamble_free := Declaration.not_occursIn_of_pieces silent
  blocks := division.blocks
  preamble_cut := cut
  body_cut := division.body_cut

end Edit

/--
A text that follows a finished line is divided for itself. Other lines in place of
those of one block, of which again the first one and no other declares a kernel,
leave the preamble and all other blocks as they are, and other lines in place of
the preamble, which again declare nothing, leave all blocks as they are.
-/
theorem split_append_and_edit (source : String) :
    (Text.AtLineStart source.toList →
      ∀ further, split (source ++ further) = split source ++ split further) ∧
    (∀ earlier block later,
      (split source).kernels = earlier ++ block :: later →
        let before := text ⟨(split source).preamble, earlier⟩
        let after := String.join (later.map KernelBlock.body)
        source = before ++ block.body ++ after ∧
          ∀ edited : KernelBlock,
            edited.OpensLines (Text.pieces edited.body) →
              (later ≠ [] → Text.EndsLine edited.body.toList) →
                split (before ++ edited.body ++ after) =
                  ⟨(split source).preamble, earlier ++ edited :: later⟩) ∧
    let after := String.join ((split source).kernels.map KernelBlock.body)
    source = (split source).preamble ++ after ∧
      ∀ edited : String,
        (∀ line ∈ Text.pieces edited, Declaration.kernelName? line = none) →
          ((split source).kernels ≠ [] → Text.AtLineStart edited.toList) →
            split (edited ++ after) = ⟨edited, (split source).kernels⟩ := by
  have division := (gathers_split source).isDivisionOf
  have whole := text_split source
  rcases shape : split source with ⟨preamble, kernels⟩
  rw [shape] at division whole
  refine ⟨fun atStart further => ?_, ?_, whole.symm, ?_⟩
  · rw [split_append atStart, shape]
  · rintro earlier block later rfl before after
    have around (middle : KernelBlock) :
        before ++ middle.body ++ after =
          text ⟨preamble, earlier ++ middle :: later⟩ := by
      simp [before, after, text, String.append_assoc]
    refine ⟨by rw [around, whole], fun edited opens cut => ?_⟩
    rw [around]
    exact (division.replaceBlock opens cut).split_eq
  · intro edited silent cut
    exact (division.replacePreamble silent cut).split_eq

end Document

/-- A document with two kernels, the first of which has a helper behind it. -/
def helpedKernels : String :=
  "#define N 4\n__kernel void a() {}\nint n;\n__kernel void b() {}\n"

open Document in
/-- One more kernel with its own helper, another first kernel, no preamble. -/
theorem split_append_and_edit_helpedKernels :
    let edited : KernelBlock := ⟨"c", "__kernel void c(int x)\r\n{}\n"⟩
    Text.AtLineStart helpedKernels.toList ∧
      edited.OpensLines (Text.pieces edited.body) ∧
      Text.EndsLine edited.body.toList ∧
      split (helpedKernels ++ "int m;\n__kernel void a") =
        ⟨"#define N 4\n",
          [⟨"a", "__kernel void a() {}\nint n;\n"⟩,
            ⟨"b", "__kernel void b() {}\nint m;\n"⟩,
            ⟨"a", "__kernel void a"⟩]⟩ ∧
      split ("#define N 4\n" ++ edited.body ++ "__kernel void b() {}\n") =
        ⟨"#define N 4\n", [edited, ⟨"b", "__kernel void b() {}\n"⟩]⟩ ∧
      split ("" ++ "__kernel void a() {}\nint n;\n__kernel void b() {}\n") =
        ⟨"", (split helpedKernels).kernels⟩ := by
  intro edited
  obtain ⟨further, block, preamble⟩ := split_append_and_edit helpedKernels
  have atStart : Text.AtLineStart helpedKernels.toList := by
    decide +kernel
  have opens : edited.OpensLines (Text.pieces edited.body) :=
    ⟨"__kernel void c(int x)\r\n", ["{}\n"], by decide +kernel,
      by decide +kernel, by decide +kernel⟩
  have ends : Text.EndsLine edited.body.toList := by
    decide +kernel
  have halves : split helpedKernels = ⟨"#define N 4\n",
      [] ++ ⟨"a", "__kernel void a() {}\nint n;\n"⟩ ::
        [⟨"b", "__kernel void b() {}\n"⟩]⟩ := by
    decide +kernel
  have added := further atStart "int m;\n__kernel void a"
  have changed := (block _ _ _ (congrArg Document.kernels halves)).2 edited opens
    fun _ => ends
  have silent := preamble.2 "" (by decide +kernel) fun _ => Or.inl rfl
  refine ⟨atStart, opens, ends, added.trans (by decide +kernel), ?_, ?_⟩
  · simpa [halves, text] using changed
  · simpa [halves] using silent

end IsaUsage
