import IsaUsage.Proofs.Report.Register
import IsaUsage.Proofs.Text.Segment
import IsaUsage.Proofs.Usage.Total
import IsaUsage.Report.Analysis
import Mathlib.Data.List.Infix

namespace IsaUsage

/-!
# What a report shows, read as one text

A report is analyzed line by line, but its lines matter only to the number of
instructions. No reference to a register goes on over the end of a line, so the
highest registers of the lines are those of the whole text, and the
instructions are the segments between line feeds that hold a comment mark
(`analyzeText_eq`). How the lines end makes no difference
(`analyzeText_readsAsWhole`).
-/

/-- Two slashes stand somewhere in a text, one right after the other. -/
def HoldsMark (text : List Char) : Prop :=
  ['/', '/'] <:+: text

instance (text : List Char) : Decidable (HoldsMark text) :=
  inferInstanceAs (Decidable (['/', '/'] <:+: text))

/-- The check for a comment mark finds what holds one. -/
theorem hasCommentMark_eq_true_iff {text : List Char} :
    hasCommentMark text = true ↔ HoldsMark text := by
  fun_induction hasCommentMark text with
  | case1 rest =>
      simp only [true_iff]
      exact ⟨[], rest, rfl⟩
  | case2 c rest other inductionHypothesis =>
      rw [inductionHypothesis, HoldsMark, HoldsMark, List.infix_cons_iff]
      refine ⟨Or.inr, fun marked => marked.resolve_left ?_⟩
      rintro ⟨after, shape⟩
      simp only [List.cons_append, List.nil_append, List.cons.injEq] at shape
      exact other after shape.1.symm shape.2.symm
  | case3 =>
      simp [HoldsMark]

/-- A line with a comment mark is not blank. -/
theorem isInstruction_eq_true_iff {line : String} :
    isInstruction line = true ↔ HoldsMark line.toList := by
  rw [isInstruction, Bool.and_eq_true, hasCommentMark_eq_true_iff,
    and_iff_right_iff_imp, Bool.not_eq_true']
  rintro ⟨before, after, whole⟩
  rw [← whole, Text.isBlankText, List.all_eq_false]
  exact ⟨'/', by simp, by decide⟩

/-- The instructions are the lines that hold a comment mark. -/
theorem countInstructions_eq (lines : List String) :
    countInstructions lines =
      Count.saturate (lines.countP fun line => HoldsMark line.toList) := by
  rw [countInstructions, ← List.countP_eq_length_filter]
  congr 1
  apply List.countP_congr
  intro line _
  rw [isInstruction_eq_true_iff, decide_eq_true_eq]

theorem not_holdsMark_nil : ¬ HoldsMark [] := by
  simp [HoldsMark]

/-- A carriage return makes and breaks no comment mark. -/
theorem holdsMark_append_return {segment : List Char} :
    HoldsMark (segment ++ ['\r']) ↔ HoldsMark segment := by
  rw [HoldsMark, HoldsMark, List.infix_concat_iff, or_iff_right_iff_imp]
  rintro ⟨before, shape⟩
  have ends := congrArg List.getLast? shape
  simp at ends

namespace RegisterReference

variable {registers : RegisterClass} {left right text digits : List Char}

/-- What stands on either side of a line feed is mentioned by itself. -/
theorem mentions_append_newline_iff :
    Mentions registers.letter (left ++ '\n' :: right) digits ↔
      Mentions registers.letter left digits ∨
        Mentions registers.letter right digits :=
  mentions_append_cons_iff rfl (by cases registers <;> decide)

/-- A carriage return at the end makes no difference to what is mentioned. -/
theorem mentions_append_return :
    Mentions registers.letter (left ++ ['\r']) digits ↔
      Mentions registers.letter left digits := by
  have apart : '\r' ≠ registers.letter := by
    cases registers <;> decide
  rw [mentions_append_cons_iff rfl apart, or_iff_left not_mentions_nil]

/-- A register is mentioned within one segment. -/
theorem mentions_iff_exists_segment :
    Mentions registers.letter text digits ↔
      ∃ segment ∈ text.splitOn '\n',
        Mentions registers.letter segment digits := by
  induction text using Text.segmentInduction with
  | last segment noFeed =>
      simp [List.splitOn_eq_singleton noFeed]
  | more segment rest noFeed inductionHypothesis =>
      simp [List.splitOn_append_cons_self_of_not_mem noFeed,
        mentions_append_newline_iff, inductionHypothesis]

/-- A text mentions what its lines mention. -/
theorem mentions_iff_exists_line {text : String} :
    Mentions registers.letter text.toList digits ↔
      ∃ line ∈ Text.lines text,
        Mentions registers.letter line.toList digits := by
  classical
  have sameCount := Text.countP_lines
    (fun segment => decide (Mentions registers.letter segment digits))
    (by simp [not_mentions_nil])
    (by simp [mentions_append_return])
    text
  have counted := iff_of_eq (congrArg (0 < ·) sameCount)
  simpa [List.countP_pos_iff, ← mentions_iff_exists_segment] using counted.symm

end RegisterReference

open RegisterReference

/-- The highest register is found in any lines that mention the same. -/
theorem maxRegister_congr
    {registers : RegisterClass}
    {left right : List String}
    (same : ∀ digits,
      (∃ line ∈ left, Mentions registers.letter line.toList digits) ↔
        ∃ line ∈ right, Mentions registers.letter line.toList digits) :
    maxRegister registers left = maxRegister registers right := by
  apply Count.ext
  apply eq_of_forall_ge_iff
  intro bound
  simp only [maxRegister_le_iff, same]

/-- How many segments of a text hold a comment mark. -/
def markedSegments (text : String) : Nat :=
  (text.toList.splitOn '\n').countP (HoldsMark ·)

/-- As many lines hold a mark as segments do. -/
theorem countP_holdsMark_lines (text : String) :
    (Text.lines text).countP (fun line => HoldsMark line.toList) =
      markedSegments text :=
  Text.countP_lines (HoldsMark ·)
    (by simp [not_holdsMark_nil])
    (by simp [holdsMark_append_return])
    text

/-- Lines matter to the number of instructions only. -/
theorem analyzeText_eq (text : String) :
    analyzeText text = {
      vectorRegisters := maxRegister .vector [text]
      scalarRegisters := maxRegister .scalar [text]
      instructions := Count.saturate (markedSegments text)
    } := by
  have registersOfText (registers : RegisterClass) :
      maxRegister registers (Text.lines text) = maxRegister registers [text] :=
    maxRegister_congr (by simp [← mentions_iff_exists_line])
  rw [analyzeText, analyzeLines, countInstructions_eq, countP_holdsMark_lines]
  simp only [scanRegisters, registersOfText]

section LineEnds

variable (left right : String)

/-- The greatest register of two lines is that of one of them. -/
theorem maxRegister_append_newline (registers : RegisterClass) :
    maxRegister registers [left ++ "\n" ++ right] =
      max (maxRegister registers [left]) (maxRegister registers [right]) := by
  apply Count.ext
  apply eq_of_forall_ge_iff
  intro bound
  rw [Count.toNat_max, max_le_iff, maxRegister_le_iff, maxRegister_le_iff,
    maxRegister_le_iff]
  simp [mentions_append_newline_iff, or_imp, forall_and]

/-- Segments on either side of a line feed hold their marks by themselves. -/
theorem markedSegments_append_newline :
    markedSegments (left ++ "\n" ++ right) =
      markedSegments left + markedSegments right := by
  simp [markedSegments, List.splitOn_append_cons_self, List.countP_append]

/-- A final carriage return leaves the number of marked segments alone. -/
theorem markedSegments_append_return :
    markedSegments (left ++ "\r") = markedSegments left := by
  rw [markedSegments, String.toList_append]
  exact Text.countP_splitOn_append_return (HoldsMark ·)
    (by simp [holdsMark_append_return]) left.toList

/-- The usage that two reports show, one below the other. -/
def UsageRecord.above (upper lower : UsageRecord) : UsageRecord where
  vectorRegisters := max upper.vectorRegisters lower.vectorRegisters
  scalarRegisters := max upper.scalarRegisters lower.scalarRegisters
  instructions := upper.instructions + lower.instructions

/-- A line feed keeps two reports apart. -/
theorem analyzeText_append_newline :
    analyzeText (left ++ "\n" ++ right) =
      (analyzeText left).above (analyzeText right) := by
  simp only [analyzeText_eq, maxRegister_append_newline,
    markedSegments_append_newline, UsageRecord.above]
  congr 1
  apply Count.ext
  simp only [Count.toNat_add, Count.toNat_saturate]
  omega

/-- A final carriage return leaves the analysis alone. -/
theorem analyzeText_append_return :
    analyzeText (left ++ "\r") = analyzeText left := by
  have sameRegisters (registers : RegisterClass) :
      maxRegister registers [left ++ "\r"] = maxRegister registers [left] :=
    maxRegister_congr (by simp [mentions_append_return])
  rw [analyzeText_eq, analyzeText_eq, sameRegisters, sameRegisters,
    markedSegments_append_return]

/-- An empty report below another one adds nothing. -/
theorem UsageRecord.above_empty (usage : UsageRecord) :
    usage.above (analyzeText "") = usage := by
  have max_zero (count : Count) : max count 0 = count := by
    apply Count.ext
    rw [Count.toNat_max, Count.toNat_zero, Nat.max_zero]
  have empty : analyzeText "" = 0 := rfl
  rw [empty]
  exact UsageRecord.ext (max_zero _) (max_zero _) (Count.add_zero _)

/-- A report below another one adds its own instructions to those above. -/
theorem instructions_append_newline :
    (analyzeText (left ++ "\n" ++ right)).instructions =
      (analyzeText left).instructions + (analyzeText right).instructions := by
  rw [analyzeText_append_newline]
  rfl

/-- A line end with or without a carriage return is analyzed alike. -/
theorem analyzeText_return_newline :
    analyzeText (left ++ "\r\n" ++ right) =
      analyzeText (left ++ "\n" ++ right) := by
  have apart : left ++ "\r\n" ++ right = left ++ "\r" ++ "\n" ++ right := by
    apply String.toList_injective
    simp
  rw [apart, analyzeText_append_newline, analyzeText_append_newline,
    analyzeText_append_return]

/-- A final line feed leaves the analysis alone. -/
theorem analyzeText_final_newline :
    analyzeText (left ++ "\n") = analyzeText left := by
  have below := analyzeText_append_newline left ""
  rw [UsageRecord.above_empty, String.append_empty] at below
  exact below

end LineEnds

/-- There are no more marked segments than lines. -/
theorem markedSegments_le_length (text : String) :
    markedSegments text ≤ (Text.lines text).length := by
  rw [← countP_holdsMark_lines]
  exact List.countP_le_length

/-- What lines and their ends are to the analysis of a report. -/
structure ReadsAsOneText (text : String) : Prop where
  /-- The vector registers are those of the text as a single line. -/
  vectorRegisters :
    (analyzeText text).vectorRegisters = maxRegister .vector [text]
  /-- So are the scalar registers. -/
  scalarRegisters :
    (analyzeText text).scalarRegisters = maxRegister .scalar [text]
  /-- Every segment between line feeds that holds a mark is an instruction. -/
  instructions :
    (analyzeText text).instructions.toNat = markedSegments text
  /-- A carriage return before a line feed can come and go. -/
  carriageReturn (left right : String) :
    text = left ++ "\n" ++ right →
      analyzeText (left ++ "\r\n" ++ right) = analyzeText text
  /-- So can a line feed at the end. -/
  finalNewline : analyzeText (text ++ "\n") = analyzeText text
  /-- Slashes on either side of a line feed make up no mark. -/
  splitMark (left right : String) :
    text = left ++ "\n" ++ right →
      (analyzeText text).instructions =
        (analyzeText left).instructions + (analyzeText right).instructions
  /-- That an instruction must not be blank leaves no line with a mark out. -/
  notBlank (lines : List String) :
    countInstructions lines =
      Count.saturate (lines.countP fun line => HoldsMark line.toList)

/-- A report is read as one text, in which only instructions are lines. -/
theorem analyzeText_readsAsOneText
    {text : String}
    (fewer : (Text.lines text).length < 2 ^ 64) :
    ReadsAsOneText text where
  vectorRegisters := by rw [analyzeText_eq]
  scalarRegisters := by rw [analyzeText_eq]
  instructions := by
    have within : markedSegments text ≤ Count.limit :=
      (markedSegments_le_length text).trans (Nat.le_of_lt_succ fewer)
    rw [analyzeText_eq, Count.toNat_saturate, Nat.min_eq_left within]
  carriageReturn left right := by
    rintro rfl
    exact analyzeText_return_newline left right
  finalNewline := analyzeText_final_newline text
  splitMark left right := by
    rintro rfl
    exact instructions_append_newline left right
  notBlank := countInstructions_eq

/-- A report whose lines end in many ways, with slashes at some of the ends. -/
def mixedReport : String :=
  "v_mov v[3:12], v1 // 0\r\ns_nop s7 /\n/ v2\r\r\n\n \r// s[1:40] //\r"

/-- A report with both kinds of line ends, marked twice. -/
theorem analyzeText_readsAsOneText_mixedReport :
    (Text.lines mixedReport).length < 2 ^ 64 ∧
      (analyzeText mixedReport).vectorRegisters =
        maxRegister .vector [mixedReport] ∧
      (analyzeText mixedReport).scalarRegisters =
        maxRegister .scalar [mixedReport] ∧
      (analyzeText mixedReport).instructions.toNat = 2 ∧
      analyzeText (mixedReport ++ "\n") = analyzeText mixedReport := by
  have fewer : (Text.lines mixedReport).length < 2 ^ 64 := by
    decide +kernel
  have reads := analyzeText_readsAsOneText fewer
  have marks : markedSegments mixedReport = 2 := by
    decide +kernel
  exact ⟨fewer, reads.vectorRegisters, reads.scalarRegisters,
    reads.instructions.trans marks, reads.finalNewline⟩

end IsaUsage
