import IsaUsage.Proofs.Report.Analysis
import Mathlib.Data.List.Perm.Subperm

namespace IsaUsage

/-!
# Reports that are put together

The lines of a report are analyzed one by one, so lines that are put together show
what either part shows: the higher of the registers, and the instructions of both
(`analyzeLines_append`). Where the upper report ends with its last line, the same
holds of texts, and the order of lines makes no difference. A report that is part of
a larger text, even one that begins and ends in the middle of a line, shows no more
than the whole (`analyzeText_atMost`).
-/

/-- More digits make no smaller number. -/
theorem Decimal.read_le_read_append (digits more : List Char) :
    read digits ≤ read (digits ++ more) := by
  induction more using List.reverseRecOn with
  | nil =>
      rw [List.append_nil]
  | append_singleton more c inductionHypothesis =>
      rw [← List.append_assoc, read_append_singleton]
      omega

namespace UsageRecord

/-- No field of a record is above that of another one. -/
structure AtMost (fewer more : UsageRecord) : Prop where
  vectorRegisters :
    fewer.vectorRegisters.toNat ≤ more.vectorRegisters.toNat
  scalarRegisters :
    fewer.scalarRegisters.toNat ≤ more.scalarRegisters.toNat
  instructions : fewer.instructions.toNat ≤ more.instructions.toNat

end UsageRecord

section Lines

variable {first second : List String}

/-- The greatest register of two reports is that of one of them. -/
theorem maxRegister_append
    (registers : RegisterClass)
    (first second : List String) :
    maxRegister registers (first ++ second) =
      max (maxRegister registers first) (maxRegister registers second) := by
  apply Count.ext
  apply eq_of_forall_ge_iff
  intro bound
  rw [Count.toNat_max, max_le_iff, maxRegister_le_iff, maxRegister_le_iff,
    maxRegister_le_iff]
  simp only [List.mem_append, or_and_right, exists_or, or_imp, forall_and]

/-- The instructions of two reports are added up. -/
theorem countInstructions_append (first second : List String) :
    countInstructions (first ++ second) =
      countInstructions first + countInstructions second := by
  apply Count.ext
  simp only [countInstructions, List.filter_append, List.length_append,
    Count.toNat_add, Count.toNat_saturate]
  omega

/-- Lines show together what either part of them shows. -/
theorem analyzeLines_append (first second : List String) :
    analyzeLines (first ++ second) =
      (analyzeLines first).above (analyzeLines second) := by
  simp only [analyzeLines, scanRegisters, maxRegister_append,
    countInstructions_append, UsageRecord.above]

/-- The order of lines does not matter to the registers. -/
theorem scanRegisters_perm (perm : first.Perm second) :
    scanRegisters first = scanRegisters second := by
  have same (registers : RegisterClass) :
      maxRegister registers first = maxRegister registers second :=
    maxRegister_congr fun _ => by simp only [perm.mem_iff]
  rw [scanRegisters, scanRegisters, same, same]

/-- The order of lines does not matter to the instructions. -/
theorem countInstructions_perm (perm : first.Perm second) :
    countInstructions first = countInstructions second := by
  rw [countInstructions, countInstructions, (perm.filter _).length_eq]

/-- Among more lines, the greatest register is no smaller. -/
theorem maxRegister_le_of_subset
    (registers : RegisterClass)
    (subset : first ⊆ second) :
    (maxRegister registers first).toNat ≤
      (maxRegister registers second).toNat := by
  rw [maxRegister_le_iff]
  rintro digits ⟨line, member, mentions⟩
  exact maxRegister_le_iff.mp le_rfl digits ⟨line, subset member, mentions⟩

/-- Saturation keeps the order. -/
theorem Count.saturate_le_saturate
    {m n : Nat}
    (le : m ≤ n) :
    (saturate m).toNat ≤ (saturate n).toNat :=
  min_le_min_right limit le

/-- Lines among others show no more than all of them. -/
theorem analyzeLines_atMost (among : first.Subperm second) :
    (analyzeLines first).AtMost (analyzeLines second) where
  vectorRegisters := maxRegister_le_of_subset .vector among.subset
  scalarRegisters := maxRegister_le_of_subset .scalar among.subset
  instructions := by
    rw [analyzeLines, analyzeLines, countInstructions, countInstructions,
      ← List.countP_eq_length_filter, ← List.countP_eq_length_filter]
    exact Count.saturate_le_saturate (among.countP_le _)

end Lines

section Texts

variable {upper lower : String}

/-- Lines below other lines are analyzed by themselves. -/
theorem analyzeText_append
    (atStart : Text.AtLineStart upper.toList)
    (lower : String) :
    analyzeText (upper ++ lower) =
      (analyzeText upper).above (analyzeText lower) := by
  rw [analyzeText, Text.lines_append atStart, analyzeLines_append]
  rfl

/-- Reports one below the other contribute what each of them shows. -/
theorem analyzeText_join
    {reports : List String}
    (atStart : ∀ report ∈ reports, Text.AtLineStart report.toList) :
    analyzeText (String.join reports) =
      (reports.map analyzeText).foldr UsageRecord.above 0 := by
  induction reports with
  | nil =>
      rfl
  | cons report reports inductionHypothesis =>
      obtain ⟨reportAtStart, restAtStart⟩ := List.forall_mem_cons.mp atStart
      rw [String.join_cons, analyzeText_append reportAtStart,
        inductionHypothesis restAtStart]
      rfl

end Texts

/-! ## Parts of a text -/

namespace RegisterReference

variable {registers : RegisterClass} {text digits : List Char}

/-- With more text behind, an index can only become longer. -/
theorem StartsWithIndex.exists_longer
    (starts : StartsWithIndex text digits)
    (rest : List Char) :
    ∃ more, StartsWithIndex (text ++ rest) (digits ++ more) := by
  obtain ⟨spelling, runs, after, rfl, spells, member⟩ := starts
  cases spells with
  | single isDigits ended =>
      rw [List.mem_singleton] at member
      subst member
      cases after with
      | nil =>
          let more := rest.takeWhile Decimal.isDigit
          refine ⟨more, digits ++ more, [digits ++ more],
            rest.dropWhile Decimal.isDigit, ?_, .single ⟨?_, ?_⟩ ?_, by simp⟩
          · simp [more, List.takeWhile_append_dropWhile]
          · simp [isDigits.1]
          · intro c member
            rcases List.mem_append.mp member with earlier | later
            · exact isDigits.2 c earlier
            · exact List.mem_takeWhile_imp later
          · exact Text.head?_dropWhile_eq_false _ rest
      | cons c after =>
          refine ⟨[], digits, [digits], c :: after ++ rest, ?_,
            .single isDigits ended, ?_⟩ <;> simp
  | block isFirst isLast =>
      refine ⟨[], _, _, after ++ rest, List.append_assoc _ _ _,
        .block isFirst isLast, ?_⟩
      rw [List.append_nil]
      exact member

/-- A part of a text mentions what the text mentions, or what it begins with. -/
theorem Mentions.exists_longer
    {letter : Char}
    (mentions : Mentions letter text digits)
    (before after : List Char) :
    ∃ more, Mentions letter (before ++ text ++ after) (digits ++ more) := by
  obtain ⟨leading, rest, rfl, starts⟩ := mentions
  obtain ⟨more, longer⟩ := starts.exists_longer after
  exact ⟨more, before ++ leading, rest ++ after, by simp, longer⟩

end RegisterReference

open RegisterReference

/-- A part of a text mentions no greater registers than the whole. -/
theorem maxRegister_le_whole
    (registers : RegisterClass)
    (before text after : String) :
    (maxRegister registers [text]).toNat ≤
      (maxRegister registers [before ++ text ++ after]).toNat := by
  rw [maxRegister_le_iff]
  rintro digits ⟨line, member, mentions⟩
  rw [List.mem_singleton.mp member] at mentions
  obtain ⟨more, longer⟩ :=
    mentions.exists_longer before.toList after.toList
  calc
    (index digits).toNat ≤ (index (digits ++ more)).toNat :=
      Count.saturate_le_saturate (Decimal.read_le_read_append digits more)
    _ ≤ (maxRegister registers [before ++ text ++ after]).toNat :=
      maxRegister_le_iff.mp le_rfl _ ⟨_, List.mem_singleton_self _, by
        simpa using longer⟩

section Segments

variable {counts : List Char → Bool}
  (grows : ∀ before segment after,
    counts segment = true → counts (before ++ segment ++ after) = true)

include grows

/-- What counts of a part of a segment counts of one of the whole text. -/
theorem Text.countP_splitOn_pos
    {segment : List Char}
    (noFeed : '\n' ∉ segment)
    (counted : counts segment = true)
    (rest : List Char) :
    0 < ((segment ++ rest).splitOn '\n').countP counts := by
  induction rest using segmentInduction with
  | last next nextNoFeed =>
      have stillNoFeed : '\n' ∉ segment ++ next := by
        simp [noFeed, nextNoFeed]
      have whole : counts (segment ++ next) = true := by
        simpa using grows [] segment next counted
      rw [List.splitOn_eq_singleton stillNoFeed, List.countP_singleton,
        if_pos whole]
      exact Nat.one_pos
  | more next rest nextNoFeed =>
      have stillNoFeed : '\n' ∉ segment ++ next := by
        simp [noFeed, nextNoFeed]
      have whole : counts (segment ++ next) = true := by
        simpa using grows [] segment next counted
      rw [← List.append_assoc,
        List.splitOn_append_cons_self_of_not_mem stillNoFeed,
        List.countP_cons_of_pos whole]
      exact Nat.succ_pos _

/-- More text after a text makes no segment less. -/
theorem Text.countP_splitOn_le_append (text rest : List Char) :
    (text.splitOn '\n').countP counts ≤
      ((text ++ rest).splitOn '\n').countP counts := by
  induction text using segmentInduction with
  | last segment noFeed =>
      rw [List.splitOn_eq_singleton noFeed, List.countP_singleton]
      split
      · exact countP_splitOn_pos grows noFeed ‹_› rest
      · exact Nat.zero_le _
  | more segment text noFeed inductionHypothesis =>
      rw [List.append_assoc, List.cons_append,
        List.splitOn_append_cons_self_of_not_mem noFeed,
        List.splitOn_append_cons_self_of_not_mem noFeed, List.countP_cons,
        List.countP_cons]
      exact Nat.add_le_add_right inductionHypothesis _

/-- More text before a text makes no segment less. -/
theorem Text.countP_splitOn_le_prepend (before text : List Char) :
    (text.splitOn '\n').countP counts ≤
      ((before ++ text).splitOn '\n').countP counts := by
  induction before using segmentInduction with
  | last leading noFeed =>
      have joined {segment : List Char} (segmentNoFeed : '\n' ∉ segment) :
          '\n' ∉ leading ++ segment := by
        simp [noFeed, segmentNoFeed]
      have grown {segment : List Char} :
          (if counts segment = true then 1 else 0) ≤
            if counts (leading ++ segment) = true then 1 else 0 := by
        split
        · have counted := grows leading segment [] ‹_›
          rw [List.append_nil] at counted
          rw [if_pos counted]
        · exact Nat.zero_le _
      induction text using segmentInduction with
      | last segment segmentNoFeed =>
          rw [List.splitOn_eq_singleton segmentNoFeed,
            List.splitOn_eq_singleton (joined segmentNoFeed),
            List.countP_singleton, List.countP_singleton]
          exact grown
      | more segment text segmentNoFeed =>
          rw [← List.append_assoc,
            List.splitOn_append_cons_self_of_not_mem segmentNoFeed,
            List.splitOn_append_cons_self_of_not_mem (joined segmentNoFeed),
            List.countP_cons, List.countP_cons]
          exact Nat.add_le_add_left grown _
  | more leading before noFeed inductionHypothesis =>
      rw [List.append_assoc, List.cons_append,
        List.splitOn_append_cons_self_of_not_mem noFeed, List.countP_cons]
      exact Nat.le_add_right_of_le inductionHypothesis

end Segments

/-- A part of a text has no more marked segments than the whole. -/
theorem markedSegments_le_whole (before text after : String) :
    markedSegments text ≤ markedSegments (before ++ text ++ after) := by
  have grows (before segment after : List Char)
      (counted : decide (HoldsMark segment) = true) :
      decide (HoldsMark (before ++ segment ++ after)) = true := by
    rw [decide_eq_true_eq] at counted ⊢
    exact counted.trans (List.infix_append before segment after)
  rw [markedSegments, markedSegments, String.toList_append,
    String.toList_append]
  exact (Text.countP_splitOn_le_prepend grows _ _).trans
    (Text.countP_splitOn_le_append grows _ _)

/-- A part of a text shows no more than the whole. -/
theorem analyzeText_atMost (before text after : String) :
    (analyzeText text).AtMost (analyzeText (before ++ text ++ after)) := by
  rw [analyzeText_eq, analyzeText_eq]
  exact {
    vectorRegisters := maxRegister_le_whole .vector before text after
    scalarRegisters := maxRegister_le_whole .scalar before text after
    instructions := Count.saturate_le_saturate
      (markedSegments_le_whole before text after)
  }

/-- What reports show that are put together, and what lines show in any order. -/
structure CombineReports (upper lower : String) : Prop where
  /-- The highest registers are the higher ones of the two. -/
  vectorRegisters :
    (analyzeText (upper ++ lower)).vectorRegisters.toNat =
      max (analyzeText upper).vectorRegisters.toNat
        (analyzeText lower).vectorRegisters.toNat
  scalarRegisters :
    (analyzeText (upper ++ lower)).scalarRegisters.toNat =
      max (analyzeText upper).scalarRegisters.toNat
        (analyzeText lower).scalarRegisters.toNat
  /-- The instructions are those of both. -/
  instructions :
    (analyzeText (upper ++ lower)).instructions.toNat =
      (analyzeText upper).instructions.toNat +
        (analyzeText lower).instructions.toNat
  /-- Any number of reports contribute what each of them shows. -/
  contributions (reports : List String) :
    (∀ report ∈ reports, Text.AtLineStart report.toList) →
      analyzeText (String.join reports) =
        (reports.map analyzeText).foldr UsageRecord.above 0
  /-- The order of lines makes no difference. -/
  anyOrder (lines others : List String) :
    lines.Perm others →
      scanRegisters lines = scanRegisters others ∧
        countInstructions lines = countInstructions others
  /-- More lines, wherever they are, take nothing away. -/
  moreLines (lines others : List String) :
    lines.Subperm others → (analyzeLines lines).AtMost (analyzeLines others)
  /-- Nor does more text on either side, even within a line. -/
  moreText (before text after : String) :
    (analyzeText text).AtMost (analyzeText (before ++ text ++ after))

/-- Reports can be put together where a line begins, and lines in any order. -/
theorem analyzeText_combines
    {upper lower : String}
    (atStart : Text.AtLineStart upper.toList)
    (fewer :
      (Text.lines upper).length + (Text.lines lower).length < 2 ^ 64) :
    CombineReports upper lower := by
  have together := analyzeText_append atStart lower
  exact {
    vectorRegisters := by
      rw [together, UsageRecord.above, Count.toNat_max]
    scalarRegisters := by
      rw [together, UsageRecord.above, Count.toNat_max]
    instructions := by
      have within (text : String) :
          (analyzeText text).instructions.toNat ≤ (Text.lines text).length := by
        rw [analyzeText_eq, Count.toNat_saturate]
        exact (min_le_left _ _).trans (markedSegments_le_length text)
      have upperWithin := within upper
      have lowerWithin := within lower
      have limit : Count.limit + 1 = 2 ^ 64 := rfl
      rw [together, UsageRecord.above, Count.toNat_add]
      omega
    contributions := fun _ => analyzeText_join
    anyOrder := fun _ _ perm =>
      ⟨scanRegisters_perm perm, countInstructions_perm perm⟩
    moreLines := fun _ _ => analyzeLines_atMost
    moreText := analyzeText_atMost
  }

/-- Slashes at the cut make up no mark, and the registers come from both parts. -/
theorem analyzeText_combines_mixed_ends :
    let upper := "v_mov v[3:12], v1 // 0\r\ns_nop s7 /\n"
    let lower := "/ v2\r\r\n\n \r// s[1:40] //\r"
    Text.AtLineStart upper.toList ∧
      (Text.lines upper).length + (Text.lines lower).length < 2 ^ 64 ∧
      (analyzeText (upper ++ lower)).vectorRegisters.toNat = max 12 2 ∧
      (analyzeText (upper ++ lower)).scalarRegisters.toNat = max 7 40 ∧
      (analyzeText (upper ++ lower)).instructions.toNat = 1 + 1 := by
  intro upper lower
  have atStart : Text.AtLineStart upper.toList := by
    decide +kernel
  have fewer :
      (Text.lines upper).length + (Text.lines lower).length < 2 ^ 64 := by
    decide +kernel
  have combined := analyzeText_combines atStart fewer
  have upperShows :
      (analyzeText upper).vectorRegisters.toNat = 12 ∧
        (analyzeText upper).scalarRegisters.toNat = 7 ∧
        (analyzeText upper).instructions.toNat = 1 := by
    decide +kernel
  have lowerShows :
      (analyzeText lower).vectorRegisters.toNat = 2 ∧
        (analyzeText lower).scalarRegisters.toNat = 40 ∧
        (analyzeText lower).instructions.toNat = 1 := by
    decide +kernel
  refine ⟨atStart, fewer, combined.vectorRegisters.trans ?_,
    combined.scalarRegisters.trans ?_, combined.instructions.trans ?_⟩
  · rw [upperShows.1, lowerShows.1]
  · rw [upperShows.2.1, lowerShows.2.1]
  · rw [upperShows.2.2, lowerShows.2.2]

end IsaUsage
