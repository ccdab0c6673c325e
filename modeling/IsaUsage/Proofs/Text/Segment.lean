import IsaUsage.Proofs.Text.Line

namespace IsaUsage.Text

/-!
# Lines and the segments between line feeds

The segments of a text are its longest parts without a line feed, which is what
splitting it at line feeds gives. The lines of a text are its segments, but for
a carriage return at the end of a segment and an empty segment at the very end.
So whatever does not tell a segment from one with a carriage return behind it,
and holds of no empty one, counts the same in either (`countP_lines`). A text that
is made of lines tells which they are (`eq_of_unlines_eq`).
-/

/-- Every text is one segment, or a segment, a line feed and more text. -/
@[elab_as_elim]
theorem segmentInduction
    {motive : List Char → Prop}
    (last : ∀ segment, '\n' ∉ segment → motive segment)
    (more : ∀ segment rest,
      '\n' ∉ segment → motive rest → motive (segment ++ '\n' :: rest))
    (text : List Char) :
    motive text := by
  -- What is known of the text has to hold behind any part of a segment.
  suffices behind : ∀ leading, '\n' ∉ leading → motive (leading ++ text) from
    behind [] (by simp)
  induction text with
  | nil =>
      intro leading noFeed
      simpa using last leading noFeed
  | cons c text inductionHypothesis =>
      intro leading noFeed
      by_cases newline : c = '\n'
      · subst newline
        exact more leading text noFeed (inductionHypothesis [] (by simp))
      · have noFeedYet : '\n' ∉ leading ++ [c] := by
          simp [noFeed, Ne.symm newline]
        simpa using inductionHypothesis (leading ++ [c]) noFeedYet

section Cutting

variable {segment : List Char}

theorem cutLines_of_not_mem
    (noFeed : '\n' ∉ segment)
    (nonempty : segment ≠ []) :
    cutLines segment = [segment] := by
  obtain ⟨line, lines, cut⟩ : ∃ line lines, cutLines segment = line :: lines :=
    List.exists_cons_of_ne_nil (mt cutLines_eq_nil_iff.mp nonempty)
  have whole := flatten_cutLines segment
  cases lines with
  | nil =>
      rw [cut] at whole
      rw [cut, ← whole]
      simp
  | cons next lines =>
      -- A first of several lines would end in a line feed.
      have ended := (cutLines_eq_cons cut).2.2 (by simp)
      rw [cut] at whole
      have feed : '\n' ∈ segment := by
        rw [← whole]
        exact List.mem_flatten_of_mem (by simp) (List.mem_of_getLast? ended)
      exact absurd feed noFeed

theorem cutLines_append_newline
    (noFeed : '\n' ∉ segment)
    (rest : List Char) :
    cutLines (segment ++ '\n' :: rest) =
      (segment ++ ['\n']) :: cutLines rest := by
  have finished : cutLines (segment ++ ['\n']) = [segment ++ ['\n']] := by
    induction segment with
    | nil =>
        rfl
    | cons c segment inductionHypothesis =>
        simp only [List.mem_cons, not_or] at noFeed
        simp [cutLines, Ne.symm noFeed.1, inductionHypothesis noFeed.2]
  have atStart : AtLineStart (segment ++ ['\n']) :=
    Or.inr (by simp [EndsLine])
  rw [List.append_cons, cutLines_append atStart, finished,
    List.singleton_append]

/-- What no line feed ends stays whole. -/
theorem withoutTerminator_segment (noFeed : '\n' ∉ segment) :
    withoutTerminator segment = segment := by
  unfold withoutTerminator
  split
  · rename_i shape
    exact absurd (List.mem_reverse.mp (by simp [shape])) noFeed
  · rename_i shape
    exact absurd (List.mem_reverse.mp (by simp [shape])) noFeed
  · rfl

/-- A line feed goes, and with it a carriage return right before it. -/
theorem withoutTerminator_newline (segment : List Char) :
    segment = withoutTerminator (segment ++ ['\n']) ∨
      segment = withoutTerminator (segment ++ ['\n']) ++ ['\r'] := by
  cases shape : segment.reverse with
  | nil =>
      simp_all [withoutTerminator]
  | cons c rest =>
      have reversed : segment = rest.reverse ++ [c] := by
        simpa using congrArg List.reverse shape
      by_cases isReturn : c = '\r'
      · subst isReturn
        right
        simp [withoutTerminator, reversed]
      · left
        simp [withoutTerminator, reversed, isReturn]

end Cutting

/-- Lines put together, with a line feed behind each. -/
def unlines (lines : List String) : String :=
  String.join (lines.map (· ++ "\n"))

theorem unlines_append (first second : List String) :
    unlines (first ++ second) = unlines first ++ unlines second := by
  simp [unlines]

/-- Cutting lines that were put together gives every one of them back. -/
theorem pieces_unlines
    {lines : List String}
    (noFeed : ∀ line ∈ lines, '\n' ∉ line.toList) :
    pieces (unlines lines) = lines.map (· ++ "\n") := by
  induction lines with
  | nil =>
      rfl
  | cons line lines inductionHypothesis =>
      obtain ⟨lineNoFeed, restNoFeed⟩ := List.forall_mem_cons.mp noFeed
      have whole : (unlines (line :: lines)).toList =
          line.toList ++ '\n' :: (unlines lines).toList := by
        simp [unlines]
      rw [pieces, whole, cutLines_append_newline lineNoFeed, List.map_cons,
        List.map_cons, ← inductionHypothesis restNoFeed]
      congr 1
      simp

/-- Lines put together tell which lines they are. -/
theorem eq_of_unlines_eq
    {first second : List String}
    (firstNoFeed : ∀ line ∈ first, '\n' ∉ line.toList)
    (secondNoFeed : ∀ line ∈ second, '\n' ∉ line.toList)
    (same : unlines first = unlines second) :
    first = second := by
  have samePieces := congrArg pieces same
  rw [pieces_unlines firstNoFeed, pieces_unlines secondNoFeed] at samePieces
  exact (List.map_inj_right fun _ _ => (String.append_left_inj _).mp).mp
    samePieces

section Counting

variable (counts : List Char → Bool)

/-- Lines and segments count the same wherever line ends make no difference. -/
theorem countP_lines
    (empty : counts [] = false)
    (carriageReturn : ∀ segment, counts (segment ++ ['\r']) = counts segment)
    (text : String) :
    (lines text).countP (fun line => counts line.toList) =
      (text.toList.splitOn '\n').countP counts := by
  have pieces (text : List Char) :
      (cutLines text).countP (fun piece => counts (withoutTerminator piece)) =
        (text.splitOn '\n').countP counts := by
    induction text using segmentInduction with
    | last segment noFeed =>
        rw [List.splitOn_eq_singleton noFeed]
        by_cases nothing : segment = []
        · simp [nothing, cutLines, empty]
        · rw [cutLines_of_not_mem noFeed nothing, List.countP_singleton,
            List.countP_singleton, withoutTerminator_segment noFeed]
    | more segment rest noFeed inductionHypothesis =>
        have sameLine : counts (withoutTerminator (segment ++ ['\n'])) =
            counts segment := by
          rcases withoutTerminator_newline segment with same | returned
          · exact congrArg counts same.symm
          · exact (carriageReturn _).symm.trans (congrArg counts returned.symm)
        rw [cutLines_append_newline noFeed,
          List.splitOn_append_cons_self_of_not_mem noFeed,
          List.countP_cons, List.countP_cons, sameLine, inductionHypothesis]
  simpa [lines, List.countP_map, Function.comp_def] using pieces text.toList

/-- A carriage return before the end of a segment makes no difference either. -/
theorem countP_splitOn_append_return
    (carriageReturn : ∀ segment, counts (segment ++ ['\r']) = counts segment)
    (text : List Char) :
    ((text ++ ['\r']).splitOn '\n').countP counts =
      (text.splitOn '\n').countP counts := by
  induction text using segmentInduction with
  | last segment noFeed =>
      have stillNoFeed : '\n' ∉ segment ++ ['\r'] := by
        simpa using noFeed
      rw [List.splitOn_eq_singleton noFeed,
        List.splitOn_eq_singleton stillNoFeed, List.countP_singleton,
        List.countP_singleton, carriageReturn]
  | more segment rest noFeed inductionHypothesis =>
      rw [List.append_assoc, List.cons_append, List.splitOn_append_cons_self,
        List.splitOn_append_cons_self, List.countP_append, List.countP_append,
        inductionHypothesis]

end Counting
end IsaUsage.Text
