import IsaUsage.Text.Line

namespace IsaUsage.Text

/-!
# Pieces of a text and its cuts

Texts are lines (`AreLines`) when cutting the whole of them gives them back.
Lines can be taken apart anywhere, and the part before a cut ends in a line feed
(`AreLines.of_append`). Cutting a text that follows a finished line cuts the two
apart (`pieces_append`).
-/

/-- A text ends in a line feed. -/
def EndsLine (text : List Char) : Prop :=
  text.getLast? = some '\n'

/-- A text is empty or ends in a line feed, so that a new line can follow. -/
def AtLineStart (text : List Char) : Prop :=
  text = [] ∨ EndsLine text

instance (text : List Char) : Decidable (EndsLine text) :=
  inferInstanceAs (Decidable (text.getLast? = some '\n'))

instance (text : List Char) : Decidable (AtLineStart text) :=
  inferInstanceAs (Decidable (text = [] ∨ EndsLine text))

theorem cutLines_eq_nil_iff {text : List Char} :
    cutLines text = [] ↔ text = [] := by
  constructor
  · intro noLines
    have whole := flatten_cutLines text
    rw [noLines] at whole
    exact whole.symm
  · rintro rfl
    rfl

/-- Cutting a text that follows a finished line cuts the two apart. -/
theorem cutLines_append
    {left : List Char}
    (atStart : AtLineStart left)
    (right : List Char) :
    cutLines (left ++ right) = cutLines left ++ cutLines right := by
  induction left with
  | nil =>
      rfl
  | cons c rest inductionHypothesis =>
      by_cases newline : c = '\n'
      · have restStart : AtLineStart rest := by
          cases rest with
          | nil =>
              exact Or.inl rfl
          | cons next rest =>
              exact Or.inr (by simpa [AtLineStart, EndsLine] using atStart)
        simp [cutLines, newline, inductionHypothesis restStart]
      · obtain ⟨next, rest, rfl⟩ : ∃ next tail, rest = next :: tail := by
          cases rest with
          | nil =>
              simp [AtLineStart, EndsLine, newline] at atStart
          | cons next rest =>
              exact ⟨next, rest, rfl⟩
        have restStart : AtLineStart (next :: rest) :=
          Or.inr (by simpa [AtLineStart, EndsLine] using atStart)
        have cut := inductionHypothesis restStart
        cases later : cutLines (next :: rest) with
        | nil =>
            simp [cutLines_eq_nil_iff] at later
        | cons line lines =>
            rw [later] at cut
            simp [cutLines, newline] at later cut ⊢
            simp [later, cut]

/-- The first piece is a line of its own, and what follows are the others. -/
theorem cutLines_eq_cons
    {text line : List Char}
    {lines : List (List Char)}
    (cut : cutLines text = line :: lines) :
    cutLines line = [line] ∧ cutLines lines.flatten = lines ∧
      (lines ≠ [] → EndsLine line) := by
  induction text generalizing line lines with
  | nil =>
      simp [cutLines] at cut
  | cons c rest inductionHypothesis =>
      by_cases newline : c = '\n'
      · subst newline
        simp only [cutLines, ↓reduceIte, List.cons.injEq] at cut
        rcases cut with ⟨rfl, rfl⟩
        refine ⟨rfl, ?_, fun _ => rfl⟩
        rw [flatten_cutLines]
      · cases later : cutLines rest with
        | nil =>
            simp only [cutLines, newline, later, ↓reduceIte,
              List.cons.injEq] at cut
            rcases cut with ⟨rfl, rfl⟩
            simp [cutLines, newline]
        | cons first others =>
            simp only [cutLines, newline, later, ↓reduceIte,
              List.cons.injEq] at cut
            rcases cut with ⟨rfl, rfl⟩
            obtain ⟨single, rejoined, ended⟩ := inductionHypothesis later
            refine ⟨?_, rejoined, fun more => ?_⟩
            · simp [cutLines, newline, single]
            · have restEnds := ended more
              cases first with
              | nil =>
                  simp [EndsLine] at restEnds
              | cons next tail =>
                  simpa [EndsLine] using restEnds

/-- The first line of a text goes at least as far as its first line feed. -/
theorem cutLines_append_of_not_mem
    {leading rest line : List Char}
    {lines : List (List Char)}
    (noFeed : '\n' ∉ leading)
    (cut : cutLines (leading ++ rest) = line :: lines) :
    ∃ tail, line = leading ++ tail ∧ tail <+: rest := by
  induction leading generalizing line lines with
  | nil =>
      have whole := flatten_cutLines rest
      rw [show cutLines rest = line :: lines from cut] at whole
      exact ⟨line, rfl, lines.flatten, by simpa using whole⟩
  | cons c leading inductionHypothesis =>
      simp only [List.mem_cons, not_or] at noFeed
      have newline : c ≠ '\n' := noFeed.1 ∘ Eq.symm
      cases later : cutLines (leading ++ rest) with
      | nil =>
          simp only [cutLines_eq_nil_iff, List.append_eq_nil_iff] at later
          rcases later with ⟨rfl, rfl⟩
          simp only [List.append_nil, cutLines, newline, ↓reduceIte,
            List.cons.injEq] at cut
          exact ⟨[], by simp [cut.1], List.nil_prefix⟩
      | cons head others =>
          obtain ⟨tail, rfl, tailPrefix⟩ := inductionHypothesis noFeed.2 later
          simp only [List.cons_append, cutLines, newline, later, ↓reduceIte,
            List.cons.injEq] at cut
          exact ⟨tail, by simp [cut.1], tailPrefix⟩

/-- A list of texts that cutting the whole of it gives back. -/
def AreLines (lines : List String) : Prop :=
  pieces (String.join lines) = lines

/-- The pieces of a text make it up. -/
theorem join_pieces (text : String) : String.join (pieces text) = text := by
  apply String.toList_injective
  rw [String.toList_join, pieces, List.flatMap_def, List.map_map]
  simpa [Function.comp_def] using flatten_cutLines text.toList

theorem areLines_pieces (text : String) : AreLines (pieces text) := by
  rw [AreLines, join_pieces]

theorem pieces_append
    {left : String}
    (atStart : AtLineStart left.toList)
    (right : String) :
    pieces (left ++ right) = pieces left ++ pieces right := by
  simp [pieces, String.toList_append, cutLines_append atStart]

theorem lines_append
    {left : String}
    (atStart : AtLineStart left.toList)
    (right : String) :
    lines (left ++ right) = lines left ++ lines right := by
  simp [lines, String.toList_append, cutLines_append atStart]

/-- The first piece is a line of its own, and what follows are the others. -/
theorem pieces_eq_cons
    {text line : String}
    {lines : List String}
    (cut : pieces text = line :: lines) :
    pieces line = [line] ∧ AreLines lines ∧
      (lines ≠ [] → EndsLine line.toList) := by
  obtain ⟨first, others, cutText, rfl, rfl⟩ := List.map_eq_cons_iff.mp cut
  obtain ⟨single, rejoined, ended⟩ := cutLines_eq_cons cutText
  refine ⟨by simp [pieces, single], ?_, ?_⟩
  · rw [AreLines, pieces, String.toList_join, List.flatMap_def, List.map_map]
    simp [Function.comp_def, rejoined]
  · intro more
    simpa using ended (by simpa using more)

namespace AreLines

/--
Lines taken apart are lines on either side, and what stands before a cut is
finished.
-/
theorem of_append
    {left right : List String}
    (lines : AreLines (left ++ right)) :
    AreLines left ∧ AreLines right ∧
      (right ≠ [] → AtLineStart (String.join left).toList) := by
  induction left with
  | nil =>
      exact ⟨rfl, lines, fun _ => Or.inl rfl⟩
  | cons line left inductionHypothesis =>
      obtain ⟨single, others, ended⟩ := pieces_eq_cons lines
      obtain ⟨leftLines, rightLines, finished⟩ := inductionHypothesis others
      refine ⟨?_, rightLines, fun more => ?_⟩
      · rw [AreLines, String.join_cons]
        cases left with
        | nil =>
            simpa using single
        | cons next left =>
            have lineStart : AtLineStart line.toList :=
              Or.inr (ended (by simp))
            rw [pieces_append lineStart, single, leftLines]
            rfl
      · have lineEnds : EndsLine line.toList := ended (by simp [more])
        rw [String.join_cons, String.toList_append]
        rcases finished more with nothing | leftEnds
        · rw [nothing, List.append_nil]
          exact Or.inr lineEnds
        · refine Or.inr ?_
          rw [EndsLine, List.getLast?_append, leftEnds]
          rfl

end AreLines
end IsaUsage.Text
