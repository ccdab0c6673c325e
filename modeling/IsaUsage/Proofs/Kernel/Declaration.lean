import IsaUsage.Kernel.Declaration
import IsaUsage.Proofs.Text.Line
import IsaUsage.Proofs.Text.Run

namespace IsaUsage.Declaration

/-!
# What a declaration looks like

`StartsWith` is the shape of a declaration at the start of a text, and
`OccursIn` says that one stands somewhere in it. The reader finds exactly these
(`readHere?_eq_some_iff`, `readFirst?_eq_none_iff`). No line feed fits into the
shape, so a declaration never runs over the end of a line
(`exists_line_of_occursIn`).
-/

/-- Spaces and tabs between two words. -/
def IsGapRun (text : List Char) : Prop :=
  text ≠ [] ∧ ∀ c ∈ text, isGap c = true

/-- Word characters that make up a name. -/
def IsName (text : List Char) : Prop :=
  text ≠ [] ∧ ∀ c ∈ text, Text.isWord c = true

/-- No name can go on with what follows it. -/
def EndsName (rest : List Char) : Prop :=
  ∀ c ∈ rest.head?, Text.isWord c = false

/-- A text starts with the declaration of a name, which ends before `rest`. -/
def StartsWith (text name rest : List Char) : Prop :=
  ∃ gap secondGap,
    IsGapRun gap ∧ IsGapRun secondGap ∧ IsName name ∧ EndsName rest ∧
      text = kernelWord ++ (gap ++ (voidWord ++ (secondGap ++ (name ++ rest))))

/-- A declaration stands somewhere in a text. -/
def OccursIn (text : List Char) : Prop :=
  ∃ before here name rest,
    text = before ++ here ∧ StartsWith here name rest

/-- No character of a word is a gap. -/
theorem isGap_eq_false_of_isWord
    {c : Char}
    (word : Text.isWord c = true) :
    isGap c = false := by
  cases gap : isGap c with
  | false =>
      rfl
  | true =>
      simp only [isGap, Bool.or_eq_true, beq_iff_eq] at gap
      rcases gap with rfl | rfl
      all_goals exact absurd word (by decide)

/-- A gap is skipped if there is one, up to its end. -/
theorem afterGap?_eq_some_iff {text rest : List Char} :
    afterGap? text = some rest ↔
      (∃ gap, IsGapRun gap ∧ text = gap ++ rest) ∧
        ∀ c ∈ rest.head?, isGap c = false := by
  constructor
  · intro passed
    cases text with
    | nil =>
        simp [afterGap?] at passed
    | cons c text =>
        by_cases gap : isGap c = true
        · simp only [afterGap?, gap, ↓reduceIte, Option.some.injEq] at passed
          subst rest
          refine ⟨⟨c :: text.takeWhile isGap, ⟨by simp, ?_⟩, ?_⟩,
            Text.head?_dropWhile_eq_false isGap text⟩
          · intro d member
            rcases List.mem_cons.mp member with rfl | later
            · exact gap
            · exact List.mem_takeWhile_imp later
          · simp [List.takeWhile_append_dropWhile]
        · simp [afterGap?, gap] at passed
  · rintro ⟨⟨gap, ⟨nonempty, gaps⟩, rfl⟩, ended⟩
    obtain ⟨c, run, rfl⟩ := List.exists_cons_of_ne_nil nonempty
    have first : isGap c = true := gaps c (by simp)
    have dropped := Text.dropWhile_append_of_run
      (fun d member => gaps d (List.mem_cons_of_mem c member)) ended
    simp [afterGap?, first, dropped]

/-- A name is read up to its end. -/
theorem readName?_eq_some_iff {text name rest : List Char} :
    readName? text = some (name, rest) ↔
      IsName name ∧ EndsName rest ∧ text = name ++ rest := by
  constructor
  · intro found
    unfold readName? at found
    split at found
    · simp at found
    · rename_i word nonempty
      simp only [Option.some.injEq, Prod.mk.injEq] at found
      obtain ⟨inside, ended, whole⟩ :=
        Text.takeWhile_dropWhile_iff.mp found
      exact ⟨⟨found.1 ▸ nonempty, inside⟩, ended, whole⟩
  · rintro ⟨⟨nonempty, word⟩, ended, whole⟩
    obtain ⟨taken, dropped⟩ :=
      Text.takeWhile_dropWhile_iff.mpr ⟨word, ended, whole⟩
    unfold readName?
    rw [taken, dropped]
    split
    · contradiction
    · rfl

/-- A declaration is read at the start of a text exactly if one is there. -/
theorem readHere?_eq_some_iff {text name rest : List Char} :
    readHere? text = some (name, rest) ↔ StartsWith text name rest := by
  simp only [readHere?, Option.bind_eq_bind, Option.bind_eq_some_iff,
    Text.afterLiteral?_eq_some_iff, afterGap?_eq_some_iff,
    readName?_eq_some_iff]
  constructor
  · rintro ⟨_, rfl, _, ⟨⟨gap, gapRun, rfl⟩, -⟩, _, rfl, _,
      ⟨⟨secondGap, secondRun, rfl⟩, -⟩, isName, ended, rfl⟩
    exact ⟨gap, secondGap, gapRun, secondRun, isName, ended, rfl⟩
  · rintro ⟨gap, secondGap, gapRun, secondRun, isName, ended, rfl⟩
    refine ⟨_, rfl, _, ⟨⟨gap, gapRun, rfl⟩, ?_⟩, _, rfl, _,
      ⟨⟨secondGap, secondRun, rfl⟩, ?_⟩, isName, ended, rfl⟩
    · intro c first
      simp only [voidWord, List.cons_append, List.head?_cons,
        Option.mem_some_iff] at first
      subst c
      rfl
    · intro c first
      obtain ⟨d, word, rfl⟩ := List.exists_cons_of_ne_nil isName.1
      simp only [List.cons_append, List.head?_cons,
        Option.mem_some_iff] at first
      subst c
      exact isGap_eq_false_of_isWord (isName.2 d (by simp))

/-- The search fails if and only if no declaration occurs. -/
theorem readFirst?_eq_none_iff {text : List Char} :
    readFirst? text = none ↔ ¬ OccursIn text := by
  induction text with
  | nil =>
      simp only [readFirst?, true_iff]
      rintro ⟨before, here, name, rest, whole, gap, secondGap, -, -, -, -, rfl⟩
      simp [kernelWord] at whole
  | cons c text inductionHypothesis =>
      cases found : readHere? (c :: text) with
      | some reading =>
          rcases reading with ⟨name, rest⟩
          have starts := readHere?_eq_some_iff.mp found
          simp only [readFirst?, found, reduceCtorEq, false_iff, not_not]
          exact ⟨[], c :: text, name, rest, rfl, starts⟩
      | none =>
          simp only [readFirst?, found, inductionHypothesis, not_iff_not]
          constructor
          · rintro ⟨before, here, name, rest, rfl, starts⟩
            exact ⟨c :: before, here, name, rest, rfl, starts⟩
          · rintro ⟨before, here, name, rest, whole, starts⟩
            cases before with
            | nil =>
                rw [List.nil_append] at whole
                rw [whole, readHere?_eq_some_iff.mpr starts] at found
                simp at found
            | cons _ before =>
                simp only [List.cons_append, List.cons.injEq] at whole
                exact ⟨before, here, name, rest, whole.2, starts⟩

/-- What the search reads is a name. -/
theorem isName_of_readFirst?_eq_some
    {text name rest : List Char}
    (found : readFirst? text = some (name, rest)) :
    IsName name := by
  induction text with
  | nil =>
      simp [readFirst?] at found
  | cons c text inductionHypothesis =>
      unfold readFirst? at found
      split at found
      · rename_i reading here
        cases found
        obtain ⟨gap, secondGap, -, -, isName, -, -⟩ :=
          readHere?_eq_some_iff.mp here
        exact isName
      · exact inductionHypothesis found

/-- A line declares names only. -/
theorem isName_of_kernelName?_eq_some
    {line name : String}
    (declares : kernelName? line = some name) :
    IsName name.toList := by
  obtain ⟨⟨found, rest⟩, first, rfl⟩ := Option.map_eq_some_iff.mp declares
  simpa using isName_of_readFirst?_eq_some first

/-- The words and gaps of the declaration of a name, from its start to its end. -/
def Spells (spelled name : List Char) : Prop :=
  ∃ gap secondGap,
    IsGapRun gap ∧ IsGapRun secondGap ∧ IsName name ∧
      spelled = kernelWord ++ (gap ++ (voidWord ++ (secondGap ++ name)))

/-- A text that starts with a declaration is the declaration and a rest. -/
theorem startsWith_iff {text name rest : List Char} :
    StartsWith text name rest ↔
      ∃ spelled, Spells spelled name ∧ EndsName rest ∧ text = spelled ++ rest := by
  constructor
  · rintro ⟨gap, secondGap, gapRun, secondRun, isName, ended, rfl⟩
    exact ⟨_, ⟨gap, secondGap, gapRun, secondRun, isName, rfl⟩, ended,
      by simp only [List.append_assoc]⟩
  · rintro ⟨spelled, ⟨gap, secondGap, gapRun, secondRun, isName, rfl⟩, ended,
      rfl⟩
    exact ⟨gap, secondGap, gapRun, secondRun, isName, ended,
      by simp only [List.append_assoc]⟩

/-- A declaration holds gaps and word characters only. -/
theorem Spells.not_mem
    {spelled name : List Char}
    {c : Char}
    (spells : Spells spelled name)
    (noGap : isGap c = false)
    (noWord : Text.isWord c = false) :
    c ∉ spelled := by
  obtain ⟨gap, secondGap, gapRun, secondRun, isName, rfl⟩ := spells
  have inWords (word : List Char)
      (letters : ∀ d ∈ word, Text.isWord d = true) : c ∉ word :=
    fun member => by simp [letters c member] at noWord
  have inGap {run : List Char} (gaps : IsGapRun run) : c ∉ run :=
    fun member => by simp [gaps.2 c member] at noGap
  simp only [List.mem_append, not_or]
  exact ⟨inWords kernelWord (List.all_eq_true.mp (by decide)), inGap gapRun,
    inWords voidWord (List.all_eq_true.mp (by decide)), inGap secondRun,
    inWords name isName.2⟩

theorem Spells.newline_not_mem
    {spelled name : List Char}
    (spells : Spells spelled name) :
    '\n' ∉ spelled :=
  spells.not_mem (by decide) (by decide)

/-- A declaration that starts a text is over before its first line is. -/
theorem startsWith_line
    {text name rest line : List Char}
    {lines : List (List Char)}
    (starts : StartsWith text name rest)
    (cut : Text.cutLines text = line :: lines) :
    ∃ tail, StartsWith line name tail := by
  obtain ⟨spelled, spells, ended, rfl⟩ := startsWith_iff.mp starts
  obtain ⟨tail, rfl, leading⟩ :=
    Text.cutLines_append_of_not_mem spells.newline_not_mem cut
  refine ⟨tail, startsWith_iff.mpr ⟨spelled, spells, ?_, rfl⟩⟩
  intro c first
  rcases leading with ⟨others, rfl⟩
  apply ended
  rw [List.head?_append, Option.mem_def.mp first]
  rfl

/-- A declaration stands in a text only if one stands in one of its lines. -/
theorem exists_line_of_occursIn
    {text : List Char}
    (occurs : OccursIn text) :
    ∃ line ∈ Text.cutLines text, OccursIn line := by
  induction text with
  | nil =>
      rw [← not_not (a := OccursIn []), ← readFirst?_eq_none_iff] at occurs
      exact absurd rfl occurs
  | cons c text inductionHypothesis =>
      obtain ⟨line, lines, cut⟩ :
          ∃ line lines, Text.cutLines (c :: text) = line :: lines := by
        apply List.exists_cons_of_ne_nil
        simp [Text.cutLines_eq_nil_iff]
      rcases occurs with ⟨before, here, name, rest, whole, starts⟩
      cases before with
      | nil =>
          subst whole
          obtain ⟨tail, lineStarts⟩ := startsWith_line starts cut
          exact ⟨line, by simp [cut], [], line, name, tail, rfl, lineStarts⟩
      | cons first before =>
          simp only [List.cons_append, List.cons.injEq] at whole
          obtain ⟨later, member, laterOccurs⟩ :=
            inductionHypothesis ⟨before, here, name, rest, whole.2, starts⟩
          by_cases newline : c = '\n'
          · exact ⟨later, by simp [Text.cutLines, newline, member],
              laterOccurs⟩
          · cases textCut : Text.cutLines text with
            | nil =>
                simp [textCut] at member
            | cons head others =>
                rw [textCut] at member
                have whole : Text.cutLines (c :: text) =
                    (c :: head) :: others := by
                  simp [Text.cutLines, newline, textCut]
                rcases List.mem_cons.mp member with rfl | inOthers
                · rcases laterOccurs with ⟨before, here, name, rest, rfl, starts⟩
                  exact ⟨c :: (before ++ here), by simp [whole],
                    c :: before, here, name, rest, rfl, starts⟩
                · exact ⟨later, by simp [whole, inOthers], laterOccurs⟩

/-- A line declares no kernel if and only if no declaration occurs in it. -/
theorem kernelName?_eq_none_iff {line : String} :
    kernelName? line = none ↔ ¬ OccursIn line.toList := by
  rw [kernelName?, Option.map_eq_none_iff, readFirst?_eq_none_iff]

/-- Lines that declare nothing make up a text that declares nothing. -/
theorem not_occursIn_of_pieces
    {text : String}
    (silent : ∀ line ∈ Text.pieces text, kernelName? line = none) :
    ¬ OccursIn text.toList := by
  intro occurs
  obtain ⟨line, member, inLine⟩ := exists_line_of_occursIn occurs
  have none := silent (String.ofList line) (List.mem_map_of_mem member)
  rw [kernelName?_eq_none_iff, String.toList_ofList] at none
  exact none inLine

end IsaUsage.Declaration
