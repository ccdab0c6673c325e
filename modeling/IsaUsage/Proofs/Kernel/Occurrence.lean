import IsaUsage.Proofs.Kernel.Division

namespace IsaUsage

/-!
# All the declarations of a text

`Declaration.Declares` says which names a text declares when it is searched from
left to right, each search going on behind the declaration found before. No
declaration runs over the end of a line, so the declarations of a text are those
of its lines in order (`Declaration.declarations_pieces`). A division makes a block
of every line that holds a declaration, whatever else the line holds: it has a
block for every declaration exactly if no line holds two of them
(`Document.names_split_declared`).
-/

namespace Declaration

/-- The first declaration of a text: its name, and what follows it. -/
def FirstIs (text name rest : List Char) : Prop :=
  ∃ before here,
    text = before ++ here ∧
      StartsWith here name rest ∧
      ∀ earlier later,
        text = earlier ++ later →
          earlier.length < before.length →
            ∀ other otherRest, ¬ StartsWith later other otherRest

/-- The names that a text declares, from left to right and without overlaps. -/
inductive Declares : List Char → List (List Char) → Prop where
  | nothing {text : List Char} :
      ¬ OccursIn text → Declares text []
  | first {text name rest : List Char} {names : List (List Char)} :
      FirstIs text name rest → Declares rest names →
        Declares text (name :: names)

/-- The reader finds the first declaration. -/
theorem readFirst?_eq_some_iff {text name rest : List Char} :
    readFirst? text = some (name, rest) ↔ FirstIs text name rest := by
  induction text with
  | nil =>
      simp only [readFirst?, reduceCtorEq, false_iff]
      rintro ⟨before, here, whole, ⟨gap, secondGap, -, -, -, -, rfl⟩, -⟩
      simp [kernelWord] at whole
  | cons c text inductionHypothesis =>
      cases found : readHere? (c :: text) with
      | some reading =>
          have starts := readHere?_eq_some_iff.mp found
          simp only [readFirst?, found]
          constructor
          · intro same
            cases same
            exact ⟨[], c :: text, rfl, starts, by simp⟩
          · rintro ⟨before, here, whole, startsHere, leftmost⟩
            -- A declaration stands right here, so none further on is the first.
            cases before with
            | nil =>
                rw [List.nil_append] at whole
                rw [← found, whole]
                exact readHere?_eq_some_iff.mpr startsHere
            | cons _ before =>
                exact absurd starts (leftmost [] (c :: text) rfl (by simp) _ _)
      | none =>
          have notHere (other otherRest : List Char) :
              ¬ StartsWith (c :: text) other otherRest := by
            rw [← readHere?_eq_some_iff, found]
            simp
          simp only [readFirst?, found, inductionHypothesis]
          constructor
          · rintro ⟨before, here, rfl, startsHere, leftmost⟩
            refine ⟨c :: before, here, rfl, startsHere, ?_⟩
            intro earlier later whole shorter
            cases earlier with
            | nil =>
                rw [List.nil_append] at whole
                exact whole ▸ notHere
            | cons _ earlier =>
                simp only [List.cons_append, List.cons.injEq] at whole
                exact leftmost earlier later whole.2
                  (Nat.lt_of_succ_lt_succ shorter)
          · rintro ⟨before, here, whole, startsHere, leftmost⟩
            cases before with
            | nil =>
                rw [List.nil_append] at whole
                exact absurd (whole ▸ startsHere) (notHere name rest)
            | cons _ before =>
                simp only [List.cons_append, List.cons.injEq] at whole
                rcases whole with ⟨rfl, rfl⟩
                refine ⟨before, here, rfl, startsHere, ?_⟩
                intro earlier later whole shorter
                exact leftmost (c :: earlier) later (by simp [whole])
                  (Nat.succ_lt_succ shorter)

/-- The search for a declaration leaves less text than there was. -/
theorem length_of_readFirst?
    {text name rest : List Char}
    (found : readFirst? text = some (name, rest)) :
    rest.length < text.length := by
  obtain ⟨before, here, rfl, ⟨gap, secondGap, -, -, -, -, rfl⟩, -⟩ :=
    readFirst?_eq_some_iff.mp found
  simp only [kernelWord, List.length_append, List.length_cons]
  omega

/-- The names of all declarations of a text. -/
def declarations (text : List Char) : List (List Char) :=
  match _found : readFirst? text with
  | none => []
  | some (name, rest) => name :: declarations rest
termination_by text.length
decreasing_by
  exact length_of_readFirst? _found

/-- Where no declaration is found there are none. -/
theorem declarations_of_none
    {text : List Char}
    (none : readFirst? text = none) :
    declarations text = [] := by
  rw [declarations]
  split
  · rfl
  · simp_all

/-- After the declaration that is found come those of the rest. -/
theorem declarations_of_some
    {text name rest : List Char}
    (found : readFirst? text = some (name, rest)) :
    declarations text = name :: declarations rest := by
  rw [declarations]
  split <;> simp_all

/-- Texts with the same first declaration declare the same. -/
theorem declarations_congr
    {left right : List Char}
    (same : readFirst? left = readFirst? right) :
    declarations left = declarations right := by
  cases found : readFirst? right with
  | none =>
      rw [declarations_of_none found, declarations_of_none (same.trans found)]
  | some reading =>
      rw [declarations_of_some found, declarations_of_some (same.trans found)]

/-- Every text declares certain names, and no others. -/
theorem declares_iff {text : List Char} {names : List (List Char)} :
    Declares text names ↔ declarations text = names := by
  constructor
  · intro declares
    induction declares with
    | nothing silent =>
        exact declarations_of_none (readFirst?_eq_none_iff.mpr silent)
    | first first _ inductionHypothesis =>
        rw [declarations_of_some (readFirst?_eq_some_iff.mpr first),
          inductionHypothesis]
  · rintro rfl
    fun_induction declarations text with
    | case1 text none =>
        exact .nothing (readFirst?_eq_none_iff.mp none)
    | case2 text name rest found inductionHypothesis =>
        exact .first (readFirst?_eq_some_iff.mp found) inductionHypothesis

/-- The first declaration of a line names the kernel that the line declares. -/
theorem kernelName?_eq_head? (line : String) :
    kernelName? line =
      (declarations line.toList).head?.map String.ofList := by
  cases found : readFirst? line.toList with
  | none =>
      simp [kernelName?, found, declarations_of_none found]
  | some reading =>
      simp [kernelName?, found, declarations_of_some found]

section Lines

variable {left right name rest : List Char}

/-- What follows a declaration goes on to the end of the line. -/
theorem StartsWith.endsLine
    (starts : StartsWith left name rest)
    (ended : Text.EndsLine left) :
    Text.EndsLine rest := by
  obtain ⟨gap, secondGap, gapRun, secondRun, isName, -, rfl⟩ := starts
  cases rest with
  | nil =>
      -- The last character of the text would be one of the name.
      have feed : '\n' ∈ name := by
        apply List.mem_of_getLast?
        simpa [Text.EndsLine, List.getLast?_append,
          List.getLast?_eq_some_getLast isName.1] using ended
      exact absurd (isName.2 _ feed) (by decide)
  | cons c rest =>
      simpa [Text.EndsLine, List.getLast?_append,
        List.getLast?_eq_some_getLast (List.cons_ne_nil c rest)] using ended

/-- A declaration that starts in a line is that of the line alone. -/
theorem startsWith_append_iff
    (ended : Text.EndsLine left)
    {after : List Char} :
    StartsWith (left ++ right) name after ↔
      ∃ rest, StartsWith left name rest ∧ after = rest ++ right := by
  constructor
  · intro starts
    obtain ⟨spelled, spells, endsName, whole⟩ := startsWith_iff.mp starts
    obtain ⟨line, rfl⟩ := List.getLast?_eq_some_iff.mp ended
    rw [List.append_assoc] at whole
    obtain ⟨tail, rfl, rfl⟩ :=
      Text.exists_tail_of_not_mem spells.newline_not_mem whole
    refine ⟨tail ++ ['\n'],
      startsWith_iff.mpr ⟨spelled, spells, ?_, by simp⟩, by simp⟩
    intro c first
    apply endsName
    cases tail <;> simpa using first
  · rintro ⟨rest, starts, rfl⟩
    have restEnds := starts.endsLine ended
    obtain ⟨spelled, spells, endsName, rfl⟩ := startsWith_iff.mp starts
    refine startsWith_iff.mpr ⟨spelled, spells, ?_, by simp⟩
    intro c first
    apply endsName
    cases rest with
    | nil =>
        simp [Text.EndsLine] at restEnds
    | cons next rest =>
        simpa using first

/-- A search of a text that begins with a finished line goes line by line. -/
theorem readFirst?_append (ended : Text.EndsLine left) (right : List Char) :
    readFirst? (left ++ right) =
      match readFirst? left with
      | some (name, rest) => some (name, rest ++ right)
      | none => readFirst? right := by
  induction left with
  | nil =>
      simp [Text.EndsLine] at ended
  | cons c left inductionHypothesis =>
      cases found : readHere? (c :: left) with
      | some reading =>
          have starts := readHere?_eq_some_iff.mp found
          have alsoFound : readHere? (c :: left ++ right) =
              some (reading.1, reading.2 ++ right) :=
            readHere?_eq_some_iff.mpr
              ((startsWith_append_iff ended).mpr ⟨_, starts, rfl⟩)
          rw [List.cons_append] at alsoFound ⊢
          simp [readFirst?, found, alsoFound]
      | none =>
          have alsoNone : readHere? (c :: left ++ right) = none := by
            cases also : readHere? (c :: left ++ right) with
            | none =>
                rfl
            | some reading =>
                obtain ⟨rest, starts, -⟩ := (startsWith_append_iff ended).mp
                  (readHere?_eq_some_iff.mp also)
                rw [readHere?_eq_some_iff.mpr starts] at found
                contradiction
          rw [List.cons_append] at alsoNone ⊢
          simp only [readFirst?, found, alsoNone]
          cases left with
          | nil =>
              rfl
          | cons next left =>
              exact inductionHypothesis (by simpa [Text.EndsLine] using ended)

/-- No declaration reaches beyond the end of its line. -/
theorem declarations_append
    (atStart : Text.AtLineStart left)
    (right : List Char) :
    declarations (left ++ right) = declarations left ++ declarations right := by
  rcases atStart with rfl | ended
  · have none : declarations [] = [] :=
      declarations_of_none rfl
    rw [none, List.nil_append, List.nil_append]
  · fun_induction declarations left with
    | case1 left none =>
        have whole := readFirst?_append ended right
        rw [none] at whole
        exact declarations_congr whole
    | case2 left name rest found inductionHypothesis =>
        have restEnds : Text.EndsLine rest := by
          obtain ⟨before, here, rfl, starts, -⟩ :=
            readFirst?_eq_some_iff.mp found
          apply starts.endsLine
          obtain ⟨gap, secondGap, -, -, -, -, rfl⟩ := starts
          simpa [Text.EndsLine, kernelWord, List.getLast?_append] using ended
        have whole := readFirst?_append ended right
        rw [found] at whole
        rw [declarations_of_some whole, inductionHypothesis restEnds]
        rfl

end Lines

/-- The declarations of a text are those of its lines in order. -/
theorem declarations_join
    {lines : List String}
    (areLines : Text.AreLines lines) :
    declarations (String.join lines).toList =
      lines.flatMap fun line => declarations line.toList := by
  induction lines with
  | nil =>
      exact declarations_of_none rfl
  | cons line lines inductionHypothesis =>
      obtain ⟨-, others, ended⟩ := Text.pieces_eq_cons areLines
      rw [List.flatMap_cons, String.join_cons, String.toList_append]
      cases lines with
      | nil =>
          simp
      | cons next lines =>
          rw [declarations_append (Or.inr (ended (by simp))),
            inductionHypothesis others]

/-- The declarations of a source are those of its lines. -/
theorem declarations_pieces (source : String) :
    declarations source.toList =
      (Text.pieces source).flatMap fun line => declarations line.toList := by
  rw [← declarations_join (Text.areLines_pieces source), Text.join_pieces]

end Declaration

section FirstOfEach

variable {α β : Type} {all : α → List β}

/-- The first members of lists are among all their members, in order. -/
theorem filterMap_head?_sublist (members : List α) :
    (members.filterMap fun member => (all member).head?).Sublist
      (members.flatMap all) := by
  induction members with
  | nil =>
      exact List.Sublist.refl _
  | cons member members inductionHypothesis =>
      cases here : all member with
      | nil =>
          simpa [here] using inductionHypothesis
      | cons first others =>
          simpa [here] using (inductionHypothesis.trans
            (List.sublist_append_right others _)).cons_cons first

/-- The first members of lists are as many as all if no list has a second one. -/
theorem length_filterMap_head?_eq_iff {members : List α} :
    (members.filterMap fun member => (all member).head?).length =
        (members.flatMap all).length ↔
      ∀ member ∈ members, (all member).length ≤ 1 := by
  induction members with
  | nil =>
      simp
  | cons member members inductionHypothesis =>
      have fewer := (@filterMap_head?_sublist _ _ all members).length_le
      rw [List.forall_mem_cons, ← inductionHypothesis]
      cases here : all member with
      | nil =>
          simp [here]
      | cons first others =>
          simp only [List.filterMap_cons, here, List.head?_cons,
            List.flatMap_cons, List.length_append, List.length_cons]
          omega

end FirstOfEach

namespace Document

/-- The lines of blocks declare the names of these blocks. -/
theorem filterMap_kernelName?_groups
    {groups : List (KernelBlock × List String)}
    (made : ∀ group ∈ groups, group.1.MadeOf group.2) :
    (groups.flatMap Prod.snd).filterMap Declaration.kernelName? =
      groups.map fun group => group.1.name := by
  induction groups with
  | nil =>
      rfl
  | cons group groups inductionHypothesis =>
      obtain ⟨declaration, rest, shape, declares, silent⟩ :=
        (made group (by simp)).opens
      have noMore : rest.filterMap Declaration.kernelName? = [] :=
        List.filterMap_eq_nil_iff.mpr silent
      have others := inductionHypothesis
        fun other member => made other (by simp [member])
      rw [List.flatMap_cons, List.filterMap_append, others, shape,
        List.filterMap_cons_some declares, noMore]
      rfl

/-- The blocks of a division are called as its lines say. -/
theorem names_split (source : String) :
    (split source).names =
      (Text.pieces source).filterMap Declaration.kernelName? := by
  obtain ⟨leading, groups, pieces, -, silent, kernels, made⟩ :=
    gathers_split source
  have noneLeading : leading.filterMap Declaration.kernelName? = [] :=
    List.filterMap_eq_nil_iff.mpr silent
  rw [pieces, List.filterMap_append, noneLeading,
    filterMap_kernelName?_groups made, names, kernels, List.map_map]
  rfl

/-- No line of a text declares two names. -/
def DeclaresLineByLine (source : String) : Prop :=
  ∀ line ∈ Text.pieces source, ∀ names,
    Declaration.Declares line.toList names → names.length ≤ 1

/-- A kernel is named after the first declaration of its line. -/
theorem names_split_eq_map (source : String) :
    (split source).names =
      ((Text.pieces source).filterMap fun line =>
        (Declaration.declarations line.toList).head?).map String.ofList := by
  rw [names_split, List.map_filterMap]
  congr 1
  funext line
  exact Declaration.kernelName?_eq_head? line

/--
The blocks are called as declarations of the text say, in their order. There is
a block for every one exactly if no line declares two names.
-/
theorem names_split_declared
    {source : String}
    {declared : List (List Char)}
    (declares : Declaration.Declares source.toList declared) :
    (split source).names.Sublist (declared.map String.ofList) ∧
      ((split source).kernels.length = declared.length ↔
        DeclaresLineByLine source) ∧
      ((split source).names = declared.map String.ofList ↔
        DeclaresLineByLine source) := by
  rw [Declaration.declares_iff, Declaration.declarations_pieces] at declares
  have isSublist : (split source).names.Sublist (declared.map String.ofList) := by
    rw [names_split_eq_map, ← declares]
    exact (filterMap_head?_sublist _).map String.ofList
  have sameLength : (split source).names.length = declared.length ↔
      DeclaresLineByLine source := by
    rw [names_split_eq_map, ← declares, List.length_map,
      length_filterMap_head?_eq_iff]
    simp only [DeclaresLineByLine, Declaration.declares_iff, forall_eq']
  refine ⟨isSublist, ?_, ?_⟩
  · rw [← sameLength, names, List.length_map]
  · rw [← sameLength]
    constructor
    · intro same
      rw [same, List.length_map]
    · intro same
      exact isSublist.eq_of_length (by rw [same, List.length_map])

end Document

/-- A document with a declaration on every other line, two of one name. -/
def repeatedNames : String :=
  "int n;\n__kernel void a();\n\n x__kernel\tvoid  b;\n__kernel void a"

/-- Three lines with a declaration each, two of one name. -/
theorem names_split_declared_repeatedNames :
    let declared := [['a'], ['b'], ['a']]
    Declaration.Declares repeatedNames.toList declared ∧
      Document.DeclaresLineByLine repeatedNames ∧
      (Document.split repeatedNames).kernels.length = 3 ∧
      (Document.split repeatedNames).names = ["a", "b", "a"] := by
  have declares : Declaration.Declares repeatedNames.toList
      [['a'], ['b'], ['a']] :=
    Declaration.declares_iff.mpr (by decide +kernel)
  obtain ⟨-, sameLength, sameNames⟩ := Document.names_split_declared declares
  have lineByLine : Document.DeclaresLineByLine repeatedNames := by
    simp only [Document.DeclaresLineByLine, Declaration.declares_iff,
      forall_eq']
    decide +kernel
  exact ⟨declares, lineByLine, sameLength.mpr lineByLine,
    sameNames.mpr lineByLine⟩

/-- The second declaration of a line has no block. -/
theorem second_declaration_has_no_block :
    let source := "__kernel void a() {} __kernel void b() {}\n"
    Declaration.Declares source.toList [['a'], ['b']] ∧
      (Document.split source).kernels =
        [⟨"a", "__kernel void a() {} __kernel void b() {}\n"⟩] :=
  ⟨Declaration.declares_iff.mpr (by decide +kernel), by decide +kernel⟩

end IsaUsage
