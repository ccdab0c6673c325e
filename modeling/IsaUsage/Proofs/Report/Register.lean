import IsaUsage.Proofs.Text.Run
import IsaUsage.Report.Register
import Mathlib.Data.List.Induction
import Mathlib.Data.Nat.Digits.Defs
import Mathlib.Order.Bounds.Basic

namespace IsaUsage

/-!
# The registers that lines mention

`RegisterReference.Mentions` says which runs of digits in a line are indices of
a class, without saying how to look for them: a whole run right after the letter
of the class, and both runs of a block in brackets. The letter of a class is no
part of what can follow it in a reference, so reading one reference never passes
over the start of another, and the references read from left to right are all
there are (`mem_registerIndices_iff`). The highest register is the greatest
value of any of these runs (`maxRegister_isGreatest`). A character that is no
part of a reference keeps what stands before it apart from what stands behind it
(`mentions_append_cons_iff`).
-/

/-- Digits stand for a number by their places. -/
theorem Decimal.read_eq_ofDigits (digits : List Char) :
    read digits = Nat.ofDigits 10 (digits.reverse.map digitValue) := by
  induction digits using List.reverseRecOn with
  | nil =>
      rfl
  | append_singleton digits c inductionHypothesis =>
      rw [read_append_singleton, inductionHypothesis, List.reverse_append,
        List.reverse_singleton, List.singleton_append, List.map_cons,
        Nat.ofDigits_cons]
      ring

/-- The largest of some counts is at most as large as a bound of them all. -/
theorem Count.toNat_foldl_max_le_iff
    {counts : List Count}
    {start : Count}
    {bound : Nat} :
    (counts.foldl max start).toNat ≤ bound ↔
      start.toNat ≤ bound ∧ ∀ count ∈ counts, count.toNat ≤ bound := by
  induction counts generalizing start with
  | nil =>
      simp
  | cons count counts inductionHypothesis =>
      rw [List.foldl_cons, inductionHypothesis, toNat_max, max_le_iff,
        List.forall_mem_cons, and_assoc]

namespace RegisterReference

/-- One decimal digit or more. -/
def IsDigits (text : List Char) : Prop :=
  text ≠ [] ∧ ∀ c ∈ text, Decimal.isDigit c = true

/-- No run of digits can go on with what follows it. -/
def EndsDigits (rest : List Char) : Prop :=
  ∀ c ∈ rest.head?, Decimal.isDigit c = false

/--
How a reference is spelled after the letter of its class, which runs of digits
are indices in it, and what can follow it.
-/
inductive Spells : List Char → List (List Char) → List Char → Prop where
  /-- One index is a whole run of digits. -/
  | single {digits rest : List Char} :
      IsDigits digits → EndsDigits rest → Spells digits [digits] rest
  /-- A block is two runs of digits in brackets, with a colon between them. -/
  | block {first last rest : List Char} :
      IsDigits first → IsDigits last →
        Spells ('[' :: (first ++ ':' :: (last ++ [']']))) [first, last] rest

/-- A text starts with the rest of a reference, in which a run is an index. -/
def StartsWithIndex (text digits : List Char) : Prop :=
  ∃ spelling runs rest,
    text = spelling ++ rest ∧ Spells spelling runs rest ∧ digits ∈ runs

/-- A line has, somewhere, an index after the letter of a class. -/
def Mentions (letter : Char) (line digits : List Char) : Prop :=
  ∃ before after,
    line = before ++ letter :: after ∧ StartsWithIndex after digits

/-- The characters that can stand in a reference after the letter. -/
def isPart (c : Char) : Bool :=
  Decimal.isDigit c || c == '[' || c == ':' || c == ']'

/-- The letter of a class stands at the start of a reference only. -/
theorem isPart_letter (registers : RegisterClass) :
    isPart registers.letter = false := by
  cases registers <;> rfl

/-- Digits are part of references. -/
theorem isPart_of_isDigit
    {c : Char}
    (digit : Decimal.isDigit c = true) :
    isPart c = true := by
  simp [isPart, digit]

section Spelling

variable {spelling text digits rest : List Char} {runs : List (List Char)}

/-- A reference is spelled in its own characters. -/
theorem Spells.isPart_of_mem
    (spells : Spells spelling runs rest) :
    ∀ c ∈ spelling, isPart c = true := by
  intro c member
  cases spells with
  | single isDigits _ =>
      exact isPart_of_isDigit (isDigits.2 c member)
  | block isFirst isLast =>
      simp only [List.mem_cons, List.mem_append, List.not_mem_nil,
        or_false] at member
      rcases member with rfl | inFirst | rfl | inLast | rfl
      · rfl
      · exact isPart_of_isDigit (isFirst.2 c inFirst)
      · rfl
      · exact isPart_of_isDigit (isLast.2 c inLast)
      · rfl

theorem Spells.not_mem
    {c : Char}
    (spells : Spells spelling runs rest)
    (apart : isPart c = false) :
    c ∉ spelling := by
  intro member
  rw [spells.isPart_of_mem c member] at apart
  contradiction

/-- Digits are read as far as they go, and no further. -/
theorem readDigits?_eq_some_iff :
    readDigits? text = some (digits, rest) ↔
      IsDigits digits ∧ EndsDigits rest ∧ text = digits ++ rest := by
  constructor
  · intro found
    unfold readDigits? at found
    split at found
    · simp at found
    · rename_i nonempty
      simp only [Option.some.injEq, Prod.mk.injEq] at found
      obtain ⟨inside, ended, whole⟩ :=
        Text.takeWhile_dropWhile_iff.mp found
      exact ⟨⟨found.1 ▸ nonempty, inside⟩, ended, whole⟩
  · rintro ⟨⟨nonempty, inside⟩, ended, whole⟩
    obtain ⟨taken, dropped⟩ :=
      Text.takeWhile_dropWhile_iff.mpr ⟨inside, ended, whole⟩
    unfold readDigits?
    rw [taken, dropped]
    split
    · contradiction
    · rfl

theorem endsDigits_cons
    {c : Char}
    (other : Decimal.isDigit c = false) :
    EndsDigits (c :: rest) := by
  simpa [EndsDigits] using other

/-- Whatever is spelled as a reference is read as that reference. -/
theorem Spells.readAfterLetter?
    (spells : Spells spelling runs rest) :
    ∃ reference,
      readAfterLetter? (spelling ++ rest) = some (reference, rest) ∧
        reference.indices = runs.map index := by
  cases spells with
  | single isDigits ended =>
      obtain ⟨c, others, rfl⟩ := List.exists_cons_of_ne_nil isDigits.1
      have digit : Decimal.isDigit c = true := isDigits.2 c (by simp)
      have noBracket : c ≠ '[' := by
        rintro rfl
        exact absurd digit (by decide)
      have read := readDigits?_eq_some_iff.mpr ⟨isDigits, ended, rfl⟩
      refine ⟨.single (index (c :: others)), ?_, rfl⟩
      rw [RegisterReference.readAfterLetter?]
      · rw [readSingle?, read]
      · intro tail shape
        exact noBracket (List.cons.inj shape).1
  | @block first last _ isFirst isLast =>
      have readFirst := readDigits?_eq_some_iff.mpr
        ⟨isFirst, @endsDigits_cons (last ++ ']' :: rest) ':' rfl, rfl⟩
      have readLast := readDigits?_eq_some_iff.mpr
        ⟨isLast, @endsDigits_cons rest ']' rfl, rfl⟩
      refine ⟨.block (index first) (index last), ?_, rfl⟩
      simp [RegisterReference.readAfterLetter?, readBlock?, readFirst,
        readLast]

/-- Whatever is read as a reference is spelled as one. -/
theorem spells_of_readAfterLetter?
    {reference : RegisterReference}
    (found : RegisterReference.readAfterLetter? text = some (reference, rest)) :
    ∃ spelling runs,
      text = spelling ++ rest ∧ Spells spelling runs rest ∧
        reference.indices = runs.map index := by
  unfold RegisterReference.readAfterLetter? at found
  split at found
  · unfold readBlock? at found
    split at found
    · rename_i readFirst
      split at found
      · rename_i readLast
        simp only [Option.some.injEq, Prod.mk.injEq] at found
        obtain ⟨rfl, rfl⟩ := found
        obtain ⟨isFirst, -, rfl⟩ := readDigits?_eq_some_iff.mp readFirst
        obtain ⟨isLast, -, rfl⟩ := readDigits?_eq_some_iff.mp readLast
        exact ⟨_, _, by simp, .block isFirst isLast, rfl⟩
      · simp at found
    · simp at found
  · unfold readSingle? at found
    split at found
    · rename_i read
      simp only [Option.some.injEq, Prod.mk.injEq] at found
      obtain ⟨rfl, rfl⟩ := found
      obtain ⟨isDigits, ended, rfl⟩ := readDigits?_eq_some_iff.mp read
      exact ⟨_, _, rfl, .single isDigits ended, rfl⟩
    · simp at found

/-- A reference that is read holds all the indices that a text starts with. -/
theorem mem_indices_iff
    {reference : RegisterReference}
    (found : RegisterReference.readAfterLetter? text = some (reference, rest))
    {count : Count} :
    count ∈ reference.indices ↔
      ∃ digits, StartsWithIndex text digits ∧ index digits = count := by
  constructor
  · intro member
    obtain ⟨spelling, runs, whole, spells, indices⟩ :=
      spells_of_readAfterLetter? found
    rw [indices, List.mem_map] at member
    obtain ⟨digits, inRuns, rfl⟩ := member
    exact ⟨digits, ⟨spelling, runs, rest, whole, spells, inRuns⟩, rfl⟩
  · rintro ⟨digits, ⟨spelling, runs, after, rfl, spells, inRuns⟩, rfl⟩
    obtain ⟨other, foundOther, indices⟩ := spells.readAfterLetter?
    rw [foundOther, Option.some.injEq, Prod.mk.injEq] at found
    rw [← found.1, indices]
    exact List.mem_map_of_mem inRuns

/-- What cannot be read as a reference starts with no index. -/
theorem not_startsWithIndex_of_none
    (none : RegisterReference.readAfterLetter? text = none)
    (digits : List Char) :
    ¬ StartsWithIndex text digits := by
  rintro ⟨spelling, runs, rest, rfl, spells, -⟩
  obtain ⟨reference, found, -⟩ := spells.readAfterLetter?
  rw [none] at found
  contradiction

end Spelling

section Mentioning

variable {letter : Char} {text rest digits : List Char}

theorem not_mentions_nil : ¬ Mentions letter [] digits := by
  rintro ⟨before, after, whole, -⟩
  simp at whole

/-- A line mentions an index at its very start or further on. -/
theorem mentions_cons_iff {c : Char} :
    Mentions letter (c :: text) digits ↔
      (c = letter ∧ StartsWithIndex text digits) ∨
        Mentions letter text digits := by
  constructor
  · rintro ⟨before, after, whole, starts⟩
    cases before with
    | nil =>
        simp only [List.nil_append, List.cons.injEq] at whole
        exact Or.inl ⟨whole.1, whole.2 ▸ starts⟩
    | cons _ before =>
        simp only [List.cons_append, List.cons.injEq] at whole
        exact Or.inr ⟨before, after, whole.2, starts⟩
  · rintro (⟨rfl, starts⟩ | ⟨before, after, rfl, starts⟩)
    · exact ⟨[], text, rfl, starts⟩
    · exact ⟨c :: before, after, rfl, starts⟩

/-- Nothing is mentioned where the letter does not occur. -/
theorem mentions_append_of_not_mem
    {leading : List Char}
    (absent : letter ∉ leading) :
    Mentions letter (leading ++ rest) digits ↔ Mentions letter rest digits := by
  induction leading with
  | nil =>
      rfl
  | cons c leading inductionHypothesis =>
      simp only [List.mem_cons, not_or] at absent
      have notHere : c ≠ letter := absent.1 ∘ Eq.symm
      rw [List.cons_append, mentions_cons_iff, inductionHypothesis absent.2]
      simp [notHere]

/-- The references read from left to right hold every index of a line. -/
theorem mem_indices_all_iff
    (apart : isPart letter = false)
    (text : List Char)
    (count : Count) :
    count ∈ (all letter text).flatMap indices ↔
      ∃ digits, Mentions letter text digits ∧ index digits = count := by
  fun_induction all letter text with
  | case1 =>
      simp [not_mentions_nil]
  | case2 text reference rest found inductionHypothesis =>
      obtain ⟨spelling, runs, rfl, spells, -⟩ := spells_of_readAfterLetter? found
      -- No letter stands in what was read, so nothing is mentioned inside it.
      have absent : letter ∉ spelling := spells.not_mem apart
      rw [List.flatMap_cons, List.mem_append, mem_indices_iff found,
        inductionHypothesis]
      simp only [mentions_cons_iff, mentions_append_of_not_mem absent,
        true_and, or_and_right, exists_or]
  | case3 text none inductionHypothesis =>
      rw [inductionHypothesis]
      simp [mentions_cons_iff, not_startsWithIndex_of_none none]
  | case4 c text other inductionHypothesis =>
      rw [inductionHypothesis]
      simp [mentions_cons_iff, other]

section Separator

variable {c : Char}

/-- What a reference can be followed by does not depend on what is far behind. -/
theorem spells_append_cons_iff
    {spelling : List Char}
    {runs : List (List Char)}
    (apart : isPart c = false) :
    Spells spelling runs (rest ++ c :: text) ↔ Spells spelling runs rest := by
  have notDigit : Decimal.isDigit c = false := by
    simp only [isPart, Bool.or_eq_false_iff] at apart
    exact apart.1.1.1
  have sameEnd : EndsDigits (rest ++ c :: text) ↔ EndsDigits rest := by
    cases rest with
    | nil =>
        simp [EndsDigits, notDigit]
    | cons next rest =>
        simp [EndsDigits]
  constructor
  · rintro (⟨isDigits, ended⟩ | ⟨isFirst, isLast⟩)
    · exact .single isDigits (sameEnd.mp ended)
    · exact .block isFirst isLast
  · rintro (⟨isDigits, ended⟩ | ⟨isFirst, isLast⟩)
    · exact .single isDigits (sameEnd.mpr ended)
    · exact .block isFirst isLast

/-- A reference does not go on past a character that is no part of it. -/
theorem startsWithIndex_append_cons_iff (apart : isPart c = false) :
    StartsWithIndex (rest ++ c :: text) digits ↔
      StartsWithIndex rest digits := by
  constructor
  · rintro ⟨spelling, runs, after, whole, spells, member⟩
    obtain ⟨tail, rfl, rfl⟩ :=
      Text.exists_tail_of_not_mem (spells.not_mem apart) whole
    exact ⟨spelling, runs, tail, rfl, (spells_append_cons_iff apart).mp spells,
      member⟩
  · rintro ⟨spelling, runs, after, rfl, spells, member⟩
    exact ⟨spelling, runs, after ++ c :: text, by simp,
      (spells_append_cons_iff apart).mpr spells, member⟩

/-- What stands on either side of such a character is mentioned by itself. -/
theorem mentions_append_cons_iff
    (apart : isPart c = false)
    (other : c ≠ letter) :
    Mentions letter (rest ++ c :: text) digits ↔
      Mentions letter rest digits ∨ Mentions letter text digits := by
  induction rest with
  | nil =>
      simp [mentions_cons_iff, not_mentions_nil, other]
  | cons first rest inductionHypothesis =>
      rw [List.cons_append, mentions_cons_iff, mentions_cons_iff,
        startsWithIndex_append_cons_iff apart, inductionHypothesis, or_assoc]

end Separator
end Mentioning
end RegisterReference

open RegisterReference

/-- A line's indices are those that it mentions. -/
theorem mem_registerIndices_iff
    {registers : RegisterClass}
    {line : String}
    {count : Count} :
    count ∈ registerIndices registers line ↔
      ∃ digits,
        Mentions registers.letter line.toList digits ∧ index digits = count :=
  mem_indices_all_iff (isPart_letter registers) line.toList count

/-- The highest register is bounded by what bounds every index mentioned. -/
theorem maxRegister_le_iff
    {registers : RegisterClass}
    {lines : List String}
    {bound : Nat} :
    (maxRegister registers lines).toNat ≤ bound ↔
      ∀ digits,
        (∃ line ∈ lines, Mentions registers.letter line.toList digits) →
          (index digits).toNat ≤ bound := by
  rw [maxRegister, Count.toNat_foldl_max_le_iff]
  simp only [List.mem_flatMap, mem_registerIndices_iff]
  constructor
  · rintro ⟨-, bounded⟩ digits ⟨line, member, mentions⟩
    exact bounded _ ⟨line, member, digits, mentions, rfl⟩
  · intro bounded
    refine ⟨Nat.zero_le bound, ?_⟩
    rintro _ ⟨line, member, digits, mentions, rfl⟩
    exact bounded digits ⟨line, member, mentions⟩

/-- The value of a run of digits, at most the largest number of 64 bits. -/
def indexValue (digits : List Char) : Nat :=
  min (Nat.ofDigits 10 (digits.reverse.map Decimal.digitValue)) (2 ^ 64 - 1)

/-- An index that is too large becomes the greatest one. -/
theorem toNat_index (digits : List Char) :
    (index digits).toNat = indexValue digits := by
  rw [index, Count.toNat_saturate, Decimal.read_eq_ofDigits]
  rfl

/--
The highest register of a class is the greatest value of any index that a line
mentions, or 0 if none is greater.
-/
theorem maxRegister_isGreatest
    (registers : RegisterClass)
    (lines : List String) :
    IsGreatest
      (insert 0 {value | ∃ line ∈ lines, ∃ digits,
        Mentions registers.letter line.toList digits ∧
          value = indexValue digits})
      (maxRegister registers lines).toNat := by
  have bounded :=
    maxRegister_le_iff.mp (le_refl (maxRegister registers lines).toNat)
  constructor
  · rw [Set.mem_insert_iff, or_iff_not_imp_left]
    intro positive
    by_contra missing
    -- No index reaches the highest one, so one less is still a bound.
    have lower : (maxRegister registers lines).toNat ≤
        (maxRegister registers lines).toNat - 1 := by
      apply maxRegister_le_iff.mpr
      rintro digits ⟨line, member, mentions⟩
      have atMost := bounded digits ⟨line, member, mentions⟩
      have notEqual :
          (maxRegister registers lines).toNat ≠ (index digits).toNat := by
        intro same
        exact missing ⟨line, member, digits, mentions,
          same.trans (toNat_index digits)⟩
      omega
    omega
  · rintro value (rfl | ⟨line, member, digits, mentions, rfl⟩)
    · exact Nat.zero_le _
    · rw [← toNat_index]
      exact bounded digits ⟨line, member, mentions⟩

example :
    (maxRegister .vector ["v[1:2v7", "xv007 v[0:v3", "v[12:3] v_mov"]).toNat =
      12 := by
  decide +kernel

end IsaUsage
