import IsaUsage.Proofs.Kernel.Occurrence

namespace IsaUsage.Declaration

/-!
# The kernel that a line declares

`Reads` is the grammar of a line with a declaration in it: what stands before,
the words and the gaps of the declaration, its name, and what follows. A line
declares the name of the reading with the least before it, and declares nothing
only if it has no reading at all (`kernelName?_reads`). A declaration that is
begun and not completed therefore hides none that comes after it.
-/

/-- A line with a declaration of `name` in it, which starts after `before`. -/
def Reads (line before name : String) : Prop :=
  ∃ gap secondGap rest : String,
    line =
        before ++ "__kernel" ++ gap ++ "void" ++ secondGap ++ name ++ rest ∧
      IsGapRun gap.toList ∧ IsGapRun secondGap.toList ∧
      IsName name.toList ∧ EndsName rest.toList

theorem reads_iff_startsWith {line before name : String} :
    Reads line before name ↔
      ∃ here rest,
        line.toList = before.toList ++ here ∧
          StartsWith here name.toList rest := by
  have kernelText : "__kernel".toList = kernelWord := rfl
  have voidText : "void".toList = voidWord := rfl
  constructor
  · rintro ⟨gap, secondGap, rest, rfl, gapRun, secondRun, isName, ended⟩
    refine ⟨_, rest.toList, ?_, gap.toList, secondGap.toList, gapRun,
      secondRun, isName, ended, rfl⟩
    simp only [String.toList_append, kernelText, voidText, List.append_assoc]
  · rintro ⟨here, rest, whole, gap, secondGap, gapRun, secondRun, isName,
      ended, rfl⟩
    refine ⟨String.ofList gap, String.ofList secondGap, String.ofList rest, ?_,
      ?_⟩
    · apply String.toList_injective
      simp only [whole, String.toList_append, String.toList_ofList, kernelText,
        voidText, List.append_assoc]
    · simp only [String.toList_ofList]
      exact ⟨gapRun, secondRun, isName, ended⟩

/-- A reading is there exactly if a declaration occurs. -/
theorem exists_reads_iff_occursIn {line : String} :
    (∃ before name, Reads line before name) ↔ OccursIn line.toList := by
  simp only [reads_iff_startsWith]
  constructor
  · rintro ⟨before, name, here, rest, whole, starts⟩
    exact ⟨before.toList, here, name.toList, rest, whole, starts⟩
  · rintro ⟨before, here, name, rest, whole, starts⟩
    exact ⟨String.ofList before, String.ofList name, here, rest,
      by simpa using whole, by simpa using starts⟩

/-- The first declaration of a line is the reading with the least before it. -/
theorem exists_firstIs_iff_reads {line name : String} :
    (∃ rest, FirstIs line.toList name.toList rest) ↔
      ∃ before, Reads line before name ∧
        ∀ shorter other,
          Reads line shorter other → before.length ≤ shorter.length := by
  simp only [reads_iff_startsWith, ← String.length_toList]
  constructor
  · rintro ⟨rest, before, here, whole, starts, leftmost⟩
    refine ⟨String.ofList before, ⟨here, rest, by simpa using whole, starts⟩, ?_⟩
    rintro shorter other ⟨later, otherRest, wholeLater, startsLater⟩
    by_contra less
    rw [String.toList_ofList, not_le] at less
    exact leftmost shorter.toList later wholeLater less other.toList otherRest
      startsLater
  · rintro ⟨before, ⟨here, rest, whole, starts⟩, least⟩
    refine ⟨rest, before.toList, here, whole, starts, ?_⟩
    intro earlier later wholeLater less other otherRest startsLater
    have atLeast := least (String.ofList earlier) (String.ofList other)
      ⟨later, otherRest, by simpa using wholeLater, by simpa using startsLater⟩
    rw [String.toList_ofList] at atLeast
    omega

theorem kernelName?_eq_some_iff {line name : String} :
    kernelName? line = some name ↔
      ∃ rest, FirstIs line.toList name.toList rest := by
  rw [kernelName?, Option.map_eq_some_iff]
  constructor
  · rintro ⟨⟨found, rest⟩, first, rfl⟩
    exact ⟨rest, by simpa using readFirst?_eq_some_iff.mp first⟩
  · rintro ⟨rest, first⟩
    exact ⟨(name.toList, rest), readFirst?_eq_some_iff.mpr first,
      String.ofList_toList⟩

/-- What stands before a declaration does not take it away. -/
theorem OccursIn.append
    {text : List Char}
    (occurs : OccursIn text)
    (leading : List Char) :
    OccursIn (leading ++ text) := by
  obtain ⟨before, here, name, rest, rfl, starts⟩ := occurs
  exact ⟨leading ++ before, here, name, rest, by simp, starts⟩

/--
A line declares exactly the name of its first reading, and nothing exactly if it
has none. Whatever is put before a line that declares a kernel, a begun
declaration included, the two together still declare one.
-/
theorem kernelName?_reads (line : String) :
    (∀ name, kernelName? line = some name ↔
      ∃ before, Reads line before name ∧
        ∀ shorter other,
          Reads line shorter other → before.length ≤ shorter.length) ∧
      (kernelName? line = none ↔ ¬ ∃ before name, Reads line before name) ∧
      ∀ begun,
        kernelName? line ≠ none → kernelName? (begun ++ line) ≠ none := by
  refine ⟨fun name => ?_, ?_, fun begun declares => ?_⟩
  · rw [kernelName?_eq_some_iff, exists_firstIs_iff_reads]
  · rw [kernelName?_eq_none_iff, exists_reads_iff_occursIn]
  · rw [ne_eq, kernelName?_eq_none_iff, not_not] at declares ⊢
    rw [String.toList_append]
    exact declares.append begun.toList

example :
    kernelName? "__kernel__kernel void (__kernel\tvoid  x1;" = some "x1" := by
  decide +kernel

end IsaUsage.Declaration
