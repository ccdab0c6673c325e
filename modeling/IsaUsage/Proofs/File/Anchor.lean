import IsaUsage.Proofs.File.Join
import Mathlib.Logic.Basic

namespace IsaUsage

/-!
# Paths made absolute

An anchored path is made of the names of a directory and of the steps of a relative
path that lead somewhere. Steps that are left out make no difference, so it leads from
everywhere to where the relative path leads from that directory
(`FileSystem.locate_anchored`).
-/

namespace Path

/-! ## Parts of texts -/

theorem not_mem_of_mem_splitAtSlashes
    {text part : List Char}
    (member : part ∈ splitAtSlashes text) :
    '/' ∉ part := by
  induction text generalizing part with
  | nil =>
      rw [List.mem_singleton.mp member]
      exact List.not_mem_nil
  | cons c rest inductionHypothesis =>
      by_cases slash : c = '/'
      · simp only [splitAtSlashes, slash, ↓reduceIte, List.mem_cons] at member
        rcases member with rfl | inRest
        · exact List.not_mem_nil
        · exact inductionHypothesis inRest
      · cases shape : splitAtSlashes rest with
        | nil =>
            exact (splitAtSlashes_ne_nil rest shape).elim
        | cons first others =>
            simp only [splitAtSlashes, slash, ↓reduceIte, shape,
              List.mem_cons] at member
            rcases member with rfl | inRest
            · have ofFirst := @inductionHypothesis first (by simp [shape])
              simpa [Ne.symm slash] using ofFirst
            · exact inductionHypothesis (by simp [shape, inRest])

/-- The characters of a text, without its slashes, are those of its parts. -/
theorem mem_splitAtSlashes_iff
    {text : List Char}
    {c : Char}
    (noSlash : c ≠ '/') :
    (∃ part ∈ splitAtSlashes text, c ∈ part) ↔ c ∈ text := by
  induction text with
  | nil =>
      simp [splitAtSlashes]
  | cons first rest inductionHypothesis =>
      by_cases slash : first = '/'
      · simp [splitAtSlashes, slash, noSlash, ← inductionHypothesis]
      · cases shape : splitAtSlashes rest with
        | nil =>
            exact (splitAtSlashes_ne_nil rest shape).elim
        | cons part others =>
            rw [shape] at inductionHypothesis
            simp [splitAtSlashes, slash, shape, ← inductionHypothesis, or_assoc]

/-- The parts of a path are what lies between its slashes. -/
theorem parts_eq (path : Path) :
    path.parts = (splitAtSlashes path.text.toList).map String.ofList :=
  rfl

theorem parts_of_isSingle
    {name : String}
    (single : IsSingle name) :
    parts ⟨name⟩ = [name] := by
  simp [parts_eq, splitAtSlashes_of_not_mem single]

/-- The parts on either side of a slash have nothing to do with each other. -/
theorem parts_append (left right : String) :
    parts ⟨left ++ "/" ++ right⟩ = parts ⟨left⟩ ++ parts ⟨right⟩ := by
  have text : (left ++ "/" ++ right).toList =
      left.toList ++ '/' :: right.toList := by
    simp
  rw [parts_eq, text, splitAtSlashes_append, List.map_append]
  rfl

theorem parts_ne_nil (path : Path) : path.parts ≠ [] :=
  fun empty => splitAtSlashes_ne_nil _ (List.map_eq_nil_iff.mp empty)

/-- A path that holds a slash ends in one part behind the last of them. -/
theorem exists_last_slash
    {path : Path}
    (slash : '/' ∈ path.text.toList) :
    ∃ leading last : String,
      path.text = leading ++ "/" ++ last ∧ IsSingle last ∧
        path.parts = parts ⟨leading⟩ ++ [last] := by
  obtain ⟨first, rest, shape, noSlash⟩ :=
    List.eq_append_cons_of_mem (List.mem_reverse.mpr slash)
  have single : IsSingle (String.ofList first.reverse) := by
    simpa [IsSingle] using noSlash
  have text : path.text =
      String.ofList rest.reverse ++ "/" ++ String.ofList first.reverse := by
    apply String.toList_injective
    rw [← List.reverse_inj, shape]
    simp
  have whole : path.parts =
      parts ⟨String.ofList rest.reverse ++ "/" ++ String.ofList first.reverse⟩ :=
    congrArg (fun text => parts ⟨text⟩) text
  refine ⟨_, _, text, single, ?_⟩
  rw [whole, parts_append, parts_of_isSingle single]

theorem isSingle_of_mem_parts
    {path : Path}
    {part : String}
    (member : part ∈ path.parts) :
    IsSingle part := by
  obtain ⟨chars, isPart, rfl⟩ := List.mem_map.mp member
  simpa [IsSingle] using not_mem_of_mem_splitAtSlashes isPart

/-- A path holds the forbidden character only in one of its parts. -/
theorem holdsNul_iff {path : Path} :
    path.holdsNul = true ↔ ∃ part ∈ path.parts, '\x00' ∈ part.toList := by
  rw [holdsNul, List.contains_iff_mem, parts_eq,
    ← mem_splitAtSlashes_iff (by decide)]
  simp only [List.mem_map, exists_exists_and_eq_and, String.toList_ofList]

/-- The steps of a path are its parts with a name. -/
theorem mem_steps_iff
    {path : Path}
    {name : String} :
    name ∈ path.steps ↔ name ∈ path.parts ∧ name ≠ "" := by
  simp [steps]

/-- The steps that move are those that are not a dot. -/
theorem mem_movingSteps_iff
    {path : Path}
    {name : String} :
    name ∈ path.movingSteps ↔ name ∈ path.parts ∧ name ≠ "" ∧ name ≠ "." := by
  simp [movingSteps, mem_steps_iff, and_assoc]

/-- A path without slashes is one part; any other has several. -/
theorem one_lt_length_parts_iff {path : Path} :
    1 < path.parts.length ↔ '/' ∈ path.text.toList := by
  by_cases slash : '/' ∈ path.text.toList
  · obtain ⟨leading, last, -, -, partsShape⟩ := exists_last_slash slash
    have leadingParts := List.length_pos_iff.mpr (parts_ne_nil ⟨leading⟩)
    refine iff_of_true ?_ slash
    rw [partsShape, List.length_append, List.length_singleton]
    omega
  · have onePart : path.parts = [path.text] := parts_of_isSingle slash
    simp [onePart, slash]

/-! ## Paths of locations -/

/-- Joining names by slashes and dividing the text again gives the names. -/
theorem parts_intercalate
    {names : List String}
    (single : ∀ name ∈ names, IsSingle name)
    (nonempty : names ≠ []) :
    parts ⟨"/".intercalate names⟩ = names := by
  induction names with
  | nil =>
      contradiction
  | cons name others inductionHypothesis =>
      have singleName := single name List.mem_cons_self
      cases others with
      | nil =>
          rw [String.intercalate_singleton, parts_of_isSingle singleName]
      | cons other others =>
          have further := inductionHypothesis
            (fun other member => single other (List.mem_cons_of_mem _ member))
            (List.cons_ne_nil _ _)
          rw [String.intercalate_cons_cons, parts_append,
            parts_of_isSingle singleName, further]
          rfl

/-- The parts of the path of a location are an empty one and its names. -/
theorem parts_ofLocation
    {location : Location}
    (single : ∀ name ∈ location, IsSingle name)
    (nonempty : location ≠ []) :
    (ofLocation location).parts = "" :: location := by
  have fromRoot : ofLocation location =
      ⟨"" ++ "/" ++ "/".intercalate location⟩ :=
    rfl
  rw [fromRoot, parts_append, parts_intercalate single nonempty]
  rfl

/-- The names of a directory, all of which may stand in a path. -/
def IsNames (names : List String) : Prop :=
  ∀ name ∈ names, IsSingle name ∧ name ≠ ""

section Anchored

variable {base : Location} {path : Path}

theorem isNames_anchored
    (names : IsNames base) :
    IsNames (base ++ path.movingSteps) := by
  intro name member
  rcases List.mem_append.mp member with inBase | isStep
  · exact names name inBase
  · obtain ⟨isPart, named, -⟩ := mem_movingSteps_iff.mp isStep
    exact ⟨isSingle_of_mem_parts isPart, named⟩

/-- An anchored path is made of names, of moving steps and of the slash at the end. -/
theorem parts_anchored
    (names : IsNames base)
    (moving : path.movingSteps ≠ []) :
    (path.anchored base).parts =
      "" :: (base ++ path.movingSteps) ++
        if path.endsInSlash then [""] else [] := by
  have single : ∀ name ∈ base ++ path.movingSteps, IsSingle name :=
    fun name member => (isNames_anchored names name member).1
  have whole := parts_ofLocation single (by simp [moving])
  unfold anchored
  split
  · have slashBehind :=
      parts_append (ofLocation (base ++ path.movingSteps)).text ""
    rw [String.append_empty] at slashBehind
    exact slashBehind.trans (congrArg (· ++ [""]) whole)
  · rw [whole, List.append_nil]

/-- The steps of an anchored path begin at the root. -/
theorem steps_anchored
    (names : IsNames base)
    (moving : path.movingSteps ≠ []) :
    (path.anchored base).steps = base ++ path.movingSteps := by
  have named : (base ++ path.movingSteps).filter (· ≠ "") =
      base ++ path.movingSteps :=
    List.filter_eq_self.mpr fun name member =>
      decide_eq_true (isNames_anchored names name member).2
  have noSlashStep : (if path.endsInSlash then [""] else []).filter
      (fun name : String => name ≠ "") = [] := by
    split <;> simp
  rw [steps, parts_anchored names moving, List.cons_append,
    List.filter_cons_of_neg (by simp), List.filter_append, named, noSlashStep,
    List.append_nil]

theorem isAbsolute_anchored (base : Location) (path : Path) :
    (path.anchored base).isAbsolute = true := by
  unfold anchored
  split <;> simp [ofLocation, isAbsolute]

/-- A path of several parts ends in a slash if its last part is empty. -/
theorem endsInSlash_iff
    {path : Path}
    (slash : '/' ∈ path.text.toList) :
    path.endsInSlash = true ↔ path.parts.getLast? = some "" := by
  obtain ⟨leading, last, text, single, partsShape⟩ := exists_last_slash slash
  rw [partsShape, List.getLast?_concat, endsInSlash, text, String.toList_append,
    List.getLast?_append]
  cases final : last.toList.getLast? with
  | none =>
      have empty : last = "" := by
        simpa using List.getLast?_eq_none_iff.mp final
      simp [empty]
  | some c =>
      have member := List.mem_of_getLast? final
      have notSlash : c ≠ '/' := by
        rintro rfl
        exact single member
      have named : last ≠ "" := by
        rintro rfl
        contradiction
      simp [notSlash, named]

/-- Anchoring a path keeps whether it ends in a slash. -/
theorem endsInSlash_anchored
    (names : IsNames base)
    (moving : path.movingSteps ≠ []) :
    (path.anchored base).endsInSlash = path.endsInSlash := by
  have parts := parts_anchored names moving
  have slash : '/' ∈ (path.anchored base).text.toList := by
    rw [← one_lt_length_parts_iff, parts]
    have someStep := List.length_pos_iff.mpr moving
    simp only [List.cons_append, List.length_cons, List.length_append]
    omega
  obtain ⟨name, last⟩ : ∃ name,
      (base ++ path.movingSteps).getLast? = some name := by
    rw [← Option.isSome_iff_exists]
    simp [moving]
  have named : name ≠ "" :=
    (isNames_anchored names name (List.mem_of_getLast? last)).2
  rw [Bool.eq_iff_iff, endsInSlash_iff slash, parts, List.getLast?_append,
    List.getLast?_cons, last]
  cases path.endsInSlash <;> simp [named]

/-- Anchoring a path makes no parts of its own. -/
theorem mem_parts_anchored
    {part : String}
    (names : IsNames base)
    (moving : path.movingSteps ≠ [])
    (member : part ∈ (path.anchored base).parts) :
    part = "" ∨ part ∈ base ∨ part ∈ path.movingSteps := by
  rw [parts_anchored names moving] at member
  rcases List.mem_append.mp member with isName | isSlash
  · rcases List.mem_cons.mp isName with empty | isName
    · exact Or.inl empty
    · exact Or.inr (List.mem_append.mp isName)
  · split at isSlash
    · exact Or.inl (List.mem_singleton.mp isSlash)
    · contradiction

/-- What an anchored path holds is in the directory's path or in the path. -/
theorem holdsNul_anchored
    (names : IsNames base)
    (moving : path.movingSteps ≠ [])
    (baseFine : (ofLocation base).holdsNul = false)
    (fine : path.holdsNul = false) :
    (path.anchored base).holdsNul = false := by
  rw [← Bool.not_eq_true, holdsNul_iff] at baseFine fine ⊢
  rintro ⟨part, member, nul⟩
  rcases mem_parts_anchored names moving member with rfl | inBase | isStep
  · simp at nul
  · refine baseFine ⟨part, ?_, nul⟩
    rw [parts_ofLocation (fun name member => (names name member).1)
      (List.ne_nil_of_mem inBase)]
    exact List.mem_cons_of_mem _ inBase
  · exact fine ⟨part, (mem_movingSteps_iff.mp isStep).1, nul⟩

end Anchored

end Path

namespace FileSystem

/-! ## Walks from an anchor -/

/-- Steps that stay where they are can be left out of a walk that succeeds. -/
theorem walk_moving
    {files : FileSystem}
    {here final : Location}
    {names : List String}
    (walked : files.walk here names = .ok final) :
    files.walk here (names.filter (· ≠ ".")) = .ok final := by
  induction names generalizing here with
  | nil =>
      exact walked
  | cons name names inductionHypothesis =>
      obtain ⟨next, stepped, further⟩ := bind_eq_ok_iff.mp walked
      by_cases idle : name = "."
      · have stays : next = here := by
          simpa [step, find?_of_step stepped, idle] using stepped.symm
        rw [List.filter_cons_of_neg (by simp [idle]), ← stays]
        exact inductionHypothesis further
      · rw [List.filter_cons_of_pos (by simp [idle])]
        exact bind_eq_ok_iff.mpr ⟨next, stepped, inductionHypothesis further⟩

/-- A directory that its own path leads to. -/
def IsWorkplace (files : FileSystem) (base : Location) : Prop :=
  files.directoryAt [] (Path.ofLocation base) = .ok base

/-- Walking by names of files leads to a location made of such names. -/
theorem isNames_of_walk
    {files : FileSystem}
    {here final : Location}
    {names : List String}
    (hereNames : ∀ name ∈ here, IsOrdinary name)
    (areNames : Path.IsNames names)
    (walked : files.walk here names = .ok final) :
    ∀ name ∈ final, IsOrdinary name := by
  induction names generalizing here with
  | nil =>
      cases walked
      exact hereNames
  | cons name names inductionHypothesis =>
      obtain ⟨next, stepped, further⟩ := bind_eq_ok_iff.mp walked
      refine inductionHypothesis ?_
        (fun other member => areNames other (List.mem_cons_of_mem _ member))
        further
      obtain ⟨single, named⟩ := areNames name List.mem_cons_self
      simp only [step, find?_of_step stepped] at stepped
      split at stepped
      · cases stepped
        exact hereNames
      · rename_i notHere
        split at stepped
        · cases stepped
          exact fun other member => hereNames other (List.dropLast_subset here member)
        · rename_i notUp
          split at stepped
          · contradiction
          · cases stepped
            intro other member
            rcases List.mem_append.mp member with inHere | isName
            · exact hereNames other inHere
            · rw [List.mem_singleton.mp isName]
              exact ⟨single, named, notHere, notUp⟩

/-- The steps of a path are names. -/
theorem isNames_steps (path : Path) : Path.IsNames path.steps := by
  intro name member
  obtain ⟨isPart, named⟩ := Path.mem_steps_iff.mp member
  exact ⟨Path.isSingle_of_mem_parts isPart, named⟩

namespace IsWorkplace

variable {files : FileSystem} {base : Location}

theorem isNames (workplace : files.IsWorkplace base) : Path.IsNames base := by
  obtain ⟨_, -, walked⟩ :=
    bind_eq_ok_iff.mp (directoryAt_eq_ok_iff.mp workplace).1
  have absolute : start [] (Path.ofLocation base) = [] := by
    simp [start]
  rw [absolute] at walked
  intro name member
  have ordinary := isNames_of_walk (by simp) (isNames_steps _) walked name member
  exact ⟨ordinary.single, ordinary.named⟩

/-- The names of a workplace lead to it from the root. -/
theorem walk (workplace : files.IsWorkplace base) :
    files.walk [] base = .ok base := by
  have names := workplace.isNames
  obtain ⟨_, -, walked⟩ :=
    bind_eq_ok_iff.mp (directoryAt_eq_ok_iff.mp workplace).1
  by_cases root : base = []
  · rw [root]
    rfl
  · have stepsShape : (Path.ofLocation base).steps = base := by
      rw [Path.steps, Path.parts_ofLocation (fun name member =>
        (names name member).1) root, List.filter_cons_of_neg (by simp)]
      exact List.filter_eq_self.mpr fun name member =>
        decide_eq_true (names name member).2
    rw [stepsShape] at walked
    simpa [start] using walked

end IsWorkplace

/-- An anchored path leads from everywhere to where the path led from its base. -/
theorem locate_anchored
    {files : FileSystem}
    {base location : Location}
    {path : Path}
    (workplace : files.IsWorkplace base)
    (moving : path.movingSteps ≠ [])
    (relative : path.isAbsolute = false)
    (located : files.locate base path = .ok location)
    (fits : (path.anchored base).text.utf8ByteSize ≤ longestPath)
    (elsewhere : Location) :
    files.locate elsewhere (path.anchored base) = .ok location := by
  have names := workplace.isNames
  have absolute := Path.isAbsolute_anchored base path
  obtain ⟨baseFine, -⟩ :=
    checkPath_eq_ok_iff.mp (checkPath_of_directoryAt workplace)
  obtain ⟨_, fine, walked⟩ := bind_eq_ok_iff.mp located
  have anchoredFine : checkPath (path.anchored base) = .ok () := by
    refine checkPath_eq_ok_iff.mpr ⟨Path.holdsNul_anchored names moving baseFine
      (checkPath_eq_ok_iff.mp fine).1, ?_, fits⟩
    intro empty
    simp [Path.isAbsolute, empty] at absolute
  rw [start, relative] at walked
  rw [locate, anchoredFine, start, absolute, Path.steps_anchored names moving]
  show files.walk [] (base ++ path.movingSteps) = .ok location
  rw [walk_append, workplace.walk]
  exact walk_moving walked

end FileSystem
end IsaUsage
