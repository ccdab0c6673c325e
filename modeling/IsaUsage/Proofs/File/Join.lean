import IsaUsage.Proofs.File.Operation

namespace IsaUsage

/-!
# Names in a directory

A name without slashes, joined to the path of a directory, stands for the entry
of that name in the directory (`FileSystem.target_join`). What an operation on
such a path comes to therefore depends on the path itself and on what is at that
one location, and on nothing else in the tree.
-/

namespace Path

theorem splitAtSlashes_ne_nil (text : List Char) :
    splitAtSlashes text ≠ [] := by
  induction text with
  | nil =>
      simp [splitAtSlashes]
  | cons c rest inductionHypothesis =>
      by_cases slash : c = '/'
      · simp [splitAtSlashes, slash]
      · cases parts : splitAtSlashes rest <;>
          simp [splitAtSlashes, slash, parts]

/-- A slash always separates two parts. -/
theorem splitAtSlashes_append (left right : List Char) :
    splitAtSlashes (left ++ '/' :: right) =
      splitAtSlashes left ++ splitAtSlashes right := by
  induction left with
  | nil =>
      simp [splitAtSlashes]
  | cons c left inductionHypothesis =>
      by_cases slash : c = '/'
      · simp [splitAtSlashes, slash, inductionHypothesis]
      · cases parts : splitAtSlashes left with
        | nil =>
            exact (splitAtSlashes_ne_nil left parts).elim
        | cons part others =>
            simp [splitAtSlashes, slash, inductionHypothesis, parts]

theorem splitAtSlashes_of_not_mem
    {text : List Char}
    (noSlash : '/' ∉ text) :
    splitAtSlashes text = [text] := by
  induction text with
  | nil =>
      rfl
  | cons c rest inductionHypothesis =>
      simp only [List.mem_cons, not_or] at noSlash
      have slash : c ≠ '/' := noSlash.1 ∘ Eq.symm
      simp [splitAtSlashes, slash, inductionHypothesis noSlash.2]

/-- A name that holds no slash. -/
def IsSingle (name : String) : Prop :=
  '/' ∉ name.toList

instance (name : String) : Decidable (IsSingle name) :=
  inferInstanceAs (Decidable ('/' ∉ name.toList))

theorem isAbsolute_of_isSingle
    {name : String}
    (single : IsSingle name) :
    isAbsolute ⟨name⟩ = false := by
  unfold isAbsolute
  cases text : name.toList with
  | nil =>
      rfl
  | cons c rest =>
      have slash : c ≠ '/' := by
        rintro rfl
        exact single (by simp [text])
      simp [slash]

/-- Joining puts exactly one slash between a directory and a relative part. -/
theorem text_join
    {directory part : Path}
    (nonempty : directory.text ≠ "")
    (relative : part.isAbsolute = false) :
    ∃ leading,
      (directory.join part).text.toList = leading ++ '/' :: part.text.toList ∧
        (directory.text.toList = leading ∨
          directory.text.toList = leading ++ ['/']) := by
  cases slash : directory.endsInSlash with
  | true =>
      obtain ⟨leading, shape⟩ :
          ∃ leading, directory.text.toList = leading ++ ['/'] := by
        apply List.getLast?_eq_some_iff.mp
        simpa [endsInSlash] using slash
      exact ⟨leading, by simp [join, relative, slash, shape], Or.inr shape⟩
  | false =>
      exact ⟨directory.text.toList, by simp [join, relative, slash, nonempty],
        Or.inl rfl⟩

theorem join_of_empty
    {directory part : Path}
    (empty : directory.text = "") :
    directory.join part = part := by
  simp [join, empty]

/-- The steps of a path are its parts that are not empty. -/
theorem steps_eq (path : Path) :
    path.steps =
      ((splitAtSlashes path.text.toList).map String.ofList).filter (· ≠ "") :=
  rfl

theorem steps_of_isSingle
    {name : String}
    (single : IsSingle name)
    (named : name ≠ "") :
    steps ⟨name⟩ = [name] := by
  rw [steps_eq, splitAtSlashes_of_not_mem single]
  simp [named]

/-- The steps of a joined path are those of the directory and of the part. -/
theorem steps_join_of_relative
    {directory part : Path}
    (relative : part.isAbsolute = false) :
    (directory.join part).steps = directory.steps ++ part.steps := by
  by_cases empty : directory.text = ""
  · have noSteps : directory.steps = [] := by
      rw [steps_eq, empty]
      simp [splitAtSlashes]
    rw [join_of_empty empty, noSteps, List.nil_append]
  · obtain ⟨leading, joined, shape⟩ := text_join empty relative
    have leadingSteps : directory.steps =
        ((splitAtSlashes leading).map String.ofList).filter (· ≠ "") := by
      rcases shape with same | slash
      · rw [steps_eq, same]
      · rw [steps_eq, slash, splitAtSlashes_append]
        simp [splitAtSlashes]
    rw [leadingSteps, steps_eq, steps_eq, joined, splitAtSlashes_append,
      List.map_append, List.filter_append]

/-- Joining a single name adds one step. -/
theorem steps_join
    {directory : Path}
    {name : String}
    (single : IsSingle name)
    (named : name ≠ "") :
    (directory.join ⟨name⟩).steps = directory.steps ++ [name] := by
  rw [steps_join_of_relative (isAbsolute_of_isSingle single),
    steps_of_isSingle single named]

/-- Joining nothing adds no step. -/
theorem steps_join_empty (directory : Path) :
    (directory.join ⟨""⟩).steps = directory.steps :=
  (steps_join_of_relative rfl).trans (List.append_nil _)

/-- Joining a relative path keeps whether a path is absolute. -/
theorem isAbsolute_join
    {directory part : Path}
    (relative : part.isAbsolute = false) :
    (directory.join part).isAbsolute = directory.isAbsolute := by
  by_cases empty : directory.text = ""
  · rw [join_of_empty empty, relative]
    simp [isAbsolute, empty]
  · obtain ⟨c, rest, shape⟩ : ∃ c rest, directory.text.toList = c :: rest := by
      apply List.exists_cons_of_ne_nil
      simpa using empty
    unfold join
    rw [relative]
    cases directory.text = "" || directory.endsInSlash <;>
      simp [isAbsolute, shape]

theorem endsInSlash_of_isSingle
    {name : String}
    (single : IsSingle name) :
    endsInSlash ⟨name⟩ = false := by
  cases last : name.toList.getLast? with
  | none =>
      simp [endsInSlash, last]
  | some c =>
      have slash : c ≠ '/' := by
        rintro rfl
        exact single (List.mem_of_getLast? last)
      simp [endsInSlash, last, slash]

/-- A path that a single name was joined to does not end in a slash. -/
theorem endsInSlash_join
    {directory : Path}
    {name : String}
    (single : IsSingle name)
    (named : name ≠ "") :
    (directory.join ⟨name⟩).endsInSlash = false := by
  have noSlash := endsInSlash_of_isSingle single
  by_cases empty : directory.text = ""
  · rw [join_of_empty empty, noSlash]
  · obtain ⟨leading, joined, -⟩ :=
      text_join empty (isAbsolute_of_isSingle single)
    obtain ⟨c, rest, shape⟩ : ∃ c rest, name.toList = c :: rest := by
      apply List.exists_cons_of_ne_nil
      simpa using named
    unfold endsInSlash at noSlash ⊢
    rw [joined, List.getLast?_append, List.getLast?_cons]
    rw [shape, List.getLast?_cons] at noSlash
    simpa [shape, List.getLast?_cons] using noSlash

end Path

namespace FileSystem

/-- A name without slashes that is neither empty nor a way to walk. -/
structure IsOrdinary (name : String) : Prop where
  single : Path.IsSingle name
  named : name ≠ ""
  notHere : name ≠ "."
  notUp : name ≠ ".."

/-- The steps of a path lead to a directory. -/
structure Reaches
    (files : FileSystem)
    (base : Location)
    (directory : Path)
    (place : Location) :
    Prop where
  walked : files.walk (start base directory) directory.steps = .ok place
  isDirectory : files.find? place = some .directory

/-- The location of a name in a directory, if path and name can be used. -/
def slot (directory : Path) (place : Location) (name : String) :
    Except Failure Location := do
  checkPath (directory.join ⟨name⟩)
  entry place name

/-- What is reached stays reached while directories are kept. -/
theorem KeepsDirectories.reaches
    {before after : FileSystem}
    (keeps : KeepsDirectories before after)
    {base place : Location}
    {directory : Path}
    (reaches : before.Reaches base directory place) :
    after.Reaches base directory place where
  walked := keeps.walk reaches.walked
  isDirectory := keeps place reaches.isDirectory

theorem SameDirectories.reaches
    {left right : FileSystem}
    (same : SameDirectories left right)
    {base place : Location}
    {directory : Path}
    (reaches : left.Reaches base directory place) :
    right.Reaches base directory place :=
  same.keeps.reaches reaches

section Slot

variable {files : FileSystem} {base place : Location} {directory : Path}
  {name : String}

/-- A relative path is followed from where the directory before it is. -/
theorem start_join_of_relative
    {part : Path}
    (relative : part.isAbsolute = false) :
    start base (directory.join part) = start base directory := by
  unfold start
  rw [Path.isAbsolute_join relative]

theorem start_join (single : Path.IsSingle name) :
    start base (directory.join ⟨name⟩) = start base directory :=
  start_join_of_relative (Path.isAbsolute_of_isSingle single)

/-- A name that fits has its slot in the directory. -/
theorem slot_eq_ok
    {location : Location}
    (fits : slot directory place name = .ok location) :
    location = place ++ [name] := by
  obtain ⟨_, -, isEntry⟩ := bind_eq_ok_iff.mp fits
  unfold entry at isEntry
  split at isEntry
  · contradiction
  · cases isEntry
    rfl

namespace Reaches

/-- A directory that is reached can be stepped on. -/
theorem stays (reaches : files.Reaches base directory place) :
    files.step place "." = .ok place := by
  simp [step, reaches.isDirectory]

/-- The steps of a path lead to one place. -/
theorem unique
    {other : Location}
    (reaches : files.Reaches base directory place)
    (reachesOther : files.Reaches base directory other) :
    other = place :=
  Except.ok.inj (reachesOther.walked.symm.trans reaches.walked)

/-- A directory that is reached can be used unless its path cannot. -/
theorem directoryAt_eq (reaches : files.Reaches base directory place) :
    files.directoryAt base directory =
      checkPath directory >>= fun _ => .ok place := by
  unfold directoryAt locate
  rw [reaches.walked]
  cases checkPath directory with
  | error failure =>
      rfl
  | ok _ =>
      simp [reaches.isDirectory, bind, Except.bind]

/-- A path that may be asked about leads to the directory that it reaches. -/
theorem directoryAt_of_checkPath
    (reaches : files.Reaches base directory place)
    (fine : checkPath directory = .ok ()) :
    files.directoryAt base directory = .ok place := by
  rw [reaches.directoryAt_eq, fine]
  rfl

/-- A joined path ends at the entry of its name in the directory. -/
theorem target_join
    (reaches : files.Reaches base directory place)
    (ordinary : IsOrdinary name) :
    files.target base (directory.join ⟨name⟩) =
      checkPath (directory.join ⟨name⟩) >>= fun _ =>
        .ok ⟨place, some name⟩ := by
  unfold target
  rw [Path.steps_join ordinary.single ordinary.named, List.dropLast_concat,
    start_join ordinary.single, reaches.walked, List.getLast?_concat]
  congr 1
  funext _
  simp [reaches.stays, ordinary.notHere, ordinary.notUp, bind, Except.bind]

/-- A name is located where its slot is. -/
theorem locate_join
    (reaches : files.Reaches base directory place)
    (ordinary : IsOrdinary name) :
    files.locate base (directory.join ⟨name⟩) = slot directory place name := by
  unfold locate slot
  rw [Path.steps_join ordinary.single ordinary.named,
    start_join ordinary.single, walk_concat, reaches.walked]
  congr 1
  funext _
  show files.step place name = entry place name
  simp [step, reaches.isDirectory, ordinary.notHere, ordinary.notUp, entry]

/-- No other name leads to the entry of a name, ordinary or not. -/
theorem locate_join_ne
    {other : String}
    (reaches : files.Reaches base directory place)
    (single : Path.IsSingle name)
    (different : name ≠ other) :
    files.locate base (directory.join ⟨name⟩) ≠ .ok (place ++ [other]) := by
  intro located
  obtain ⟨_, -, walked⟩ := bind_eq_ok_iff.mp located
  rw [start_join single] at walked
  by_cases unnamed : name = ""
  · subst unnamed
    rw [Path.steps_join_empty, reaches.walked] at walked
    simp at walked
  · rw [Path.steps_join single unnamed, walk_concat, reaches.walked] at walked
    -- A step stays, leads up, or leads to the entry of its own name.
    have stepped : files.step place name = .ok (place ++ [other]) := walked
    simp only [step, reaches.isDirectory] at stepped
    split at stepped
    · simp at stepped
    · split at stepped
      · have shorter := congrArg List.length (Except.ok.inj stepped)
        simp only [List.length_dropLast, List.length_append,
          List.length_singleton] at shorter
        omega
      · split at stepped
        · contradiction
        · simp [different] at stepped

/-- Removing a name looks at its slot and at nothing else. -/
theorem removeFile_join
    (reaches : files.Reaches base directory place)
    (ordinary : IsOrdinary name) :
    files.removeFile base (directory.join ⟨name⟩) =
      slot directory place name >>= fun location =>
        match files.find? location with
        | none => .error (.system .notFound)
        | some .directory => .error (.system .isADirectory)
        | some (.file _ _) => .ok (files.erase location) := by
  unfold removeFile slot
  rw [reaches.target_join ordinary,
    Path.endsInSlash_join ordinary.single ordinary.named]
  cases checkPath (directory.join ⟨name⟩) <;> rfl

/-- Writing a name looks at its slot and at nothing else. -/
theorem createFile_join
    (reaches : files.Reaches base directory place)
    (ordinary : IsOrdinary name)
    (contents : ByteArray) :
    files.createFile base (directory.join ⟨name⟩) contents =
      slot directory place name >>= fun location =>
        match files.find? location with
        | some .directory => .error (.system .isADirectory)
        | old =>
            .ok (files.put location
              (.file contents (old.any Node.isProgram))) := by
  unfold createFile slot
  rw [reaches.target_join ordinary,
    Path.endsInSlash_join ordinary.single ordinary.named]
  cases checkPath (directory.join ⟨name⟩) <;> rfl

/-- What is at a name is what is in its slot. -/
theorem nodeAt_join
    (reaches : files.Reaches base directory place)
    (ordinary : IsOrdinary name) :
    files.nodeAt base (directory.join ⟨name⟩) =
      slot directory place name >>= fun location =>
        match files.find? location with
        | none => .error (.system .notFound)
        | some node => .ok node := by
  unfold nodeAt
  rw [reaches.locate_join ordinary,
    Path.endsInSlash_join ordinary.single ordinary.named]
  congr 1
  funext location
  cases files.find? location with
  | none =>
      rfl
  | some node =>
      cases node <;> rfl

/-- A file that was moved is found under its new name and not under its old. -/
theorem nodeAt_renameFile_join
    {after : FileSystem}
    {newName : String}
    (reaches : files.Reaches base directory place)
    (ordinary : IsOrdinary name)
    (newOrdinary : IsOrdinary newName)
    (different : name ≠ newName)
    (renamed : files.renameFile base (directory.join ⟨name⟩)
      (directory.join ⟨newName⟩) = .ok after) :
    after.nodeAt base (directory.join ⟨newName⟩) =
        files.nodeAt base (directory.join ⟨name⟩) ∧
      after.nodeAt base (directory.join ⟨name⟩) =
        .error (.system .notFound) := by
  have moved := sameDirectories_renameFile renamed
  obtain ⟨oldLocation, newLocation, contents, isProgram, oldNames, newNames,
    found, -, -, rfl⟩ := renameFile_eq_ok renamed
  have oldSlot := (reaches.locate_join ordinary).symm.trans oldNames.locate
  have newSlot := (reaches.locate_join newOrdinary).symm.trans newNames.locate
  have otherLocation : newLocation ≠ oldLocation := by
    rw [slot_eq_ok oldSlot, slot_eq_ok newSlot]
    simpa using different.symm
  rw [(moved.reaches reaches).nodeAt_join newOrdinary,
    (moved.reaches reaches).nodeAt_join ordinary,
    reaches.nodeAt_join ordinary, oldSlot, newSlot]
  simp [bind, Except.bind, found, otherLocation]

/-- Moving a file between two names looks at their slots. -/
theorem renameFile_join
    {newName : String}
    {oldLocation : Location}
    {contents : ByteArray}
    {isProgram : Bool}
    (reaches : files.Reaches base directory place)
    (ordinary : IsOrdinary name)
    (newOrdinary : IsOrdinary newName)
    (oldSlot : slot directory place name = .ok oldLocation)
    (found : files.find? oldLocation = some (.file contents isProgram)) :
    files.renameFile base (directory.join ⟨name⟩) (directory.join ⟨newName⟩) =
      slot directory place newName >>= fun newLocation =>
        match files.find? newLocation with
        | some .directory => .error (.system .isADirectory)
        | _ => .ok ((files.erase oldLocation).put newLocation
            (.file contents isProgram)) := by
  obtain ⟨_, fine, isEntry⟩ := bind_eq_ok_iff.mp oldSlot
  unfold renameFile slot
  rw [reaches.target_join ordinary, reaches.target_join newOrdinary, fine,
    Path.endsInSlash_join ordinary.single ordinary.named,
    Path.endsInSlash_join newOrdinary.single newOrdinary.named]
  cases checkPath (directory.join ⟨newName⟩) with
  | error failure =>
      rfl
  | ok _ =>
      simp only [bind, Except.bind, isEntry, found]
      rfl

end Reaches

/-- A directory that was found is reached. -/
theorem reaches_of_directoryAt
    (resolved : files.directoryAt base directory = .ok place) :
    files.Reaches base directory place := by
  obtain ⟨located, isDirectory⟩ := directoryAt_eq_ok_iff.mp resolved
  obtain ⟨_, -, walked⟩ := bind_eq_ok_iff.mp located
  exact ⟨walked, isDirectory⟩

/-- A path at which a directory was found may be asked about. -/
theorem checkPath_of_directoryAt
    (resolved : files.directoryAt base directory = .ok place) :
    checkPath directory = .ok () := by
  obtain ⟨located, -⟩ := directoryAt_eq_ok_iff.mp resolved
  obtain ⟨_, fine, -⟩ := bind_eq_ok_iff.mp located
  exact fine

/-- A name can be looked up only in a directory that is reached. -/
theorem reaches_of_locate_join
    {location : Location}
    (ordinary : IsOrdinary name)
    (located : files.locate base (directory.join ⟨name⟩) = .ok location) :
    ∃ place, files.Reaches base directory place := by
  obtain ⟨_, -, walked⟩ := bind_eq_ok_iff.mp located
  rw [Path.steps_join ordinary.single ordinary.named,
    start_join ordinary.single, walk_concat] at walked
  obtain ⟨place, walked, stepped⟩ := bind_eq_ok_iff.mp walked
  exact ⟨place, walked, find?_of_step stepped⟩

/-- Only a directory that is reached can be written to. -/
theorem reaches_of_createFile
    {after : FileSystem}
    {contents : ByteArray}
    (ordinary : IsOrdinary name)
    (created : files.createFile base (directory.join ⟨name⟩) contents =
      .ok after) :
    ∃ place, files.Reaches base directory place := by
  obtain ⟨_, targeted, -⟩ := bind_eq_ok_iff.mp created
  obtain ⟨_, -, targeted⟩ := bind_eq_ok_iff.mp targeted
  obtain ⟨place, walked, targeted⟩ := bind_eq_ok_iff.mp targeted
  have stepsShape := @Path.steps_join directory name ordinary.single
    ordinary.named
  rw [stepsShape, List.dropLast_concat, start_join ordinary.single] at walked
  rw [stepsShape, List.getLast?_concat] at targeted
  obtain ⟨_, stepped, -⟩ := bind_eq_ok_iff.mp targeted
  exact ⟨place, walked, find?_of_step stepped⟩

/-- A walk up, or one that ends at a directory, leads to no file to remove. -/
theorem removeFile_of_walk
    {path : Path}
    {final : Location}
    (walked : files.walk (start base path) path.steps = .ok final)
    (noFile : path.steps.getLast? = some ".." ∨
      files.find? final = some .directory) :
    files.removeFile base path =
      checkPath path >>= fun _ => .error (.system .isADirectory) := by
  unfold removeFile target
  cases checkPath path with
  | error failure =>
      rfl
  | ok _ =>
      cases last : path.steps.getLast? with
      | none =>
          rw [List.getLast?_eq_none_iff] at last
          simp [last, walk, bind, Except.bind]
      | some name =>
          obtain ⟨names, stepsShape⟩ := List.getLast?_eq_some_iff.mp last
          rw [stepsShape, walk_concat, bind_eq_ok_iff] at walked
          rcases walked with ⟨here, walked, stepped⟩
          have isDirectory := find?_of_step stepped
          have stays : files.step here "." = .ok here := by
            simp [step, isDirectory]
          by_cases special : name = "." ∨ name = ".."
          · simp [stepsShape, walked, stays, special, bind, Except.bind]
          · rw [not_or] at special
            have found : files.find? final = some .directory := by
              rcases noFile with up | found
              · simp only [last, Option.some.injEq] at up
                exact (special.2 up).elim
              · exact found
            by_cases fits : name.utf8ByteSize > longestName
            · simp [step, isDirectory, special.1, special.2, fits] at stepped
            · simp only [step, isDirectory, special.1, special.2, fits,
                ↓reduceIte, Except.ok.injEq] at stepped
              subst final
              simp [stepsShape, walked, stays, special.1, special.2, entry,
                fits, found, bind, Except.bind]

/-- A name that is not ordinary never stands for a file to remove. -/
theorem removeFile_join_of_not_isOrdinary
    (reaches : files.Reaches base directory place)
    (single : Path.IsSingle name)
    (notOrdinary : ¬ IsOrdinary name) :
    files.removeFile base (directory.join ⟨name⟩) =
      checkPath (directory.join ⟨name⟩) >>= fun _ =>
        .error (.system .isADirectory) := by
  have sameStart := @start_join base directory name single
  by_cases unnamed : name = ""
  · subst unnamed
    refine removeFile_of_walk ?_ (Or.inr reaches.isDirectory)
    rw [sameStart, Path.steps_join_empty]
    exact reaches.walked
  · have stepsShape := @Path.steps_join directory name single unnamed
    have extended : files.walk (start base (directory.join ⟨name⟩))
        (directory.join ⟨name⟩).steps = files.step place name := by
      rw [sameStart, stepsShape, walk_concat, reaches.walked]
      rfl
    by_cases here : name = "."
    · subst here
      rw [reaches.stays] at extended
      exact removeFile_of_walk extended (Or.inr reaches.isDirectory)
    · by_cases up : name = ".."
      · subst up
        have climbs : files.step place ".." = .ok place.dropLast := by
          simp [step, reaches.isDirectory]
        rw [climbs] at extended
        exact removeFile_of_walk extended (Or.inl (by simp [stepsShape]))
      · exact (notOrdinary ⟨single, unnamed, here, up⟩).elim

/-- Only the empty path is one that the system takes for missing. -/
theorem checkPath_ne_notFound
    {path : Path}
    (nonempty : path.text ≠ "") :
    checkPath path ≠ .error (.system .notFound) := by
  unfold checkPath
  rw [if_neg nonempty]
  split
  · simp
  · split <;> simp

/--
A path may be asked about if it is a text without NUL that is not too long.
-/
theorem checkPath_eq_ok_iff {path : Path} :
    checkPath path = .ok () ↔
      path.holdsNul = false ∧ path.text ≠ "" ∧
        path.text.utf8ByteSize ≤ longestPath := by
  unfold checkPath
  split
  · simp_all
  · split
    · simp_all
    · split <;> simp_all

theorem text_ne_of_checkPath
    {path : Path}
    (fine : checkPath path = .ok ()) :
    path.text ≠ "" :=
  (checkPath_eq_ok_iff.mp fine).2.1

/-- What a path that can be used is made of can be used by itself. -/
theorem checkPath_of_text_eq
    {path part : Path}
    {leading : List Char}
    (fine : checkPath path = .ok ())
    (named : part.text ≠ "")
    (shape : path.text.toList = leading ++ part.text.toList) :
    checkPath part = .ok () := by
  have joined : path.text = String.ofList leading ++ part.text :=
    String.toList_injective (by simp [shape])
  rw [checkPath_eq_ok_iff] at fine ⊢
  obtain ⟨noNul, -, fits⟩ := fine
  refine ⟨?_, named, ?_⟩
  · simp only [Path.holdsNul, shape, List.contains_append, Bool.or_eq_false_iff]
      at noNul
    exact noNul.2
  · rw [joined, String.utf8ByteSize_append] at fits
    omega

/--
A part that is joined to the path of a directory leads, from anywhere, to where it
leads by itself in this directory.
-/
theorem Reaches.locate_join_eq
    {part : Path}
    (reaches : files.Reaches base directory place)
    (named : part.text ≠ "")
    (fine : checkPath (directory.join part) = .ok ()) :
    files.locate base (directory.join part) = files.locate place part := by
  by_cases absolute : part.isAbsolute = true
  · rw [Path.join_of_isAbsolute absolute]
    simp [locate, start, absolute]
  · have relative := Bool.eq_false_iff.mpr absolute
    have partFine : checkPath part = .ok () := by
      by_cases empty : directory.text = ""
      · rwa [Path.join_of_empty empty] at fine
      · obtain ⟨leading, joined, -⟩ := Path.text_join empty relative
        exact checkPath_of_text_eq fine named
          (joined.trans (List.append_cons _ _ _))
    unfold locate
    rw [fine, partFine, start_join_of_relative relative,
      Path.steps_join_of_relative relative, walk_append, reaches.walked]
    simp [start, relative, bind, Except.bind]

/-- Joining leaves some text unless both parts are empty. -/
theorem text_join_ne
    (single : Path.IsSingle name)
    (nonempty : directory.text ≠ "" ∨ name ≠ "") :
    (directory.join ⟨name⟩).text ≠ "" := by
  intro joinedEmpty
  by_cases empty : directory.text = ""
  · rw [Path.join_of_empty empty] at joinedEmpty
    rcases nonempty with directoryNonempty | named
    · exact directoryNonempty empty
    · exact named joinedEmpty
  · obtain ⟨leading, joined, -⟩ :=
      Path.text_join empty (Path.isAbsolute_of_isSingle single)
    simp [joinedEmpty] at joined

/-- An ordinary name is refused for other reasons than that it is not found. -/
theorem slot_ne (ordinary : IsOrdinary name) :
    slot directory place name ≠ .error (.system .notFound) := by
  have fine := checkPath_ne_notFound
    (@text_join_ne directory name ordinary.single (Or.inr ordinary.named))
  unfold slot
  cases checked : checkPath (directory.join ⟨name⟩) with
  | error failure =>
      rw [checked] at fine
      intro same
      cases same
      exact fine rfl
  | ok _ =>
      show entry place name ≠ _
      unfold entry
      split <;> simp

end Slot

end FileSystem
end IsaUsage
