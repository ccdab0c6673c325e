import IsaUsage.File.System

namespace IsaUsage

/-!
# Where a path leads

Only directories decide where a walk goes: in two file systems with the same
directories a walk that succeeds in one succeeds in the other, and ends at the
same location. A path that `Names` a location stands for one entry of a
directory, and the operations on files change that entry alone.
-/

/-- A sequence of computations gives a value only if every one of them does. -/
theorem bind_eq_ok_iff
    {first : Except ε α}
    {next : α → Except ε β}
    {result : β} :
    (first >>= next) = .ok result ↔
      ∃ value, first = .ok value ∧ next value = .ok result := by
  cases first <;> simp [bind, Except.bind]

theorem eq_ok_of_toOption
    {result : Except ε α}
    {value : α}
    (given : result.toOption = some value) :
    result = .ok value := by
  cases result with
  | error error =>
      contradiction
  | ok other =>
      cases given
      rfl

theorem exists_eq_ok_of_isOk
    {result : Except ε α}
    (isOk : result.isOk = true) :
    ∃ value, result = .ok value := by
  cases result with
  | error error =>
      contradiction
  | ok value =>
      exact ⟨value, rfl⟩

namespace FileSystem

/-- What was a directory still is one. -/
def KeepsDirectories (before after : FileSystem) : Prop :=
  ∀ location,
    before.find? location = some .directory →
      after.find? location = some .directory

/-- The same locations are directories. -/
def SameDirectories (left right : FileSystem) : Prop :=
  ∀ location,
    left.find? location = some .directory ↔
      right.find? location = some .directory

/-- Nothing can be found at a path. -/
def NothingAt (files : FileSystem) (base : Location) (path : Path) : Prop :=
  ∀ node, files.nodeAt base path ≠ .ok node

/-- A path stands for an entry of a directory, at a location. -/
def Names
    (files : FileSystem)
    (base : Location)
    (path : Path)
    (location : Location) :
    Prop :=
  ∃ directory name,
    files.target base path = .ok ⟨directory, some name⟩ ∧
      entry directory name = .ok location

theorem SameDirectories.symm
    {left right : FileSystem}
    (same : SameDirectories left right) :
    SameDirectories right left :=
  fun location => (same location).symm

theorem SameDirectories.trans
    {first second third : FileSystem}
    (earlier : SameDirectories first second)
    (later : SameDirectories second third) :
    SameDirectories first third :=
  fun location => (earlier location).trans (later location)

/-- Directories that stay the same are kept. -/
theorem SameDirectories.keeps
    {left right : FileSystem}
    (same : SameDirectories left right) :
    KeepsDirectories left right :=
  fun location => (same location).mp

/-- Changing what is no directory into no directory keeps the directories. -/
theorem sameDirectories_of_change
    {before after : FileSystem}
    {location : Location}
    (elsewhere : ∀ other, other ≠ location →
      after.find? other = before.find? other)
    (wasNone : before.find? location ≠ some .directory)
    (isNone : after.find? location ≠ some .directory) :
    SameDirectories before after := by
  intro other
  by_cases same : other = location
  · subst other
    exact ⟨fun found => (wasNone found).elim, fun found => (isNone found).elim⟩
  · rw [elsewhere other same]

/-- Writing a file where no directory is leaves the directories the same. -/
theorem sameDirectories_put
    {files : FileSystem}
    {location : Location}
    (noDirectory : files.find? location ≠ some .directory)
    (contents : ByteArray)
    (isProgram : Bool) :
    SameDirectories files (files.put location (.file contents isProgram)) := by
  apply sameDirectories_of_change _ noDirectory (by simp)
  intro other different
  rw [find?_put, if_neg different.symm]

/-- Removing what is no directory leaves the directories the same. -/
theorem sameDirectories_erase
    {files : FileSystem}
    {location : Location}
    (noDirectory : files.find? location ≠ some .directory) :
    SameDirectories files (files.erase location) := by
  apply sameDirectories_of_change _ noDirectory (by simp)
  intro other different
  rw [find?_erase, if_neg different.symm]

/-- Only a directory can be stepped from. -/
theorem find?_of_step
    {files : FileSystem}
    {here next : Location}
    {name : String}
    (stepped : files.step here name = .ok next) :
    files.find? here = some .directory := by
  unfold step at stepped
  split at stepped
  · contradiction
  · contradiction
  · assumption

/-- A step from a directory leads to the same place in all file systems. -/
theorem step_eq_of_directory
    {left right : FileSystem}
    {here : Location}
    (inLeft : left.find? here = some .directory)
    (inRight : right.find? here = some .directory)
    (name : String) :
    left.step here name = right.step here name := by
  simp [step, inLeft, inRight]

/-- Where a walk ends, if it does not fail, is the same in all file systems. -/
theorem walk_eq_of_ok
    {left right : FileSystem}
    {here first second : Location}
    {names : List String}
    (walked : left.walk here names = .ok first)
    (walkedToo : right.walk here names = .ok second) :
    second = first := by
  induction names generalizing here with
  | nil =>
      exact Except.ok.inj (walkedToo.symm.trans walked)
  | cons name names inductionHypothesis =>
      obtain ⟨next, stepped, further⟩ := bind_eq_ok_iff.mp walked
      obtain ⟨nextToo, steppedToo, furtherToo⟩ := bind_eq_ok_iff.mp walkedToo
      rw [step_eq_of_directory (find?_of_step steppedToo) (find?_of_step stepped),
        stepped] at steppedToo
      cases steppedToo
      exact inductionHypothesis further furtherToo

/-- A path that can be followed in two file systems leads to one location. -/
theorem locate_eq_of_ok
    {left right : FileSystem}
    {base first second : Location}
    {path : Path}
    (located : left.locate base path = .ok first)
    (locatedToo : right.locate base path = .ok second) :
    second = first := by
  obtain ⟨_, -, walked⟩ := bind_eq_ok_iff.mp located
  obtain ⟨_, -, walkedToo⟩ := bind_eq_ok_iff.mp locatedToo
  exact walk_eq_of_ok walked walkedToo

/-- A walk goes on where its first part ended. -/
theorem walk_append
    (files : FileSystem)
    (here : Location)
    (earlier later : List String) :
    files.walk here (earlier ++ later) =
      files.walk here earlier >>= fun next => files.walk next later := by
  induction earlier generalizing here with
  | nil =>
      rfl
  | cons name earlier inductionHypothesis =>
      cases stepped : files.step here name with
      | error failure =>
          simp [walk, stepped, bind, Except.bind]
      | ok next =>
          simpa [walk, stepped, bind, Except.bind]
            using inductionHypothesis next

/-- A walk of one step more. -/
theorem walk_concat
    (files : FileSystem)
    (here : Location)
    (names : List String)
    (name : String) :
    files.walk here (names ++ [name]) =
      files.walk here names >>= fun next => files.step next name := by
  rw [walk_append]
  congr 1
  funext next
  exact bind_pure (files.step next name)

/-- Only directories decide where a walk goes. -/
theorem KeepsDirectories.walk
    {before after : FileSystem}
    (keeps : KeepsDirectories before after)
    {here location : Location}
    {names : List String}
    (walked : before.walk here names = .ok location) :
    after.walk here names = .ok location := by
  induction names generalizing here with
  | nil =>
      exact walked
  | cons name names inductionHypothesis =>
      rw [FileSystem.walk, bind_eq_ok_iff] at walked ⊢
      rcases walked with ⟨next, stepped, further⟩
      have wasDirectory := find?_of_step stepped
      rw [step_eq_of_directory wasDirectory (keeps here wasDirectory)] at stepped
      exact ⟨next, stepped, inductionHypothesis further⟩

/-- While directories are kept, a path leads to where it led. -/
theorem KeepsDirectories.locate
    {before after : FileSystem}
    (keeps : KeepsDirectories before after)
    {base location : Location}
    {path : Path}
    (located : before.locate base path = .ok location) :
    after.locate base path = .ok location := by
  rw [FileSystem.locate, bind_eq_ok_iff] at located ⊢
  rcases located with ⟨checked, fine, walked⟩
  exact ⟨checked, fine, keeps.walk walked⟩

/-- A walk that fails among directories fails the same way elsewhere. -/
theorem SameDirectories.walk_eq_error
    {left right : FileSystem}
    (same : SameDirectories left right)
    {here : Location}
    {names : List String}
    {failure : Failure}
    (failed : left.walk here names = .error failure)
    (found : failure ≠ .system .notFound)
    (isDirectory : failure ≠ .system .notADirectory) :
    right.walk here names = .error failure := by
  induction names generalizing here with
  | nil =>
      contradiction
  | cons name names inductionHypothesis =>
      rw [FileSystem.walk] at failed ⊢
      cases stepped : left.step here name with
      | ok next =>
          rw [stepped] at failed
          have inLeft := find?_of_step stepped
          rw [step_eq_of_directory inLeft ((same here).mp inLeft)] at stepped
          rw [stepped]
          exact inductionHypothesis failed
      | error other =>
          rw [stepped] at failed
          cases failed
          have inLeft : left.find? here = some .directory := by
            unfold step at stepped
            split at stepped
            · cases stepped
              exact (found rfl).elim
            · cases stepped
              exact (isDirectory rfl).elim
            · assumption
          rw [step_eq_of_directory inLeft ((same here).mp inLeft)] at stepped
          rw [stepped]
          rfl

/-- Where directories are the same, a path leads to the same location. -/
theorem SameDirectories.locate
    {left right : FileSystem}
    (same : SameDirectories left right)
    {base location : Location}
    {path : Path}
    (located : left.locate base path = .ok location) :
    right.locate base path = .ok location :=
  same.keeps.locate located

/-- A directory is found where a path leads to one. -/
theorem directoryAt_eq_ok_iff
    {files : FileSystem}
    {base location : Location}
    {path : Path} :
    files.directoryAt base path = .ok location ↔
      files.locate base path = .ok location ∧
        files.find? location = some .directory := by
  rw [directoryAt, bind_eq_ok_iff]
  constructor
  · rintro ⟨place, located, isDirectory⟩
    split at isDirectory
    · contradiction
    · contradiction
    · rename_i found
      cases isDirectory
      exact ⟨located, found⟩
  · rintro ⟨located, found⟩
    exact ⟨location, located, by simp [found]⟩

/-- Where directories are the same, the same directory is found. -/
theorem SameDirectories.directoryAt
    {left right : FileSystem}
    (same : SameDirectories left right)
    {base location : Location}
    {path : Path}
    (isDirectory : left.directoryAt base path = .ok location) :
    right.directoryAt base path = .ok location := by
  rw [directoryAt_eq_ok_iff] at isDirectory ⊢
  exact ⟨same.locate isDirectory.1, (same location).mp isDirectory.2⟩

/-- A name that can be an entry of a directory. -/
def IsEntryName (name : String) : Prop :=
  name ≠ "." ∧ name ≠ ".." ∧ name.utf8ByteSize ≤ longestName

/-- A step by an ordinary name leads to the entry of this name. -/
theorem step_of_isEntryName
    {files : FileSystem}
    {here : Location}
    {name : String}
    (isDirectory : files.find? here = some .directory)
    (isEntryName : IsEntryName name) :
    files.step here name = .ok (here ++ [name]) := by
  rcases isEntryName with ⟨notHere, notUp, fits⟩
  simp [step, isDirectory, notHere, notUp, Nat.not_lt.mpr fits]

/-- What it takes for a path to stand for an entry. -/
theorem names_iff
    {files : FileSystem}
    {base location : Location}
    {path : Path} :
    files.Names base path location ↔
      checkPath path = .ok () ∧
        ∃ names name here,
          path.steps = names ++ [name] ∧
            files.walk (start base path) names = .ok here ∧
            files.find? here = some .directory ∧
            IsEntryName name ∧ location = here ++ [name] := by
  constructor
  · rintro ⟨directory, name, targeted, isEntry⟩
    rw [target, bind_eq_ok_iff] at targeted
    rcases targeted with ⟨_, fine, targeted⟩
    rw [bind_eq_ok_iff] at targeted
    rcases targeted with ⟨here, walked, targeted⟩
    refine ⟨fine, ?_⟩
    cases last : path.steps.getLast? with
    | none =>
        simp [last] at targeted
    | some final =>
        rw [last] at targeted
        obtain ⟨_, stepped, ended⟩ := bind_eq_ok_iff.mp targeted
        have isDirectory := find?_of_step stepped
        simp only [Except.ok.injEq, Target.mk.injEq, Option.ite_none_left_eq_some,
          Bool.or_eq_true, decide_eq_true_eq, not_or, Option.some.injEq] at ended
        rcases ended with ⟨rfl, ⟨notHere, notUp⟩, rfl⟩
        unfold entry at isEntry
        split at isEntry
        · contradiction
        · rename_i fits
          cases isEntry
          obtain ⟨names, stepsShape⟩ := List.getLast?_eq_some_iff.mp last
          rw [stepsShape, List.dropLast_concat] at walked
          exact ⟨names, final, here, stepsShape, walked, isDirectory,
            ⟨notHere, notUp, Nat.not_lt.mp fits⟩, rfl⟩
  · rintro ⟨fine, names, name, here, stepsShape, walked, isDirectory,
      ⟨notHere, notUp, fits⟩, rfl⟩
    refine ⟨here, name, ?_, by simp [entry, Nat.not_lt.mpr fits]⟩
    have stepped : files.step here "." = .ok here := by
      simp [step, isDirectory]
    rw [target, bind_eq_ok_iff]
    refine ⟨(), fine, ?_⟩
    rw [stepsShape, List.dropLast_concat, walked, List.getLast?_concat]
    simp [stepped, notHere, notUp, bind, Except.bind]

/-- A path leads to the entry that it stands for. -/
theorem Names.locate
    {files : FileSystem}
    {base location : Location}
    {path : Path}
    (names : files.Names base path location) :
    files.locate base path = .ok location := by
  obtain ⟨fine, steps, name, here, stepsShape, walked, isDirectory, isEntryName,
    rfl⟩ := names_iff.mp names
  rw [FileSystem.locate, fine, stepsShape]
  show files.walk (start base path) (steps ++ [name]) = _
  rw [walk_concat, walked]
  exact step_of_isEntryName isDirectory isEntryName

/-- Where directories are the same, a path names the same entry. -/
theorem SameDirectories.names
    {left right : FileSystem}
    (same : SameDirectories left right)
    {base location : Location}
    {path : Path}
    (names : left.Names base path location) :
    right.Names base path location := by
  rw [names_iff] at names ⊢
  obtain ⟨fine, steps, name, here, stepsShape, walked, isDirectory, isEntryName,
    rfl⟩ := names
  exact ⟨fine, steps, name, here, stepsShape, same.keeps.walk walked,
    (same here).mp isDirectory, isEntryName, rfl⟩

end FileSystem
end IsaUsage
