import IsaUsage.Proofs.File.Walk

namespace IsaUsage.FileSystem

/-!
# What operations on files do

Every operation that succeeds changes entries that its paths stand for and
nothing else, and no operation makes or removes a directory. After a removal, and
after one that found nothing to remove, there is nothing at the path.
-/

/-- A file is where a path leads to one and does not end in a slash. -/
theorem isFile_iff
    {files : FileSystem}
    {base : Location}
    {path : Path} :
    files.isFile base path = true ↔
      ∃ location contents isProgram,
        files.locate base path = .ok location ∧
          files.find? location = some (.file contents isProgram) ∧
          path.endsInSlash = false := by
  cases located : files.locate base path with
  | error failure =>
      simp [isFile, nodeAt, located, bind, Except.bind]
  | ok location =>
      cases found : files.find? location with
      | none =>
          simp [isFile, nodeAt, located, found, bind, Except.bind]
      | some node =>
          cases node with
          | directory =>
              simp [isFile, nodeAt, located, found, bind, Except.bind]
          | file contents isProgram =>
              cases slash : path.endsInSlash <;> cases isProgram <;>
                simp [isFile, nodeAt, located, found, slash, bind, Except.bind]

/-- A file is read where a path leads to it and does not end in a slash. -/
theorem readFile_eq_ok_iff
    {files : FileSystem}
    {base : Location}
    {path : Path}
    {bytes : ByteArray} :
    files.readFile base path = .ok bytes ↔
      ∃ location isProgram,
        files.locate base path = .ok location ∧
          files.find? location = some (.file bytes isProgram) ∧
          path.endsInSlash = false := by
  cases located : files.locate base path with
  | error failure =>
      simp [readFile, nodeAt, located, bind, Except.bind]
  | ok location =>
      cases found : files.find? location with
      | none =>
          simp [readFile, nodeAt, located, found, bind, Except.bind]
      | some node =>
          cases node with
          | directory =>
              simp [readFile, nodeAt, located, found, bind, Except.bind]
          | file contents isProgram =>
              cases slash : path.endsInSlash <;> cases isProgram <;>
                simp [readFile, nodeAt, located, found, slash, bind,
                  Except.bind]

/-- Where a file is, there is a node. -/
theorem exists_nodeAt_of_isFile
    {files : FileSystem}
    {base : Location}
    {path : Path}
    (isFile : files.isFile base path = true) :
    ∃ contents isProgram,
      files.nodeAt base path = .ok (.file contents isProgram) := by
  unfold FileSystem.isFile at isFile
  split at isFile
  · rename_i contents isProgram found
    exact ⟨contents, isProgram, found⟩
  · contradiction

/-- The bytes of a file are those of what is at its path. -/
theorem readFile_congr
    {left right : FileSystem}
    {base : Location}
    {path : Path}
    (same : left.nodeAt base path = right.nodeAt base path) :
    left.readFile base path = right.readFile base path := by
  rw [readFile, readFile, same]

/-- A file is read as the contents of its node. -/
theorem readFile_of_nodeAt
    {files : FileSystem}
    {base : Location}
    {path : Path}
    {contents : ByteArray}
    {isProgram : Bool}
    (found : files.nodeAt base path = .ok (.file contents isProgram)) :
    files.readFile base path = .ok contents := by
  rw [readFile, found]
  rfl

/-- A file that holds the bytes of a text reads as that text. -/
theorem readText_of_readFile
    {files : FileSystem}
    {base : Location}
    {path : Path}
    {text : String}
    (read : files.readFile base path = .ok text.toUTF8) :
    files.readText base path = .ok text := by
  simp only [readText, read, bind, Except.bind]
  rw [Text.decode?_toUTF8]

/-- A place where nothing is leaves nothing to find at its path. -/
theorem nothingAt_of_locate
    {files : FileSystem}
    {base location : Location}
    {path : Path}
    (located : files.locate base path = .ok location)
    (nothing : files.find? location = none) :
    files.NothingAt base path := by
  intro node found
  simp [nodeAt, located, nothing, bind, Except.bind] at found

/-- Where a path names nothing, there is nothing at its location. -/
theorem find?_of_nothingAt
    {files : FileSystem}
    {base location : Location}
    {path : Path}
    (nothing : files.NothingAt base path)
    (located : files.locate base path = .ok location)
    (noSlash : path.endsInSlash = false) :
    files.find? location = none := by
  cases found : files.find? location with
  | none =>
      rfl
  | some node =>
      refine (nothing node ?_).elim
      cases node <;>
        simp [nodeAt, located, found, noSlash, bind, Except.bind]

/-- Writing a file fills the entry that the path stands for. -/
theorem createFile_eq_ok
    {before after : FileSystem}
    {base : Location}
    {path : Path}
    {contents : ByteArray}
    (created : before.createFile base path contents = .ok after) :
    ∃ location,
      before.Names base path location ∧
        before.find? location ≠ some .directory ∧
        path.endsInSlash = false ∧
        after = before.put location
          (.file contents
            ((before.find? location).any Node.isProgram)) := by
  rw [createFile, bind_eq_ok_iff] at created
  rcases created with ⟨⟨directory, last⟩, targeted, created⟩
  cases last with
  | none =>
      contradiction
  | some name =>
      dsimp only at created
      split at created
      · contradiction
      · rename_i noSlash
        obtain ⟨location, isEntry, created⟩ := bind_eq_ok_iff.mp created
        split at created
        · contradiction
        · rename_i free
          cases created
          exact ⟨location, ⟨directory, name, targeted, isEntry⟩, free,
            Bool.eq_false_iff.mpr noSlash, rfl⟩

/-- Whether a path leads to a program. -/
def leadsToProgram (files : FileSystem) (base : Location) (path : Path) :
    Bool :=
  (files.nodeAt base path).toOption.any Node.isProgram

/-- A path without a slash behind leads to what is at its location. -/
theorem leadsToProgram_of_locate
    {files : FileSystem}
    {base location : Location}
    {path : Path}
    (located : files.locate base path = .ok location)
    (noSlash : path.endsInSlash = false) :
    files.leadsToProgram base path =
      (files.find? location).any Node.isProgram := by
  unfold leadsToProgram nodeAt
  rw [located]
  cases found : files.find? location with
  | none =>
      simp [found, bind, Except.bind, Except.toOption]
  | some node =>
      cases node <;>
        simp [found, noSlash, bind, Except.bind, Except.toOption]

/-- What is written to a path is found there, as a program if there was one. -/
theorem nodeAt_createFile
    {before after : FileSystem}
    {base : Location}
    {path : Path}
    {contents : ByteArray}
    (created : before.createFile base path contents = .ok after) :
    after.nodeAt base path =
      .ok (.file contents (before.leadsToProgram base path)) := by
  obtain ⟨location, names, noDirectory, noSlash, rfl⟩ := createFile_eq_ok created
  rw [leadsToProgram_of_locate names.locate noSlash]
  generalize (before.find? location).any Node.isProgram = isProgram
  have same : SameDirectories before
      (before.put location (.file contents isProgram)) :=
    sameDirectories_put noDirectory contents isProgram
  simp [nodeAt, same.locate names.locate, noSlash, bind, Except.bind]

/-- Removing a file changes the entry that the path stands for. -/
theorem removeFile_eq_ok
    {before after : FileSystem}
    {base : Location}
    {path : Path}
    (removed : before.removeFile base path = .ok after) :
    ∃ location contents isProgram,
      before.Names base path location ∧
        before.find? location = some (.file contents isProgram) ∧
        after = before.erase location := by
  rw [removeFile, bind_eq_ok_iff] at removed
  rcases removed with ⟨⟨directory, last⟩, targeted, removed⟩
  cases last with
  | none =>
      contradiction
  | some name =>
      obtain ⟨location, isEntry, removed⟩ := bind_eq_ok_iff.mp removed
      split at removed
      · contradiction
      · contradiction
      · rename_i contents isProgram found
        split at removed
        · contradiction
        · cases removed
          exact ⟨location, contents, isProgram,
            ⟨directory, name, targeted, isEntry⟩, found, rfl⟩

/-- When there is no file to remove, there is nothing at the path at all. -/
theorem nothingAt_of_removeFile
    {files : FileSystem}
    {base : Location}
    {path : Path}
    (missing : files.removeFile base path = .error (.system .notFound)) :
    files.NothingAt base path := by
  intro node found
  rw [nodeAt, bind_eq_ok_iff] at found
  rcases found with ⟨location, located, found⟩
  rw [locate, bind_eq_ok_iff] at located
  rcases located with ⟨_, fine, walked⟩
  cases last : path.steps.getLast? with
  | none =>
      have noSteps := List.getLast?_eq_none_iff.mp last
      rw [noSteps] at walked
      simp [removeFile, target, fine, noSteps, walk, bind,
        Except.bind] at missing
  | some name =>
      obtain ⟨names, stepsShape⟩ := List.getLast?_eq_some_iff.mp last
      rw [stepsShape, walk_concat, bind_eq_ok_iff] at walked
      rcases walked with ⟨here, walked, stepped⟩
      have isDirectory := find?_of_step stepped
      have stays : files.step here "." = .ok here := by
        simp [step, isDirectory]
      by_cases special : name = "." ∨ name = ".."
      · simp [removeFile, target, fine, stepsShape, walked, stays, special,
          bind, Except.bind] at missing
      · rw [not_or] at special
        have located : location = here ++ [name] ∧
            ¬ name.utf8ByteSize > longestName := by
          simp only [step, isDirectory, special.1, special.2, ↓reduceIte]
            at stepped
          split at stepped
          · contradiction
          · rename_i fits
            cases stepped
            exact ⟨rfl, fits⟩
        rcases located with ⟨rfl, fits⟩
        simp only [removeFile, target, fine, stepsShape, walked, stays,
          special.1, special.2, fits, entry, bind, Except.bind,
          List.dropLast_concat, List.getLast?_concat, decide_false,
          Bool.or_self, Bool.false_eq_true, ↓reduceIte] at missing
        cases there : files.find? (here ++ [name]) with
        | none =>
            simp [there] at found
        | some node =>
            rw [there] at missing
            cases node with
            | directory =>
                simp at missing
            | file contents isProgram =>
                cases slash : path.endsInSlash <;> simp [slash] at missing

/-- After a removal there is nothing at the path. -/
theorem nothingAt_removeFile
    {before after : FileSystem}
    {base : Location}
    {path : Path}
    (removed : before.removeFile base path = .ok after) :
    after.NothingAt base path := by
  obtain ⟨location, contents, isProgram, names, found, rfl⟩ :=
    removeFile_eq_ok removed
  have same : SameDirectories before (before.erase location) :=
    sameDirectories_erase (by simp [found])
  exact nothingAt_of_locate (same.locate names.locate) (by simp)

/-- Moving a file takes its entry away and fills another with it. -/
theorem renameFile_eq_ok
    {before after : FileSystem}
    {base : Location}
    {source destination : Path}
    (renamed : before.renameFile base source destination = .ok after) :
    ∃ oldLocation newLocation contents isProgram,
      before.Names base source oldLocation ∧
        before.Names base destination newLocation ∧
        before.find? oldLocation = some (.file contents isProgram) ∧
        before.find? newLocation ≠ some .directory ∧
        destination.endsInSlash = false ∧
        after = (before.erase oldLocation).put newLocation
          (.file contents isProgram) := by
  rw [renameFile, bind_eq_ok_iff] at renamed
  rcases renamed with ⟨⟨oldDirectory, oldLast⟩, oldTargeted, renamed⟩
  obtain ⟨⟨newDirectory, newLast⟩, newTargeted, renamed⟩ :=
    bind_eq_ok_iff.mp renamed
  cases oldLast with
  | none =>
      contradiction
  | some oldName =>
      cases newLast with
      | none =>
          contradiction
      | some newName =>
          obtain ⟨oldLocation, oldEntry, renamed⟩ :=
            bind_eq_ok_iff.mp renamed
          split at renamed
          · contradiction
          · contradiction
          · rename_i node notDirectory found
            obtain ⟨newLocation, newEntry, renamed⟩ :=
              bind_eq_ok_iff.mp renamed
            split at renamed
            · contradiction
            · rename_i noSlash
              simp only [Bool.or_eq_true, not_or, Bool.not_eq_true] at noSlash
              split at renamed
              · contradiction
              · rename_i free
                cases renamed
                cases node with
                | directory =>
                    exact (notDirectory rfl).elim
                | file contents isProgram =>
                    exact ⟨oldLocation, newLocation, contents, isProgram,
                      ⟨oldDirectory, oldName, oldTargeted, oldEntry⟩,
                      ⟨newDirectory, newName, newTargeted, newEntry⟩, found,
                      free, noSlash.2, rfl⟩

/-- Renaming a file leaves the directories the same. -/
theorem sameDirectories_renameFile
    {before after : FileSystem}
    {base : Location}
    {source destination : Path}
    (renamed : before.renameFile base source destination = .ok after) :
    SameDirectories before after := by
  obtain ⟨oldLocation, newLocation, contents, isProgram, -, -, found, free, -,
    rfl⟩ := renameFile_eq_ok renamed
  have erased : SameDirectories before (before.erase oldLocation) :=
    sameDirectories_erase (by simp [found])
  exact erased.trans (sameDirectories_put
    (fun isDirectory => free ((erased newLocation).mpr isDirectory)) contents
    isProgram)

end IsaUsage.FileSystem
