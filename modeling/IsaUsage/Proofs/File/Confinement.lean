import IsaUsage.Proofs.File.Join

namespace IsaUsage.FileSystem

/-!
# Changes where certain paths lead

What is written and removed by way of a few paths can only be at the locations
that these paths lead to. As long as directories stay, a path leads to the same
location before and after such a change, and a file that none of the paths leads
to keeps its contents (`ChangedOnlyAt.readFile`).
-/

/-- A location that none of some paths leads to. -/
def Avoids
    (files : FileSystem)
    (base : Location)
    (paths : List Path)
    (location : Location) :
    Prop :=
  ∀ path ∈ paths, files.locate base path ≠ .ok location

/-- Nothing is changed but where certain paths lead, and directories stay. -/
structure ChangedOnlyAt
    (base : Location)
    (paths : List Path)
    (before after : FileSystem) :
    Prop where
  keeps : KeepsDirectories before after
  elsewhere :
    ∀ location,
      before.Avoids base paths location →
        after.find? location = before.find? location

namespace ChangedOnlyAt

variable {base : Location} {paths : List Path}
  {before middle after : FileSystem}

theorem refl (files : FileSystem) : ChangedOnlyAt base paths files files where
  keeps := fun _ => id
  elsewhere := fun _ _ => rfl

theorem trans
    (earlier : ChangedOnlyAt base paths before middle)
    (same : SameDirectories before middle)
    (later : ChangedOnlyAt base paths middle after) :
    ChangedOnlyAt base paths before after where
  keeps := fun location isDirectory =>
    later.keeps location (earlier.keeps location isDirectory)
  elsewhere := by
    intro location avoids
    have stillAvoids : middle.Avoids base paths location :=
      fun path member located =>
        avoids path member (same.symm.locate located)
    rw [later.elsewhere location stillAvoids,
      earlier.elsewhere location avoids]

theorem widen
    {wider : List Path}
    (changed : ChangedOnlyAt base paths before after)
    (subset : ∀ path ∈ paths, path ∈ wider) :
    ChangedOnlyAt base wider before after where
  keeps := changed.keeps
  elsewhere := fun location avoids =>
    changed.elsewhere location fun path member => avoids path (subset path member)

/-- A change of one location, which is no directory, where a path leads. -/
theorem of_change
    {path : Path}
    {location : Location}
    (member : path ∈ paths)
    (located : before.locate base path = .ok location)
    (noDirectory : before.find? location ≠ some .directory)
    (elsewhere : ∀ other, other ≠ location →
      after.find? other = before.find? other) :
    ChangedOnlyAt base paths before after where
  keeps := by
    intro other isDirectory
    rw [elsewhere other, isDirectory]
    rintro rfl
    exact noDirectory isDirectory
  elsewhere := by
    intro other avoids
    apply elsewhere
    rintro rfl
    exact avoids path member located

/-- A file that none of the paths leads to keeps its bytes. -/
theorem readFile
    {source : Path}
    {contents : ByteArray}
    (changed : ChangedOnlyAt base paths before after)
    (read : before.readFile base source = .ok contents)
    (apart : ∀ path ∈ paths,
      before.locate base path ≠ before.locate base source) :
    after.readFile base source = .ok contents := by
  obtain ⟨location, isProgram, located, found, noSlash⟩ :=
    readFile_eq_ok_iff.mp read
  have avoids : before.Avoids base paths location := by
    intro path member leads
    exact apart path member (leads.trans located.symm)
  rw [readFile_eq_ok_iff]
  refine ⟨location, isProgram, changed.keeps.locate located, ?_, noSlash⟩
  rw [changed.elsewhere location avoids, found]

/-- Changes under some names of a directory leave its other names alone. -/
theorem nodeAt_join
    {directory : Path}
    {place : Location}
    {names : List String}
    {other : String}
    (changed : ChangedOnlyAt base
      (names.map fun name => directory.join ⟨name⟩) before after)
    (reaches : before.Reaches base directory place)
    (single : ∀ name ∈ names, Path.IsSingle name)
    (otherOrdinary : IsOrdinary other)
    (different : other ∉ names) :
    after.nodeAt base (directory.join ⟨other⟩) =
      before.nodeAt base (directory.join ⟨other⟩) := by
  rw [reaches.nodeAt_join otherOrdinary,
    (changed.keeps.reaches reaches).nodeAt_join otherOrdinary]
  have avoids : before.Avoids base
      (names.map fun name => directory.join ⟨name⟩) (place ++ [other]) := by
    intro path isPath located
    obtain ⟨name, member, rfl⟩ := List.mem_map.mp isPath
    refine reaches.locate_join_ne (single name member) ?_ located
    rintro rfl
    exact different member
  cases usable : slot directory place other with
  | error failure =>
      rfl
  | ok location =>
      have isEntry := slot_eq_ok usable
      subst isEntry
      have unchanged := changed.elsewhere _ avoids
      simp only [bind, Except.bind, unchanged]

end ChangedOnlyAt

section Apart

variable {files before after : FileSystem} {base : Location}
  {left right : Path}

/-- Two paths do not lead to one location. -/
def LeadApart
    (files : FileSystem)
    (base : Location)
    (left right : Path) :
    Prop :=
  ∀ location,
    files.locate base left = .ok location →
      files.locate base right ≠ .ok location

theorem LeadApart.of_sameDirectories
    (apart : before.LeadApart base left right)
    (same : SameDirectories before after) :
    after.LeadApart base left right :=
  fun location leads leadsToo =>
    apart location (same.symm.locate leads) (same.symm.locate leadsToo)

/-- Different names in a directory lead apart. -/
theorem leadApart_join
    {directory : Path}
    {name other : String}
    (ordinary : IsOrdinary name)
    (otherOrdinary : IsOrdinary other)
    (different : name ≠ other) :
    files.LeadApart base (directory.join ⟨name⟩) (directory.join ⟨other⟩) := by
  intro location leads leadsToo
  obtain ⟨place, reaches⟩ := reaches_of_locate_join ordinary leads
  rw [reaches.locate_join ordinary] at leads
  rw [reaches.locate_join otherOrdinary] at leadsToo
  have sameName : name = other := by
    simpa using (slot_eq_ok leads).symm.trans (slot_eq_ok leadsToo)
  exact different sameName

/-- A file stays if all changed paths lead elsewhere. -/
theorem ChangedOnlyAt.readFile_of_leadApart
    {paths : List Path}
    {contents : ByteArray}
    (changed : ChangedOnlyAt base paths before after)
    (read : before.readFile base left = .ok contents)
    (apart : ∀ path ∈ paths, before.LeadApart base left path) :
    after.readFile base left = .ok contents := by
  obtain ⟨location, -, located, -, -⟩ := readFile_eq_ok_iff.mp read
  apply changed.readFile read
  intro path member same
  exact apart path member location located (same.trans located)

end Apart

section Below

instance : DecidableEq Node
  | .directory, .directory => .isTrue rfl
  | .directory, .file _ _ => .isFalse nofun
  | .file _ _, .directory => .isFalse nofun
  | .file contents isProgram, .file otherContents otherIsProgram =>
      decidable_of_iff
        (contents.data = otherContents.data ∧ isProgram = otherIsProgram)
        (by rw [Node.file.injEq, ByteArray.ext_iff])

variable {base below : Location} {path : Path} {paths : List Path}

/-- What is at the end of a path, or below it under some names. -/
def findBelow
    (files : FileSystem)
    (base : Location)
    (path : Path)
    (below : Location) :
    Option Node :=
  match files.locate base path with
  | .error _ => none
  | .ok location => files.find? (location ++ below)

/-- Some paths never lead to the end of a path, or to some names below it. -/
def OutOfReach
    (base : Location)
    (paths : List Path)
    (path : Path)
    (below : Location) :
    Prop :=
  ∀ (files : FileSystem) (location : Location),
    files.locate base path = .ok location →
      files.Avoids base paths (location ++ below)

/-- What is out of reach of all changed paths stays. -/
theorem ChangedOnlyAt.findBelow_eq
    {before after : FileSystem}
    (changed : ChangedOnlyAt base paths before after)
    (same : SameDirectories before after)
    (outOfReach : OutOfReach base paths path below) :
    after.findBelow base path below = before.findBelow base path below := by
  unfold findBelow
  cases located : before.locate base path with
  | ok location =>
      rw [same.locate located]
      exact changed.elsewhere _ (outOfReach before location located)
  | error failure =>
      cases locatedAfter : after.locate base path with
      | error _ =>
          rfl
      | ok location =>
          rw [same.symm.locate locatedAfter] at located
          contradiction

/-- What is out of reach of paths is out of reach of each. -/
theorem OutOfReach.of_mem
    {other : Path}
    (outOfReach : OutOfReach base paths path below)
    (member : other ∈ paths) :
    OutOfReach base [other] path below := by
  intro files location located reached isOther
  rw [List.mem_singleton.mp isOther]
  exact outOfReach files location located other member

/-- A name in a directory, and all below it, is out of reach of other names. -/
theorem outOfReach_join
    {directory : Path}
    {names : List String}
    {other : String}
    (ordinary : ∀ name ∈ names, IsOrdinary name)
    (otherOrdinary : IsOrdinary other)
    (different : other ∉ names)
    (below : Location) :
    OutOfReach base (names.map fun name => directory.join ⟨name⟩)
      (directory.join ⟨other⟩) below := by
  intro files location located path isPath leads
  obtain ⟨name, member, rfl⟩ := List.mem_map.mp isPath
  obtain ⟨place, reaches⟩ := reaches_of_locate_join otherOrdinary located
  rw [reaches.locate_join otherOrdinary] at located
  rw [reaches.locate_join (ordinary name member), slot_eq_ok located] at leads
  have sameName : other = name := by
    simpa using congrArg (·[place.length]?) (slot_eq_ok leads)
  exact different (sameName ▸ member)

end Below

section Operations

variable {base : Location} {files before after : FileSystem}
  {paths : List Path} {path : Path} {location : Location}

/-- Writing a file changes its location only. -/
theorem changedOnlyAt_put
    (member : path ∈ paths)
    (located : files.locate base path = .ok location)
    (noDirectory : files.find? location ≠ some .directory)
    (contents : ByteArray)
    (isProgram : Bool) :
    ChangedOnlyAt base paths files
      (files.put location (.file contents isProgram)) := by
  apply ChangedOnlyAt.of_change member located noDirectory
  intro other different
  rw [find?_put, if_neg different.symm]

/-- Removing a file changes its location only. -/
theorem changedOnlyAt_erase
    (member : path ∈ paths)
    (located : files.locate base path = .ok location)
    (noDirectory : files.find? location ≠ some .directory) :
    ChangedOnlyAt base paths files (files.erase location) := by
  apply ChangedOnlyAt.of_change member located noDirectory
  intro other different
  rw [find?_erase, if_neg different.symm]

/-- Creating a file changes what is at its path only, and no directories. -/
theorem changedOnlyAt_createFile
    {contents : ByteArray}
    (created : before.createFile base path contents = .ok after) :
    ChangedOnlyAt base [path] before after ∧ SameDirectories before after := by
  obtain ⟨location, names, noDirectory, -, rfl⟩ := createFile_eq_ok created
  exact ⟨changedOnlyAt_put List.mem_cons_self names.locate noDirectory _ _,
    sameDirectories_put noDirectory _ _⟩

/-- Removing what is at a path changes it only, and no directories. -/
theorem changedOnlyAt_removeFile
    (removed : before.removeFile base path = .ok after) :
    ChangedOnlyAt base [path] before after ∧ SameDirectories before after := by
  obtain ⟨location, contents, isProgram, names, found, rfl⟩ :=
    removeFile_eq_ok removed
  have noDirectory : before.find? location ≠ some .directory := by
    simp [found]
  exact ⟨changedOnlyAt_erase List.mem_cons_self names.locate noDirectory,
    sameDirectories_erase noDirectory⟩

/-- A move is a removal followed by a writing. -/
theorem changedOnlyAt_renameFile
    {source destination : Path}
    (renamed : before.renameFile base source destination = .ok after) :
    ChangedOnlyAt base [source, destination] before after ∧
      SameDirectories before after := by
  obtain ⟨oldLocation, newLocation, contents, isProgram, oldNames, newNames,
    found, free, -, rfl⟩ := renameFile_eq_ok renamed
  have wasFile : before.find? oldLocation ≠ some .directory := by
    simp [found]
  have erased : SameDirectories before (before.erase oldLocation) :=
    sameDirectories_erase wasFile
  have stillFree :
      (before.erase oldLocation).find? newLocation ≠ some .directory :=
    fun isDirectory => free ((erased newLocation).mpr isDirectory)
  constructor
  · apply (changedOnlyAt_erase List.mem_cons_self oldNames.locate wasFile).trans
      erased
    exact changedOnlyAt_put (List.mem_cons_of_mem _ List.mem_cons_self)
      (erased.locate newNames.locate) stillFree contents isProgram
  · exact sameDirectories_renameFile renamed

end Operations
end IsaUsage.FileSystem
