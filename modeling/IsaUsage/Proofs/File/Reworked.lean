import IsaUsage.Proofs.File.Walk

namespace IsaUsage.FileSystem

/-!
# Files that were reworked

Building kernels writes files over others and takes files away. It leaves
directories alone, and no file becomes a program. File systems that differ by such
changes have the same directories, and where the later one has a program there was
one before.
-/

/-- Nothing, or a file that cannot be started. -/
def IsPlain (node : Option Node) : Prop :=
  node = none ∨ ∃ contents, node = some (.file contents false)

/-- A node that is no directory, and a program only if another one was. -/
structure IsTame (earlier later : Option Node) : Prop where
  ne_directory : later ≠ some .directory
  isProgram :
    later.any Node.isProgram = true → earlier.any Node.isProgram = true

/-- Wherever files were changed, a change was allowed and made no program. -/
def Reworked
    (changeable : Location → Prop)
    (before after : FileSystem) :
    Prop :=
  ∀ location,
    after.find? location = before.find? location ∨
      changeable location ∧ before.find? location ≠ some .directory ∧
        IsTame (before.find? location) (after.find? location)

instance (node : Option Node) : Decidable (IsPlain node) :=
  match node with
  | none => isTrue (Or.inl rfl)
  | some .directory => isFalse (by simp [IsPlain])
  | some (.file contents false) => isTrue (Or.inr ⟨contents, rfl⟩)
  | some (.file _ true) => isFalse (by simp [IsPlain])

theorem IsPlain.ne_directory
    {node : Option Node}
    (plain : IsPlain node) :
    node ≠ some .directory := by
  rcases plain with rfl | ⟨contents, rfl⟩ <;> simp

theorem IsPlain.ne_program
    {node : Option Node}
    (plain : IsPlain node)
    (contents : ByteArray) :
    node ≠ some (.file contents true) := by
  rcases plain with rfl | ⟨contents, rfl⟩ <;> simp

/-- What is plain is not marked as a program. -/
theorem IsPlain.isProgram_eq
    {node : Option Node}
    (plain : IsPlain node) :
    node.any Node.isProgram = false := by
  rcases plain with rfl | ⟨contents, rfl⟩ <;> rfl

/-- A program is a file that can be started. -/
theorem any_isProgram_iff {node : Option Node} :
    node.any Node.isProgram = true ↔
      ∃ contents, node = some (.file contents true) := by
  match node with
  | none => simp
  | some .directory => simp [Node.isProgram]
  | some (.file _ isProgram) => simp [Node.isProgram]

namespace IsTame

variable {earlier middle later : Option Node}

/-- Two tame changes in sequence are tame. -/
theorem trans (first : IsTame earlier middle) (second : IsTame middle later) :
    IsTame earlier later where
  ne_directory := second.ne_directory
  isProgram := first.isProgram ∘ second.isProgram

/-- A plain node is tame, whatever was there before. -/
theorem of_isPlain (plain : IsPlain later) : IsTame earlier later where
  ne_directory := plain.ne_directory
  isProgram := by simp [plain.isProgram_eq]

/-- New contents make no program of what was none. -/
theorem of_rewrite (contents : ByteArray) :
    IsTame earlier
      (some (.file contents (earlier.any Node.isProgram))) where
  ne_directory := by simp
  isProgram := id

/-- Tame nodes are plain where a plain node was. -/
theorem isPlain (tame : IsTame earlier later) (plain : IsPlain earlier) :
    IsPlain later := by
  have noProgram : later.any Node.isProgram = false := by
    cases isProgram : later.any Node.isProgram with
    | false => rfl
    | true => exact (tame.isProgram isProgram).symm.trans plain.isProgram_eq
  match later, tame.ne_directory, noProgram with
  | none, _, _ => exact Or.inl rfl
  | some .directory, noDirectory, _ => exact (noDirectory rfl).elim
  | some (.file contents false), _, _ => exact Or.inr ⟨contents, rfl⟩

end IsTame

/-- Taking away what is not there changes nothing. -/
theorem erase_of_none
    {files : FileSystem}
    {location : Location}
    (nothing : files.find? location = none) :
    files.erase location = files := by
  apply ext_find?
  intro other
  rw [find?_erase]
  split
  · rename_i same
    rw [← same, nothing]
  · rfl

namespace Reworked

variable {changeable : Location → Prop} {before middle after : FileSystem}

theorem refl (files : FileSystem) : Reworked changeable files files :=
  fun _ => Or.inl rfl

/-- What was reworked twice was reworked. -/
theorem trans
    (earlier : Reworked changeable before middle)
    (later : Reworked changeable middle after) :
    Reworked changeable before after := by
  intro location
  rcases later location with unchanged | ⟨allowed, noDirectory, tame⟩
  · rw [unchanged]
    exact earlier location
  · rcases earlier location with same | ⟨-, hadNone, tameBefore⟩
    · rw [same] at noDirectory tame
      exact Or.inr ⟨allowed, noDirectory, tame⟩
    · exact Or.inr ⟨allowed, hadNone, tameBefore.trans tame⟩

/-- A change of one location. -/
theorem of_change
    {location : Location}
    (allowed : changeable location)
    (elsewhere : ∀ other, other ≠ location →
      after.find? other = before.find? other)
    (noDirectory : before.find? location ≠ some .directory)
    (tame : IsTame (before.find? location) (after.find? location)) :
    Reworked changeable before after := by
  intro other
  by_cases same : other = location
  · subst other
    exact Or.inr ⟨allowed, noDirectory, tame⟩
  · exact Or.inl (elsewhere other same)

/-- Reworking files leaves the directories the same. -/
theorem sameDirectories (reworked : Reworked changeable before after) :
    SameDirectories before after := by
  intro location
  rcases reworked location with unchanged | ⟨-, noDirectory, tame⟩
  · rw [unchanged]
  · exact ⟨fun found => (noDirectory found).elim,
      fun found => (tame.ne_directory found).elim⟩

/-- No program comes out of a rework where there was none. -/
theorem find?_of_program
    {location : Location}
    {contents : ByteArray}
    (reworked : Reworked changeable before after)
    (found : after.find? location = some (.file contents true)) :
    ∃ earlier, before.find? location = some (.file earlier true) := by
  rcases reworked location with unchanged | ⟨-, -, tame⟩
  · exact ⟨contents, unchanged.symm.trans found⟩
  · exact any_isProgram_iff.mp
      (tame.isProgram (any_isProgram_iff.mpr ⟨contents, found⟩))

/-- What was plain before is plain afterwards. -/
theorem isPlain
    {location : Location}
    (reworked : Reworked changeable before after)
    (plain : IsPlain (before.find? location)) :
    IsPlain (after.find? location) := by
  rcases reworked location with unchanged | ⟨-, -, tame⟩
  · rw [unchanged]
    exact plain
  · exact tame.isPlain plain

/-- What must not be changed stays. -/
theorem find?_of_not_changeable
    {location : Location}
    (reworked : Reworked changeable before after)
    (fixed : ¬ changeable location) :
    after.find? location = before.find? location := by
  rcases reworked location with unchanged | ⟨allowed, -, -⟩
  · exact unchanged
  · exact (fixed allowed).elim

end Reworked

/-- What is known of a location: the node there, or the bytes of the file there. -/
inductive Finding where
  | node (there : Option Node)
  | bytes (contents : ByteArray)

/-- Whether a node is as it is known to be. -/
def Finding.Fits : Finding → Option Node → Prop
  | .node there, found => found = there
  | .bytes contents, found =>
      ∃ isProgram, found = some (.file contents isProgram)

/-- Plain nodes of which the same is known are the same. -/
theorem Finding.eq_of_fits
    {finding : Finding}
    {left right : Option Node}
    (leftFits : finding.Fits left)
    (rightFits : finding.Fits right)
    (leftPlain : IsPlain left)
    (rightPlain : IsPlain right) :
    left = right := by
  cases finding with
  | node there =>
      exact leftFits.trans rightFits.symm
  | bytes contents =>
      obtain ⟨leftProgram, rfl⟩ := leftFits
      obtain ⟨rightProgram, rfl⟩ := rightFits
      obtain rfl : leftProgram = false := leftPlain.isProgram_eq
      obtain rfl : rightProgram = false := rightPlain.isProgram_eq
      rfl

/-- Files that were reworked, and of which some facts are known. -/
structure Holds
    (changeable : Location → Prop)
    (origin : FileSystem)
    (facts : List (Location × Finding))
    (files : FileSystem) :
    Prop where
  reworked : origin.Reworked changeable files
  known : ∀ fact ∈ facts, fact.2.Fits (files.find? fact.1)

/-- Known facts tell the bytes of a file. -/
def TellBytes
    (facts : List (Location × Finding))
    (location : Location)
    (contents : ByteArray) :
    Prop :=
  (location, .bytes contents) ∈ facts ∨
    ∃ isProgram, (location, .node (some (.file contents isProgram))) ∈ facts

namespace Holds

variable {changeable : Location → Prop} {origin before after : FileSystem}
  {facts : List (Location × Finding)}

/-- A node that was found holds where it was found. -/
theorem find?_eq
    {location : Location}
    {node : Option Node}
    (holds : Holds changeable origin facts before)
    (given : (location, .node node) ∈ facts) :
    before.find? location = node :=
  holds.known _ given

/-- A file whose bytes are told is there, as a program or not. -/
theorem find?_of_tellBytes
    {location : Location}
    {contents : ByteArray}
    (holds : Holds changeable origin facts before)
    (tell : TellBytes facts location contents) :
    ∃ isProgram,
      before.find? location = some (.file contents isProgram) := by
  rcases tell with given | ⟨isProgram, given⟩
  · exact holds.known _ given
  · exact ⟨isProgram, holds.find?_eq given⟩

/-- A change of one location keeps what is known of the others. -/
theorem change
    {location : Location}
    {finding : Finding}
    (holds : Holds changeable origin facts before)
    (apart : ∀ fact ∈ facts, fact.1 ≠ location)
    (allowed : changeable location)
    (noDirectory : before.find? location ≠ some .directory)
    (tame : IsTame (before.find? location) (after.find? location))
    (elsewhere : ∀ other, other ≠ location →
      after.find? other = before.find? other)
    (found : finding.Fits (after.find? location)) :
    Holds changeable origin ((location, finding) :: facts) after where
  reworked :=
    holds.reworked.trans
      (Reworked.of_change allowed elsewhere noDirectory tame)
  known := by
    intro fact member
    rcases List.mem_cons.mp member with rfl | member
    · exact found
    · rw [elsewhere fact.1 (apart fact member)]
      exact holds.known fact member

/-- A file that was written is a further fact. -/
theorem put
    {location : Location}
    (holds : Holds changeable origin facts before)
    (apart : ∀ fact ∈ facts, fact.1 ≠ location)
    (allowed : changeable location)
    (noDirectory : before.find? location ≠ some .directory)
    (contents : ByteArray) :
    Holds changeable origin
      ((location, .node (some (.file contents false))) :: facts)
      (before.put location (.file contents false)) := by
  have found : (before.put location (.file contents false)).find? location =
      some (.file contents false) := by
    simp
  refine holds.change apart allowed noDirectory ?_ ?_ found
  · rw [found]
    exact .of_isPlain (Or.inr ⟨contents, rfl⟩)
  · intro other different
    rw [find?_put, if_neg different.symm]

/-- Of a file that is written over, the bytes are known. -/
theorem rewrite
    {location : Location}
    (holds : Holds changeable origin facts before)
    (apart : ∀ fact ∈ facts, fact.1 ≠ location)
    (allowed : changeable location)
    (noDirectory : before.find? location ≠ some .directory)
    (contents : ByteArray) :
    Holds changeable origin ((location, .bytes contents) :: facts)
      (before.put location
        (.file contents ((before.find? location).any Node.isProgram))) := by
  have found : (before.put location (.file contents
      ((before.find? location).any Node.isProgram))).find? location =
        some (.file contents
          ((before.find? location).any Node.isProgram)) := by
    simp
  refine holds.change apart allowed noDirectory ?_ ?_ ⟨_, found⟩
  · rw [found]
    exact .of_rewrite contents
  · intro other different
    rw [find?_put, if_neg different.symm]

/-- A file that was removed is a further fact. -/
theorem erase
    {location : Location}
    (holds : Holds changeable origin facts before)
    (apart : ∀ fact ∈ facts, fact.1 ≠ location)
    (allowed : changeable location)
    (noDirectory : before.find? location ≠ some .directory) :
    Holds changeable origin ((location, .node none) :: facts)
      (before.erase location) := by
  have gone : (before.erase location).find? location = none := by
    simp
  refine holds.change apart allowed noDirectory ?_ ?_ gone
  · rw [gone]
    exact .of_isPlain (Or.inl rfl)
  · intro other different
    rw [find?_erase, if_neg different.symm]

/-- Where there was no directory there is none later. -/
theorem ne_directory
    {location : Location}
    (holds : Holds changeable origin facts before)
    (noDirectory : origin.find? location ≠ some .directory) :
    before.find? location ≠ some .directory := by
  intro found
  exact noDirectory ((holds.reworked.sameDirectories location).mpr found)

/-- Facts may be forgotten. -/
theorem weaken
    {fewer : List (Location × Finding)}
    (holds : Holds changeable origin facts before)
    (subset : ∀ fact ∈ fewer, fact ∈ facts) :
    Holds changeable origin fewer before where
  reworked := holds.reworked
  known := fun fact member => holds.known fact (subset fact member)

end Holds
end IsaUsage.FileSystem
