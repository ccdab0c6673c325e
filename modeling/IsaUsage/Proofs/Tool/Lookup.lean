import IsaUsage.Proofs.File.Reworked
import IsaUsage.Tool.Machine

namespace IsaUsage

/-!
# Which program a tool name finds

Reworking files does not hide a program that must not be changed, and brings no
new program to light: a tool that is found before is the same afterwards
(`Machine.program_of_reworked`), and one that is found afterwards was found
before (`Machine.exists_program_of_reworked`). What a search that fails says can
change, unless nothing was changed where the search looks
(`Machine.program_eq_of_lookUps`).
-/

namespace FileSystem

/-- Where a step leads if it can be followed at all. -/
def nextPlace (here : Location) (name : String) : Location :=
  if name = "." then here
  else if name = ".." then here.dropLast
  else here ++ [name]

/-- The locations that following steps passes through, ends included. -/
def trail : Location → List String → List Location
  | here, [] => [here]
  | here, name :: names => here :: trail (nextPlace here name) names

/-- The locations that following a path passes through. -/
def passedThrough (base : Location) (path : Path) : List Location :=
  trail (start base path) path.steps

/-- Failures that let a search go on to the next directory. -/
def IsPassedOver (failure : Failure) : Prop :=
  failure = .system .permissionDenied ∨ failure = .system .notFound ∨
    failure = .system .notADirectory

/-- A path names a program if it leads to one and does not end in a slash. -/
theorem programAt_eq_ok_iff
    {files : FileSystem}
    {base program : Location}
    {path : Path} :
    files.programAt base path = .ok program ↔
      files.locate base path = .ok program ∧
        (∃ contents, files.find? program = some (.file contents true)) ∧
        path.endsInSlash = false := by
  constructor
  · intro started
    obtain ⟨node, found, started⟩ := bind_eq_ok_iff.mp started
    obtain ⟨location, located, found⟩ := bind_eq_ok_iff.mp found
    split at started
    · contradiction
    · contradiction
    · rename_i contents foundNode
      rw [located] at started
      cases started
      split at found
      · contradiction
      · cases found
      · rename_i there
        split at found
        · contradiction
        · rename_i noSlash
          cases found
          exact ⟨located, ⟨contents, there⟩, by simpa using noSlash⟩
  · rintro ⟨located, ⟨contents, there⟩, noSlash⟩
    simp [programAt, nodeAt, located, there, noSlash, bind, Except.bind]

/-- Only a walk that fails can make a search stop. -/
theorem locate_of_not_isPassedOver
    {files : FileSystem}
    {base : Location}
    {path : Path}
    {failure : Failure}
    (stopped : files.programAt base path = .error failure)
    (notPassed : ¬ IsPassedOver failure) :
    files.locate base path = .error failure := by
  cases located : files.locate base path with
  | error other =>
      simpa [programAt, nodeAt, located, bind, Except.bind] using stopped
  | ok location =>
      refine (notPassed ?_).elim
      unfold IsPassedOver
      cases found : files.find? location with
      | none =>
          simp [programAt, nodeAt, located, found, bind, Except.bind] at stopped
          simp [← stopped]
      | some node =>
          cases node with
          | directory =>
              simp [programAt, nodeAt, located, found, bind,
                Except.bind] at stopped
              simp [← stopped]
          | file contents isProgram =>
              cases slash : path.endsInSlash <;> cases isProgram <;>
                simp [programAt, nodeAt, located, found, slash, bind,
                  Except.bind] at stopped <;> simp [← stopped]

/-- Where directories are the same, a search stops for the same reason. -/
theorem SameDirectories.programAt_eq_error
    {left right : FileSystem}
    (same : SameDirectories left right)
    {base : Location}
    {path : Path}
    {failure : Failure}
    (stopped : left.programAt base path = .error failure)
    (notPassed : ¬ IsPassedOver failure) :
    right.programAt base path = .error failure := by
  have located := locate_of_not_isPassedOver stopped notPassed
  have sameFailure : right.locate base path = .error failure := by
    unfold FileSystem.locate at located ⊢
    cases checked : checkPath path with
    | error other =>
        rw [checked] at located
        exact located
    | ok _ =>
        rw [checked] at located
        unfold IsPassedOver at notPassed
        simp only [not_or] at notPassed
        exact same.walk_eq_error located notPassed.2.1 notPassed.2.2
  simp [programAt, nodeAt, sameFailure, bind, Except.bind]

section Search

variable {files : FileSystem} {base : Location} {name place : Path}
  {otherwise failure : Failure} {places : List Path}

theorem lookUpProgram_cons :
    files.lookUpProgram base name otherwise (place :: places) =
      match files.programAt base (place.join name) with
      | .ok program => .ok program
      | .error (.system .permissionDenied) =>
          files.lookUpProgram base name (.system .permissionDenied) places
      | .error (.system .notFound) =>
          files.lookUpProgram base name otherwise places
      | .error (.system .notADirectory) =>
          files.lookUpProgram base name otherwise places
      | .error failure => .error failure := by
  rfl

/-- The search ends at the first place where the program is. -/
theorem lookUpProgram_of_ok
    {program : Location}
    (found : files.programAt base (place.join name) = .ok program) :
    files.lookUpProgram base name otherwise (place :: places) =
      .ok program := by
  rw [lookUpProgram_cons, found]

/-- A failure that is passed over leaves the search to the other places. -/
theorem lookUpProgram_of_isPassedOver
    (missing : files.programAt base (place.join name) = .error failure)
    (passed : IsPassedOver failure) :
    ∃ remembered,
      files.lookUpProgram base name otherwise (place :: places) =
        files.lookUpProgram base name remembered places := by
  rcases passed with rfl | rfl | rfl
  · exact ⟨_, by rw [lookUpProgram_cons, missing]⟩
  · exact ⟨_, by rw [lookUpProgram_cons, missing]⟩
  · exact ⟨_, by rw [lookUpProgram_cons, missing]⟩

/-- A failure that is not passed over ends the search. -/
theorem lookUpProgram_of_not_isPassedOver
    (missing : files.programAt base (place.join name) = .error failure)
    (notPassed : ¬ IsPassedOver failure) :
    files.lookUpProgram base name otherwise (place :: places) =
      .error failure := by
  unfold IsPassedOver at notPassed
  rw [lookUpProgram_cons, missing]
  split <;> simp_all

/-- What a search finds is in one of the places that it looks at. -/
theorem exists_programAt_of_lookUpProgram
    {program : Location}
    (found : files.lookUpProgram base name otherwise places = .ok program) :
    ∃ place ∈ places, files.programAt base (place.join name) = .ok program := by
  induction places generalizing otherwise with
  | nil =>
      contradiction
  | cons place places inductionHypothesis =>
      cases here : files.programAt base (place.join name) with
      | ok foundHere =>
          rw [lookUpProgram_of_ok here] at found
          cases found
          exact ⟨place, List.mem_cons_self, here⟩
      | error failure =>
          by_cases passed : IsPassedOver failure
          · obtain ⟨remembered, further⟩ :=
              @lookUpProgram_of_isPassedOver _ _ _ _ otherwise _ places here
                passed
            rw [further] at found
            obtain ⟨later, member, there⟩ := inductionHypothesis found
            exact ⟨later, List.mem_cons_of_mem _ member, there⟩
          · rw [lookUpProgram_of_not_isPassedOver here passed] at found
            contradiction

/-- What the search finds is a program. -/
theorem find?_of_lookUpProgram
    {program : Location}
    (found : files.lookUpProgram base name otherwise places = .ok program) :
    ∃ contents, files.find? program = some (.file contents true) := by
  obtain ⟨_, -, there⟩ := exists_programAt_of_lookUpProgram found
  exact (programAt_eq_ok_iff.mp there).2.1

/-- A search comes to what the places that it looks at come to. -/
theorem lookUpProgram_congr
    {otherFiles : FileSystem}
    {other : Location}
    (same : ∀ place ∈ places,
      files.programAt base (place.join name) =
        otherFiles.programAt other (place.join name)) :
    files.lookUpProgram base name otherwise places =
      otherFiles.lookUpProgram other name otherwise places := by
  induction places generalizing otherwise with
  | nil =>
      rfl
  | cons place places inductionHypothesis =>
      have sameLater {otherwise : Failure} :
          files.lookUpProgram base name otherwise places =
            otherFiles.lookUpProgram other name otherwise places :=
        inductionHypothesis fun later member =>
          same later (List.mem_cons_of_mem _ member)
      rw [lookUpProgram_cons, lookUpProgram_cons, same place List.mem_cons_self,
        sameLater, sameLater]

end Search

namespace Reworked

variable {changeable : Location → Prop} {before after : FileSystem}
  {base program : Location} {name : Path}

/-- A program that may not be changed is still named by its path. -/
theorem programAt
    (reworked : Reworked changeable before after)
    {path : Path}
    (found : before.programAt base path = .ok program)
    (fixed : ¬ changeable program) :
    after.programAt base path = .ok program := by
  rw [programAt_eq_ok_iff] at found ⊢
  rcases found with ⟨located, ⟨contents, there⟩, noSlash⟩
  refine ⟨reworked.sameDirectories.locate located, ⟨contents, ?_⟩, noSlash⟩
  rw [reworked.find?_of_not_changeable fixed, there]

/-- Reworking files makes no programs. -/
theorem programAt_before
    (reworked : Reworked changeable before after)
    {path : Path}
    (found : after.programAt base path = .ok program) :
    before.programAt base path = .ok program := by
  rw [programAt_eq_ok_iff] at found ⊢
  rcases found with ⟨located, ⟨contents, there⟩, noSlash⟩
  exact ⟨reworked.sameDirectories.symm.locate located,
    reworked.find?_of_program there, noSlash⟩

/-- A directory that is passed over before is passed over afterwards. -/
theorem isPassedOver
    (reworked : Reworked changeable before after)
    {path : Path}
    {failure : Failure}
    (missing : before.programAt base path = .error failure)
    (passed : IsPassedOver failure) :
    ∃ other,
      after.programAt base path = .error other ∧ IsPassedOver other := by
  cases later : after.programAt base path with
  | ok found =>
      rw [reworked.programAt_before later] at missing
      contradiction
  | error other =>
      refine ⟨other, rfl, ?_⟩
      by_cases otherPassed : IsPassedOver other
      · exact otherPassed
      · have earlier := reworked.sameDirectories.symm.programAt_eq_error later
          otherPassed
        rw [earlier] at missing
        cases missing
        exact passed

/-- A search that finds a program still finds it. -/
theorem lookUpProgram
    (reworked : Reworked changeable before after)
    {otherwise : Failure}
    {places : List Path}
    (found : before.lookUpProgram base name otherwise places = .ok program)
    (fixed : ¬ changeable program)
    (otherwiseAfter : Failure) :
    after.lookUpProgram base name otherwiseAfter places = .ok program := by
  induction places generalizing otherwise otherwiseAfter with
  | nil =>
      contradiction
  | cons place places inductionHypothesis =>
      cases here : before.programAt base (place.join name) with
      | ok foundHere =>
          rw [lookUpProgram_of_ok here] at found
          cases found
          exact lookUpProgram_of_ok (reworked.programAt here fixed)
      | error failure =>
          by_cases passed : IsPassedOver failure
          · obtain ⟨remembered, further⟩ :=
              @lookUpProgram_of_isPassedOver _ _ _ _ otherwise _ places here
                passed
            obtain ⟨other, missing, otherPassed⟩ :=
              reworked.isPassedOver here passed
            obtain ⟨rememberedAfter, furtherAfter⟩ :=
              @lookUpProgram_of_isPassedOver _ _ _ _ otherwiseAfter _ places
                missing otherPassed
            rw [further] at found
            rw [furtherAfter]
            exact inductionHypothesis found rememberedAfter
          · rw [lookUpProgram_of_not_isPassedOver here passed] at found
            contradiction

/-- A search that finds a program found one before. -/
theorem exists_lookUpProgram
    (reworked : Reworked changeable before after)
    {otherwise : Failure}
    {places : List Path}
    (found : after.lookUpProgram base name otherwise places = .ok program)
    (otherwiseBefore : Failure) :
    ∃ earlier,
      before.lookUpProgram base name otherwiseBefore places = .ok earlier := by
  induction places generalizing otherwise otherwiseBefore with
  | nil =>
      contradiction
  | cons place places inductionHypothesis =>
      cases here : before.programAt base (place.join name) with
      | ok earlier =>
          exact ⟨earlier, lookUpProgram_of_ok here⟩
      | error failure =>
          by_cases passed : IsPassedOver failure
          · obtain ⟨remembered, further⟩ :=
              @lookUpProgram_of_isPassedOver _ _ _ _ otherwiseBefore _ places
                here passed
            obtain ⟨other, missing, otherPassed⟩ :=
              reworked.isPassedOver here passed
            obtain ⟨rememberedAfter, furtherAfter⟩ :=
              @lookUpProgram_of_isPassedOver _ _ _ _ otherwise _ places missing
                otherPassed
            rw [furtherAfter] at found
            rw [further]
            exact inductionHypothesis found remembered
          · have missing :=
              reworked.sameDirectories.programAt_eq_error here passed
            rw [lookUpProgram_of_not_isPassedOver missing passed] at found
            contradiction

end Reworked

section Trail

variable {left right : FileSystem}

/-- A step that succeeds leads to the next place. -/
theorem eq_nextPlace_of_step
    {files : FileSystem}
    {here next : Location}
    {name : String}
    (stepped : files.step here name = .ok next) :
    next = nextPlace here name := by
  have isDirectory := find?_of_step stepped
  simp only [step, isDirectory] at stepped
  unfold nextPlace
  split at stepped
  · rename_i isHere
    cases stepped
    rw [if_pos isHere]
  · rename_i notHere
    rw [if_neg notHere]
    split at stepped
    · rename_i isUp
      cases stepped
      rw [if_pos isUp]
    · rename_i notUp
      rw [if_neg notUp]
      split at stepped
      · contradiction
      · cases stepped
        rfl

/-- A walk ends on its trail. -/
theorem mem_trail_of_walk
    {files : FileSystem}
    {here final : Location}
    {names : List String}
    (walked : files.walk here names = .ok final) :
    final ∈ trail here names := by
  induction names generalizing here with
  | nil =>
      cases walked
      exact List.mem_singleton.mpr rfl
  | cons name names inductionHypothesis =>
      obtain ⟨next, stepped, further⟩ := bind_eq_ok_iff.mp walked
      have nextShape := eq_nextPlace_of_step stepped
      subst nextShape
      exact List.mem_cons_of_mem _ (inductionHypothesis further)

/-- A walk depends on what it passes through. -/
theorem walk_eq_of_trail
    {here : Location}
    {names : List String}
    (same : ∀ location ∈ trail here names,
      left.find? location = right.find? location) :
    left.walk here names = right.walk here names := by
  induction names generalizing here with
  | nil =>
      rfl
  | cons name names inductionHypothesis =>
      have sameHere := same here List.mem_cons_self
      have sameStep : left.step here name = right.step here name := by
        rw [step, step, sameHere]
      rw [walk, walk, sameStep]
      cases stepped : right.step here name with
      | error failure =>
          rfl
      | ok next =>
          have nextShape := eq_nextPlace_of_step stepped
          subst nextShape
          exact inductionHypothesis fun location passed =>
            same location (List.mem_cons_of_mem _ passed)

/-- Which program a path names is decided by what it passes through. -/
theorem programAt_eq_of_passedThrough
    {base : Location}
    {path : Path}
    (same : ∀ location ∈ passedThrough base path,
      left.find? location = right.find? location) :
    left.programAt base path = right.programAt base path := by
  have sameWalk := walk_eq_of_trail same
  have sameLocation : left.locate base path = right.locate base path := by
    rw [locate, locate, sameWalk]
  have sameNode : left.nodeAt base path = right.nodeAt base path := by
    unfold nodeAt
    rw [sameLocation]
    cases located : right.locate base path with
    | error failure =>
        rfl
    | ok location =>
        obtain ⟨_, -, walked⟩ := bind_eq_ok_iff.mp located
        have sameThere := same location (mem_trail_of_walk walked)
        simp only [bind, Except.bind, sameThere]
  rw [programAt, programAt, sameNode, sameLocation]

end Trail

end FileSystem

namespace Machine

variable {machine : Machine Memory} {changeable : Location → Prop}
  {before after : FileSystem} {place program : Location} {tool : Path}

/-- The locations that a search for a tool passes through. -/
def lookUps
    (machine : Machine Memory)
    (place : Location)
    (tool : Path) :
    List Location :=
  if tool.text = "" then []
  else if tool.parts.length > 1 then FileSystem.passedThrough place tool
  else
    machine.searchPath.flatMap fun directory =>
      FileSystem.passedThrough place (directory.join tool)

/-- What is found can be started. -/
theorem find?_of_program
    (found : machine.program before place tool = .ok program) :
    ∃ contents, before.find? program = some (.file contents true) := by
  unfold Machine.program at found
  split at found
  · contradiction
  · split at found
    · exact (FileSystem.programAt_eq_ok_iff.mp found).2.1
    · exact FileSystem.find?_of_lookUpProgram found

/-- A tool that is found is found again, if its program must not be changed. -/
theorem program_of_reworked
    (reworked : before.Reworked changeable after)
    (found : machine.program before place tool = .ok program)
    (fixed : ¬ changeable program) :
    machine.program after place tool = .ok program := by
  unfold Machine.program at found ⊢
  split at found
  · contradiction
  · rename_i nonempty
    rw [if_neg nonempty]
    split at found
    · rename_i isPath
      rw [if_pos isPath]
      exact reworked.programAt found fixed
    · rename_i isName
      rw [if_neg isName]
      exact reworked.lookUpProgram found fixed _

/-- A tool that is found was found before. -/
theorem exists_program_of_reworked
    (reworked : before.Reworked changeable after)
    (found : machine.program after place tool = .ok program) :
    ∃ earlier, machine.program before place tool = .ok earlier := by
  unfold Machine.program at found ⊢
  split at found
  · contradiction
  · rename_i nonempty
    rw [if_neg nonempty]
    split at found
    · rename_i isPath
      rw [if_pos isPath]
      exact ⟨program, reworked.programAt_before found⟩
    · rename_i isName
      rw [if_neg isName]
      exact reworked.exists_lookUpProgram found _

/-- A search depends on what it passes through. -/
theorem program_eq_of_lookUps
    (same : ∀ location ∈ machine.lookUps place tool,
      before.find? location = after.find? location) :
    machine.program before place tool = machine.program after place tool := by
  unfold Machine.program
  unfold lookUps at same
  by_cases empty : tool.text = ""
  · rw [if_pos empty, if_pos empty]
  · rw [if_neg empty] at same ⊢
    rw [if_neg empty]
    by_cases isPath : tool.parts.length > 1
    · rw [if_pos isPath] at same ⊢
      rw [if_pos isPath]
      exact FileSystem.programAt_eq_of_passedThrough same
    · rw [if_neg isPath] at same ⊢
      rw [if_neg isPath]
      apply FileSystem.lookUpProgram_congr
      intro directory member
      apply FileSystem.programAt_eq_of_passedThrough
      intro location passed
      exact same location (List.mem_flatMap.mpr ⟨directory, member, passed⟩)

end Machine
end IsaUsage
