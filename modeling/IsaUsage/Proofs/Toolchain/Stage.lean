import IsaUsage.Proofs.File.Join
import IsaUsage.Proofs.Run.Settled
import IsaUsage.Proofs.Tool.Lookup
import IsaUsage.Proofs.Tool.Translation
import IsaUsage.Proofs.Toolchain.Hsail

namespace IsaUsage.HsailToolchain

/-!
# The stages of a build are settled

Every stage looks at the directories, at the programs of the tools, and at files
that a stage before it has written or cleared away. So with tools that translate,
each stage does the same in all file systems that come from one by rework.
-/

open FileSystem IsaUsage.Action

variable {toolchain : HsailToolchain Memory} {changeable : Location → Prop}
  {origin : FileSystem} {directory : Path} {place : Location}
  {name : String} {facts : List (Location × Finding)}

/-- What cannot be removed, other than what is not there, is never cleared. -/
theorem clearStale_settled_of_error
    {path : Path}
    {failure : Failure}
    {post : Unit → FileSystem → Prop}
    (touched : List Location)
    (notMissing : failure ≠ .system .notFound)
    (refused : ∀ files,
      Holds changeable origin facts files →
        files.removeFile toolchain.base path = .error failure) :
    Settled (Holds changeable origin facts) (toolchain.clearStale path) touched
      post :=
  Settled.of_error (.unwritable path failure) fun world holds =>
    clearStale_of_error (refused world.files holds) notMissing

/-- A name whose slot cannot be used is never cleared. -/
theorem clearStale_settled_of_slot_error
    {failure : Failure}
    (touched : List Location)
    (reaches : origin.Reaches toolchain.base directory place)
    (ordinary : IsOrdinary name)
    (unusable : slot directory place name = .error failure) :
    Settled (Holds changeable origin facts)
      (toolchain.clearStale (directory.join ⟨name⟩)) touched
      fun _ _ => False := by
  have notMissing : failure ≠ .system .notFound := by
    rintro rfl
    exact slot_ne ordinary unusable
  apply clearStale_settled_of_error touched notMissing
  intro files holds
  rw [(holds.reworked.sameDirectories.reaches reaches).removeFile_join ordinary,
    unusable]
  rfl

/-- A name that is not ordinary is never cleared. -/
theorem clearStale_settled_of_not_isOrdinary
    (touched : List Location)
    (reaches : origin.Reaches toolchain.base directory place)
    (nonempty : directory.text ≠ "")
    (single : Path.IsSingle name)
    (notOrdinary : ¬ IsOrdinary name) :
    Settled (Holds changeable origin facts)
      (toolchain.clearStale (directory.join ⟨name⟩)) touched
      fun _ _ => False := by
  have notMissing := checkPath_ne_notFound
    (text_join_ne single (Or.inl nonempty))
  obtain ⟨failure, refused, different⟩ :
      ∃ failure,
        (checkPath (directory.join ⟨name⟩) >>= fun _ =>
          (.error (.system .isADirectory) : Except Failure FileSystem)) =
            .error failure ∧
          failure ≠ .system .notFound := by
    cases checked : checkPath (directory.join ⟨name⟩) with
    | error failure =>
        refine ⟨failure, rfl, ?_⟩
        rintro rfl
        exact notMissing checked
    | ok _ =>
        exact ⟨_, rfl, by simp⟩
  apply clearStale_settled_of_error touched different
  intro files holds
  rw [removeFile_join_of_not_isOrdinary
    (holds.reworked.sameDirectories.reaches reaches) single notOrdinary,
    refused]

/--
Only an ordinary name can be cleared: `.` and `..` lead to directories, and a
name that is too long is refused.
-/
theorem isOrdinary_of_clearStale
    {world : World Memory}
    (reaches : world.files.Reaches toolchain.base directory place)
    (nonempty : directory.text ≠ "")
    (single : Path.IsSingle name)
    (cleared : (toolchain.clearStale (directory.join ⟨name⟩) world).outcome =
      .ok ()) :
    IsOrdinary name := by
  by_cases ordinary : IsOrdinary name
  · exact ordinary
  · obtain ⟨outcome, settles⟩ :=
      @clearStale_settled_of_not_isOrdinary _ toolchain (fun _ => True)
        world.files directory place name [] [] reaches nonempty single ordinary
    have holds : Holds (fun _ => True) world.files [] world.files :=
      ⟨Reworked.refl _, by simp⟩
    exact (settles.reached world holds ()
      ((settles.outcome_eq world holds).symm.trans cleared)).elim

/-- Clearing a name leaves nothing there and changes nothing else. -/
theorem clearStale_settled
    (reaches : origin.Reaches toolchain.base directory place)
    (ordinary : IsOrdinary name)
    (usable : slot directory place name = .ok (place ++ [name]))
    (allowed : changeable (place ++ [name]))
    (apart : ∀ fact ∈ facts, fact.1 ≠ place ++ [name]) :
    Settled (Holds changeable origin facts)
      (toolchain.clearStale (directory.join ⟨name⟩)) [place ++ [name]]
      fun _ => Holds changeable origin
        ((place ++ [name], .node none) :: facts) := by
  have removal (files : FileSystem)
      (holds : Holds changeable origin facts files) :=
    (holds.reworked.sameDirectories.reaches reaches).removeFile_join ordinary
  rw [usable] at removal
  by_cases isDirectory : origin.find? (place ++ [name]) = some .directory
  · apply clearStale_settled_of_error _
      (show Failure.system .isADirectory ≠ .system .notFound by simp)
    intro files holds
    have removed := removal files holds
    have found := (holds.reworked.sameDirectories _).mp isDirectory
    simpa only [bind, Except.bind, found] using removed
  · have cleared (world : World Memory)
        (holds : Holds changeable origin facts world.files) :
        (toolchain.clearStale (directory.join ⟨name⟩) world).outcome =
            .ok () ∧
          (toolchain.clearStale (directory.join ⟨name⟩) world).world =
            { world with files := world.files.erase (place ++ [name]) } := by
      have noDirectory := holds.ne_directory isDirectory
      have removed := removal _ holds
      cases found : world.files.find? (place ++ [name]) with
      | none =>
          simp only [bind, Except.bind, found] at removed
          obtain ⟨outcome, same⟩ := clearStale_of_notFound removed
          refine ⟨outcome, ?_⟩
          rw [same, erase_of_none found]
      | some node =>
          cases node with
          | directory =>
              exact (noDirectory found).elim
          | file contents isProgram =>
              simp only [bind, Except.bind, found] at removed
              exact clearStale_of_ok removed
    apply Settled.of_ok ()
    · intro world holds
      rw [(cleared world holds).1, (cleared world holds).2]
      exact ⟨rfl, rfl⟩
    · intro world holds location notTouched
      rw [(cleared world holds).2]
      show (world.files.erase (place ++ [name])).find? location = _
      rw [find?_erase, if_neg]
      rintro rfl
      exact notTouched List.mem_cons_self
    · intro world holds
      rw [(cleared world holds).2]
      exact holds.erase apart allowed (holds.ne_directory isDirectory)

/--
The program of a tool is the same in all files reworked from the origin, as far
as the directory that it is started in can be used.
-/
def IsSteady
    (toolchain : HsailToolchain Memory)
    (changeable : Location → Prop)
    (origin : FileSystem)
    (directory : Path)
    (tool : Path) :
    Prop :=
  ∀ place,
    origin.directoryAt toolchain.base directory = .ok place →
      ∀ files,
        origin.Reworked changeable files →
          toolchain.machine.program files place tool =
            toolchain.machine.program origin place tool

section Running

variable {tool : Path} {arguments : List String} {kernel : String}
  {input output : Location} {source : ByteArray}

/-- A steady tool is invoked the same way, whatever was reworked. -/
theorem invocation_of_reworked
    {files : FileSystem}
    (reaches : origin.Reaches toolchain.base directory place)
    (steady : toolchain.IsSteady changeable origin directory tool)
    (reworked : origin.Reworked changeable files) :
    toolchain.machine.invocation files tool arguments directory =
      toolchain.machine.invocation origin tool arguments directory := by
  have reachesAfter := reworked.sameDirectories.reaches reaches
  have sameDirectory :
      files.directoryAt toolchain.machine.workingDirectory directory =
        origin.directoryAt toolchain.machine.workingDirectory directory :=
    reachesAfter.directoryAt_eq.trans reaches.directoryAt_eq.symm
  unfold Machine.invocation
  split
  · rfl
  · rw [sameDirectory]
    cases resolved : origin.directoryAt toolchain.machine.workingDirectory
        directory with
    | error failure =>
        rfl
    | ok found =>
        show (toolchain.machine.program files found tool >>= _) = _
        rw [steady found resolved files reworked]
        rfl

/--
A tool that is invoked was found as a program, and is started in the directory.
-/
theorem program_of_invocation
    {files : FileSystem}
    {invocation : Invocation}
    (reaches : files.Reaches toolchain.base directory place)
    (invoked : toolchain.machine.invocation files tool arguments directory =
      .ok invocation) :
    checkPath directory = .ok () ∧
      ∃ program,
        toolchain.machine.program files place tool = .ok program ∧
          invocation = ⟨program, arguments, place⟩ := by
  obtain ⟨found, program, resolved, started, rfl⟩ :=
    Machine.invocation_eq_ok invoked
  cases reaches.unique (reaches_of_directoryAt resolved)
  exact ⟨checkPath_of_directoryAt resolved, program, started, rfl⟩

/-- A tool that translates is settled once its input is known. -/
theorem runTool_settled
    (reaches : origin.Reaches toolchain.base directory place)
    (steady : toolchain.IsSteady changeable origin directory tool)
    (translates : checkPath directory = .ok () → ∀ program,
      toolchain.machine.program origin place tool = .ok program →
        toolchain.machine.Translates ⟨program, arguments, place⟩ input output)
    (allowed : changeable output)
    (apart : ∀ fact ∈ facts, fact.1 ≠ output)
    (given : TellBytes facts input source) :
    ∃ written : Option ByteArray,
      Settled (Holds changeable origin ((output, .node none) :: facts))
        (toolchain.runTool tool arguments kernel directory) [output]
        fun _ files =>
          checkPath directory = .ok () ∧
            Holds changeable origin
              ((output,
                .node (written.map fun contents => .file contents false)) ::
                  facts)
              files := by
  cases invokedOrigin : toolchain.machine.invocation origin tool arguments
      directory with
  | error failure =>
      refine ⟨none, Settled.of_error (.notStarted tool.text failure) ?_⟩
      intro world holds
      apply runTool_of_error
      rw [invocation_of_reworked reaches steady holds.reworked, invokedOrigin]
  | ok invocation =>
      obtain ⟨fine, program, started, rfl⟩ :=
        program_of_invocation reaches invokedOrigin
      have translation := translates fine program started
      obtain ⟨exit, written, determined⟩ := translation.determined
      have ran (world : World Memory)
          (holds : Holds changeable origin ((output, .node none) :: facts)
            world.files) :
          toolchain.machine.invocation world.files tool arguments directory =
              .ok ⟨program, arguments, place⟩ ∧
            (toolchain.machine.behave ⟨program, arguments, place⟩ world).1 =
              exit source ∧
            (toolchain.machine.behave ⟨program, arguments, place⟩
                world).2.files.find? output =
              (written source).map fun contents => .file contents false := by
        obtain ⟨isProgram, found⟩ := (holds.weaken fun fact =>
          List.mem_cons_of_mem _).find?_of_tellBytes given
        refine ⟨?_, determined world source isProgram found
          (holds.find?_eq List.mem_cons_self)⟩
        rw [invocation_of_reworked reaches steady holds.reworked,
          invokedOrigin]
      refine ⟨written source,
        if (exit source).status.isSuccess then .ok ()
        else .error (toolError tool kernel (exit source)), ?_, ?_, ?_, ?_⟩
      · intro world holds
        obtain ⟨invoked, sameExit, -⟩ := ran world holds
        rw [(runTool_of_ok invoked).1, sameExit]
      · intro world holds
        rw [(runTool_of_ok (ran world holds).1).2]
        exact translation.memory_eq world
      · intro world holds location notTouched
        rw [(runTool_of_ok (ran world holds).1).2]
        exact translation.find?_eq world location (by simpa using notTouched)
      · intro world holds _ _
        obtain ⟨invoked, -, left⟩ := ran world holds
        rw [(runTool_of_ok invoked).2]
        have nothing : world.files.find? output = none :=
          holds.find?_eq List.mem_cons_self
        have plain : IsPlain
            ((written source).map fun contents => .file contents false) := by
          cases written source with
          | none =>
              exact Or.inl rfl
          | some contents =>
              exact Or.inr ⟨contents, rfl⟩
        refine ⟨fine, ?_⟩
        refine (holds.weaken fun fact => List.mem_cons_of_mem _).change apart
          allowed ?_ ?_ ?_ left
        · simp [nothing]
        · rw [left]
          exact .of_isPlain plain
        · exact translation.find?_eq world

/-- Whether an output is there is settled once it is known what is there. -/
theorem requireOutput_settled
    {touched : List Location}
    {written : Option ByteArray}
    (reaches : origin.Reaches toolchain.base directory place)
    (ordinary : IsOrdinary name)
    (usable : slot directory place name = .ok (place ++ [name]))
    (given : (place ++ [name],
      .node (written.map fun contents => .file contents false)) ∈ facts) :
    Settled (Holds changeable origin facts)
      (toolchain.requireOutput (directory.join ⟨name⟩) kernel) touched
      fun _ files => written ≠ none ∧ Holds changeable origin facts files := by
  have looked (files : FileSystem)
      (holds : Holds changeable origin facts files) :
      files.isFile toolchain.base (directory.join ⟨name⟩) =
        written.isSome := by
    have found := holds.find?_eq given
    unfold isFile
    rw [(holds.reworked.sameDirectories.reaches reaches).nodeAt_join ordinary,
      usable]
    simp only [bind, Except.bind, found]
    cases written <;> rfl
  cases written with
  | none =>
      apply Settled.of_error (.missingOutput kernel (directory.join ⟨name⟩))
      intro world holds
      simp [requireOutput, looked _ holds]
  | some contents =>
      apply Settled.of_still ()
      · intro world holds
        simp [requireOutput, looked _ holds]
      · intro files holds
        exact ⟨by simp, holds⟩

/-- Producing an output from a known input is settled. -/
theorem produce_settled
    (reaches : origin.Reaches toolchain.base directory place)
    (ordinary : IsOrdinary name)
    (steady : toolchain.IsSteady changeable origin directory tool)
    (translates : checkPath directory = .ok () → ∀ program,
      toolchain.machine.program origin place tool = .ok program →
        toolchain.machine.Translates ⟨program, arguments, place⟩ input
          (place ++ [name]))
    (allowed : changeable (place ++ [name]))
    (apart : ∀ fact ∈ facts, fact.1 ≠ place ++ [name])
    (given : TellBytes facts input source) :
    ∃ contents,
      Settled (Holds changeable origin facts)
        (toolchain.produce (directory.join ⟨name⟩) tool arguments kernel
          directory)
        [place ++ [name]]
        fun _ files =>
          checkPath directory = .ok () ∧
            Holds changeable origin
              ((place ++ [name], .node (some (.file contents false))) ::
                facts)
              files := by
  cases usable : slot directory place name with
  | error failure =>
      exact ⟨ByteArray.empty, Settled.bind_of_failing
        (clearStale_settled_of_slot_error _ reaches ordinary usable)⟩
  | ok location =>
      have isEntry := slot_eq_ok usable
      subst isEntry
      obtain ⟨written, ran⟩ := @runTool_settled _ toolchain _ _ _ _ _ _ _
        kernel _ _ _ reaches steady translates allowed apart given
      refine ⟨written.getD ByteArray.empty, Settled.bind
        (clearStale_settled reaches ordinary usable allowed apart) ?_⟩
      intro _
      refine ran.bind ?_
      intro _
      apply Settled.of_fact
      intro fine
      refine (requireOutput_settled reaches ordinary usable
        List.mem_cons_self).weaken (fun _ => id) (fun _ => id) ?_
      rintro _ files ⟨present, holds⟩
      cases written with
      | none =>
          exact (present rfl).elim
      | some contents =>
          exact ⟨fine, holds⟩

/-- Nothing is produced by a tool that was not found at the origin. -/
theorem produce_ne_ok
    {world : World Memory}
    (reaches : origin.Reaches toolchain.base directory place)
    (ordinary : IsOrdinary name)
    (missing : ∀ program,
      toolchain.machine.program origin place tool ≠ .ok program)
    (allowed : changeable (place ++ [name]))
    (apart : ∀ fact ∈ facts, fact.1 ≠ place ++ [name])
    (holds : Holds changeable origin facts world.files)
    (result : Unit) :
    (toolchain.produce (directory.join ⟨name⟩) tool arguments kernel directory
      world).outcome ≠ .ok result := by
  cases usable : slot directory place name with
  | error failure =>
      exact Settled.bind_ne_ok
        (clearStale_settled_of_slot_error [] reaches ordinary usable)
        (fun _ _ never => never.elim) holds result
  | ok location =>
      have isEntry := slot_eq_ok usable
      subst isEntry
      refine Settled.bind_ne_ok
        (clearStale_settled reaches ordinary usable allowed apart) ?_ holds
        result
      intro _ cleared holdsCleared _ ranAndThere
      obtain ⟨_, ran, -, -⟩ := Action.bind_eq_ok ranAndThere
      obtain ⟨invocation, invoked, -, -⟩ := runTool_eq_ok ran
      have reachesCleared :=
        holdsCleared.reworked.sameDirectories.reaches reaches
      obtain ⟨-, program, started, -⟩ :=
        program_of_invocation reachesCleared invoked
      obtain ⟨earlier, found⟩ :=
        Machine.exists_program_of_reworked holdsCleared.reworked started
      exact missing earlier found

end Running

/-- Moving a file of known contents to another name is settled. -/
theorem renameFile_settled
    {newName : String}
    {contents : ByteArray}
    {explain : Failure → RunError}
    (reaches : origin.Reaches toolchain.base directory place)
    (ordinary : IsOrdinary name)
    (newOrdinary : IsOrdinary newName)
    (usable : slot directory place name = .ok (place ++ [name]))
    (different : name ≠ newName)
    (allowed : changeable (place ++ [name]))
    (newAllowed : changeable (place ++ [newName]))
    (apart : ∀ fact ∈ facts,
      fact.1 ≠ place ++ [name] ∧ fact.1 ≠ place ++ [newName]) :
    Settled
      (Holds changeable origin
        ((place ++ [name], .node (some (.file contents false))) :: facts))
      (Action.change
        (fun files =>
          files.renameFile toolchain.base (directory.join ⟨name⟩)
            (directory.join ⟨newName⟩))
        explain : Action Memory Unit)
      [place ++ [name], place ++ [newName]]
      fun _ => Holds changeable origin
        ((place ++ [newName], .node (some (.file contents false))) ::
          (place ++ [name], .node none) :: facts) := by
  have oldFound (files : FileSystem)
      (holds : Holds changeable origin
        ((place ++ [name], .node (some (.file contents false))) :: facts)
        files) :
      files.find? (place ++ [name]) = some (.file contents false) :=
    holds.find?_eq List.mem_cons_self
  have moving (files : FileSystem)
      (holds : Holds changeable origin
        ((place ++ [name], .node (some (.file contents false))) :: facts)
        files) :=
    (holds.reworked.sameDirectories.reaches reaches).renameFile_join ordinary
      newOrdinary usable (oldFound files holds)
  have otherLocation : place ++ [name] ≠ place ++ [newName] := by
    simpa using different
  cases newUsable : slot directory place newName with
  | error failure =>
      apply Settled.change_of_error failure
      intro files holds
      rw [moving files holds, newUsable]
      rfl
  | ok location =>
      have isEntry := slot_eq_ok newUsable
      subst isEntry
      by_cases isDirectory : origin.find? (place ++ [newName]) =
          some .directory
      · apply Settled.change_of_error (.system .isADirectory)
        intro files holds
        have found := (holds.reworked.sameDirectories _).mp isDirectory
        rw [moving files holds, newUsable]
        simp only [bind, Except.bind, found]
      · apply Settled.change_of_ok fun files =>
          (files.erase (place ++ [name])).put (place ++ [newName])
            (.file contents false)
        · intro files holds
          have free := holds.ne_directory isDirectory
          rw [moving files holds, newUsable]
          simp only [bind, Except.bind]
        · intro files holds other notTouched
          simp only [List.mem_cons, List.not_mem_nil, or_false,
            not_or] at notTouched
          rw [find?_put, if_neg (Ne.symm notTouched.2), find?_erase,
            if_neg (Ne.symm notTouched.1)]
        · intro files holds
          have erased := (holds.weaken fun fact =>
            List.mem_cons_of_mem _).erase
              (fun fact member => (apart fact member).1) allowed
              (by simp [oldFound files holds])
          apply erased.put _ newAllowed
          · rw [find?_erase, if_neg otherLocation]
            exact holds.ne_directory isDirectory
          · intro fact member
            rcases List.mem_cons.mp member with rfl | member
            · exact otherLocation
            · exact (apart fact member).2

end IsaUsage.HsailToolchain
