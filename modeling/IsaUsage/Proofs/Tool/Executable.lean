import IsaUsage.Proofs.File.Anchor
import IsaUsage.Proofs.Tool.Lookup
import IsaUsage.Proofs.Tool.Translation
import IsaUsage.Proofs.Toolchain.Job

namespace IsaUsage

/-!
# One executable for all output directories

A tool runs in the output directory, but which program it is must not depend on this
directory. A relative path of several components is anchored, a name is looked up
elsewhere, and any other relative path stands for no program at all
(`Machine.settlesTool`).
-/

open FileSystem

namespace Path

variable {base : Location} {path : Path}

/-- A relative tool path of several components is made absolute. -/
theorem ofTool_eq_anchored
    (relative : path.isAbsolute = false)
    (several : 1 < path.componentCount) :
    path.ofTool base = path.anchored base := by
  simp [ofTool, relative, several]

/-- A tool path of one component is kept as it is. -/
theorem ofTool_eq_self
    (few : path.componentCount ≤ 1) :
    path.ofTool base = path := by
  simp [ofTool, Nat.not_lt.mpr few]

/-- A tool path is absolute after anchoring, or it has not been changed. -/
theorem isAbsolute_ofTool_or (base : Location) (path : Path) :
    (path.ofTool base).isAbsolute = true ∨
      path.isAbsolute = false ∧ path.componentCount ≤ 1 ∧
        path.ofTool base = path := by
  by_cases absolute : path.isAbsolute = true
  · rw [ofTool_of_isAbsolute absolute]
    exact Or.inl absolute
  · have relative := Bool.eq_false_iff.mpr absolute
    by_cases several : 1 < path.componentCount
    · rw [ofTool_eq_anchored relative several]
      exact Or.inl (isAbsolute_anchored base path)
    · have few := Nat.not_lt.mp several
      exact Or.inr ⟨relative, few, ofTool_eq_self few⟩

/-- Whoever asks, a tool path is anchored only once. -/
theorem ofTool_ofTool (base other : Location) (path : Path) :
    (path.ofTool base).ofTool other = path.ofTool base := by
  rcases isAbsolute_ofTool_or base path with absolute | ⟨-, few, unchanged⟩
  · exact ofTool_of_isAbsolute absolute
  · rw [unchanged]
    exact ofTool_eq_self few

/-- Of a relative path of several components some step moves. -/
theorem movingSteps_ne_nil
    (relative : path.isAbsolute = false)
    (several : 1 < path.componentCount) :
    path.movingSteps ≠ [] := by
  intro still
  rw [componentCount, relative, still] at several
  split at several <;> simp at several

/-- Of all paths that are not empty, the absolute ones begin with an empty part. -/
theorem head?_parts_eq_iff
    (named : path.text ≠ "") :
    path.parts.head? = some "" ↔ path.isAbsolute = true := by
  obtain ⟨c, rest, shape⟩ : ∃ c rest, path.text.toList = c :: rest := by
    apply List.exists_cons_of_ne_nil
    simpa using named
  rw [parts_eq, isAbsolute, shape]
  by_cases slash : c = '/'
  · simp [splitAtSlashes, slash]
  · cases divided : splitAtSlashes rest <;>
      simp [splitAtSlashes, slash, divided]

/--
A relative path that has slashes but a single component ends in a slash, or in a
step that stays where it is.
-/
theorem endsInSlash_or_idle
    (named : path.text ≠ "")
    (relative : path.isAbsolute = false)
    (few : path.componentCount ≤ 1)
    (slash : '/' ∈ path.text.toList) :
    path.endsInSlash = true ∨ ∃ names, path.steps = names ++ ["."] := by
  have notEmpty : path.parts.head? ≠ some "" := by
    rw [Ne, head?_parts_eq_iff named, relative]
    exact Bool.false_ne_true
  have lastEmpty := endsInSlash_iff slash
  obtain ⟨leading, last, -, -, partsShape⟩ := exists_last_slash slash
  obtain ⟨first, middle, leadingParts⟩ :=
    List.exists_cons_of_ne_nil (parts_ne_nil ⟨leading⟩)
  rw [leadingParts] at partsShape
  rw [partsShape] at notEmpty lastEmpty
  rw [List.getLast?_concat, Option.some.injEq] at lastEmpty
  have firstNamed : first ≠ "" := by
    simpa using notEmpty
  by_cases unnamed : last = ""
  · exact Or.inl (lastEmpty.mpr unnamed)
  · by_cases idle : last = "."
    · refine Or.inr ⟨first :: middle.filter (· ≠ ""), ?_⟩
      simp [steps, partsShape, firstNamed, idle, List.filter_append]
    · -- The last part is a component, and so is the first, explicit start or not.
      refine absurd few (Nat.not_le.mpr ?_)
      rw [componentCount, relative, movingSteps, steps, startsHere, partsShape]
      by_cases here : first = "."
      · simp [here, unnamed, idle, List.filter_append]
      · simp [here, firstNamed, unnamed, idle, List.filter_append]

end Path

namespace FileSystem

variable {files : FileSystem} {base place program : Location} {path : Path}

/-- An absolute path leads to the same location from everywhere. -/
theorem locate_of_isAbsolute
    (absolute : path.isAbsolute = true)
    (base other : Location) :
    files.locate base path = files.locate other path := by
  simp [locate, start, absolute]

/-- An absolute path names the same program from everywhere. -/
theorem programAt_of_isAbsolute
    (absolute : path.isAbsolute = true)
    (base other : Location) :
    files.programAt base path = files.programAt other path := by
  rw [programAt, programAt, nodeAt, nodeAt,
    locate_of_isAbsolute absolute base other]

/-- Whatever holds something is a directory. -/
def IsTree (files : FileSystem) : Prop :=
  ∀ location, files.find? location ≠ none →
    files.find? location.dropLast = some .directory

theorem isTree_empty : FileSystem.empty.IsTree := by
  intro location found
  by_cases root : location = []
  · subst root
    simp [find?, empty]
  · refine absurd ?_ found
    simp [find?, empty, Ne.symm root]

/-- What is put into a directory where nothing was makes a tree of a tree. -/
theorem IsTree.put
    {location : Location}
    (tree : files.IsTree)
    (free : files.find? location = none)
    (inDirectory : files.find? location.dropLast = some .directory)
    (node : Node) :
    (files.put location node).IsTree := by
  have kept {other : Location}
      (isDirectory : files.find? other = some .directory) :
      (files.put location node).find? other = some .directory := by
    rw [find?_put, if_neg, isDirectory]
    rintro rfl
    rw [free] at isDirectory
    contradiction
  intro other found
  rw [find?_put] at found
  split at found
  · rename_i same
    subst same
    exact kept inDirectory
  · exact kept (tree other found)

/-- A walk whose last step stays ends at a directory. -/
theorem find?_of_locate_idle
    {names : List String}
    (located : files.locate base path = .ok program)
    (idle : path.steps = names ++ ["."]) :
    files.find? program = some .directory := by
  obtain ⟨_, -, walked⟩ := bind_eq_ok_iff.mp located
  rw [idle, walk_concat] at walked
  obtain ⟨here, -, stepped⟩ := bind_eq_ok_iff.mp walked
  have isDirectory := find?_of_step stepped
  simp only [step, isDirectory, ↓reduceIte, Except.ok.injEq] at stepped
  rwa [← stepped]

/-- In a tree, a walk whose last step is upwards ends at a directory. -/
theorem IsTree.find?_of_locate_up
    {names : List String}
    (tree : files.IsTree)
    (located : files.locate base path = .ok program)
    (up : path.steps = names ++ [".."]) :
    files.find? program = some .directory := by
  obtain ⟨_, -, walked⟩ := bind_eq_ok_iff.mp located
  rw [up, walk_concat] at walked
  obtain ⟨here, -, stepped⟩ := bind_eq_ok_iff.mp walked
  have isDirectory := find?_of_step stepped
  have above := tree here (by simp [isDirectory])
  simp only [step, isDirectory] at stepped
  cases stepped
  exact above

/-- A path that leads to a directory names no program. -/
theorem programAt_ne_of_find?
    (isDirectory : ∀ location,
      files.locate base path = .ok location →
        files.find? location = some .directory)
    (program : Location) :
    files.programAt base path ≠ .ok program := by
  intro found
  obtain ⟨located, ⟨contents, isFile⟩, -⟩ := programAt_eq_ok_iff.mp found
  rw [isDirectory program located] at isFile
  cases isFile

/-- A single component that is not a mere name is no program, seen from anywhere. -/
theorem programAt_ne_of_componentCount
    (named : path.text ≠ "")
    (relative : path.isAbsolute = false)
    (few : path.componentCount ≤ 1)
    (slash : '/' ∈ path.text.toList)
    (program : Location) :
    files.programAt base path ≠ .ok program := by
  rcases Path.endsInSlash_or_idle named relative few slash with
    ends | ⟨names, idle⟩
  · intro found
    rw [(programAt_eq_ok_iff.mp found).2.2] at ends
    contradiction
  · exact programAt_ne_of_find?
      (fun location located => find?_of_locate_idle located idle) program

end FileSystem

namespace Machine

variable {machine : Machine Memory} {files otherFiles : FileSystem}
  {base place other program otherProgram : Location} {tool : Path}

/-! ## How tools are found -/

/-- A tool path with a slash is followed and not looked up. -/
theorem program_of_slash
    (slash : '/' ∈ tool.text.toList) :
    machine.program files place tool = files.programAt place tool := by
  have named : tool.text ≠ "" := by
    intro empty
    simp [empty] at slash
  rw [Machine.program, if_neg named,
    if_pos (Path.one_lt_length_parts_iff.mpr slash)]

/-- A tool path without a slash is looked up by its name. -/
theorem program_of_isSingle
    (named : tool.text ≠ "")
    (single : Path.IsSingle tool.text) :
    machine.program files place tool =
      files.lookUpProgram place tool (.system .notFound)
        machine.searchPath := by
  rw [Machine.program, if_neg named,
    if_neg fun several => single (Path.one_lt_length_parts_iff.mp several)]

theorem slash_of_isAbsolute
    (absolute : tool.isAbsolute = true) :
    '/' ∈ tool.text.toList :=
  List.mem_of_head? (by simpa [Path.isAbsolute] using absolute)

/--
Which program an absolute tool path stands for does not depend on the place.
-/
theorem program_of_isAbsolute
    (absolute : tool.isAbsolute = true)
    (machine : Machine Memory)
    (files : FileSystem)
    (place : Location) :
    machine.program files place tool = files.programAt [] tool :=
  (program_of_slash (slash_of_isAbsolute absolute)).trans
    (programAt_of_isAbsolute absolute place [])

/-- A search path of absolute entries is the same from everywhere. -/
theorem program_eq_of_searchPath
    (named : tool.text ≠ "")
    (single : Path.IsSingle tool.text)
    (absolute : ∀ entry ∈ machine.searchPath, entry.isAbsolute = true)
    (same : ∀ entry ∈ machine.searchPath,
      files.programAt [] (entry.join tool) =
        otherFiles.programAt [] (entry.join tool)) :
    machine.program files place tool =
      machine.program otherFiles other tool := by
  rw [program_of_isSingle named single, program_of_isSingle named single]
  apply lookUpProgram_congr
  intro entry member
  have absoluteJoin : (entry.join tool).isAbsolute = true :=
    (Path.isAbsolute_join (Path.isAbsolute_of_isSingle single)).trans
      (absolute entry member)
  rw [programAt_of_isAbsolute absoluteJoin place [],
    programAt_of_isAbsolute absoluteJoin other [], same entry member]

/-- No directory of a search path holds a program that is called like a directory. -/
theorem program_ne_of_dots
    (tree : files.IsTree)
    (dots : tool.text = "." ∨ tool.text = "..")
    (program : Location) :
    machine.program files place tool ≠ .ok program := by
  intro found
  obtain ⟨name⟩ := tool
  have single : Path.IsSingle name := by
    rcases dots with rfl | rfl <;> decide
  have named : name ≠ "" := by
    rcases dots with rfl | rfl <;> decide
  rw [program_of_isSingle named single] at found
  obtain ⟨entry, -, there⟩ := exists_programAt_of_lookUpProgram found
  refine programAt_ne_of_find? (fun location located => ?_) program there
  have stepsShape := @Path.steps_join entry name single named
  rcases dots with rfl | rfl
  · exact find?_of_locate_idle located stepsShape
  · exact tree.find?_of_locate_up located stepsShape

/-! ## Tools of any output directory -/

/-- Which program a tool is does not depend on the directory that it runs in. -/
structure SettlesTool
    (machine : Machine Memory)
    (base : Location)
    (tool : Path) :
    Prop where
  /-- Any two starts are of one program, if a mere name is looked up alike. -/
  one_program :
    ∀ {arguments otherArguments : List String} {directory otherDirectory : Path}
        {run otherRun : ToolRun},
      machine.Runs (tool.ofTool base) arguments directory run →
        machine.Runs (tool.ofTool base) otherArguments otherDirectory otherRun →
          (Path.IsSingle tool.text →
            ∀ entry ∈ machine.searchPath,
              run.before.programAt [] (entry.join tool) =
                otherRun.before.programAt [] (entry.join tool)) →
            otherRun.invocation.program = run.invocation.program
  /-- In the same files a program that is found from somewhere is found from anywhere. -/
  from_anywhere :
    ∀ (files : FileSystem) (place other program : Location),
      machine.program files place (tool.ofTool base) = .ok program →
        machine.program files other (tool.ofTool base) = .ok program
  /-- A relative path of several components is made absolute and means the same. -/
  anchored :
    tool.isAbsolute = false →
      1 < tool.componentCount →
        (tool.ofTool base).isAbsolute = true ∧
          ∀ files : FileSystem, files.IsWorkplace base →
            (tool.ofTool base).parts =
                "" :: (base ++ tool.movingSteps) ++
                  (if tool.endsInSlash then [""] else []) ∧
              ((tool.ofTool base).text.utf8ByteSize ≤ longestPath →
                ∀ location, files.locate base tool = .ok location →
                  ∀ elsewhere,
                    files.locate elsewhere (tool.ofTool base) =
                        .ok location ∧
                      files.nodeAt elsewhere (tool.ofTool base) =
                        files.nodeAt base tool)
  absolute_kept : tool.isAbsolute = true → tool.ofTool base = tool
  /-- A relative path that is kept is a name to look up, or never a program. -/
  relative_kept :
    tool.isAbsolute = false →
      tool.ofTool base = tool →
        Path.IsSingle tool.text ∧ tool.text ≠ "." ∧ tool.text ≠ ".." ∨
          tool.componentCount ≤ 1 ∧
            ∀ files : FileSystem, files.IsTree → ∀ place program,
              machine.program files place tool ≠ .ok program
  idempotent : ∀ other, (tool.ofTool base).ofTool other = tool.ofTool base

/-- A recorded run is one of the program that the tool path stood for. -/
theorem program_of_runs
    {arguments : List String}
    {directory : Path}
    {run : ToolRun}
    (runs : machine.Runs tool arguments directory run) :
    ∃ place,
      machine.program run.before place tool =
        .ok run.invocation.program := by
  obtain ⟨place, program, -, found, shape⟩ := invocation_eq_ok runs.invoked
  rw [shape]
  exact ⟨place, found⟩

/-- A tool path is absolute, a name to look up, or no program seen from anywhere. -/
theorem ofTool_cases
    (named : tool.text ≠ "")
    (machine : Machine Memory)
    (base : Location) :
    (tool.ofTool base).isAbsolute = true ∨
      tool.ofTool base = tool ∧ Path.IsSingle tool.text ∨
      ∀ files place program,
        machine.program files place (tool.ofTool base) ≠ .ok program := by
  rcases Path.isAbsolute_ofTool_or base tool with
    isAbsolute | ⟨relative, few, unchanged⟩
  · exact Or.inl isAbsolute
  · by_cases slash : '/' ∈ tool.text.toList
    · refine Or.inr (Or.inr fun files place program => ?_)
      rw [unchanged, program_of_slash slash]
      exact programAt_ne_of_componentCount named relative few slash program
    · exact Or.inr (Or.inl ⟨unchanged, slash⟩)

/-- Two searches for a tool that both find a program find the same one. -/
theorem program_eq_of_ok
    (named : tool.text ≠ "")
    (absolute : ∀ entry ∈ machine.searchPath, entry.isAbsolute = true)
    (same : Path.IsSingle tool.text →
      ∀ entry ∈ machine.searchPath,
        files.programAt [] (entry.join tool) =
          otherFiles.programAt [] (entry.join tool))
    (found : machine.program files place (tool.ofTool base) = .ok program)
    (foundToo : machine.program otherFiles other (tool.ofTool base) =
      .ok otherProgram) :
    otherProgram = program := by
  rcases ofTool_cases named machine base with
    isAbsolute | ⟨unchanged, single⟩ | never
  · rw [program_of_isAbsolute isAbsolute] at found foundToo
    exact locate_eq_of_ok (programAt_eq_ok_iff.mp found).1
      (programAt_eq_ok_iff.mp foundToo).1
  · rw [unchanged] at found foundToo
    rw [program_eq_of_searchPath named single absolute (same single),
      foundToo] at found
    exact Except.ok.inj found
  · exact (never files place program found).elim

theorem program_from_anywhere
    (named : tool.text ≠ "")
    (absolute : ∀ entry ∈ machine.searchPath, entry.isAbsolute = true)
    (found : machine.program files place (tool.ofTool base) = .ok program)
    (other : Location) :
    machine.program files other (tool.ofTool base) = .ok program := by
  rcases ofTool_cases named machine base with
    isAbsolute | ⟨unchanged, single⟩ | never
  · rw [program_of_isAbsolute isAbsolute] at found ⊢
    exact found
  · rw [unchanged] at found ⊢
    rw [← found]
    exact program_eq_of_searchPath named single absolute fun _ _ => rfl
  · exact (never files place program found).elim

/-- What an anchored tool path leads to is what the path led to from its base. -/
theorem nodeAt_anchored
    {location : Location}
    (workplace : files.IsWorkplace base)
    (moving : tool.movingSteps ≠ [])
    (relative : tool.isAbsolute = false)
    (located : files.locate base tool = .ok location)
    (fits : (tool.anchored base).text.utf8ByteSize ≤ longestPath)
    (elsewhere : Location) :
    files.nodeAt elsewhere (tool.anchored base) = files.nodeAt base tool := by
  rw [nodeAt, nodeAt, located,
    locate_anchored workplace moving relative located fits elsewhere,
    Path.endsInSlash_anchored workplace.isNames moving]

/-- The program of a tool path is settled before the output directory is known. -/
theorem settlesTool
    (absolute : ∀ entry ∈ machine.searchPath, entry.isAbsolute = true)
    (named : tool.text ≠ "")
    (base : Location) :
    machine.SettlesTool base tool where
  one_program := by
    intro arguments otherArguments directory otherDirectory run otherRun runs
      otherRuns same
    obtain ⟨_, found⟩ := program_of_runs runs
    obtain ⟨_, foundToo⟩ := program_of_runs otherRuns
    exact program_eq_of_ok named absolute same found foundToo
  from_anywhere := fun _ _ other _ found =>
    program_from_anywhere named absolute found other
  anchored := by
    intro relative several
    have moving := Path.movingSteps_ne_nil relative several
    rw [Path.ofTool_eq_anchored relative several]
    refine ⟨Path.isAbsolute_anchored base tool, fun files workplace =>
      ⟨Path.parts_anchored workplace.isNames moving, ?_⟩⟩
    intro fits location located elsewhere
    exact ⟨locate_anchored workplace moving relative located fits elsewhere,
      nodeAt_anchored workplace moving relative located fits elsewhere⟩
  absolute_kept := Path.ofTool_of_isAbsolute
  relative_kept := by
    intro relative unchanged
    have few : tool.componentCount ≤ 1 := by
      rcases Path.isAbsolute_ofTool_or base tool with isAbsolute | ⟨-, few, -⟩
      · rw [unchanged, relative] at isAbsolute
        contradiction
      · exact few
    rcases ofTool_cases named machine base with isAbsolute | ⟨-, single⟩ | never
    · rw [unchanged, relative] at isAbsolute
      contradiction
    · by_cases dots : tool.text = "." ∨ tool.text = ".."
      · exact Or.inr ⟨few, fun files tree place program =>
          program_ne_of_dots tree dots program⟩
      · exact Or.inl ⟨single, not_or.mp dots⟩
    · rw [unchanged] at never
      exact Or.inr ⟨few, fun files _ => never files⟩
  idempotent := fun other => Path.ofTool_ofTool base other tool

/-- A relative tool path is settled on the machine whose tools copy. -/
theorem settlesTool_copying :
    let machine : Machine Unit := copying [⟨"/bin"⟩]
    (∀ entry ∈ machine.searchPath, entry.isAbsolute = true) ∧
      "./bin/cloc.sh" ≠ "" ∧
      machine.SettlesTool ["w"] ⟨"./bin/cloc.sh"⟩ := by
  intro machine
  have absolute : ∀ entry ∈ machine.searchPath, entry.isAbsolute = true := by
    decide
  have named : "./bin/cloc.sh" ≠ "" := by
    decide
  exact ⟨absolute, named, settlesTool absolute named ["w"]⟩

end Machine

/-! ## What anchoring cannot do -/

namespace Path

/-- The way into a directory and out of it some times, and then to a tool in it. -/
def detourSteps : Nat → List String
  | 0 => ["d", "ccc"]
  | count + 1 => "d" :: ".." :: detourSteps count

/-- A detour as a path. -/
def detour (count : Nat) : Path :=
  ⟨"/".intercalate (detourSteps count)⟩

theorem mem_detourSteps
    {count : Nat}
    {name : String}
    (member : name ∈ detourSteps count) :
    name ∈ ["d", "..", "ccc"] := by
  induction count with
  | zero =>
      exact List.mem_cons.mpr ((List.mem_cons.mp member).imp_right
        (List.mem_cons_of_mem _))
  | succ count inductionHypothesis =>
      rcases List.mem_cons.mp member with rfl | member
      · exact List.mem_cons_self
      · rcases List.mem_cons.mp member with rfl | member
        · exact List.mem_cons_of_mem _ List.mem_cons_self
        · exact inductionHypothesis member

theorem getLast?_detourSteps (count : Nat) :
    (detourSteps count).getLast? = some "ccc" := by
  induction count with
  | zero =>
      rfl
  | succ count inductionHypothesis =>
      simp [detourSteps, List.getLast?_cons, inductionHypothesis]

theorem two_le_length_detourSteps (count : Nat) :
    2 ≤ (detourSteps count).length := by
  cases count <;> simp [detourSteps]

theorem parts_detour (count : Nat) :
    (detour count).parts = detourSteps count := by
  have single : ∀ name ∈ ["d", "..", "ccc"], IsSingle name := by
    decide
  refine parts_intercalate
    (fun name member => single name (mem_detourSteps member)) ?_
  cases count <;> exact List.cons_ne_nil _ _

theorem steps_detour (count : Nat) :
    (detour count).steps = detourSteps count := by
  have named : ∀ name ∈ ["d", "..", "ccc"], decide (name ≠ "") = true := by
    decide
  rw [steps, parts_detour]
  exact List.filter_eq_self.mpr fun name member =>
    named name (mem_detourSteps member)

theorem movingSteps_detour (count : Nat) :
    (detour count).movingSteps = detourSteps count := by
  have moving : ∀ name ∈ ["d", "..", "ccc"], decide (name ≠ ".") = true := by
    decide
  rw [movingSteps, steps_detour]
  exact List.filter_eq_self.mpr fun name member =>
    moving name (mem_detourSteps member)

/-- Every turn makes a detour five bytes longer. -/
theorem utf8ByteSize_detour (count : Nat) :
    (detour count).text.utf8ByteSize = 5 * count + 5 := by
  induction count with
  | zero =>
      rfl
  | succ count inductionHypothesis =>
      obtain ⟨first, rest, shape⟩ :
          ∃ first rest, detourSteps count = first :: rest := by
        cases count <;> exact ⟨_, _, rfl⟩
      rw [detour, shape] at inductionHypothesis
      rw [detour, detourSteps, shape, String.intercalate_cons_cons,
        String.intercalate_cons_cons]
      simp only [String.utf8ByteSize_append, inductionHypothesis]
      have bytes : "d".utf8ByteSize = 1 ∧ "..".utf8ByteSize = 2 ∧
          "/".utf8ByteSize = 1 := by
        decide
      omega

theorem text_detour_ne (count : Nat) : (detour count).text ≠ "" := by
  intro empty
  have size := utf8ByteSize_detour count
  simp [empty] at size

theorem isAbsolute_detour (count : Nat) :
    (detour count).isAbsolute = false := by
  rw [← Bool.not_eq_true, ← head?_parts_eq_iff (text_detour_ne count),
    parts_detour]
  cases count <;> simp [detourSteps]

theorem holdsNul_detour (count : Nat) :
    (detour count).holdsNul = false := by
  have noNul : ∀ name ∈ ["d", "..", "ccc"], '\x00' ∉ name.toList := by
    decide
  rw [← Bool.not_eq_true, holdsNul_iff, parts_detour]
  rintro ⟨name, member, nul⟩
  exact noNul name (mem_detourSteps member) nul

theorem endsInSlash_detour (count : Nat) :
    (detour count).endsInSlash = false := by
  have slash : '/' ∈ (detour count).text.toList := by
    rw [← one_lt_length_parts_iff, parts_detour]
    exact two_le_length_detourSteps count
  rw [← Bool.not_eq_true, endsInSlash_iff slash, parts_detour,
    getLast?_detourSteps]
  decide

theorem one_lt_componentCount_detour (count : Nat) :
    1 < (detour count).componentCount := by
  have several := two_le_length_detourSteps count
  rw [componentCount, movingSteps_detour]
  omega

/-- From the root a detour is made absolute by one slash. -/
theorem ofTool_detour (count : Nat) :
    (detour count).ofTool [] = ⟨"/" ++ (detour count).text⟩ := by
  rw [ofTool_eq_anchored (isAbsolute_detour count)
    (one_lt_componentCount_detour count), anchored, movingSteps_detour,
    endsInSlash_detour]
  rfl

end Path

namespace FileSystem

/-- A root with a directory that holds a tool. -/
def grounds : FileSystem :=
  (FileSystem.empty.put ["d"] .directory).put ["d", "ccc"]
    (.file ByteArray.empty true)

theorem isTree_grounds : grounds.IsTree := by
  refine (isTree_empty.put ?_ ?_ _).put ?_ ?_ _
  all_goals simp [find?, empty, FileSystem.put]

theorem isWorkplace_grounds : grounds.IsWorkplace [] :=
  eq_ok_of_toOption (by decide +kernel)

/-- A detour that is not too long leads to the compiler. -/
theorem locate_detour
    {count : Nat}
    (fits : 5 * count + 5 ≤ longestPath) :
    grounds.locate [] (Path.detour count) = .ok ["d", "ccc"] := by
  have fine : checkPath (Path.detour count) = .ok () :=
    checkPath_eq_ok_iff.mpr ⟨Path.holdsNul_detour count,
      Path.text_detour_ne count, Path.utf8ByteSize_detour count ▸ fits⟩
  have walked : grounds.walk [] (Path.detourSteps count) = .ok ["d", "ccc"] := by
    clear fits fine
    induction count with
    | zero =>
        exact eq_ok_of_toOption (by decide +kernel)
    | succ count inductionHypothesis =>
        have goesIn : grounds.step [] "d" = .ok ["d"] :=
          eq_ok_of_toOption (by decide +kernel)
        have comesOut : grounds.step ["d"] ".." = .ok [] :=
          eq_ok_of_toOption (by decide +kernel)
        exact bind_eq_ok_iff.mpr ⟨["d"], goesIn,
          bind_eq_ok_iff.mpr ⟨[], comesOut, inductionHypothesis⟩⟩
  rw [locate, fine, start, Path.isAbsolute_detour, Path.steps_detour]
  exact walked

/-- A path that is longer than any that can be used leads nowhere. -/
theorem nodeAt_of_too_long
    {files : FileSystem}
    {path : Path}
    (noNul : path.holdsNul = false)
    (long : longestPath < path.text.utf8ByteSize)
    (elsewhere : Location) :
    files.nodeAt elsewhere path = .error (.system .nameTooLong) := by
  have named : path.text ≠ "" := by
    intro empty
    simp [empty] at long
  rw [nodeAt, locate, checkPath, if_neg (Bool.eq_false_iff.mp noNul),
    if_neg named, if_pos long]
  rfl

end FileSystem

namespace Machine

/-- Two places for output, one of which holds a program, and so does a third. -/
def crowdedWorkshop : World Unit where
  files :=
    ((workshop.put ["v"] .directory).put ["w", "k.brig"]
      (.file ByteArray.empty true)).put ["bin", "k.brig"]
        (.file ByteArray.empty true)
  memory := ()

/-- Tools that are looked up where output goes, by a name that output can have. -/
def crowdedTools : HsailToolchain Unit where
  config := { compiler := Path.ofTool [] ⟨"k.brig"⟩ }
  machine := copying [⟨"/w"⟩, ⟨"/bin"⟩]

/--
A path that can just be used is too long when it is anchored. A name that is looked up
in an output directory is another program once output has been cleared away there.
-/
theorem tools_not_settled :
    (grounds.IsTree ∧ grounds.IsWorkplace [] ∧
      (Path.detour 818).isAbsolute = false ∧
      1 < (Path.detour 818).componentCount ∧
      grounds.isFile [] (Path.detour 818) = true ∧
      ∀ elsewhere,
        grounds.nodeAt elsewhere ((Path.detour 818).ofTool []) =
          .error (.system .nameTooLong)) ∧
    (crowdedTools.reportRuns "k" ⟨"w"⟩ crowdedWorkshop).map
        (fun run => run.invocation.program) = [["bin", "k.brig"]] ∧
      (crowdedTools.reportRuns "k" ⟨"v"⟩ crowdedWorkshop).map
        (fun run => run.invocation.program) = [["w", "k.brig"]] := by
  have isFile : grounds.isFile [] (Path.detour 818) = true := by
    refine isFile_iff.mpr ⟨["d", "ccc"], ByteArray.empty, true,
      locate_detour (by decide), ?_, Path.endsInSlash_detour 818⟩
    simp [grounds]
  refine ⟨⟨isTree_grounds, isWorkplace_grounds, Path.isAbsolute_detour 818,
    Path.one_lt_componentCount_detour 818, isFile, fun elsewhere => ?_⟩,
    by decide +kernel⟩
  have noNul := Path.holdsNul_detour 818
  rw [Path.ofTool_detour]
  refine nodeAt_of_too_long ?_ ?_ elsewhere
  · simpa [Path.holdsNul] using noNul
  · rw [String.utf8ByteSize_append, Path.utf8ByteSize_detour]
    decide

end Machine
end IsaUsage
