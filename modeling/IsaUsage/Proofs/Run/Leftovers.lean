import IsaUsage.Proofs.Kernel.Division
import IsaUsage.Proofs.Run.Kernel
import IsaUsage.Proofs.Run.Pipeline

namespace IsaUsage

/-!
# Leftovers have no say in a run

What an earlier run left at the places of a document's files is either written
over or cleared away before anything looks at it. So two runs that start from
files which differ in such leftovers alone come to the same, and if they succeed
they leave the same files.
-/

open FileSystem HsailToolchain IsaUsage.Action

/-- A place where the files of some kernel go. -/
def HsailToolchain.IsLeftover
    (toolchain : HsailToolchain Memory)
    (files : FileSystem)
    (directory : Path)
    (kernels : List String)
    (location : Location) :
    Prop :=
  ∃ place,
    files.Reaches toolchain.base directory place ∧
      ∃ kernel ∈ kernels, location ∈ toolchain.ownLocations place kernel

/-- Files that are the same but for plain nodes where files of kernels go. -/
structure HsailToolchain.DifferInLeftovers
    (toolchain : HsailToolchain Memory)
    (directory : Path)
    (kernels : List String)
    (left right : FileSystem) :
    Prop where
  plain :
    ∀ location,
      toolchain.IsLeftover left directory kernels location →
        IsPlain (left.find? location) ∧ IsPlain (right.find? location)
  elsewhere :
    ∀ location,
      ¬ toolchain.IsLeftover left directory kernels location →
        right.find? location = left.find? location

/--
Tools that translate kernels. A tool that is not there is not looked for among
the files of kernels either.
-/
structure HsailToolchain.IsIndifferent
    (toolchain : HsailToolchain Memory)
    (files : FileSystem)
    (directory : Path)
    (kernels : List String) :
    Prop where
  translates :
    ∀ kernel ∈ kernels, toolchain.TranslatesKernel files directory kernel
  searches_apart :
    ∀ place,
      files.directoryAt toolchain.base directory = .ok place →
        ∀ tool ∈ [toolchain.config.compiler, toolchain.config.finalizer],
          (∃ program,
            toolchain.machine.program files place tool = .ok program) ∨
            ∀ location ∈ toolchain.machine.lookUps place tool,
              ¬ toolchain.IsLeftover files directory kernels location

/-- A caller that remembers what it was told and answers by it. -/
def hear
    (reply : List KernelUsage → KernelUsage → Except RunError Unit)
    (usage : KernelUsage) :
    Action (List KernelUsage) Unit :=
  fun world =>
    ⟨reply world.memory usage,
      { world with memory := world.memory ++ [usage] }, []⟩

/-- Effects with one outcome and memory and, if they succeed, the same files. -/
structure Effect.Agrees (first second : Effect Memory α) : Prop where
  outcome_eq : first.outcome = second.outcome
  memory_eq : first.world.memory = second.world.memory
  files_eq :
    ∀ value,
      second.outcome = .ok value → first.world.files = second.world.files

section Running

variable {toolchain : HsailToolchain (List KernelUsage)}
  {changeable : Location → Prop} {origin : FileSystem} {directory : Path}
  {place : Location}

/-- Two worlds reworked from one, with the same memory, that differ somewhere. -/
structure Alike
    (changeable : Location → Prop)
    (origin : FileSystem)
    (loose : Location → Prop)
    (left right : World (List KernelUsage)) :
    Prop where
  left_reworked : origin.Reworked changeable left.files
  right_reworked : origin.Reworked changeable right.files
  memory_eq : right.memory = left.memory
  find?_eq :
    ∀ location,
      ¬ loose location →
        right.files.find? location = left.files.find? location

/-- Where files of the kernels that are still to be built go. -/
def pending
    (toolchain : HsailToolchain (List KernelUsage))
    (place : Location)
    (blocks : List KernelBlock)
    (location : Location) :
    Prop :=
  ∃ block ∈ blocks, location ∈ toolchain.ownLocations place block.name

/-- Two effects that come to the same, in worlds alike unless they fail. -/
structure Coupled
    (changeable : Location → Prop)
    (origin : FileSystem)
    (loose : Location → Prop)
    (first second : Effect (List KernelUsage) α) :
    Prop where
  outcome_eq : second.outcome = first.outcome
  memory_eq : second.world.memory = first.world.memory
  alike :
    ∀ value,
      first.outcome = .ok value →
        Alike changeable origin loose first.world second.world

/-- Actions in sequence stay coupled. -/
theorem Coupled.bind
    {loose tighter : Location → Prop}
    {action : Action (List KernelUsage) α}
    {next : α → Action (List KernelUsage) β}
    {left right : World (List KernelUsage)}
    (coupled : Coupled changeable origin loose (action left) (action right))
    (further : ∀ value left right,
      Alike changeable origin loose left right →
        Coupled changeable origin tighter (next value left)
          (next value right)) :
    Coupled changeable origin tighter ((action >>= next) left)
      ((action >>= next) right) := by
  have sameOutcome := coupled.outcome_eq
  cases outcome : (action left).outcome with
  | error error =>
      rw [outcome] at sameOutcome
      obtain ⟨leftOutcome, leftWorld⟩ :=
        @bind_of_error _ _ _ _ next _ _ outcome
      obtain ⟨rightOutcome, rightWorld⟩ :=
        @bind_of_error _ _ _ _ next _ _ sameOutcome
      refine ⟨rightOutcome.trans leftOutcome.symm, ?_, ?_⟩
      · rw [leftWorld, rightWorld]
        exact coupled.memory_eq
      · intro value done
        rw [leftOutcome] at done
        contradiction
  | ok value =>
      rw [outcome] at sameOutcome
      obtain ⟨leftOutcome, leftWorld⟩ := @bind_of_ok _ _ _ _ next _ _ outcome
      obtain ⟨rightOutcome, rightWorld⟩ :=
        @bind_of_ok _ _ _ _ next _ _ sameOutcome
      have after := further value _ _ (coupled.alike value outcome)
      refine ⟨?_, ?_, ?_⟩
      · rw [leftOutcome, rightOutcome]
        exact after.outcome_eq
      · rw [leftWorld, rightWorld]
        exact after.memory_eq
      · intro result done
        rw [leftWorld, rightWorld]
        exact after.alike result (leftOutcome.symm.trans done)

/-- The caller hears the same from alike worlds, and changes no files. -/
theorem Alike.hear
    {loose : Location → Prop}
    {left right : World (List KernelUsage)}
    (alike : Alike changeable origin loose left right)
    (reply : List KernelUsage → KernelUsage → Except RunError Unit)
    (usage : KernelUsage) :
    Coupled changeable origin loose (IsaUsage.hear reply usage left)
      (IsaUsage.hear reply usage right) := by
  have sameMemory : right.memory ++ [usage] = left.memory ++ [usage] := by
    rw [alike.memory_eq]
  refine ⟨?_, sameMemory, fun _ _ => ⟨alike.left_reworked,
    alike.right_reworked, sameMemory, alike.find?_eq⟩⟩
  show reply right.memory usage = reply left.memory usage
  rw [alike.memory_eq]

section Building

variable
  (compilerSteady : toolchain.IsSteady changeable origin directory
    toolchain.config.compiler)
  (finalizerSteady : toolchain.IsSteady changeable origin directory
    toolchain.config.finalizer)
  (plain : ∀ location,
    changeable location → IsPlain (origin.find? location))

include compilerSteady finalizerSteady plain

/-- Building a kernel makes two worlds alike at the kernel's own places. -/
theorem Alike.process
    {block : KernelBlock}
    {blocks : List KernelBlock}
    {left right : World (List KernelUsage)}
    (prepared :
      toolchain.Prepared changeable origin directory place block.name)
    (alike : Alike changeable origin
      (pending toolchain place (block :: blocks)) left right)
    (artifact : String) :
    Coupled changeable origin (pending toolchain place blocks)
      ((toolchain.pipeline directory).process block.name artifact left)
      ((toolchain.pipeline directory).process block.name artifact right) := by
  obtain ⟨binary, report, outcome, settles⟩ := prepared.process_settled
    compilerSteady finalizerSteady artifact
  have holdsLeft : Holds changeable origin [] left.files :=
    ⟨alike.left_reworked, by simp⟩
  have holdsRight : Holds changeable origin [] right.files :=
    ⟨alike.right_reworked, by simp⟩
  have leftOutcome := settles.outcome_eq left holdsLeft
  have sameMemory :
      ((toolchain.pipeline directory).process block.name artifact
          right).world.memory =
        ((toolchain.pipeline directory).process block.name artifact
          left).world.memory := by
    rw [settles.memory_eq right holdsRight, settles.memory_eq left holdsLeft]
    exact alike.memory_eq
  refine ⟨(settles.outcome_eq right holdsRight).trans leftOutcome.symm,
    sameMemory, ?_⟩
  intro usage done
  rw [leftOutcome] at done
  have builtLeft := settles.reached left holdsLeft usage done
  have builtRight := settles.reached right holdsRight usage done
  refine ⟨builtLeft.reworked, builtRight.reworked, sameMemory, ?_⟩
  intro location notPending
  by_cases own : location ∈ toolchain.ownLocations place block.name
  · -- Both builds left what is known of the kernel's own files.
    have wasPlain := plain location (prepared.allowed location own)
    rw [← List.mem_reverse, ← map_fst_builtFacts binary report] at own
    obtain ⟨fact, member, rfl⟩ := List.mem_map.mp own
    exact Finding.eq_of_fits (builtRight.known fact member)
      (builtLeft.known fact member) (builtRight.reworked.isPlain wasPlain)
      (builtLeft.reworked.isPlain wasPlain)
  · rw [settles.untouched right holdsRight location own,
      settles.untouched left holdsLeft location own]
    apply alike.find?_eq
    rintro ⟨other, member, isOwn⟩
    rcases List.mem_cons.mp member with rfl | later
    · exact own isOwn
    · exact notPending ⟨other, later, isOwn⟩

/-- A run makes two worlds alike at the places of all its kernels. -/
theorem Alike.runArtifacts
    {blocks : List KernelBlock}
    {left right : World (List KernelUsage)}
    (prepared : ∀ block ∈ blocks,
      toolchain.Prepared changeable origin directory place block.name)
    (alike : Alike changeable origin (pending toolchain place blocks) left
      right)
    (reply : List KernelUsage → KernelUsage → Except RunError Unit)
    (preamble : String)
    (summary : Summary) :
    Coupled changeable origin (pending toolchain place [])
      ((toolchain.pipeline directory).runArtifacts (IsaUsage.hear reply)
        summary (Document.artifacts ⟨preamble, blocks⟩) left)
      ((toolchain.pipeline directory).runArtifacts (IsaUsage.hear reply)
        summary (Document.artifacts ⟨preamble, blocks⟩) right) := by
  induction blocks generalizing left right summary with
  | nil =>
      exact ⟨rfl, alike.memory_eq, fun _ _ => alike⟩
  | cons block blocks inductionHypothesis =>
      have processed := alike.process compilerSteady finalizerSteady plain
        (prepared block List.mem_cons_self) (block.artifact preamble)
      have advanced : Coupled changeable origin
          (pending toolchain place blocks)
          ((toolchain.pipeline directory).advance (IsaUsage.hear reply)
            summary (block.name, block.artifact preamble) left)
          ((toolchain.pipeline directory).advance (IsaUsage.hear reply)
            summary (block.name, block.artifact preamble) right) := by
        refine processed.bind fun usage left right alike => ?_
        refine (alike.hear reply usage).bind fun _ left right alike => ?_
        exact ⟨rfl, alike.memory_eq, fun _ _ => alike⟩
      refine advanced.bind fun next left right alike => ?_
      exact inductionHypothesis
        (fun other member =>
          prepared other (List.mem_cons_of_mem block member)) alike next

end Building

/-- A run of a document whose calls are heard. -/
def HsailToolchain.heardRun
    (toolchain : HsailToolchain (List KernelUsage))
    (directory : Path)
    (reply : List KernelUsage → KernelUsage → Except RunError Unit)
    (source : String)
    (calls : List KernelUsage)
    (files : FileSystem) :
    Effect (List KernelUsage) Summary :=
  (toolchain.pipeline directory).runDocument (hear reply)
    (Document.split source) ⟨files, calls⟩

namespace HsailToolchain

variable {source : String} {left right : FileSystem}
  {reply : List KernelUsage → KernelUsage → Except RunError Unit}

/-- Of two file systems that differ in leftovers, one is the other reworked. -/
theorem DifferInLeftovers.reworked
    {kernels : List String}
    (leftovers : toolchain.DifferInLeftovers directory kernels left right) :
    left.Reworked (toolchain.IsLeftover left directory kernels) right := by
  intro location
  by_cases isLeftover : toolchain.IsLeftover left directory kernels location
  · obtain ⟨leftPlain, rightPlain⟩ := leftovers.plain location isLeftover
    exact Or.inr
      ⟨isLeftover, leftPlain.ne_directory, .of_isPlain rightPlain⟩
  · exact Or.inl (leftovers.elsewhere location isLeftover)

/-- Leftovers do not change where a tool is found, or why it is not. -/
theorem IsIndifferent.isSteady
    {kernels : List String}
    (indifferent : toolchain.IsIndifferent left directory kernels)
    (plain : ∀ location,
      toolchain.IsLeftover left directory kernels location →
        IsPlain (left.find? location))
    {tool : Path}
    (isTool : tool ∈ [toolchain.config.compiler, toolchain.config.finalizer]) :
    toolchain.IsSteady (toolchain.IsLeftover left directory kernels) left
      directory tool := by
  intro place resolved files reworked
  rcases indifferent.searches_apart place resolved tool isTool with
    ⟨program, found⟩ | apart
  · rw [found]
    apply Machine.program_of_reworked reworked found
    intro isLeftover
    obtain ⟨contents, isProgram⟩ := Machine.find?_of_program found
    exact (plain program isLeftover).ne_program contents isProgram
  · apply Machine.program_eq_of_lookUps
    intro location passed
    exact reworked.find?_of_not_changeable (apart location passed)

/-- In a directory that is reached, runs are coupled. -/
theorem coupled_heardRun
    (keepsApart : toolchain.config.KeepsApart (Document.split source).names)
    (indifferent : toolchain.IsIndifferent left directory
      (Document.split source).names)
    (leftovers : toolchain.DifferInLeftovers directory
      (Document.split source).names left right)
    (reaches : left.Reaches toolchain.base directory place)
    (calls : List KernelUsage) :
    Coupled (toolchain.IsLeftover left directory (Document.split source).names)
      left (pending toolchain place [])
      (toolchain.heardRun directory reply source calls left)
      (toolchain.heardRun directory reply source calls right) := by
  have plain (location : Location)
      (isLeftover : toolchain.IsLeftover left directory
        (Document.split source).names location) :=
    (leftovers.plain location isLeftover).1
  have prepared (block : KernelBlock)
      (member : block ∈ (Document.split source).kernels) :
      toolchain.Prepared
        (toolchain.IsLeftover left directory (Document.split source).names)
        left directory place block.name := by
    have isKernel : block.name ∈ (Document.split source).names :=
      List.mem_map_of_mem member
    exact ⟨reaches, Document.isName_of_mem_split member,
      keepsApart.of_mem isKernel,
      fun location own => ⟨place, reaches, block.name, isKernel, own⟩,
      indifferent.translates block.name isKernel⟩
  have alike : Alike
      (toolchain.IsLeftover left directory (Document.split source).names) left
      (pending toolchain place (Document.split source).kernels)
      ⟨left, calls⟩ ⟨right, calls⟩ := by
    refine ⟨Reworked.refl left, leftovers.reworked, rfl, ?_⟩
    intro location notPending
    apply leftovers.elsewhere
    rintro ⟨other, reachesOther, kernel, isKernel, own⟩
    obtain ⟨block, member, rfl⟩ := List.mem_map.mp isKernel
    rw [reaches.unique reachesOther] at own
    exact notPending ⟨block, member, own⟩
  have coupled := alike.runArtifacts
    (indifferent.isSteady plain List.mem_cons_self)
    (indifferent.isSteady plain (List.mem_cons_of_mem _ List.mem_cons_self))
    plain prepared reply (Document.split source).preamble .empty
  exact coupled.bind fun summary left right alike =>
    ⟨rfl, alike.memory_eq, fun _ _ => alike⟩

/-- A run whose directory is not there builds no kernels. -/
theorem kernels_of_heardRun
    {calls : List KernelUsage}
    {summary : Summary}
    (single : Path.IsSingle toolchain.config.sourceExtension)
    (noPlace : ∀ place, ¬ left.Reaches toolchain.base directory place)
    (done : (toolchain.heardRun directory reply source calls left).outcome =
      .ok summary) :
    (Document.split source).kernels = [] := by
  cases shape : (Document.split source).kernels with
  | nil =>
      rfl
  | cons block blocks =>
      have isName : Declaration.IsName block.name.toList :=
        Document.isName_of_mem_split (by rw [shape]; exact List.mem_cons_self)
      obtain ⟨_, ran, -, -⟩ := Action.bind_eq_ok done
      rw [Document.artifacts, shape, List.map_cons,
        Pipeline.runArtifacts_cons] at ran
      obtain ⟨_, advanced, -, -⟩ := Action.bind_eq_ok ran
      obtain ⟨usage, processed, -, -⟩ := Action.bind_eq_ok advanced
      obtain ⟨place, resolved⟩ := exists_directoryAt_of_process
        (ToolchainConfig.isOrdinary_fileName isName single) processed
      exact (noPlace place (reaches_of_directoryAt resolved)).elim

section Agreement

variable
  (keepsApart : toolchain.config.KeepsApart (Document.split source).names)
  (indifferent : toolchain.IsIndifferent left directory
    (Document.split source).names)
  (leftovers : toolchain.DifferInLeftovers directory
    (Document.split source).names left right)

include keepsApart indifferent leftovers

theorem agrees_heardRun (calls : List KernelUsage) :
    (toolchain.heardRun directory reply source calls right).Agrees
      (toolchain.heardRun directory reply source calls left) := by
  by_cases somewhere : ∃ place, left.Reaches toolchain.base directory place
  · rcases somewhere with ⟨place, reaches⟩
    have coupled := @coupled_heardRun _ _ _ _ _ _ reply keepsApart indifferent
      leftovers reaches calls
    refine ⟨coupled.outcome_eq, coupled.memory_eq, ?_⟩
    intro summary done
    apply ext_find?
    intro location
    apply (coupled.alike summary done).find?_eq
    rintro ⟨block, member, -⟩
    exact List.not_mem_nil member
  · have same : right = left := by
      apply ext_find?
      intro location
      apply leftovers.elsewhere
      rintro ⟨place, reaches, -⟩
      exact somewhere ⟨place, reaches⟩
    subst same
    exact ⟨rfl, rfl, fun _ _ => rfl⟩

/-- What a run leaves are leftovers for the next. -/
theorem differInLeftovers_heardRun
    {calls : List KernelUsage}
    {summary : Summary}
    (done : (toolchain.heardRun directory reply source calls left).outcome =
      .ok summary) :
    toolchain.DifferInLeftovers directory (Document.split source).names left
      (toolchain.heardRun directory reply source calls left).world.files := by
  have reworked : left.Reworked
      (toolchain.IsLeftover left directory (Document.split source).names)
      (toolchain.heardRun directory reply source calls left).world.files := by
    by_cases somewhere : ∃ place, left.Reaches toolchain.base directory place
    · rcases somewhere with ⟨place, reaches⟩
      have coupled := @coupled_heardRun _ _ _ _ _ _ reply keepsApart
        indifferent leftovers reaches calls
      exact (coupled.alike summary done).left_reworked
    · have noKernels := kernels_of_heardRun keepsApart.source_single
        (not_exists.mp somewhere) done
      have unchanged : (toolchain.heardRun directory reply source calls
          left).world.files = left := by
        rw [heardRun, (Pipeline.runDocument_eq _ _).2, Document.artifacts,
          noKernels]
        rfl
      rw [unchanged]
      exact Reworked.refl left
  refine ⟨?_, fun location => reworked.find?_of_not_changeable⟩
  intro location isLeftover
  have plain := (leftovers.plain location isLeftover).1
  exact ⟨plain, reworked.isPlain plain⟩

/--
Two runs from files that differ in leftovers agree, and a run that succeeded can
be repeated where it was: it comes to the same and changes nothing.
-/
theorem heardRun_ignores_leftovers (calls : List KernelUsage) :
    (toolchain.heardRun directory reply source calls right).Agrees
        (toolchain.heardRun directory reply source calls left) ∧
      ∀ summary,
        (toolchain.heardRun directory reply source calls left).outcome =
            .ok summary →
          (toolchain.heardRun directory reply source calls
              (toolchain.heardRun directory reply source calls
                left).world.files).Agrees
            (toolchain.heardRun directory reply source calls left) := by
  refine ⟨agrees_heardRun keepsApart indifferent leftovers calls, ?_⟩
  intro summary done
  exact agrees_heardRun keepsApart indifferent
    (differInLeftovers_heardRun keepsApart indifferent leftovers done) calls

end Agreement
end HsailToolchain

end Running
/-- A document that declares one kernel. -/
def loneKernel : String :=
  "__kernel void k\n"

theorem names_loneKernel : (Document.split loneKernel).names = ["k"] := by
  decide +kernel

theorem reaches_workshop : workshop.Reaches [] ⟨"w"⟩ ["w"] :=
  reaches_of_directoryAt (eq_ok_of_toOption (by decide +kernel))

/-- The workshop with a file of an earlier run. -/
def litteredWorkshop (name : String) : FileSystem :=
  workshop.put ["w", name] (.file "old".toUTF8 false)

/-- A file of a kernel in the workshop is a leftover. -/
theorem differInLeftovers_litteredWorkshop
    {compiler finalizer : Path}
    {kernel name : String}
    (own : ["w", name] ∈
      (copyingTools compiler finalizer : HsailToolchain Memory).ownLocations
        ["w"] kernel)
    (free : ∀ location ∈
      (copyingTools compiler finalizer : HsailToolchain Memory).ownLocations
        ["w"] kernel,
      IsPlain (workshop.find? location)) :
    (copyingTools compiler finalizer : HsailToolchain Memory).DifferInLeftovers
      ⟨"w"⟩ [kernel] workshop (litteredWorkshop name) := by
  constructor
  · rintro location ⟨place, reaches, other, isKernel, isOwn⟩
    rw [List.mem_singleton.mp isKernel,
      reaches_workshop.unique reaches] at isOwn
    have plain := free location isOwn
    refine ⟨plain, ?_⟩
    unfold litteredWorkshop
    rw [find?_put]
    split
    · exact Or.inr ⟨_, rfl⟩
    · exact plain
  · intro location notLeftover
    unfold litteredWorkshop
    rw [find?_put, if_neg]
    rintro rfl
    exact notLeftover ⟨["w"], reaches_workshop, kernel,
      List.mem_singleton.mpr rfl, own⟩

/-- A kernel that is built with and without a leftover dump. -/
theorem heardRun_ignores_leftovers_workshop :
    let toolchain : HsailToolchain (List KernelUsage) := copying
    let names := (Document.split loneKernel).names
    let run := toolchain.heardRun ⟨"w"⟩ (fun _ _ => .ok ()) loneKernel []
    toolchain.config.KeepsApart names ∧
      toolchain.IsIndifferent workshop ⟨"w"⟩ names ∧
      toolchain.DifferInLeftovers ⟨"w"⟩ names workshop
        (litteredWorkshop "isa.txt") ∧
      (run (litteredWorkshop "isa.txt")).Agrees (run workshop) ∧
      ∀ summary,
        (run workshop).outcome = .ok summary →
          (run (run workshop).world.files).Agrees (run workshop) := by
  intro toolchain names run
  have keepsApart : toolchain.config.KeepsApart names := by
    show toolchain.config.KeepsApart (Document.split loneKernel).names
    rw [names_loneKernel]
    decide
  have indifferent : toolchain.IsIndifferent workshop ⟨"w"⟩ names := by
    refine ⟨fun kernel _ =>
      translatesKernel_copyingTools _ _ workshop ⟨"w"⟩ kernel, ?_⟩
    intro place resolved tool isTool
    cases reaches_workshop.unique (reaches_of_directoryAt resolved)
    have found : ∀ tool ∈ [toolchain.config.compiler,
        toolchain.config.finalizer],
        (toolchain.machine.program workshop ["w"] tool).toOption.isSome := by
      decide +kernel
    obtain ⟨program, started⟩ :=
      Option.isSome_iff_exists.mp (found tool isTool)
    exact Or.inl ⟨program, eq_ok_of_toOption started⟩
  have leftovers : toolchain.DifferInLeftovers ⟨"w"⟩ names workshop
      (litteredWorkshop "isa.txt") := by
    show toolchain.DifferInLeftovers ⟨"w"⟩ (Document.split loneKernel).names
      workshop (litteredWorkshop "isa.txt")
    rw [names_loneKernel]
    exact differInLeftovers_litteredWorkshop (by decide) (by decide +kernel)
  exact ⟨keepsApart, indifferent, leftovers,
    heardRun_ignores_leftovers keepsApart indifferent leftovers []⟩

/--
A compiler that is looked for below a kept report is not there either way, but
whether a leftover is in the way decides on why it is not.
-/
theorem heardRun_depends_on_leftovers :
    let toolchain : HsailToolchain (List KernelUsage) :=
      copyingTools ⟨"k.isa/cc"⟩ ⟨"finalizer_dumper"⟩
    let names := (Document.split loneKernel).names
    let run := toolchain.heardRun ⟨"w"⟩ (fun _ _ => .ok ()) loneKernel []
    toolchain.config.KeepsApart names ∧
      toolchain.IsWellBehaved workshop ⟨"w"⟩ names ∧
      toolchain.IsWellBehaved (litteredWorkshop "k.isa") ⟨"w"⟩ names ∧
      toolchain.DifferInLeftovers ⟨"w"⟩ names workshop
        (litteredWorkshop "k.isa") ∧
      (run (litteredWorkshop "k.isa")).outcome ≠ (run workshop).outcome := by
  intro toolchain names run
  have names_eq : names = ["k"] := names_loneKernel
  refine ⟨?_, ?_, ?_, ?_, ?_⟩
  · rw [names_eq]
    decide
  · have isPlace : workshop.directoryAt [] ⟨"w"⟩ = .ok ["w"] :=
      eq_ok_of_toOption (by decide +kernel)
    rw [names_eq]
    apply isWellBehaved_copyingTools isPlace
    decide +kernel
  · have isPlace : (litteredWorkshop "k.isa").directoryAt [] ⟨"w"⟩ =
        .ok ["w"] :=
      eq_ok_of_toOption (by decide +kernel)
    rw [names_eq]
    apply isWellBehaved_copyingTools isPlace
    decide +kernel
  · rw [names_eq]
    exact differInLeftovers_litteredWorkshop (by decide) (by decide +kernel)
  · intro same
    let error? (outcome : Except RunError Summary) : Option RunError :=
      match outcome with
      | .error error => some error
      | .ok _ => none
    have sameError : error? (run (litteredWorkshop "k.isa")).outcome =
        error? (run workshop).outcome := congrArg error? same
    exact absurd sameError (by decide +kernel)

end IsaUsage
