import IsaUsage.Proofs.Run.Composition

namespace IsaUsage

/-!
# What a run prints

The two tools never print anything of their own, and a caller prints what it likes
about every kernel. So a run that only notes its calls says all about a run with
such a caller: what it prints is what is to be said about its calls, in order
(`HsailToolchain.says_runFile`).
-/

namespace Effect

variable {Memory Entry α : Type}

/-- An effect prints what is said about the entries that another one notes. -/
structure Says
    (said : Entry → String)
    (earlier : List Entry)
    (spoken : Effect Memory α)
    (noted : Effect (Memory × List Entry) α) :
    Prop where
  outcome_eq : spoken.outcome = noted.outcome
  world_eq : spoken.world = noted.world.forget
  events_eq : spoken.events = noted.events
  output_eq :
    String.join (earlier.map said) ++ spoken.output =
      String.join (noted.world.memory.2.map said)

/-- Nothing is said, and no entry is added. -/
theorem Says.of_quiet
    {said : Entry → String}
    {spoken : Effect Memory α}
    {noted : Effect (Memory × List Entry) α}
    {earlier : List Entry}
    (same : spoken = noted.forget)
    (quiet : spoken.output = "")
    (added : noted.world.memory.2 = earlier) :
    Says said earlier spoken noted where
  outcome_eq := congrArg Effect.outcome same
  world_eq := congrArg Effect.world same
  events_eq := congrArg Effect.events same
  output_eq := by
    rw [quiet, added, String.append_empty]

end Effect

namespace Action

section Sequence

variable {action : Action Memory α} {next : α → Action Memory β}
  {world : World Memory}

/-- After a failure nothing more is emitted. -/
theorem emissions_bind_of_error
    {error : RunError}
    (failed : (action world).outcome = .error error) :
    ((action >>= next) world).emissions = (action world).emissions := by
  rw [bind_apply, failed]

/-- What follows a success emits after it. -/
theorem emissions_bind_of_ok
    {value : α}
    (done : (action world).outcome = .ok value) :
    ((action >>= next) world).emissions =
      (action world).emissions ++
        (next value (action world).world).emissions := by
  rw [bind_apply, done]

/-- After a failure nothing more is logged. -/
theorem events_bind_of_error
    {error : RunError}
    (failed : (action world).outcome = .error error) :
    ((action >>= next) world).events = (action world).events := by
  simp [Effect.events, emissions_bind_of_error failed]

/-- What follows a success logs after it. -/
theorem events_bind_of_ok
    {value : α}
    (done : (action world).outcome = .ok value) :
    ((action >>= next) world).events =
      (action world).events ++ (next value (action world).world).events := by
  simp [Effect.events, emissions_bind_of_ok done]

/-- After a failure nothing more is printed. -/
theorem output_bind_of_error
    {error : RunError}
    (failed : (action world).outcome = .error error) :
    ((action >>= next) world).output = (action world).output := by
  simp [Effect.output, emissions_bind_of_error failed]

/-- What follows a success prints after it. -/
theorem output_bind_of_ok
    {value : α}
    (done : (action world).outcome = .ok value) :
    ((action >>= next) world).output =
      (action world).output ++ (next value (action world).world).output := by
  simp [Effect.output, emissions_bind_of_ok done]

end Sequence

theorem output_print (text : String) (world : World Memory) :
    (print text world).output = text := by
  simp [Effect.output, print]

/-- An action that prints nothing. -/
def Quiet (action : Action Memory α) : Prop :=
  ∀ world, (action world).output = ""

namespace Quiet

/-- Quiet actions in sequence are quiet. -/
theorem bind
    {action : Action Memory α}
    {next : α → Action Memory β}
    (first : Quiet action)
    (second : ∀ value, Quiet (next value)) :
    Quiet (action >>= next) := by
  intro world
  cases outcome : (action world).outcome with
  | error error =>
      exact (output_bind_of_error outcome).trans (first world)
  | ok value =>
      rw [output_bind_of_ok outcome, first world, second value]
      rfl

theorem pure (value : α) : Quiet (pure value : Action Memory α) :=
  fun _ => rfl

theorem log (event : LogEvent) : Quiet (log event : Action Memory Unit) :=
  fun _ => rfl

theorem logAll (events : List LogEvent) :
    Quiet (logAll events : Action Memory Unit) := by
  intro world
  refine congrArg String.join (List.filterMap_eq_nil_iff.mpr ?_)
  intro emission member
  obtain ⟨event, -, rfl⟩ := List.mem_map.mp member
  rfl

theorem inspect
    (look : FileSystem → Except Failure α)
    (explain : Failure → RunError) :
    Quiet (inspect look explain : Action Memory α) := by
  intro world
  unfold Action.inspect
  cases look world.files <;> rfl

theorem change
    (edit : FileSystem → Except Failure FileSystem)
    (explain : Failure → RunError) :
    Quiet (change edit explain : Action Memory Unit) := by
  intro world
  unfold Action.change
  cases edit world.files <;> rfl

end Quiet

variable {Memory Entry : Type}

/-- An action prints what is said about the entries that another one notes. -/
def Says
    (said : Entry → String)
    {α : Type}
    (speaking : Action Memory α)
    (noting : Action (Memory × List Entry) α) :
    Prop :=
  ∀ world, (speaking world.forget).Says said world.memory.2 (noting world)

namespace Says

variable {said : Entry → String} {α β : Type}

/-- In sequence, actions say what they said one by one. -/
theorem bind
    {speaking : Action Memory α}
    {noting : Action (Memory × List Entry) α}
    {speakingNext : α → Action Memory β}
    {notingNext : α → Action (Memory × List Entry) β}
    (first : Says said speaking noting)
    (second : ∀ value, Says said (speakingNext value) (notingNext value)) :
    Says said (speaking >>= speakingNext) (noting >>= notingNext) := by
  intro world
  obtain ⟨sameOutcome, sameWorld, sameEvents, said⟩ := first world
  cases outcome : (noting world).outcome with
  | error error =>
      have spokenOutcome := sameOutcome.trans outcome
      constructor
      · rw [(bind_of_error spokenOutcome).1, (bind_of_error outcome).1]
      · rw [(bind_of_error spokenOutcome).2, (bind_of_error outcome).2]
        exact sameWorld
      · rw [events_bind_of_error spokenOutcome, events_bind_of_error outcome]
        exact sameEvents
      · rw [output_bind_of_error spokenOutcome, (bind_of_error outcome).2]
        exact said
  | ok value =>
      have spokenOutcome := sameOutcome.trans outcome
      have further := second value (noting world).world
      rw [← sameWorld] at further
      constructor
      · rw [(bind_of_ok spokenOutcome).1, (bind_of_ok outcome).1]
        exact further.outcome_eq
      · rw [(bind_of_ok spokenOutcome).2, (bind_of_ok outcome).2]
        exact further.world_eq
      · rw [events_bind_of_ok spokenOutcome, events_bind_of_ok outcome,
          sameEvents, further.events_eq]
      · rw [output_bind_of_ok spokenOutcome, (bind_of_ok outcome).2,
          ← String.append_assoc, said]
        exact further.output_eq

/-- A quiet action whose record is not added to says nothing. -/
theorem of_records
    {speaking : Action Memory α}
    {noting : Action (Memory × List Entry) α}
    (records : Records noting speaking)
    (quiet : Quiet speaking)
    (added : ∀ world, (noting world).world.memory.2 = world.memory.2) :
    Says said speaking noting :=
  fun world => .of_quiet (records world).symm (quiet _) (added world)

theorem isCongruence :
    IsCongruence (@Says Memory Entry said) where
  pure := fun value => of_records (Records.pure value) (Quiet.pure value)
    fun _ => rfl
  bind := bind
  log := fun event => of_records (Records.log event) (Quiet.log event)
    fun _ => rfl
  logAll := fun events => of_records (fun _ => rfl) (Quiet.logAll events)
    fun _ => rfl
  inspect := by
    intro α look explain
    apply of_records (Records.inspect look explain) (Quiet.inspect look explain)
    intro world
    unfold Action.inspect
    cases look world.files <;> rfl
  change := by
    intro edit explain
    apply of_records (Records.change edit explain) (Quiet.change edit explain)
    intro world
    unfold Action.change
    cases edit world.files <;> rfl

/-- What a quiet action notes has to be nothing worth saying. -/
theorem noting
    {plain : Action Memory α}
    {entry : Entry}
    (quiet : Quiet plain)
    (unsaid : said entry = "") :
    Says said plain (plain.noting [entry]) := by
  intro world
  constructor
  · rfl
  · rfl
  · rfl
  · rw [quiet]
    simp [Action.noting, Effect.withRecord, World.withRecord, unsaid]

end Says
end Action

namespace HsailToolchain

open IsaUsage.Action

variable {toolchain : HsailToolchain Memory}

theorem quiet_notePrinted (tool : Path) (kernel : String) (exit : ToolExit) :
    Quiet (notePrinted tool kernel exit : Action Memory Unit) := by
  intro world
  unfold notePrinted
  cases Text.isBlankText (Text.decodeLossy exit.stdout).toList <;> rfl

theorem quiet_requireSuccess
    (tool : Path)
    (kernel : String)
    (exit : ToolExit) :
    Quiet (requireSuccess tool kernel exit : Action Memory Unit) := by
  intro world
  unfold requireSuccess
  cases exit.status.isSuccess <;> rfl

/-- Starting a tool prints nothing, whatever the tool prints. -/
theorem quiet_run (tool : Path) (arguments : List String) (directory : Path) :
    Quiet (toolchain.machine.run tool arguments directory) := by
  intro world
  unfold Machine.run
  cases toolchain.machine.invocation world.files tool arguments directory <;>
    rfl

/-- Producing an output prints nothing. -/
theorem quiet_produce
    (output tool : Path)
    (arguments : List String)
    (kernel : String)
    (directory : Path) :
    Quiet (toolchain.produce output tool arguments kernel directory) := by
  apply Quiet.bind
  · intro world
    unfold clearStale
    split <;> rfl
  · intro _
    apply Quiet.bind
    · apply Quiet.bind (Quiet.log _)
      intro _
      apply Quiet.bind (quiet_run tool arguments directory)
      intro exit
      apply Quiet.bind (quiet_notePrinted tool kernel exit)
      intro _
      exact quiet_requireSuccess tool kernel exit
    · intro _ world
      unfold requireOutput
      split <;> rfl

/-- Building a kernel prints nothing, whatever the tools do. -/
theorem quiet_isaReport (kernel : String) (directory : Path) :
    Quiet (toolchain.isaReport kernel directory) := by
  apply Quiet.bind (quiet_produce _ _ _ _ _)
  intro _
  apply Quiet.bind (quiet_produce _ _ _ _ _)
  intro _
  apply Quiet.bind (Quiet.change _ _)
  intro _
  apply Quiet.bind (Quiet.log _)
  intro _
  exact Quiet.pure _

end HsailToolchain

/-- What is said about a call, if only the caller has something to say. -/
def Call.said (lines : KernelUsage → String) (call : Call) : String :=
  match call.told? with
  | some usage => lines usage
  | none => ""

/-- All that is said about some calls is about the kernels in them. -/
theorem Call.join_said (lines : KernelUsage → String) (calls : List Call) :
    String.join (calls.map (Call.said lines)) =
      String.join ((calls.filterMap Call.told?).map lines) := by
  induction calls with
  | nil =>
      rfl
  | cons call calls inductionHypothesis =>
      cases told : call.told? <;>
        simp [said, told, inductionHypothesis]

namespace HsailToolchain

open IsaUsage.Action

variable {toolchain : HsailToolchain Memory} {directory : Path}
  {lines : KernelUsage → String}
  {speaks : KernelUsage → Action Memory Unit}

/-- A pipeline says what is said of its calls. -/
theorem says_watched (toolchain : HsailToolchain Memory) (directory : Path) :
    Pipeline.Matches (@Says Memory Call (Call.said lines))
      (toolchain.pipeline directory) (toolchain.pipeline directory).watched where
  outputDirectory_eq := rfl
  workingDirectory_eq := rfl
  commandLine := fun _ => Says.noting (Quiet.pure _) rfl
  sourcePath := fun _ _ => Says.noting (Quiet.pure _) rfl
  isaReport := fun kernel directory =>
    Says.noting (quiet_isaReport kernel directory) rfl

/-- What a caller does who prints something about every kernel. -/
structure Prints
    (lines : KernelUsage → String)
    (speaks : KernelUsage → Action Memory Unit) :
    Prop where
  outcome : ∀ usage world, (speaks usage world).outcome = .ok ()
  world : ∀ usage world, (speaks usage world).world = world
  events : ∀ usage world, (speaks usage world).events = []
  output : ∀ usage world, (speaks usage world).output = lines usage

theorem Prints.says (prints : Prints lines speaks) (usage : KernelUsage) :
    Says (Call.said lines) (speaks usage)
      (Pipeline.watching (fun _ => pure ()) usage) := by
  intro world
  constructor
  · exact prints.outcome usage _
  · exact prints.world usage _
  · exact prints.events usage _
  · rw [prints.output]
    simp [Pipeline.watching, Action.noting, Effect.withRecord,
      World.withRecord, Call.said, Call.told?]

/-- A run with a caller who prints says what is to be said about its calls. -/
theorem says_runFile (prints : Prints lines speaks) (source : Path) :
    Says (Call.said lines)
      ((toolchain.pipeline directory).runFile speaks source)
      ((toolchain.pipeline directory).watched.runFile
        (Pipeline.watching fun _ => pure ()) source) :=
  Says.isCongruence.runFile (toolchain.says_watched directory) prints.says source

end HsailToolchain

namespace Pipeline

open IsaUsage.Action

variable {pipeline : Pipeline Memory} {source : Path} {world : World Memory}

/-- A run whose caller takes every kernel and does nothing about it. -/
def silentRun
    (pipeline : Pipeline Memory)
    (source : Path)
    (world : World Memory) :
    Effect Memory Summary :=
  pipeline.runFile (fun _ => pure ()) source world

/-- The kernels that the caller of such a run hears of. -/
def heard
    (pipeline : Pipeline Memory)
    (source : Path)
    (world : World Memory) :
    List KernelUsage :=
  ((pipeline.watched.runFile (watching fun _ => pure ()) source).entries
    world).filterMap Call.told?

/-- A run over a file that cannot be read fails at once. -/
theorem runFile_of_unreadable
    {onKernel : KernelUsage → Action Memory Unit}
    {failure : Failure}
    (unreadable : world.files.readText pipeline.workingDirectory source =
      .error failure) :
    pipeline.runFile onKernel source world =
      ⟨.error (.unreadable source failure), world, []⟩ := by
  rw [runFile, bind_apply, inspect_of_error unreadable]

/-- A run over a text first notes how the text was divided. -/
theorem runText_eq
    (onKernel : KernelUsage → Action Memory Unit)
    (text : String) :
    pipeline.runText onKernel text = (do
      Action.logAll (Division.ofText text).log
      pipeline.runDocument onKernel (Document.split text)) :=
  rfl

/-- A run over a file is a run of the document in it. -/
theorem runFile_of_readable
    {onKernel : KernelUsage → Action Memory Unit}
    {text : String}
    (readable : world.files.readText pipeline.workingDirectory source =
      .ok text) :
    (pipeline.runFile onKernel source world).outcome =
        (pipeline.runDocument onKernel (Document.split text) world).outcome ∧
      (pipeline.runFile onKernel source world).world =
        (pipeline.runDocument onKernel (Document.split text) world).world := by
  have read : inspect
      (fun files => files.readText pipeline.workingDirectory source)
      (.unreadable source) world = ⟨.ok text, world, []⟩ :=
    inspect_of_ok readable
  simp only [runFile, runText_eq, bind_apply, read, log, logAll, and_self]

/-- Of a source that cannot be read no kernel is heard. -/
theorem heard_of_unreadable
    {failure : Failure}
    (unreadable : world.files.readText pipeline.workingDirectory source =
      .error failure) :
    pipeline.heard source world = [] := by
  unfold heard Action.entries
  rw [@runFile_of_unreadable _ pipeline.watched _ world.recording _ _ unreadable]
  rfl

/-- The kernels that are heard are those of the calls. -/
theorem heard_of_readable
    {text : String}
    (readable : world.files.readText pipeline.workingDirectory source =
      .ok text) :
    pipeline.heard source world =
      (pipeline.calls (fun _ => pure ()) (Document.split text)
        world).filterMap Call.told? := by
  unfold heard Action.entries
  rw [(@runFile_of_readable _ pipeline.watched _ world.recording _ _
    readable).2]
  rfl

/-- The caller of a run that succeeds hears of all kernels in the summary. -/
theorem heard_of_ok
    {summary : Summary}
    (done : (pipeline.silentRun source world).outcome = .ok summary) :
    pipeline.heard source world = summary.kernels := by
  unfold silentRun at done
  cases read : world.files.readText pipeline.workingDirectory source with
  | error failure =>
      rw [runFile_of_unreadable read] at done
      contradiction
  | ok text =>
      rw [(runFile_of_readable read).1] at done
      rw [heard_of_readable read]
      exact (told_of_runDocument done).2

/-- A kernel that fails while nobody refuses any cannot be built. -/
theorem told_of_endsAt
    {preamble : String}
    {earlier : List KernelBlock}
    {block : KernelBlock}
    {error : RunError}
    {done : Summary}
    {told : List KernelUsage}
    {final : World Memory}
    (endsAt : pipeline.EndsAt (fun _ => pure ()) preamble earlier block world
      error done told final) :
    told = [] := by
  cases endsAt.fails with
  | building failed =>
      rfl
  | telling usage built refused =>
      contradiction

/-- The caller of a run that fails hears of the kernels before the failure. -/
theorem heard_of_error
    {error : RunError}
    (failed : (pipeline.silentRun source world).outcome = .error error) :
    (∃ failure,
      world.files.readText pipeline.workingDirectory source = .error failure ∧
        pipeline.heard source world = []) ∨
      ∃ text earlier block later done final,
        world.files.readText pipeline.workingDirectory source = .ok text ∧
          (Document.split text).kernels = earlier ++ block :: later ∧
          pipeline.EndsAt (fun _ => pure ()) (Document.split text).preamble
            earlier block world error done [] final ∧
          pipeline.heard source world = done.kernels := by
  unfold silentRun at failed
  cases read : world.files.readText pipeline.workingDirectory source with
  | error failure =>
      exact Or.inl ⟨failure, rfl, heard_of_unreadable read⟩
  | ok text =>
      rw [(runFile_of_readable read).1] at failed
      obtain ⟨earlier, block, later, done, shape, earlierDone, blockFailed⟩ :=
        @exists_first_failure _ _ _ (Document.split text).preamble
          (Document.split text).kernels _ _ failed
      obtain ⟨told, final, endsAt⟩ := exists_endsAt earlierDone blockFailed
      cases told_of_endsAt endsAt
      refine Or.inr ⟨text, earlier, block, later, done, final, rfl, shape,
        endsAt, ?_⟩
      obtain ⟨asked, isPrefix, ends⟩ := endsAt.ends
      obtain ⟨-, -, calls⟩ := ends later
      have unheard : asked.filterMap Call.told? = [] :=
        List.prefix_nil.mp (isPrefix.filterMap _)
      rw [← shape] at calls
      rw [heard_of_readable read, calls, List.filterMap_append,
        endsAt.earlier_told]
      simp [unheard]

end Pipeline

namespace HsailToolchain

variable {toolchain : HsailToolchain Memory} {directory : Path}
  {lines : KernelUsage → String}
  {speaks : KernelUsage → Action Memory Unit}

/-- A caller who prints changes nothing about a run but what is printed. -/
theorem runFile_of_prints
    (prints : Prints lines speaks)
    (source : Path)
    (world : World Memory) :
    let spoken := (toolchain.pipeline directory).runFile speaks source world
    let silent := (toolchain.pipeline directory).silentRun source world
    spoken.outcome = silent.outcome ∧
      spoken.world = silent.world ∧
      spoken.events = silent.events ∧
      spoken.output = String.join
        (((toolchain.pipeline directory).heard source world).map lines) := by
  intro spoken silent
  have notes : Action.Notes
      ((toolchain.pipeline directory).watched.runFile
        (Pipeline.watching fun _ => pure ()) source)
      ((toolchain.pipeline directory).runFile (fun _ => pure ()) source) :=
    Action.Notes.isCongruence.runFile (Pipeline.watched_matches _)
      (fun _ => Action.Notes.noting _ _) source
  obtain ⟨outcome, after, events, output⟩ :=
    @says_runFile _ toolchain directory _ _ prints source world.recording
  have noted := notes world []
  have sameStart : world.withRecord [] =
      (world.recording : World (Memory × List Call)) := rfl
  rw [sameStart] at noted
  rw [noted] at outcome after events output
  refine ⟨outcome, after, events, ?_⟩
  rw [Pipeline.heard, ← Call.join_said]
  exact String.empty_append.symm.trans output

end HsailToolchain
end IsaUsage
