import IsaUsage.Proofs.Run.Congruence

namespace IsaUsage

/-!
# Keeping a record

An action can keep a record in the memory beside what it does. One that `Records`
a plain action does what the plain one does, whatever it puts into the record. One
that `Notes` it also treats the record with care: it adds entries at the end, and
which ones does not depend on those before. One that is `Silent` adds none.
-/

/-- The world with a record beside its memory. -/
def World.withRecord (world : World Memory) (record : List Entry) :
    World (Memory × List Entry) where
  files := world.files
  memory := (world.memory, record)

/-- The world with an empty record beside its memory. -/
def World.recording (world : World Memory) :
    World (Memory × List Entry) where
  files := world.files
  memory := (world.memory, [])

/-- The world without the record. -/
def World.forget (world : World (Memory × List Entry)) : World Memory where
  files := world.files
  memory := world.memory.1

/-- The effect with a record beside its memory. -/
def Effect.withRecord (effect : Effect Memory α) (record : List Entry) :
    Effect (Memory × List Entry) α where
  outcome := effect.outcome
  world := effect.world.withRecord record
  emissions := effect.emissions

/-- The effect without the record. -/
def Effect.forget (effect : Effect (Memory × List Entry) α) :
    Effect Memory α where
  outcome := effect.outcome
  world := effect.world.forget
  emissions := effect.emissions

namespace Action

/-- Do what a plain action does, and add entries to the record. -/
def noting (entries : List Entry) (plain : Action Memory α) :
    Action (Memory × List Entry) α :=
  fun world =>
    (plain world.forget).withRecord (world.memory.2 ++ entries)

/-- An action does what another does, apart from what it records. -/
def Records
    (recording : Action (Memory × List Entry) α)
    (plain : Action Memory α) :
    Prop :=
  ∀ world, (recording world).forget = plain world.forget

namespace Records

section Plain

variable {recording : Action (Memory × List Entry) α} {plain : Action Memory α}

/-- Recording does not change an outcome. -/
theorem outcome_eq
    (records : Records recording plain)
    (world : World Memory) :
    (recording world.recording).outcome = (plain world).outcome :=
  congrArg Effect.outcome (records world.recording)

/-- Recording does not change files. -/
theorem files_eq
    (records : Records recording plain)
    (world : World Memory) :
    (recording world.recording).world.files = (plain world).world.files :=
  congrArg (fun effect => effect.world.files) (records world.recording)

end Plain

/-- Recorded actions in sequence are recorded as a whole. -/
theorem bind
    {recording : Action (Memory × List Entry) α}
    {plain : Action Memory α}
    {recordingNext : α → Action (Memory × List Entry) β}
    {plainNext : α → Action Memory β}
    (records : Records recording plain)
    (nextRecords : ∀ value, Records (recordingNext value) (plainNext value)) :
    Records (recording >>= recordingNext) (plain >>= plainNext) := by
  intro world
  rw [bind_apply, bind_apply, ← records world]
  cases outcome : (recording world).outcome with
  | error failure =>
      simp [Effect.forget, outcome]
  | ok value =>
      have further := nextRecords value (recording world).world
      simp only [Effect.forget, outcome] at further ⊢
      rw [← further]

theorem pure (value : α) :
    Records (pure value : Action (Memory × List Entry) α) (pure value) :=
  fun _ => rfl

theorem log (event : LogEvent) :
    Records (log event : Action (Memory × List Entry) Unit) (log event) :=
  fun _ => rfl

theorem fail (error : RunError) :
    Records (fail error : Action (Memory × List Entry) α) (fail error) :=
  fun _ => rfl

theorem inspect
    (look : FileSystem → Except Failure α)
    (explain : Failure → RunError) :
    Records (inspect look explain : Action (Memory × List Entry) α)
      (inspect look explain) := by
  intro world
  have sameFiles : world.forget.files = world.files := rfl
  unfold Action.inspect
  rw [sameFiles]
  cases look world.files <;> rfl

theorem change
    (edit : FileSystem → Except Failure FileSystem)
    (explain : Failure → RunError) :
    Records (change edit explain : Action (Memory × List Entry) Unit)
      (change edit explain) := by
  intro world
  cases edited : edit world.files <;>
    simp [Action.change, Effect.forget, World.forget, edited]

/-- A choice between two actions is recorded if both are. -/
theorem ite
    {condition : Prop}
    [Decidable condition]
    {recording recordingElse : Action (Memory × List Entry) α}
    {plain plainElse : Action Memory α}
    (records : Records recording plain)
    (elseRecords : Records recordingElse plainElse) :
    Records (if condition then recording else recordingElse)
      (if condition then plain else plainElse) := by
  split
  · exact records
  · exact elseRecords

theorem noting (entries : List Entry) (plain : Action Memory α) :
    Records (plain.noting entries) plain :=
  fun _ => rfl

/-- Recording goes through whatever actions are put together to. -/
theorem isCongruence : IsCongruence (@Records Memory Entry) where
  pure := pure
  bind := bind
  log := log
  logAll := fun _ _ => rfl
  inspect := inspect
  change := change

end Records

/-- What an action puts into an empty record. -/
def entries
    (recording : Action (Memory × List Entry) α)
    (world : World Memory) :
    List Entry :=
  (recording world.recording).world.memory.2

/-- An action does what another does, and leaves any record as it is. -/
def Silent
    (recording : Action (Memory × List Entry) α)
    (plain : Action Memory α) :
    Prop :=
  ∀ world earlier,
    recording (world.withRecord earlier) = (plain world).withRecord earlier

namespace Silent

/-- A silent action notes nothing. -/
theorem entries_eq
    {recording : Action (Memory × List Entry) α}
    {plain : Action Memory α}
    (silent : Silent recording plain)
    (world : World Memory) :
    recording.entries world = [] :=
  congrArg (fun effect => effect.world.memory.2) (silent world [])

theorem noting (plain : Action Memory α) :
    Silent (plain.noting ([] : List Entry)) plain := by
  intro world earlier
  have added : plain.noting [] (world.withRecord earlier) =
      (plain world).withRecord (earlier ++ []) := rfl
  rw [added, List.append_nil]

/-- Silent actions in sequence are silent. -/
theorem bind
    {recording : Action (Memory × List Entry) α}
    {plain : Action Memory α}
    {recordingNext : α → Action (Memory × List Entry) β}
    {plainNext : α → Action Memory β}
    (silent : Silent recording plain)
    (nextSilent : ∀ value, Silent (recordingNext value) (plainNext value)) :
    Silent (recording >>= recordingNext) (plain >>= plainNext) := by
  intro world earlier
  rw [bind_apply, bind_apply, silent world earlier]
  cases outcome : (plain world).outcome with
  | error error =>
      simp [Effect.withRecord, outcome]
  | ok value =>
      have further := nextSilent value (plain world).world earlier
      simp [Effect.withRecord, outcome, further]

theorem inspect
    (look : FileSystem → Except Failure α)
    (explain : Failure → RunError) :
    Silent (inspect look explain : Action (Memory × List Entry) α)
      (inspect look explain) := by
  intro world earlier
  have sameFiles : (world.withRecord earlier).files = world.files := rfl
  unfold Action.inspect
  rw [sameFiles]
  cases look world.files <;> rfl

theorem change
    (edit : FileSystem → Except Failure FileSystem)
    (explain : Failure → RunError) :
    Silent (change edit explain : Action (Memory × List Entry) Unit)
      (change edit explain) := by
  intro world earlier
  have sameFiles : (world.withRecord earlier).files = world.files := rfl
  unfold Action.change
  rw [sameFiles]
  cases edit world.files <;> rfl

/-- Silence goes through whatever actions are put together to. -/
theorem isCongruence : IsCongruence (@Silent Memory Entry) where
  pure := fun _ _ _ => rfl
  bind := bind
  log := fun _ _ _ => rfl
  logAll := fun _ _ _ => rfl
  inspect := inspect
  change := change

end Silent

/-- An action does what another does, and adds entries to any record. -/
def Notes
    (recording : Action (Memory × List Entry) α)
    (plain : Action Memory α) :
    Prop :=
  ∀ world earlier,
    recording (world.withRecord earlier) =
      (plain world).withRecord (earlier ++ recording.entries world)

namespace Notes

/-- What always notes the same entries notes. -/
theorem of_constant
    {recording : Action (Memory × List Entry) α}
    {plain : Action Memory α}
    {added : List Entry}
    (notes : ∀ world earlier,
      recording (world.withRecord earlier) =
        (plain world).withRecord (earlier ++ added)) :
    Notes recording plain := by
  intro world earlier
  have fresh := congrArg (fun effect => effect.world.memory.2) (notes world [])
  have same : recording.entries world = added := fresh
  rw [notes world earlier, same]

/-- What is silent notes, namely nothing. -/
theorem of_silent
    {recording : Action (Memory × List Entry) α}
    {plain : Action Memory α}
    (silent : Silent recording plain) :
    Notes recording plain := by
  intro world earlier
  rw [silent world earlier, silent.entries_eq, List.append_nil]

theorem noting (entries : List Entry) (plain : Action Memory α) :
    Notes (plain.noting entries) plain :=
  of_constant fun _ _ => rfl

section Sequence

variable {recording : Action (Memory × List Entry) α} {plain : Action Memory α}
  {recordingNext : α → Action (Memory × List Entry) β}
  {plainNext : α → Action Memory β}

/-- Two actions in sequence note what both note, unless the first one fails. -/
theorem entries_bind
    (notes : Notes recording plain)
    (nextNotes : ∀ value, Notes (recordingNext value) (plainNext value))
    (world : World Memory) :
    (recording >>= recordingNext).entries world =
      recording.entries world ++
        match (plain world).outcome with
        | .error _ => []
        | .ok value => (recordingNext value).entries (plain world).world := by
  have here : recording world.recording =
      (plain world).withRecord (recording.entries world) :=
    notes world []
  rw [Action.entries, bind_apply, here]
  cases outcome : (plain world).outcome with
  | error error =>
      simp [Effect.withRecord, World.withRecord, outcome]
  | ok value =>
      have further := nextNotes value (plain world).world
        (recording.entries world)
      simp only [Effect.withRecord, outcome]
      exact congrArg (fun effect => effect.world.memory.2) further

/-- What follows an action can only add to what the action notes. -/
theorem entries_bind_isPrefixOf
    {added rest : List Entry}
    {world : World Memory}
    (notes : Notes recording plain)
    (nextNotes : ∀ value, Notes (recordingNext value) (plainNext value))
    (here : recording.entries world = added)
    (there : ∀ value world, (recordingNext value).entries world <+: rest) :
    (recording >>= recordingNext).entries world <+: added ++ rest := by
  rw [entries_bind notes nextNotes, here, List.prefix_append_right_inj]
  split
  · exact List.nil_prefix
  · exact there _ _

/-- What follows an action in silence adds nothing to what it notes. -/
theorem entries_bind_of_silent
    (notes : Notes recording plain)
    (nextSilent : ∀ value, Silent (recordingNext value) (plainNext value))
    (world : World Memory) :
    (recording >>= recordingNext).entries world = recording.entries world := by
  rw [entries_bind notes (fun value => of_silent (nextSilent value))]
  split
  · exact List.append_nil _
  · rw [(nextSilent _).entries_eq, List.append_nil]

/-- Actions in sequence note their entries one after the other. -/
theorem bind
    (notes : Notes recording plain)
    (nextNotes : ∀ value, Notes (recordingNext value) (plainNext value)) :
    Notes (recording >>= recordingNext) (plain >>= plainNext) := by
  intro world earlier
  rw [entries_bind notes nextNotes, bind_apply, bind_apply,
    notes world earlier]
  cases outcome : (plain world).outcome with
  | error error =>
      simp [Effect.withRecord, outcome]
  | ok value =>
      have further := nextNotes value (plain world).world
        (earlier ++ recording.entries world)
      simp [Effect.withRecord, outcome, further, List.append_assoc]

end Sequence

theorem inspect
    (look : FileSystem → Except Failure α)
    (explain : Failure → RunError) :
    Notes (inspect look explain : Action (Memory × List Entry) α)
      (inspect look explain) :=
  of_silent (Silent.inspect look explain)

theorem change
    (edit : FileSystem → Except Failure FileSystem)
    (explain : Failure → RunError) :
    Notes (change edit explain : Action (Memory × List Entry) Unit)
      (change edit explain) :=
  of_silent (Silent.change edit explain)

/-- Noting goes through whatever actions are put together to. -/
theorem isCongruence : IsCongruence (@Notes Memory Entry) where
  pure := fun _ => of_silent fun _ _ => rfl
  bind := bind
  log := fun _ => of_silent fun _ _ => rfl
  logAll := fun _ => of_silent fun _ _ => rfl
  inspect := inspect
  change := change

end Notes
end Action
end IsaUsage
