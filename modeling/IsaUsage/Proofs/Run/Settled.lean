import IsaUsage.Proofs.Run.Action

namespace IsaUsage.Action

/-!
# Settled actions

An action is settled, for worlds whose files meet a condition, when it comes to
the same outcome from all of them. It then also keeps the memory, changes files
at certain locations only, and leaves files that meet another condition unless it
fails. Actions that are settled one after the other are settled together
(`Settled.bind`).
-/

/-- From every world that meets a condition the outcome is the given one. -/
structure Settles
    (before : FileSystem → Prop)
    (action : Action Memory α)
    (outcome : Except RunError α)
    (touched : List Location)
    (after : α → FileSystem → Prop) :
    Prop where
  outcome_eq :
    ∀ world : World Memory,
      before world.files → (action world).outcome = outcome
  memory_eq :
    ∀ world : World Memory,
      before world.files → (action world).world.memory = world.memory
  untouched :
    ∀ world : World Memory,
      before world.files →
        ∀ location ∉ touched,
          (action world).world.files.find? location =
            world.files.find? location
  reached :
    ∀ world : World Memory,
      before world.files →
        ∀ value, outcome = .ok value → after value (action world).world.files

/-- From every world that meets a condition the outcome is the same. -/
def Settled
    (before : FileSystem → Prop)
    (action : Action Memory α)
    (touched : List Location)
    (after : α → FileSystem → Prop) :
    Prop :=
  ∃ outcome, Settles before action outcome touched after

namespace Settled

variable {before : FileSystem → Prop} {action : Action Memory α}
  {next : α → Action Memory β} {touched : List Location}

/-- An action that fails without a trace is settled. -/
theorem of_error
    {after : α → FileSystem → Prop}
    (error : RunError)
    (failed : ∀ world : World Memory,
      before world.files →
        (action world).outcome = .error error ∧
          (action world).world = world) :
    Settled before action touched after := by
  refine ⟨.error error, ?_, ?_, ?_, ?_⟩
  · intro world ready
    exact (failed world ready).1
  · intro world ready
    rw [(failed world ready).2]
  · intro world ready location _
    rw [(failed world ready).2]
  · intro world ready value done
    contradiction

/-- An action is settled that does the same wherever it is allowed. -/
theorem of_ok
    {after : α → FileSystem → Prop}
    (value : α)
    (done : ∀ world : World Memory,
      before world.files →
        (action world).outcome = .ok value ∧
          (action world).world.memory = world.memory)
    (untouched : ∀ world : World Memory,
      before world.files →
        ∀ location ∉ touched,
          (action world).world.files.find? location =
            world.files.find? location)
    (reached : ∀ world : World Memory,
      before world.files → after value (action world).world.files) :
    Settled before action touched after := by
  refine ⟨.ok value, fun world ready => (done world ready).1,
    fun world ready => (done world ready).2, untouched, ?_⟩
  intro world ready other same
  cases same
  exact reached world ready

/-- An action that changes nothing and gives a value. -/
theorem of_still
    {after : α → FileSystem → Prop}
    (value : α)
    (still : ∀ world : World Memory,
      before world.files →
        (action world).outcome = .ok value ∧ (action world).world = world)
    (reached : ∀ files, before files → after value files) :
    Settled before action touched after := by
  refine of_ok value
    (fun world ready =>
      ⟨(still world ready).1, by rw [(still world ready).2]⟩) ?_ ?_
  · intro world ready location _
    rw [(still world ready).2]
  · intro world ready
    rw [(still world ready).2]
    exact reached world.files ready

theorem pure (value : α) :
    Settled before (pure value : Action Memory α) touched
      fun result files => result = value ∧ before files :=
  of_still value (fun _ _ => ⟨rfl, rfl⟩) fun _ ready => ⟨rfl, ready⟩

theorem log (event : LogEvent) :
    Settled before (log event : Action Memory Unit) touched fun _ => before :=
  of_still () (fun _ _ => ⟨rfl, rfl⟩) fun _ => id

/-- A look that shows the same in all worlds. -/
theorem inspect
    {look : FileSystem → Except Failure α}
    {explain : Failure → RunError}
    (shown : Except Failure α)
    (same : ∀ files, before files → look files = shown) :
    Settled before (inspect look explain : Action Memory α) touched
      fun _ => before := by
  cases shown with
  | error failure =>
      apply of_error (explain failure)
      intro world ready
      simp [Action.inspect, same _ ready]
  | ok value =>
      apply of_still value
      · intro world ready
        simp [Action.inspect, same _ ready]
      · exact fun _ => id

/-- A change that is refused in all worlds for one reason. -/
theorem change_of_error
    {edit : FileSystem → Except Failure FileSystem}
    {explain : Failure → RunError}
    {after : Unit → FileSystem → Prop}
    (failure : Failure)
    (refused : ∀ files, before files → edit files = .error failure) :
    Settled before (change edit explain : Action Memory Unit) touched
      after := by
  apply of_error (explain failure)
  intro world ready
  rw [Action.change_of_error (refused _ ready)]
  exact ⟨rfl, rfl⟩

/-- A change that is made in all worlds, at certain locations only. -/
theorem change_of_ok
    {edit : FileSystem → Except Failure FileSystem}
    {explain : Failure → RunError}
    {after : Unit → FileSystem → Prop}
    (edited : FileSystem → FileSystem)
    (made : ∀ files, before files → edit files = .ok (edited files))
    (untouched : ∀ files, before files → ∀ location ∉ touched,
      (edited files).find? location = files.find? location)
    (reached : ∀ files, before files → after () (edited files)) :
    Settled before (change edit explain : Action Memory Unit) touched
      after := by
  apply of_ok ()
  · intro world ready
    rw [Action.change_of_ok (made _ ready)]
    exact ⟨rfl, rfl⟩
  · intro world ready
    rw [Action.change_of_ok (made _ ready)]
    exact untouched _ ready
  · intro world ready
    rw [Action.change_of_ok (made _ ready)]
    exact reached _ ready

/-- No world has to be looked at if none meets the condition. -/
theorem of_never
    {after : α → FileSystem → Prop}
    (never : ∀ files, ¬ before files) :
    Settled before action touched after :=
  ⟨.error (.failed .notUtf8), fun world ready => (never world.files ready).elim,
    fun world ready => (never world.files ready).elim,
    fun world ready => (never world.files ready).elim,
    fun world ready => (never world.files ready).elim⟩

/-- A condition can ask for what does not depend on the files. -/
theorem of_fact
    {fact : Prop}
    {after : α → FileSystem → Prop}
    (settled : fact → Settled before action touched after) :
    Settled (fun files => fact ∧ before files) action touched after := by
  by_cases given : fact
  · obtain ⟨outcome, settles⟩ := settled given
    exact ⟨outcome, fun world ready => settles.outcome_eq world ready.2,
      fun world ready => settles.memory_eq world ready.2,
      fun world ready => settles.untouched world ready.2,
      fun world ready => settles.reached world ready.2⟩
  · exact of_never fun files ready => given ready.1

/-- Less may be asked of a settled action, and more granted. -/
theorem weaken
    {stronger : FileSystem → Prop}
    {wider : List Location}
    {after weaker : α → FileSystem → Prop}
    (settled : Settled before action touched after)
    (implies : ∀ files, stronger files → before files)
    (includes : ∀ location ∈ touched, location ∈ wider)
    (implied : ∀ value files, after value files → weaker value files) :
    Settled stronger action wider weaker := by
  rcases settled with ⟨outcome, settles⟩
  refine ⟨outcome, ?_, ?_, ?_, ?_⟩
  · intro world ready
    exact settles.outcome_eq world (implies _ ready)
  · intro world ready
    exact settles.memory_eq world (implies _ ready)
  · intro world ready location notTouched
    exact settles.untouched world (implies _ ready) location
      fun member => notTouched (includes location member)
  · intro world ready value done
    exact implied value _ (settles.reached world (implies _ ready) value done)

/-- Two settled actions in sequence are settled. -/
theorem bind
    {middle : α → FileSystem → Prop}
    {after : β → FileSystem → Prop}
    (first : Settled before action touched middle)
    (second : ∀ value, Settled (middle value) (next value) touched after) :
    Settled before (action >>= next) touched after := by
  rcases first with ⟨outcome, settles⟩
  cases outcome with
  | error error =>
      have failed (world : World Memory) (ready : before world.files) :=
        @bind_of_error _ _ _ _ next _ _ (settles.outcome_eq world ready)
      refine ⟨.error error, ?_, ?_, ?_, ?_⟩
      · intro world ready
        exact (failed world ready).1
      · intro world ready
        rw [(failed world ready).2]
        exact settles.memory_eq world ready
      · intro world ready
        rw [(failed world ready).2]
        exact settles.untouched world ready
      · intro world ready value done
        contradiction
  | ok value =>
      obtain ⟨result, further⟩ := second value
      have reached (world : World Memory) (ready : before world.files) :=
        settles.reached world ready value rfl
      have continued (world : World Memory) (ready : before world.files) :=
        @bind_of_ok _ _ _ _ next _ _ (settles.outcome_eq world ready)
      refine ⟨result, ?_, ?_, ?_, ?_⟩
      · intro world ready
        rw [(continued world ready).1]
        exact further.outcome_eq _ (reached world ready)
      · intro world ready
        rw [(continued world ready).2,
          further.memory_eq _ (reached world ready)]
        exact settles.memory_eq world ready
      · intro world ready location notTouched
        rw [(continued world ready).2,
          further.untouched _ (reached world ready) location notTouched]
        exact settles.untouched world ready location notTouched
      · intro world ready
        rw [(continued world ready).2]
        exact further.reached _ (reached world ready)

/-- What follows an action that always fails does not matter. -/
theorem bind_of_failing
    {after : β → FileSystem → Prop}
    (first : Settled before action touched fun _ _ => False) :
    Settled before (action >>= next) touched after :=
  first.bind fun _ => of_never fun _ => id

/-- What always follows a settled action may be known to fail. -/
theorem bind_ne_ok
    {middle : α → FileSystem → Prop}
    (first : Settled before action touched middle)
    (second : ∀ value (world : World Memory),
      middle value world.files →
        ∀ result, (next value world).outcome ≠ .ok result)
    {world : World Memory}
    (ready : before world.files)
    (result : β) :
    ((action >>= next) world).outcome ≠ .ok result := by
  rcases first with ⟨outcome, settles⟩
  have here := settles.outcome_eq world ready
  cases outcome with
  | error error =>
      rw [(bind_of_error here).1]
      intro done
      contradiction
  | ok value =>
      rw [(bind_of_ok here).1]
      exact second value _ (settles.reached world ready value rfl) result

end Settled
end IsaUsage.Action
