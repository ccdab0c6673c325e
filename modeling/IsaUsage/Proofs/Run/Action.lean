import IsaUsage.Run.Action

namespace IsaUsage.Action

/-!
# What actions come to

An action made of others succeeds only if all of them do, and fails with the first
that fails.
-/

/-- After a failure nothing more is done. -/
theorem bind_of_error
    {action : Action Memory α}
    {next : α → Action Memory β}
    {world : World Memory}
    {error : RunError}
    (failed : (action world).outcome = .error error) :
    ((action >>= next) world).outcome = .error error ∧
      ((action >>= next) world).world = (action world).world := by
  rw [bind_apply, failed]
  exact ⟨rfl, rfl⟩

/-- What follows a success starts from the world it left. -/
theorem bind_of_ok
    {action : Action Memory α}
    {next : α → Action Memory β}
    {world : World Memory}
    {value : α}
    (done : (action world).outcome = .ok value) :
    ((action >>= next) world).outcome =
        (next value (action world).world).outcome ∧
      ((action >>= next) world).world =
        (next value (action world).world).world := by
  rw [bind_apply, done]
  exact ⟨rfl, rfl⟩

/-- What only looks at a world leaves it as the action before has left it. -/
theorem world_bind_of_still
    {action : Action Memory α}
    {next : α → Action Memory β}
    (still : ∀ value world, (next value world).world = world)
    (world : World Memory) :
    ((action >>= next) world).world = (action world).world := by
  cases outcome : (action world).outcome with
  | error error =>
      exact (bind_of_error outcome).2
  | ok value =>
      exact (bind_of_ok outcome).2.trans (still value _)

/-- A sequence of actions gives a value only if every one of them does. -/
theorem bind_eq_ok
    {action : Action Memory α}
    {next : α → Action Memory β}
    {world : World Memory}
    {result : β}
    (done : ((action >>= next) world).outcome = .ok result) :
    ∃ value,
      (action world).outcome = .ok value ∧
        (next value (action world).world).outcome = .ok result ∧
        ((action >>= next) world).world =
          (next value (action world).world).world := by
  cases outcome : (action world).outcome with
  | error error =>
      rw [(bind_of_error outcome).1] at done
      contradiction
  | ok value =>
      obtain ⟨sameOutcome, sameWorld⟩ := @bind_of_ok _ _ _ _ next _ _ outcome
      exact ⟨value, rfl, sameOutcome.symm.trans done, sameWorld⟩

/-- A sequence of actions fails with the first of them that does. -/
theorem bind_eq_error
    {action : Action Memory α}
    {next : α → Action Memory β}
    {world : World Memory}
    {error : RunError}
    (failed : ((action >>= next) world).outcome = .error error) :
    (action world).outcome = .error error ∧
        ((action >>= next) world).world = (action world).world ∨
      ∃ value,
        (action world).outcome = .ok value ∧
          (next value (action world).world).outcome = .error error ∧
          ((action >>= next) world).world =
            (next value (action world).world).world := by
  cases outcome : (action world).outcome with
  | error other =>
      obtain ⟨sameOutcome, sameWorld⟩ := @bind_of_error _ _ _ _ next _ _ outcome
      rw [sameOutcome] at failed
      cases failed
      exact Or.inl ⟨rfl, sameWorld⟩
  | ok value =>
      obtain ⟨sameOutcome, sameWorld⟩ := @bind_of_ok _ _ _ _ next _ _ outcome
      exact Or.inr ⟨value, rfl, sameOutcome.symm.trans failed, sameWorld⟩

/-- An edit that fails changes nothing. -/
theorem change_of_error
    {edit : FileSystem → Except Failure FileSystem}
    {explain : Failure → RunError}
    {world : World Memory}
    {failure : Failure}
    (edited : edit world.files = .error failure) :
    Action.change edit explain world =
      ⟨.error (explain failure), world, []⟩ := by
  simp [Action.change, edited]

/-- An edit that succeeds changes the files and nothing else. -/
theorem change_of_ok
    {edit : FileSystem → Except Failure FileSystem}
    {explain : Failure → RunError}
    {world : World Memory}
    {files : FileSystem}
    (edited : edit world.files = .ok files) :
    Action.change edit explain world =
      ⟨.ok (), { world with files := files }, []⟩ := by
  simp [Action.change, edited]

/-- An edit is not remembered. -/
theorem memory_change
    (edit : FileSystem → Except Failure FileSystem)
    (explain : Failure → RunError)
    (world : World Memory) :
    (change edit explain world).world.memory = world.memory := by
  unfold change
  split <;> rfl

/-- A change succeeds only if its edit does. -/
theorem change_eq_ok
    {edit : FileSystem → Except Failure FileSystem}
    {explain : Failure → RunError}
    {world : World Memory}
    (changed : (change edit explain world).outcome = .ok ()) :
    ∃ files, edit world.files = .ok files := by
  cases edited : edit world.files with
  | ok files =>
      exact ⟨files, rfl⟩
  | error failure =>
      rw [change_of_error edited] at changed
      contradiction

/-- A change that is refused changes nothing. -/
theorem world_change_of_error
    {edit : FileSystem → Except Failure FileSystem}
    {explain : Failure → RunError}
    {world : World Memory}
    {error : RunError}
    (failed : (change edit explain world).outcome = .error error) :
    (change edit explain world).world = world := by
  unfold change at failed ⊢
  split
  · rfl
  · rename_i edited
    rw [edited] at failed
    contradiction

/-- A look that fails changes nothing. -/
theorem inspect_of_error
    {look : FileSystem → Except Failure α}
    {explain : Failure → RunError}
    {world : World Memory}
    {failure : Failure}
    (looked : look world.files = .error failure) :
    inspect look explain world = ⟨.error (explain failure), world, []⟩ := by
  simp [inspect, looked]

/-- A look that succeeds changes nothing. -/
theorem inspect_of_ok
    {look : FileSystem → Except Failure α}
    {explain : Failure → RunError}
    {world : World Memory}
    {value : α}
    (looked : look world.files = .ok value) :
    inspect look explain world = ⟨.ok value, world, []⟩ := by
  simp [inspect, looked]

/-- An inspection succeeds only if its look does. -/
theorem inspect_eq_ok
    {look : FileSystem → Except Failure α}
    {explain : Failure → RunError}
    {world : World Memory}
    {value : α}
    (looked : (inspect look explain world).outcome = .ok value) :
    look world.files = .ok value := by
  unfold inspect at looked
  split at looked
  · contradiction
  · rename_i found
    cases looked
    exact found

@[simp] theorem world_inspect
    (look : FileSystem → Except Failure α)
    (explain : Failure → RunError)
    (world : World Memory) :
    (inspect look explain world).world = world := by
  unfold inspect
  split <;> rfl

end IsaUsage.Action
