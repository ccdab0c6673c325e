import IsaUsage.File.System
import IsaUsage.Run.Error
import IsaUsage.Run.Log

namespace IsaUsage

/-!
# Actions

An action changes the world, and it either gives a value or fails; what it
changed before it failed stays changed. On the way it emits events for the log
and text for the standard output, which no later action can look at.

The world is the file system together with a memory of any type: whatever the
tools, the toolchain or the caller want to remember between actions.
-/

/-- What an action can look at and change. -/
structure World (Memory : Type) where
  files : FileSystem
  memory : Memory

/-- What an action tells the outside. -/
inductive Emission where
  | logged (event : LogEvent)
  | printed (text : String)
  deriving DecidableEq

/-- What an action comes to. -/
structure Effect (Memory α : Type) where
  outcome : Except RunError α
  world : World Memory
  emissions : List Emission

namespace Effect

/-- The events of an effect in order. -/
def events (effect : Effect Memory α) : List LogEvent :=
  effect.emissions.filterMap fun
    | .logged event => some event
    | .printed _ => none

/-- The text that an effect prints. -/
def output (effect : Effect Memory α) : String :=
  String.join <| effect.emissions.filterMap fun
    | .logged _ => none
    | .printed text => some text

end Effect

/-- A step of a run: from a world to what comes of it. -/
def Action (Memory α : Type) : Type :=
  World Memory → Effect Memory α

namespace Action

/-- Give a value and do nothing. -/
protected def pure (value : α) : Action Memory α :=
  fun world => ⟨.ok value, world, []⟩

/-- Go on with the value of an action, unless the action fails. -/
protected def bind
    (action : Action Memory α)
    (next : α → Action Memory β) :
    Action Memory β :=
  fun world =>
    let first := action world
    match first.outcome with
    | .error error => ⟨.error error, first.world, first.emissions⟩
    | .ok value =>
        let second := next value first.world
        ⟨second.outcome, second.world, first.emissions ++ second.emissions⟩

instance : Monad (Action Memory) where
  pure := Action.pure
  bind := Action.bind

/-- Doing nothing gives the value at once. -/
@[simp] theorem pure_apply (value : α) (world : World Memory) :
    (pure value : Action Memory α) world = ⟨.ok value, world, []⟩ :=
  rfl

/-- Two actions in sequence share one world and join their emissions. -/
theorem bind_apply
    (action : Action Memory α)
    (next : α → Action Memory β)
    (world : World Memory) :
    (action >>= next) world =
      match (action world).outcome with
      | .error error =>
          ⟨.error error, (action world).world, (action world).emissions⟩
      | .ok value =>
          ⟨(next value (action world).world).outcome,
            (next value (action world).world).world,
            (action world).emissions ++
              (next value (action world).world).emissions⟩ :=
  rfl

instance : LawfulMonad (Action Memory) := LawfulMonad.mk' _
  (by
    intro α action
    funext world
    show Action.bind action Action.pure world = action world
    unfold Action.bind Action.pure
    generalize action world = first
    rcases first with ⟨_ | value, after, emitted⟩ <;> simp)
  (by
    intro α β value next
    funext world
    show Action.bind (Action.pure value) next world = next value world
    simp [Action.bind, Action.pure])
  (by
    intro α β γ action next last
    funext world
    show Action.bind (Action.bind action next) last world =
      Action.bind action (fun value => Action.bind (next value) last) world
    unfold Action.bind
    generalize action world = first
    rcases first with ⟨_ | value, after, emitted⟩
    · rfl
    · dsimp only
      generalize next value after = second
      rcases second with ⟨_ | result, later, emittedLater⟩ <;> simp)

/-- Fail at once. -/
def fail (error : RunError) : Action Memory α :=
  fun world => ⟨.error error, world, []⟩

/-- Emit an event. -/
def log (event : LogEvent) : Action Memory Unit :=
  fun world => ⟨.ok (), world, [.logged event]⟩

/-- Emit several events in order. -/
def logAll (events : List LogEvent) : Action Memory Unit :=
  fun world => ⟨.ok (), world, events.map .logged⟩

/-- Print a text. -/
def print (text : String) : Action Memory Unit :=
  fun world => ⟨.ok (), world, [.printed text]⟩

/-- Look at the file system; a failure becomes an error of the run. -/
def inspect
    (look : FileSystem → Except Failure α)
    (explain : Failure → RunError) :
    Action Memory α :=
  fun world =>
    match look world.files with
    | .error failure => ⟨.error (explain failure), world, []⟩
    | .ok value => ⟨.ok value, world, []⟩

/-- Change the file system; a failure becomes an error of the run. -/
def change
    (edit : FileSystem → Except Failure FileSystem)
    (explain : Failure → RunError) :
    Action Memory Unit :=
  fun world =>
    match edit world.files with
    | .error failure => ⟨.error (explain failure), world, []⟩
    | .ok files => ⟨.ok (), { world with files := files }, []⟩

end Action
end IsaUsage
