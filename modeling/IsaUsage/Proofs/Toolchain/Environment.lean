import IsaUsage.Proofs.Toolchain.Job

namespace IsaUsage

/-!
# Tools in two environments

Tools inherit the environment that the programs read, so a build can come to
something else in another environment. It does not if each of the two tools does the
same in both, however it is started (`HsailToolchain.toToolchain_inEnvironment`).
-/

/-- A tool does the same in two environments, wherever and whenever it is started. -/
def Machine.ActsAlike
    (machine : Machine Memory)
    (tool : Path)
    (arguments : List String)
    (left right : Environment) :
    Prop :=
  ∀ files directory invocation,
    machine.invocation files tool arguments directory = .ok invocation →
      ∀ world,
        machine.behaveIn left invocation world =
          machine.behaveIn right invocation world

namespace Machine

variable {machine : Machine Memory} {tool : Path} {arguments : List String}
  {left right : Environment}

/-- A tool that does the same in two environments is run alike in both. -/
theorem run_inEnvironment
    (alike : machine.ActsAlike tool arguments left right)
    (directory : Path) :
    (machine.inEnvironment left).run tool arguments directory =
      (machine.inEnvironment right).run tool arguments directory := by
  funext world
  have sameInvocation (environment : Environment) :
      (machine.inEnvironment environment).invocation world.files tool arguments
          directory =
        machine.invocation world.files tool arguments directory :=
    rfl
  unfold run
  rw [sameInvocation, sameInvocation]
  cases invoked : machine.invocation world.files tool arguments directory with
  | error failure =>
      rfl
  | ok invocation =>
      have same := alike world.files directory invocation invoked world
      simp only [behave, inEnvironment, same]

/-- Recording the tools has no say in whether they act alike. -/
theorem ActsAlike.recorded
    (alike : machine.ActsAlike tool arguments left right) :
    machine.recorded.ActsAlike tool arguments left right := by
  intro files directory invocation invoked world
  have same := alike files directory invocation invoked world.forget
  simp only [Machine.recorded, same]

end Machine

namespace HsailToolchain

variable {toolchain : HsailToolchain Memory} {left right : Environment}

/-- The same tools in another environment. -/
def inEnvironment
    (toolchain : HsailToolchain Memory)
    (environment : Environment) :
    HsailToolchain Memory :=
  { toolchain with machine := toolchain.machine.inEnvironment environment }

/-- Both tools do the same in two environments, whatever kernel they build. -/
structure ActsAlike
    (toolchain : HsailToolchain Memory)
    (left right : Environment) :
    Prop where
  compiler :
    ∀ kernel,
      toolchain.machine.ActsAlike toolchain.config.compiler
        (toolchain.config.compilerArguments kernel) left right
  finalizer :
    ∀ kernel,
      toolchain.machine.ActsAlike toolchain.config.finalizer
        (toolchain.config.finalizerArguments kernel) left right

/-- Recording the tools has no say in whether both act alike. -/
theorem ActsAlike.recorded (alike : toolchain.ActsAlike left right) :
    toolchain.recorded.ActsAlike left right where
  compiler := fun kernel => (alike.compiler kernel).recorded
  finalizer := fun kernel => (alike.finalizer kernel).recorded

/-- An output is produced alike by a tool that does the same. -/
theorem produce_inEnvironment
    {tool : Path}
    {arguments : List String}
    (alike : toolchain.machine.ActsAlike tool arguments left right)
    (output : Path)
    (kernel : String)
    (directory : Path) :
    (toolchain.inEnvironment left).produce output tool arguments kernel
        directory =
      (toolchain.inEnvironment right).produce output tool arguments kernel
        directory := by
  have sameRun : (toolchain.inEnvironment left).runTool tool arguments kernel
      directory =
        (toolchain.inEnvironment right).runTool tool arguments kernel
          directory := by
    unfold runTool
    have run := Machine.run_inEnvironment alike directory
    exact congrArg (fun run : Action _ ToolExit => do
      Action.log (.toolStarting tool.text arguments kernel)
      let exit ← run
      notePrinted tool kernel exit
      requireSuccess tool kernel exit) run
  unfold produce
  rw [sameRun]
  rfl

/-- A kernel is built alike by tools that do the same. -/
theorem isaReport_inEnvironment
    (alike : toolchain.ActsAlike left right)
    (kernel : String)
    (directory : Path) :
    (toolchain.inEnvironment left).isaReport kernel directory =
      (toolchain.inEnvironment right).isaReport kernel directory := by
  have compiled : (toolchain.inEnvironment left).compile kernel directory =
      (toolchain.inEnvironment right).compile kernel directory :=
    produce_inEnvironment (alike.compiler kernel) _ _ _
  have finalized : (toolchain.inEnvironment left).finalize kernel directory =
      (toolchain.inEnvironment right).finalize kernel directory :=
    produce_inEnvironment (alike.finalizer kernel) _ _ _
  unfold isaReport
  rw [compiled, finalized]
  rfl

/-- Tools that do the same in two environments are one toolchain. -/
theorem toToolchain_inEnvironment (alike : toolchain.ActsAlike left right) :
    (toolchain.inEnvironment left).toToolchain =
      (toolchain.inEnvironment right).toToolchain := by
  have sameReport : (toolchain.inEnvironment left).isaReport =
      (toolchain.inEnvironment right).isaReport := by
    funext kernel directory
    exact isaReport_inEnvironment alike kernel directory
  unfold toToolchain
  rw [sameReport]
  rfl

end HsailToolchain
end IsaUsage
