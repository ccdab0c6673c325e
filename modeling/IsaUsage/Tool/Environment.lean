namespace IsaUsage

/-!
# Environment variables

The programs read a few environment variables, and the tools that they start
inherit them. All other variables stay as they are on a machine, so what a tool
makes of those belongs to what it does there.
-/

/-- The environment variables that matter. -/
structure Environment where
  compiler : Option String
  finalizer : Option String
  logDirectives : Option String
  colorForce : Option String
  deriving DecidableEq

namespace Environment

/-- The environment in which none of the variables is set. -/
def empty : Environment := ⟨none, none, none, none⟩

/-- Ask for the variables by their names. -/
def ofVariables [Monad m] (value? : String → m (Option String)) :
    m Environment := do
  return {
    compiler := ← value? "KERNEL_SPLITTER_COMPILER"
    finalizer := ← value? "KERNEL_SPLITTER_FINALIZER"
    logDirectives := ← value? "RUST_LOG"
    colorForce := ← value? "CLICOLOR_FORCE"
  }

/-- Whether names are highlighted although the output is no terminal. -/
def wantsColor (environment : Environment) : Bool :=
  match environment.colorForce with
  | some value => value ≠ "0"
  | none => false

end Environment
end IsaUsage
