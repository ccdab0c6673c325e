import IsaUsage.Run.Action

namespace IsaUsage

/-!
# Toolchains

A toolchain turns the source of one kernel, written at an agreed path, into a
report on the machine code. How it does so is up to it, and whatever it is asked
may change the world.
-/

/-- What builds kernels. -/
structure Toolchain (Memory : Type) where
  /-- The command that compiles a kernel, as it is shown. -/
  commandLine : String → Action Memory String
  /-- Where the source of a kernel is expected, for an output directory. -/
  sourcePath : Path → String → Action Memory Path
  /-- Build a kernel in an output directory and say where its report is. -/
  isaReport : String → Path → Action Memory Path

end IsaUsage
