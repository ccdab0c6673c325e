import IsaUsage.Tool.Script
import IsaUsage.Toolchain.Hsail

namespace IsaUsage

/-!
# Tools that translate one file into another

A tool translates when everything it does follows from the bytes of its input:
how it ends, what it prints, and what it leaves at its output, which is a plain
file or nothing, so neither a directory nor a program. It changes nothing else.
What it does when its input is missing, or when there is something at its output
already, is left open. Tools that copy are the simplest ones
(`Machine.copying_translates`).
-/

namespace Machine

/-- What a start of a tool does follows from its input and stays at its output. -/
structure Translates
    (machine : Machine Memory)
    (invocation : Invocation)
    (input output : Location) :
    Prop where
  memory_eq :
    ∀ world, (machine.behave invocation world).2.memory = world.memory
  find?_eq :
    ∀ world location,
      location ≠ output →
        (machine.behave invocation world).2.files.find? location =
          world.files.find? location
  /-- The bytes of the input decide on the end, and on the plain file written. -/
  determined :
    ∃ (exit : ByteArray → ToolExit) (written : ByteArray → Option ByteArray),
      ∀ world bytes isProgram,
        world.files.find? input = some (.file bytes isProgram) →
          world.files.find? output = none →
            (machine.behave invocation world).1 = exit bytes ∧
              (machine.behave invocation world).2.files.find? output =
                (written bytes).map fun contents => .file contents false

/-- The name of the file that a copying tool writes. -/
def copyName (invocation : Invocation) : String :=
  match invocation.arguments with
  | [_] => "isa.txt"
  | _ =>
      ToolchainConfig.fileName (Script.stem (Script.lastArgument invocation))
        "brig"

/--
A machine whose tools copy the file that their last argument names: with one
argument into a report, with more into a binary.
-/
def copying (searchPath : List Path) : Machine Memory where
  workingDirectory := []
  searchPath := searchPath
  environment := .empty
  behaveIn _ invocation world :=
    let input := invocation.directory ++ [Script.lastArgument invocation]
    match world.files.find? input with
    | some (.file contents _) =>
        (⟨.exited 0, ByteArray.empty, ByteArray.empty⟩,
          { world with
            files := world.files.put
              (invocation.directory ++ [copyName invocation])
              (.file contents false) })
    | _ => (⟨.exited 1, ByteArray.empty, ByteArray.empty⟩, world)

theorem copying_translates
    (searchPath : List Path)
    (invocation : Invocation) :
    (copying searchPath : Machine Memory).Translates invocation
      (invocation.directory ++ [Script.lastArgument invocation])
      (invocation.directory ++ [copyName invocation]) where
  memory_eq := by
    intro world
    unfold behave copying
    dsimp only
    split <;> rfl
  find?_eq := by
    intro world location different
    unfold behave copying
    dsimp only
    split
    · exact (FileSystem.find?_put _ _ _ _).trans (if_neg different.symm)
    · rfl
  determined := by
    refine ⟨fun _ => ⟨.exited 0, ByteArray.empty, ByteArray.empty⟩, some, ?_⟩
    intro world bytes _ given _
    unfold behave copying
    dsimp only
    rw [given]
    exact ⟨rfl, by simp⟩

end Machine

/-- A directory to work in, and one with tools of the usual names. -/
def FileSystem.workshop : FileSystem :=
  (((FileSystem.empty.put ["bin"] .directory).put ["w"] .directory).put
    ["bin", "cloc.sh"] (.file ByteArray.empty true)).put
    ["bin", "finalizer_dumper"] (.file ByteArray.empty true)

/-- Tools of given names, on a machine where they copy. -/
def HsailToolchain.copyingTools (compiler finalizer : Path) :
    HsailToolchain Memory where
  config := { compiler := compiler, finalizer := finalizer }
  machine := Machine.copying [⟨"/bin"⟩]

/-- The tools of the workshop. -/
def HsailToolchain.copying : HsailToolchain Memory :=
  copyingTools ⟨"cloc.sh"⟩ ⟨"finalizer_dumper"⟩

end IsaUsage
