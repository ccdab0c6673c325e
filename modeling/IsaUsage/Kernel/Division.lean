import IsaUsage.Kernel.Declaration
import IsaUsage.Run.Log
import IsaUsage.Text.Line

namespace IsaUsage

/-!
# Dividing a document

The pieces of a text are taken one after the other. A piece that declares a
kernel closes the block before it and opens the next; any other piece goes to
the open block, or to the preamble as long as no block is open. At the end the
last block is closed.
-/

/-- A division under way, with the block that further lines belong to. -/
structure Division where
  finished : Document
  openBlock : Option KernelBlock
  events : List LogEvent

namespace Division

/-- Before the first line. -/
def start : Division where
  finished := ⟨"", []⟩
  openBlock := none
  events := []

/-- The document that there is if no more lines come. -/
def closed (division : Division) : Document :=
  match division.openBlock with
  | none => division.finished
  | some block =>
      { division.finished with
        kernels := division.finished.kernels ++ [block] }

/-- Take a line that declares a kernel: it closes a block and opens one. -/
def declare (division : Division) (name line : String) : Division :=
  let document := division.closed
  let repeated :=
    if name ∈ document.names then [LogEvent.nameRepeated name] else []
  {
    finished := document
    openBlock := some ⟨name, line⟩
    events := division.events ++ .declarationFound name :: repeated
  }

/-- Take a line that declares nothing. -/
def extend (division : Division) (line : String) : Division :=
  match division.openBlock with
  | none =>
      let document := division.finished
      { division with
        finished := { document with preamble := document.preamble ++ line } }
  | some block =>
      { division with
        openBlock := some { block with body := block.body ++ line } }

/-- Take one line. -/
def step (division : Division) (line : String) : Division :=
  match Declaration.kernelName? line with
  | some name => division.declare name line
  | none => division.extend line

/-- Take lines in order. -/
def run (division : Division) (lines : List String) : Division :=
  lines.foldl step division

/-- The division of a whole text. -/
def ofText (source : String) : Division :=
  start.run (Text.pieces source)

/-- What was noted, and that nothing was found if so it is. -/
def log (division : Division) : List LogEvent :=
  division.events ++
    if division.closed.isEmpty then [.noDeclarations] else []

end Division

/-- Divide a text into its preamble and its kernels. -/
def Document.split (source : String) : Document :=
  (Division.ofText source).closed

end IsaUsage
