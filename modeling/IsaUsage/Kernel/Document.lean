namespace IsaUsage

/-!
# Documents with many kernels

A document begins with a preamble that all its kernels share. Each line that
declares a kernel opens a block, and a block runs up to the next such line or
to the end. The pieces keep their line terminators, so that the preamble and
the blocks in order make up the whole document again.
-/

/-- The lines that belong to one kernel, its declaration first. -/
structure KernelBlock where
  name : String
  body : String
  deriving DecidableEq

/-- A preamble and the kernels after it. -/
structure Document where
  preamble : String
  kernels : List KernelBlock
  deriving DecidableEq

/-- The text from which one kernel can be built alone. -/
def KernelBlock.artifact (block : KernelBlock) (preamble : String) : String :=
  preamble ++ block.body

namespace Document

/-- Whether a document declares no kernels. -/
def isEmpty (document : Document) : Bool :=
  document.kernels.isEmpty

/-- The names of the kernels in order. -/
def names (document : Document) : List String :=
  document.kernels.map KernelBlock.name

/-- The name and the stand-alone text of every kernel, in order. -/
def artifacts (document : Document) : List (String × String) :=
  document.kernels.map fun block =>
    (block.name, block.artifact document.preamble)

/-- The whole text of a document. -/
def text (document : Document) : String :=
  document.preamble ++ String.join (document.kernels.map KernelBlock.body)

end Document
end IsaUsage
