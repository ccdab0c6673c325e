import IsaUsage.Count
import IsaUsage.Text.Blank

namespace IsaUsage

/-!
# Instructions in a report

Every instruction of a report carries a comment with its encoding, so an
instruction line is a line that is not blank and holds a comment mark. Lines
that are only a comment count too.
-/

/-- Whether two slashes stand next to each other. -/
def hasCommentMark : List Char → Bool
  | '/' :: '/' :: _ => true
  | _ :: rest => hasCommentMark rest
  | [] => false

/-- Whether a line counts as an instruction. -/
def isInstruction (line : String) : Bool :=
  !(Text.isBlankText line.toList) && hasCommentMark line.toList

/-- How many lines count as instructions. -/
def countInstructions (lines : List String) : Count :=
  Count.saturate (lines.filter isInstruction).length

end IsaUsage
