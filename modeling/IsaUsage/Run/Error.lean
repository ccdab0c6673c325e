import IsaUsage.File.Failure
import IsaUsage.File.Path
import IsaUsage.Text.Blank
import IsaUsage.Tool.ExitStatus

namespace IsaUsage

/-!
# Errors of a run

A run fails at one file or at one tool, and the error says at which and why.
-/

/-- Why a run failed. -/
inductive RunError where
  | unreadable (path : Path) (cause : Failure)
  | unwritable (path : Path) (cause : Failure)
  | notStarted (tool : String) (cause : Failure)
  | toolFailed (tool kernel : String) (status : ExitStatus) (stderr : String)
  | missingOutput (kernel : String) (path : Path)
  | failed (cause : Failure)
  deriving DecidableEq

namespace RunError

/-- What a failing tool said, on lines of its own; nothing if it was silent. -/
def quotedStderr (stderr : String) : String :=
  match Text.trim stderr.toList with
  | [] => ""
  | trimmed => ":\n" ++ String.ofList trimmed

/-- The text of an error. -/
def message : RunError → String
  | .unreadable path cause =>
      "Failed to open " ++ path.text ++ ": " ++ cause.message
  | .unwritable path cause =>
      "Failed to write " ++ path.text ++ ": " ++ cause.message
  | .notStarted tool cause =>
      "Failed to run " ++ tool ++ ": " ++ cause.message
  | .toolFailed tool kernel status stderr =>
      tool ++ " failed for kernel " ++ kernel ++ " (" ++ status.message ++
        ")" ++ quotedStderr stderr
  | .missingOutput kernel path =>
      "Expected output " ++ path.text ++ " for kernel " ++ kernel ++
        " was not produced"
  | .failed cause => "IO error: " ++ cause.message

/-- The failure behind an error, if there is one. -/
def cause? : RunError → Option Failure
  | .unreadable _ cause => some cause
  | .unwritable _ cause => some cause
  | .notStarted _ cause => some cause
  | .toolFailed _ _ _ _ => none
  | .missingOutput _ _ => none
  | .failed cause => some cause

end RunError
end IsaUsage
