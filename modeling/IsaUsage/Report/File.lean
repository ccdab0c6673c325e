import IsaUsage.Report.Analysis
import IsaUsage.Run.Action

namespace IsaUsage

/-!
# Reports on disk

The usage that a report file shows, as an action that can fail to read it.
-/

/-- Read a report and say what usage it shows. -/
def analyzeReport (base : Location) (path : Path) :
    Action Memory UsageRecord := do
  let text ← Action.inspect (fun files => files.readText base path)
    (.unreadable path)
  return analyzeText text

end IsaUsage
