import IsaUsage.File.Path
import IsaUsage.Kernel.Document
import IsaUsage.Text.Quoted
import IsaUsage.Text.Terminal
import IsaUsage.Usage

namespace IsaUsage

/-!
# The log of a run

Everything noteworthy is an event with a level, a message and named fields. A
log shows the events up to a chosen level, in the order in which they happened.
-/

/-- How detailed an event is; a log that shows one shows those before it. -/
inductive LogLevel where
  | warning
  | information
  | debugging
  deriving DecidableEq, Repr

namespace LogLevel

/-- The place of a level among the levels. -/
def rank : LogLevel → Nat
  | .warning => 0
  | .information => 1
  | .debugging => 2

/-- The word that starts a line of this level. -/
def label : LogLevel → String
  | .warning => "WARN"
  | .information => "INFO"
  | .debugging => "DEBUG"

/-- The word that asks for this level. -/
def word : LogLevel → String
  | .warning => "warn"
  | .information => "info"
  | .debugging => "debug"

/-- The level asked for by repeating an option for more detail. -/
def ofVerbosity : Nat → LogLevel
  | 0 => .warning
  | 1 => .information
  | _ => .debugging

end LogLevel

/-- What can be noted during a run. -/
inductive LogEvent where
  | declarationFound (kernel : String)
  | nameRepeated (kernel : String)
  | noDeclarations
  | sourceRead (path : Path) (bytes : Nat)
  | artifactWritten (kernel : String) (path : Path)
  | toolStarting (tool : String) (arguments : List String) (kernel : String)
  | toolPrinted (tool kernel output : String)
  | staleRemoved (path : Path)
  | reportReady (kernel : String) (binary report : Path)
  | documentDone (kernels : Nat) (totals : UsageRecord)
  deriving DecidableEq

/-- The value of a field: a name, which lines show quoted, or plain text. -/
inductive LogValue where
  | name (text : String)
  | plain (text : String)
  deriving DecidableEq

namespace LogValue

/-- The value itself. -/
def text : LogValue → String
  | .name text => text
  | .plain text => text

/-- The value as a line shows it. -/
def shown : LogValue → String
  | .name text => Text.quoted text
  | .plain text => text

end LogValue

namespace LogEvent

/-- What the origins of all events start with. -/
def commonOrigin : String := "kernel_splitter"

/-- How detailed an event is. -/
def level : LogEvent → LogLevel
  | .declarationFound _ => .debugging
  | .nameRepeated _ => .warning
  | .noDeclarations => .warning
  | .sourceRead _ _ => .information
  | .artifactWritten _ _ => .debugging
  | .toolStarting _ _ _ => .information
  | .toolPrinted _ _ _ => .debugging
  | .staleRemoved _ => .debugging
  | .reportReady _ _ _ => .debugging
  | .documentDone _ _ => .debugging

/-- The message of an event. -/
def message : LogEvent → String
  | .declarationFound _ => "found kernel declaration"
  | .nameRepeated _ =>
      "kernel name repeats; its artifact will be overwritten"
  | .noDeclarations => "no kernel declarations found"
  | .sourceRead _ _ => "read source document"
  | .artifactWritten _ _ => "wrote kernel source"
  | .toolStarting _ _ _ => "running"
  | .toolPrinted _ _ output => output
  | .staleRemoved _ => "removed stale output"
  | .reportReady _ _ _ => "isa report ready"
  | .documentDone _ _ => "document done"

/-- The fields of an event in order. -/
def fields : LogEvent → List (String × LogValue)
  | .declarationFound kernel => [("kernel", .name kernel)]
  | .nameRepeated kernel => [("kernel", .name kernel)]
  | .noDeclarations => []
  | .sourceRead path bytes =>
      [("source", .plain path.text), ("bytes", .plain (Decimal.text bytes))]
  | .artifactWritten kernel path =>
      [("kernel", .name kernel), ("path", .plain path.text)]
  | .toolStarting tool arguments kernel =>
      [("tool", .plain tool), ("args", .plain (Text.quotedList arguments)),
        ("kernel", .name kernel)]
  | .toolPrinted tool kernel _ =>
      [("tool", .plain tool), ("kernel", .name kernel)]
  | .staleRemoved path => [("path", .plain path.text)]
  | .reportReady kernel binary report =>
      [("kernel", .name kernel), ("binary", .plain binary.text),
        ("report", .plain report.text)]
  | .documentDone kernels totals =>
      [("kernels", .plain (Decimal.text kernels)),
        ("totals", .plain totals.debugText)]

/-- The activity in which an event happens. -/
def activity : LogEvent → String
  | .declarationFound _ | .nameRepeated _ | .noDeclarations => "splitter"
  | .sourceRead _ _ | .artifactWritten _ _ | .documentDone _ _ => "pipeline"
  | .toolStarting _ _ _ | .toolPrinted _ _ _ | .staleRemoved _
  | .reportReady _ _ _ =>
      "toolchain"

/-- Where an event comes from: the common origin and the activity. -/
def origin (event : LogEvent) : String :=
  commonOrigin ++ ("::" ++ event.activity)

/-- The names of the fields of an event; the message is one of them. -/
def fieldNames (event : LogEvent) : List String :=
  "message" :: event.fields.map Prod.fst

/--
An event as one entry of a log, with its line end. The message can come from a
tool, so nothing in it may steer a terminal.
-/
def line (event : LogEvent) : String :=
  event.level.label ++ " " ++ Text.terminalSafe event.message ++
    String.join (event.fields.map fun (name, value) =>
      " " ++ name ++ "=" ++ value.shown) ++ "\n"

end LogEvent

/--
The events of dividing a document whose kernels have the given names: every
name is found, and a name that stood before is going to be overwritten.
-/
def divisionEvents (earlier : List String) : List String → List LogEvent
  | [] => []
  | name :: names =>
      let repeated :=
        if name ∈ earlier then [LogEvent.nameRepeated name] else []
      .declarationFound name :: repeated ++
        divisionEvents (earlier ++ [name]) names

/-- The events of dividing a document. -/
def Document.splitEvents (document : Document) : List LogEvent :=
  divisionEvents [] document.names ++
    if document.isEmpty then [.noDeclarations] else []

end IsaUsage
