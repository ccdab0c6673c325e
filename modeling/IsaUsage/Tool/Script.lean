import IsaUsage.Text.Literal
import IsaUsage.Tool.Machine

namespace IsaUsage

/-!
# Scripted tools

A scripted tool is told by rules what to do: the first rule that fits its last
argument gives a list of actions. Scripts stand in for real tools where a run is
to be predicted or repeated. Texts in a script can refer to the arguments of the
tool and to the file that the last argument names.
-/

/-- Bytes that a script writes: a text with references, or bytes as they are. -/
inductive ScriptData where
  | template (text : String)
  | raw (bytes : ByteArray)

/-- One action of a script. -/
inductive ScriptAction where
  | write (path : String) (data : ScriptData)
  | makeDirectory (path : String)
  | remove (path : String)
  | printOutput (data : ScriptData)
  | printError (data : ScriptData)
  | exit (code : Int)
  | kill (signal : Nat)

/-- Actions for a given last argument, or for any. -/
structure ScriptRule where
  lastArgument : Option String
  actions : List ScriptAction

/-- The scripts of tools by the names of their programs. -/
structure ScriptBook where
  scripts : List (String × List ScriptRule)

namespace ScriptBook

/-- No scripts at all. -/
def empty : ScriptBook := ⟨[]⟩

/-- Give a program a script in place of any it had. -/
def define (book : ScriptBook) (name : String) (rules : List ScriptRule) :
    ScriptBook :=
  ⟨(name, rules) :: book.scripts.filter fun script => script.1 ≠ name⟩

/-- The rules for a program; one without a script has none. -/
def rules (book : ScriptBook) (name : String) : List ScriptRule :=
  (book.scripts.lookup name).getD []

end ScriptBook

/-- A running script: what it sees, what it printed, and whether it ended. -/
structure ScriptState where
  files : FileSystem
  stdout : ByteArray
  stderr : ByteArray
  ended : Option ExitStatus

namespace Script

/-- The status of a script that cannot read the file it refers to. -/
def unreadableReference : ExitStatus := .exited 3

/-- The status of a script that cannot write a file. -/
def unwritableFile : ExitStatus := .exited 4

/-- A name without its last dot and what follows it. -/
def stem (name : String) : String :=
  match name.toList.reverse.dropWhile (· ≠ '.') with
  | [] => name
  | _ :: rest => String.ofList rest.reverse

/-- The last argument of a tool. -/
def lastArgument (invocation : Invocation) : String :=
  invocation.arguments.getLast?.getD ""

/-- A text with its references to the arguments filled in. -/
def fillArguments (invocation : Invocation) (text : String) : String :=
  let last := lastArgument invocation
  Text.replace "@STEM@" (stem last) <|
    Text.replace "@ARG@" last <|
      Text.replace "@ARGS@" ("|".intercalate invocation.arguments) text

/--
A text with all its references filled in, if the file it refers to can be read.
-/
def fill? (invocation : Invocation) (files : FileSystem) (text : String) :
    Option String :=
  let filled := fillArguments invocation text
  if Text.occursIn "@FILE@".toList filled.toList then
    match
      files.readText invocation.directory ⟨lastArgument invocation⟩
    with
    | .ok contents => some (Text.replace "@FILE@" contents filled)
    | .error _ => none
  else
    some filled

/-- The bytes of script data, if what it refers to can be read. -/
def bytes? (invocation : Invocation) (files : FileSystem) :
    ScriptData → Option ByteArray
  | .template text => (fill? invocation files text).map String.toUTF8
  | .raw bytes => some bytes

/-- Do one action. -/
def act (invocation : Invocation) (state : ScriptState) :
    ScriptAction → ScriptState
  | .write path data =>
      match
        fill? invocation state.files path,
        bytes? invocation state.files data
      with
      | some path, some bytes =>
          match state.files.createFile invocation.directory ⟨path⟩ bytes with
          | .ok files => { state with files := files }
          | .error _ => { state with ended := some unwritableFile }
      | _, _ => { state with ended := some unreadableReference }
  | .makeDirectory path =>
      match fill? invocation state.files path with
      | some path =>
          { state with
            files := state.files.makeDirectories invocation.directory ⟨path⟩ }
      | none => { state with ended := some unreadableReference }
  | .remove path =>
      match fill? invocation state.files path with
      | some path =>
          match state.files.removeFile invocation.directory ⟨path⟩ with
          | .ok files => { state with files := files }
          | .error _ => state
      | none => { state with ended := some unreadableReference }
  | .printOutput data =>
      match bytes? invocation state.files data with
      | some bytes => { state with stdout := state.stdout ++ bytes }
      | none => { state with ended := some unreadableReference }
  | .printError data =>
      match bytes? invocation state.files data with
      | some bytes => { state with stderr := state.stderr ++ bytes }
      | none => { state with ended := some unreadableReference }
  | .exit code =>
      { state with ended := some (.exited (code % 0x100).toNat) }
  | .kill signal => { state with ended := some (.killed signal false) }

/-- Do actions in order, up to one that ends the script. -/
def actAll (invocation : Invocation) (state : ScriptState) :
    List ScriptAction → ScriptState
  | [] => state
  | action :: actions =>
      match state.ended with
      | some _ => state
      | none => actAll invocation (act invocation state action) actions

/-- The actions for a start of a tool. -/
def actions (book : ScriptBook) (invocation : Invocation) :
    List ScriptAction :=
  let rules := book.rules (invocation.program.getLast?.getD "")
  let fits (rule : ScriptRule) : Bool :=
    match rule.lastArgument with
    | none => true
    | some argument => argument == lastArgument invocation
  match rules.find? fits with
  | some rule => rule.actions
  | none => []

/-- What a scripted tool does. -/
def behave
    (book : ScriptBook)
    (invocation : Invocation)
    (world : World Memory) :
    ToolExit × World Memory :=
  let state := actAll invocation
    ⟨world.files, ByteArray.empty, ByteArray.empty, none⟩
    (actions book invocation)
  (⟨state.ended.getD (.exited 0), state.stdout, state.stderr⟩,
    { world with files := state.files })

end Script
end IsaUsage
