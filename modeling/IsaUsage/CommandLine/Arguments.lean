namespace IsaUsage.CommandLine

/-!
# Reading command lines

There are three programs. Each takes one file and options, in any order. An
option has a long name, and some have a letter; letters can be written together
behind one dash, and the last of them may take a value. Arguments are read from
left to right, and the first problem, or the first wish for help or for the
version, ends the reading.
-/

/-- The programs that can be run. -/
inductive Program where
  | splitter
  | registers
  | instructions
  deriving DecidableEq, Repr

namespace Program

/-- The name of a program. -/
def name : Program → String
  | .splitter => "kernel-splitter"
  | .registers => "isa-registers"
  | .instructions => "isa-instructions"

/-- All programs, each once. -/
def all : List Program :=
  [.splitter, .registers, .instructions]

/-- The program with a given name. -/
def ofName? (name : String) : Option Program :=
  all.find? fun program => program.name == name

/-- What a program does. -/
def summary : Program → String
  | .splitter => "Per-kernel ISA register and instruction usage"
  | .registers => "Highest vector/scalar register index in an ISA report"
  | .instructions => "Count annotated instruction lines in an ISA report"

/-- What a program takes. -/
def usage : Program → String
  | .splitter => "Usage: kernel-splitter [OPTIONS] <SOURCE>"
  | .registers => "Usage: isa-registers [OPTIONS] <ISA>"
  | .instructions => "Usage: isa-instructions [OPTIONS] <ISA>"

end Program

/-- The options of all programs. -/
inductive OptionName where
  | outputDirectory
  | compiler
  | finalizer
  | sourceExtension
  | json
  | verbose
  | help
  | version
  deriving DecidableEq, Repr

namespace OptionName

/-- All options, each once. -/
def all : List OptionName :=
  [.outputDirectory, .compiler, .finalizer, .sourceExtension, .json, .verbose,
    .help, .version]

/-- The long name of an option. -/
def long : OptionName → String
  | .outputDirectory => "output-dir"
  | .compiler => "compiler"
  | .finalizer => "finalizer"
  | .sourceExtension => "source-ext"
  | .json => "json"
  | .verbose => "verbose"
  | .help => "help"
  | .version => "version"

/-- The letter of an option. -/
def letter? : OptionName → Option Char
  | .outputDirectory => some 'o'
  | .verbose => some 'v'
  | .help => some 'h'
  | .version => some 'V'
  | .compiler | .finalizer | .sourceExtension | .json => none

/-- Whether an option takes a value. -/
def takesValue : OptionName → Bool
  | .outputDirectory | .compiler | .finalizer | .sourceExtension => true
  | .json | .verbose | .help | .version => false

/-- Whether the value of an option is a path, which cannot be empty. -/
def takesPath : OptionName → Bool
  | .outputDirectory | .compiler | .finalizer => true
  | .sourceExtension | .json | .verbose | .help | .version => false

end OptionName

/-- Whether a program has an option. -/
def Program.has : Program → OptionName → Bool
  | .splitter, _ => true
  | _, .verbose | _, .help | _, .version => true
  | _, _ => false

/-- The option of a program with a given long name. -/
def Program.optionByName? (program : Program) (name : String) :
    Option OptionName :=
  OptionName.all.find? fun option =>
    program.has option && option.long == name

/-- The option of a program with a given letter. -/
def Program.optionByLetter? (program : Program) (letter : Char) :
    Option OptionName :=
  OptionName.all.find? fun option =>
    program.has option && option.letter? == some letter

/-- What is wrong with a command line. -/
inductive Misuse where
  | unknownOption (text : String)
  | unwantedValue (option : OptionName)
  | missingValue (option : OptionName)
  | emptyPath (what : String)
  | repeated (option : OptionName)
  | extraArgument (text : String)
  | missingArgument
  deriving DecidableEq

/-- The text of a misuse. -/
def Misuse.message : Misuse → String
  | .unknownOption text => "error: unexpected argument '" ++ text ++ "' found"
  | .unwantedValue option =>
      "error: unexpected value for '--" ++ option.long ++ "' found"
  | .missingValue option =>
      "error: a value is required for '--" ++ option.long ++
        "' but none was supplied"
  | .emptyPath what =>
      "error: a value is required for '" ++ what ++ "' but none was supplied"
  | .repeated option =>
      "error: the argument '--" ++ option.long ++
        "' cannot be used multiple times"
  | .extraArgument text => "error: unexpected argument '" ++ text ++ "' found"
  | .missingArgument =>
      "error: the following required arguments were not provided"

/-- Why the reading of a command line ends early. -/
inductive Stop where
  | misuse (misuse : Misuse)
  | help
  | version
  deriving DecidableEq

/-- What a command line asks for. -/
structure Arguments where
  file : Option String
  outputDirectory : Option String
  compiler : Option String
  finalizer : Option String
  sourceExtension : Option String
  json : Bool
  verbosity : Nat
  deriving DecidableEq

namespace Arguments

/-- Nothing is asked for yet. -/
def none : Arguments :=
  ⟨.none, .none, .none, .none, .none, false, 0⟩

/-- A value that was not given before. -/
def once (option : OptionName) (before : Option String) (value : String) :
    Except Stop (Option String) :=
  match before with
  | some _ => .error (.misuse (.repeated option))
  | .none =>
      if option.takesPath && value = "" then
        .error (.misuse (.emptyPath ("--" ++ option.long)))
      else
        .ok (some value)

/-- An option with its value. -/
def setValue (given : Arguments) (option : OptionName) (value : String) :
    Except Stop Arguments :=
  match option with
  | .outputDirectory => do
      let value ← once option given.outputDirectory value
      return { given with outputDirectory := value }
  | .compiler => do
      let value ← once option given.compiler value
      return { given with compiler := value }
  | .finalizer => do
      let value ← once option given.finalizer value
      return { given with finalizer := value }
  | .sourceExtension => do
      let value ← once option given.sourceExtension value
      return { given with sourceExtension := value }
  | .json | .verbose | .help | .version =>
      .error (.misuse (.unwantedValue option))

/-- An option without a value. -/
def setFlag (given : Arguments) (option : OptionName) :
    Except Stop Arguments :=
  match option with
  | .json =>
      if given.json then .error (.misuse (.repeated option))
      else .ok { given with json := true }
  | .verbose => .ok { given with verbosity := given.verbosity + 1 }
  | .help => .error .help
  | .version => .error .version
  | .outputDirectory | .compiler | .finalizer | .sourceExtension =>
      .error (.misuse (.missingValue option))

/-- The file. -/
def setFile (given : Arguments) (text : String) : Except Stop Arguments :=
  match given.file with
  | some _ => .error (.misuse (.extraArgument text))
  | .none =>
      if text = "" then .error (.misuse (.emptyPath "file"))
      else .ok { given with file := some text }

/-- Arguments of which none is an option. -/
def setFiles (given : Arguments) : List String → Except Stop Arguments
  | [] => .ok given
  | text :: texts => do
      let given ← given.setFile text
      given.setFiles texts

end Arguments

/-- What was read so far, and the option that still wants its value. -/
abbrev Progress := Arguments × Option OptionName

/-- An option by its long name, with what follows an equals sign. -/
def readLong (program : Program) (given : Arguments) (text : List Char) :
    Except Stop Progress :=
  let name := String.ofList (text.takeWhile (· ≠ '='))
  match program.optionByName? name with
  | none => .error (.misuse (.unknownOption (String.ofList ('-' :: '-' :: text))))
  | some option =>
      match text.dropWhile (· ≠ '=') with
      | _ :: value => do
          let given ← given.setValue option (String.ofList value)
          return (given, none)
      | [] =>
          if option.takesValue then .ok (given, some option)
          else do
            let given ← given.setFlag option
            return (given, none)

/--
Options by their letters. The rest after an option with a value is its value,
less one equals sign.
-/
def readLetters (program : Program) (given : Arguments) :
    List Char → Except Stop Progress
  | [] => .ok (given, none)
  | letter :: rest =>
      match program.optionByLetter? letter with
      | none =>
          .error (.misuse (.unknownOption (String.ofList ['-', letter])))
      | some option =>
          if option.takesValue then
            match rest with
            | [] => .ok (given, some option)
            | '=' :: value => do
                let given ← given.setValue option (String.ofList value)
                return (given, none)
            | value => do
                let given ← given.setValue option (String.ofList value)
                return (given, none)
          else do
            let given ← given.setFlag option
            readLetters program given rest

/-- One argument before any that ends the options. -/
def readArgument (program : Program) (given : Arguments) (text : String) :
    Except Stop Progress :=
  match text.toList with
  | '-' :: '-' :: name => readLong program given name
  | '-' :: letter :: letters => readLetters program given (letter :: letters)
  | _ => do
      let given ← given.setFile text
      return (given, none)

/-- Whether an argument is an option, or ends the options. -/
def looksLikeOption (text : String) : Bool :=
  match text.toList with
  | '-' :: _ :: _ => true
  | _ => false

/-- Read arguments, adding to what is given. -/
def readArguments (program : Program) (given : Arguments) :
    List String → Except Stop Arguments
  | [] => .ok given
  | text :: texts =>
      if text = "--" then given.setFiles texts
      else
        match readArgument program given text with
        | .error stop => .error stop
        | .ok (given, none) => readArguments program given texts
        | .ok (given, some option) =>
            match texts with
            | [] => .error (.misuse (.missingValue option))
            | value :: texts =>
                if looksLikeOption value then
                  .error (.misuse (.missingValue option))
                else
                  match given.setValue option value with
                  | .error stop => .error stop
                  | .ok given => readArguments program given texts

end IsaUsage.CommandLine
