import DomainCompiler.Command.Basic

/-!
# Commands from arguments

The words of a command line: the name of a command, options with or without a value, and a file.
-/

namespace DomainCompiler.Arguments

/-- A switch of a command: its names and what it sets. -/
inductive Switch (α : Type) where
  | flag (names : List String) (apply : α → α)
  | value (names : List String) (apply : String → α → α)

namespace Switch

variable {α : Type}

def names : Switch α → List String
  | .flag ns _ => ns
  | .value ns _ => ns

end Switch

/-- What is wrong with a command line. -/
inductive UsageError where
  | noCommand
  | unknownCommand (name : String)
  | unknownOption (name : String)
  | valueMissing (name : String)
  | fileMissing
  | extraArgument (word : String)
  deriving DecidableEq, Repr

namespace UsageError

def message : UsageError → String
  | .noCommand => "Missing command."
  | .unknownCommand name => "No such command '" ++ name ++ "'."
  | .unknownOption name => "No such option: " ++ name
  | .valueMissing name => "Option '" ++ name ++ "' requires an argument."
  | .fileMissing => "Missing argument 'INPUT_FILE'."
  | .extraArgument word => "Got unexpected extra argument (" ++ word ++ ")"

end UsageError

/-- Reads options and at most one file in any order. -/
def scan {α : Type} (options : List (Switch α)) (file : Option String) (a : α) :
    List String → Except UsageError (Option String × α)
  | [] => .ok (file, a)
  | word :: rest =>
    match options.find? fun o => o.names.contains word with
    | some (.flag _ apply) => scan options file (apply a) rest
    | some (.value _ apply) =>
      match rest with
      | text :: rest => scan options file (apply text a) rest
      | [] => .error (.valueMissing word)
    | none =>
      if word.startsWith "-" then .error (.unknownOption word)
      else
        match file with
        | none => scan options (some word) a rest
        | some _ => .error (.extraArgument word)

def validateOptions : List (Switch ValidateArgs) :=
  [.flag ["--quiet", "-q"] fun a => { a with quiet := true },
   .value ["--format", "-f"] fun s a => { a with format := s },
   .flag ["--strict"] fun a => { a with strict := true }]

def compileOptions : List (Switch CompileArgs) :=
  [.value ["--package", "-p"] fun s a => { a with package := s },
   .value ["--module", "-m"] fun s a => { a with module := s },
   .value ["--format", "-f"] fun s a => { a with format := s },
   .value ["--output", "-o"] fun s a => { a with output := some s },
   .flag ["--force"] fun a => { a with force := true },
   .flag ["--strict"] fun a => { a with strict := true },
   .flag ["--verbose", "-V"] id]

def needed {α : Type} (r : Option String × α) : Except UsageError (String × α) :=
  match r with
  | (some file, a) => .ok (file, a)
  | (none, _) => .error .fileMissing

/-- The command that the words ask for. -/
def command : List String → Except UsageError Command
  | [] => .error .noCommand
  | "--version" :: _ => .ok .version
  | "-v" :: _ => .ok .version
  | "validate" :: rest => do
    let (file, a) ← needed (← scan validateOptions none { file := "" } rest)
    return .validate { a with file }
  | "compile" :: rest => do
    let (file, a) ← needed (← scan compileOptions none { file := "" } rest)
    return .compile { a with file }
  | "info" :: rest => do
    let (file, _) ← needed (← scan ([] : List (Switch Unit)) none () rest)
    return .info file
  | name :: _ => .error (.unknownCommand name)

end DomainCompiler.Arguments

namespace DomainCompiler.Command

/-- The paths at which a command looks. -/
def paths : Command → List String
  | .validate a => [Path.normal a.file]
  | .compile a =>
    Path.normal a.file ::
      match a.output with
      | some o =>
        let o := Path.normal o
        let parent := Path.parent o
        [o, if parent.isEmpty then "." else parent]
      | none => []
  | .info file => [Path.normal file]
  | .version => []

def target? : Command → Option String
  | .compile a => a.output.map Path.normal
  | _ => none

end DomainCompiler.Command
