import SourceMark.Command

/-!
# Reading the command line

Options may stand in front of the command word and behind it.  Those behind it
count where both are given, but on each side an option is given once at most.
-/

namespace SourceMark

namespace Command

/-- How the command line is used. -/
def usage : String :=
  String.intercalate "\n" [
    "Annotates JSX, Vue and Angular markup with source locations",
    "",
    "Usage: locator [OPTIONS] <COMMAND>",
    "",
    "Commands:",
    "  transform <FILE>  Annotate one file and print the result",
    "  build <SRC>       Annotate a source tree into an output directory",
    "  init [PATH]       Write a default configuration file",
    "  uri <LOCATION>    Print the editor URI for a file:line:column value",
    ""]

/-- Why no command was read. -/
inductive Refusal where
  /-- Help was asked for. -/
  | help
  | misuse
deriving Repr, DecidableEq

/-- An option. -/
structure Parameter where
  name : String
  letter : Option Char
  takesValue : Bool
  /-- Whether the value may be empty. -/
  mayBeEmpty : Bool
  /-- The values that may be given; when there are none, any value may. -/
  choices : List String
deriving Repr, DecidableEq

namespace Parameter

/-- An option that is given or not. -/
def flag (name : String) (letter : Option Char) : Parameter :=
  { name, letter, takesValue := false, mayBeEmpty := true, choices := [] }

/-- An option with a value. -/
def valued (name : String) (letter : Option Char) : Parameter :=
  { name, letter, takesValue := true, mayBeEmpty := true, choices := [] }

/-- An option with the path of a file, which is not empty. -/
def file (name : String) (letter : Option Char) : Parameter :=
  { name, letter, takesValue := true, mayBeEmpty := false, choices := [] }

/-- An option with one of several values. -/
def chosen (name : String) (letter : Option Char) (choices : List String) :
    Parameter :=
  { name, letter, takesValue := true, mayBeEmpty := false, choices }

/-- Whether an option may have that value. -/
def admits (parameter : Parameter) (value : String) : Bool :=
  (parameter.mayBeEmpty || !value.isEmpty) &&
    (parameter.choices.isEmpty || parameter.choices.contains value)

end Parameter

/-- The command words. -/
inductive Kind where
  | transform
  | build
  | configure
  | address
  | help
deriving Repr, DecidableEq

namespace Kind

/-- The kind of a command word. -/
def ofName? : String → Option Kind
  | "transform" => some transform
  | "build" => some build
  | "init" => some configure
  | "uri" => some address
  | "help" => some help
  | _ => none

/-- The option that asks for help. -/
def helpOption : Parameter := .flag "help" (some 'h')

/-- The options that may stand on either side of the command word. -/
def sharedOptions : List Parameter :=
  [.valued "log-level" none, .file "log-file" none,
    .flag "verbose" (some 'v'), helpOption]

/-- The options of commands that mark files. -/
def setupOptions : List Parameter :=
  [.valued "config" (some 'c'), .chosen "mode" none ["path", "id", "split"],
    .valued "env" none]

/-- The options that may stand behind a command word. -/
def options : Kind → List Parameter
  | transform => .flag "write" (some 'w') :: setupOptions ++ sharedOptions
  | build => .valued "out-dir" (some 'o') :: setupOptions ++ sharedOptions
  | configure => sharedOptions
  | address =>
      .chosen "editor" (some 'e') ["vscode", "cursor", "zed"] :: sharedOptions
  | help => []

end Kind

/-- What one argument looks like. -/
inductive Word where
  | operand (text : String)
  /-- Two dashes, behind which no options follow. -/
  | divider
  | long (name : String) (value : Option String)
  | letters (letters : List Char)
deriving Repr, DecidableEq

/-- The look of an argument.  A single dash is an operand. -/
def Word.ofText (text : String) : Word :=
  match text.toList with
  | ['-', '-'] => .divider
  | '-' :: '-' :: rest =>
      match Text.splitFirst? ['='] rest with
      | some (name, value) =>
          .long (String.ofList name) (some (String.ofList value))
      | none => .long (String.ofList rest) none
  | '-' :: letter :: rest => .letters (letter :: rest)
  | _ => .operand text

/-- What has been read of the arguments. -/
structure Reading where
  kind : Option Kind
  /-- The options in front of the command word. -/
  before : List (String × String)
  /-- The options behind the command word. -/
  behind : List (String × String)
  operands : List String
  /-- An option of which the value is still to come. -/
  pending : Option Parameter
  /-- Whether the divider has been read. -/
  isDivided : Bool
deriving Repr

namespace Reading

/-- Nothing has been read. -/
def start : Reading where
  kind := none
  before := []
  behind := []
  operands := []
  pending := none
  isDivided := false

/-- The options that may be given at this place. -/
def options (reading : Reading) : List Parameter :=
  match reading.kind with
  | some kind => kind.options
  | none => Kind.sharedOptions

/-- The options given on this side of the command word. -/
def given (reading : Reading) : List (String × String) :=
  if reading.kind.isSome then reading.behind else reading.before

/-- Take an option with its value, which is empty for a flag. -/
def take (reading : Reading) (parameter : Parameter) (value : String) :
    Except Refusal Reading :=
  if parameter = Kind.helpOption then
    .error .help
  else if (reading.given.lookup parameter.name).isSome ||
      !parameter.admits value then
    .error .misuse
  else if reading.kind.isSome then
    .ok { reading with
      behind := (parameter.name, value) :: reading.behind, pending := none }
  else
    .ok { reading with
      before := (parameter.name, value) :: reading.before, pending := none }

/-- Take an operand: the command word, or what the command is about. -/
def takeOperand (reading : Reading) (text : String) : Except Refusal Reading :=
  match reading.kind with
  | none =>
      match Kind.ofName? text with
      | some kind => .ok { reading with kind := some kind }
      | none => .error .misuse
  | some _ =>
      if reading.operands.isEmpty then
        .ok { reading with operands := [text] }
      else
        .error .misuse

/-- Take an option by its name. -/
def takeLong (reading : Reading) (name : String) (value : Option String) :
    Except Refusal Reading :=
  match reading.options.find? fun parameter => parameter.name == name with
  | none => .error .misuse
  | some parameter =>
      match parameter.takesValue, value with
      | true, some value => reading.take parameter value
      | true, none => .ok { reading with pending := some parameter }
      | false, some _ => .error .misuse
      | false, none => reading.take parameter ""

/-- Take options by their letters.  What follows the letter of an option with a
value is that value. -/
def takeLetters : Reading → List Char → Except Refusal Reading
  | reading, [] => .ok reading
  | reading, letter :: rest =>
      match reading.options.find? fun parameter =>
          parameter.letter == some letter with
      | none => .error .misuse
      | some parameter =>
          match parameter.takesValue, rest with
          | false, _ => do takeLetters (← reading.take parameter "") rest
          | true, [] => .ok { reading with pending := some parameter }
          | true, '=' :: value => reading.take parameter (String.ofList value)
          | true, value => reading.take parameter (String.ofList value)

/-- Take one argument. -/
def takeArgument (reading : Reading) (text : String) : Except Refusal Reading :=
  if reading.kind = some .help then
    if (Kind.ofName? text).isSome then reading.takeOperand text
    else .error .misuse
  else if reading.isDivided then
    reading.takeOperand text
  else
    match reading.pending, Word.ofText text with
    | some parameter, .operand value => reading.take parameter value
    | some _, _ => .error .misuse
    | none, .operand value => reading.takeOperand value
    | none, .divider =>
        if reading.kind.isSome then .ok { reading with isDivided := true }
        else .error .misuse
    | none, .long name value => reading.takeLong name value
    | none, .letters letters => reading.takeLetters letters

/-- The value of an option on either side of the command word. -/
def value? (reading : Reading) (name : String) : Option String :=
  (reading.behind.lookup name).orElse fun _ => reading.before.lookup name

/-- Where the configuration is looked for when nothing else is said. -/
def standardPath : String := "locator.toml"

/-- What is given about marking files. -/
def setup (reading : Reading) : Setup where
  configuration := (reading.value? "config").getD standardPath
  mode := (reading.value? "mode").bind Script.Mode.ofName?
  environment := reading.value? "env"

/-- The command that has been read. -/
def command (reading : Reading) : Except Refusal Command :=
  match reading.kind, reading.operands with
  | some .transform, [file] =>
      .ok (.transform file reading.setup (reading.value? "write").isSome)
  | some .build, [source] =>
      .ok (.build source (reading.value? "out-dir") reading.setup)
  | some .configure, operands =>
      .ok (.configure (operands.head?.getD standardPath))
  | some .address, [location] =>
      let editor := (reading.value? "editor").bind fun name =>
        (Overlay.Editor.ofName? name).toOption
      .ok (.address location (editor.getD .vscode))
  | some .help, _ => .error .help
  | _, _ => .error .misuse

end Reading

end Command

namespace Invocation

/-- Read the arguments of the command line. -/
def ofArguments (arguments : List String) :
    Except Command.Refusal Invocation := do
  let reading ← arguments.foldlM Command.Reading.takeArgument .start
  if reading.pending.isSome then
    throw .misuse
  return {
    command := ← reading.command
    logFile := reading.value? "log-file"
    logLevel := reading.value? "log-level"
    isVerbose := (reading.value? "verbose").isSome }

end Invocation

end SourceMark
