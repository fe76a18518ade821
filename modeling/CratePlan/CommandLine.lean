import CratePlan.CommandLine.Help
import CratePlan.FileTree
import CratePlan.Plan
import CratePlan.Yaml.Input
import CratePlan.Yaml.Writer

/-!
# The command line

There are two commands that do work. `plan` makes the plan for a document and writes
it, as JSON or as YAML. `resolve` writes, for each schema name, the type that it would
have. Either may be given a file with settings. Besides, the program tells its version
and how it is called. Whoever asks for that is answered, whatever arguments follow.

A command is read from its arguments first, or found to be wrong; then it is carried
out on files. The result is what the program writes and how it ends.
-/

namespace CratePlan

/-- The settings in a file. -/
def Settings.ofFile (files : Files) (file : String) : Except PlanError Settings :=
  match (files file).text with
  | .error fault => .error (.unreadable file fault)
  | .ok text =>
    match Settings.ofYaml? text with
    | some settings => .ok settings
    | none => .error (.malformed file)

/-- The settings in a file, or the defaults if there is none. -/
def Settings.ofFile? (files : Files) : Option String → Except PlanError Settings
  | none => .ok .default
  | some file => Settings.ofFile files file

/-- The document in a file. -/
def ApiDocument.ofFile (files : Files) (file : String) : Except PlanError ApiDocument :=
  match (files file).text with
  | .error fault => .error (.unreadable file fault)
  | .ok text =>
    match ApiDocument.ofYaml? text with
    | some document => .ok document
    | none => .error (.malformed file)

/-- The plan for the document in a file, with the settings in another. The settings
are read first. -/
def Plan.ofFiles (files : Files) (document : String) (settings : Option String) :
    Except PlanError Plan := do
  let settings ← Settings.ofFile? files settings
  let document ← ApiDocument.ofFile files document
  Plan.make document settings

/-! ## Arguments -/

/-- How a plan is written. -/
inductive OutputFormat where
  | json
  | yaml
deriving Repr, DecidableEq, Inhabited

/-- The format with a name. -/
def OutputFormat.ofName? : String → Option OutputFormat
  | "json" => some json
  | "yaml" => some yaml
  | _ => none

/-- What the program is asked to do. -/
inductive Command where
  | plan (directory : String) (settings : Option String) (format : OutputFormat)
  | resolve (names : List String) (settings : Option String)
  | help (topic : HelpTopic)
  | version
deriving Repr, DecidableEq, Inhabited

/-- An option that takes a value, by its letter and its name. -/
structure ValueOption where
  letter : Char
  name : String
deriving Repr, DecidableEq, Inhabited

/-- The option for the directory of the document. -/
def directoryOption : ValueOption := ⟨'a', "api-directory"⟩

/-- The option for the file with the settings. -/
def settingsOption : ValueOption := ⟨'c', "config"⟩

/-- The option for the format of the plan. -/
def formatOption : ValueOption := ⟨'f', "format"⟩

/-- The arguments of a command: the values of its options, and the rest. -/
structure Arguments where
  values : List (ValueOption × String)
  operands : List String
  /-- Help is asked for; the arguments behind that have not been read. -/
  asksHelp : Bool
deriving Repr, Inhabited

namespace Arguments

/-- No arguments. -/
def empty : Arguments := ⟨[], [], false⟩

/-- The argument is an option without a value: its name in full, or its letter, before
other letters or alone. -/
def isFlag (letter : Char) (name : String) (argument : String) : Bool :=
  argument == "--" ++ name || ['-', letter].isPrefixOf argument.toList

/-- The argument asks for help. -/
def isHelpFlag (argument : String) : Bool := isFlag 'h' "help" argument

/-- An argument that begins like an option. A hyphen alone does not. -/
def isOption (argument : String) : Bool :=
  argument.toList.length > 1 && argument.toList.head? == some '-'

/-- What an argument says about options: nothing, an option whose value comes next, or
an option with its value. The outer `none` stands for an unknown option. -/
def optionOf? (known : List ValueOption) (argument : String) :
    Option (Option (ValueOption × Option String)) :=
  match argument.toList with
  | '-' :: '-' :: rest => do
    let name := rest.takeWhile (· != '=')
    let option ← known.find? fun option => option.name.toList == name
    match rest.dropWhile (· != '=') with
    | [] => some (some (option, none))
    | _ :: value => some (some (option, some (String.ofList value)))
  | '-' :: letter :: rest => do
    let option ← known.find? fun option => option.letter == letter
    match rest with
    | [] => some (some (option, none))
    | '=' :: value => some (some (option, some (String.ofList value)))
    | value => some (some (option, some (String.ofList value)))
  | _ => some none

/-- Note the value of an option. No option is given twice or with an empty value. -/
def withValue? (arguments : Arguments) (option : ValueOption) (value : String) :
    Option Arguments :=
  if value.isEmpty || (arguments.values.lookup option).isSome then none
  else some { arguments with values := arguments.values ++ [(option, value)] }

/-- Read arguments one after the other. `pending` is an option whose value comes
next. Behind a double hyphen nothing is an option. -/
def read? (known : List ValueOption) :
    (arguments : Arguments) → (pending : Option ValueOption) → List String → Option Arguments
  | arguments, none, [] => some arguments
  | _, some _, [] => none
  | arguments, some option, value :: rest =>
    if isOption value then none
    else do
      let arguments ← arguments.withValue? option value
      read? known arguments none rest
  | arguments, none, argument :: rest =>
    if argument == "--" then some { arguments with operands := arguments.operands ++ rest }
    else if isHelpFlag argument then some { arguments with asksHelp := true }
    else
      match optionOf? known argument with
      | none => none
      | some none =>
        read? known { arguments with operands := arguments.operands ++ [argument] } none rest
      | some (some (option, none)) => read? known arguments (some option) rest
      | some (some (option, some value)) => do
        let arguments ← arguments.withValue? option value
        read? known arguments none rest

/-- The value of an option. -/
def value? (arguments : Arguments) (option : ValueOption) : Option String :=
  arguments.values.lookup option

end Arguments

namespace Command

/-- The file of the document in a directory. -/
def documentFile (directory : String) : String :=
  if directory.toList.getLast? == some '/' then directory ++ "openapi.yaml"
  else directory ++ "/openapi.yaml"

/-- The topic of a request for help, from the names of commands behind it. -/
def helpTopic? : List String → Option HelpTopic
  | [] => some .program
  | [name] => HelpTopic.ofCommand? name
  | _ => none

/-- The command that arguments ask for, if they are in order. -/
def ofArguments? : List String → Option Command
  | "plan" :: rest => do
    let arguments ←
      Arguments.read? [directoryOption, settingsOption, formatOption] .empty none rest
    if !arguments.operands.isEmpty then none
    let format ← OutputFormat.ofName? ((arguments.value? formatOption).getD "json")
    if arguments.asksHelp then return .help .plan
    return .plan ((arguments.value? directoryOption).getD "api")
      (arguments.value? settingsOption) format
  | "resolve" :: rest => do
    let arguments ← Arguments.read? [settingsOption] .empty none rest
    if arguments.asksHelp then return .help .resolve
    if arguments.operands.isEmpty then none
    return .resolve arguments.operands (arguments.value? settingsOption)
  | "help" :: names => (helpTopic? names).map .help
  | argument :: _ =>
    if Arguments.isHelpFlag argument then some (.help .program)
    else if Arguments.isFlag 'V' "version" argument then some .version
    else none
  | [] => none

/-- The files that a command may read. -/
def inputs : Command → List String
  | .plan directory settings _ => documentFile directory :: settings.toList
  | .resolve _ settings => settings.toList
  | .help _ => []
  | .version => []

end Command

/-! ## Carrying out a command -/

/-- How a run ends: what has been written, and the error that ended it. -/
structure Outcome where
  output : String
  error : Option String
deriving Repr, DecidableEq, Inhabited

/-- A run that ends with an error has the status 1. -/
def Outcome.status (outcome : Outcome) : Nat :=
  if outcome.error.isSome then 1 else 0

/-- The status of a run whose arguments are not in order. -/
def usageStatus : Nat := 2

/-- A plan in a format. -/
def Plan.render (plan : Plan) : OutputFormat → String
  | .json => plan.toJson.pretty
  | .yaml => Yaml.render plan.toJson

/-- The line for a schema name: the type that it would have. -/
def Resolver.line (resolver : Resolver) (name : String) : Except CaseError String :=
  match resolver.resolve? name with
  | none => .ok (name ++ " -> unresolved\n")
  | some found => (resolver.typePath found).map fun type => name ++ " -> " ++ type.display ++ "\n"

/-- The lines for schema names, up to the first whose type cannot be written. -/
def Resolver.lines (resolver : Resolver) : List String → Outcome
  | [] => ⟨"", none⟩
  | name :: rest =>
    match resolver.line name with
    | .error fault => ⟨"", some fault.message⟩
    | .ok line =>
      let others := resolver.lines rest
      ⟨line ++ others.output, others.error⟩

namespace Command

/-- Make a plan and write it. The document must be there before anything is read. -/
def runPlan (files : Files) (directory : String) (settings : Option String)
    (format : OutputFormat) : Outcome :=
  let document := documentFile directory
  if !(files document).isPresent then
    ⟨"", some ("OpenAPI document not found: " ++ document)⟩
  else
    match Plan.ofFiles files document settings with
    | .error error => ⟨"", some error.message⟩
    | .ok result => ⟨result.render format ++ "\n", none⟩

/-- Write the types of schema names. -/
def runResolve (files : Files) (names : List String) (settings : Option String) : Outcome :=
  match Settings.ofFile? files settings with
  | .error error => ⟨"", some error.message⟩
  | .ok settings =>
    match Resolver.ofSettings settings with
    | .error fault => ⟨"", some (PlanError.settings fault).message⟩
    | .ok resolver => resolver.lines names

/-- Carry out a command on files. -/
def run (files : Files) : Command → Outcome
  | .plan directory settings format => runPlan files directory settings format
  | .resolve names settings => runResolve files names settings
  | .help topic => ⟨topic.text, none⟩
  | .version => ⟨versionLine, none⟩

end Command

end CratePlan
