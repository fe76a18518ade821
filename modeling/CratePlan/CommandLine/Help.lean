/-!
# Help

What the program says about itself when it is asked: its version, and how it and each
of its commands are called.
-/

namespace CratePlan

/-- What help can be asked about. -/
inductive HelpTopic where
  /-- The program as a whole. -/
  | program
  | plan
  | resolve
  /-- The command that gives help. -/
  | help
deriving Repr, DecidableEq, Inhabited

/-- The name of the program. -/
def programName : String := "redfish-codegen"

/-- The line that tells the version. -/
def versionLine : String := programName ++ " 0.1.0\n"

namespace HelpTopic

/-- The topic with the name of a command. -/
def ofCommand? : String → Option HelpTopic
  | "plan" => some plan
  | "resolve" => some resolve
  | "help" => some help
  | _ => none

/-- What is said about a topic in one line. -/
def summary : HelpTopic → String
  | program => "Naming and module planning for Redfish OpenAPI documents"
  | plan => "Plan the generated crate for an OpenAPI document"
  | resolve => "Show the model type each schema name resolves to"
  | help => "Print this message or the help of the given subcommand(s)"

/-- How a command is called, behind the name of the program. -/
def call : HelpTopic → String
  | program => "<COMMAND>"
  | plan => "plan [OPTIONS]"
  | resolve => "resolve [OPTIONS] <NAMES>..."
  | help => "help [COMMAND]..."

/-- What may be given to a command, line by line. -/
def details : HelpTopic → List String
  | program => [
    "Commands:",
    "  plan     " ++ plan.summary,
    "  resolve  " ++ resolve.summary,
    "  help     " ++ help.summary,
    "",
    "Options:",
    "  -h, --help     Print help",
    "  -V, --version  Print version"]
  | plan => [
    "Options:",
    "  -a, --api-directory <API_DIRECTORY>",
    "          Directory containing openapi.yaml [default: api]",
    "  -c, --config <CONFIG>",
    "          Generator configuration (YAML); defaults apply when omitted",
    "  -f, --format <FORMAT>",
    "          Output format [default: json] [possible values: json, yaml]",
    "  -h, --help",
    "          Print help"]
  | resolve => [
    "Arguments:",
    "  <NAMES>...  Schema names, e.g. Chassis_v1_0_0_Chassis",
    "",
    "Options:",
    "  -c, --config <CONFIG>  Generator configuration (YAML); defaults apply when omitted",
    "  -h, --help             Print help"]
  | help => [
    "Arguments:",
    "  [COMMAND]...  Print help for the subcommand(s)"]

/-- The help on a topic. -/
def text (topic : HelpTopic) : String :=
  String.join <|
    ([topic.summary, "", "Usage: " ++ programName ++ " " ++ topic.call, ""] ++ topic.details).map
      (· ++ "\n")

end HelpTopic

end CratePlan
