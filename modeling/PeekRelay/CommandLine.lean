import PeekRelay.Config.File
import PeekRelay.Notice
/-!
# The command line

The service is started with the path of its configuration file. Both addresses can be given on the
command line or in the environment, where the command line goes first.
-/
namespace PeekRelay

structure Arguments where
  configFile : String
  overrides : Overrides := {}
  deriving DecidableEq, Repr

inductive Request where
  | serve (arguments : Arguments)
  | help
  | version
  | misuse
  deriving DecidableEq, Repr

namespace CommandLine

def name : String := "connsniff"

def versionText : String := name ++ " 0.0.2\n"

def usageText : String := "Usage: " ++ name ++ " [OPTIONS] <CONFIG_FILE>\n"

def helpText : String :=
  "Peeks at the first bytes of every connection, then relays it untouched\n\n" ++ usageText ++
    "\nArguments:\n  <CONFIG_FILE>  Path to the TOML configuration file\n" ++
    "\nOptions:\n" ++
    "      --listen <LISTEN>      Overrides listen_address from the configuration file\n" ++
    "      --upstream <UPSTREAM>  Overrides upstream_address from the configuration file\n" ++
    "  -h, --help                 Print help\n" ++
    "  -V, --version              Print version\n"

def listenVariable : String := "CONNSNIFF_LISTEN"

def targetVariable : String := "CONNSNIFF_UPSTREAM"

structure Draft where
  configFile : Option String := none
  overrides : Overrides := {}

def Draft.operand? (d : Draft) (value : String) : Option Draft :=
  if d.configFile.isSome || value.isEmpty then none else some { d with configFile := some value }

def Draft.option? (d : Draft) (option value : String) : Option Draft :=
  match option with
  | "--listen" =>
    if d.overrides.listenAddress.isSome then none
    else some { d with overrides := { d.overrides with listenAddress := some value } }
  | "--upstream" =>
    if d.overrides.targetAddress.isSome then none
    else some { d with overrides := { d.overrides with targetAddress := some value } }
  | _ => none

def splitAtEquals (word : String) : String × Option String :=
  let front := word.toList.takeWhile (· ≠ '=')
  match word.toList.drop front.length with
  | [] => (word, none)
  | _ :: value => (String.ofList front, some (String.ofList value))

def isFlag (word : String) : Bool := word.startsWith "-" && word ≠ "-"

def scan (d : Draft) : List String → Except Request Draft
  | [] => .ok d
  | "--" :: operands =>
    match operands.foldlM Draft.operand? d with
    | some d => .ok d
    | none => .error .misuse
  | word :: rest =>
    if word = "--help" || word.startsWith "-h" then .error .help
    else if word = "--version" || word.startsWith "-V" then .error .version
    else if isFlag word then
      match splitAtEquals word, rest with
      | (option, some value), rest =>
        match d.option? option value with
        | some d => scan d rest
        | none => .error .misuse
      | (option, none), value :: rest =>
        match isFlag value, d.option? option value with
        | false, some d => scan d rest
        | _, _ => .error .misuse
      | _, [] => .error .misuse
    else
      match d.operand? word with
      | some d => scan d rest
      | none => .error .misuse

/-- Reads a command line; the environment fills in addresses that it does not give. -/
def read (environment : Overrides) (words : List String) : Request :=
  match scan {} words with
  | .error request => request
  | .ok { configFile := none, .. } => .misuse
  | .ok { configFile := some configFile, overrides } =>
    .serve {
      configFile
      overrides := {
        listenAddress := overrides.listenAddress <|> environment.listenAddress
        targetAddress := overrides.targetAddress <|> environment.targetAddress } }

end CommandLine

/-- Reads the configuration from the file that the arguments name, and reports on it. -/
def Arguments.prepare (a : Arguments) (file : FileContent) : Option Config × List Notice :=
  let start := Notice.importing a.configFile
  match Config.ofFile file with
  | .error e => (none, [start, .importFailed e])
  | .ok c =>
    match c.apply a.overrides with
    | (.error e, _) => (none, [start, .overrideRefused e])
    | (.ok (), c) => (some c, [start, .relaying c.listenAddress c.targetAddress c.sniffBytes])

end PeekRelay
