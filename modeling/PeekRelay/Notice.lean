import PeekRelay.Event
import PeekRelay.ServiceError
/-!
# Notices of the service

What the service as a whole reports to the log, apart from its single connections.
-/
namespace PeekRelay

inductive Notice where
  | listening (address : String)
  | bindFailed (address : String) (cause : IoError)
  | acceptFailed (cause : IoError)
  | acceptLoopFailed (cause : TaskFailure)
  | importing (path : String)
  | importFailed (cause : ConfigError)
  | overrideRefused (cause : ConfigError)
  | relaying (listen target : String) (sniffBytes : Nat)
  | stopped (cause : ControllerError)
  deriving DecidableEq, Repr

def IoError.details : IoError → String
  | .os code =>
    "Os \x7b code: " ++ toString code ++ ", kind: " ++ (IoError.os code).kind.name ++
      ", message: " ++ Quoted.text (IoError.system code).2 ++ " \x7d"
  | .bare kind => "Kind(" ++ kind.name ++ ")"
  | .custom kind text =>
    "Error \x7b kind: " ++ kind.name ++ ", message: " ++ Quoted.text text ++ " \x7d"

namespace Notice

def level : Notice → Level
  | listening _ | importing _ | relaying _ _ _ => .info
  | _ => .error

def message : Notice → String
  | listening address => "Listening on " ++ address
  | bindFailed address cause => "[!] Unable to bind " ++ address ++ ": " ++ cause.details
  | acceptFailed cause => "[!] Accept failed: " ++ cause.details
  | acceptLoopFailed cause => "[!] Accept loop task failed: " ++ cause.message
  | importing path => "Importing configuration from " ++ path
  | importFailed cause => "Unable to import configuration from file: " ++ cause.message
  | overrideRefused cause => "Invalid command-line override: " ++ cause.message
  | relaying listen target sniffBytes =>
    "Relaying " ++ listen ++ " -> " ++ target ++ " after sniffing " ++ toString sniffBytes ++
      " bytes"
  | stopped cause => "Error occured in the controller process: " ++ cause.message ++ ", exiting..."

def record (n : Notice) : String := n.level.name ++ " " ++ n.message

end Notice

end PeekRelay
