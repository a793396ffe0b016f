import PeekRelay.IoError
import PeekRelay.Mismatch
/-!
# Errors of the service

What can go wrong with the configuration, with the network, and with the service as a whole. Each
kind has one text, which ends in the text of its cause.
-/
namespace PeekRelay

inductive TomlReport where
  | malformed
  | oversized
  | unfit (mismatch : Mismatch)
  | verbatim (text : String)
  deriving DecidableEq, Repr

namespace TomlReport

def detail? : TomlReport → Option String
  | unfit mismatch => some mismatch.message
  | _ => none

def heading : String := "TOML parse error"

def message : TomlReport → String
  | malformed | oversized => heading
  | unfit mismatch => heading ++ ": " ++ mismatch.message
  | verbatim text => text

end TomlReport

inductive ConfigError where
  | io (cause : IoError)
  | toml (report : TomlReport)
  | badAddress (text : String)
  | outOfRange (text : String)
  deriving DecidableEq, Repr

def ConfigError.message : ConfigError → String
  | io cause => "IO error: " ++ cause.message
  | toml report => "TOML parsing error: " ++ report.message
  | badAddress text => "Address formatting error: " ++ text
  | outOfRange text => "Value out of range: " ++ text

inductive NetworkError where
  | bind (cause : IoError)
  | accept (cause : IoError)
  | channelClosed
  | connect (cause : IoError)
  | relay (cause : IoError)
  deriving DecidableEq, Repr

namespace NetworkError

def message : NetworkError → String
  | bind cause => "Network bind error: " ++ cause.message
  | accept cause => "Accept error: " ++ cause.message
  | channelClosed => "Network channel failed"
  | connect cause => "Upstream connection failed: " ++ cause.message
  | relay cause => "Relay error: " ++ cause.message

def cause? : NetworkError → Option IoError
  | bind cause | accept cause | connect cause | relay cause => some cause
  | channelClosed => none

end NetworkError

/-- How a task of the service came to no result. -/
inductive TaskFailure where
  | panicked (text : String)
  | cancelled
  deriving DecidableEq, Repr

/-- The number of the task is not told; `N` stands for it. -/
def TaskFailure.message : TaskFailure → String
  | panicked text => "task N panicked with message " ++ Quoted.text text
  | cancelled => "task N was cancelled"

inductive ControllerError where
  | configuration (cause : ConfigError)
  | network (cause : NetworkError)
  | task (cause : TaskFailure)
  deriving DecidableEq, Repr

def ControllerError.message : ControllerError → String
  | configuration cause => "Configuration error: " ++ cause.message
  | network cause => "Network error: " ++ cause.message
  | task cause => "Background task failed: " ++ cause.message

end PeekRelay
