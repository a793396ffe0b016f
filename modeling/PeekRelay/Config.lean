import PeekRelay.HostAddress
import PeekRelay.Relay.Session
import PeekRelay.SocketAddress.Reader
/-!
# Configuration of the service

Where to listen, where to relay to (the upstream, here the target), and how much of a connection to
sniff for how long. A configuration holds any values; it is valid if both addresses and both numbers
are.
-/
namespace PeekRelay

structure Config where
  listenAddress : String
  targetAddress : String
  sniffBytes : Nat := 16
  /-- In milliseconds. -/
  sniffTimeout : Nat := 5000
  sniffer : SniffSettings := {}
  deriving DecidableEq, Repr

/-- Addresses that take the place of those of a configuration. -/
structure Overrides where
  listenAddress : Option String := none
  targetAddress : Option String := none
  deriving DecidableEq, Repr

namespace Config

def maxSniffBytes : Nat := 65536

/-- Reports the first value that is not valid. -/
def validate (c : Config) : Except ConfigError Unit :=
  if (SocketAddress.ofString? c.listenAddress).isNone then
    .error (.badAddress ("listen_address '" ++ c.listenAddress ++ "' is not a socket address"))
  else if !HostAddress.isNamed c.targetAddress then
    .error (.badAddress ("upstream_address '" ++ c.targetAddress ++ "' is not host:port"))
  else if c.sniffBytes = 0 ∨ maxSniffBytes < c.sniffBytes then
    .error (.outOfRange ("sniff_bytes must be between 1 and " ++ toString maxSniffBytes ++
      ", got " ++ toString c.sniffBytes))
  else if c.sniffTimeout = 0 then .error (.outOfRange "sniff_timeout_ms must be greater than 0")
  else .ok ()

/-- Puts the given addresses in; they stay even if they are not valid. -/
def overriding (c : Config) (o : Overrides) : Config :=
  { c with
    listenAddress := o.listenAddress.getD c.listenAddress
    targetAddress := o.targetAddress.getD c.targetAddress }

def apply (c : Config) (o : Overrides) : Except ConfigError Unit × Config :=
  let c := c.overriding o
  (c.validate, c)

def relaySettings (c : Config) : RelaySettings where
  sniffBytes := c.sniffBytes
  sniffTimeout := c.sniffTimeout
  keepCopies := c.sniffer.keepCopies

end Config

end PeekRelay
