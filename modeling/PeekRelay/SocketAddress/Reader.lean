import PeekRelay.ByteStream
import PeekRelay.HostAddress
import PeekRelay.SocketAddress
/-!
# Reading socket addresses

IPv4 is a strict dotted quad without leading zeros. IPv6 stands in brackets, may leave out one row
of zero groups, may end in a dotted quad and may carry a decimal scope. The number of the service is
decimal, at most 65535, with any leading zeros. A text names a socket address directly, or by a host
that is known by its number or by name.
-/
namespace PeekRelay.SocketAddress

private def isDigitOf (base : Nat) (c : Char) : Bool :=
  Decimal.isDigit c ||
    (base = 16 && (('a' ≤ c && c ≤ 'f') || ('A' ≤ c && c ≤ 'F')))

private def valueOf (base : Nat) (ds : List Char) : Nat :=
  ds.foldl (fun n c =>
    base * n + (if c ≤ '9' then c.toNat - 48 else if c ≤ 'F' then c.toNat - 55 else c.toNat - 87)) 0

private def number? (base limit : Nat) (maxDigits : Option Nat) (zeros : Bool) (cs : List Char) :
    Option (Nat × List Char) :=
  let ds := cs.takeWhile (isDigitOf base)
  if ds = [] ∨ (maxDigits.any fun m => m < ds.length) ∨
      (zeros = false ∧ ds.head? = some '0' ∧ 1 < ds.length) ∨ limit < valueOf base ds then none
  else some (valueOf base ds, cs.drop ds.length)

private def exactly? (c : Char) : List Char → Option (List Char)
  | [] => none
  | d :: rest => if d = c then some rest else none

private def octet? (cs : List Char) : Option (UInt8 × List Char) := do
  let (n, rest) ← number? 10 255 (some 3) false cs
  pure (UInt8.ofNat n, rest)

private def ipv4? (cs : List Char) : Option (Ipv4 × List Char) := do
  let (a, cs) ← octet? cs
  let cs ← exactly? '.' cs
  let (b, cs) ← octet? cs
  let cs ← exactly? '.' cs
  let (c, cs) ← octet? cs
  let cs ← exactly? '.' cs
  let (d, cs) ← octet? cs
  pure (⟨a, b, c, d⟩, cs)

private def joined (high low : UInt8) : UInt16 := high.toUInt16 * 256 + low.toUInt16

private def afterColon? (first : Bool) (cs : List Char) : Option (List Char) :=
  if first then some cs else exactly? ':' cs

/-- Up to `limit` groups, whether they end in a dotted quad, and the rest of the text. -/
private def groups (first : Bool) : Nat → List Char → List UInt16 × Bool × List Char
  | 0, cs => ([], false, cs)
  | limit + 1, cs =>
    let quad := if 1 ≤ limit then afterColon? first cs >>= ipv4? else none
    match quad with
    | some (ip, rest) => ([joined ip.a ip.b, joined ip.c ip.d], true, rest)
    | none =>
      match afterColon? first cs >>= number? 16 65535 (some 4) true with
      | none => ([], false, cs)
      | some (g, rest) =>
        let (gs, quad, rest) := groups false limit rest
        (UInt16.ofNat g :: gs, quad, rest)

private def ofGroups? (gs : List UInt16) : Option Ipv6 :=
  if h : gs.length = 8 then some ⟨gs, h⟩ else none

private def ipv6? (cs : List Char) : Option (Ipv6 × List Char) :=
  let (head, quad, rest) := groups true 8 cs
  if head.length = 8 then do
    let ip ← ofGroups? head
    pure (ip, rest)
  else if quad then none
  else do
    let rest ← exactly? ':' rest
    let rest ← exactly? ':' rest
    let (tail, _, rest) := groups true (7 - head.length) rest
    let ip ← ofGroups? (head ++ List.replicate (8 - head.length - tail.length) 0 ++ tail)
    pure (ip, rest)

private def service? (cs : List Char) : Option (UInt16 × List Char) := do
  let cs ← exactly? ':' cs
  let (n, rest) ← number? 10 65535 none true cs
  pure (UInt16.ofNat n, rest)

private def scope? (cs : List Char) : Option (UInt32 × List Char) :=
  match cs with
  | '%' :: rest => do
    let (n, rest) ← number? 10 4294967295 none true rest
    pure (UInt32.ofNat n, rest)
  | cs => some (0, cs)

private def v4? (cs : List Char) : Option (SocketAddress × List Char) := do
  let (ip, cs) ← ipv4? cs
  let (service, cs) ← service? cs
  pure (v4 ip service, cs)

private def v6? (cs : List Char) : Option (SocketAddress × List Char) := do
  let cs ← exactly? '[' cs
  let (ip, cs) ← ipv6? cs
  let (scope, cs) ← scope? cs
  let cs ← exactly? ']' cs
  let (service, cs) ← service? cs
  pure (v6 ip scope service, cs)

def read? (cs : List Char) : Option SocketAddress :=
  match v4? cs <|> v6? cs with
  | some (address, []) => some address
  | _ => none

def ofString? (s : String) : Option SocketAddress := read? s.toList

def ofNumericHost? (a : HostAddress) : Option SocketAddress :=
  match ofString? (a.host ++ ":0") <|> ofString? ("[" ++ a.host ++ "]:0") with
  | some (v4 ip _) => some (v4 ip a.service)
  | some (v6 ip scope _) => some (v6 ip scope a.service)
  | none => none

/-- The address that a text names, where `lookUp` knows the names of hosts. -/
def resolve (lookUp : HostAddress → Option SocketAddress) (s : String) : Result SocketAddress :=
  match ofString? s, HostAddress.ofString s with
  | some address, _ => .ok address
  | none, .error .noColon => .error (.custom .invalidInput "invalid socket address")
  | none, .error .badService => .error (.custom .invalidInput "invalid port value")
  | none, .ok a =>
    match ofNumericHost? a <|> lookUp a with
    | some address => .ok address
    | none =>
      .error (.custom .uncategorized
        "failed to lookup address information: Name or service not known")

/-- Whether an address is one of the machine itself or stands for all of them. -/
def isLocal : SocketAddress → Bool
  | v4 ip _ => ip.a = 127 || ip = ⟨0, 0, 0, 0⟩
  | v6 ip _ _ => ip.groups.take 7 = List.replicate 7 0 && ip.groups.getLast?.any (· ≤ 1)

end PeekRelay.SocketAddress
