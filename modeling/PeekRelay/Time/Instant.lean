import PeekRelay.Text.Numerals
/-!
# Instants and spans

A moment in UTC, by seconds since 1970 and nanoseconds. A leap second is a second with more than
10⁹ nanoseconds, and only the last second of a minute can be one. A span of time is a number of
milliseconds. From one second on it is shown in seconds, without trailing zeros, and below that in
milliseconds.
-/
namespace PeekRelay

structure Instant where
  seconds : Int
  nanos : Nat
  inRange : -8334601228800 ≤ seconds ∧ seconds ≤ 8210266876799
  fraction : nanos < 1000000000 ∨ (nanos < 2000000000 ∧ seconds % 60 = 59)
  deriving DecidableEq

namespace Instant

/-- The instant with these seconds and nanoseconds, if the years -262143 to 262142 hold it. -/
def ofUnix? (seconds : Int) (nanos : Nat) : Option Instant :=
  if h : (-8334601228800 ≤ seconds ∧ seconds ≤ 8210266876799) ∧
      (nanos < 1000000000 ∨ (nanos < 2000000000 ∧ seconds % 60 = 59)) then
    some ⟨seconds, nanos, h.1, h.2⟩
  else none

def epoch : Instant := ⟨0, 0, by decide, by decide⟩

instance : Inhabited Instant := ⟨epoch⟩

/-- Orders instants: a leap second comes before the second that follows it. -/
def rank (t : Instant) : Int := t.seconds * 2000000000 + t.nanos

instance : LE Instant := ⟨fun a b => a.rank ≤ b.rank⟩

instance (a b : Instant) : Decidable (a ≤ b) := inferInstanceAs (Decidable (a.rank ≤ b.rank))

end Instant

namespace Span

private def fraction (ms : Nat) : List Char :=
  let ds := ((Decimal.padded 3 ms).reverse.dropWhile (· = '0')).reverse
  if ds = [] then [] else '.' :: ds

def text (ms : Nat) : String :=
  if ms = 0 then "0ns"
  else if ms < 1000 then String.ofList (Decimal.write ms ++ ['m', 's'])
  else String.ofList (Decimal.write (ms / 1000) ++ fraction (ms % 1000) ++ ['s'])

end Span

end PeekRelay
