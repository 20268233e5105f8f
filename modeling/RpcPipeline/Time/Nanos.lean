/-!
# `RpcPipeline.Time.Nanos`: spans and points of time

Spans of time are whole numbers of nanoseconds, and points of time are spans
since the program began. Both are natural numbers, so that subtraction stops at
zero: the span from a later point back to an earlier one is empty.

Points of time have no end. A clock of fixed width overflows at some point, and a
program that adds a span to its time can stop there. Here the sum is always a
point of time, and only spans that are read or computed are kept to `Nanos.longest`.
-/

set_option autoImplicit false

namespace RpcPipeline

/-- A span of time, in nanoseconds. -/
abbrev Nanos := Nat

/-- A point of time, in nanoseconds since the program began. -/
abbrev Instant := Nat

namespace Nanos

/-- Nanoseconds in a second. -/
def perSecond : Nat := 1000000000

/-- Nanoseconds in a millisecond. -/
def perMilli : Nat := 1000000

/-- A span of whole seconds. -/
def seconds (n : Nat) : Nanos := n * perSecond

/-- A span of whole milliseconds. -/
def millis (n : Nat) : Nanos := n * perMilli

/-- The longest span: whole seconds fill 64 bits, nanoseconds stop short of the
next second. -/
def longest : Nanos := UInt64.size * perSecond - 1

/-- The first whole millisecond that is not before an instant. -/
def ceilMilli (t : Instant) : Instant := (t + perMilli - 1) / perMilli * perMilli

/-- The whole milliseconds in a span. -/
def wholeMillis (span : Nanos) : Nat := span / perMilli

/-- A decimal number of units of `10 ^ places` nanoseconds, without trailing
zeros. -/
def decimalText (span : Nanos) (places : Nat) : String :=
  let whole := span / Nat.pow 10 places
  let rest := span % Nat.pow 10 places
  if rest = 0 then toString whole
  else
    let digits := (toString rest).toList
    let padded := List.replicate (places - digits.length) '0' ++ digits
    let trimmed := (padded.reverse.dropWhile (· = '0')).reverse
    toString whole ++ "." ++ String.ofList trimmed

/-- A span in the largest unit of which it holds at least one, as debug texts
show it. -/
def debugText (span : Nanos) : String :=
  if perSecond ≤ span then decimalText span 9 ++ "s"
  else if perMilli ≤ span then decimalText span 6 ++ "ms"
  else if 1000 ≤ span then decimalText span 3 ++ "µs"
  else toString span ++ "ns"

end Nanos

end RpcPipeline
