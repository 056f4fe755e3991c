import ChannelReactor.Time.Span

/-!
# Spans as text

A span is written in the largest of seconds, milliseconds, microseconds and nanoseconds in which
its whole part is not zero, with the rest as a fraction without trailing zeros: `2.5s`, `100ms`,
`1µs`, `0ns`.
-/
namespace ChannelReactor.Span

/-- The digits of `n`, padded with zeros on the left to `width` places. -/
def padded (width n : Nat) : List Char :=
  let digits := Nat.toDigits 10 n
  List.replicate (width - digits.length) '0' ++ digits

/-- The fraction `part / 10 ^ places` as text: nothing when it is zero, else a point and the
digits up to the last one that is not zero. -/
def fractionText (places part : Nat) : String :=
  if part = 0 then ""
  else String.ofList ('.' :: ((padded places part).reverse.dropWhile (· == '0')).reverse)

/-- A span in a unit of `10 ^ places` nanoseconds. -/
def inUnit (d : Span) (places : Nat) (unit : String) : String :=
  let whole := Nat.pow 10 places
  toString (d.nanos / whole) ++ fractionText places (d.nanos % whole) ++ unit

def text (d : Span) : String :=
  if 1000000000 ≤ d.nanos then d.inUnit 9 "s"
  else if 1000000 ≤ d.nanos then d.inUnit 6 "ms"
  else if 1000 ≤ d.nanos then d.inUnit 3 "µs"
  else d.inUnit 0 "ns"

def optionText : Option Span → String
  | none => "None"
  | some d => "Some(" ++ d.text ++ ")"

end ChannelReactor.Span
