/-!
# Numerals

Decimal integers as settings spell them: an optional sign, then one or more ASCII digits, with a
value in a given range. A minus sign is only admitted where the range has negative numbers.
-/
namespace ChannelReactor.Text

def digit? (c : Char) : Option Nat :=
  if '0' ≤ c ∧ c ≤ '9' then some (c.toNat - '0'.toNat) else none

/-- The value of a run of digits after the digits that make up `value`. -/
def digitsValue? (value : Nat) : List Char → Option Nat
  | [] => some value
  | c :: rest => (digit? c).bind fun d => digitsValue? (value * 10 + d) rest

/-- The value of one or more digits. -/
def unsigned? : List Char → Option Nat
  | [] => none
  | cs => digitsValue? 0 cs

/-- A natural number up to `greatest`, with an optional plus sign. -/
def natural? (greatest : Nat) (text : List Char) : Option Nat :=
  let digits := match text with
    | '+' :: rest => rest
    | _ => text
  (unsigned? digits).filter (· ≤ greatest)

/-- A signed number of `bits` bits, with an optional sign. -/
def signed? (bits : Nat) (text : List Char) : Option Int :=
  let value := match text with
    | '-' :: rest => (unsigned? rest).map fun n => -(n : Int)
    | '+' :: rest => (unsigned? rest).map fun n => (n : Int)
    | _ => (unsigned? text).map fun n => (n : Int)
  let bound : Int := Nat.pow 2 (bits - 1)
  value.filter fun v => -bound ≤ v && v < bound

def truth? (text : List Char) : Option Bool :=
  if text = ['t', 'r', 'u', 'e'] then some true
  else if text = ['f', 'a', 'l', 's', 'e'] then some false
  else none

end ChannelReactor.Text
