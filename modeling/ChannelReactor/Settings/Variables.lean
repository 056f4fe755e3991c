import ChannelReactor.ByteQueue
import ChannelReactor.Text.Blank
import ChannelReactor.Text.Caseless
import ChannelReactor.Text.Numeral
import ChannelReactor.Time.Span

/-!
# Environment variables

Settings come from named variables. A value is read without the blanks around it; one that does
not parse, or is not text, counts as missing.
-/
namespace ChannelReactor

/-- The variables of a process: names with their bytes. -/
abbrev Variables := List (String × Bytes)

namespace Variables

/-- The text of a variable, if it is set and is text. -/
def text? (vars : Variables) (name : String) : Option String :=
  (vars.lookup name).bind fun bytes => String.fromUTF8? (ByteArray.mk bytes.toArray)

/-- The value of a variable as `parse` reads it. -/
def get? (vars : Variables) (name : String) (parse : List Char → Option α) : Option α :=
  (vars.text? name).bind fun text => parse (Text.trimmed text.toList)

/-- The value of a variable, or `fallback` when it is missing. -/
def getD (vars : Variables) (name : String) (parse : List Char → Option α) (fallback : α) : α :=
  (vars.get? name parse).getD fallback

/-- The greatest number of an unsigned word. -/
def greatestWord (bits : Nat) : Nat := Nat.pow 2 bits - 1

def count? (vars : Variables) (name : String) : Option Nat :=
  vars.get? name (Text.natural? (greatestWord 64))

/-- The spellings of a flag that is on. -/
def onSpellings : List String := ["1", "true", "yes", "on"]

/-- A flag: on exactly in its four spellings in any case, `fallback` when it is missing. -/
def flag (vars : Variables) (name : String) (fallback : Bool) : Bool :=
  match vars.text? name with
  | none => fallback
  | some text =>
    onSpellings.contains (String.ofList (Text.lowered (Text.trimmed text.toList)))

def millis? (vars : Variables) (name : String) : Option Span :=
  (vars.count? name).map Span.ofMillis

end Variables

end ChannelReactor
