/-!
# Readiness of descriptors

What a poll reports of a descriptor, and what it makes of an entry that asked to read or write.
-/
namespace ChannelReactor

structure PollFlags where
  input : Bool := false
  output : Bool := false
  hangup : Bool := false
  error : Bool := false
  invalid : Bool := false
deriving DecidableEq, Repr

namespace PollFlags

def none : PollFlags := {}

def isNone (f : PollFlags) : Bool := f == none

/-- What either of two reports says. -/
def union (a b : PollFlags) : PollFlags where
  input := a.input || b.input
  output := a.output || b.output
  hangup := a.hangup || b.hangup
  error := a.error || b.error
  invalid := a.invalid || b.invalid

/-- The other side is gone or failed. -/
def broken (f : PollFlags) : Bool := f.hangup || f.error

end PollFlags

/-- A descriptor in a poll, with what is asked of it. -/
structure PollInterest where
  descriptor : Int
  read : Bool
  write : Bool
deriving DecidableEq, Repr

/-- What a poll says of an entry in the terms of its interest. -/
structure Readiness where
  readable : Bool := false
  writable : Bool := false
  invalid : Bool := false
deriving DecidableEq, Repr

/-- A hang-up or an error makes an entry ready for all that it asked for, so that the next call
finds out. -/
def PollInterest.readiness (interest : PollInterest) (flags : PollFlags) : Readiness where
  readable := interest.read && (flags.input || flags.broken)
  writable := interest.write && (flags.output || flags.broken)
  invalid := flags.invalid

end ChannelReactor
