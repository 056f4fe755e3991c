import ChannelReactor.Failure.ChannelError

/-!
# What a reactor can fail with

The errors of a readiness poll and of a reactor.
-/
namespace ChannelReactor

/-- The errors of a readiness poll. -/
inductive PollError where
  | interrupted
  | badDescriptor
  | invalidArgument
  | outOfMemory
  | badAddress
  | tryAgain
deriving DecidableEq, Repr

namespace PollError

def symbol : PollError → String
  | interrupted => "EINTR"
  | badDescriptor => "EBADF"
  | invalidArgument => "EINVAL"
  | outOfMemory => "ENOMEM"
  | badAddress => "EFAULT"
  | tryAgain => "EAGAIN"

def all : List PollError :=
  [interrupted, badDescriptor, invalidArgument, outOfMemory, badAddress, tryAgain]

def ofSymbol? (symbol : String) : Option PollError := all.find? fun e => e.symbol == symbol

def description : PollError → String
  | interrupted => "Interrupted system call"
  | badDescriptor => "Bad file number"
  | invalidArgument => "Invalid argument"
  | outOfMemory => "Out of memory"
  | badAddress => "Bad address"
  | tryAgain => "Try again"

def message (e : PollError) : String := e.symbol ++ ": " ++ e.description

end PollError

/-- The number under which a reactor knows a channel. -/
abbrev ChannelId := Nat

def ChannelId.text (id : ChannelId) : String := "#" ++ toString id

/-- Why a reactor refuses an operation. -/
inductive ReactorError where
  | poll (error : PollError)
  | channel (error : ChannelError)
  | settings (error : SettingsError)
  | unknownChannel (id : ChannelId)
deriving DecidableEq, Repr

def ReactorError.message : ReactorError → String
  | poll error => "readiness poll failed: " ++ error.message
  | channel error => error.message
  | settings error => error.message
  | unknownChannel id => "no channel " ++ ChannelId.text id ++ " in this reactor"

end ChannelReactor
