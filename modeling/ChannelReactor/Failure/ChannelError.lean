import ChannelReactor.Failure.IoError

/-!
# What can go wrong

The causes for which settings, channels and reactors refuse an operation, and the wording of each.
-/
namespace ChannelReactor

/-- What is wrong with settings. -/
inductive SettingsError where
  | readChunkZero
  | injectBatchZero
  | pollTimeoutTooLong
  | idleTimeoutZero
deriving DecidableEq, Repr

namespace SettingsError

def rule : SettingsError → String
  | readChunkZero => "read_chunk must be > 0"
  | injectBatchZero => "inject_batch must be > 0"
  | pollTimeoutTooLong => "poll_timeout must fit in i32 milliseconds"
  | idleTimeoutZero => "idle_timeout must be > 0 when set"

def message (e : SettingsError) : String := "invalid config: " ++ e.rule

end SettingsError

/-- An operation that a channel does not offer in its state or by its nature. -/
inductive Misuse where
  | acceptOnStream
  | modeChangeWhileRegistered
  | alreadyRegistered
  | readOnListener
  | writeOnListener
  | onReadOnListener
  | listenOnStream
  | settings (error : SettingsError)
  | custom (text : String)
deriving DecidableEq, Repr

def Misuse.text : Misuse → String
  | acceptOnStream => "accept on a stream channel"
  | modeChangeWhileRegistered => "timeout change on a reactor-registered channel"
  | alreadyRegistered => "channel already registered with a reactor"
  | readOnListener => "read on a listening channel"
  | writeOnListener => "write on a listening channel"
  | onReadOnListener => "on_read on a listening channel"
  | listenOnStream => "listen with a non-listening channel"
  | settings error => error.rule
  | custom text => text

/-- Why a channel refuses an operation. -/
inductive ChannelError where
  /-- Nothing is there yet; the operation may be tried again. -/
  | dataNotAvailable
  /-- The channel is at its end. -/
  | closed
  | failed (error : IoError)
  | misuse (what : Misuse)
deriving DecidableEq, Repr

namespace ChannelError

/-- An error that will pass. -/
def isTransient : ChannelError → Bool
  | dataNotAvailable => true
  | _ => false

/-- An error after which the channel is of no more use. -/
def isFatal : ChannelError → Bool
  | closed | failed _ => true
  | _ => false

def message : ChannelError → String
  | dataNotAvailable => "data not available"
  | closed => "channel closed"
  | failed error => "underlying failure: " ++ error.text
  | misuse what => "invalid operation: " ++ what.text

/-- The error below this one. -/
def cause? : ChannelError → Option IoError
  | failed error => some error
  | _ => none

/-- Settings that a channel cannot be made with. -/
def ofSettings (error : SettingsError) : ChannelError := misuse (.settings error)

end ChannelError

end ChannelReactor
