import ChannelReactor.Failure.ChannelError
import ChannelReactor.Settings.Variables
import ChannelReactor.Time.SpanText

/-!
# Settings of reactors

How long an iteration waits for readiness, how many handed-over channels it takes, and the span
after which idle connections expire.
-/
namespace ChannelReactor

structure ReactorSettings where
  pollTimeout : Span := .ofMillis 100
  injectBatch : Nat := 256
  idleTimeout : Option Span := none
deriving DecidableEq, Repr

namespace ReactorSettings

def ofVariables (vars : Variables) : ReactorSettings where
  pollTimeout := (vars.millis? "GVNET_POLL_TIMEOUT_MS").getD (.ofMillis 100)
  injectBatch := (vars.count? "GVNET_INJECT_BATCH").getD 256
  idleTimeout := vars.millis? "GVNET_IDLE_TIMEOUT_MS"

/-- The greatest timeout of a poll, in milliseconds: a signed 32-bit number. -/
def greatestPollMillis : Nat := Nat.pow 2 31 - 1

/-- The first rule that the settings break. -/
def fault? (s : ReactorSettings) : Option SettingsError :=
  if s.injectBatch = 0 then some .injectBatchZero
  else if greatestPollMillis < s.pollTimeout.millis then some .pollTimeoutTooLong
  else if s.idleTimeout.any Span.isZero then some .idleTimeoutZero
  else none

def report (s : ReactorSettings) : String :=
  "gvnet reactor configuration:\n" ++
  "  poll_timeout:  " ++ s.pollTimeout.text ++ "\n" ++
  "  inject_batch:  " ++ toString s.injectBatch ++ "\n" ++
  "  idle_timeout:  " ++ Span.optionText s.idleTimeout ++ "\n"

end ReactorSettings

end ChannelReactor
