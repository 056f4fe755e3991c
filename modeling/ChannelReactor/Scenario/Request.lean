import ChannelReactor.Settings.Channel
import ChannelReactor.Settings.Reactor

/-!
# Requests for settings

Settings as a scenario asks for them: those of the environment or the standard ones, with single
fields changed.
-/
namespace ChannelReactor.Scenario

structure SettingsRequest where
  environment : Variables := []
  /-- Starts from the variables instead of the standard settings. -/
  fromVariables : Bool := false
  readChunk : Option Nat := none
  nodelay : Option Bool := none
  pollTimeout : Option Span := none
  injectBatch : Option Nat := none
  /-- A change to a timeout or to none. -/
  idleTimeout : Option (Option Span) := none

namespace SettingsRequest

def channel (r : SettingsRequest) : ChannelSettings :=
  let base := if r.fromVariables then ChannelSettings.ofVariables r.environment else {}
  { readChunk := r.readChunk.getD base.readChunk, nodelay := r.nodelay.getD base.nodelay }

def reactor (r : SettingsRequest) : ReactorSettings :=
  let base := if r.fromVariables then ReactorSettings.ofVariables r.environment else {}
  { pollTimeout := r.pollTimeout.getD base.pollTimeout
    injectBatch := r.injectBatch.getD base.injectBatch
    idleTimeout := r.idleTimeout.getD base.idleTimeout }

end SettingsRequest

end ChannelReactor.Scenario
