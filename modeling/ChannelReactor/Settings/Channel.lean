import ChannelReactor.Failure.ChannelError
import ChannelReactor.Settings.Variables

/-!
# Settings of channels

The size of a channel's read buffer, and whether accepted connections send without delay.
-/
namespace ChannelReactor

structure ChannelSettings where
  readChunk : Nat := 1024
  nodelay : Bool := true
deriving DecidableEq, Repr

namespace ChannelSettings

def ofVariables (vars : Variables) : ChannelSettings where
  readChunk := (vars.count? "GVNET_READ_CHUNK").getD 1024
  nodelay := vars.flag "GVNET_NODELAY" true

/-- The first rule that the settings break. -/
def fault? (s : ChannelSettings) : Option SettingsError :=
  if s.readChunk = 0 then some .readChunkZero else none

end ChannelSettings

end ChannelReactor
