import ChannelReactor.Scenario.EchoService

/-!
# The echo program

Usage: `main [number] [connections]`. The client of the echo service is at the standard streams:
what it sends is read from standard input, and what it gets back is written to standard output.
Messages go to standard error; the number is what the service goes by in them.
-/
namespace ChannelReactor

/-- The variables that settings come from. -/
def settingNames : List String :=
  ["GVNET_READ_CHUNK", "GVNET_NODELAY", "GVNET_POLL_TIMEOUT_MS", "GVNET_INJECT_BATCH",
    "GVNET_IDLE_TIMEOUT_MS"]

def readVariables : IO Variables := do
  let found ← settingNames.mapM fun name => do
    return (← IO.getEnv name).map fun value => (name, value.toUTF8.toList)
  return found.filterMap id

def argument (args : List String) (index bits fallback : Nat) : Nat :=
  (args[index]?.bind fun text => Text.natural? (Variables.greatestWord bits) text.toList).getD
    fallback

end ChannelReactor

section

open ChannelReactor ChannelReactor.Scenario

def main (args : List String) : IO UInt32 := do
  let number := argument args 0 16 9999
  let vars ← readVariables
  let service : EchoService :=
    { channels := .ofVariables vars, reactor := .ofVariables vars,
      capacity := argument args 1 64 1024 }
  IO.eprint service.reactor.report
  let input ← (← IO.getStdin).readBinToEnd
  match service.serve input.toList with
  | .error failure =>
    IO.eprintln ("gvnet-echo: " ++ failure.message number)
    return 1
  | .ok session =>
    let output ← IO.getStdout
    output.write (ByteArray.mk session.output.toArray)
    output.flush
    IO.eprintln ("gvnet-echo: echoed " ++ toString session.echoed ++ " bytes")
    IO.eprintln ("gvnet-echo: " ++ session.stats.text)
    IO.eprintln "gvnet-echo: done."
    return 0

end
