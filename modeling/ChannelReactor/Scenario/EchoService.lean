import ChannelReactor.Scenario.Run

/-!
# The echo service

The echo application with one client, which sends its input and hangs up: what it gets back, and
what the service counts meanwhile.
-/
namespace ChannelReactor.Scenario

structure EchoService where
  channels : ChannelSettings := {}
  reactor : ReactorSettings := {}
  capacity : Nat := 1024

/-- What came of a session with a client. -/
structure EchoSession where
  output : Bytes
  /-- The bytes that the application counts as sent back. -/
  echoed : Nat
  stats : ReactorStats

/-- Why a service does not come up. -/
inductive EchoFailure where
  | bind (error : ChannelError)
  | start (error : ReactorError)
  | listen (error : ReactorError)
  | halted (halt : Halt)

/-- What an operator is told, who knows the service by a number. -/
def EchoFailure.message (service : Nat) : EchoFailure → String
  | bind e => "bind port " ++ toString service ++ ": " ++ e.message
  | start e => e.message
  | listen e => "listen: " ++ e.message
  | halted h => h.message

namespace EchoService

/-- The descriptor that connections come in on. -/
def doorway : Int := 3

def clientDescriptor : Int := 4

/-- A client that sends its input and hangs up. -/
def client (input : Bytes) : Wire where
  name := "client"
  descriptor := clientDescriptor
  script.recv := [{ act := .data input }, { act := .ended }]

/-- The acceptor of a service with one client. -/
def door (input : Bytes) : Gate where
  name := "door"
  descriptor := doorway
  accepts := [.connects (client input) "client"]

/-- Iterations enough to accept the client, to read its input chunk by chunk, and to see it hang
up. Something is to be read at each of them. -/
def polls (service : EchoService) (input : Bytes) : List PollScript :=
  List.replicate (input.length / service.channels.readChunk + 4)
    { ready := [(doorway, { input := true }), (clientDescriptor, { input := true })] }

def steps (service : EchoService) (input : Bytes) : List Step :=
  let echo : Echo :=
    { idleTimeout := service.reactor.idleTimeout, capacity := service.capacity }
  [{ deed := .makeListener "door" .plain service.channels (door input) },
   { deed := .makeReactor "echo" { manager := .echo echo } service.reactor },
   { deed := .onReactor "echo" (.listen "door") },
   { deed := .onReactor "echo" (.run (service.polls input)), reactor := some "echo" }]

/-- What a client is sent in an event. -/
def sentBytes : Event → Bytes
  | .sent _ data => data
  | _ => []

/-- A session with a client that sends `input`. -/
def serve (service : EchoService) (input : Bytes) : Except EchoFailure EchoSession :=
  match run .start (service.steps input) with
  | { reply := .channelError e, .. } :: _ => .error (.bind e)
  | _ :: { reply := .reactorError e, .. } :: _ => .error (.start e)
  | _ :: _ :: { reply := .reactorError e, .. } :: _ => .error (.listen e)
  | lines =>
    match lines.getLast? with
    | some { reply := .halted h, .. } => .error (.halted h)
    | last =>
      let summary := last.bind (·.summary)
      .ok {
        output := (last.map fun line => line.events.flatMap sentBytes).getD []
        echoed := ((summary.bind (·.echo)).map (·.2)).getD 0
        stats := (summary.map (·.stats)).getD {} }

end EchoService

end ChannelReactor.Scenario
