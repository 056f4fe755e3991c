import ChannelReactor.Channel.Kinds
import ChannelReactor.Scenario.Line

/-!
# Stubs

A stub is a channel without a transport, whose callbacks end as a script says.
-/
namespace ChannelReactor.Scenario

inductive StubAct where
  | fine
  | data (bytes : Bytes)
  | notAvailable
  | misuse
  | closed
  | fails
deriving DecidableEq, Repr

/-- A channel with scripted callbacks. Its label is also its name in events. -/
structure Stub where
  core : ChannelCore
  descriptor : Int
  listening : Bool := false
  pending : Bool := false
  modeResults : List (Option IoError) := []
  onRead : List StubAct := []
  onWrite : List StubAct := []
deriving DecidableEq, Repr

namespace Stub

def mapCore (f : ChannelCore → ChannelCore) (s : Stub) : Stub := { s with core := f s.core }

def applyMode (mode : WaitMode) : Action Bench ChannelError Stub Unit := do
  let s ← Action.subject
  let (result, rest) := nextResult s.modeResults
  Action.update fun s => { s with modeResults := rest }
  match result with
  | none => record (.mode s.core.label (.ok mode))
  | some e =>
    record (.mode s.core.label (.error e.kind))
    Action.refuse (.failed e)

def perform : StubAct → Action Bench ChannelError Stub Unit
  | .fine => pure ()
  | .data bytes => Action.update (mapCore (·.receive bytes))
  | .notAvailable => Action.refuse .dataNotAvailable
  | .misuse => Action.refuse (.misuse (.custom "mock"))
  | .closed => do
    Action.update (mapCore ChannelCore.deactivate)
    Action.refuse .closed
  | .fails => do
    Action.update (mapCore ChannelCore.deactivate)
    Action.refuse (.failed (.failure "boom"))

instance : ChannelOps Bench Stub where
  core := core
  mapCore := mapCore
  applyMode := applyMode
  descriptor s :=
    if s.core.active then .ok s.descriptor else .error (.failed (.failure "closed"))
  read count opts := do
    match (← Action.subject).core.takeInput count opts with
    | .ok (data, core) =>
      Action.update (mapCore fun _ => core)
      pure data
    | .error e => Action.refuse e
  write data := Action.update (mapCore (·.enqueue data))
  onRead := do
    let s ← Action.subject
    record (.onRead s.core.label)
    Action.update fun s => { s with onRead := s.onRead.tail }
    perform (s.onRead.headD .fine)
  onWrite := do
    let s ← Action.subject
    record (.onWrite s.core.label)
    Action.update fun s => { s with onWrite := s.onWrite.tail }
    perform (s.onWrite.headD .fine)
  close := do
    record (.close (← Action.subject).core.label (.ok ()))
    Action.update (mapCore ChannelCore.deactivate)
  isWritePending := pending
  isListening := listening
  patience s := s.onRead.length + s.onWrite.length

end Stub

abbrev BenchChannel := Channel Line Source Stub

namespace BenchChannel

/-- A channel with the scripted device below it changed. -/
def mapDevices (f : Wire → Wire) (g : Gate → Gate) : BenchChannel → BenchChannel
  | .connection c => .connection { c with transport := c.transport.map (lineMap f) }
  | .listener l => .listener { l with acceptor := l.acceptor.map (sourceMap g) }
  | .custom s => .custom s
  | .expiring inner last interval => .expiring (mapDevices f g inner) last interval
where
  lineMap (f : Wire → Wire) : Line → Line
    | .wire w => .wire (f w)
    | line => line
  sourceMap (g : Gate → Gate) : Source → Source
    | .gate p => .gate (g p)
    | source => source

/-- The loopback sockets that a channel holds: connected ends, and listening sockets. -/
def sockets : BenchChannel → List Nat × List Nat
  | .connection c =>
    match c.transport with
    | some (.socket i _) => ([i], [])
    | _ => ([], [])
  | .listener l =>
    match l.acceptor with
    | some (.socket i _) => ([], [i])
    | _ => ([], [])
  | .custom _ => ([], [])
  | .expiring inner _ _ => sockets inner

/-- Whether a channel is over a loopback socket. -/
def overSocket (c : BenchChannel) : Bool := !c.sockets.1.isEmpty || !c.sockets.2.isEmpty

end BenchChannel

end ChannelReactor.Scenario
