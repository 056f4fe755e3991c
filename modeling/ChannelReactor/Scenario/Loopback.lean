import ChannelReactor.Failure.IoError
import ChannelReactor.Scenario.Packet

/-!
# Loopback sockets

Connected pairs of stream sockets on one machine, and listening sockets with the connections that
wait to be accepted. Bytes sent at one end can be received at the other at once; until then they
take up memory, of which each end has an allowance. The machine has no route to other hosts, not
even to itself by an internet address.
-/
namespace ChannelReactor.Scenario

/-- One end of a connected pair. -/
structure SocketEnd where
  peer : Nat
  incoming : List Packet := []
  /-- Nothing can be sent to this end or received at it any more. -/
  shut : Bool := false
  /-- The other end went away without receiving all that was sent to it, or without being
  accepted. -/
  reset : Bool := false
  /-- A listening socket has it in its backlog. -/
  waiting : Bool := false
  gone : Bool := false
deriving DecidableEq, Repr

structure Loopback where
  ends : List SocketEnd := []
  /-- For each listening socket the ends that wait to be accepted. -/
  backlogs : List (List Nat) := []
deriving DecidableEq, Repr

namespace Loopback

/-- The internet address of the machine. -/
def address : String := "127.0.0.1"

def brokenPipe : IoError := .system 32

def notReady : IoError := .system 11

def resetByPeer : IoError := .system 104

def unreachable : IoError := .system 101

def modifyEnd (i : Nat) (f : SocketEnd → SocketEnd) (l : Loopback) : Loopback :=
  { l with ends := l.ends.modify i f }

/-- Two new ends, connected with each other. -/
def pair (l : Loopback) : (Nat × Nat) × Loopback :=
  let n := l.ends.length
  ((n, n + 1), { l with ends := l.ends ++ [{ peer := n + 1 }, { peer := n }] })

def listen (l : Loopback) : Nat × Loopback :=
  (l.backlogs.length, { l with backlogs := l.backlogs ++ [[]] })

/-- Connects to a listening socket, which finds the other end in its backlog. -/
def connect (listener : Nat) (l : Loopback) : Nat × Loopback :=
  let ((near, far), l) := l.pair
  let l := l.modifyEnd far fun e => { e with waiting := true }
  (near, { l with backlogs := l.backlogs.modify listener (· ++ [far]) })

/-- Sends the front of some bytes, as far as the allowance goes, unless one of the ends is shut.
An end that has used up its allowance is not ready. -/
def send (i : Nat) (data : Bytes) (l : Loopback) : Except IoError Nat × Loopback :=
  match l.ends[i]?.bind fun e => (l.ends[e.peer]?).map (e, ·) with
  | none => (.error brokenPipe, l)
  | some (e, p) =>
    if e.shut || p.shut then (.error brokenPipe, l)
    else
      let packets := Packet.cut (Packet.charge p.incoming) data
      let accepted := (Packet.bytes packets).length
      if accepted = 0 && !data.isEmpty then (.error notReady, l)
      else
        (.ok accepted, l.modifyEnd e.peer fun p => { p with incoming := p.incoming ++ packets })

/-- Receives at most so many bytes; none at the end of the other side's output. -/
def recv (i : Nat) (limit : Nat) (l : Loopback) : Except IoError Bytes × Loopback :=
  match l.ends[i]? with
  | none => (.ok [], l)
  | some e =>
    if !e.incoming.isEmpty then
      let (data, left) := Packet.receive limit e.incoming
      (.ok data, l.modifyEnd i fun e => { e with incoming := left })
    else if e.reset then (.error resetByPeer, l.modifyEnd i fun e => { e with reset := false })
    else if e.shut || (l.ends[e.peer]?.all (·.shut)) then (.ok [], l)
    else (.error notReady, l)

def closeEnd (i : Nat) (l : Loopback) : Loopback :=
  match l.ends[i]? with
  | none => l
  | some e =>
    if e.gone then l
    else
      let lost := !e.incoming.isEmpty || e.waiting
      (l.modifyEnd e.peer fun p => { p with reset := p.reset || lost }).modifyEnd i fun e =>
        { e with shut := true, gone := true }

/-- The next connection of a listening socket. -/
def accept (listener : Nat) (l : Loopback) : Except IoError Nat × Loopback :=
  match l.backlogs[listener]? with
  | some (next :: rest) =>
    (.ok next,
      { l with backlogs := l.backlogs.set listener rest }.modifyEnd next fun e =>
        { e with waiting := false })
  | _ => (.error notReady, l)

end Loopback

end ChannelReactor.Scenario
