import ChannelReactor.Channel.Kinds
import ChannelReactor.Scenario.Wire

/-!
# Lines and sources

The transports of a scenario are scripted wires and loopback sockets, and its acceptors are
scripted gates and listening sockets.
-/
namespace ChannelReactor.Scenario

inductive Line where
  | wire (w : Wire)
  | socket (index : Nat) (label : String)
deriving DecidableEq, Repr

namespace Line

variable {α : Type}

/-- The descriptor of a socket; it is never shown. -/
def socketDescriptor : Int := 3

def onWire (w : Wire) (x : Action Bench IoError Wire α) : Action Bench IoError Line α := fun _ b =>
  match x w b with
  | .done a w b => .done a (wire w) b
  | .refused e w b => .refused e (wire w) b
  | .halted h b => .halted h b

def onLoopback {σ : Type} (f : Loopback → Except IoError α × Loopback) :
    Action Bench IoError σ α := do
  Action.ofExcept (← Action.onMachine fun b =>
    let (answer, loopback) := f b.loopback
    (answer, { b with loopback }))

def send (data : Bytes) : Action Bench IoError Line Nat := do
  match ← Action.subject with
  | wire w => onWire w (Wire.send data)
  | socket i _ => onLoopback (Loopback.send i data)

def recv (limit : Nat) : Action Bench IoError Line Bytes := do
  match ← Action.subject with
  | wire w => onWire w (Wire.recv limit)
  | socket i _ => onLoopback (Loopback.recv i limit)

def setMode (mode : WaitMode) : Action Bench IoError Line Unit := do
  match ← Action.subject with
  | wire w => onWire w (Wire.setMode mode)
  | socket .. => pure ()

def close : Action Bench IoError Line Unit := do
  match ← Action.subject with
  | wire w => onWire w Wire.close
  | socket i _ => onLoopback fun l => (.ok (), l.closeEnd i)

def flush : Action Bench IoError Line Unit := do
  match ← Action.subject with
  | wire w => onWire w Wire.flush
  | socket .. => pure ()

def setNodelay (on : Bool) : Action Bench IoError Line Unit := do
  match ← Action.subject with
  | wire w => onWire w (Wire.setNodelay on)
  | socket .. => pure ()

instance : Transport Bench Line where
  send := send
  recv := recv
  setMode := setMode
  close := close
  descriptor
    | wire w => Transport.descriptor w
    | socket .. => socketDescriptor
  flush := flush
  wantsWrite
    | wire w => Transport.wantsWrite w
    | socket .. => false
  pendingInput
    | wire w => Transport.pendingInput w
    | socket .. => 0
  setNodelay := setNodelay
  describe
    | wire w => Transport.describe w
    | socket _ label => label
  patience
    | wire w => w.patience
    | socket .. => 0

end Line

inductive SocketFamily where
  /-- Sockets of one machine, without addresses. -/
  | unix
  /-- Sockets with internet addresses. -/
  | tcp
deriving DecidableEq, Repr

namespace SocketFamily

/-- The description of a connected socket; what varies is masked. -/
def lineLabel : SocketFamily → String
  | unix => "unix:fd*"
  | tcp => "tcp:127.0.0.1:*"

/-- The description of a listening socket. -/
def sourceLabel : SocketFamily → String
  | unix => "unix-listen:fd*"
  | tcp => "tcp-listen:127.0.0.1:*"

/-- The address of a connection's peer. -/
def peer : SocketFamily → String
  | unix => "(unnamed)"
  | tcp => "127.0.0.1:*"

end SocketFamily

inductive Source where
  | gate (p : Gate)
  | socket (index : Nat) (family : SocketFamily)
deriving DecidableEq, Repr

namespace Source

variable {α : Type}

def onGate (p : Gate) (x : Action Bench IoError Gate α) : Action Bench IoError Source α :=
  fun _ b =>
    match x p b with
    | .done a p b => .done a (gate p) b
    | .refused e p b => .refused e (gate p) b
    | .halted h b => .halted h b

def accept : Action Bench IoError Source (Line × String) := do
  match ← Action.subject with
  | gate p =>
    let (wire, peer) ← onGate p Gate.accept
    pure (.wire wire, peer)
  | socket i family =>
    let next ← Line.onLoopback (Loopback.accept i)
    pure (.socket next family.lineLabel, family.peer)

def setMode (mode : WaitMode) : Action Bench IoError Source Unit := do
  match ← Action.subject with
  | gate p => onGate p (Gate.setMode mode)
  | socket .. => pure ()

instance : Acceptor Bench Source Line where
  accept := accept
  setMode := setMode
  descriptor
    | gate p => p.descriptor
    | socket .. => Line.socketDescriptor
  describe
    | gate p => Acceptor.describe p
    | socket _ family => family.sourceLabel
  patience
    | gate p => Acceptor.patience p
    | socket .. => 0

end Source

end ChannelReactor.Scenario
