import ChannelReactor.ByteRing
import ChannelReactor.Failure.ChannelError
import ChannelReactor.WaitMode

/-!
# The core of a channel

What every channel keeps: bytes received and not yet read, bytes written and not yet sent, whether
it is active, its wait mode, and its registration with a reactor.
-/
namespace ChannelReactor

/-- How a read takes its bytes. -/
structure ReadOptions where
  /-- Fewer bytes than asked for will do. -/
  lessAllowed : Bool := false
  /-- The bytes stay to be read again. -/
  peek : Bool := false
deriving DecidableEq, Repr

/-- A reactor's token: who registered a channel, and the mailbox through which that reactor takes
channels over, if it ever had one. -/
structure Token where
  reactor : Nat
  mailbox : Option Nat
deriving DecidableEq, Repr

/-- A registration: the reactor's token, and the wait mode that the channel had before. -/
structure Registration where
  token : Token
  prior : WaitMode
deriving DecidableEq, Repr

/-- The part that all channels have in common. -/
structure ChannelCore where
  /-- Bytes received and not yet read. -/
  input : ByteQueue := .empty
  /-- Bytes written and not yet sent, which are handed over in place. -/
  output : ByteRing := .empty
  active : Bool := true
  mode : WaitMode
  registration : Option Registration := none
  label : String
deriving DecidableEq, Repr

namespace ChannelCore

def new (mode : WaitMode) (label : String) : ChannelCore where
  mode := mode
  label := label

def isRegistered (c : ChannelCore) : Bool := c.registration.isSome

def deactivate (c : ChannelCore) : ChannelCore := { c with active := false }

/-- The core with a mode recorded, in its normal form. -/
def recordMode (c : ChannelCore) (mode : WaitMode) : ChannelCore :=
  { c with mode := mode.normalized }

/-- The core of a channel that a reactor takes over: it does not wait from now on. -/
def register (c : ChannelCore) (token : Token) (prior : WaitMode) : ChannelCore :=
  { c with registration := some { token := token, prior := prior }, mode := .nonblocking }

def unregister (c : ChannelCore) : ChannelCore := { c with registration := none }

def receive (c : ChannelCore) (data : Bytes) : ChannelCore := { c with input := c.input.push data }

def enqueue (c : ChannelCore) (data : Bytes) : ChannelCore :=
  { c with output := c.output.push data }

def sent (c : ChannelCore) (n : Nat) : ChannelCore := { c with output := c.output.drop n }

def dropOutput (c : ChannelCore) : ChannelCore := { c with output := .empty }

/-- Activity as a condition: an inactive channel is closed. -/
def ensureActive (c : ChannelCore) : Except ChannelError Unit :=
  if c.active then .ok () else .error .closed

/-- The first `n` received bytes, and the core after they were read. -/
def drainInput (c : ChannelCore) (n : Nat) (peek : Bool) : Bytes × ChannelCore :=
  (c.input.peek n, if peek then c else { c with input := c.input.drop n })

/-- Reads `count` received bytes. With too few of them an active channel gives what it has if that
is allowed and otherwise asks for patience; an inactive one gives its rest if that is allowed and
not empty, and otherwise is closed. -/
def takeInput (c : ChannelCore) (count : Nat) (opts : ReadOptions) :
    Except ChannelError (Bytes × ChannelCore) :=
  if count ≤ c.input.size then .ok (c.drainInput count opts.peek)
  else if c.active then
    if opts.lessAllowed then .ok (c.drainInput c.input.size opts.peek)
    else .error .dataNotAvailable
  else if opts.lessAllowed && !c.input.isEmpty then .ok (c.drainInput c.input.size opts.peek)
  else .error .closed

end ChannelCore

end ChannelReactor
