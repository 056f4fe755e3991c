import ChannelReactor.ByteQueue
import ChannelReactor.Failure.IoError
import ChannelReactor.Machine

/-!
# Transports and acceptors

What a connection asks of the transport below it, and a listener of the acceptor below it. A
transport without output of its own or decoded input need not say so. The sockets of an operating
system and encrypted transports are not part of the library: what is said of channels is said over
any instance of these classes.
-/
namespace ChannelReactor

class Transport (ω : outParam Type) (τ : Type) where
  /-- Sends the front of some bytes, and answers how many were accepted. -/
  send : Bytes → Action ω IoError τ Nat
  /-- Receives at most so many bytes; none mean the end. -/
  recv : Nat → Action ω IoError τ Bytes
  setMode : WaitMode → Action ω IoError τ Unit
  close : Action ω IoError τ Unit
  descriptor : τ → Int
  /-- Sends on output that the transport accepted and still holds. -/
  flush : Action ω IoError τ Unit := pure ()
  /-- Whether the transport holds output of its own. -/
  wantsWrite : τ → Bool := fun _ => false
  /-- How much decoded input the transport holds. -/
  pendingInput : τ → Nat := fun _ => 0
  setNodelay : Bool → Action ω IoError τ Unit := fun _ => pure ()
  describe : τ → String := fun t => "fd:" ++ toString (descriptor t)
  /-- How many calls in a row the transport may leave without progress. -/
  patience : τ → Nat

/-- A source of transports. -/
class Acceptor (ω : outParam Type) (α : Type) (τ : outParam Type) where
  /-- The next transport, with the text of its peer's address. -/
  accept : Action ω IoError α (τ × String)
  setMode : WaitMode → Action ω IoError α Unit
  descriptor : α → Int
  describe : α → String := fun a => "listen-fd:" ++ toString (descriptor a)
  /-- How many calls in a row may be interrupted. -/
  patience : α → Nat

end ChannelReactor
