import ChannelReactor.Channel.Core
import ChannelReactor.Machine

/-!
# Channels

What every kind of channel offers: the operations that its kind decides (`ChannelOps`), and those
that are the same for all kinds: changing the wait mode, joining a reactor and leaving it.
-/
namespace ChannelReactor

/-- A connection as a listener hands it out, with the text of its peer's address. -/
structure Accepted (χ : Type) where
  channel : χ
  peer : String
deriving Repr

/-- The operations that a kind of channel decides. -/
class ChannelOps (ω : outParam Type) (χ : Type) where
  core : χ → ChannelCore
  mapCore : (ChannelCore → ChannelCore) → χ → χ
  /-- Sets the wait mode of what lies below, and records nothing. -/
  applyMode : WaitMode → Action ω ChannelError χ Unit
  descriptor : χ → Except ChannelError Int
  read : Nat → ReadOptions → Action ω ChannelError χ Bytes
  write : Bytes → Action ω ChannelError χ Unit
  /-- What a reactor calls when the descriptor is readable. -/
  onRead : Action ω ChannelError χ Unit
  /-- What a reactor calls when the descriptor is writable. -/
  onWrite : Action ω ChannelError χ Unit
  close : Action ω Empty χ Unit
  /-- Whether output waits for the descriptor to become writable. -/
  isWritePending : χ → Bool
  /-- Takes the next connection of a listening channel. -/
  accept : Action ω ChannelError χ (Accepted χ) := Action.refuse (.misuse .acceptOnStream)
  isListening : χ → Bool := fun _ => false
  hasExpired : Instant → χ → Bool := fun _ _ => false
  /-- How many reads in a row are worth making before the channel counts as stuck. -/
  patience : χ → Nat

/-- What can be seen of a channel. -/
structure ChannelStatus where
  active : Bool
  buffered : Nat
  pending : Bool
  mode : WaitMode
  registered : Bool
  listening : Bool
deriving DecidableEq, Repr

namespace ChannelOps

variable {ω χ : Type} [ChannelOps ω χ]

def label (c : χ) : String := (core c).label

def isActive (c : χ) : Bool := (core c).active

def mode (c : χ) : WaitMode := (core c).mode

def buffered (c : χ) : Nat := (core c).input.size

def isRegistered (c : χ) : Bool := (core c).isRegistered

def token? (c : χ) : Option Token := (core c).registration.map (·.token)

def status (c : χ) : ChannelStatus where
  active := isActive c
  buffered := buffered c
  pending := isWritePending c
  mode := mode c
  registered := isRegistered c
  listening := isListening c

/-- Changes the wait mode. A registered channel keeps the mode that its reactor gave it. -/
def setMode (mode : WaitMode) : Action ω ChannelError χ Unit := do
  if isRegistered (← Action.subject) then Action.refuse (.misuse .modeChangeWhileRegistered)
  else
    applyMode mode.normalized
    Action.update (mapCore (·.recordMode mode.normalized))

/-- Joins a reactor: the channel no longer waits, and remembers the mode it had. -/
def attach (token : Token) : Action ω ChannelError χ Unit := do
  let c ← Action.subject
  if isRegistered c then Action.refuse (.misuse .alreadyRegistered)
  else
    let prior := mode c
    applyMode .nonblocking
    Action.update (mapCore (·.register token prior))

/-- Leaves the reactor, if the channel has one, and goes back to the mode it had before. -/
def detach : Action ω ChannelError χ Unit := do
  match (core (← Action.subject)).registration with
  | none => pure ()
  | some registration =>
    Action.update (mapCore fun c => c.unregister.recordMode registration.prior)
    if isActive (← Action.subject) then applyMode registration.prior

end ChannelOps

end ChannelReactor
