import ChannelReactor.Channel.Listener

/-!
# The kinds of channels

A channel is a connection, a listener, a kind that the application supplies, or any of these that
expires: it is due to be closed when nothing was received for longer than its interval.
-/
namespace ChannelReactor

/-- A channel of any kind, over transports `τ`, acceptors `α` and the application's own kind
`β`. -/
inductive Channel (τ α β : Type) where
  | connection (c : Connection τ)
  | listener (l : Listener α)
  | custom (b : β)
  | expiring (inner : Channel τ α β) (lastActivity : Instant) (interval : Span)

namespace Channel

variable {ω ε τ α β γ : Type}

/-- An action on a connection, as one on a channel that is a connection. -/
def onConnection (c : Connection τ) (x : Action ω ε (Connection τ) γ) :
    Action ω ε (Channel τ α β) γ := fun _ w =>
  match x c w with
  | .done a c w => .done a (connection c) w
  | .refused e c w => .refused e (connection c) w
  | .halted h w => .halted h w

/-- An action on a listener, as one on a channel that is a listener. -/
def onListener (l : Listener α) (x : Action ω ε (Listener α) γ) :
    Action ω ε (Channel τ α β) γ := fun _ w =>
  match x l w with
  | .done a l w => .done a (listener l) w
  | .refused e l w => .refused e (listener l) w
  | .halted h w => .halted h w

/-- An action on a channel of the application's kind. -/
def onCustom (b : β) (x : Action ω ε β γ) : Action ω ε (Channel τ α β) γ := fun _ w =>
  match x b w with
  | .done a b w => .done a (custom b) w
  | .refused e b w => .refused e (custom b) w
  | .halted h w => .halted h w

/-- An action on the channel inside an expiring one. -/
def onInner (inner : Channel τ α β) (last : Instant) (interval : Span)
    (x : Action ω ε (Channel τ α β) γ) : Action ω ε (Channel τ α β) γ := fun _ w =>
  match x inner w with
  | .done a inner w => .done a (expiring inner last interval) w
  | .refused e inner w => .refused e (expiring inner last interval) w
  | .halted h w => .halted h w

/-- A channel that expires, with the present as its last activity. -/
def expireAfter [Machine ω] {σ : Type} (inner : Channel τ α β) (interval : Span) :
    Action ω ε σ (Channel τ α β) := do
  pure (expiring inner (← Action.now) interval)

/-- An activity now. -/
def touch [Machine ω] : Action ω ε (Channel τ α β) Unit := do
  let now ← Action.now
  Action.update fun
    | expiring inner _ interval => expiring inner now interval
    | c => c

section

variable [ChannelOps ω β]

def core : Channel τ α β → ChannelCore
  | connection c => c.core
  | listener l => l.core
  | custom b => ChannelOps.core b
  | expiring inner _ _ => inner.core

def mapCore (f : ChannelCore → ChannelCore) : Channel τ α β → Channel τ α β
  | connection c => connection (c.mapCore f)
  | listener l => listener (l.mapCore f)
  | custom b => custom (ChannelOps.mapCore f b)
  | expiring inner last interval => expiring (inner.mapCore f) last interval

/-- Whether the outermost layer's interval has passed without activity; the application's own kind
decides for itself. -/
def hasExpired (now : Instant) : Channel τ α β → Bool
  | custom b => ChannelOps.hasExpired now b
  | expiring _ last interval => decide (interval < now.since last)
  | _ => false

def isListening : Channel τ α β → Bool
  | connection _ => false
  | listener _ => true
  | custom b => ChannelOps.isListening b
  | expiring inner _ _ => inner.isListening

end

section

variable [Machine ω] [Transport ω τ] [Acceptor ω α τ] [ChannelOps ω β]

def descriptor : Channel τ α β → Except ChannelError Int
  | connection c => c.descriptor
  | listener l => l.descriptor
  | custom b => ChannelOps.descriptor b
  | expiring inner _ _ => inner.descriptor

def isWritePending : Channel τ α β → Bool
  | connection c => c.isWritePending
  | listener _ => false
  | custom b => ChannelOps.isWritePending b
  | expiring inner _ _ => inner.isWritePending

def patience : Channel τ α β → Nat
  | connection c => ChannelOps.patience c
  | listener l => l.patience
  | custom b => ChannelOps.patience b
  | expiring inner _ _ => inner.patience

def applyModeOf (mode : WaitMode) : Channel τ α β → Action ω ChannelError (Channel τ α β) Unit
  | connection c => onConnection c (Connection.applyMode mode)
  | listener l => onListener l (Listener.applyMode mode)
  | custom b => onCustom b (ChannelOps.applyMode mode)
  | expiring inner last interval => onInner inner last interval (applyModeOf mode inner)

def readOf (count : Nat) (opts : ReadOptions) :
    Channel τ α β → Action ω ChannelError (Channel τ α β) Bytes
  | connection c => onConnection c (Connection.read count opts)
  | listener _ => Action.refuse (.misuse .readOnListener)
  | custom b => onCustom b (ChannelOps.read count opts)
  | expiring inner last interval => onInner inner last interval (readOf count opts inner)

def writeOf (data : Bytes) : Channel τ α β → Action ω ChannelError (Channel τ α β) Unit
  | connection c => onConnection c (Connection.write data)
  | listener _ => Action.refuse (.misuse .writeOnListener)
  | custom b => onCustom b (ChannelOps.write data)
  | expiring inner last interval => onInner inner last interval (writeOf data inner)

/-- `onRead` on a given channel. A read that succeeds is an activity of every layer. -/
def onReadOf : Channel τ α β → Action ω ChannelError (Channel τ α β) Unit
  | connection c => onConnection c Connection.onRead
  | listener _ => Action.refuse (.misuse .onReadOnListener)
  | custom b => onCustom b ChannelOps.onRead
  | expiring inner last interval => do
    onInner inner last interval (onReadOf inner)
    touch

def onWriteOf : Channel τ α β → Action ω ChannelError (Channel τ α β) Unit
  | connection c => onConnection c Connection.onWrite
  | listener _ => pure ()
  | custom b => onCustom b ChannelOps.onWrite
  | expiring inner last interval => onInner inner last interval (onWriteOf inner)

def closeOf : Channel τ α β → Action ω Empty (Channel τ α β) Unit
  | connection c => onConnection c Connection.close
  | listener l => onListener l Listener.close
  | custom b => onCustom b ChannelOps.close
  | expiring inner last interval => onInner inner last interval (closeOf inner)

def acceptOf : Channel τ α β → Action ω ChannelError (Channel τ α β) (Accepted (Channel τ α β))
  | connection _ => Action.refuse (.misuse .acceptOnStream)
  | listener l => do
    let (c, peer) ← onListener l Listener.acceptConnection
    pure ⟨connection c, peer⟩
  | custom b => do
    let accepted ← onCustom b ChannelOps.accept
    pure ⟨custom accepted.channel, accepted.peer⟩
  | expiring inner last interval => onInner inner last interval (acceptOf inner)

instance : ChannelOps ω (Channel τ α β) where
  core := core
  mapCore := mapCore
  applyMode mode := do applyModeOf mode (← Action.subject)
  descriptor := descriptor
  read count opts := do readOf count opts (← Action.subject)
  write data := do writeOf data (← Action.subject)
  onRead := do onReadOf (← Action.subject)
  onWrite := do onWriteOf (← Action.subject)
  close := do closeOf (← Action.subject)
  isWritePending := isWritePending
  accept := do acceptOf (← Action.subject)
  isListening := isListening
  hasExpired := hasExpired
  patience := patience

end

end Channel

/-- The kind of an application that brings no channels of its own: nothing is of it. -/
inductive NoKind (ω : Type)

namespace NoKind

/-- Nothing follows from a channel that cannot be. -/
def absurd {ω : Type} {motive : Sort u} (b : NoKind ω) : motive := nomatch b

instance (ω : Type) : ChannelOps ω (NoKind ω) where
  core := absurd
  mapCore _ := absurd
  applyMode _ := fun b => b.absurd
  descriptor := absurd
  read _ _ := fun b => b.absurd
  write _ := fun b => b.absurd
  onRead := fun b => b.absurd
  onWrite := fun b => b.absurd
  close := fun b => b.absurd
  isWritePending := absurd
  patience := absurd

end NoKind

end ChannelReactor
