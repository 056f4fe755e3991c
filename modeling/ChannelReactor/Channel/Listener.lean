import ChannelReactor.Channel.Connection

/-!
# Listeners

A listener is a channel over an acceptor. It hands out connections and carries no bytes itself.
-/
namespace ChannelReactor

/-- A channel over an acceptor. -/
structure Listener (α : Type) where
  core : ChannelCore
  acceptor : Option α
  /-- The settings of the connections it hands out. -/
  settings : ChannelSettings
  policy : Policy

namespace Listener

variable {ω ε α τ β : Type}

def mapCore (f : ChannelCore → ChannelCore) (l : Listener α) : Listener α :=
  { l with core := f l.core }

/-- A call on the acceptor, whose error is an answer. Without an acceptor the listener is
closed. -/
def onAcceptor (call : Action ω IoError α β) :
    Action ω ChannelError (Listener α) (Except IoError β) := fun l w =>
  match l.acceptor with
  | none => .refused .closed l w
  | some a =>
    match call a w with
    | .done b a w => .done (.ok b) { l with acceptor := some a } w
    | .refused e a w => .done (.error e) { l with acceptor := some a } w
    | .halted h w => .halted h w

/-- Closes the listener; its acceptor is gone at once. -/
def close : Action ω Empty (Listener α) Unit :=
  Action.update fun l => { l with core := l.core.deactivate, acceptor := none }

section

variable [Acceptor ω α τ]

def patience (l : Listener α) : Nat :=
  match l.acceptor with
  | some a => Acceptor.patience a
  | none => 0

def descriptor (l : Listener α) : Except ChannelError Int :=
  match l.acceptor with
  | some a => .ok (Acceptor.descriptor a)
  | none => .error (.failed (.failure "listener is closed"))

def applyMode (mode : WaitMode) : Action ω ChannelError (Listener α) Unit := do
  match ← onAcceptor (Acceptor.setMode mode) with
  | .ok () => pure ()
  | .error e => Action.refuse (.failed e)

/-- Makes a listener over an acceptor, which is set to wait without end. -/
def establish (policy : Policy) (settings : ChannelSettings) (acceptor : α) :
    Action ω ChannelError ε (Listener α) := do
  match settings.fault? with
  | some fault => Action.refuse (.ofSettings fault)
  | none =>
    let ((), acceptor) ← Action.runOn acceptor
      ((Acceptor.setMode .forever).mapReason ChannelError.failed)
    pure
      { core := .new .forever (Acceptor.describe acceptor), acceptor := some acceptor,
        settings, policy }

/-- One accept; none when it was interrupted. -/
def acceptOnce : Action ω ChannelError (Listener α) (Option (τ × String)) := do
  let l ← Action.subject
  match ← onAcceptor Acceptor.accept with
  | .ok next => pure (some next)
  | .error e =>
    match l.policy.judge .accept e with
    | .retry => Action.refuse .dataNotAvailable
    | .interrupted => pure none
    | .fatal =>
      Action.update (mapCore ChannelCore.deactivate)
      Action.refuse (.failed e)

variable [Transport ω τ]

/-- Takes the next transport, with the text of its peer's address. That it cannot be set to send
without delay does not matter. -/
def acceptTransport : Action ω ChannelError (Listener α) (τ × String) := do
  let l ← Action.subject
  Action.ofExcept l.core.ensureActive
  let (transport, peer) ← Action.repeatUntil (l.patience + 1) acceptOnce
  let (_, transport) ← Action.runOn transport
    (Action.attempt (Transport.setNodelay l.settings.nodelay))
  pure (transport, peer)

/-- Takes the next connection, under the listener's own settings and policy. -/
def acceptConnection : Action ω ChannelError (Listener α) (Connection τ × String) := do
  let (transport, peer) ← acceptTransport
  let l ← Action.subject
  let connection ← Connection.establish l.policy l.settings transport
  pure (connection, peer)

end

end Listener

end ChannelReactor
