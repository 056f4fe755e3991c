import ChannelReactor.Channel.Basic

/-!
# Wrapped channels

A channel of any kind may be held in boxes and under layers that make it expire, in any order. Both
pass the operations that a kind decides to what is inside. A change of mode, joining a reactor and
leaving it a box passes on as well, while a layer makes them anew out of what it passes on.
-/
namespace ChannelReactor

/-- A channel of the kind `χ` in its wrappings. -/
inductive Wrapped (χ : Type) where
  | plain (c : χ)
  | boxed (inner : Wrapped χ)
  | expiring (inner : Wrapped χ) (lastActivity : Instant) (interval : Span)

namespace Wrapped

variable {ω ε χ ρ γ : Type}

/-- An action on what is wrapped, as one on the whole. -/
def under (wrap : ρ → Wrapped χ) (own : ρ) (x : Action ω ε ρ γ) : Action ω ε (Wrapped χ) γ :=
  fun _ w =>
    match x own w with
    | .done a own w => .done a (wrap own) w
    | .refused e own w => .refused e (wrap own) w
    | .halted h w => .halted h w

/-- An operation that every wrapping passes on. -/
def passed (x : Action ω ε χ γ) : Wrapped χ → Action ω ε (Wrapped χ) γ
  | plain c => under plain c x
  | boxed inner => under boxed inner (passed x inner)
  | expiring inner last interval => under (expiring · last interval) inner (passed x inner)

/-- An operation that a box passes on and a layer makes anew. -/
def remade (x : Action ω ε χ γ) (anew : Action ω ε (Wrapped χ) γ) :
    Wrapped χ → Action ω ε (Wrapped χ) γ
  | plain c => under plain c x
  | boxed inner => under boxed inner (remade x anew inner)
  | expiring _ _ _ => anew

/-- An activity now of the outermost wrapping. -/
def touch [Machine ω] : Action ω ε (Wrapped χ) Unit := do
  let now ← Action.now
  Action.update fun
    | expiring inner _ interval => expiring inner now interval
    | c => c

/-- What every wrapping asks of what is inside. -/
def asked (query : χ → γ) : Wrapped χ → γ
  | plain c => query c
  | boxed inner | expiring inner _ _ => asked query inner

section

variable [ChannelOps ω χ]

def mapCore (f : ChannelCore → ChannelCore) : Wrapped χ → Wrapped χ
  | plain c => plain (ChannelOps.mapCore f c)
  | boxed inner => boxed (inner.mapCore f)
  | expiring inner last interval => expiring (inner.mapCore f) last interval

def hasExpired (now : Instant) : Wrapped χ → Bool
  | plain c => ChannelOps.hasExpired now c
  | boxed inner => inner.hasExpired now
  | expiring _ last interval => decide (interval < now.since last)

/-- The name. -/
def label : Wrapped χ → String := asked ChannelOps.label

/-- `onRead` on a given channel. A read that succeeds is an activity of every layer. -/
def onReadOf [Machine ω] : Wrapped χ → Action ω ChannelError (Wrapped χ) Unit
  | plain c => under plain c ChannelOps.onRead
  | boxed inner => under boxed inner (onReadOf inner)
  | expiring inner last interval => do
    under (expiring · last interval) inner (onReadOf inner)
    touch

instance [Machine ω] : ChannelOps ω (Wrapped χ) where
  core := asked ChannelOps.core
  mapCore := mapCore
  applyMode mode := do passed (ChannelOps.applyMode mode) (← Action.subject)
  descriptor := asked ChannelOps.descriptor
  read count opts := do passed (ChannelOps.read count opts) (← Action.subject)
  write data := do passed (ChannelOps.write data) (← Action.subject)
  onRead := do onReadOf (← Action.subject)
  onWrite := do passed ChannelOps.onWrite (← Action.subject)
  close := do passed ChannelOps.close (← Action.subject)
  isWritePending := asked ChannelOps.isWritePending
  accept := do
    let accepted ← passed ChannelOps.accept (← Action.subject)
    pure ⟨plain accepted.channel, accepted.peer⟩
  isListening := asked ChannelOps.isListening
  hasExpired := hasExpired
  patience := asked ChannelOps.patience

variable [Machine ω]

/-- Changes the wait mode. -/
def setMode (mode : WaitMode) : Action ω ChannelError (Wrapped χ) Unit := do
  remade (ChannelOps.setMode mode) (ChannelOps.setMode mode) (← Action.subject)

/-- Joins a reactor. -/
def attach (token : Token) : Action ω ChannelError (Wrapped χ) Unit := do
  remade (ChannelOps.attach token) (ChannelOps.attach token) (← Action.subject)

/-- Leaves the reactor. -/
def detach : Action ω ChannelError (Wrapped χ) Unit := do
  remade ChannelOps.detach ChannelOps.detach (← Action.subject)

end

end Wrapped

end ChannelReactor
