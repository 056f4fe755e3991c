import ChannelReactor.Channel.Basic
import ChannelReactor.Policy
import ChannelReactor.Settings.Channel
import ChannelReactor.Transport

/-!
# Connections

A connection is a channel over a transport of bytes. It reads by waiting or on readiness, queues
what is written and sends it on, and can be closed at once or, while a reactor owns it, after its
queued output is sent: it lingers.

An active connection has a transport. A lingering one is inactive and still has it. Releasing the
transport drops unsent output and keeps what was received.
-/
namespace ChannelReactor

/-- A channel over a transport. -/
structure Connection (τ : Type) where
  core : ChannelCore
  transport : Option τ
  chunk : Nat
  /-- Closed, with output still to send. -/
  lingering : Bool := false
  policy : Policy

namespace Connection

/-- What one receive brought. -/
inductive Received where
  | data
  | ended
  | wouldBlock
deriving DecidableEq, Repr

/-- How far the queued output was sent. -/
inductive Flushed where
  | drained
  | blocked
deriving DecidableEq, Repr

variable {ω ε τ α : Type}

def mapCore (f : ChannelCore → ChannelCore) (c : Connection τ) : Connection τ :=
  { c with core := f c.core }

/-- A call on the transport, whose error is an answer. Without a transport the channel is
closed. -/
def onTransport (call : Action ω IoError τ α) :
    Action ω ChannelError (Connection τ) (Except IoError α) := fun c w =>
  match c.transport with
  | none => .refused .closed c w
  | some t =>
    match call t w with
    | .done a t w => .done (.ok a) { c with transport := some t } w
    | .refused e t w => .done (.error e) { c with transport := some t } w
    | .halted h w => .halted h w

/-- A call on the transport, whose error is a failure of the channel. -/
def callTransport (call : Action ω IoError τ α) : Action ω ChannelError (Connection τ) α := do
  match ← onTransport call with
  | .ok a => pure a
  | .error e => Action.refuse (.failed e)

/-- A failure that ends the channel's activity. -/
def fail (error : IoError) : Action ω ChannelError (Connection τ) α := do
  Action.update (mapCore ChannelCore.deactivate)
  Action.refuse (.failed error)

def ensureActive : Action ω ChannelError (Connection τ) Unit := do
  Action.ofExcept (← Action.subject).core.ensureActive

section

variable [Transport ω τ]

/-- How many calls in a row the transport may leave without progress. -/
def patience (c : Connection τ) : Nat :=
  match c.transport with
  | some t => Transport.patience t
  | none => 0

def isWritePending (c : Connection τ) : Bool :=
  !c.core.output.isEmpty || c.transport.any Transport.wantsWrite

def descriptor (c : Connection τ) : Except ChannelError Int :=
  match c.transport with
  | some t => .ok (Transport.descriptor t)
  | none => .error (.failed (.failure "channel is closed"))

def applyMode (mode : WaitMode) : Action ω ChannelError (Connection τ) Unit :=
  callTransport (Transport.setMode mode)

/-- Makes a connection over a transport, which is set to wait without end. -/
def establish (policy : Policy) (settings : ChannelSettings) (transport : τ) :
    Action ω ChannelError ε (Connection τ) := do
  match settings.fault? with
  | some fault => Action.refuse (.ofSettings fault)
  | none =>
    let ((), transport) ← Action.runOn transport
      ((Transport.setMode .forever).mapReason ChannelError.failed)
    pure
      { core := .new .forever (Transport.describe transport), transport := some transport,
        chunk := settings.readChunk, policy }

/-! ## Receiving -/

/-- One receive; none when it was interrupted. -/
def receiveOnce : Action ω ChannelError (Connection τ) (Option Received) := do
  let c ← Action.subject
  match ← onTransport (Transport.recv c.chunk) with
  | .ok [] =>
    Action.update (mapCore ChannelCore.deactivate)
    pure (some .ended)
  | .ok data =>
    Action.update (mapCore (·.receive data))
    pure (some .data)
  | .error e =>
    match c.policy.judge .recv e with
    | .retry => pure (some .wouldBlock)
    | .interrupted => pure none
    | .fatal => fail e

/-- Receives one block of input, the end, or nothing. -/
def receive : Action ω ChannelError (Connection τ) Received := do
  Action.repeatUntil ((← Action.subject).patience + 1) receiveOnce

/-! ## Sending -/

/-- One send of the output's first run: none when it was interrupted, otherwise whether it was
blocked. -/
def sendOnce : Action ω ChannelError (Connection τ) (Option Bool) := do
  let c ← Action.subject
  match ← onTransport (Transport.send c.core.output.run) with
  | .ok 0 => fail (.described .writeZero "transport accepted no bytes")
  | .ok n =>
    Action.update (mapCore (·.sent n))
    pure (some false)
  | .error e =>
    match c.policy.judge .send e with
    | .retry => pure (some true)
    | .interrupted => pure none
    | .fatal => fail e

/-- Sends some of the output, and answers whether the transport was blocked. -/
def sendSome : Action ω ChannelError (Connection τ) Bool := do
  Action.repeatUntil ((← Action.subject).patience + 1) sendOnce

/-- Sends the output until none is left or the transport is blocked. -/
def sendAll : Action ω ChannelError (Connection τ) Flushed := do
  Action.repeatUntil ((← Action.subject).core.output.size + 1) do
    if (← Action.subject).core.output.isEmpty then pure (some .drained)
    else if ← sendSome then pure (some .blocked)
    else pure none

/-- One flush of the transport's own output; none when it was interrupted. -/
def settleOnce : Action ω ChannelError (Connection τ) (Option Flushed) := do
  let c ← Action.subject
  match ← onTransport Transport.flush with
  | .ok () =>
    if (← Action.subject).transport.any Transport.wantsWrite then pure (some .blocked)
    else pure (some .drained)
  | .error e =>
    match c.policy.judge .send e with
    | .retry => pure (some .blocked)
    | .interrupted => pure none
    | .fatal => fail e

/-- Sends all output, that of the channel and then that of the transport. -/
def flush : Action ω ChannelError (Connection τ) Flushed := do
  match ← sendAll with
  | .blocked => pure .blocked
  | .drained => Action.repeatUntil ((← Action.subject).patience + 1) settleOnce

/-- Gives the transport back. Unsent output is dropped, and an error of the transport's close
changes nothing. -/
def release : Action ω Empty (Connection τ) Unit := do
  Action.update fun c => { c with lingering := false, core := c.core.dropOutput }
  let _ ← Action.attempt (onTransport (ω := ω) (Transport.close (τ := τ)))
  Action.update fun c => { c with transport := none }

end

section

variable [Machine ω] [Transport ω τ]

/-! ## Waiting for input -/

/-- The progress of a wait for input. -/
inductive Progress where
  /-- There is enough, or no more will come. -/
  | over
  | more
deriving DecidableEq, Repr

/-- Lets the transport wait no longer than until the deadline, and answers whether there is time
left. -/
def allowRest : Option Instant → Action ω ChannelError (Connection τ) Bool
  | none => pure true
  | some deadline => do
    let now ← Action.now
    if deadline ≤ now then pure false
    else
      applyMode (.upTo (deadline.since now))
      pure true

/-- One round of a wait for `count` bytes; none when the transport had nothing. -/
def fillRound (count : Nat) (deadline : Option Instant) :
    Action ω ChannelError (Connection τ) (Option Progress) := do
  let c ← Action.subject
  if count ≤ c.core.input.size || !c.core.active then pure (some .over)
  else if ← allowRest deadline then
    match ← receive with
    | .wouldBlock => pure none
    | _ => pure (some .more)
  else pure (some .over)

/-- Rounds of a wait until one makes progress. -/
def fillSome (count : Nat) (deadline : Option Instant) :
    Action ω ChannelError (Connection τ) Progress := do
  Action.repeatUntil ((← Action.subject).patience + 2) (fillRound count deadline)

/-- Waits for `count` bytes of input, up to a deadline if there is one. -/
def fillUntil (count : Nat) (deadline : Option Instant) :
    Action ω ChannelError (Connection τ) Unit :=
  Action.repeatUntil (count + 2) do
    match ← fillSome count deadline with
    | .over => pure (some ())
    | .more => pure none

/-- Waits for `count` bytes of input in the channel's mode. A bounded wait shortens the
transport's mode as time passes, and puts it back at the end; when that fails, its error is the
one that counts. -/
def fill (count : Nat) : Action ω ChannelError (Connection τ) Unit := do
  let mode := (← Action.subject).core.mode
  let deadline ← Action.deadline mode
  let result ← Action.attempt (fillUntil count deadline)
  if deadline.isSome && (← Action.subject).transport.isSome then applyMode mode
  Action.ofExcept result

/-! ## Operations -/

/-- Takes bytes out of the input as the options say. -/
def takeInput (count : Nat) (opts : ReadOptions) :
    Action ω ChannelError (Connection τ) Bytes := do
  match (← Action.subject).core.takeInput count opts with
  | .ok (data, core) =>
    Action.update (mapCore fun _ => core)
    pure data
  | .error e => Action.refuse e

/-- Reads `count` bytes. An active channel in a blocking mode first waits for them. -/
def read (count : Nat) (opts : ReadOptions) : Action ω ChannelError (Connection τ) Bytes := do
  let c ← Action.subject
  if c.core.mode.isBlocking && c.core.active && decide (c.core.input.size < count) then
    fill count
  takeInput count opts

/-- Queues bytes to send. In a blocking mode they are sent before the write is done. -/
def write (data : Bytes) : Action ω ChannelError (Connection τ) Unit := do
  ensureActive
  Action.update (mapCore (·.enqueue data))
  if (← Action.subject).core.mode.isBlocking then
    match ← flush with
    | .drained => pure ()
    | .blocked => Action.refuse .dataNotAvailable

/-- Whether the policy has a read go on although it received something. -/
def hasMoreInput (drain : Bool) (c : Connection τ) : Bool :=
  drain && c.transport.any fun t => decide (0 < Transport.pendingInput t)

/-- Receives once, and on while `drain` is set and the transport holds decoded input. The end of
the input is reported at once when nothing came before it, otherwise by the next read. -/
def drainInput (drain : Bool) : (rounds : Nat) → (received : Bool) →
    Action ω ChannelError (Connection τ) Unit
  | 0, _ => Action.halt .spinning
  | rounds + 1, received => do
    match ← receive with
    | .data =>
      if (← Action.subject).hasMoreInput drain then drainInput drain rounds true
    | .wouldBlock => pure ()
    | .ended => if received then pure () else Action.refuse .closed

/-- Takes what can be received without waiting. A lingering channel has no use for input. -/
def onRead : Action ω ChannelError (Connection τ) Unit := do
  let c ← Action.subject
  if c.lingering then Action.refuse .dataNotAvailable
  else
    ensureActive
    drainInput (c.policy.drainsReads && !c.core.mode.isBlocking) (c.patience + 1) false

/-- Sends what can be sent. A lingering channel that is through with it, or fails, gives its
transport back. -/
def onWrite : Action ω ChannelError (Connection τ) Unit := do
  let flushed ← Action.attempt flush
  if (← Action.subject).lingering then
    match flushed with
    | .ok .blocked => pure ()
    | .ok .drained =>
      release.sure
      Action.refuse .closed
    | .error e =>
      release.sure
      Action.refuse e
  else
    let _ ← Action.ofExcept flushed

/-- Whether a close has to wait for the reactor to send the rest: the last flush was blocked on a
registered channel. -/
def mustLinger (flushed : Except ChannelError Flushed) (c : Connection τ) : Bool :=
  match flushed with
  | .ok .blocked => c.core.isRegistered
  | _ => false

/-- Closes the channel. Output that is still waiting gets one more flush; if that is blocked while
a reactor owns the channel, it lingers, otherwise the transport is given back at once. -/
def close : Action ω Empty (Connection τ) Unit := do
  Action.update (mapCore ChannelCore.deactivate)
  let c ← Action.subject
  if c.transport.isNone || (c.lingering && c.core.isRegistered) then pure ()
  else if !c.lingering && c.isWritePending then
    let flushed ← Action.attempt flush
    if (← Action.subject).mustLinger flushed then
      Action.update fun c => { c with lingering := true }
    else release
  else release

instance : ChannelOps ω (Connection τ) where
  core := core
  mapCore := mapCore
  applyMode := applyMode
  descriptor := descriptor
  read := read
  write := write
  onRead := onRead
  onWrite := onWrite
  close := close
  isWritePending := isWritePending
  patience c := c.patience + c.chunk

end

end Connection

end ChannelReactor
