import ChannelReactor.Scenario.Stock
import ChannelReactor.Text.Quoted

/-!
# Operations on a channel

What a step of a scenario, or a hook, can do with one channel, and the reply to it.
-/
namespace ChannelReactor.Scenario

inductive Operation where
  | read (count : Nat) (opts : ReadOptions)
  | write (data : Bytes)
  | onRead
  | onWrite
  | close
  | setMode (mode : WaitMode)
  | applyMode (mode : WaitMode)
  /-- Attaches the channel to a reactor that is gone. -/
  | attach (reactor : Nat)
  | detach
  | descriptor
  | name
  /-- Accepts a connection, which goes to the pool if it is given a name. -/
  | accept (keepAs : Option String)
  | hasExpired (instant : Option Instant)
  | status
  | registration
  /-- Hands a pool channel over through this channel's registration. -/
  | inject (channel : String)
  | lingering
  | isOpen
  | settings
  /-- Accepts a connection of the listener's own type, which goes to the pool. -/
  | acceptDirect (keepAs : String)
  | acceptTransport
  | touch
  | lastActivity
  | interval
  | innerStatus
  /-- An operation on the channel inside an expiring one. -/
  | inner (operation : Operation)
  | peerAddress
  | localAddress
  | nodelay
  | unknown
deriving Inhabited

/-- What an operation works on: the channel, and the rest of the scenario. -/
structure Scene where
  channel : BenchChannel
  stock : Stock

namespace Scene

variable {ε α : Type}

def call (toValue : α → Value) (x : Action Bench ChannelError BenchChannel α) :
    Action Bench ε Scene Reply := do
  let result ← Action.focus channel (fun c s => { s with channel := c }) (Action.attempt x)
  pure (Reply.ofChannel toValue result)

/-- An operation of the channel that has nothing to answer. -/
def command (x : Action Bench ChannelError BenchChannel Unit) : Action Bench ε Scene Reply :=
  call (fun () => .null) x

def question (f : BenchChannel → Reply) : Action Bench ε Scene Reply := do
  pure (f (← Action.subject).channel)

def onStock (f : Stock → α × Stock) : Action Bench ε Scene α := do
  let scene ← Action.subject
  let (a, stock) := f scene.stock
  Action.update fun s => { s with stock }
  pure a

def keep (name : String) (holding : Holding) : Action Bench ε Scene Unit :=
  onStock fun s => ((), s.keep name holding)

/-- The text of an accepted connection for people. -/
def acceptedText (accepted : Accepted BenchChannel) : String :=
  "Accepted \x7b channel: " ++ Text.quoted (ChannelOps.label accepted.channel) ++ ", peer: " ++
    Text.quoted accepted.peer ++ " \x7d"

def accept (keepAs : Option String) : Action Bench ε Scene Reply := do
  match ← Action.focus channel (fun c s => { s with channel := c })
      (Action.attempt (ChannelOps.accept (χ := BenchChannel))) with
  | .error e => pure (.channelError e)
  | .ok accepted =>
    if let some name := keepAs then keep name { channel := accepted.channel, access := .shared }
    let description :=
      if accepted.channel.overSocket then none else some (acceptedText accepted)
    pure (.ok (.accepted accepted.peer (ChannelOps.status accepted.channel) description))

/-- Hands a pool channel over through the channel's registration. -/
def inject (name : String) : Action Bench ε Scene Reply := do
  let scene ← Action.subject
  match (ChannelOps.token? scene.channel).filter fun token => scene.stock.isAlive token with
  | none => pure (.lacking .reactor)
  | some token =>
    match ← onStock (Stock.takeOut name) with
    | none => pure (.lacking .channel)
    | some holding =>
      match ← onStock (Stock.deliver token holding.channel) with
      | none => pure (.lacking .reactor)
      | some pending => pure (.ok (.number pending))

/-- An operation on a listener held directly, which may put a connection into the pool. -/
def onListener (l : Listener Source) (toValue : α → Action Bench ε Scene Value)
    (x : Action Bench ChannelError (Listener Source) α) : Action Bench ε Scene Reply := do
  let (result, l) ← Action.runOn l (Action.attempt x)
  Action.update fun s => { s with channel := .listener l }
  match result with
  | .ok a => return .ok (← toValue a)
  | .error e => pure (.channelError e)

/-- The reply of a listener that is asked for its address. -/
def localAddress (l : Listener Source) : Access → Reply
  | .addressed address =>
    if l.acceptor.isSome then .ok (.text address) else .channelError .closed
  | _ => .lacking .support

/-- An operation that only channels of one kind offer. -/
def performDirect (access : Access) (operation : Operation) : Action Bench ε Scene Reply := do
  match operation, (← Action.subject).channel with
  | .lingering, .connection c => pure (.ok (.flag c.lingering))
  | .isOpen, .connection c => pure (.ok (.flag c.transport.isSome))
  | .isOpen, .listener l => pure (.ok (.flag l.acceptor.isSome))
  | .settings, .listener l =>
    pure (.plain (.list [.number l.settings.readChunk, .flag l.settings.nodelay]))
  | .acceptDirect name, .listener l =>
    onListener l (fun (connection, peer) => do
        keep name { channel := .connection connection }
        pure (.text peer))
      Listener.acceptConnection
  | .acceptTransport, .listener l =>
    onListener l (fun (transport, peer) =>
        pure (.list [.text (Transport.describe transport), .text peer]))
      Listener.acceptTransport
  | .localAddress, .listener l => pure (localAddress l access)
  | .touch, .expiring .. => command Channel.touch
  | .lastActivity, .expiring _ last _ => pure (.ok (.span last.sinceStart))
  | .interval, .expiring _ _ interval => pure (.ok (.span interval))
  | .innerStatus, .expiring inner _ _ => pure (.plain (.status (ChannelOps.status inner)))
  | _, _ => pure (.lacking .support)

def performShared (operation : Operation) : Action Bench ε Scene Reply :=
  match operation with
  | .read count opts => call .bytes (ChannelOps.read count opts)
  | .write data => command (ChannelOps.write data)
  | .onRead => command ChannelOps.onRead
  | .onWrite => command ChannelOps.onWrite
  | .close => command ChannelOps.close.sure
  | .setMode mode => command (ChannelOps.setMode mode)
  | .applyMode mode => command (ChannelOps.applyMode mode)
  | .attach reactor => command (ChannelOps.attach { reactor, mailbox := none })
  | .detach => command ChannelOps.detach
  | .descriptor => question fun c =>
    Reply.ofChannel (fun fd => if c.overSocket then .flag true else .number fd)
      (ChannelOps.descriptor c)
  | .name => question fun c => .ok (.text (ChannelOps.label c))
  | .accept keepAs => accept keepAs
  | .hasExpired instant => do
    let now ← Action.now
    question fun c => .ok (.flag (ChannelOps.hasExpired (instant.getD now) c))
  | .status => question fun c => .plain (.status (ChannelOps.status c))
  | .registration => do
    let scene ← Action.subject
    match ChannelOps.token? scene.channel with
    | none => pure .fine
    | some token => pure (.ok (.flag (scene.stock.isAlive token)))
  | .inject name => inject name
  | _ => pure (.lacking .support)

def isShared : Operation → Bool
  | .lingering | .isOpen | .settings | .acceptDirect _ | .acceptTransport | .touch
  | .lastActivity | .interval | .innerStatus | .inner _ | .peerAddress | .localAddress
  | .nodelay | .unknown => false
  | _ => true

/-- An operation on a channel, as it is held. -/
def perform (access : Access) (operation : Operation) : Action Bench ε Scene Reply := do
  match operation, (← Action.subject).channel with
  | .inner operation, .expiring inner last interval =>
    if access.isDirect then
      Action.update fun s => { s with channel := inner }
      let reply ← performShared operation
      Action.update fun s => { s with channel := .expiring s.channel last interval }
      pure reply
    else pure (.lacking .support)
  | operation, _ =>
    if isShared operation then performShared operation
    else if access.isDirect then performDirect access operation
    else pure (.lacking .support)

end Scene

end ChannelReactor.Scenario
