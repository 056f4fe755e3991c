import ChannelReactor.Scenario.Plan

/-!
# Worlds

A world is the state of a scenario: its stock and its reactors. A step changes it and has a reply.
-/
namespace ChannelReactor.Scenario

inductive ReactorStep where
  | register (channel : String)
  | listen (channel : String)
  | inject (channel : String)
  | unregister (id : ChannelId) (keepAs : String)
  | takeListeners (keepAs : String)
  | runOnce (polls : PollScript)
  | run (polls : List PollScript)
  | stop
  | info
  | describe
  /-- Keeps the token of a registered channel. -/
  | token (id : ChannelId) (keepAs : String)
  | operate (id : ChannelId) (operation : Operation)

inductive Deed where
  | makeConnection (keepAs : String) (policy : Policy) (settings : ChannelSettings) (wire : Wire)
  | makeListener (keepAs : String) (policy : Policy) (settings : ChannelSettings) (gate : Gate)
  | makeStub (keepAs : String) (stub : Stub)
  | expire (channel : String) (interval : Span)
  | unwrap (channel : String)
  /-- Adds to the script of the newest device of a name. -/
  | feed (device : String) (more : Feed) (accepts : List AcceptAct)
  | advance (d : Span)
  | operate (channel : String) (operation : Operation)
  | makeReactor (name : String) (plan : Plan) (settings : ReactorSettings)
  | dropReactor (name : String)
  | onReactor (name : String) (step : ReactorStep)
  | tokenAlive (token : String)
  | tokenInject (token channel : String)
  /-- Hands channels over through a queue of its own. -/
  | queue (channels : List String)
  | makePair (first second : String) (settings : ChannelSettings)
  | listenTcp (keepAs : String) (settings : ChannelSettings)
  | connectTcp (keepAs listener : String) (settings : ChannelSettings) (dropFirst : Bool)
  | listenUnix (keepAs client : String)
  | unknown

/-- The reactors of a scenario, whose mailboxes are in the stock. -/
abbrev PlannedReactor := Reactor Plan BenchChannel

structure World where
  stock : Stock := {}
  reactors : List (String × PlannedReactor) := []
  nextReactor : Nat := 1

namespace World

variable {ε α : Type}

def onStock (f : Stock → α × Stock) : Action Bench ε World α := do
  let w ← Action.subject
  let (a, stock) := f w.stock
  Action.update fun w => { w with stock }
  pure a

def keep (name : String) (holding : Holding) : Action Bench ε World Unit :=
  onStock fun s => ((), s.keep name holding)

/-! ## Making things -/

def makeConnection (keepAs : String) (policy : Policy) (settings : ChannelSettings) (line : Line) :
    Action Bench ε World Reply := do
  match ← Action.attempt (Connection.establish policy settings line) with
  | .error e => pure (.channelError e)
  | .ok c =>
    keep keepAs { channel := .connection c }
    pure (.ok (.text c.core.label))

def makeListener (keepAs : String) (policy : Policy) (settings : ChannelSettings)
    (source : Source) (access : Access := .direct) : Action Bench ε World Reply := do
  match ← Action.attempt (Listener.establish policy settings source) with
  | .error e => pure (.channelError e)
  | .ok l =>
    keep keepAs { channel := .listener l, access }
    pure (.ok (.text l.core.label))

def onLoopback (f : Loopback → α × Loopback) : Action Bench ε World α :=
  Action.onMachine fun b =>
    let (a, loopback) := f b.loopback
    (a, { b with loopback })

def makePair (first second : String) (settings : ChannelSettings) :
    Action Bench ε World Reply := do
  match settings.fault? with
  | some fault => pure (.channelError (.ofSettings fault))
  | none =>
    let (i, j) ← onLoopback Loopback.pair
    let label := SocketFamily.unix.lineLabel
    let _ ← makeConnection first .plain settings (.socket i label)
    let _ ← makeConnection second .plain settings (.socket j label)
    pure .fine

/-- Makes a listener to which one connection is made at once. -/
def listenUnix (keepAs client : String) : Action Bench ε World Reply := do
  let listener ← onLoopback Loopback.listen
  let near ← onLoopback (Loopback.connect listener)
  let label := SocketFamily.unix.lineLabel
  let _ ← makeListener keepAs .plain {} (.socket listener .unix)
  let _ ← makeConnection client .plain {} (.socket near label)
  pure (.ok (.list [.text SocketFamily.unix.sourceLabel, .text label]))

/-- Connects to a listener over the internet, of which there is none. -/
def connectTcp (listener : String) (dropFirst : Bool) : Action Bench ε World Reply := do
  match (← Action.subject).stock.pool.lookup listener with
  | none => pure (.lacking .channel)
  | some _ =>
    if dropFirst then
      let _ ← onStock (Stock.takeOut listener)
    pure (.channelError (.failed Loopback.unreachable))

/-- Adds to the script of the newest device of a name, wherever it is. -/
def feed (device : String) (more : Feed) (accepts : List AcceptAct) :
    Action Bench ε World Reply := do
  match ← Action.ask fun b : Bench => b.devices.lookup device with
  | none => pure (.lacking .transport)
  | some serial =>
    let onWire (w : Wire) : Wire :=
      if w.serial = serial then { w with script := w.script.fed more } else w
    let onGate (p : Gate) : Gate :=
      if p.serial = serial then
        { p with accepts := p.accepts ++ accepts
                 modeResults := p.modeResults ++ more.modeResults }
      else p
    let onChannel := BenchChannel.mapDevices onWire onGate
    let onEntries := List.map fun (e : Entry BenchChannel) =>
      { e with channel := onChannel e.channel }
    Action.update fun w =>
      { w with
        stock.pool := w.stock.pool.map fun (name, h) =>
          (name, { h with channel := onChannel h.channel })
        stock.mailboxes := w.stock.mailboxes.map fun (serial, m) =>
          (serial, { m with queue := m.queue.map onChannel })
        reactors := w.reactors.map fun (name, r) =>
          (name, { r with listeners := onEntries r.listeners, clients := onEntries r.clients }) }
    pure .fine

/-! ## Pool channels -/

def expire (name : String) (interval : Span) : Action Bench ε World Reply := do
  match ← onStock (Stock.takeOut name) with
  | none => pure (.lacking .channel)
  | some holding =>
    keep name { channel := ← Channel.expireAfter holding.channel interval }
    pure .fine

/-- Undoes `expire`. A channel that is not held as an expiring one is lost. -/
def unwrap (name : String) : Action Bench ε World Reply := do
  match ← onStock (Stock.takeOut name) with
  | some { channel := .expiring inner _ _, access } =>
    if access.isDirect then
      keep name { channel := inner, access := .shared }
      pure .fine
    else pure (.lacking .support)
  | _ => pure (.lacking .support)

/-- An operation on a pool channel, which is out of the pool meanwhile. -/
def operate (name : String) (operation : Operation) : Action Bench ε World Reply := do
  match ← onStock (Stock.takeOut name) with
  | none => pure (.lacking .channel)
  | some holding =>
    let (reply, scene) ← Action.runOn
      { channel := holding.channel, stock := (← Action.subject).stock }
      (Scene.perform holding.access operation)
    Action.update fun w => { w with stock := scene.stock }
    keep name { holding with channel := scene.channel }
    pure reply

/-- Hands channels over through a queue of its own, and takes them out again. -/
def queue (names : List String) : Action Bench ε World Reply := do
  let (rows, queued) ← fillQueue names []
  pure (.ok (.list (queueRow [] :: rows ++ drained queued)))
where
  queueRow (queued : List BenchChannel) : Value :=
    let size := queued.length
    .list [.number size, .flag queued.isEmpty,
      .text ("InjectQueue \x7b len: " ++ toString size ++ " \x7d")]
  fillQueue : List String → List BenchChannel →
      Action Bench ε World (List Value × List BenchChannel)
    | [], queued => pure ([], queued)
    | name :: rest, queued => do
      let queued := match ← onStock (Stock.takeOut name) with
        | some holding => queued ++ [holding.channel]
        | none => queued
      let (rows, all) ← fillQueue rest queued
      pure (queueRow queued :: rows, all)
  drained : List BenchChannel → List Value
    | [] => []
    | c :: rest =>
      .list [.text (ChannelOps.label c), .number rest.length] :: drained rest

/-! ## Reactors -/

/-- Makes a reactor, which takes the place of one of the same name. -/
def makeReactor (name : String) (plan : Plan) (settings : ReactorSettings) :
    Action Bench ε World Reply := do
  let w ← Action.subject
  match Reactor.new (χ := BenchChannel) w.nextReactor settings plan with
  | .error e => pure (.reactorError e)
  | .ok r =>
    let mailboxes := match w.reactors.lookup name with
      | some old => Stock.unassign old.serial w.stock.mailboxes
      | none => w.stock.mailboxes
    Action.update fun w =>
      { w with
        reactors := Stock.assign name r w.reactors
        nextReactor := w.nextReactor + 1
        stock.mailboxes := Stock.assign r.serial {} mailboxes }
    let idle := match settings.idleTimeout with
      | some d => .span d
      | none => .null
    pure (.ok (.list [.span settings.pollTimeout, .number settings.injectBatch, idle]))

/-- Drops a reactor and its channels, which are not closed. -/
def dropReactor (name : String) : Action Bench ε World Reply := do
  match (← Action.subject).reactors.lookup name with
  | none => pure (.ok (.flag false))
  | some r =>
    Action.update fun w =>
      { w with
        reactors := Stock.unassign name w.reactors
        stock.mailboxes := Stock.unassign r.serial w.stock.mailboxes }
    pure (.ok (.flag true))

/-- Runs an action on a reactor whose plan has the rest of the world at hand. -/
def staged (name : String) (r : PlannedReactor)
    (x : Action Bench Empty (Reactor Stage BenchChannel) α) : Action Bench ε World α := do
  let stock := (← Action.subject).stock
  let stage : Stage :=
    { plan := r.hooks, serial := r.serial
      stock := { stock with mailboxes := Stock.unassign r.serial stock.mailboxes } }
  let mailbox := (stock.mailboxes.lookup r.serial).getD {}
  let (a, after) ← Action.runOn (r.withDesk { hooks := stage, mailbox }) x.sure
  let desk : StageDesk := { hooks := after.hooks, mailbox := after.mailbox }
  Action.update fun w =>
    { w with
      stock := desk.stock
      reactors := Stock.assign name
        (after.withDesk { hooks := after.hooks.plan, mailbox := {} }) w.reactors }
  pure a

def stagedReply (name : String) (r : PlannedReactor) (toValue : α → Value)
    (x : Action Bench ReactorError (Reactor Stage BenchChannel) α) :
    Action Bench ε World Reply := do
  return Reply.ofReactor toValue (← staged name r (Action.attempt x))

/-- Takes a pool channel out to hand it to a reactor. -/
def withChannel (channel : String) (f : BenchChannel → Action Bench ε World Reply) :
    Action Bench ε World Reply := do
  match ← onStock (Stock.takeOut channel) with
  | none => pure (.lacking .channel)
  | some holding => f holding.channel

def mapPlan (f : Plan → Plan) : Action Bench ε (Reactor Stage BenchChannel) Unit :=
  Action.update fun r => { r with hooks.plan := f r.hooks.plan }

def keepAll (name : String) : Nat → List BenchChannel → Action Bench ε World Unit
  | _, [] => pure ()
  | i, c :: rest => do
    keep (name ++ toString i) { channel := c, access := .shared }
    keepAll name (i + 1) rest

/-- A reactor as a text for people; its serial number is masked. -/
def describe (r : Reactor Stage BenchChannel) : String :=
  "Reactor \x7b id: *, listeners: " ++ toString r.listeners.length ++
  ", channels: " ++ toString r.clients.length ++
  ", pending_inject: " ++ toString r.mailbox.queue.length ++
  ", stats: " ++ r.stats.record ++ " \x7d"

def operateRegistered (id : ChannelId) (operation : Operation) :
    Action Bench ε (Reactor Stage BenchChannel) Reply := do
  match (← Action.subject).find? id with
  | none => pure (.lacking .channel)
  | some (side, index) =>
    let e ← Reactor.entryAt side index
    let (c, replies) ← Reactor.hook (Stage.act e.channel [operation])
    Action.update (Reactor.put side index c)
    pure (replies.headD (.lacking .support))

def onReactor (name : String) (r : PlannedReactor) :
    ReactorStep → Action Bench ε World Reply
  | .register channel => withChannel channel fun c =>
    stagedReply name r (fun id => .number id) (Reactor.register c)
  | .listen channel => withChannel channel fun c =>
    stagedReply name r (fun id => .number id) (Reactor.listen c)
  | .inject channel => withChannel channel fun c => do
    let _ ← onStock (Stock.deliver { reactor := r.serial, mailbox := some r.serial } c)
    pure .fine
  | .unregister id keepAs => do
    match ← staged name r (Action.attempt (Reactor.unregister id)) with
    | .error e => pure (.reactorError e)
    | .ok c =>
      keep keepAs { channel := c, access := .shared }
      pure (.ok (.status (ChannelOps.status c)))
  | .takeListeners keepAs => do
    let taken ← staged name r Reactor.takeListeners
    keepAll keepAs 0 taken
    pure (.ok (.list (taken.map fun c => .status (ChannelOps.status c))))
  | .runOnce polls => stagedReply name r (fun n => .number n) do
    mapPlan fun p => { p with polls := [polls], stopsAtEnd := false }
    Reactor.runOnce
  | .run polls => do
    staged name r do
      mapPlan fun p => { p with polls, stopsAtEnd := true }
      Reactor.run (polls.length + 1)
      mapPlan fun p => { p with polls := [], stopsAtEnd := false }
    pure .fine
  | .stop => do
    staged name r (Reactor.hook Stage.stop)
    pure .fine
  | .info => pure .fine
  | .describe => do
    return .ok (.text (← staged name r do pure (describe (← Action.subject))))
  | .token id keepAs => do
    match (r.channel? id).bind ChannelOps.token? with
    | none => pure (.lacking .channel)
    | some token =>
      onStock fun s => ((), { s with tokens := Stock.assign keepAs token s.tokens })
      pure (.ok (.flag (token.reactor == r.serial)))
  | .operate id operation => staged name r (operateRegistered id operation)

/-! ## Steps -/

def perform : Deed → Action Bench ε World Reply
  | .makeConnection keepAs policy settings wire => do
    let serial ← newDevice wire.name
    makeConnection keepAs policy settings (.wire { wire with serial })
  | .makeListener keepAs policy settings gate => do
    let serial ← newDevice gate.name
    makeListener keepAs policy settings (.gate { gate with serial })
  | .makeStub keepAs stub => do
    keep keepAs { channel := .custom stub }
    pure .fine
  | .expire channel interval => expire channel interval
  | .unwrap channel => unwrap channel
  | .feed device more accepts => feed device more accepts
  | .advance d => do
    pass d
    pure .fine
  | .operate channel operation => operate channel operation
  | .makeReactor name plan settings => makeReactor name plan settings
  | .dropReactor name => dropReactor name
  | .onReactor name step => do
    match (← Action.subject).reactors.lookup name with
    | none => pure (.lacking .reactor)
    | some r => onReactor name r step
  | .tokenAlive token => do
    let stock := (← Action.subject).stock
    match stock.tokens.lookup token with
    | none => pure .fine
    | some token => pure (.ok (.flag (stock.isAlive token)))
  | .tokenInject token channel => onStock (Stock.handOver token channel)
  | .queue channels => queue channels
  | .makePair first second settings => makePair first second settings
  | .listenTcp keepAs settings => do
    let listener ← onLoopback Loopback.listen
    makeListener keepAs .plain settings (.socket listener .tcp) (.addressed Loopback.address)
  | .connectTcp _ listener _ dropFirst => connectTcp listener dropFirst
  | .listenUnix keepAs client => listenUnix keepAs client
  | .unknown => pure (.lacking .support)

def channels (w : World) : List BenchChannel :=
  w.stock.pool.map (·.2.channel) ++ w.stock.mailboxes.flatMap (·.2.queue) ++
    w.reactors.flatMap fun (_, r) =>
      r.listeners.map (·.channel) ++ r.clients.map (·.channel)

/-- Closes the sockets that no channel holds any more, nor the backlog of a held listener. -/
def sweep : Action Bench ε World Unit := do
  let held := (← Action.subject).channels.map BenchChannel.sockets
  let ends := held.flatMap (·.1)
  let sources := held.flatMap (·.2)
  onLoopback fun l =>
    let waiting := sources.flatMap fun i => l.backlogs.getD i []
    ((), (List.range l.ends.length).foldl
      (fun l i => if ends.contains i || waiting.contains i then l else l.closeEnd i) l)

end World

end ChannelReactor.Scenario
