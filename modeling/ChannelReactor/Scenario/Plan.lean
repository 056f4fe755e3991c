import ChannelReactor.Echo
import ChannelReactor.Reactor.Loop
import ChannelReactor.Scenario.Operation

/-!
# Plans

The hooks of a reactor in a scenario. A plan says what to do at each event; whatever it is, the
events are written down. A plan also hands each iteration the script of its polls.
-/
namespace ChannelReactor.Scenario

inductive Decision where
  | accept
  | discard
  | expire (interval : Span)
  /-- Registers a pool channel in its place; without one it is declined. -/
  | swap (channel : String)
deriving DecidableEq, Repr

inductive TickAct where
  | stop
  | advance (d : Span)
  | inject (token channel : String)
deriving DecidableEq, Repr

/-- Who decides at the events of a reactor. -/
inductive Manager where
  | scripted
  | nobody
  | echo (state : Echo)

structure Plan where
  manager : Manager := .scripted
  decisions : List Decision := []
  onReadable : List Operation := []
  onWritable : List Operation := []
  onClosed : List Operation := []
  /-- What to do at which ticks, counted from one. -/
  onTick : List (Nat × TickAct) := []
  ticks : Nat := 0
  /-- The scripts of the iterations to come. -/
  polls : List PollScript := []
  /-- Asks the reactor to stop in the iteration that takes the last script. -/
  stopsAtEnd : Bool := false

/-- A plan in action: with the rest of the scenario at hand. -/
structure Stage where
  plan : Plan
  serial : Nat
  /-- The stock without the reactor's own mailbox. -/
  stock : Stock

abbrev StageDesk := Desk Stage BenchChannel

namespace StageDesk

/-- The stock with the reactor's mailbox among the others. -/
def stock (d : StageDesk) : Stock :=
  { d.hooks.stock with
    mailboxes := Stock.assign d.hooks.serial d.mailbox d.hooks.stock.mailboxes }

/-- The desk of a stock with the reactor's mailbox in it. -/
def putStock (stock : Stock) (d : StageDesk) : StageDesk :=
  let rest := { stock with mailboxes := Stock.unassign d.hooks.serial stock.mailboxes }
  { hooks := { d.hooks with stock := rest }
    mailbox := (stock.mailboxes.lookup d.hooks.serial).getD d.mailbox }

def mapPlan (f : Plan → Plan) (d : StageDesk) : StageDesk :=
  { d with hooks := { d.hooks with plan := f d.hooks.plan } }

end StageDesk

namespace Stage

variable {ε α : Type}

def stop : Action Bench ε StageDesk Unit :=
  Action.update fun d => { d with mailbox := { d.mailbox with stopped := true } }

def onStock (f : Stock → α × Stock) : Action Bench ε StageDesk α := do
  let (a, stock) := f (← Action.subject).stock
  Action.update (StageDesk.putStock stock)
  pure a

def performAll : List Operation → Action Bench ε Scene (List Reply)
  | [] => pure []
  | operation :: rest => do
    let reply ← Scene.perform .shared operation
    return reply :: (← performAll rest)

/-- Does operations on the channel of a hook, and answers the channel and the replies. -/
def act (c : BenchChannel) (operations : List Operation) :
    Action Bench ε StageDesk (BenchChannel × List Reply) := do
  let (replies, scene) ← Action.runOn { channel := c, stock := (← Action.subject).stock }
    (performAll operations)
  Action.update (StageDesk.putStock scene.stock)
  pure (scene.channel, replies)

/-- The echo application, if it manages the reactor. -/
def onEcho (f : Action Bench Empty Echo α) : Action Bench ε StageDesk (Option α) := do
  match (← Action.subject).hooks.plan.manager with
  | .echo state =>
    let (a, state) ← Action.runOn state f.sure
    Action.update (StageDesk.mapPlan fun p => { p with manager := .echo state })
    pure (some a)
  | _ => pure none

def decide (accepted : Accepted BenchChannel) :
    Decision → Action Bench ε StageDesk (Option BenchChannel)
  | .accept => pure (some accepted.channel)
  | .discard => pure none
  | .expire interval => return some (← Channel.expireAfter accepted.channel interval)
  | .swap name => return (← onStock (Stock.takeOut name)).map (·.channel)

/-- Takes the next decision; without one connections are accepted. -/
def nextDecision : Action Bench ε StageDesk Decision := do
  let decisions := (← Action.subject).hooks.plan.decisions
  Action.update (StageDesk.mapPlan fun p => { p with decisions := decisions.tail })
  pure (decisions.headD .accept)

def onAccept (listener : ChannelId) (accepted : Accepted BenchChannel) :
    Action Bench ε StageDesk (Option BenchChannel) := do
  let kept ← match (← Action.subject).hooks.plan.manager with
    | .scripted => do decide accepted (← nextDecision)
    | .nobody => pure (some accepted.channel)
    | .echo _ => Option.join <$> onEcho (Echo.letIn accepted)
  record (.accepted listener accepted.peer kept.isSome)
  pure kept

def onReadable (id : ChannelId) (c : BenchChannel) : Action Bench ε StageDesk BenchChannel := do
  let c ← match (← Action.subject).hooks.plan.manager with
    | .echo _ => do
      let (moved, c) ← Action.runOn c Echo.sendBack
      let _ ← onEcho (Action.update (Echo.tally moved))
      pure c
    | _ => pure c
  let (c, replies) ← act c (← Action.subject).hooks.plan.onReadable
  record (.readable id replies)
  pure c

def onWritable (id : ChannelId) (c : BenchChannel) : Action Bench ε StageDesk BenchChannel := do
  let (c, replies) ← act c (← Action.subject).hooks.plan.onWritable
  record (.writable id replies)
  pure c

def onClosed (id : ChannelId) (c : BenchChannel) (reason : CloseReason) :
    Action Bench ε StageDesk Unit := do
  let (c, replies) ← act c (← Action.subject).hooks.plan.onClosed
  record (.closed id reason (ChannelOps.status c) replies)

def tickAct : TickAct → Action Bench ε StageDesk Unit
  | .stop => stop
  | .advance d => pass d
  | .inject token channel => do
    let _ ← onStock (Stock.handOver token channel)

def tickActs (tick : Nat) : List (Nat × TickAct) → Action Bench ε StageDesk Unit
  | [] => pure ()
  | (due, act) :: rest => do
    if due = tick then tickAct act
    tickActs tick rest

def nextPolls : Action Bench ε StageDesk Unit := do
  let plan := (← Action.subject).hooks.plan
  Action.onMachine fun b => ((), { b with polls := plan.polls.headD {} })
  Action.update (StageDesk.mapPlan fun p => { p with polls := p.polls.tail })
  if plan.stopsAtEnd && plan.polls.tail.isEmpty then stop

def onTick (stats : ReactorStats) : Action Bench ε StageDesk Unit := do
  record (.tick stats)
  nextPolls
  let _ ← onEcho (Action.update (Echo.recount stats))
  Action.update (StageDesk.mapPlan fun p => { p with ticks := p.ticks + 1 })
  let plan := (← Action.subject).hooks.plan
  tickActs plan.ticks plan.onTick

instance : Hooks Bench Stage BenchChannel where
  onAccept := onAccept
  onReadable := onReadable
  onWritable := onWritable
  onClosed := onClosed
  onTick := onTick
  onStartup := record .startup
  onCleanup := record .cleanup

end Stage

end ChannelReactor.Scenario
