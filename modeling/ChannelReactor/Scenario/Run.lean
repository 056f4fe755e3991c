import ChannelReactor.Scenario.World

/-!
# Runs of scenarios

A scenario is a list of steps. Its run has a line for each step: the reply, the clock, the events,
and how the reactor or the channel looks afterwards that the step is about. A halt ends the run.
-/
namespace ChannelReactor.Scenario

structure Step where
  deed : Deed
  /-- The reactor to show afterwards, if it exists. -/
  reactor : Option String := none
  /-- The pool channel to show afterwards, of a step that is not about a reactor. -/
  channel : Option String := none

/-- A registered channel in a summary. -/
structure Member where
  id : ChannelId
  status : ChannelStatus

structure Summary where
  clients : Nat
  listeners : Nat
  /-- All channels, in the order of their ids. -/
  members : List Member
  stats : ReactorStats
  stopped : Bool
  pending : Nat
  /-- The connections and the bytes that the echo application counts. -/
  echo : Option (Nat × Nat)

structure StepLine where
  reply : Reply
  now : Instant
  events : List Event
  summary : Option Summary
  status : Option ChannelStatus

namespace World

def summary (w : World) (r : PlannedReactor) : Summary :=
  let mailbox := (w.stock.mailboxes.lookup r.serial).getD {}
  let members := (r.listeners ++ r.clients).map fun e =>
    { id := e.id, status := ChannelOps.status e.channel : Member }
  { clients := r.clients.length
    listeners := r.listeners.length
    members := members.mergeSort fun a b => a.id ≤ b.id
    stats := r.stats
    stopped := mailbox.stopped
    pending := mailbox.queue.length
    echo := match r.hooks.manager with
      | .echo state => some (state.live, state.echoed)
      | _ => none }

def stepLine (w : World) (b : Bench) (step : Step) (reply : Reply) : StepLine :=
  let summary := step.reactor.bind fun name => (w.reactors.lookup name).map w.summary
  let status := match step.reactor with
    | some _ => none
    | none => step.channel.bind fun name =>
      (w.stock.pool.lookup name).map fun h => ChannelOps.status h.channel
  { reply, now := b.clock, events := b.events.reverse, summary, status }

def runSteps : List Step → World → Bench → List StepLine
  | [], _, _ => []
  | step :: rest, w, b =>
    match (do let reply ← perform step.deed; sweep; pure reply : Action Bench Empty World Reply)
        w { b with events := [] } with
    | .done reply w b => w.stepLine b step reply :: runSteps rest w b
    | .refused e _ _ => e.elim
    | .halted h b =>
      [{ reply := .halted h, now := b.clock, events := b.events.reverse,
         summary := none, status := none }]

end World

/-- The lines of a scenario that starts in an empty world. -/
def run (start : Instant) (steps : List Step) : List StepLine :=
  World.runSteps steps {} { clock := start }

end ChannelReactor.Scenario
