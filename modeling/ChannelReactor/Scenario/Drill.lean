import ChannelReactor.Channel.Core
import ChannelReactor.Poll.Set
import ChannelReactor.Scenario.Bench

/-!
# Drills

Scenarios of a single part: a byte queue, the core of a channel, or a poll set.
-/
namespace ChannelReactor.Scenario

/-! ## Byte queues -/

inductive QueueStep where
  | push (data : Bytes)
  | peek (n : Nat)
  | take (n : Nat)
  | drop (n : Nat)
  | clear
  | front
  /-- Takes everything out, in blocks of at most `n` bytes. -/
  | drain (n : Nat)
  /-- Takes a byte from a copy, and answers the rest of the copy. -/
  | copy

/-- What a step on a byte queue answers, and the queue after it. -/
def QueueStep.perform (q : ByteQueue) : QueueStep → Value × ByteQueue
  | push data => (.null, q.push data)
  | peek n => (.bytes (q.peek n), q)
  | take n => (.bytes (q.take n).1, (q.take n).2)
  | drop n => (.null, q.drop n)
  | clear => (.null, .empty)
  | front =>
    match q.front? with
    | some byte => (.number byte.toNat, q)
    | none => (.null, q)
  | drain n => (.bytes (q.blocks n).flatten, .empty)
  | copy => (.bytes (q.take 1).2.toList, q)

/-- The answers of steps on a byte queue, each with the queue after it. -/
def runQueue : ByteQueue → List QueueStep → List (Value × ByteQueue)
  | _, [] => []
  | q, step :: rest =>
    let (answer, q) := step.perform q
    (answer, q) :: runQueue q rest

/-! ## Cores of channels -/

inductive CoreStep where
  | receive (data : Bytes)
  | enqueue (data : Bytes)
  | sent (n : Nat)
  | read (count : Nat) (opts : ReadOptions)
  | deactivate
  | ensureActive
  | recordMode (mode : WaitMode)
  | register (reactor : Nat) (prior : WaitMode)
  | unregister
  | registration

inductive CoreAnswer where
  | reply (r : Reply)
  | registration (r : Option Registration)

def CoreStep.perform (c : ChannelCore) : CoreStep → CoreAnswer × ChannelCore
  | receive data => (.reply (.plain .null), c.receive data)
  | enqueue data => (.reply (.plain .null), c.enqueue data)
  | sent n => (.reply (.plain .null), c.sent n)
  | read count opts =>
    match c.takeInput count opts with
    | .ok (data, c) => (.reply (.ok (.bytes data)), c)
    | .error e => (.reply (.channelError e), c)
  | deactivate => (.reply (.plain .null), c.deactivate)
  | ensureActive => (.reply (Reply.ofChannel (fun () => .null) c.ensureActive), c)
  | recordMode mode => (.reply (.plain .null), c.recordMode mode)
  | register reactor prior =>
    (.reply (.plain .null), c.register { reactor, mailbox := none } prior)
  | unregister => (.registration c.registration, c.unregister)
  | registration => (.registration c.registration, c)

/-- The answers of steps on the core of a channel, each with the core after it. -/
def runCore : ChannelCore → List CoreStep → List (CoreAnswer × ChannelCore)
  | _, [] => []
  | c, step :: rest =>
    let (answer, c) := step.perform c
    (answer, c) :: runCore c rest

/-! ## Poll sets -/

inductive PollStep where
  | push (interest : PollInterest)
  | clear
  | wait (timeout : Span) (script : PollScript)
  | readiness (index : Nat)
  | anyInvalid
  | probe (descriptor : Int) (script : PollScript)

inductive PollAnswer where
  | nothing
  | index (n : Nat)
  | ready (result : Except PollError Nat)
  | probed (result : Except PollError Unit)
  | readiness (r : Readiness)
  | invalid (b : Bool)

def usePolls {ε σ : Type} (script : PollScript) : Action Bench ε σ Unit :=
  Action.onMachine fun b => ((), { b with polls := script })

def PollStep.perform : PollStep → Action Bench Empty PollSet PollAnswer
  | push interest => do
    let set ← Action.subject
    Action.update (·.push interest)
    pure (.index set.size)
  | clear => do
    Action.update fun _ => .empty
    pure .nothing
  | wait timeout script => do
    usePolls script
    return .ready (← Action.attempt (PollSet.wait timeout))
  | readiness index => return .readiness ((← Action.subject).readiness index)
  | anyInvalid => return .invalid (← Action.subject).anyInvalid
  | probe descriptor script => do
    usePolls script
    return .probed (← Action.attempt (PollSet.probe descriptor))

structure PollLine where
  answer : PollAnswer
  set : PollSet
  events : List Event

def runPolls : PollSet → Bench → List PollStep → List PollLine
  | _, _, [] => []
  | set, b, step :: rest =>
    match step.perform set { b with events := [] } with
    | .done answer set b => { answer, set, events := b.events.reverse } :: runPolls set b rest
    | .refused e _ _ => e.elim
    | .halted _ _ => []

end ChannelReactor.Scenario
