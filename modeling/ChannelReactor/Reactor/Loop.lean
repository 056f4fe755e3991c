import ChannelReactor.Poll.Set
import ChannelReactor.Reactor.Basic

/-!
# The loop

One iteration of a reactor: it closes expired clients, takes handed-over channels, polls, and
serves what is ready, first output and then input. When the poll fails, it looks for a channel to
blame. A run iterates until it is asked to stop, and then closes all clients.
-/
namespace ChannelReactor

/-- Where a channel stood when it was polled. -/
structure Slot where
  side : Side
  index : Nat
  id : ChannelId
deriving DecidableEq, Repr

/-- The entries of a poll, and for each of them the slot of its channel. -/
structure PollTable where
  set : PollSet := .empty
  slots : List Slot := []

def PollTable.push (table : PollTable) (slot : Slot) (interest : PollInterest) : PollTable where
  set := table.set.push interest
  slots := table.slots ++ [slot]

/-- The slots with what the last wait said of their entries. -/
def PollTable.reports (slots : List Slot) (set : PollSet) : List (Slot × Readiness) :=
  slots.zipIdx.map fun (slot, k) => (slot, set.readiness k)

/-- Why a channel goes whose callback failed; it stays when the error will pass. -/
def CloseReason.ofError? : ChannelError → Option CloseReason
  | .closed => some .closed
  | .failed _ => some .failed
  | _ => none

namespace Reactor

variable {ω ε η χ : Type} [Machine ω] [ChannelOps ω χ] [Hooks ω η χ]

/-! ## Before the poll -/

/-- Closes clients that are expired at an instant, from a place on. A closed one leaves its place
to the next. -/
def expireFrom (now : Instant) : (rounds index : Nat) → Action ω ε (Reactor η χ) Unit
  | 0, _ => pure ()
  | rounds + 1, index => do
    match (← Action.subject).clients[index]? with
    | none => pure ()
    | some e =>
      if ChannelOps.hasExpired now e.channel then
        evict .client index .expired
        expireFrom now rounds index
      else expireFrom now rounds (index + 1)

def expire (now : Instant) : Action ω ε (Reactor η χ) Unit := do
  expireFrom now (← Action.subject).clients.length 0

/-- Takes at most so many channels out of the mailbox. One that cannot be registered is
dropped. -/
def drainMailbox : (batch : Nat) → Action ω ε (Reactor η χ) Unit
  | 0 => pure ()
  | batch + 1 => do
    match (← Action.subject).mailbox.queue with
    | [] => pure ()
    | c :: rest =>
      Action.update fun r => { r with mailbox := { r.mailbox with queue := rest } }
      Action.update (count (·.addInjected))
      let _ ← Action.attempt (register c)
      drainMailbox batch

/-- What to ask of a descriptor. Only a client with output waiting asks to write. -/
def interest (side : Side) (descriptor : Int) (c : χ) : PollInterest where
  descriptor := descriptor
  read := true
  write := side == .client && ChannelOps.isWritePending c

/-- The table with entries of one side, the first of which stands at `index`; or the place of the
first that has no descriptor. -/
def enlist (side : Side) : (index : Nat) → List (Entry χ) → PollTable → Except Nat PollTable
  | _, [], table => .ok table
  | index, e :: rest, table =>
    match ChannelOps.descriptor e.channel with
    | .ok descriptor =>
      enlist side (index + 1) rest
        (table.push ⟨side, index, e.id⟩ (interest side descriptor e.channel))
    | .error _ => .error index

/-- What to poll, the listeners and then the clients; or where the first channel without a
descriptor stands. -/
def pollTable (r : Reactor η χ) : Except (Side × Nat) PollTable :=
  match enlist .listener 0 r.listeners {} with
  | .error index => .error (.listener, index)
  | .ok table =>
    match enlist .client 0 r.clients table with
    | .error index => .error (.client, index)
    | .ok table => .ok table

/-- Closes the entries without a descriptor, starting over after each, and answers what to
poll. -/
def preparePoll : Action ω ε (Reactor η χ) PollTable := do
  let r ← Action.subject
  Action.repeatUntil (r.listeners.length + r.clients.length + 1) do
    match pollTable (← Action.subject) with
    | .error (side, index) =>
      evict side index .closed
      pure none
    | .ok table => pure (some table)

/-! ## After the poll -/

/-- The place of the first entry that cannot be polled; the first of the list stands at
`index`. -/
def findBroken {σ : Type} : (index : Nat) → List (Entry χ) → Action ω ε σ (Option Nat)
  | _, [] => pure none
  | index, e :: rest => do
    match ChannelOps.descriptor e.channel with
    | .error _ => pure (some index)
    | .ok descriptor =>
      match ← Action.attempt (PollSet.probe descriptor) with
      | .error _ => pure (some index)
      | .ok () => findBroken (index + 1) rest

/-- After a failed poll, closes the first client that cannot be polled, or else the first such
listener. With nothing to blame the error is the reactor's. -/
def recover (error : PollError) : Action ω ReactorError (Reactor η χ) Nat := do
  Action.update (count (·.addPollFailure))
  let r ← Action.subject
  match ← findBroken 0 r.clients with
  | some index =>
    evict .client index .pollFailure
    pure 0
  | none =>
    match ← findBroken 0 r.listeners with
    | some index =>
      evict .listener index .pollFailure
      pure 0
    | none => Action.refuse (.poll error)

/-- Where the channel of a slot stands now: at the place where it was polled, unless an eviction
has moved it up; nowhere when it is gone. -/
def locate (slot : Slot) (r : Reactor η χ) : Option Nat :=
  match (r.entries slot.side)[slot.index]? with
  | some e => if e.id = slot.id then some slot.index else placeOf? slot.id (r.entries slot.side)
  | none => placeOf? slot.id (r.entries slot.side)

/-- A hook about a client, which may change it. -/
def tell (index : Nat) (f : ChannelId → χ → Action ω Empty (Desk η χ) χ) :
    Action ω ε (Reactor η χ) Unit := do
  let e ← entryAt .client index
  let c ← hook (f e.id e.channel)
  Action.update (put .client index c)

/-- Lets clients send that are ready to, until one fails for good, and answers how many did. -/
def dispatchWrites : List (Slot × Readiness) → Action ω ε (Reactor η χ) Nat
  | [] => pure 0
  | (slot, ready) :: rest => do
    if slot.side = .listener || !ready.writable then dispatchWrites rest
    else
      match locate slot (← Action.subject) with
      | none => dispatchWrites rest
      | some index =>
        match ← Action.attempt (onChannel .client index ChannelOps.onWrite) with
        | .ok () =>
          tell index Hooks.onWritable
          return (← dispatchWrites rest) + 1
        | .error e =>
          match CloseReason.ofError? e with
          | some reason =>
            evict .client index reason
            pure 0
          | none => dispatchWrites rest

/-- Takes the next connection of a listener, and registers it unless the application declines. A
connection that cannot be registered is dropped. -/
def acceptFrom (index : Nat) : Action ω ChannelError (Reactor η χ) Unit := do
  let listener ← entryAt .listener index
  let accepted ← onChannel .listener index ChannelOps.accept
  Action.update (count (·.addAccepted))
  match ← hook (Hooks.onAccept listener.id accepted) with
  | some c =>
    let _ ← Action.attempt (register c)
  | none => Action.update (count (·.addDiscarded))

def readFrom (index : Nat) : Action ω ChannelError (Reactor η χ) Unit := do
  onChannel .client index ChannelOps.onRead
  tell index Hooks.onReadable

/-- Lets listeners accept and clients receive that are ready to, until one fails for good, and
answers how many did. -/
def dispatchReads : List (Slot × Readiness) → Action ω ε (Reactor η χ) Nat
  | [] => pure 0
  | (slot, ready) :: rest => do
    if !ready.readable then dispatchReads rest
    else
      match locate slot (← Action.subject) with
      | none => dispatchReads rest
      | some index =>
        let served ← Action.attempt <| match slot.side with
          | .listener => acceptFrom index
          | .client => readFrom index
        match served with
        | .ok () => return (← dispatchReads rest) + 1
        | .error e =>
          match CloseReason.ofError? e with
          | some reason =>
            evict slot.side index reason
            pure 0
          | none => dispatchReads rest

/-! ## Iterations -/

/-- One iteration, which answers how many callbacks succeeded. -/
def runOnce : Action ω ReactorError (Reactor η χ) Nat := do
  Action.update fun r => r.count (·.addIteration r.clients.length)
  hook (Hooks.onTick (← Action.subject).stats)
  expire (← Action.now)
  drainMailbox (← Action.subject).settings.injectBatch
  let table ← preparePoll
  let timeout := (← Action.subject).settings.pollTimeout
  let (answer, set) ← Action.runOn table.set (Action.attempt (PollSet.wait timeout))
  match answer with
  | .error .interrupted => pure 0
  | .error e => recover e
  | .ok 0 => pure 0
  | .ok _ =>
    if set.anyInvalid then recover .badDescriptor
    else
      let reports := PollTable.reports table.slots set
      let written ← dispatchWrites reports
      let served ← dispatchReads reports
      pure (written + served)

/-- An iteration; one that fails is followed by a sleep. -/
def iteration : Action ω ε (Reactor η χ) Unit := do
  match ← Action.attempt runOnce with
  | .ok _ => pure ()
  | .error _ => Action.sleep (← Action.subject).settings.pollTimeout

def iterate : (limit : Nat) → Action ω ε (Reactor η χ) Unit
  | 0 => do
    if (← Action.subject).mailbox.stopped then pure () else Action.halt .spinning
  | limit + 1 => do
    if (← Action.subject).mailbox.stopped then pure ()
    else
      iteration
      iterate limit

/-- Closes channels at the end of a run and tells the application. -/
def closeAll : List (Entry χ) → Action ω ε (Reactor η χ) Unit
  | [] => pure ()
  | e :: rest => do
    let c ← dismiss e.channel
    hook (Hooks.onClosed e.id c .shutdown)
    closeAll rest

/-- Closes all clients; the statistics and the listeners stay as they are. -/
def shutdown : Action ω ε (Reactor η χ) Unit := do
  let r ← Action.subject
  Action.update fun r => { r with clients := [] }
  closeAll r.clients

/-- Runs until a stop is asked for, which has to happen within `limit` iterations. -/
def run (limit : Nat) : Action ω ε (Reactor η χ) Unit := do
  hook Hooks.onStartup
  iterate limit
  shutdown
  hook Hooks.onCleanup

end Reactor

end ChannelReactor
