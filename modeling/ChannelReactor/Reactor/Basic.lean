import ChannelReactor.Reactor.Hooks
import ChannelReactor.Settings.Reactor

/-!
# Reactors

A reactor owns listeners and clients, each under an id that it never gives twice, in the order in
which they came. Channels come by registration and leave by being unregistered, which gives them
back, or by eviction, which closes them and tells the application why. Ids are natural numbers, for
runs that need fewer than a 64-bit word can show.
-/
namespace ChannelReactor

/-- A channel under its id. -/
structure Entry (χ : Type) where
  id : ChannelId
  channel : χ

/-- The two lists of a reactor. -/
inductive Side where
  | listener
  | client
deriving DecidableEq, Repr

/-- A loop that serves channels, with the application's hooks. -/
structure Reactor (η χ : Type) where
  /-- Tells reactors apart. -/
  serial : Nat
  settings : ReactorSettings
  hooks : η
  listeners : List (Entry χ) := []
  clients : List (Entry χ) := []
  mailbox : Mailbox χ := {}
  nextId : ChannelId := 1
  stats : ReactorStats := {}

namespace Reactor

variable {ω ε η η' χ α : Type}

/-- A new reactor; broken settings are refused. -/
def new (serial : Nat) (settings : ReactorSettings) (hooks : η) :
    Except ReactorError (Reactor η χ) :=
  match settings.fault? with
  | some fault => .error (.settings fault)
  | none => .ok { serial := serial, settings := settings, hooks := hooks }

def token (r : Reactor η χ) : Token := { reactor := r.serial, mailbox := some r.serial }

def desk (r : Reactor η χ) : Desk η χ := { hooks := r.hooks, mailbox := r.mailbox }

/-- The same reactor with other hooks and another mailbox. -/
def withDesk (r : Reactor η χ) (desk : Desk η' χ) : Reactor η' χ :=
  { r with hooks := desk.hooks, mailbox := desk.mailbox }

def entries (r : Reactor η χ) : Side → List (Entry χ)
  | .listener => r.listeners
  | .client => r.clients

def mapEntries (side : Side) (f : List (Entry χ) → List (Entry χ)) (r : Reactor η χ) :
    Reactor η χ :=
  match side with
  | .listener => { r with listeners := f r.listeners }
  | .client => { r with clients := f r.clients }

def count (f : ReactorStats → ReactorStats) (r : Reactor η χ) : Reactor η χ :=
  { r with stats := f r.stats }

def placeOf? (id : ChannelId) (entries : List (Entry χ)) : Option Nat :=
  entries.findIdx? fun e => e.id == id

/-- Where an id is registered: its side and its place there. -/
def find? (id : ChannelId) (r : Reactor η χ) : Option (Side × Nat) :=
  match placeOf? id r.clients with
  | some index => some (.client, index)
  | none => (placeOf? id r.listeners).map fun index => (.listener, index)

def channel? (id : ChannelId) (r : Reactor η χ) : Option χ :=
  (r.find? id).bind fun (side, index) => (r.entries side)[index]?.map (·.channel)

/-- The reactor with another value for the channel at a place. -/
def put (side : Side) (index : Nat) (c : χ) (r : Reactor η χ) : Reactor η χ :=
  r.mapEntries side fun entries => entries.modify index fun e => { e with channel := c }

/-- The reactor without the entry at a place; later entries move up. -/
def without (side : Side) (index : Nat) (r : Reactor η χ) : Reactor η χ :=
  r.mapEntries side fun entries => entries.eraseIdx index

/-- The reactor with one more channel at the end of a list, under the next id. -/
def enrolled (side : Side) (c : χ) (r : Reactor η χ) : Reactor η χ :=
  { r.mapEntries side (· ++ [{ id := r.nextId, channel := c }]) with nextId := r.nextId + 1 }

/-- A hook, on the application's state and the mailbox. -/
def hook (x : Action ω Empty (Desk η χ) α) : Action ω ε (Reactor η χ) α :=
  Action.focus desk (fun desk r => r.withDesk desk) x.sure

def entryAt (side : Side) (index : Nat) : Action ω ε (Reactor η χ) (Entry χ) := do
  match ((← Action.subject).entries side)[index]? with
  | some e => pure e
  | none => Action.halt .outOfRange

def onChannel (side : Side) (index : Nat) (x : Action ω ε χ α) : Action ω ε (Reactor η χ) α :=
  fun r w =>
    match (r.entries side)[index]? with
    | none => .halted .outOfRange w
    | some e =>
      match x e.channel w with
      | .done a c w => .done a (r.put side index c) w
      | .refused e c w => .refused e (r.put side index c) w
      | .halted h w => .halted h w

variable [ChannelOps ω χ]

/-! ## Coming -/

/-- Takes a channel over, on one side. -/
def enroll (side : Side) (c : χ) : Action ω ReactorError (Reactor η χ) ChannelId := do
  let r ← Action.subject
  let ((), c) ← Action.runOn c ((ChannelOps.attach r.token).mapReason ReactorError.channel)
  Action.update (enrolled side c)
  pure r.nextId

/-- Takes a channel over, on the side where it belongs. -/
def register (c : χ) : Action ω ReactorError (Reactor η χ) ChannelId :=
  enroll (if ChannelOps.isListening c then .listener else .client) c

def listen (c : χ) : Action ω ReactorError (Reactor η χ) ChannelId :=
  if ChannelOps.isListening c then enroll .listener c
  else Action.refuse (.channel (.misuse .listenOnStream))

/-! ## Leaving -/

/-- Gives a channel back. It leaves the reactor in any case; that its old mode cannot be set again
does not matter. -/
def unregister (id : ChannelId) : Action ω ReactorError (Reactor η χ) χ := do
  match (← Action.subject).find? id with
  | none => Action.refuse (.unknownChannel id)
  | some (side, index) =>
    let e ← entryAt side index
    Action.update (without side index)
    let (_, c) ← Action.runOn e.channel (Action.attempt ChannelOps.detach)
    pure c

def detachAll {σ : Type} : List (Entry χ) → Action ω ε σ (List χ)
  | [] => pure []
  | e :: rest => do
    let (_, c) ← Action.runOn e.channel (Action.attempt ChannelOps.detach)
    return c :: (← detachAll rest)

def takeListeners : Action ω ε (Reactor η χ) (List χ) := do
  let r ← Action.subject
  Action.update fun r => { r with listeners := [] }
  detachAll r.listeners

/-- Closes a channel that is no longer in the lists, as an unregistered one. -/
def dismiss {σ : Type} (c : χ) : Action ω ε σ χ := do
  let ((), c) ← Action.runOn (ChannelOps.mapCore ChannelCore.unregister c) ChannelOps.close.sure
  pure c

/-- Takes the entry at a place out of its list and closes its channel. -/
def letGo (side : Side) (index : Nat) (reason : CloseReason) :
    Action ω ε (Reactor η χ) (Entry χ) := do
  let e ← entryAt side index
  Action.update (without side index)
  let c ← dismiss e.channel
  Action.update (count (·.addEvicted (reason == .expired)))
  pure { e with channel := c }

variable [Hooks ω η χ]

/-- Lets the channel at a place go, and tells the application why. -/
def evict (side : Side) (index : Nat) (reason : CloseReason) :
    Action ω ε (Reactor η χ) Unit := do
  let e ← letGo side index reason
  hook (Hooks.onClosed e.id e.channel reason)

end Reactor

end ChannelReactor
