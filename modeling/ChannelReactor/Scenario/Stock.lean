import ChannelReactor.Scenario.Stub

/-!
# The stock of a scenario

What the steps of a scenario share: a pool of channels by name, tokens by name, and the mailboxes
of the reactors that exist.
-/
namespace ChannelReactor.Scenario

/-- As what a channel is held. -/
inductive Access where
  /-- As any channel: the operations of all channels are offered. -/
  | shared
  /-- As a channel of its kind: the operations of that kind are offered besides. -/
  | direct
  /-- As a listener of which the address can be asked besides. -/
  | addressed (address : String)
deriving DecidableEq, Repr

/-- Whether the operations of the channel's kind are offered. -/
def Access.isDirect : Access → Bool
  | shared => false
  | _ => true

structure Holding where
  channel : BenchChannel
  access : Access := .direct

/-- What the steps of a scenario share. -/
structure Stock where
  pool : List (String × Holding) := []
  tokens : List (String × Token) := []
  /-- The mailboxes of the reactors by their serial numbers. -/
  mailboxes : List (Nat × Mailbox BenchChannel) := []

namespace Stock

variable {ε α : Type}

/-- A list of pairs with one pair put in the place of any of the same key. -/
def assign {κ : Type} [BEq κ] (key : κ) (a : α) (pairs : List (κ × α)) : List (κ × α) :=
  (key, a) :: pairs.filter fun p => !(p.1 == key)

/-- A list of pairs without those of a key. -/
def unassign {κ : Type} [BEq κ] (key : κ) (pairs : List (κ × α)) : List (κ × α) :=
  pairs.filter fun p => !(p.1 == key)

/-- Puts a channel into the pool, in the place of one of the same name. -/
def keep (name : String) (holding : Holding) (s : Stock) : Stock :=
  { s with pool := assign name holding s.pool }

def takeOut (name : String) (s : Stock) : Option Holding × Stock :=
  (s.pool.lookup name, { s with pool := unassign name s.pool })

def isAlive (token : Token) (s : Stock) : Bool :=
  token.mailbox.any fun serial => (s.mailboxes.lookup serial).isSome

/-- Puts a channel into the mailbox of a token, and answers how many are in it then. -/
def deliver (token : Token) (c : BenchChannel) (s : Stock) : Option Nat × Stock :=
  match token.mailbox with
  | none => (none, s)
  | some serial =>
    match s.mailboxes.lookup serial with
    | none => (none, s)
    | some mailbox =>
      let mailbox := mailbox.post c
      (some mailbox.queue.length, { s with mailboxes := assign serial mailbox s.mailboxes })

/-- Hands a pool channel over through a named token. The channel leaves the pool in any case. -/
def handOver (token : String) (channel : String) (s : Stock) : Reply × Stock :=
  let (holding, s) := s.takeOut channel
  match s.tokens.lookup token, holding with
  | some token, some holding =>
    match s.deliver token holding.channel with
    | (some pending, s) => (.ok (.number pending), s)
    | (none, s) => (.lacking .reactor, s)
  | _, _ => (.lacking .reactor, s)

end Stock

end ChannelReactor.Scenario
