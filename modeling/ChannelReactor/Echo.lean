import ChannelReactor.Channel.Kinds
import ChannelReactor.Reactor.Hooks

/-!
# Echo

An application that sends back what it receives. It lets in at most so many connections at a time,
and with an idle timeout it lets go of those that are silent. It counts the bytes without a bound,
for runs in which their number fits a 64-bit word.
-/
namespace ChannelReactor

structure Echo where
  idleTimeout : Option Span
  capacity : Nat
  /-- The connections at the start of the iteration and those let in since. -/
  live : Nat := 0
  echoed : Nat := 0
deriving DecidableEq, Repr

namespace Echo

/-- The most bytes sent back in one piece. -/
def chunk : Nat := 4096

variable {ω ε χ τ α β : Type} [Machine ω]

/-- Moves what can be read to the output, piece by piece, and answers how many bytes were moved
besides `moved`. It ends when nothing is left or the channel refuses. -/
def pump [ChannelOps ω χ] : (rounds : Nat) → (moved : Nat) → Action ω ε χ Nat
  | 0, _ => Action.halt .spinning
  | rounds + 1, moved => do
    if ChannelOps.buffered (← Action.subject) = 0 then pure moved
    else
      match ← Action.attempt (ChannelOps.read chunk { lessAllowed := true }) with
      | .error _ => pure moved
      | .ok data =>
        match ← Action.attempt (ChannelOps.write data) with
        | .error _ => pure moved
        | .ok () => pump rounds (moved + data.length)

/-- Sends back what a channel received, and answers how many bytes that were.

Input that is in store is moved in no more rounds than it has bytes. A peer may also send without
end, and a channel that waits receives more whenever it finds less than a piece. The rounds from
one size below `chunk` to the next move what was received in between; over all such sizes they are
fewer than `chunk` and one receive together, and once a size comes back the input never runs
out. -/
def sendBack [ChannelOps ω χ] : Action ω ε χ Nat := do
  let c ← Action.subject
  pump (ChannelOps.buffered c + ChannelOps.patience c + chunk + 1) 0

variable [ChannelOps ω β]

/-- Lets a connection in while there is room. With an idle timeout it expires. -/
def letIn (accepted : Accepted (Channel τ α β)) :
    Action ω ε Echo (Option (Channel τ α β)) := do
  let echo ← Action.subject
  if echo.capacity ≤ echo.live then pure none
  else
    Action.update fun echo => { echo with live := echo.live + 1 }
    match echo.idleTimeout with
    | some idle => return some (← Channel.expireAfter accepted.channel idle)
    | none => pure (some accepted.channel)

/-- Counts the connections anew. -/
def recount (stats : ReactorStats) (echo : Echo) : Echo := { echo with live := stats.channels }

def tally (moved : Nat) (echo : Echo) : Echo := { echo with echoed := echo.echoed + moved }

variable [Transport ω τ] [Acceptor ω α τ]

instance : Hooks ω Echo (Channel τ α β) where
  onAccept _ accepted := Action.focus (·.hooks) (fun echo desk => { desk with hooks := echo })
    (letIn accepted)
  onReadable _ c := do
    let (moved, c) ← Action.runOn c sendBack
    Action.update fun desk => { desk with hooks := desk.hooks.tally moved }
    pure c
  onTick stats := Action.update fun desk => { desk with hooks := desk.hooks.recount stats }

end Echo

end ChannelReactor
