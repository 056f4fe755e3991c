import ChannelReactor.Action
import ChannelReactor.Failure.ReactorError
import ChannelReactor.Poll.Flags
import ChannelReactor.WaitMode

/-!
# The machine

What the library asks of the machine it runs on: a monotonic clock, sleep, and the readiness of
descriptors.
-/
namespace ChannelReactor

/-- A machine that channels and reactors run on. -/
class Machine (ω : Type) where
  now : ω → Instant
  sleep : Span → ω → ω
  /-- Waits at most so many milliseconds until a descriptor is ready, and reports on each. -/
  wait : List PollInterest → Nat → ω → Except PollError (List PollFlags) × ω
  /-- Asks about the input of one descriptor without waiting. -/
  probe : Int → ω → Except PollError PollFlags × ω
  /-- How many probes in a row may be interrupted. -/
  patience : ω → Nat

namespace Action

variable {ω ε σ : Type} [Machine ω]

def now : Action ω ε σ Instant := ask Machine.now

def sleep (d : Span) : Action ω ε σ Unit := onMachine fun w => ((), Machine.sleep d w)

/-- The instant at which a wait that starts now ends, if it has to. -/
def deadline (mode : WaitMode) : Action ω ε σ (Option Instant) := do
  match mode.deadline? (← now) with
  | some deadline => pure deadline
  | none => halt .clockOverflow

end Action

end ChannelReactor
