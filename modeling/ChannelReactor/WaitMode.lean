import ChannelReactor.Time.Span

/-!
# Wait modes

How long an operation of a channel or a transport may wait: not at all, without end, or up to a
span. An empty span means the same as not waiting.
-/
namespace ChannelReactor

/-- How long an operation may wait. -/
inductive WaitMode where
  | nonblocking
  | forever
  | upTo (limit : Span)
deriving DecidableEq, Repr

namespace WaitMode

/-- The mode of an optional bound: none waits without end. -/
def ofOption : Option Span → WaitMode
  | none => forever
  | some d => if d.isZero then nonblocking else upTo d

/-- The bound of a mode as an optional span. -/
def toOption : WaitMode → Option Span
  | nonblocking => some .zero
  | forever => none
  | upTo d => some d

/-- The mode with an empty span read as not waiting. -/
def normalized : WaitMode → WaitMode
  | upTo d => if d.isZero then nonblocking else upTo d
  | mode => mode

def isBlocking (mode : WaitMode) : Bool := mode.normalized != nonblocking

/-- The instant a wait that starts now has to end, if it has to. It fails with `none` when the
clock cannot show that instant. -/
def deadline? (mode : WaitMode) (now : Instant) : Option (Option Instant) :=
  match mode.normalized with
  | upTo d => (now.add? d).map some
  | _ => some none

@[simp] theorem normalized_normalized (mode : WaitMode) :
    mode.normalized.normalized = mode.normalized := by
  cases mode with
  | upTo d => by_cases h : d.isZero = true <;> simp [normalized, h]
  | _ => rfl

end WaitMode

end ChannelReactor
