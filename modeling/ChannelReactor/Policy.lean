import ChannelReactor.Failure.IoError
import ChannelReactor.Text.Caseless

/-!
# Error policies

A policy says what a failed call on a transport means: try again later, try again at once, or give
up. The plain policy goes by the kind of the error; the secure policy goes by its text, because
the errors of an encrypted transport carry their cause only there.
-/
namespace ChannelReactor

/-- The calls whose errors are judged. -/
inductive TransportCall where
  | recv
  | send
  | accept
deriving DecidableEq, Repr

inductive Verdict where
  /-- Nothing is lost; try again when the transport is ready. -/
  | retry
  | interrupted
  /-- The transport is of no more use. -/
  | fatal
deriving DecidableEq, Repr

inductive Policy where
  | plain
  | secure
deriving DecidableEq, Repr

namespace Policy

/-- The texts of errors that will pass. -/
def transientMarkers : List String := ["timed out", "would block", "temporarily unavailable"]

/-- The text of an accept whose connection was given up by the other side. -/
def acceptResetMarker : String := "connection reset by peer"

def judgeText (call : TransportCall) (text : String) : Verdict :=
  if transientMarkers.any (Text.occursCaseless · text) then .retry
  else if call = .accept && Text.occursCaseless acceptResetMarker text then .retry
  else .fatal

def judgeKind (call : TransportCall) : IoError.Kind → Verdict
  | .wouldBlock | .timedOut => .retry
  | .interrupted => .interrupted
  | .connectionAborted | .connectionReset => if call = .accept then .retry else .fatal
  | _ => .fatal

/-- What an error means under a policy. -/
def judge (policy : Policy) (call : TransportCall) (error : IoError) : Verdict :=
  match policy with
  | plain => judgeKind call error.kind
  | secure =>
    if error.kind = .interrupted then .interrupted else judgeText call error.text

/-- Whether a read goes on while the transport holds decoded input: an encrypted transport may
hold input that no readiness event will announce. -/
def drainsReads : Policy → Bool
  | plain => false
  | secure => true

end Policy

end ChannelReactor
