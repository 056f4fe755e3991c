/-!
# Statistics of a reactor

Counts that a reactor keeps, and their text. They have no bound here: what is said of them is said
of runs in which they fit the 64-bit words of a machine.
-/
namespace ChannelReactor

structure ReactorStats where
  iterations : Nat := 0
  /-- The clients at the start of the last iteration. -/
  channels : Nat := 0
  accepted : Nat := 0
  discarded : Nat := 0
  evicted : Nat := 0
  expired : Nat := 0
  pollFailures : Nat := 0
  injected : Nat := 0
deriving DecidableEq, Repr

namespace ReactorStats

/-- An iteration that starts with so many clients. -/
def addIteration (clients : Nat) (s : ReactorStats) : ReactorStats :=
  { s with iterations := s.iterations + 1, channels := clients }

def addAccepted (s : ReactorStats) : ReactorStats := { s with accepted := s.accepted + 1 }

def addDiscarded (s : ReactorStats) : ReactorStats := { s with discarded := s.discarded + 1 }

/-- A channel that was closed, because it was expired or for another reason. -/
def addEvicted (wasExpired : Bool) (s : ReactorStats) : ReactorStats :=
  { s with evicted := s.evicted + 1, expired := if wasExpired then s.expired + 1 else s.expired }

def addPollFailure (s : ReactorStats) : ReactorStats :=
  { s with pollFailures := s.pollFailures + 1 }

def addInjected (s : ReactorStats) : ReactorStats := { s with injected := s.injected + 1 }

/-- The counts as labelled numbers, in their order. -/
def fields (s : ReactorStats) : List (String × Nat) :=
  [("iter", s.iterations), ("channels", s.channels), ("accepted", s.accepted),
   ("discarded", s.discarded), ("evicted", s.evicted), ("expired", s.expired),
   ("poll_fail", s.pollFailures), ("injected", s.injected)]

def text (s : ReactorStats) : String :=
  String.intercalate " " (s.fields.map fun (name, count) => name ++ "=" ++ toString count)

def record (s : ReactorStats) : String :=
  let names := ["iterations", "channels", "accepted", "discarded", "evicted", "expired",
    "poll_failures", "injected"]
  "ReactorStats \x7b " ++
  String.intercalate ", "
    ((names.zip (s.fields.map (·.2))).map fun (name, count) => name ++ ": " ++ toString count) ++
  " \x7d"

end ReactorStats

end ChannelReactor
