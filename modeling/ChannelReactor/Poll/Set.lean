import ChannelReactor.Machine

/-!
# Poll sets

The entries of a poll in order, each with its interest and with what the last successful wait
reported of it.
-/
namespace ChannelReactor

structure PollEntry where
  interest : PollInterest
  reported : PollFlags := .none
deriving DecidableEq, Repr

structure PollSet where
  entries : List PollEntry := []
deriving DecidableEq, Repr

namespace PollSet

def empty : PollSet := {}

def size (set : PollSet) : Nat := set.entries.length

def isEmpty (set : PollSet) : Bool := set.entries.isEmpty

/-- The set with one more entry, of which nothing is reported. -/
def push (set : PollSet) (interest : PollInterest) : PollSet :=
  ⟨set.entries ++ [{ interest := interest }]⟩

def interests (set : PollSet) : List PollInterest := set.entries.map (·.interest)

/-- The entries with what is reported of them. -/
def report : List PollEntry → List PollFlags → List PollEntry
  | [], _ => []
  | entry :: rest, [] => { entry with reported := .none } :: report rest []
  | entry :: rest, flags :: more => { entry with reported := flags } :: report rest more

/-- The number of entries of which something is reported. -/
def readyCount (set : PollSet) : Nat :=
  (set.entries.filter fun entry => !entry.reported.isNone).length

/-- What the last wait said of an entry; of one that is not there, nothing. -/
def readiness (set : PollSet) (index : Nat) : Readiness :=
  match set.entries[index]? with
  | some entry => entry.interest.readiness entry.reported
  | none => {}

def anyInvalid (set : PollSet) : Bool := set.entries.any (·.reported.invalid)

/-- The greatest number of milliseconds that a wait takes. -/
def greatestWait : Nat := Nat.pow 2 31 - 1

variable {ω ε : Type} [Machine ω]

/-- Waits until an entry is ready, and answers how many are. A wait that fails leaves all reports
as they were. -/
def wait (timeout : Span) : Action ω PollError PollSet Nat := do
  let set ← Action.subject
  let answer ← Action.onMachine
    (Machine.wait set.interests (min timeout.millis greatestWait))
  match answer with
  | .error e => Action.refuse e
  | .ok flags =>
    let reported : PollSet := ⟨report set.entries flags⟩
    Action.update fun _ => reported
    pure reported.readyCount

/-- Whether a descriptor can be polled: interruptions are repeated, and a descriptor that is not
open is an error. -/
def probe {σ : Type} (descriptor : Int) : Action ω PollError σ Unit := do
  let rounds ← Action.ask (Machine.patience (ω := ω))
  Action.repeatUntil (rounds + 1) do
    match ← Action.onMachine (Machine.probe descriptor) with
    | .error .interrupted => pure none
    | .error e => Action.refuse e
    | .ok flags => if flags.invalid then Action.refuse .badDescriptor else pure (some ())

end PollSet

end ChannelReactor
