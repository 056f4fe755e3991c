import ChannelReactor.Machine
import ChannelReactor.Scenario.Loopback
import ChannelReactor.Scenario.Report

/-!
# The bench

The machine that scenarios run on. Its clock moves only when something on the bench takes time,
its polls answer from a script, it has loopback sockets, and it writes down what happens.
-/
namespace ChannelReactor.Scenario

/-- What the polls of one iteration find. -/
structure PollScript where
  /-- Descriptors with what is reported of them. -/
  ready : List (Int × PollFlags) := []
  error : Option PollError := none
  /-- The errors of the probes after it, in turn. -/
  probes : List (Option PollError) := []

namespace PollScript

/-- All that is reported of a descriptor; a negative one is never ready. -/
def flags (script : PollScript) (descriptor : Int) : PollFlags :=
  if descriptor < 0 then .none
  else (script.ready.filter fun r => r.1 == descriptor).foldl (fun all r => all.union r.2) .none

/-- What a poll reports of an entry: of reading and writing, only what is asked for. -/
def report (script : PollScript) (interest : PollInterest) : PollFlags :=
  let flags := script.flags interest.descriptor
  { flags with input := flags.input && interest.read, output := flags.output && interest.write }

end PollScript

structure Bench where
  clock : Instant := .start
  /-- What happened, the newest first. -/
  events : List Event := []
  polls : PollScript := {}
  loopback : Loopback := {}
  /-- The scripted devices put to work so far: their names in events with their serial numbers, the
  newest first. -/
  devices : List (String × Nat) := []

namespace Bench

def record (e : Event) (b : Bench) : Bench := { b with events := e.add b.events }

def pass (d : Span) (b : Bench) : Bench := { b with clock := b.clock.advance d }

/-- A sleep; one of no length is none. -/
def sleep (d : Span) (b : Bench) : Bench :=
  if d.isZero then b else (b.pass d).record (.sleep d)

/-- A device is put to work, and gets a serial number. -/
def addDevice (name : String) (b : Bench) : Nat × Bench :=
  (b.devices.length, { b with devices := (name, b.devices.length) :: b.devices })

/-- A poll, which waits its whole time when nothing is ready. -/
def wait (interests : List PollInterest) (millis : Nat) (b : Bench) :
    Except PollError (List PollFlags) × Bench :=
  let b := b.record (.poll millis interests)
  match b.polls.error with
  | some e => (.error e, b)
  | none =>
    let flags := interests.map b.polls.report
    (.ok flags, if flags.all PollFlags.isNone then b.pass (.ofMillis millis) else b)

/-- A probe, which fails as the script says. -/
def probe (descriptor : Int) (b : Bench) : Except PollError PollFlags × Bench :=
  let b := b.record (.probe descriptor)
  let answer := b.polls.report { descriptor, read := true, write := false }
  match b.polls.probes with
  | [] => (.ok answer, b)
  | next :: rest =>
    let b := { b with polls := { b.polls with probes := rest } }
    match next with
    | some e => (.error e, b)
    | none => (.ok answer, b)

instance : Machine Bench where
  now := clock
  sleep := sleep
  wait := wait
  probe := probe
  patience b := b.polls.probes.length

end Bench

variable {ε σ : Type}

def record (e : Event) : Action Bench ε σ Unit := Action.onMachine fun b => ((), b.record e)

def newDevice (name : String) : Action Bench ε σ Nat := Action.onMachine (Bench.addDevice name)

def pass (d : Span) : Action Bench ε σ Unit := Action.onMachine fun b => ((), b.pass d)

end ChannelReactor.Scenario
