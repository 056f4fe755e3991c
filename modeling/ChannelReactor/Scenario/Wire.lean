import ChannelReactor.Scenario.Bench
import ChannelReactor.Transport

/-!
# Scripted transports

A wire is a transport whose other side follows a script: what it sends and when, how much it
takes, and which calls fail. A gate is an acceptor whose connections come from a script. Both write
down what is called.
-/
namespace ChannelReactor.Scenario

inductive RecvAct where
  | data (bytes : Bytes)
  | ended
  | fails (error : IoError)
deriving DecidableEq, Repr

/-- A receive: how long it takes, what it gets, and whether that was still encoded until then. -/
structure RecvEntry where
  act : RecvAct
  tick : Span := .zero
  undecoded : Bool := false
deriving DecidableEq, Repr

inductive SendAct where
  /-- This many bytes are accepted, over as many sends as it takes. -/
  | accepts (n : Nat)
  | nothing
  | fails (error : IoError)
deriving DecidableEq, Repr

inductive FlushAct where
  | drains (n : Nat)
  | idle
  | fails (error : IoError)
deriving DecidableEq, Repr

structure Script where
  recv : List RecvEntry := []
  send : List SendAct := []
  flush : List FlushAct := []
  modeResults : List (Option IoError) := []
  closeResults : List (Option IoError) := []
  nodelayResults : List (Option IoError) := []
  /-- After the script there is input without end. -/
  flood : Bool := false
  /-- What is accepted is held until it is flushed. -/
  buffering : Bool := false
  /-- After the script nothing is accepted. -/
  sendBlock : Bool := false
  /-- The wire has no output of its own, no decoded input and no delay. -/
  bare : Bool := false
  /-- The bytes accepted and not yet flushed. -/
  held : Nat := 0
deriving DecidableEq, Repr

/-- What is added to a script: entries after its own, and flags that take the place of its own. -/
structure Feed where
  recv : List RecvEntry := []
  send : List SendAct := []
  flush : List FlushAct := []
  modeResults : List (Option IoError) := []
  closeResults : List (Option IoError) := []
  nodelayResults : List (Option IoError) := []
  flood : Option Bool := none
  buffering : Option Bool := none
  sendBlock : Option Bool := none
  bare : Option Bool := none
deriving DecidableEq, Repr

/-- A script with a feed added to it. -/
def Script.fed (s : Script) (feed : Feed) : Script where
  recv := s.recv ++ feed.recv
  send := s.send ++ feed.send
  flush := s.flush ++ feed.flush
  modeResults := s.modeResults ++ feed.modeResults
  closeResults := s.closeResults ++ feed.closeResults
  nodelayResults := s.nodelayResults ++ feed.nodelayResults
  flood := feed.flood.getD s.flood
  buffering := feed.buffering.getD s.buffering
  sendBlock := feed.sendBlock.getD s.sendBlock
  bare := feed.bare.getD s.bare
  held := s.held

/-- A transport that follows a script. -/
structure Wire where
  /-- Tells wires and gates of one name apart. -/
  serial : Nat := 0
  name : String
  descriptor : Int := 0
  label : Option String := none
  /-- The mode that was last set. -/
  mode : WaitMode := .forever
  script : Script := {}
deriving DecidableEq, Repr

/-- Takes the next of some results, of which a missing one is a success. -/
def nextResult (results : List (Option IoError)) : Option IoError × List (Option IoError) :=
  match results with
  | [] => (none, [])
  | next :: rest => (next, rest)

namespace Wire

variable {α : Type}

def mapScript (f : Script → Script) (w : Wire) : Wire := { w with script := f w.script }

def delivers (data : Bytes) : Action Bench IoError Wire Bytes := do
  record (.recv (← Action.subject).name (.ok data.length))
  pure data

def recvFails (e : IoError) : Action Bench IoError Wire Bytes := do
  record (.recv (← Action.subject).name (.error e.kind))
  Action.refuse e

def recvBeyond (limit : Nat) : Action Bench IoError Wire Bytes := do
  let w ← Action.subject
  if w.script.flood then delivers (List.replicate limit 'x'.toUInt8)
  else
    match w.mode with
    | .nonblocking => recvFails (.bare .wouldBlock)
    | .upTo d =>
      pass d
      recvFails (.bare .wouldBlock)
    | .forever => recvFails (.failure "script exhausted")

/-- A receive of at most `limit` bytes. A rest of scripted bytes comes next, at once. -/
def recv (limit : Nat) : Action Bench IoError Wire Bytes := do
  match (← Action.subject).script.recv with
  | [] => recvBeyond limit
  | entry :: rest =>
    pass entry.tick
    match entry.act with
    | .data bytes =>
      let left := bytes.drop limit
      Action.update (mapScript fun s =>
        { s with recv := if left.isEmpty then rest else { act := .data left } :: rest })
      delivers (bytes.take limit)
    | .ended =>
      Action.update (mapScript fun s => { s with recv := rest })
      delivers []
    | .fails e =>
      Action.update (mapScript fun s => { s with recv := rest })
      recvFails e

/-- Ends a send with the acceptance of some bytes. -/
def accepts (data : Bytes) : Action Bench IoError Wire Nat := do
  let w ← Action.subject
  record (if data.isEmpty then .sentNothing w.name else .sent w.name data)
  if w.script.buffering then
    Action.update (mapScript fun s => { s with held := s.held + data.length })
  pure data.length

def sendFails (e : IoError) : Action Bench IoError Wire Nat := do
  record (.sendFailed (← Action.subject).name e.kind)
  Action.refuse e

def send (data : Bytes) : Action Bench IoError Wire Nat := do
  let w ← Action.subject
  match w.script.send with
  | [] => if w.script.sendBlock then sendFails (.bare .wouldBlock) else accepts data
  | .accepts n :: rest =>
    let left := n - data.length
    Action.update (mapScript fun s =>
      { s with send := if left = 0 then rest else .accepts left :: rest })
    accepts (data.take n)
  | .nothing :: rest =>
    Action.update (mapScript fun s => { s with send := rest })
    accepts []
  | .fails e :: rest =>
    Action.update (mapScript fun s => { s with send := rest })
    sendFails e

/-- Ends a flush after which so many bytes are held. -/
def holds (held : Nat) : Action Bench IoError Wire Unit := do
  Action.update (mapScript fun s => { s with held })
  record (.flush (← Action.subject).name (.ok held))

def flush : Action Bench IoError Wire Unit := do
  let w ← Action.subject
  if w.script.bare then pure ()
  else
    match w.script.flush with
    | [] => holds 0
    | act :: rest =>
      Action.update (mapScript fun s => { s with flush := rest })
      match act with
      | .drains n => holds (w.script.held - n)
      | .idle => holds w.script.held
      | .fails e =>
        record (.flush w.name (.error e.kind))
        Action.refuse e

def setMode (mode : WaitMode) : Action Bench IoError Wire Unit := do
  let w ← Action.subject
  let (result, rest) := nextResult w.script.modeResults
  Action.update (mapScript fun s => { s with modeResults := rest })
  match result with
  | none =>
    record (.mode w.name (.ok mode))
    Action.update fun w => { w with mode }
  | some e =>
    record (.mode w.name (.error e.kind))
    Action.refuse e

def close : Action Bench IoError Wire Unit := do
  let w ← Action.subject
  let (result, rest) := nextResult w.script.closeResults
  Action.update (mapScript fun s => { s with closeResults := rest })
  match result with
  | none => record (.close w.name (.ok ()))
  | some e =>
    record (.close w.name (.error e.kind))
    Action.refuse e

def setNodelay (on : Bool) : Action Bench IoError Wire Unit := do
  let w ← Action.subject
  if w.script.bare then pure ()
  else
    let (result, rest) := nextResult w.script.nodelayResults
    Action.update (mapScript fun s => { s with nodelayResults := rest })
    match result with
    | none => record (.nodelay w.name (.ok on))
    | some e =>
      record (.nodelay w.name (.error e.kind))
      Action.refuse e

/-- The number of receives before the first whose input is still encoded. -/
def pendingInput (w : Wire) : Nat :=
  if w.script.bare then 0 else (w.script.recv.takeWhile fun entry => !entry.undecoded).length

/-- A bound on the calls that the script can answer before it is used up. -/
def patience (w : Wire) : Nat :=
  let bytes := w.script.recv.map fun entry =>
    match entry.act with
    | .data data => data.length + 1
    | _ => 1
  bytes.foldr (· + ·) 0 + w.script.send.length + w.script.flush.length

instance : Transport Bench Wire where
  send := send
  recv := recv
  setMode := setMode
  close := close
  descriptor := descriptor
  flush := flush
  wantsWrite w := !w.script.bare && decide (0 < w.script.held)
  pendingInput := pendingInput
  setNodelay := setNodelay
  describe w := w.label.getD ("fd:" ++ toString w.descriptor)
  patience := patience

end Wire

inductive AcceptAct where
  | connects (wire : Wire) (peer : String)
  | fails (error : IoError)
deriving DecidableEq, Repr

/-- An acceptor that follows a script. -/
structure Gate where
  /-- Tells wires and gates of one name apart. -/
  serial : Nat := 0
  name : String
  descriptor : Int := 0
  label : Option String := none
  accepts : List AcceptAct := []
  modeResults : List (Option IoError) := []
deriving DecidableEq, Repr

namespace Gate

def acceptFails (e : IoError) : Action Bench IoError Gate (Wire × String) := do
  record (.accept (← Action.subject).name (.error e.kind))
  Action.refuse e

/-- An accept. The wire of the connection is put to work by it. -/
def accept : Action Bench IoError Gate (Wire × String) := do
  let p ← Action.subject
  match p.accepts with
  | [] => acceptFails (.bare .wouldBlock)
  | .connects wire peer :: rest =>
    Action.update fun p => { p with accepts := rest }
    record (.accept p.name (.ok peer))
    let serial ← newDevice wire.name
    pure ({ wire with serial }, peer)
  | .fails e :: rest =>
    Action.update fun p => { p with accepts := rest }
    acceptFails e

def setMode (mode : WaitMode) : Action Bench IoError Gate Unit := do
  let p ← Action.subject
  let (result, rest) := nextResult p.modeResults
  Action.update fun p => { p with modeResults := rest }
  match result with
  | none => record (.mode p.name (.ok mode))
  | some e =>
    record (.mode p.name (.error e.kind))
    Action.refuse e

instance : Acceptor Bench Gate Wire where
  accept := accept
  setMode := setMode
  descriptor := descriptor
  describe p := p.label.getD ("listen-fd:" ++ toString p.descriptor)
  patience p := p.accepts.length

end Gate

end ChannelReactor.Scenario
