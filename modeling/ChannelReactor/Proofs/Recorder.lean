import ChannelReactor.Proofs.Ends
import ChannelReactor.Transport

/-! # A record of the calls

A recorder is a machine that keeps a record of the calls on transports and acceptors, with their
answers. What is called is any transport or acceptor at all; it is known by the number under which
it was put to work, so the record outlasts it. -/
namespace ChannelReactor

/-- A call on a transport or an acceptor with its answer. A transport that is accepted is named by
its number. -/
inductive Call where
  | send (offered : Bytes) (answer : Except IoError Nat)
  | recv (room : Nat) (answer : Except IoError Bytes)
  | setMode (mode : WaitMode) (answer : Except IoError Unit)
  | close (answer : Except IoError Unit)
  | flush (answer : Except IoError Unit)
  | setNodelay (on : Bool) (answer : Except IoError Unit)
  | accept (answer : Except IoError (Nat × String))

namespace Call

def accepted : Call → Bytes
  | send offered (.ok n) => offered.take n
  | _ => []

def delivered : Call → Bytes
  | recv _ (.ok data) => data
  | _ => []

/-- No more was accepted than was offered. -/
def WithinOffer : Call → Prop
  | send offered (.ok n) => n ≤ offered.length
  | _ => True

instance : DecidablePred WithinOffer
  | send offered (.ok n) => inferInstanceAs (Decidable (n ≤ offered.length))
  | send _ (.error _) | recv .. | setMode .. | close _ | flush _ | setNodelay .. | accept _ =>
    inferInstanceAs (Decidable True)

end Call

/-- A call on the device of a number. -/
structure Record where
  device : Nat
  call : Call

/-- A machine with a record of the calls, the oldest first. -/
structure Recorder (ω : Type) where
  machine : ω
  calls : List Record := []
  nextDevice : Nat

/-- A transport or an acceptor under its number. -/
structure Recorded (τ : Type) where
  device : Nat
  body : τ

def callsOf (device : Nat) (calls : List Record) : List Call :=
  (calls.filter fun r => r.device == device).map (·.call)

/-- All bytes that a device accepted, in order. -/
def acceptedBy (device : Nat) (calls : List Record) : Bytes :=
  (callsOf device calls).flatMap Call.accepted

/-- All bytes that a device delivered, in order. -/
def deliveredBy (device : Nat) (calls : List Record) : Bytes :=
  (callsOf device calls).flatMap Call.delivered

theorem callsOf_append (device : Nat) (calls more : List Record) :
    callsOf device (calls ++ more) = callsOf device calls ++ callsOf device more := by
  simp [callsOf]

@[simp] theorem callsOf_single (device : Nat) (call : Call) :
    callsOf device [⟨device, call⟩] = [call] := by
  simp [callsOf]

theorem acceptedBy_append (device : Nat) (calls more : List Record) :
    acceptedBy device (calls ++ more) = acceptedBy device calls ++ acceptedBy device more := by
  simp [acceptedBy, callsOf_append]

@[simp] theorem acceptedBy_single (device : Nat) (call : Call) :
    acceptedBy device [⟨device, call⟩] = call.accepted := by
  simp [acceptedBy]

theorem deliveredBy_append (device : Nat) (calls more : List Record) :
    deliveredBy device (calls ++ more) = deliveredBy device calls ++ deliveredBy device more := by
  simp [deliveredBy, callsOf_append]

@[simp] theorem deliveredBy_single (device : Nat) (call : Call) :
    deliveredBy device [⟨device, call⟩] = call.delivered := by
  simp [deliveredBy]

namespace Recorder

variable {ω : Type}

/-- A recorder with an empty record and one device, which has the number 0. -/
def start (machine : ω) : Recorder ω := { machine, nextDevice := 1 }

/-- The recorder after a call, with the machine as the call left it. -/
def note (w : Recorder ω) (device : Nat) (call : Call) (machine : ω) : Recorder ω :=
  { w with machine, calls := w.calls ++ [⟨device, call⟩] }

instance [Machine ω] : Machine (Recorder ω) where
  now w := Machine.now w.machine
  sleep d w := { w with machine := Machine.sleep d w.machine }
  wait interests millis w :=
    let (answer, machine) := Machine.wait interests millis w.machine
    (answer, { w with machine })
  probe descriptor w :=
    let (answer, machine) := Machine.probe descriptor w.machine
    (answer, { w with machine })
  patience w := Machine.patience w.machine

end Recorder

namespace Recorded

variable {ω τ α β : Type}

def call (toCall : Except IoError β → Call) (x : Action ω IoError τ β) :
    Action (Recorder ω) IoError (Recorded τ) β := fun t w =>
  match x t.body w.machine with
  | .done b body m => .done b { t with body } (w.note t.device (toCall (.ok b)) m)
  | .refused e body m => .refused e { t with body } (w.note t.device (toCall (.error e)) m)
  | .halted h m => .halted h { w with machine := m }

instance [Transport ω τ] : Transport (Recorder ω) (Recorded τ) where
  send data := call (.send data) (Transport.send data)
  recv room := call (.recv room) (Transport.recv room)
  setMode mode := call (.setMode mode) (Transport.setMode mode)
  close := call .close Transport.close
  descriptor t := Transport.descriptor t.body
  flush := call .flush Transport.flush
  wantsWrite t := Transport.wantsWrite t.body
  pendingInput t := Transport.pendingInput t.body
  setNodelay on := call (.setNodelay on) (Transport.setNodelay on)
  describe t := Transport.describe t.body
  patience t := Transport.patience t.body

/-- An accept, which puts the accepted transport to work. -/
def accept [Acceptor ω α τ] :
    Action (Recorder ω) IoError (Recorded α) (Recorded τ × String) := fun a w =>
  match Acceptor.accept a.body w.machine with
  | .done (t, peer) body m =>
    .done (⟨w.nextDevice, t⟩, peer) { a with body }
      { w.note a.device (.accept (.ok (w.nextDevice, peer))) m with
        nextDevice := w.nextDevice + 1 }
  | .refused e body m => .refused e { a with body } (w.note a.device (.accept (.error e)) m)
  | .halted h m => .halted h { w with machine := m }

instance [Acceptor ω α τ] : Acceptor (Recorder ω) (Recorded α) (Recorded τ) where
  accept := accept
  setMode mode := call (.setMode mode) (Acceptor.setMode mode)
  descriptor a := Acceptor.descriptor a.body
  describe a := Acceptor.describe a.body
  patience a := Acceptor.patience a.body

/-- A call adds itself to the record, and the device keeps its number. -/
theorem call_ends {toCall : Except IoError β → Call} {x : Action ω IoError τ β} {t : Recorded τ}
    {w : Recorder ω} {Q : β → Recorded τ → Recorder ω → Prop}
    {R : IoError → Recorded τ → Recorder ω → Prop}
    (hq : ∀ b t' w', t'.device = t.device →
      w'.calls = w.calls ++ [⟨t.device, toCall (.ok b)⟩] → Q b t' w')
    (hr : ∀ e t' w', t'.device = t.device →
      w'.calls = w.calls ++ [⟨t.device, toCall (.error e)⟩] → R e t' w') :
    (call toCall x).Ends t w Q R := by
  unfold Action.Ends call
  cases x t.body w.machine with
  | done b body m => exact hq _ _ _ rfl rfl
  | refused e body m => exact hr _ _ _ rfl rfl
  | halted h m => trivial

end Recorded

end ChannelReactor
