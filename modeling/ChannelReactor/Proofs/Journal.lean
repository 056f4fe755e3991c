import ChannelReactor.Proofs.Exchanges
import ChannelReactor.Proofs.Layers

/-! # The journal of a channel

A journaled channel is any channel with a journal of its own life: what was written to it, whether
it was registered at each close, and the calls on its transport with what the transport said before
each. The transport writes the calls down while an operation goes on; the journal takes them over
when it ends. No one else can write there, whatever becomes of the machine in between. -/
namespace ChannelReactor

variable {ω ε τ α β χ γ : Type}

/-- A call, and whether the transport said before it that it had output of its own. -/
structure Note where
  wanted : Bool
  call : Call

namespace Note

/-- The note is of a close. -/
def Closes (n : Note) : Prop := ∃ answer, n.call = .close answer

/-- All bytes that were accepted, in order. -/
def accepted (notes : List Note) : Bytes := notes.flatMap (·.call.accepted)

@[simp] theorem accepted_append (notes more : List Note) :
    accepted (notes ++ more) = accepted notes ++ accepted more := by
  simp [accepted]

@[simp] theorem accepted_single (n : Note) : accepted [n] = n.call.accepted := by
  simp [accepted]

end Note

/-- A machine on which calls are noted, the oldest first. -/
structure Archive (ω : Type) where
  machine : ω
  notes : List Note := []

instance [Machine ω] : Machine (Archive ω) where
  now w := Machine.now w.machine
  sleep d w := { w with machine := Machine.sleep d w.machine }
  wait interests millis w :=
    let (answer, machine) := Machine.wait interests millis w.machine
    (answer, { w with machine })
  probe descriptor w :=
    let (answer, machine) := Machine.probe descriptor w.machine
    (answer, { w with machine })
  patience w := Machine.patience w.machine

/-- A transport that notes its calls, or an acceptor of such. -/
structure Logged (τ : Type) where
  body : τ

namespace Logged

/-- A call that is noted. -/
def call [Transport ω τ] (toCall : Except IoError γ → Call) (x : Action ω IoError τ γ) :
    Action (Archive ω) IoError (Logged τ) γ := fun t w =>
  let note (answer : Except IoError γ) (machine : ω) : Archive ω :=
    { machine, notes := w.notes ++ [⟨Transport.wantsWrite t.body, toCall answer⟩] }
  match x t.body w.machine with
  | .done a body machine => .done a ⟨body⟩ (note (.ok a) machine)
  | .refused e body machine => .refused e ⟨body⟩ (note (.error e) machine)
  | .halted h machine => .halted h { w with machine }

instance [Transport ω τ] : Transport (Archive ω) (Logged τ) where
  send data := call (.send data) (Transport.send data)
  recv room := call (.recv room) (Transport.recv room)
  setMode mode := call (.setMode mode) (Transport.setMode mode)
  close := call .close Transport.close
  descriptor t := Transport.descriptor t.body
  flush := call .flush Transport.flush
  wantsWrite t := Transport.wantsWrite t.body
  pendingInput t := Transport.pendingInput t.body
  setNodelay on := call (.setNodelay on) (Transport.setNodelay on)
  describe t := Transport.describe t.body
  patience t := Transport.patience t.body

/-- A call on an acceptor. -/
def pass (x : Action ω IoError α γ) : Action (Archive ω) IoError (Logged α) γ := fun a w =>
  match x a.body w.machine with
  | .done b body machine => .done b ⟨body⟩ { w with machine }
  | .refused e body machine => .refused e ⟨body⟩ { w with machine }
  | .halted h machine => .halted h { w with machine }

instance [Acceptor ω α τ] : Acceptor (Archive ω) (Logged α) (Logged τ) where
  accept := (fun (t, peer) => (⟨t⟩, peer)) <$> pass Acceptor.accept
  setMode mode := pass (Acceptor.setMode mode)
  descriptor a := Acceptor.descriptor a.body
  describe a := Acceptor.describe a.body
  patience a := Acceptor.patience a.body

end Logged

/-- A call on such a transport adds its note. -/
theorem Call.Made.noted [Transport ω τ] {call : Call} {t t' : Logged τ} {w w' : Archive ω}
    (h : call.Made t w t' w') :
    w'.notes = w.notes ++ [⟨Transport.wantsWrite t, call⟩] := by
  have hcall {γ : Type} {toCall : Except IoError γ → Call} {x : Action ω IoError τ γ}
      {answer : Except IoError γ} (h : (Logged.call toCall x).Answers t w answer t' w') :
      w'.notes = w.notes ++ [⟨Transport.wantsWrite t, toCall answer⟩] := by
    unfold Action.Answers Logged.call at h
    cases hx : x t.body w.machine with
    | done a body m =>
      cases answer with
      | ok b =>
        simp only [hx] at h
        cases h
        rfl
      | error e =>
        simp only [hx] at h
        cases h
    | refused e body m =>
      cases answer with
      | ok b =>
        simp only [hx] at h
        cases h
      | error e =>
        simp only [hx] at h
        cases h
        rfl
    | halted hh m => cases answer <;> simp only [hx] at h <;> cases h
  cases call with
  | accept _ => exact h.elim
  | _ => exact hcall h

/-- A listener hands out connections that were made just now. -/
theorem Listener.acceptConnection_establishes [Transport ω τ] [Acceptor ω α τ] (l : Listener α)
    (w : ω) : acceptConnection.Ends l w (fun next _ _ => next.1.Established) (fun _ _ _ => True) := by
  have hestablish (l : Listener α) (t : τ) (w : ω) :
      (Connection.establish l.policy l.settings t : Action ω ChannelError _ _).Ends l w
        (fun k _ _ => k.Established) (fun _ _ _ => True) := by
    refine Connection.establish_ends (fun _ _ => trivial) fun hfault => ?_
    refine (Action.ends_self _ _ _).mono (fun _ t' w' hmode => ?_) (fun _ _ _ _ => trivial)
    refine ⟨l.policy, l.settings, t, w, w', ?_⟩
    rw [Connection.establish, hfault]
    simp only [Action.bind_apply, Action.runOn, Action.mapReason, hmode, Action.pure_apply]
  rw [acceptConnection, Action.ends_bind]
  refine .of_outcome (fun next l' w' _ => ?_) (fun _ _ _ _ => trivial)
  rw [Action.ends_bind, Action.ends_subject, Action.ends_bind]
  exact (hestablish l' next.1 w').mono (fun _ _ _ h => h) (fun _ _ _ h => h)

/-- A channel with its journal. -/
structure Journaled (χ : Type) where
  channel : χ
  /-- The calls on its transport. -/
  notes : List Note := []
  /-- The data of all writes to the active channel. -/
  written : Bytes := []
  /-- For each close, whether the channel was registered. -/
  closes : List Bool := []

/-- A channel with its journal over transports that note their calls. -/
abbrev Tracked (τ α β : Type) : Type := Journaled (Channel (Logged τ) (Logged α) β)

namespace Journaled

/-- An operation, whose calls the journal takes over at its end. -/
def keeping (x : Action (Archive ω) ε χ γ) : Action ω ε (Journaled χ) γ := fun j w =>
  match x j.channel { machine := w } with
  | .done a channel w => .done a { j with channel, notes := j.notes ++ w.notes } w.machine
  | .refused e channel w => .refused e { j with channel, notes := j.notes ++ w.notes } w.machine
  | .halted h w => .halted h w.machine

instance [ChannelOps (Archive ω) χ] : ChannelOps ω (Journaled χ) where
  core j := ChannelOps.core j.channel
  mapCore f j := { j with channel := ChannelOps.mapCore f j.channel }
  applyMode mode := keeping (ChannelOps.applyMode mode)
  descriptor j := ChannelOps.descriptor j.channel
  read count opts := keeping (ChannelOps.read count opts)
  write data := do
    Action.update fun j =>
      { j with written := j.written ++ if ChannelOps.isActive j.channel then data else [] }
    keeping (ChannelOps.write data)
  onRead := keeping ChannelOps.onRead
  onWrite := keeping ChannelOps.onWrite
  close := do
    Action.update fun j => { j with closes := j.closes ++ [ChannelOps.isRegistered j.channel] }
    keeping ChannelOps.close
  isWritePending j := ChannelOps.isWritePending j.channel
  accept := do
    let accepted ← keeping ChannelOps.accept
    pure ⟨{ channel := accepted.channel }, accepted.peer⟩
  isListening j := ChannelOps.isListening j.channel
  hasExpired now j := ChannelOps.hasExpired now j.channel
  patience j := ChannelOps.patience j.channel

theorem keeping_ends {x : Action (Archive ω) ε χ γ} {j : Journaled χ} {w : ω}
    {Q : γ → Journaled χ → ω → Prop} {R : ε → Journaled χ → ω → Prop} :
    (keeping x).Ends j w Q R ↔ x.Ends j.channel { machine := w }
      (fun a channel w' => Q a { j with channel, notes := j.notes ++ w'.notes } w'.machine)
      (fun e channel w' => R e { j with channel, notes := j.notes ++ w'.notes } w'.machine) := by
  unfold Action.Ends keeping
  cases x j.channel { machine := w } <;> rfl

/-- What the channel does without a change and without a call, it does so with its journal. -/
theorem keeping_refused {x : Action (Archive ω) ε χ γ} {j : Journaled χ} {w : ω} {e : ε}
    (h : x j.channel { machine := w } = .refused e j.channel { machine := w }) :
    keeping x j w = .refused e j w := by
  rw [keeping, h]
  simp

/-- What an inactive channel refuses to write is not recorded as written. -/
theorem write_refused [ChannelOps (Archive ω) χ] {j : Journaled χ} {w : ω} {data : Bytes}
    {e : ChannelError} (hidle : ChannelOps.isActive j.channel = false)
    (h : ChannelOps.write data j.channel { machine := w } =
      .refused e j.channel { machine := w }) :
    ChannelOps.write data j w = .refused e j w := by
  change (Action.update _ >>= fun _ => keeping (ChannelOps.write data)) j w = _
  rw [Action.bind_apply, Action.update_apply]
  simp only [hidle, Bool.false_eq_true, if_false, List.append_nil]
  exact keeping_refused h

section

variable [Machine ω] [Transport ω τ] [Acceptor ω α τ] [ChannelOps (Archive ω) β]

/-- The journal goes back to the making of a connection, whatever layers were put around it and
whatever operations were made since. -/
inductive Genuine : Tracked τ α β → Prop
  | made {k : Connection (Logged τ)} (h : k.Established) : Genuine { channel := .connection k }
  | expiring {j : Tracked τ α β} {last : Instant} {interval : Span}
    (h : Genuine j) : Genuine { j with channel := .expiring j.channel last interval }
  | operated {j j' : Tracked τ α β} (h : Genuine j)
    (hops : ChannelOps.Operated j j') : Genuine j'

/-- The connections that a listener hands out have their whole lives before them. -/
theorem accept_genuine {j : Tracked τ α β} {w : ω}
    {l : Listener (Logged α)} (hl : j.channel.listener? = some l) :
    (ChannelOps.accept : Action ω ChannelError _ _).Ends j w
      (fun accepted _ _ => accepted.channel.Genuine) (fun _ _ _ => True) := by
  have haccept := Channel.acceptOf_ends (β := β) (s := j.channel)
    (Q := fun accepted _ _ => Genuine { channel := accepted.channel }) (R := fun _ _ _ => True)
    ((Listener.acceptConnection_establishes l { machine := w }).mono (fun _ _ _ h => .made h)
      (fun _ _ _ _ => trivial)) hl
  exact Action.ends_bind.mpr (keeping_ends.mpr (Action.ends_bind.mpr haccept))

end

end Journaled

end ChannelReactor
