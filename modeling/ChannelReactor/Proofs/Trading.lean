import ChannelReactor.Proofs.Books
import ChannelReactor.Proofs.EchoHooks

/-! # What connections and listeners trade

What the callbacks of a connection make of the account that books keep of it: a write sends output
and receives nothing, a read receives or fails, and a close at most sends. A listener moves no byte,
and the connection that it hands out is over a new device. -/
namespace ChannelReactor

variable {ω ε σ τ α β γ : Type}

/-- A call on a transport puts no device to work. -/
theorem Call.Made.next [Transport ω τ] {call : Call} {t t' : Recorded τ} {w w' : Recorder ω}
    (h : call.Made t w t' w') : w'.nextDevice = w.nextDevice := by
  have hcall {γ : Type} {toCall : Except IoError γ → Call} {x : Action ω IoError τ γ}
      {answer : Except IoError γ} (h : (Recorded.call toCall x).Answers t w answer t' w') :
      w'.nextDevice = w.nextDevice := by
    obtain ⟨body, m, -, rfl, rfl⟩ := Recorded.call_answers_iff.mp h
    rfl
  cases call with
  | accept _ => exact h.elim
  | _ => exact hcall h

namespace Recorded

theorem call_silent {toCall : Except IoError γ → Call} (hcall : ∀ answer, (toCall answer).Silent)
    {x : Action ω IoError τ γ} {t : Recorded τ} {w : Recorder ω} :
    (call toCall x).Ends t w (fun _ t' w' => t'.device = t.device ∧ w.Silent w')
      (fun _ t' w' => t'.device = t.device ∧ w.Silent w') := by
  unfold Action.Ends call
  cases x t.body w.machine with
  | done b body m => exact ⟨rfl, .of_call rfl (Nat.le_refl _) (hcall _)⟩
  | refused e body m => exact ⟨rfl, .of_call rfl (Nat.le_refl _) (hcall _)⟩
  | halted h m => trivial

/-- What is accepted gets the next number. -/
theorem accept_ends [Acceptor ω α τ] {a : Recorded α} {w : Recorder ω} :
    (Acceptor.accept : Action (Recorder ω) IoError (Recorded α) (Recorded τ × String)).Ends a w
      (fun next _ w' => w.Silent w' ∧ w.nextDevice ≤ next.1.device ∧ next.1.device < w'.nextDevice)
      (fun _ _ w' => w.Silent w') := by
  change (accept : Action (Recorder ω) IoError (Recorded α) (Recorded τ × String)).Ends a w _ _
  unfold Action.Ends accept
  cases Acceptor.accept a.body w.machine with
  | done next body m =>
    exact ⟨.of_call rfl (Nat.le_succ _) ⟨rfl, rfl⟩, Nat.le_refl _, Nat.lt_succ_self _⟩
  | refused e body m => exact .of_call rfl (Nat.le_refl _) ⟨rfl, rfl⟩
  | halted h m => trivial

end Recorded

namespace Connection

/-- A plain connection that has its transport, stays open and does not wait. -/
structure Attended (c : Connection τ) : Prop where
  transport : c.transport.isSome = true
  plain : c.policy = .plain
  stays : c.lingering = false
  mode : c.core.mode = .nonblocking

/-- What an exchange leaves of the input: sending leaves all of it. -/
theorem onTransport_input {P : ByteQueue → Prop} {x : Action ω IoError τ γ} :
    Action.Keeps (fun (c : Connection τ) (_ : ω) => P c.core.input) (onTransport x) := fun _ _ h =>
  onTransport_answers (fun _ _ _ _ _ _ => h) fun _ => h

section

open ChannelReactor.Action

variable {P : ByteQueue → Prop}

theorem fail_input {e : IoError} :
    Keeps (fun c (_ : ω) => P c.core.input)
      (fail e : Action ω ChannelError (Connection τ) γ) :=
  Keeps.bind (keeps_update fun _ _ h => h) fun _ => keeps_refuse

variable [Transport ω τ]

theorem sendAll_input :
    Keeps (fun c (_ : ω) => P c.core.input) (sendAll (τ := τ)) := by
  have honce : Keeps (fun c (_ : ω) => P c.core.input) (sendOnce (τ := τ)) := by
    refine keeps_subject.bind fun c => onTransport_input.bind fun answer => ?_
    split
    · exact fail_input
    · exact Keeps.bind (keeps_update fun _ _ h => h) fun _ => keeps_pure
    · split
      · exact keeps_pure
      · exact keeps_pure
      · exact fail_input
  refine keeps_subject.bind fun _ => Keeps.repeatUntil (keeps_subject.bind fun c => ?_) _
  split
  · exact keeps_pure
  · refine (keeps_subject.bind fun c => honce.repeatUntil _).bind fun blocked => ?_
    split
    · exact keeps_pure
    · exact keeps_pure

theorem flush_input : Keeps (fun c (_ : ω) => P c.core.input) (flush (τ := τ)) := by
  have honce : Keeps (fun c (_ : ω) => P c.core.input) (settleOnce (τ := τ)) := by
    refine keeps_subject.bind fun c => onTransport_input.bind fun answer => ?_
    split
    · refine keeps_subject.bind fun c' => ?_
      split
      · exact keeps_pure
      · exact keeps_pure
    · split
      · exact keeps_pure
      · exact keeps_pure
      · exact fail_input
  refine sendAll_input.bind fun flushed => ?_
  cases flushed with
  | drained => exact keeps_subject.bind fun _ => honce.repeatUntil _
  | blocked => exact keeps_pure

theorem onWrite_input : Keeps (fun c (_ : ω) => P c.core.input) (onWrite (τ := τ)) := by
  have hrelease {e : ChannelError} : Keeps (fun c (_ : ω) => P c.core.input)
      (do release.sure; Action.refuse e : Action ω ChannelError (Connection τ) Unit) := by
    refine Keeps.bind (Keeps.sure (Keeps.bind (keeps_update fun _ _ h => h) fun _ => ?_)) fun _ =>
      keeps_refuse
    exact Keeps.bind onTransport_input.attempt fun _ => keeps_update fun _ _ h => h
  refine flush_input.attempt.bind fun flushed => keeps_subject.bind fun c => ?_
  split
  · split
    · exact keeps_pure
    · exact hrelease
    · exact hrelease
  · exact keeps_ofExcept.bind fun _ => keeps_pure

/-- A receive without data leaves the input. -/
theorem receive_input {c : Connection τ} {w : ω} {input : ByteQueue} (h : c.core.input = input) :
    receive.Ends c w (fun answer c' _ => answer ≠ .data → c'.core.input = input)
      (fun _ c' _ => c'.core.input = input) := by
  rw [receive, ends_bind, ends_subject]
  refine Ends.repeatUntil (I := fun c _ => c.core.input = input) (fun c w h => ?_) _ c w h
  rw [receiveOnce, ends_bind, ends_subject, ends_bind]
  refine (onTransport_input (P := (· = input)) c w h).mono (fun answer c' w' h' => ?_)
    (fun _ _ _ h' => h')
  split
  · exact fun _ => h'
  · exact fun hdata => absurd rfl hdata
  · split
    · exact fun _ => h'
    · exact h'
    · rw [fail_ends]
      exact h'

end

/-! ## Trades -/

/-- The number of the device below, 0 when there is none. -/
def device (c : Connection (Recorded τ)) : Nat := c.transport.elim 0 (·.device)

/-- The device below, and what is still to be sent there. -/
def account (c : Connection (Recorded τ)) : Nat × Bytes := (c.device, c.core.output.toList)

/-- From the first to the second these bytes were received, and output was sent. -/
structure Traded (delivered : Bytes) (p q : Connection (Recorded τ) × Recorder ω) : Prop where
  device : q.1.device = p.1.device
  input : q.1.core.input.toList = p.1.core.input.toList ++ delivered
  trades : Recorder.Trades p.1.device p.1.core.output.toList delivered q.1.core.output.toList
    p.2 q.2

section

variable [Transport ω τ] {p q : Connection (Recorded τ) × Recorder ω}
variable {c c' : Connection (Recorded τ)} {w w' : Recorder ω} {delivered : Bytes}

omit [Transport ω τ] in
theorem device_eq {t : Recorded τ} (ht : c.transport = some t) : c.device = t.device := by
  rw [device, ht]
  rfl

theorem Exchange.traded {calls : List Call} (h : Exchange p calls q) :
    ∃ delivered, Traded delivered p q := by
  induction h with
  | none =>
    exact ⟨[], rfl, (List.append_nil _).symm, [], (List.append_nil _).symm, Nat.le_refl _, rfl,
      fun _ => rfl⟩
  | @call calls c w w' t t' call _ ht hmakes hmade ih =>
    obtain ⟨delivered, hdevice, hinput, done, hcalls, hnext, rfl, haccepted⟩ := ih
    obtain ⟨hsame, hrecorded⟩ := hmade.recorded
    have hd : t.device = p.1.device := (device_eq ht).symm.trans hdevice
    refine ⟨done.flatMap Call.delivered ++ call.delivered, (device_eq rfl).trans (hsame.trans hd),
      ?_, done ++ [call], ?_, ?_, ?_, fun hfair => ?_⟩
    · rw [afterCall_input, hinput, List.append_assoc]
    · rw [hrecorded, hcalls, hd, List.map_append, List.append_assoc]
      rfl
    · rw [hmade.next]
      exact hnext
    · rw [List.flatMap_append, List.flatMap_singleton]
    · have hwithin : call.WithinOffer := hfair call (by simp)
      rw [List.flatMap_append, List.flatMap_singleton, List.append_assoc,
        afterCall_output hmakes hwithin]
      exact haccepted fun c hc => hfair c (List.mem_append_left _ hc)

theorem Exchanged.traded (h : Exchanged p q) : ∃ delivered, Traded delivered p q :=
  h.choose_spec.traded

/-- An exchange that leaves the input received nothing. -/
theorem Exchanged.traded_nothing (h : Exchanged p q)
    (hinput : q.1.core.input.toList = p.1.core.input.toList) : Traded [] p q := by
  obtain ⟨delivered, ht⟩ := h.traded
  have hnone : delivered = [] := List.append_right_eq_self.mp (ht.input.symm.trans hinput)
  exact hnone ▸ ht

theorem Exchange.mode {calls : List Call} (h : Exchange p calls q) :
    q.1.core.mode = p.1.core.mode := by
  induction h with
  | none => rfl
  | @call calls c w w' t t' call _ _ _ _ ih =>
    exact (afterCall_kept (P := fun core => core.mode = c.core.mode) rfl rfl (fun _ => rfl)
      fun _ => rfl).trans ih

theorem Exchanged.attended (h : Exchanged (c, w) (c', w')) (hc : c.Attended) : c'.Attended where
  transport := h.kept.transport.trans hc.transport
  plain := h.kept.policy.trans hc.plain
  stays := h.kept.lingering.trans hc.stays
  mode := h.choose_spec.mode.trans hc.mode

omit [Transport ω τ] in
theorem Returns.attended (h : c.Returns c') (hc : c.Attended) : c'.Attended := by
  rw [h.same]
  exact ⟨hc.transport, hc.plain, hc.stays, hc.mode⟩

theorem onWrite_traded (hc : c.Attended) :
    onWrite.Ends c w (fun _ c' w' => c'.Attended ∧ Traded [] (c, w) (c', w'))
      (fun _ c' w' => c'.Attended ∧ Traded [] (c, w) (c', w')) := by
  have hinput := onWrite_input (P := (· = c.core.input)) c w rfl
  refine (onWrite_exchanged.and hinput).mono (fun _ c' w' h => ?_) (fun e c' w' h => ?_)
  · obtain ⟨⟨hx, -⟩, hsame⟩ := h
    exact ⟨hx.attended hc, hx.traded_nothing (congrArg ByteQueue.toList hsame)⟩
  · obtain ⟨⟨-, hx⟩ | ⟨hl, -⟩, hsame⟩ := h
    · exact ⟨hx.attended hc, hx.traded_nothing (congrArg ByteQueue.toList hsame)⟩
    · cases hl.symm.trans hc.stays

/-- A plain connection receives once: it stays active if that is done, and got nothing if it is
refused. -/
theorem onRead_traded (hc : c.Attended) :
    onRead.Ends c w
      (fun _ c' w' => c'.Attended ∧ c'.core.active = true ∧
        ∃ delivered, Traded delivered (c, w) (c', w'))
      (fun _ c' w' => c'.Attended ∧ Traded [] (c, w) (c', w')) := by
  rw [onRead, Action.ends_bind, Action.ends_subject, if_neg (by simp [hc.stays]), Action.ends_bind,
    ensureActive_ends]
  refine ⟨fun hactive => ?_, fun _ => ⟨hc, Exchanged.refl.traded_nothing rfl⟩⟩
  rw [drainInput, Action.ends_bind]
  refine ((receive_exchanged .refl hactive).and (receive_input rfl)).mono
    (fun answer c' w' h => ?_) (fun e c' w' h => ?_)
  · obtain ⟨⟨hx, hstays⟩, hsame⟩ := h
    cases answer with
    | data =>
      have honce : c'.hasMoreInput (c.policy.drainsReads && !c.core.mode.isBlocking) = false := by
        rw [hc.plain]
        rfl
      rw [Action.ends_bind, Action.ends_subject, if_neg (by simp [honce])]
      exact ⟨hx.attended hc, hstays (by decide), hx.traded⟩
    | wouldBlock => exact ⟨hx.attended hc, hstays (by decide), hx.traded⟩
    | ended =>
      exact ⟨hx.attended hc, hx.traded_nothing (congrArg ByteQueue.toList (hsame (by decide)))⟩
  · exact ⟨h.1.attended hc, h.1.traded_nothing (congrArg ByteQueue.toList h.2)⟩

/-- A close outside a reactor sends what it can, and receives nothing. -/
theorem close_traded (hc : c.Attended) (hregistered : c.core.registration = none) :
    close.Ends c w
      (fun _ _ w' => ∃ rest, Recorder.Trades c.device c.core.output.toList [] rest w w')
      (fun e _ _ => e.elim) := by
  have hfree : (c.mapCore ChannelCore.deactivate).core.isRegistered = false := by
    change c.core.registration.isSome = false
    rw [hregistered]
    rfl
  refine close_exchanged.mono (fun _ c' w' h => ?_) (fun e _ _ _ => e.elim)
  cases h with
  | idle h =>
    obtain hnone | ⟨-, hr⟩ := h
    · have hsome := hc.transport
      rw [show c.transport = none from hnone] at hsome
      cases hsome
    · cases hr.symm.trans hfree
  | lingers _ _ hr _ => cases hr.symm.trans hfree
  | parts _ h =>
    obtain ⟨c₁, w₁, w₂, hx, -, hparts, heq⟩ := h
    cases heq
    have hquiet : Quiet c.core.input.toList w.calls (c.mapCore ChannelCore.deactivate, w) :=
      ⟨rfl, rfl, [], (List.append_nil _).symm, List.forall_mem_nil _⟩
    have htraded := hx.traded_nothing (hquiet.moves hx.moves).input
    refine ⟨c₁.core.output.toList, ?_⟩
    unfold PartsWith at hparts
    split at hparts
    · exact hparts ▸ htraded.trades
    · rename_i t ht
      obtain ⟨answer, t', hmade⟩ := hparts
      have hdevice : t.device = c.device := (device_eq ht).symm.trans htraded.device
      exact htraded.trades.call (hdevice ▸ hmade.recorded.2) (Nat.le_of_eq hmade.next.symm)
        ⟨rfl, rfl⟩

omit [Transport ω τ] in
/-- The connection over another state of its transport. -/
structure Refitted (c c' : Connection (Recorded τ)) : Prop where
  device : c'.device = c.device
  transport : c'.transport.isSome = c.transport.isSome
  same : c' = { c with transport := c'.transport }

theorem applyMode_silent {mode : WaitMode} :
    (applyMode mode).Ends c w (fun _ c' w' => c.Refitted c' ∧ w.Silent w')
      (fun _ _ w' => w.Silent w') := by
  rw [applyMode, callTransport, Action.ends_bind]
  refine onTransport_answers (fun t t' w' answer ht hx => ?_) (fun _ => .refl w)
  have hplain (answer : Except IoError Unit) : (Call.setMode mode answer).Silent := ⟨rfl, rfl⟩
  obtain ⟨hdevice, hsilent⟩ := (Recorded.call_silent hplain).leaves
    (P := fun t' w' => t'.device = t.device ∧ w.Silent w') hx.leaves
  cases answer with
  | ok _ => exact ⟨⟨hdevice.trans (device_eq ht).symm, by rw [ht]; rfl, rfl⟩, hsilent⟩
  | error e => exact hsilent

/-- A connection over this device that was just made, under the plain policy. -/
structure Fresh (device : Nat) (c : Connection (Recorded τ)) : Prop where
  device : c.device = device
  transport : c.transport.isSome = true
  plain : c.policy = .plain
  stays : c.lingering = false
  input : c.core.input.toList = []
  output : c.core.output.toList = []

theorem establish_silent {policy : Policy} (hplain : policy = .plain) {settings : ChannelSettings}
    {t : Recorded τ} {s : σ} :
    (establish policy settings t : Action (Recorder ω) ChannelError σ _).Ends s w
      (fun c s' w' => s' = s ∧ w.Silent w' ∧ c.Fresh t.device)
      (fun _ s' w' => s' = s ∧ w.Silent w') := by
  refine establish_ends (fun _ _ => ⟨rfl, .refl w⟩) fun _ => ?_
  exact (Recorded.call_silent fun _ => ⟨rfl, rfl⟩).mono
    (fun _ _ _ h => ⟨rfl, h.2, h.1, rfl, hplain, rfl, rfl, rfl⟩) (fun _ _ _ h => ⟨rfl, h.2⟩)

end

end Connection

namespace Listener

/-- What is true after a call on the acceptor. -/
theorem onAcceptor_ends {call : Action ω IoError α γ} {l : Listener α} {w : ω}
    {Q : Except IoError γ → Listener α → ω → Prop} {R : ChannelError → Listener α → ω → Prop}
    (hcall : ∀ a, call.Ends a w (fun b a' w' => Q (.ok b) { l with acceptor := some a' } w')
      (fun e a' w' => Q (.error e) { l with acceptor := some a' } w'))
    (hnone : R .closed l w) : (onAcceptor call).Ends l w Q R := by
  unfold Action.Ends onAcceptor
  cases l.acceptor with
  | none => exact hnone
  | some a =>
    have h := hcall a
    unfold Action.Ends at h
    dsimp only
    cases hx : call a w with
    | done b a' w' => rwa [hx] at h
    | refused e a' w' => rwa [hx] at h
    | halted _ _ => trivial

variable [Acceptor ω α τ] {l : Listener (Recorded α)} {w : Recorder ω}

theorem applyMode_silent {mode : WaitMode} :
    (applyMode mode).Ends l w (fun _ l' w' => l'.policy = l.policy ∧ w.Silent w')
      (fun _ l' w' => l'.policy = l.policy ∧ w.Silent w') := by
  rw [applyMode, Action.ends_bind]
  refine onAcceptor_ends (fun a => ?_) ⟨rfl, .refl w⟩
  exact (Recorded.call_silent fun _ => ⟨rfl, rfl⟩).mono (fun _ _ _ h => ⟨rfl, h.2⟩)
    (fun _ _ _ h => ⟨rfl, h.2⟩)

theorem acceptOnce_silent {w₀ : Recorder ω} (h : l.policy = .plain ∧ w₀.Silent w) :
    acceptOnce.Ends l w
      (fun (next : Option (Recorded τ × String)) l' w' => match next with
        | some next => l'.policy = .plain ∧ w₀.Silent w' ∧
          w₀.nextDevice ≤ next.1.device ∧ next.1.device < w'.nextDevice
        | none => l'.policy = .plain ∧ w₀.Silent w')
      (fun _ l' w' => l'.policy = .plain ∧ w₀.Silent w') := by
  obtain ⟨hl, hsilent⟩ := h
  rw [acceptOnce, Action.ends_bind, Action.ends_subject, Action.ends_bind]
  refine onAcceptor_ends (fun a => ?_) ⟨hl, hsilent⟩
  refine Recorded.accept_ends.mono (fun next _ w' h => ?_) (fun e _ w' h => ?_)
  · exact ⟨hl, hsilent.trans h.1, Nat.le_trans hsilent.next h.2.1, h.2.2⟩
  · have hpassed : w₀.Silent w' := hsilent.trans h
    dsimp only
    split
    · exact ⟨hl, hpassed⟩
    · exact ⟨hl, hpassed⟩
    · exact ⟨hl, hpassed⟩

variable [Transport ω τ]

/-- A connection that is accepted is over a device that was put to work for it. -/
theorem acceptConnection_silent (hplain : l.policy = .plain) :
    acceptConnection.Ends l w
      (fun next l' w' => l'.policy = .plain ∧ w.Silent w' ∧ ∃ device, w.nextDevice ≤ device ∧
        device < w'.nextDevice ∧ next.1.Fresh device)
      (fun _ l' w' => l'.policy = .plain ∧ w.Silent w') := by
  rw [acceptConnection, Action.ends_bind, acceptTransport, Action.ends_bind, Action.ends_subject,
    Action.ends_bind, Action.ends_ofExcept]
  refine ⟨fun _ _ => ?_, fun _ _ => ⟨hplain, .refl w⟩⟩
  rw [Action.ends_bind]
  refine (Action.Ends.repeatUntil (I := fun l w' => l.policy = .plain ∧ w.Silent w')
    (Q := fun (next : Recorded τ × String) l' w' => l'.policy = .plain ∧ w.Silent w' ∧
      w.nextDevice ≤ next.1.device ∧ next.1.device < w'.nextDevice)
    (fun _ _ h => (acceptOnce_silent h).mono (fun next _ _ h => by cases next <;> exact h)
      (fun _ _ _ h => h)) _ l w ⟨hplain, .refl w⟩).mono
    (fun next l' w₁ h => ?_) (fun _ _ _ h => h)
  obtain ⟨hl, hsilent, hnew, hknown⟩ := h
  have hestablish {t : Recorded τ} {w₂ : Recorder ω} (hdevice : t.device = next.1.device)
      (hpassed : w₁.Silent w₂) : (do
        let l ← Action.subject
        let connection ← Connection.establish l.policy l.settings t
        pure (connection, next.2) : Action (Recorder ω) ChannelError _ _).Ends l' w₂
      (fun next l' w' => l'.policy = .plain ∧ w.Silent w' ∧ ∃ device, w.nextDevice ≤ device ∧
        device < w'.nextDevice ∧ next.1.Fresh device)
      (fun _ l' w' => l'.policy = .plain ∧ w.Silent w') := by
    rw [Action.ends_bind, Action.ends_subject, Action.ends_bind]
    refine (Connection.establish_silent hl).mono (fun c _ w₃ h => ?_) (fun _ _ w₃ h => ?_)
    · obtain ⟨rfl, hmade, hfresh⟩ := h
      have hlater := hpassed.trans hmade
      exact ⟨hl, hsilent.trans hlater, _, hnew, Nat.lt_of_lt_of_le hknown hlater.next,
        hdevice ▸ hfresh⟩
    · obtain ⟨rfl, hfailed⟩ := h
      exact ⟨hl, hsilent.trans (hpassed.trans hfailed)⟩
  rw [Action.ends_bind, Action.ends_runOn, Action.ends_attempt]
  exact (Recorded.call_silent fun _ => ⟨rfl, rfl⟩).mono (fun _ _ _ h => hestablish h.1 h.2)
    (fun _ _ _ h => hestablish h.1 h.2)

end Listener

namespace Channel

/-! ## Under layers -/

/-- The account of the connection that a channel is. -/
def account (c : Channel (Recorded τ) α β) : Nat × Bytes :=
  c.connection?.elim (0, []) Connection.account

theorem account_eq {c : Channel (Recorded τ) α β} {k : Connection (Recorded τ)}
    (hk : c.connection? = some k) : c.account = k.account := by
  rw [account, hk]
  rfl

/-- The channel is a client as an echo has them: attended, and with nothing left to read. -/
def Served (c : Channel τ α β) : Prop := c.Bears fun k => k.Attended ∧ k.core.input.toList = []

/-- The channel is a listener for plain connections. -/
def PlainGate (c : Channel τ α β) : Prop := c.Guards fun l => l.policy = .plain

/-- The second channel is the first after its output was sent, as far as it was. -/
structure Sends (c : Channel (Recorded τ) α β) (w : Recorder ω) (c' : Channel (Recorded τ) α β)
    (w' : Recorder ω) : Prop where
  served : c'.Served
  device : c'.account.1 = c.account.1
  trades : Recorder.Trades c.account.1 c.account.2 [] c'.account.2 w w'

variable {c : Channel (Recorded τ) (Recorded α) β} {w : Recorder ω}

theorem Sends.of_traded {k : Connection (Recorded τ)} {c' : Channel (Recorded τ) (Recorded α) β}
    {w' : Recorder ω} (hk : c.connection? = some k) (hinput : k.core.input.toList = [])
    (h : c'.Bears fun k' => k'.Attended ∧ Connection.Traded [] (k, w) (k', w')) :
    c.Sends w c' w' := by
  obtain ⟨k', hk', hattended, htraded⟩ := h
  have hnone : k'.core.input.toList = [] := htraded.input.trans (by rw [hinput]; rfl)
  refine ⟨⟨k', hk', hattended, hnone⟩, ?_, ?_⟩
  · rw [account_eq hk, account_eq hk']
    exact htraded.device
  · rw [account_eq hk, account_eq hk']
    exact htraded.trades

section

variable [Machine ω] [Transport ω τ] [Acceptor ω α τ] [ChannelOps (Recorder ω) β]

theorem onWrite_sends (h : c.Served) :
    (ChannelOps.onWrite : Action (Recorder ω) ChannelError (Channel (Recorded τ) _ β) Unit).Ends c w
      (fun _ c' w' => c.Sends w c' w') (fun _ c' w' => c.Sends w c' w') := by
  obtain ⟨k, hk, hattended, hinput⟩ := h
  exact (onWrite_bears hk (Connection.onWrite_traded hattended)).mono
    (fun _ _ _ h => .of_traded hk hinput h) (fun _ _ _ h => .of_traded hk hinput h)

/-- A read gets what was delivered, or fails without it. -/
theorem onRead_trades (h : c.Served) :
    (ChannelOps.onRead : Action (Recorder ω) ChannelError (Channel (Recorded τ) _ β) Unit).Ends c w
      (fun _ c' w' => ∃ delivered rest,
        (c'.Bears fun k' => k'.Attended ∧ k'.core.active = true ∧
          k'.core.input.toList = delivered ∧ k'.account = (c.account.1, rest)) ∧
        Recorder.Trades c.account.1 c.account.2 delivered rest w w')
      (fun _ c' w' => c.Sends w c' w') := by
  obtain ⟨k, hk, hattended, hinput⟩ := h
  refine (onRead_bears hk (Connection.onRead_traded hattended)).mono (fun _ c' w' h => ?_)
    (fun _ _ _ h => .of_traded hk hinput h)
  obtain ⟨k', hk', hattended', hactive, delivered, htraded⟩ := h
  rw [account_eq hk]
  have hreceived : k'.core.input.toList = delivered := htraded.input.trans (by rw [hinput]; rfl)
  exact ⟨delivered, k'.core.output.toList, ⟨k', hk', hattended', hactive, hreceived,
    Prod.ext htraded.device rfl⟩, htraded.trades⟩

theorem close_trades (h : c.Served) :
    (ChannelOps.close : Action (Recorder ω) Empty (Channel (Recorded τ) _ β) Unit).Ends
      (ChannelOps.mapCore ChannelCore.unregister c) w
      (fun _ _ w' => ∃ rest, Recorder.Trades c.account.1 c.account.2 [] rest w w')
      (fun e _ _ => e.elim) := by
  obtain ⟨k, hk, hattended, -⟩ := h
  have hfree : (k.mapCore ChannelCore.unregister).Attended :=
    ⟨hattended.transport, hattended.plain, hattended.stays, hattended.mode⟩
  refine (close_bears (mapCore_connection _ hk) (Connection.close_traded hfree rfl)).mono
    (fun _ _ _ h => ?_) (fun e _ _ _ => e.elim)
  obtain ⟨-, -, h⟩ := h
  rw [account_eq hk]
  exact h

theorem attach_fresh {device : Nat} {token : Token} (h : c.Bears (Connection.Fresh device)) :
    (ChannelOps.attach token).Ends c w
      (fun _ c' w' => c'.Served ∧ c'.account = (device, []) ∧ w.Silent w')
      (fun _ _ w' => w.Silent w') := by
  obtain ⟨k, hk, hfresh⟩ := h
  refine ChannelOps.attach_ends (fun _ => .refl w) fun _ =>
    (applyMode_bears hk Connection.applyMode_silent).mono (fun _ c' w' h => ?_) (fun _ _ _ h => ?_)
  · obtain ⟨k', hk', hrefitted, hsilent⟩ := h
    have hmapped := mapCore_connection (·.register token (ChannelOps.mode c)) hk'
    refine ⟨⟨_, hmapped, ⟨?_, ?_, ?_, rfl⟩, ?_⟩, ?_, hsilent⟩
    · exact hrefitted.transport.trans hfresh.transport
    · rw [hrefitted.same]
      exact hfresh.plain
    · rw [hrefitted.same]
      exact hfresh.stays
    · rw [hrefitted.same]
      exact hfresh.input
    · rw [account_eq hmapped]
      refine Prod.ext (hrefitted.device.trans hfresh.device) ?_
      rw [hrefitted.same]
      exact hfresh.output
  · obtain ⟨-, -, hsilent⟩ := h
    exact hsilent

/-- A setting of modes is silent, and changes no gate. -/
theorem applyMode_gate {w₀ : Recorder ω} {mode : WaitMode} :
    Action.Keeps (fun c w => w₀.Silent w ∧ c.PlainGate) (ChannelOps.applyMode mode :
      Action (Recorder ω) ChannelError (Channel (Recorded τ) (Recorded α) β) Unit) := by
  rintro c w ⟨hsilent, l, hl, hplain⟩
  refine (applyMode_guards hl Listener.applyMode_silent).mono (fun _ c' w' h => ?_)
    (fun _ c' w' h => ?_) <;>
  · obtain ⟨l', hl', hpolicy, hset⟩ := h
    exact ⟨hsilent.trans hset, l', hl', hpolicy.trans hplain⟩

theorem PlainGate.mapCore (f : ChannelCore → ChannelCore) (h : c.PlainGate) :
    (ChannelOps.mapCore f c).PlainGate := by
  obtain ⟨l, hl, hplain⟩ := h
  exact ⟨_, mapCore_listener f hl, hplain⟩

theorem attach_gate {token : Token} (h : c.PlainGate) :
    (ChannelOps.attach token).Ends c w (fun _ c' w' => w.Silent w' ∧ c'.PlainGate)
      (fun _ c' w' => w.Silent w' ∧ c'.PlainGate) :=
  ChannelOps.attach_keeps (fun _ => applyMode_gate) (fun f _ _ _ h => ⟨h.1, h.2.mapCore f⟩) c w
    ⟨.refl w, h⟩

/-- A channel that leaves its reactor moves no byte. -/
theorem detach_silent (h : c.Served ∨ c.PlainGate) :
    ChannelOps.detach.Ends c w (fun _ _ w' => w.Silent w') (fun _ _ w' => w.Silent w') := by
  obtain ⟨k, hk, -⟩ | h := h
  · refine Action.Ends.mono (ChannelOps.detach_keeps
      (I := fun c w' => w.Silent w' ∧ c.Bears fun _ => True) (fun mode c w' h => ?_)
      (fun f c w' _ h => ?_) c w ⟨.refl w, k, hk, trivial⟩) (fun _ _ _ h => h.1)
      (fun _ _ _ h => h.1)
    · obtain ⟨hsilent, k, hk, -⟩ := h
      refine (applyMode_bears hk Connection.applyMode_silent).mono (fun _ _ _ h => ?_)
        (fun _ _ _ h => ?_)
      · obtain ⟨k', hk', -, hset⟩ := h
        exact ⟨hsilent.trans hset, k', hk', trivial⟩
      · obtain ⟨k', hk', hset⟩ := h
        exact ⟨hsilent.trans hset, k', hk', trivial⟩
    · obtain ⟨hsilent, k, hk, -⟩ := h
      exact ⟨hsilent, _, mapCore_connection f hk, trivial⟩
  · exact (ChannelOps.detach_keeps (fun _ => applyMode_gate)
      (fun f _ _ _ h => ⟨h.1, h.2.mapCore f⟩) c w ⟨.refl w, h⟩).mono (fun _ _ _ h => h.1)
      (fun _ _ _ h => h.1)

/-- The acceptor of a gate that is closed is not asked anything. -/
theorem close_gate (h : c.PlainGate) :
    (ChannelOps.close : Action (Recorder ω) Empty (Channel (Recorded τ) (Recorded α) β) Unit).Ends
      c w (fun _ _ w' => w' = w) (fun e _ _ => e.elim) := by
  obtain ⟨l, hl, -⟩ := h
  have hclose : (Listener.close : Action (Recorder ω) Empty _ Unit).Ends l w (fun _ _ w' => w' = w)
      (fun e _ _ => e.elim) := rfl
  refine (close_guards hl hclose).mono (fun _ _ _ h => ?_) (fun e _ _ _ => e.elim)
  obtain ⟨-, -, hsame⟩ := h
  exact hsame

/-- A gate hands out fresh connections. -/
theorem accept_gate (h : c.PlainGate) :
    (ChannelOps.accept : Action (Recorder ω) ChannelError (Channel (Recorded τ) _ β) _).Ends c w
      (fun accepted c' w' => c'.PlainGate ∧ w.Silent w' ∧ ∃ device, w.nextDevice ≤ device ∧
        device < w'.nextDevice ∧ accepted.channel.Bears (Connection.Fresh device))
      (fun _ c' w' => c'.PlainGate ∧ w.Silent w') := by
  obtain ⟨l, hl, hplain⟩ := h
  have hends := (Listener.acceptConnection_silent (τ := τ) (w := w) hplain)
  refine Action.ends_bind.mpr ((acceptOf_ends (β := β) (l := l) (w := w)
    (Q := fun accepted l? w' => (∃ l', l? = some l' ∧ l'.policy = .plain) ∧ w.Silent w' ∧
      ∃ device, w.nextDevice ≤ device ∧ device < w'.nextDevice ∧
        accepted.channel.Bears (Connection.Fresh device))
    (R := fun _ l? w' => (∃ l', l? = some l' ∧ l'.policy = .plain) ∧ w.Silent w')
    (hends.mono (fun next l' w' h => ?_) (fun _ l' w' h => ⟨⟨l', rfl, h.1⟩, h.2⟩)) hl).mono
    (fun _ _ _ h => h) (fun _ _ _ h => h))
  obtain ⟨hpolicy, hsilent, device, hnew, hknown, hfresh⟩ := h
  exact ⟨⟨l', rfl, hpolicy⟩, hsilent, device, hnew, hknown, next.1, rfl, hfresh⟩

end

end Channel

end ChannelReactor
