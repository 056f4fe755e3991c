import Mathlib.Logic.Relation
import ChannelReactor.Channel.Kinds
import ChannelReactor.Proofs.ReactorMoves
import ChannelReactor.Proofs.Sessions

/-! # What an accept can end in

An accept of a listener passes through its acceptor, which may be interrupted any number of times,
and through the making of a connection. It fails for good when the listener is not open, when the
acceptor's own error is fatal, and when the accepted transport cannot be set to wait. -/
namespace ChannelReactor

namespace Listener

variable {ω α τ : Type}

/-- A listener takes connections while it is active and has its acceptor. -/
def IsOpen (l : Listener α) : Prop := l.core.active = true ∧ ∃ a, l.acceptor = some a

variable [Acceptor ω α τ]

/-- What an acceptor that is asked again after every interruption answers at last. -/
inductive Answers (policy : Policy) : α → ω → Except IoError (τ × String) → α → ω → Prop
  | next {a a' : α} {w w' : ω} {next : τ × String} (h : Acceptor.accept a w = .done next a' w') :
    Answers policy a w (.ok next) a' w'
  | error {a a' : α} {w w' : ω} {e : IoError} (h : Acceptor.accept a w = .refused e a' w')
    (hj : policy.judge .accept e ≠ .interrupted) : Answers policy a w (.error e) a' w'
  | again {a a₁ a' : α} {w w₁ w' : ω} {e : IoError} {answer : Except IoError (τ × String)}
    (h : Acceptor.accept a w = .refused e a₁ w₁) (hj : policy.judge .accept e = .interrupted)
    (rest : Answers policy a₁ w₁ answer a' w') : Answers policy a w answer a' w'

theorem Answers.unique {policy : Policy} {a a₁ a₂ : α} {w w₁ w₂ : ω}
    {answer₁ answer₂ : Except IoError (τ × String)} (h₁ : Answers policy a w answer₁ a₁ w₁)
    (h₂ : Answers policy a w answer₂ a₂ w₂) : answer₁ = answer₂ ∧ a₁ = a₂ ∧ w₁ = w₂ := by
  induction h₁ with
  | next h =>
    cases h₂ with
    | next h' =>
      cases h.symm.trans h'
      exact ⟨rfl, rfl, rfl⟩
    | error h' _ | again h' _ _ => cases h.symm.trans h'
  | error h hj =>
    cases h₂ with
    | next h' => cases h.symm.trans h'
    | error h' _ =>
      cases h.symm.trans h'
      exact ⟨rfl, rfl, rfl⟩
    | again h' hj' _ =>
      cases h.symm.trans h'
      exact absurd hj' hj
  | again h hj _ ih =>
    cases h₂ with
    | next h' => cases h.symm.trans h'
    | error h' hj' =>
      cases h.symm.trans h'
      exact absurd hj hj'
    | again h' _ rest =>
      cases h.symm.trans h'
      exact ih rest

/-- The second acceptor is the first after some accepts. -/
def Later (a a' : α) : Prop :=
  Relation.ReflTransGen (fun b b' => ∃ w w' : ω,
    (Acceptor.accept : Action ω IoError α (τ × String)).Leaves b w b' w') a a'

theorem Answers.later {policy : Policy} {a a' : α} {w w' : ω}
    {answer : Except IoError (τ × String)} (h : Answers policy a w answer a' w') : Later a a' := by
  induction h with
  | next h => exact .single ⟨_, _, .inl ⟨_, h⟩⟩
  | error h _ => exact .single ⟨_, _, .inr ⟨_, h⟩⟩
  | again h _ _ ih => exact ih.head ⟨_, _, .inr ⟨_, h⟩⟩

/-- The second listener is the first, with its acceptor after some accepts. -/
structure Follows (l l' : Listener α) : Prop where
  policy : l'.policy = l.policy
  settings : l'.settings = l.settings
  active : l'.core.active = l.core.active
  closed : l'.acceptor = none → l.acceptor = none
  acceptor : ∀ a', l'.acceptor = some a' → ∃ a, l.acceptor = some a ∧ Later a a'

theorem Follows.refl (l : Listener α) : Follows l l :=
  ⟨rfl, rfl, rfl, id, fun a ha => ⟨a, ha, .refl⟩⟩

theorem Follows.trans {l l₁ l₂ : Listener α} (h : Follows l l₁) (h' : Follows l₁ l₂) :
    Follows l l₂ := by
  refine ⟨h'.policy.trans h.policy, h'.settings.trans h.settings, h'.active.trans h.active,
    fun hn => h.closed (h'.closed hn), fun a₂ h₂ => ?_⟩
  obtain ⟨a₁, h₁, hlater'⟩ := h'.acceptor a₂ h₂
  obtain ⟨a, ha, hlater⟩ := h.acceptor a₁ h₁
  exact ⟨a, ha, hlater.trans hlater'⟩

/-- A listener is as open as what follows it. -/
theorem Follows.isOpen {l l' : Listener α} (h : Follows l l') (hopen : l.IsOpen) : l'.IsOpen := by
  obtain ⟨hactive, a, ha⟩ := hopen
  refine ⟨h.active.trans hactive, ?_⟩
  cases ha' : l'.acceptor with
  | some a' => exact ⟨a', rfl⟩
  | none =>
    have hnone := h.closed ha'
    rw [ha] at hnone
    cases hnone

theorem Follows.used {l : Listener α} {a a' : α} (ha : l.acceptor = some a) (h : Later a a') :
    Follows l { l with acceptor := some a' } := by
  refine ⟨rfl, rfl, rfl, fun hn => (by cases hn), fun a'' h'' => ?_⟩
  cases h''
  exact ⟨a, ha, h⟩

variable {l : Listener α} {w : ω}

/-- The listener's own accept fails with an error that its policy calls fatal. -/
def FailsAccept (l : Listener α) (w : ω) : Prop :=
  ∃ a e a' w', l.acceptor = some a ∧ Answers l.policy a w (.error e) a' w' ∧
    l.policy.judge .accept e = .fatal

theorem acceptOnce_ends {bound : Nat} {a : α} (ha : l.acceptor = some a) :
    (Action.repeatUntil bound acceptOnce).Ends l w
      (fun next l' w' => ∃ a', Answers l.policy a w (.ok next) a' w' ∧
        l' = { l with acceptor := some a' })
      (fun err l' w' => ∃ e a', Answers l.policy a w (.error e) a' w' ∧
        (l.policy.judge .accept e = .retry ∧ err = .dataNotAvailable ∧
            l' = { l with acceptor := some a' } ∨
          l.policy.judge .accept e = .fatal ∧ err = .failed e)) := by
  -- What the acceptor answers after some interruptions is its answer from the start.
  refine Action.Ends.repeatUntil
    (I := fun l' w' => ∃ a', l' = { l with acceptor := some a' } ∧
      ∀ answer a'' w'', Answers l.policy a' w' answer a'' w'' → Answers l.policy a w answer a'' w'')
    ?_ _ _ _ ⟨a, by rw [← ha], fun _ _ _ h => h⟩
  rintro l' w' ⟨a', rfl, hback⟩
  rw [acceptOnce, Action.ends_bind, Action.ends_subject, Action.ends_bind]
  unfold Action.Ends onAcceptor
  dsimp only
  cases hx : Acceptor.accept a' w' with
  | done next a'' w'' => exact ⟨a'', hback _ _ _ (.next hx), rfl⟩
  | refused e a'' w'' =>
    dsimp only
    cases hj : l.policy.judge .accept e with
    | retry =>
      refine ⟨e, a'', hback _ _ _ (.error hx (by rw [hj]; decide)), .inl ⟨hj, rfl, rfl⟩⟩
    | interrupted =>
      exact ⟨a'', rfl, fun _ _ _ h => hback _ _ _ (.again hx hj h)⟩
    | fatal =>
      exact ⟨e, a'', hback _ _ _ (.error hx (by rw [hj]; decide)), .inr ⟨hj, rfl⟩⟩
  | halted h w'' => trivial

variable [Transport ω τ]

/-- The listener accepts a transport, and that transport cannot be set to wait. -/
def FailsWrap (l : Listener α) (w : ω) : Prop :=
  ∃ a t peer a' w₁ t₁ w₂ e t₂ w₃, l.acceptor = some a ∧ l.settings.fault? = none ∧
    Answers l.policy a w (.ok (t, peer)) a' w₁ ∧
    (Transport.setNodelay l.settings.nodelay).Leaves t w₁ t₁ w₂ ∧
    Transport.setMode .forever t₁ w₂ = .refused e t₂ w₃

/-- The listener fails its part of the connection. -/
abbrev Fails (l : Listener α) (w : ω) : Prop := FailsAccept l w ∨ FailsWrap l w

/-- How a refused accept leaves an open listener: what it was, unless its own acceptor failed. -/
def Refused (l : Listener α) (w : ω) (err : ChannelError) (l' : Listener α) : Prop :=
  CloseReason.ofError? err = none ∧ Follows l l' ∧ ¬ Fails l w ∨
    CloseReason.ofError? err = some .failed ∧ (FailsAccept l w ∨ FailsWrap l w ∧ Follows l l')

/-- An open listener fails for good just when it fails its part. -/
theorem acceptConnection_ends {a : α} (hactive : l.core.active = true) (ha : l.acceptor = some a) :
    acceptConnection.Ends l w (fun _ l' _ => Follows l l' ∧ ¬ Fails l w)
      (fun err l' _ => Refused l w err l') := by
  have hensure : l.core.ensureActive = .ok () := by simp [ChannelCore.ensureActive, hactive]
  rw [acceptConnection, Action.ends_bind, acceptTransport, Action.ends_bind, Action.ends_subject,
    hensure, Action.ofExcept_ok, Action.ends_bind, Action.ends_pure, Action.ends_bind]
  refine (acceptOnce_ends ha).mono (fun next l' w₁ h => ?_) (fun err l' w₁ h => ?_)
  · obtain ⟨t, peer⟩ := next
    obtain ⟨a', hanswer, rfl⟩ := h
    have hfollows : Follows l { l with acceptor := some a' } := .used ha hanswer.later
    have haccept : ¬ FailsAccept l w := by
      rintro ⟨b, e, b', w', hb, hanswer', -⟩
      cases ha.symm.trans hb
      cases (hanswer.unique hanswer').1
    -- What the settings and the mode decide, once the transport has been told about delays.
    have hestablish (t₁ : τ) (w₂ : ω)
        (hnodelay : (Transport.setNodelay l.settings.nodelay).Leaves t w₁ t₁ w₂) :
        (Connection.establish l.policy l.settings t₁).Ends { l with acceptor := some a' } w₂
          (fun _ l' _ => Follows l l' ∧ ¬ Fails l w) (fun err l' _ => Refused l w err l') := by
      have hwrap (hok : ∀ e t₂ w₃, l.settings.fault? = none →
          Transport.setMode .forever t₁ w₂ ≠ .refused e t₂ w₃) : ¬ Fails l w := by
        rintro (hfails | ⟨b, u, p, b', w', u₁, w'', e, u₂, w₃, hb, hfault, hanswer', hdelay, hmode⟩)
        · exact haccept hfails
        · cases ha.symm.trans hb
          obtain ⟨hnext, -, rfl⟩ := hanswer.unique hanswer'
          cases hnext
          obtain ⟨rfl, rfl⟩ := hnodelay.unique hdelay
          exact hok e u₂ w₃ hfault hmode
      refine Connection.establish_ends (fun fault hfault => ?_) fun hfault => ?_
      · refine .inl ⟨rfl, hfollows, hwrap fun _ _ _ hn => ?_⟩
        rw [hfault] at hn
        cases hn
      · refine (Action.ends_self _ _ _).mono (fun _ t₂ w₃ hmode => ?_) (fun e t₂ w₃ hmode => ?_)
        · refine ⟨hfollows, hwrap fun e u₂ w' _ hrefused => ?_⟩
          cases hmode.symm.trans hrefused
        · exact .inr ⟨rfl, .inr ⟨⟨a, t, peer, a', w₁, t₁, w₂, e, t₂, w₃, ha, hfault, hanswer,
            hnodelay, hmode⟩, hfollows⟩⟩
    rw [Action.ends_bind, Action.ends_runOn, Action.ends_attempt]
    refine (Action.ends_self _ _ _).mono (fun x t₁ w₂ hx => ?_) (fun e t₁ w₂ hx => ?_)
    · rw [Action.ends_pure, Action.ends_bind, Action.ends_subject, Action.ends_bind]
      exact hestablish t₁ w₂ (.inl ⟨x, hx⟩)
    · rw [Action.ends_pure, Action.ends_bind, Action.ends_subject, Action.ends_bind]
      exact hestablish t₁ w₂ (.inr ⟨e, hx⟩)
  · obtain ⟨e, a', hanswer, ⟨hj, rfl, rfl⟩ | ⟨hj, rfl⟩⟩ := h
    · refine .inl ⟨rfl, .used ha hanswer.later, ?_⟩
      rintro (⟨b, e', b', w', hb, hanswer', hfatal⟩ |
        ⟨b, t, peer, b', w', _, _, _, _, _, hb, _, hanswer', _⟩)
      · cases ha.symm.trans hb
        cases (hanswer.unique hanswer').1
        rw [hj] at hfatal
        cases hfatal
      · cases ha.symm.trans hb
        cases (hanswer.unique hanswer').1
    · exact .inr ⟨rfl, .inl ⟨a, e, a', w₁, ha, hanswer, hj⟩⟩

theorem acceptConnection_shut (h : ¬ l.IsOpen) :
    acceptConnection.Ends l w (fun _ _ _ => False) (fun err l' _ => err = .closed ∧ l' = l) := by
  rw [acceptConnection, Action.ends_bind, acceptTransport, Action.ends_bind, Action.ends_subject,
    Action.ends_bind, Action.ends_ofExcept]
  refine ⟨fun _ hok => ?_, fun e he => ?_⟩
  · have hactive : l.core.active = true := by
      unfold ChannelCore.ensureActive at hok
      split at hok
      · assumption
      · cases hok
    have hnone : l.acceptor = none := by
      cases ha : l.acceptor with
      | none => rfl
      | some a => exact absurd ⟨hactive, a, ha⟩ h
    rw [Action.ends_bind, Action.repeatUntil, Action.ends_bind, acceptOnce, Action.ends_bind,
      Action.ends_subject, Action.ends_bind]
    unfold Action.Ends onAcceptor
    rw [hnone]
    exact ⟨rfl, rfl⟩
  · unfold ChannelCore.ensureActive at he
    split at he
    · cases he
    · cases he
      exact ⟨rfl, rfl⟩

end Listener

namespace Channel

variable {ω τ α β γ : Type}

/-- The listener that a channel is, under any layers that make it expire. -/
def listener? : Channel τ α β → Option (Listener α)
  | listener l => some l
  | expiring inner _ _ => inner.listener?
  | _ => none

section

variable {ε : Type} {s : Channel τ α β} {w : ω} {Q : γ → Channel τ α β → ω → Prop}
variable {R : ε → Channel τ α β → ω → Prop}

theorem onListener_ends {l : Listener α} {x : Action ω ε (Listener α) γ} :
    (onListener l x : Action ω ε (Channel τ α β) γ).Ends s w Q R ↔
      x.Ends l w (fun a l' w' => Q a (.listener l') w') (fun e l' w' => R e (.listener l') w') := by
  unfold Action.Ends onListener
  cases x l w <;> rfl

theorem onInner_ends {inner : Channel τ α β} {last : Instant} {interval : Span}
    {x : Action ω ε (Channel τ α β) γ} :
    (onInner inner last interval x).Ends s w Q R ↔
      x.Ends inner w (fun a c w' => Q a (.expiring c last interval) w')
        (fun e c w' => R e (.expiring c last interval) w') := by
  unfold Action.Ends onInner
  cases x inner w <;> rfl

end

section

variable [Transport ω τ] [Acceptor ω α τ] [ChannelOps ω β] {l : Listener α}

/-- An accept on a channel that is a listener is one on the listener. -/
theorem acceptOf_ends {w : ω} {Q : Accepted (Channel τ α β) → Option (Listener α) → ω → Prop}
    {R : ChannelError → Option (Listener α) → ω → Prop}
    (h : Listener.acceptConnection.Ends l w
      (fun next l' w' => Q ⟨.connection next.1, next.2⟩ (some l') w')
      (fun e l' w' => R e (some l') w')) :
    ∀ {c s : Channel τ α β}, c.listener? = some l →
      (acceptOf c).Ends s w (fun a c' w' => Q a c'.listener? w')
        (fun e c' w' => R e c'.listener? w')
  | .listener l', s, hl => by
    cases hl
    rw [acceptOf, Action.ends_bind, onListener_ends]
    exact h
  | .expiring inner last interval, s, hl => by
    rw [acceptOf, onInner_ends]
    exact acceptOf_ends h hl
  | .connection _, _, hl | .custom _, _, hl => by cases hl

end

/-- A listener that is active, under any layers. -/
def Serves (c : Channel τ α β) : Prop := ∃ l, c.listener? = some l ∧ l.core.active = true

section

variable {ε : Type}

theorem Serves.of_listener {l : Listener α} (h : (listener l : Channel τ α β).Serves) :
    l.core.active = true := by
  obtain ⟨_, hl, hactive⟩ := h
  cases hl
  exact hactive

theorem onListener_serves {l : Listener α} {x : Action ω ε (Listener α) γ}
    (hx : ∀ w, x.Ends l w (fun _ l' _ => l'.core.active = true)
      (fun _ l' _ => l'.core.active = true)) :
    Action.Keeps (fun c _ => c.Serves) (onListener l x : Action ω ε (Channel τ α β) γ) := by
  intro s w _
  rw [onListener_ends]
  exact (hx w).mono (fun _ l' _ h => ⟨l', rfl, h⟩) (fun _ l' _ h => ⟨l', rfl, h⟩)

theorem onInner_serves {inner : Channel τ α β} {last : Instant} {interval : Span}
    {x : Action ω ε (Channel τ α β) γ} (hc : inner.Serves)
    (hx : Action.Keeps (fun c _ => c.Serves) x) :
    Action.Keeps (fun c _ => c.Serves) (onInner inner last interval x) := by
  intro s w _
  rw [onInner_ends]
  exact hx inner w hc

end

/-- What listeners and every layer keep, all channels that are listeners keep. -/
theorem serves_of_layers {ε : Type} {f : Channel τ α β → Action ω ε (Channel τ α β) γ}
    (hbase : ∀ l, l.core.active = true → Action.Keeps (fun c _ => c.Serves) (f (.listener l)))
    (hlayer : ∀ inner last interval, inner.Serves → Action.Keeps (fun c _ => c.Serves) (f inner) →
      Action.Keeps (fun c _ => c.Serves) (f (.expiring inner last interval))) :
    Action.Keeps (fun c _ => c.Serves) (do f (← Action.subject)) := by
  have hall (c : Channel τ α β) : c.Serves → Action.Keeps (fun c _ => c.Serves) (f c) := by
    intro hc
    induction c with
    | listener l => exact hbase l hc.of_listener
    | expiring inner last interval ih => exact hlayer inner last interval hc (ih hc)
    | connection c =>
      obtain ⟨_, hl, _⟩ := hc
      cases hl
    | custom b =>
      obtain ⟨_, hl, _⟩ := hc
      cases hl
  exact Action.Keeps.bindSubject fun c w hc => hall c hc c w hc

section

variable [Machine ω] [Transport ω τ] [Acceptor ω α τ] [ChannelOps ω β]

theorem retune_serves (f : ChannelCore → ChannelCore) (c : Channel τ α β) (_ : ω)
    (hf : ChannelCore.Retunes f) (h : c.Serves) : (ChannelOps.mapCore f c).Serves := by
  change (c.mapCore f).Serves
  induction c with
  | listener l =>
    obtain ⟨mode, registration, hcore⟩ := hf l.core
    refine ⟨l.mapCore f, rfl, ?_⟩
    rw [Listener.mapCore, hcore]
    exact h.of_listener
  | expiring inner last interval ih => exact ih h
  | connection c =>
    obtain ⟨_, hl, _⟩ := h
    cases hl
  | custom b =>
    obtain ⟨_, hl, _⟩ := h
    cases hl

theorem applyMode_serves {mode : WaitMode} :
    Action.Keeps (fun c _ => c.Serves)
      (ChannelOps.applyMode mode : Action ω ChannelError (Channel τ α β) Unit) := by
  refine serves_of_layers (fun l hl => ?_) fun _ _ _ hc hx => onInner_serves hc hx
  refine onListener_serves fun w => ?_
  rw [Listener.applyMode, Action.ends_bind]
  unfold Action.Ends Listener.onAcceptor
  cases l.acceptor with
  | none => exact hl
  | some a =>
    dsimp only
    cases Acceptor.setMode mode a w with
    | done _ a' w' => exact hl
    | refused e a' w' => exact hl
    | halted _ _ => trivial

/-- Whatever is done to an active listener but a close, it stays active. -/
theorem perform_serves {op : ChannelOp} (hop : op ≠ .close) :
    Action.Keeps (fun c _ => c.Serves)
      (op.perform : Action ω ChannelError (Channel τ α β) Bytes) := by
  cases op with
  | write data =>
    refine Action.Keeps.bind ?_ fun _ => Action.keeps_pure
    exact serves_of_layers (f := writeOf data) (fun _ _ => Action.keeps_refuse)
      fun _ _ _ hc hx => onInner_serves hc hx
  | read count opts =>
    exact serves_of_layers (f := readOf count opts) (fun _ _ => Action.keeps_refuse)
      fun _ _ _ hc hx => onInner_serves hc hx
  | onRead =>
    refine Action.Keeps.bind ?_ fun _ => Action.keeps_pure
    refine serves_of_layers (f := onReadOf) (fun _ _ => Action.keeps_refuse) fun _ _ _ hc hx => ?_
    -- The layer notes the time of a read.
    refine (onInner_serves hc hx).bind fun _ => Action.keeps_ask.bind fun now => ?_
    refine Action.keeps_update fun c _ hc => ?_
    cases c <;> exact hc
  | onWrite =>
    refine Action.Keeps.bind ?_ fun _ => Action.keeps_pure
    exact serves_of_layers (f := onWriteOf) (fun _ _ => Action.keeps_pure)
      fun _ _ _ hc hx => onInner_serves hc hx
  | setMode mode =>
    exact (ChannelOps.setMode_keeps (fun _ => applyMode_serves) retune_serves).bind fun _ =>
      Action.keeps_pure
  | attach token =>
    exact (ChannelOps.attach_keeps (fun _ => applyMode_serves) retune_serves).bind fun _ =>
      Action.keeps_pure
  | detach =>
    exact (ChannelOps.detach_keeps (fun _ => applyMode_serves) retune_serves).bind fun _ =>
      Action.keeps_pure
  | close => exact absurd rfl hop

theorem descriptor_eq {l : Listener α} {c : Channel τ α β} (hl : c.listener? = some l) :
    ChannelOps.descriptor c = l.descriptor := by
  change c.descriptor = _
  induction c with
  | listener l' =>
    cases hl
    rfl
  | expiring inner last interval ih => exact ih hl
  | connection c => cases hl
  | custom b => cases hl

/-- How an accept leaves a channel that is a listener. -/
theorem accept_ends {c : Channel τ α β} {l : Listener α} {w : ω} (hl : c.listener? = some l) :
    (ChannelOps.accept : Action ω ChannelError (Channel τ α β) _).Ends c w
      (fun _ c' _ => ∃ l', c'.listener? = some l' ∧ l.IsOpen ∧ l.Follows l' ∧ ¬ l.Fails w)
      (fun err c' _ => ∃ l', c'.listener? = some l' ∧
        (¬ l.IsOpen ∧ err = .closed ∧ l' = l ∨ l.IsOpen ∧ l.Refused w err l')) := by
  have hc := acceptOf_ends (β := β) (l := l) (w := w)
    (Q := fun _ l? _ => ∃ l', l? = some l' ∧ l.IsOpen ∧ l.Follows l' ∧ ¬ l.Fails w)
    (R := fun err l? _ => ∃ l', l? = some l' ∧
      (¬ l.IsOpen ∧ err = .closed ∧ l' = l ∨ l.IsOpen ∧ l.Refused w err l'))
  refine Action.ends_bind.mpr (hc ?_ hl)
  by_cases hopen : l.IsOpen
  · obtain ⟨hactive, a, ha⟩ := hopen
    exact (Listener.acceptConnection_ends hactive ha).mono
      (fun _ l' _ h => ⟨l', rfl, ⟨hactive, a, ha⟩, h⟩)
      (fun _ l' _ h => ⟨l', rfl, .inr ⟨⟨hactive, a, ha⟩, h⟩⟩)
  · exact (Listener.acceptConnection_shut hopen).mono (fun _ _ _ h => h.elim)
      (fun _ l' _ h => ⟨l', rfl, .inl ⟨hopen, h⟩⟩)

/-- An accept leaves an active listener active, unless its own acceptor fails. -/
theorem accept_serves {c : Channel τ α β} {l : Listener α} {w : ω} (hl : c.listener? = some l)
    (hactive : l.core.active = true) :
    (ChannelOps.accept : Action ω ChannelError (Channel τ α β) _).Ends c w
      (fun _ c' _ => c'.Serves) (fun _ c' _ => c'.Serves ∨ l.FailsAccept w) := by
  refine (accept_ends hl).mono (fun _ c' _ h => ?_) (fun err c' _ h => ?_)
  · obtain ⟨l', hl', -, hfollows, -⟩ := h
    exact ⟨l', hl', hfollows.active.trans hactive⟩
  · obtain ⟨l', hl', ⟨-, -, rfl⟩ | ⟨-, ⟨-, hfollows, -⟩ | ⟨-, hfails | ⟨-, hfollows⟩⟩⟩⟩ := h
    · exact .inl ⟨l', hl', hactive⟩
    · exact .inl ⟨l', hl', hfollows.active.trans hactive⟩
    · exact .inr hfails
    · exact .inl ⟨l', hl', hfollows.active.trans hactive⟩

end

end Channel

end ChannelReactor
