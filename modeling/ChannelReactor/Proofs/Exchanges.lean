import ChannelReactor.Channel.Connection
import ChannelReactor.Proofs.Recorder

/-! # Exchanges with a transport

What a connection does with its transport is an exchange: one call after another, each with the
transport's answer and with what the answer makes of the connection's core. Every function that
calls the transport has a lemma that says so and says what is true at its end. Nothing is assumed of
the transport. -/
namespace ChannelReactor

variable {ω ε ε' σ τ α β : Type}

/-- The value, if there is one. -/
def Outcome.value? : Outcome ω ε σ α → Option α
  | done a _ _ => some a
  | refused .. => none
  | halted .. => none

/-- The action gives this answer, done or refused, and leaves this subject and machine. -/
def Action.Answers (x : Action ω ε σ α) (s : σ) (w : ω) (answer : Except ε α) (s' : σ) (w' : ω) :
    Prop :=
  match answer with
  | .ok a => x s w = .done a s' w'
  | .error e => x s w = .refused e s' w'

theorem Action.Answers.leaves {x : Action ω ε σ α} {s s' : σ} {w w' : ω} {answer : Except ε α}
    (h : x.Answers s w answer s' w') : x.Leaves s w s' w' := by
  cases answer with
  | ok a => exact .inl ⟨a, h⟩
  | error e => exact .inr ⟨e, h⟩

theorem Action.Answers.of_eq {x y : Action ω ε σ α} {s s₀ s' : σ} {w w₀ w' : ω}
    {answer : Except ε α} (h : x.Answers s w answer s' w') (heq : y s₀ w₀ = x s w) :
    y.Answers s₀ w₀ answer s' w' := by
  cases answer <;> exact heq.trans h

/-- What follows an action that is done goes on from where it is done. -/
theorem Action.bind_done {x : Action ω ε σ α} {f : α → Action ω ε σ β} {s s₁ : σ} {w w₁ : ω} {a : α}
    (hx : x s w = .done a s₁ w₁) : (x >>= f) s w = f a s₁ w₁ := by
  rw [Action.bind_apply, hx]

theorem Action.Answers.bind {x : Action ω ε σ α} {f : α → Action ω ε σ β} {s s₁ s' : σ}
    {w w₁ w' : ω} {a : α} {answer : Except ε β} (hx : x.Answers s w (.ok a) s₁ w₁)
    (hf : (f a).Answers s₁ w₁ answer s' w') : (x >>= f).Answers s w answer s' w' := by
  have hdone : x s w = .done a s₁ w₁ := hx
  cases answer <;> exact (Action.bind_done hdone).trans hf

theorem Action.Answers.bind_error {x : Action ω ε σ α} {f : α → Action ω ε σ β} {s s' : σ}
    {w w' : ω} {e : ε} (hx : x.Answers s w (.error e) s' w') :
    (x >>= f).Answers s w (.error e) s' w' := by
  change (x >>= f) s w = _
  rw [Action.bind_apply, show x s w = .refused e s' w' from hx]

theorem Action.Answers.attempt {x : Action ω ε σ α} {s s' : σ} {w w' : ω} {answer : Except ε α}
    (h : x.Answers s w answer s' w') :
    (x.attempt : Action ω ε' σ _) s w = .done answer s' w' := by
  unfold Action.attempt
  cases answer with
  | ok a => rw [show x s w = .done a s' w' from h]
  | error e => rw [show x s w = .refused e s' w' from h]

/-- A recorded call answers what the call itself answers. -/
theorem Recorded.call_answers_iff {toCall : Except IoError α → Call} {x : Action ω IoError τ α}
    {t t' : Recorded τ} {w w' : Recorder ω} {answer : Except IoError α} :
    (call toCall x).Answers t w answer t' w' ↔ ∃ body m,
      x.Answers t.body w.machine answer body m ∧ t' = ⟨t.device, body⟩ ∧
      w' = w.note t.device (toCall answer) m := by
  unfold Action.Answers call
  cases answer <;> cases x t.body w.machine <;> grind

namespace Call

/-- The transport gives the call's answer, and is left so with the machine. -/
def Made [Transport ω τ] (call : Call) (t : τ) (w : ω) (t' : τ) (w' : ω) : Prop :=
  match call with
  | send offered answer => (Transport.send offered).Answers t w answer t' w'
  | recv room answer => (Transport.recv room).Answers t w answer t' w'
  | setMode mode answer => (Transport.setMode mode).Answers t w answer t' w'
  | close answer => Transport.close.Answers t w answer t' w'
  | flush answer => Transport.flush.Answers t w answer t' w'
  | setNodelay on answer => (Transport.setNodelay on).Answers t w answer t' w'
  | accept _ => False

/-- The output can go no further: nothing was accepted of it, or an error was fatal. -/
def Breaks (policy : Policy) : Call → Prop
  | send _ (.ok n) => n = 0
  | send _ (.error e) | flush (.error e) => policy.judge .send e = .fatal
  | _ => False

instance (policy : Policy) : DecidablePred (Breaks policy)
  | send _ (.ok n) => inferInstanceAs (Decidable (n = 0))
  | send _ (.error e) | flush (.error e) =>
    inferInstanceAs (Decidable (policy.judge .send e = .fatal))
  | flush (.ok _) | recv .. | setMode .. | close _ | setNodelay .. | accept _ =>
    inferInstanceAs (Decidable False)

end Call

namespace Connection

/-- What an error of a call makes of the core. -/
def afterError (policy : Policy) (call : TransportCall) (e : IoError) (core : ChannelCore) :
    ChannelCore :=
  if policy.judge call e = .fatal then core.deactivate else core

/-- What a call makes of the core. -/
def afterCall (policy : Policy) (core : ChannelCore) : Call → ChannelCore
  | .recv _ (.ok []) => core.deactivate
  | .recv _ (.ok data) => core.receive data
  | .recv _ (.error e) => afterError policy .recv e core
  | .send _ (.ok 0) => core.deactivate
  | .send _ (.ok n) => core.sent n
  | .send _ (.error e) => afterError policy .send e core
  | .flush (.error e) => afterError policy .send e core
  | _ => core

/-- The calls that a connection makes: it receives into its buffer while it is active, offers the
first run of output that is there, and flushes when there is none. -/
def Makes (c : Connection τ) : Call → Prop
  | .recv room _ => c.core.active = true ∧ room = c.chunk
  | .send offered _ => c.core.output.toList ≠ [] ∧ offered = c.core.output.run
  | .flush _ => c.core.output.toList = []
  | .setMode _ _ => True
  | _ => False

/-- Whatever a call does to a core, it leaves registration alone and activates nothing. -/
theorem afterCall_kept {P : ChannelCore → Prop} {policy : Policy} {core : ChannelCore} {call : Call}
    (h : P core) (hdeactivate : P core.deactivate) (hreceive : ∀ data, P (core.receive data))
    (hsent : ∀ n, P (core.sent n)) : P (afterCall policy core call) := by
  have herror (call : TransportCall) (e : IoError) : P (afterError policy call e core) := by
    unfold afterError
    split
    · exact hdeactivate
    · exact h
  match call with
  | .recv _ (.ok []) | .send _ (.ok 0) => exact hdeactivate
  | .recv _ (.ok (b :: data)) => exact hreceive _
  | .send _ (.ok (n + 1)) => exact hsent _
  | .recv _ (.error e) | .send _ (.error e) | .flush (.error e) => exact herror _ e
  | .flush (.ok _) | .setMode .. | .close _ | .setNodelay .. | .accept _ => exact h

theorem afterCall_registration {policy : Policy} {core : ChannelCore} {call : Call} :
    (afterCall policy core call).registration = core.registration :=
  afterCall_kept (P := fun core' => core'.registration = core.registration) rfl rfl (fun _ => rfl)
    fun _ => rfl

theorem afterCall_inactive {policy : Policy} {core : ChannelCore} {call : Call}
    (h : core.active = false) : (afterCall policy core call).active = false :=
  afterCall_kept (P := fun core' => core'.active = false) h rfl (fun _ => h) fun _ => h

/-- What is true after a call on the transport. -/
theorem onTransport_answers {call : Action ω IoError τ β} {c : Connection τ} {w : ω}
    {Q : Except IoError β → Connection τ → ω → Prop} {R : ChannelError → Connection τ → ω → Prop}
    (hcall : ∀ t t' w' answer, c.transport = some t → call.Answers t w answer t' w' →
      Q answer { c with transport := some t' } w')
    (hnone : c.transport = none → R .closed c w) : (onTransport call).Ends c w Q R := by
  unfold Action.Ends onTransport
  cases ht : c.transport with
  | none => exact hnone ht
  | some t =>
    dsimp only
    cases hx : call t w with
    | done b t' w' => exact hcall t t' w' (.ok b) ht hx
    | refused e t' w' => exact hcall t t' w' (.error e) ht hx
    | halted _ _ => trivial

section

variable {c : Connection τ} {w : ω}

/-- A call on the transport that is known to have this answer. -/
theorem onTransport_done {call : Action ω IoError τ β} {t t' : τ} {w' : ω}
    {answer : Except IoError β} (ht : c.transport = some t) (hx : call.Answers t w answer t' w') :
    onTransport call c w = .done answer { c with transport := some t' } w' := by
  unfold onTransport
  rw [ht]
  cases answer with
  | ok b => simp only [show call t w = .done b t' w' from hx]
  | error e => simp only [show call t w = .refused e t' w' from hx]

theorem fail_ends {e : IoError} {Q : α → Connection τ → ω → Prop}
    {R : ChannelError → Connection τ → ω → Prop} :
    (fail e : Action ω ChannelError _ α).Ends c w Q R ↔
      R (.failed e) (c.mapCore ChannelCore.deactivate) w := by
  simp [fail]

theorem ensureActive_ends {Q : Unit → Connection τ → ω → Prop}
    {R : ChannelError → Connection τ → ω → Prop} :
    ensureActive.Ends c w Q R ↔
      (c.core.active = true → Q () c w) ∧ (c.core.active = false → R .closed c w) := by
  rw [ensureActive, Action.ends_bind, Action.ends_subject, ChannelCore.ensureActive]
  cases c.core.active <;> simp

theorem ensureActive_active (ha : c.core.active = true) :
    ensureActive c w = .done () c w := by
  rw [ensureActive, Action.bind_done (Action.subject_apply c w), ChannelCore.ensureActive,
    if_pos ha]
  rfl

theorem ensureActive_inactive (hi : c.core.active = false) :
    ensureActive c w = .refused .closed c w := by
  rw [ensureActive, Action.bind_done (Action.subject_apply c w), ChannelCore.ensureActive, hi]
  rfl

theorem takeInput_ends {count : Nat} {opts : ReadOptions} {Q : Bytes → Connection τ → ω → Prop}
    {R : ChannelError → Connection τ → ω → Prop}
    (hq : ∀ data core, c.core.takeInput count opts = .ok (data, core) →
      Q data { c with core := core } w)
    (hr : ∀ e, c.core.takeInput count opts = .error e → R e c w) :
    (takeInput count opts).Ends c w Q R := by
  rw [takeInput, Action.ends_bind, Action.ends_subject]
  split
  · rename_i data core h
    exact hq data core h
  · rename_i e h
    exact hr e h

theorem mustLinger_iff {flushed : Except ChannelError Flushed} :
    c.mustLinger flushed = true ↔ flushed = .ok .blocked ∧ c.core.isRegistered = true := by
  cases flushed with
  | error e => simp [mustLinger]
  | ok f => cases f <;> simp [mustLinger]

end

variable [Transport ω τ]

/-- The connection makes these calls, one after another, on its transport. -/
inductive Exchange (p : Connection τ × ω) : List Call → Connection τ × ω → Prop
  | none : Exchange p [] p
  | call {calls : List Call} {c : Connection τ} {w w' : ω} {t t' : τ} {call : Call}
    (h : Exchange p calls (c, w)) (ht : c.transport = some t) (hm : c.Makes call)
    (hc : call.Made t w t' w') :
    Exchange p (calls ++ [call])
      ({ c with core := afterCall c.policy c.core call, transport := some t' }, w')

/-- Some exchange leads from the first to the second. -/
def Exchanged (p q : Connection τ × ω) : Prop := ∃ calls, Exchange p calls q

/-- An exchange leads from the first to the second in which the output was brought to a halt. -/
def Broken (p q : Connection τ × ω) : Prop :=
  ∃ calls, Exchange p calls q ∧ ∃ call ∈ calls, call.Breaks q.1.policy

/-- An exchange ends with this error: there is no transport, or it failed for good. -/
def Fails (p : Connection τ × ω) (e : ChannelError) (q : Connection τ × ω) : Prop :=
  Exchanged p q ∧ e = .closed ∧ q.1.transport = none ∨ Broken p q ∧ ∃ cause, e = .failed cause

variable {p q : Connection τ × ω} {o : Connection τ × ω} {c : Connection τ} {w : ω}
variable {calls : List Call}

theorem Exchanged.refl : Exchanged p p := ⟨[], .none⟩

theorem Exchanged.call {w' : ω} {t t' : τ} {call : Call} (ho : Exchanged o (c, w))
    (ht : c.transport = some t) (hm : c.Makes call) (hc : call.Made t w t' w') :
    Exchanged o
      ({ c with core := afterCall c.policy c.core call, transport := some t' }, w') := by
  obtain ⟨calls, h⟩ := ho
  exact ⟨_, h.call ht hm hc⟩

theorem Broken.of_call {w' : ω} {t t' : τ} {call : Call} (ho : Exchanged o (c, w))
    (ht : c.transport = some t) (hm : c.Makes call) (hc : call.Made t w t' w')
    (hb : call.Breaks c.policy) :
    Broken o ({ c with core := afterCall c.policy c.core call, transport := some t' }, w') := by
  obtain ⟨calls, h⟩ := ho
  exact ⟨_, h.call ht hm hc, call, by simp, hb⟩

theorem Broken.exchanged (h : Broken p q) : Exchanged p q :=
  ⟨_, h.choose_spec.1⟩

theorem Fails.exchanged {e : ChannelError} (h : Fails p e q) : Exchanged p q :=
  h.elim (·.1) (·.1.exchanged)

/-- What no exchange changes. -/
structure Kept (c c' : Connection τ) : Prop where
  policy : c'.policy = c.policy
  lingering : c'.lingering = c.lingering
  registration : c'.core.registration = c.core.registration
  transport : c'.transport.isSome = c.transport.isSome
  inactive : c.core.active = false → c'.core.active = false

theorem Exchange.kept (h : Exchange p calls q) : Kept p.1 q.1 := by
  induction h with
  | none => exact ⟨rfl, rfl, rfl, rfl, id⟩
  | call _ ht _ _ ih =>
    exact ⟨ih.policy, ih.lingering, afterCall_registration.trans ih.registration,
      (by rw [ht]; rfl : _ = _).trans ih.transport, fun hi => afterCall_inactive (ih.inactive hi)⟩

theorem Exchanged.kept (h : Exchanged p q) : Kept p.1 q.1 :=
  h.choose_spec.kept

/-! ## The functions that call -/

theorem applyMode_exchanged {mode : WaitMode} (ho : Exchanged o (c, w)) :
    (applyMode mode).Ends c w (fun _ c' w' => Exchanged o (c', w') ∧ c'.core = c.core)
      (fun _ c' w' => Exchanged o (c', w')) := by
  rw [applyMode, callTransport, Action.ends_bind]
  refine onTransport_answers (fun t t' w' answer ht hx => ?_) (fun _ => ho)
  have hm := ho.call ht (show c.Makes (.setMode mode answer) from trivial) hx
  cases answer with
  | ok _ => exact ⟨hm, rfl⟩
  | error e => exact hm

theorem receiveOnce_exchanged (ho : Exchanged o (c, w)) (ha : c.core.active = true) :
    receiveOnce.Ends c w
      (fun r c' w' => Exchanged o (c', w') ∧ (r ≠ some .ended → c'.core.active = true))
      (fun _ c' w' => Exchanged o (c', w')) := by
  rw [receiveOnce, Action.ends_bind, Action.ends_subject, Action.ends_bind]
  refine onTransport_answers (fun t t' w' answer ht hx => ?_) (fun _ => ho)
  have hm := ho.call ht (show c.Makes (.recv c.chunk answer) from ⟨ha, rfl⟩) hx
  match answer with
  | .ok [] => simpa [afterCall, mapCore] using hm
  | .ok (b :: data) => simpa [afterCall, mapCore, ChannelCore.receive, ha] using hm
  | .error e =>
    simp only [afterCall, afterError] at hm
    cases hj : c.policy.judge .recv e <;> simp_all [fail_ends, mapCore]

theorem receive_exchanged (ho : Exchanged o (c, w)) (ha : c.core.active = true) :
    receive.Ends c w
      (fun r c' w' => Exchanged o (c', w') ∧ (r ≠ .ended → c'.core.active = true))
      (fun _ c' w' => Exchanged o (c', w')) := by
  rw [receive, Action.ends_bind, Action.ends_subject]
  -- An interrupted receive leaves the connection active, so the next round may receive again.
  refine Action.Ends.repeatUntil (I := fun c w => Exchanged o (c, w) ∧ c.core.active = true)
    (fun c w ⟨ho, ha⟩ => ?_) _ c w ⟨ho, ha⟩
  refine (receiveOnce_exchanged ho ha).mono (fun r c' w' ⟨hm, hact⟩ => ?_) (fun _ _ _ hm => hm)
  cases r with
  | none => exact ⟨hm, hact (by simp)⟩
  | some r => exact ⟨hm, fun hr => hact (by simpa using hr)⟩

/-- Receives go on only while the connection is active. -/
theorem drainInput_exchanged (drain : Bool) : ∀ (rounds : Nat) (received : Bool)
    (c : Connection τ) (w : ω), Exchanged o (c, w) → c.core.active = true →
    (drainInput drain rounds received).Ends c w (fun _ c' w' => Exchanged o (c', w'))
      (fun _ c' w' => Exchanged o (c', w'))
  | 0, _, _, _, _, _ => trivial
  | rounds + 1, received, c, w, ho, ha => by
    rw [drainInput, Action.ends_bind]
    refine (receive_exchanged ho ha).mono (fun r c' w' ⟨hm, hact⟩ => ?_) (fun _ _ _ hm => hm)
    cases r with
    | data =>
      rw [Action.ends_bind, Action.ends_subject]
      split
      · exact drainInput_exchanged drain rounds true c' w' hm (hact (by simp))
      · exact hm
    | wouldBlock => exact hm
    | ended => cases received <;> exact hm

/-- The transport would not flush for now, and does not say that it has output. It may also have
come to say so when its mode was set. -/
inductive Mute (policy : Policy) : τ → Prop
  | flush {t t' : τ} {w w' : ω} {e : IoError} (h : Transport.flush t w = .refused e t' w')
    (hretry : policy.judge .send e = .retry) (hquiet : Transport.wantsWrite t' = false) :
    Mute policy t'
  | silenced {t t' : τ} {w w' : ω} {mode : WaitMode} (hwants : Transport.wantsWrite t = true)
    (h : (Transport.setMode mode).Leaves t w t' w') (hquiet : Transport.wantsWrite t' = false) :
    Mute policy t'
  | tuned {t t' : τ} {w w' : ω} {mode : WaitMode} (hmute : Mute policy t)
    (h : (Transport.setMode mode).Leaves t w t' w') (hquiet : Transport.wantsWrite t' = false) :
    Mute policy t'

/-- All output is sent, and the transport holds none of its own. -/
def Settled (c : Connection τ) : Prop :=
  c.core.output.toList = [] ∧ ∃ t, c.transport = some t ∧ Transport.wantsWrite t = false

/-- Output is waiting, be it that the transport does not say so. -/
def Held (c : Connection τ) : Prop :=
  ∃ t, c.transport = some t ∧
    (c.isWritePending = true ∨ c.core.output.toList = [] ∧ Mute c.policy t)

theorem Held.of_output {c : Connection τ} (ht : c.transport.isSome = true)
    (hne : c.core.output.toList ≠ []) : c.Held := by
  obtain ⟨t, ht⟩ := Option.isSome_iff_exists.mp ht
  refine ⟨t, ht, .inl ?_⟩
  have : c.core.output.isEmpty = false :=
    Bool.eq_false_iff.mpr fun h => hne (ByteRing.isEmpty_iff.mp h)
  simp [isWritePending, this]

theorem Held.of_wantsWrite {c : Connection τ} {t : τ} (ht : c.transport = some t)
    (hw : Transport.wantsWrite t = true) : c.Held :=
  ⟨t, ht, .inl (by simp [isWritePending, ht, hw])⟩

theorem Settled.of_not_pending {c : Connection τ} (ht : c.transport.isSome = true)
    (h : c.isWritePending = false) : c.Settled := by
  obtain ⟨t, ht⟩ := Option.isSome_iff_exists.mp ht
  simp only [isWritePending, ht, Option.any_some, Bool.or_eq_false_iff, Bool.not_eq_false'] at h
  exact ⟨ByteRing.isEmpty_iff.mp h.1, t, ht, h.2⟩

theorem sendOnce_exchanged (ho : Exchanged o (c, w)) (hne : c.core.output.toList ≠ []) :
    sendOnce.Ends c w
      (fun r c' w' => Exchanged o (c', w') ∧ c'.transport.isSome = true ∧
        (r ≠ some false → c'.core.output.toList ≠ []))
      (fun e c' w' => Fails o e (c', w')) := by
  rw [sendOnce, Action.ends_bind, Action.ends_subject, Action.ends_bind]
  refine onTransport_answers (fun t t' w' answer ht hx => ?_) (fun hn => .inl ⟨ho, rfl, hn⟩)
  have hmakes : c.Makes (.send c.core.output.run answer) := ⟨hne, rfl⟩
  have hm := ho.call ht hmakes hx
  match answer with
  | .ok 0 => exact .inr ⟨.of_call ho ht hmakes hx rfl, _, rfl⟩
  | .ok (n + 1) => exact ⟨hm, rfl, fun h => absurd rfl h⟩
  | .error e =>
    cases hj : c.policy.judge .send e with
    | retry =>
      simp only [afterCall, afterError, hj, reduceCtorEq, if_false] at hm
      simpa only [hj] using ⟨hm, rfl, fun _ => hne⟩
    | interrupted =>
      simp only [afterCall, afterError, hj, reduceCtorEq, if_false] at hm
      simpa only [hj] using ⟨hm, rfl, fun _ => hne⟩
    | fatal =>
      have hb := Broken.of_call ho ht hmakes hx hj
      simp only [afterCall, afterError, hj, if_true] at hb
      simp only [hj, fail_ends]
      exact .inr ⟨hb, e, rfl⟩

theorem sendSome_exchanged (ho : Exchanged o (c, w)) (hne : c.core.output.toList ≠ []) :
    sendSome.Ends c w
      (fun blocked c' w' => Exchanged o (c', w') ∧ c'.transport.isSome = true ∧
        (blocked = true → c'.core.output.toList ≠ []))
      (fun e c' w' => Fails o e (c', w')) := by
  rw [sendSome, Action.ends_bind, Action.ends_subject]
  refine Action.Ends.repeatUntil (I := fun c w => Exchanged o (c, w) ∧ c.core.output.toList ≠ [])
    (fun c w ⟨ho, hne⟩ => ?_) _ c w ⟨ho, hne⟩
  refine (sendOnce_exchanged ho hne).mono (fun r c' w' ⟨hm, ht, hout⟩ => ?_) (fun _ _ _ hf => hf)
  cases r with
  | none => exact ⟨hm, hout (by simp)⟩
  | some blocked => exact ⟨hm, ht, fun hb => hout (by simp [hb])⟩

theorem sendAll_exchanged (ho : Exchanged o (c, w)) :
    sendAll.Ends c w
      (fun r c' w' => Exchanged o (c', w') ∧ match r with
        | .drained => c'.core.output.toList = []
        | .blocked => c'.Held)
      (fun e c' w' => Fails o e (c', w')) := by
  rw [sendAll, Action.ends_bind, Action.ends_subject]
  refine Action.Ends.repeatUntil (I := fun c w => Exchanged o (c, w)) (fun c w ho => ?_) _ c w ho
  rw [Action.ends_bind, Action.ends_subject]
  by_cases he : c.core.output.toList = []
  · rw [if_pos (ByteRing.isEmpty_iff.mpr he), Action.ends_pure]
    exact ⟨ho, he⟩
  · rw [if_neg (fun h => he (ByteRing.isEmpty_iff.mp h)), Action.ends_bind]
    refine (sendSome_exchanged ho he).mono (fun blocked c' w' ⟨hm, ht, hout⟩ => ?_)
      (fun _ _ _ hf => hf)
    cases blocked with
    | true => exact ⟨hm, .of_output ht (hout rfl)⟩
    | false => exact hm

/-- A flush of the transport that is blocked leaves output with it, or the transport mute. -/
theorem settleOnce_exchanged (ho : Exchanged o (c, w)) (he : c.core.output.toList = []) :
    settleOnce.Ends c w
      (fun r c' w' => Exchanged o (c', w') ∧ match r with
        | none => c'.core.output.toList = []
        | some .drained => c'.Settled
        | some .blocked => c'.Held)
      (fun e c' w' => Fails o e (c', w')) := by
  rw [settleOnce, Action.ends_bind, Action.ends_subject, Action.ends_bind]
  refine onTransport_answers (fun t t' w' answer ht hx => ?_) (fun hn => .inl ⟨ho, rfl, hn⟩)
  have hmakes : c.Makes (.flush answer) := he
  have hm := ho.call ht hmakes hx
  match answer with
  | .ok () =>
    rw [Action.ends_bind, Action.ends_subject]
    cases hw : Transport.wantsWrite t' with
    | true =>
      rw [if_pos (by simp [hw])]
      exact ⟨hm, .of_wantsWrite rfl hw⟩
    | false =>
      rw [if_neg (by simp [hw])]
      exact ⟨hm, he, t', rfl, hw⟩
  | .error e =>
    cases hj : c.policy.judge .send e with
    | retry =>
      simp only [afterCall, afterError, hj, reduceCtorEq, if_false] at hm
      simp only [hj, Action.ends_pure]
      refine ⟨hm, ?_⟩
      cases hw : Transport.wantsWrite t' with
      | true => exact .of_wantsWrite rfl hw
      | false => exact ⟨t', rfl, .inr ⟨he, .flush hx hj hw⟩⟩
    | interrupted =>
      simp only [afterCall, afterError, hj, reduceCtorEq, if_false] at hm
      simpa only [hj] using ⟨hm, he⟩
    | fatal =>
      have hb := Broken.of_call ho ht hmakes hx hj
      simp only [afterCall, afterError, hj, if_true] at hb
      simp only [hj, fail_ends]
      exact .inr ⟨hb, e, rfl⟩

theorem flush_exchanged (ho : Exchanged o (c, w)) :
    flush.Ends c w
      (fun r c' w' => Exchanged o (c', w') ∧ match r with
        | .drained => c'.Settled
        | .blocked => c'.Held)
      (fun e c' w' => Fails o e (c', w')) := by
  rw [flush, Action.ends_bind]
  refine (sendAll_exchanged ho).mono (fun r c' w' h => ?_) (fun _ _ _ hf => hf)
  cases r with
  | blocked => exact h
  | drained =>
    rw [Action.ends_bind, Action.ends_subject]
    -- The transport is flushed only while the channel's own output is empty, and stays so.
    refine Action.Ends.repeatUntil (I := fun c w => Exchanged o (c, w) ∧ c.core.output.toList = [])
      (fun c w ⟨ho, he⟩ => ?_) _ c' w' h
    refine (settleOnce_exchanged ho he).mono (fun r c' w' h => ?_) (fun _ _ _ hf => hf)
    cases r with
    | none => exact h
    | some flushed => cases flushed <;> exact h

/-- A connection is made of a transport that can be set to wait, by settings with no fault. -/
theorem establish_ends {policy : Policy} {settings : ChannelSettings} {t : τ} {s : σ} {w : ω}
    {Q : Connection τ → σ → ω → Prop} {R : ChannelError → σ → ω → Prop}
    (hfault : ∀ fault, settings.fault? = some fault → R (.ofSettings fault) s w)
    (hset : settings.fault? = none → (Transport.setMode .forever : Action ω IoError τ Unit).Ends t w
      (fun _ t' w' => Q
        { core := .new .forever (Transport.describe t'), transport := some t',
          chunk := settings.readChunk, policy } s w')
      (fun e _ w' => R (.failed e) s w')) :
    (establish policy settings t : Action ω ChannelError σ (Connection τ)).Ends s w Q R := by
  rw [establish]
  split
  · exact hfault _ ‹_›
  · rw [Action.ends_bind, Action.ends_runOn, Action.ends_mapReason]
    exact hset ‹_›

/-- The connection was made just now. -/
def Established (c : Connection τ) : Prop :=
  ∃ (policy : Policy) (settings : ChannelSettings) (t : τ) (w w' : ω),
    (establish policy settings t : Action ω ChannelError Unit (Connection τ)) () w = .done c () w'

theorem Established.made (h : Established c) : ∃ label t chunk policy,
    c = { core := .new .forever label, transport := some t, chunk, policy } := by
  obtain ⟨policy, settings, t, w, w', hx⟩ := h
  have he : (establish policy settings t : Action ω ChannelError Unit _).Ends () w
      (fun c _ _ => ∃ label t chunk policy,
        c = { core := .new .forever label, transport := some t, chunk, policy })
      (fun _ _ _ => True) :=
    establish_ends (fun _ _ => trivial) fun _ =>
      (Action.ends_self _ _ _).mono (fun _ _ _ _ => ⟨_, _, _, _, rfl⟩) (fun _ _ _ _ => trivial)
  exact he.done hx

theorem Established.fresh (h : Established c) :
    c.core.output.toList = [] ∧ c.transport.isSome = true ∧ c.lingering = false := by
  obtain ⟨label, t, chunk, policy, rfl⟩ := h.made
  exact ⟨rfl, rfl, rfl⟩

/-- The connection without its transport. -/
def released (c : Connection τ) : Connection τ :=
  { c with lingering := false, core := c.core.dropOutput, transport := none }

/-- The transport, if there is one, is closed. -/
def PartsWith (c : Connection τ) (w w' : ω) : Prop :=
  match c.transport with
  | none => w' = w
  | some t => ∃ answer t', (Call.close answer).Made t w t' w'

theorem release_ends {Q : Unit → Connection τ → ω → Prop} {R : Empty → Connection τ → ω → Prop}
    (hq : ∀ w', c.PartsWith w w' → Q () c.released w') : release.Ends c w Q R := by
  unfold PartsWith at hq
  rw [release, Action.ends_bind, Action.ends_update, Action.ends_bind, Action.ends_attempt]
  refine onTransport_answers (fun t t' w' answer ht hx => ?_) (fun hn => ?_)
  · rw [show c.transport = some t from ht] at hq
    exact hq w' ⟨answer, t', hx⟩
  · rw [show c.transport = none from hn] at hq
    exact hq w rfl

/-! ## Waiting for input -/

section

variable [Machine ω]

theorem allowRest_exchanged {deadline : Option Instant} (ho : Exchanged o (c, w)) :
    (allowRest deadline).Ends c w (fun _ c' w' => Exchanged o (c', w') ∧ c'.core = c.core)
      (fun _ c' w' => Exchanged o (c', w')) := by
  cases deadline with
  | none => exact ⟨ho, rfl⟩
  | some deadline =>
    rw [allowRest, Action.ends_bind, Action.now, Action.ends_ask]
    split
    · exact ⟨ho, rfl⟩
    · rw [Action.ends_bind]
      exact (applyMode_exchanged ho).mono (fun _ _ _ h => h) (fun _ _ _ hm => hm)

theorem fillRound_exchanged {count : Nat} {deadline : Option Instant} :
    Action.Keeps (fun c w => Exchanged o (c, w)) (fillRound (τ := τ) count deadline) := by
  intro c w ho
  rw [fillRound, Action.ends_bind, Action.ends_subject]
  split
  · exact ho
  · rename_i hwait
    have ha : c.core.active = true := by
      cases h : c.core.active with
      | true => rfl
      | false => simp [h] at hwait
    rw [Action.ends_bind]
    refine (allowRest_exchanged ho).mono (fun rest c' w' ⟨hm, hc⟩ => ?_) (fun _ _ _ hm => hm)
    split
    · rw [Action.ends_bind]
      refine (receive_exchanged hm (hc ▸ ha)).mono (fun r c' w' h => ?_) (fun _ _ _ hm => hm)
      cases r <;> exact h.1
    · exact hm

theorem fillUntil_exchanged {count : Nat} {deadline : Option Instant} :
    Action.Keeps (fun c w => Exchanged o (c, w)) (fillUntil (τ := τ) count deadline) := by
  refine Action.Keeps.repeatUntil (Action.Keeps.bind ?_ fun progress => ?_) _
  · exact Action.Keeps.bind Action.keeps_subject fun _ => fillRound_exchanged.repeatUntil _
  · cases progress <;> exact Action.keeps_pure

theorem fill_exchanged {count : Nat} :
    Action.Keeps (fun c w => Exchanged o (c, w)) (fill (τ := τ) count) := by
  refine Action.Keeps.bind Action.keeps_subject fun c => Action.Keeps.bind ?_ fun deadline => ?_
  · refine Action.Keeps.bind Action.keeps_ask fun now => ?_
    split
    · exact Action.keeps_pure
    · exact Action.keeps_halt
  · refine Action.Keeps.bind fillUntil_exchanged.attempt fun result =>
      Action.Keeps.bind Action.keeps_subject fun c' => ?_
    split
    · exact Action.Keeps.bind (fun _ _ ho => (applyMode_exchanged ho).mono (fun _ _ _ h => h.1)
        (fun _ _ _ hm => hm)) fun _ => Action.keeps_ofExcept
    · exact Action.keeps_ofExcept

end

end Connection

end ChannelReactor
