import ChannelReactor.Proofs.Enduring
import ChannelReactor.Proofs.Layers

/-! # Handled channels

What is done to a channel while a reactor has it, short of taking its registration away, leaves its
mode, its registration and whether it listens: what every kind of channel decides by itself, and the
changes of mode and registration, which a registered channel refuses. -/
namespace ChannelReactor

variable {ω ε σ τ α β γ χ : Type}

/-- The second core has the mode and the registration of the first. -/
structure ChannelCore.Alike (core core' : ChannelCore) : Prop where
  mode : core'.mode = core.mode
  registration : core'.registration = core.registration

theorem ChannelCore.Alike.refl (core : ChannelCore) : core.Alike core := ⟨rfl, rfl⟩

namespace ChannelOps

variable [ChannelOps ω χ]

/-- The second channel is to a reactor what the first one is. -/
structure Alike (c c' : χ) : Prop where
  core : (ChannelOps.core c).Alike (ChannelOps.core c')
  listening : isListening c' = isListening c

theorem Alike.refl (c : χ) : Alike c c := ⟨.refl _, rfl⟩

theorem Alike.trans {c c₁ c₂ : χ} (h : Alike c c₁) (h' : Alike c₁ c₂) : Alike c c₂ :=
  ⟨⟨h'.core.mode.trans h.core.mode, h'.core.registration.trans h.core.registration⟩,
    h'.listening.trans h.listening⟩

theorem Alike.registered {c c' : χ} (h : Alike c c') : isRegistered c' = isRegistered c := by
  rw [isRegistered, isRegistered, ChannelCore.isRegistered, ChannelCore.isRegistered,
    h.core.registration]

/-- Whatever the action does to a channel, the channel is alike after it. -/
def Spares (x : Action ω ε χ α) : Prop :=
  ∀ c w, x.Ends c w (fun _ c' _ => Alike c c') (fun _ c' _ => Alike c c')

theorem Spares.bind {x : Action ω ε χ α} {f : α → Action ω ε χ β} (hx : Spares x)
    (hf : ∀ a, Spares (f a)) : Spares (x >>= f) := by
  intro c w
  rw [Action.ends_bind]
  exact (hx c w).mono
    (fun a c₁ w₁ h => (hf a c₁ w₁).mono (fun _ _ _ h' => h.trans h') (fun _ _ _ h' => h.trans h'))
    (fun _ _ _ h => h)

theorem spares_pure (a : α) : Spares (pure a : Action ω ε χ α) := fun c _ => .refl c

/-- A kind of channels whose operations leave a channel alike, and whose channels are known to a
reactor by their cores. -/
structure Steady (ω χ : Type) [ChannelOps ω χ] : Prop where
  core_mapCore : ∀ f (c : χ), core (mapCore f c) = f (core c)
  listening_mapCore : ∀ f (c : χ), isListening (mapCore f c) = isListening c
  applyMode : ∀ mode, Spares (applyMode mode : Action ω ChannelError χ Unit)
  read : ∀ count opts, Spares (read count opts : Action ω ChannelError χ Bytes)
  write : ∀ data, Spares (write data : Action ω ChannelError χ Unit)
  onRead : Spares (onRead : Action ω ChannelError χ Unit)
  onWrite : Spares (onWrite : Action ω ChannelError χ Unit)
  close : Spares (close : Action ω Empty χ Unit)
  accept : Spares (accept : Action ω ChannelError χ (Accepted χ))

theorem setMode_registered {c : χ} {w : ω} (mode : WaitMode) (h : isRegistered c = true) :
    setMode mode c w = .refused (.misuse .modeChangeWhileRegistered) c w := by
  rw [setMode, Action.bind_apply, Action.subject_apply]
  exact congrFun (congrFun (if_pos h) c) w

theorem attach_registered {c : χ} {w : ω} (token : Token) (h : isRegistered c = true) :
    attach token c w = .refused (.misuse .alreadyRegistered) c w := by
  rw [attach, Action.bind_apply, Action.subject_apply]
  exact congrFun (congrFun (if_pos h) c) w

/-- A registered channel refuses another mode and another reactor, and keeps what it has through
all else but a detach. -/
theorem Steady.perform (hs : Steady ω χ) {op : ChannelOp} (hop : op ≠ .detach) {c : χ} {w : ω}
    (h : isRegistered c = true) :
    op.perform.Ends c w (fun _ c' _ => Alike c c') (fun _ c' _ => Alike c c') := by
  have hrefused {x : Action ω ChannelError χ Unit} {e : ChannelError}
      (hx : x c w = .refused e c w) :
      (do x; pure [] : Action ω ChannelError χ Bytes).Ends c w (fun _ c' _ => Alike c c')
        (fun _ c' _ => Alike c c') := by
    rw [Action.ends_bind]
    unfold Action.Ends
    rw [hx]
    exact .refl c
  cases op with
  | write data => exact (hs.write data).bind (fun _ => spares_pure _) c w
  | read count opts => exact hs.read count opts c w
  | onRead => exact hs.onRead.bind (fun _ => spares_pure _) c w
  | onWrite => exact hs.onWrite.bind (fun _ => spares_pure _) c w
  | setMode mode => exact hrefused (setMode_registered mode h)
  | attach token => exact hrefused (attach_registered token h)
  | detach => exact absurd rfl hop
  | close =>
    have hclose : Spares (ChannelOps.close.sure : Action ω ChannelError χ Unit) := by
      intro c w
      rw [Action.ends_sure]
      exact (hs.close c w).mono (fun _ _ _ h => h) (fun e _ _ _ => e.elim)
    exact hclose.bind (fun _ => spares_pure _) c w

/-- A channel that joins a reactor waits no more, has the reactor's token beside the mode it had,
and stays on its side. -/
theorem Steady.attach (hs : Steady ω χ) {token : Token} {c c' : χ} {w w' : ω}
    (h : ChannelOps.attach token c w = .done () c' w') :
    mode c' = .nonblocking ∧ (core c').registration = some { token, prior := mode c } ∧
      isListening c' = isListening c := by
  have hends : (ChannelOps.attach token).Ends c w
      (fun _ c' _ => mode c' = .nonblocking ∧
        (core c').registration = some { token, prior := mode c } ∧ isListening c' = isListening c)
      (fun _ _ _ => True) := by
    refine attach_ends (fun _ => trivial) fun _ =>
      (hs.applyMode .nonblocking c w).mono (fun _ c₁ _ halike => ?_) (fun _ _ _ _ => trivial)
    refine ⟨?_, ?_, (hs.listening_mapCore _ c₁).trans halike.listening⟩
    · rw [mode, hs.core_mapCore]
      rfl
    · rw [hs.core_mapCore]
      rfl
  exact hends.done h

end ChannelOps

namespace Connection

variable [Transport ω τ]

/-- Nothing that a connection does by itself changes its mode or its registration. -/
theorem alike_outlasts (core : ChannelCore) :
    Outlasts fun (c : Connection τ) (_ : ω) => core.Alike c.core where
  call h _ _ _ := h
  core hf h := ⟨(hf.mode _).trans h.mode, (hf.registration _).trans h.registration⟩
  linger h _ := h
  part h _ := h

/-- What any state of the transport keeps, the setting of a mode keeps. -/
theorem applyMode_retains {P : Connection τ → Prop} {mode : WaitMode}
    (hcall : ∀ {c : Connection τ} {t : τ}, P c → P { c with transport := some t }) :
    Action.Keeps (fun c (_ : ω) => P c) (applyMode mode) := by
  refine Action.Keeps.bind (fun c w h => onTransport_answers (fun _ _ _ _ _ _ => hcall h)
    fun _ => h) fun answer => ?_
  split
  · exact Action.keeps_pure
  · exact Action.keeps_refuse

/-- The making of a connection leaves what it is made beside. -/
theorem establish_keeps {P : σ → Prop} {policy : Policy} {settings : ChannelSettings} {t : τ} :
    Action.Keeps (fun s (_ : ω) => P s)
      (establish policy settings t : Action ω ChannelError σ (Connection τ)) := fun _ _ h =>
  establish_ends (fun _ _ => h) fun _ =>
    (Action.ends_self _ _ _).mono (fun _ _ _ _ => h) (fun _ _ _ _ => h)

end Connection

namespace Listener

variable [Acceptor ω α τ]

section

variable {P : Listener α → Prop}

/-- What any state of the acceptor keeps, a call on it keeps. -/
theorem onAcceptor_retains {call : Action ω IoError α γ}
    (hcall : ∀ {l : Listener α} {a : α}, P l → P { l with acceptor := some a }) :
    Action.Keeps (fun l _ => P l) (onAcceptor call) := by
  intro l w h
  unfold Action.Ends onAcceptor
  cases l.acceptor with
  | none => exact h
  | some a =>
    dsimp only
    cases call a w with
    | done _ _ _ => exact hcall h
    | refused _ _ _ => exact hcall h
    | halted _ _ => trivial

theorem applyMode_retains {mode : WaitMode}
    (hcall : ∀ {l : Listener α} {a : α}, P l → P { l with acceptor := some a }) :
    Action.Keeps (fun l (_ : ω) => P l) (applyMode mode) := by
  refine (onAcceptor_retains hcall).bind fun answer => ?_
  split
  · exact Action.keeps_pure
  · exact Action.keeps_refuse

/-- An accept calls on the acceptor, and at most makes the listener inactive. -/
theorem acceptConnection_retains [Transport ω τ]
    (hcall : ∀ {l : Listener α} {a : α}, P l → P { l with acceptor := some a })
    (hdeactivate : ∀ {l : Listener α}, P l → P (l.mapCore ChannelCore.deactivate)) :
    Action.Keeps (fun l (_ : ω) => P l) acceptConnection := by
  have hfail {e : ChannelError} : Action.Keeps (fun l (_ : ω) => P l) (do
      Action.update (mapCore ChannelCore.deactivate)
      Action.refuse e : Action ω ChannelError (Listener α) (Option (τ × String))) :=
    (Action.keeps_update fun _ _ h => hdeactivate h).bind fun _ => Action.keeps_refuse
  have honce : Action.Keeps (fun l (_ : ω) => P l) (acceptOnce (τ := τ)) := by
    refine Action.keeps_subject.bind fun l => (onAcceptor_retains hcall).bind fun answer => ?_
    split
    · exact Action.keeps_pure
    · split
      · exact Action.keeps_refuse
      · exact Action.keeps_pure
      · exact hfail
  have htransport : Action.Keeps (fun l (_ : ω) => P l) (acceptTransport (τ := τ)) := by
    refine Action.keeps_subject.bind fun l => Action.keeps_ofExcept.bind fun _ =>
      (honce.repeatUntil _).bind fun next => Action.Keeps.bind (fun l w h => ?_) fun _ =>
        Action.keeps_pure
    rw [Action.ends_runOn]
    exact (Action.ends_self _ _ _).mono (fun _ _ _ _ => h) (fun _ _ _ _ => h)
  exact htransport.bind fun _ => Action.keeps_subject.bind fun _ =>
    Connection.establish_keeps.bind fun _ => Action.keeps_pure

end

theorem close_alike (core : ChannelCore) :
    Action.Keeps (fun (l : Listener α) (_ : ω) => core.Alike l.core) close :=
  Action.keeps_update fun _ _ h => ⟨h.mode, h.registration⟩

end Listener

namespace Channel

open ChannelOps

variable [ChannelOps ω β]

theorem core_mapCore (hcore : ∀ f (b : β), ChannelOps.core (ChannelOps.mapCore f b) =
    f (ChannelOps.core b)) (f : ChannelCore → ChannelCore) (c : Channel τ α β) :
    (c.mapCore f).core = f c.core := by
  induction c with
  | connection k => rfl
  | listener l => rfl
  | custom b => exact hcore f b
  | expiring inner last interval ih => exact ih

theorem listening_mapCore (hlistening : ∀ f (b : β), ChannelOps.isListening (ChannelOps.mapCore f b)
    = ChannelOps.isListening b) (f : ChannelCore → ChannelCore) (c : Channel τ α β) :
    (c.mapCore f).isListening = c.isListening := by
  induction c with
  | connection k => rfl
  | listener l => rfl
  | custom b => exact hlistening f b
  | expiring inner last interval ih => exact ih

variable [Machine ω] [Transport ω τ] [Acceptor ω α τ]

/-- The channel is left alike by an action that is given it. -/
abbrev SparesOf (f : Channel τ α β → Action ω ε (Channel τ α β) γ) (c : Channel τ α β) : Prop :=
  ∀ w, (f c).Ends c w (fun _ c' _ => Alike c c') (fun _ c' _ => Alike c c')

section

variable {w : ω}

theorem onConnection_alike {k : Connection τ} {x : Action ω ε (Connection τ) γ}
    (hx : Action.Keeps (fun c _ => k.core.Alike c.core) x) :
    (onConnection k x).Ends (connection k : Channel τ α β) w
      (fun _ c' _ => Alike (connection k) c') (fun _ c' _ => Alike (connection k) c') := by
  rw [onConnection_ends]
  exact (hx k w (.refl _)).mono (fun _ _ _ h => ⟨h, rfl⟩) (fun _ _ _ h => ⟨h, rfl⟩)

theorem onListener_alike {l : Listener α} {x : Action ω ε (Listener α) γ}
    (hx : Action.Keeps (fun l' _ => l.core.Alike l'.core) x) :
    (onListener l x).Ends (listener l : Channel τ α β) w
      (fun _ c' _ => Alike (listener l) c') (fun _ c' _ => Alike (listener l) c') := by
  rw [onListener_ends]
  exact (hx l w (.refl _)).mono (fun _ _ _ h => ⟨h, rfl⟩) (fun _ _ _ h => ⟨h, rfl⟩)

theorem onCustom_alike {b : β} {x : Action ω ε β γ} (hx : Spares x) :
    (onCustom b x).Ends (custom b : Channel τ α β) w (fun _ c' _ => Alike (custom b) c')
      (fun _ c' _ => Alike (custom b) c') := by
  have h := hx b w
  unfold Action.Ends at h ⊢
  unfold onCustom
  cases hb : x b w with
  | done _ _ _ | refused _ _ _ =>
    rw [hb] at h
    exact ⟨h.core, h.listening⟩
  | halted _ _ => trivial

theorem onInner_alike {inner : Channel τ α β} {last : Instant} {interval : Span}
    {f : Channel τ α β → Action ω ε (Channel τ α β) γ} (hx : SparesOf f inner) :
    (onInner inner last interval (f inner)).Ends (expiring inner last interval) w
      (fun _ c' _ => Alike (expiring inner last interval) c')
      (fun _ c' _ => Alike (expiring inner last interval) c') := by
  rw [onInner_ends]
  exact (hx w).mono (fun _ _ _ h => ⟨h.core, h.listening⟩) (fun _ _ _ h => ⟨h.core, h.listening⟩)

end

/-- What spares the channels without layers and goes through the layers, spares all channels. -/
theorem spares_of_layers {f : Channel τ α β → Action ω ε (Channel τ α β) γ}
    (hconnection : ∀ k, SparesOf f (.connection k)) (hlistener : ∀ l, SparesOf f (.listener l))
    (hcustom : ∀ b, SparesOf f (.custom b))
    (hlayer : ∀ inner last interval, SparesOf f inner →
      SparesOf f (.expiring inner last interval)) :
    Spares (do f (← Action.subject)) := by
  intro c w
  rw [Action.ends_bind, Action.ends_subject]
  have hall : SparesOf f c := by
    induction c with
    | connection k => exact hconnection k
    | listener l => exact hlistener l
    | custom b => exact hcustom b
    | expiring inner last interval ih => exact hlayer inner last interval ih
  exact hall w

theorem touch_spares : Spares (touch : Action ω ε (Channel τ α β) Unit) := by
  intro c w
  rw [touch, Action.ends_bind, Action.now, Action.ends_ask, Action.ends_update]
  cases c <;> exact ⟨⟨rfl, rfl⟩, rfl⟩

theorem steady (hβ : Steady ω β) : Steady ω (Channel τ α β) where
  core_mapCore := core_mapCore hβ.core_mapCore
  listening_mapCore := listening_mapCore hβ.listening_mapCore
  applyMode mode := spares_of_layers (f := applyModeOf mode)
    (fun _ _ => onConnection_alike (Connection.applyMode_retains fun h => h))
    (fun _ _ => onListener_alike (Listener.applyMode_retains fun h => h))
    (fun _ _ => onCustom_alike (hβ.applyMode mode))
    (fun _ _ _ h _ => onInner_alike h)
  read count opts := spares_of_layers (f := readOf count opts)
    (fun k _ => onConnection_alike ((Connection.alike_outlasts k.core).read
      (fun _ => Connection.applyMode_retains fun h => h) count opts))
    (fun _ _ => .refl _)
    (fun _ _ => onCustom_alike (hβ.read count opts))
    (fun _ _ _ h _ => onInner_alike h)
  write data := spares_of_layers (f := writeOf data)
    (fun k _ => onConnection_alike ((Connection.alike_outlasts k.core).write data))
    (fun _ _ => .refl _)
    (fun _ _ => onCustom_alike (hβ.write data))
    (fun _ _ _ h _ => onInner_alike h)
  onRead := spares_of_layers (f := onReadOf)
    (fun k _ => onConnection_alike (Connection.alike_outlasts k.core).onRead)
    (fun _ _ => .refl _)
    (fun _ _ => onCustom_alike hβ.onRead)
    (fun inner last interval h w => by
      rw [onReadOf, Action.ends_bind]
      exact (onInner_alike h).mono
        (fun _ c₁ w₁ h₁ => (touch_spares c₁ w₁).mono (fun _ _ _ h₂ => h₁.trans h₂)
          (fun _ _ _ h₂ => h₁.trans h₂))
        (fun _ _ _ h₁ => h₁))
  onWrite := spares_of_layers (f := onWriteOf)
    (fun k _ => onConnection_alike (Connection.alike_outlasts k.core).onWrite)
    (fun _ _ => .refl _)
    (fun _ _ => onCustom_alike hβ.onWrite)
    (fun _ _ _ h _ => onInner_alike h)
  close := spares_of_layers (f := closeOf)
    (fun k _ => onConnection_alike (Connection.alike_outlasts k.core).close)
    (fun l _ => onListener_alike (Listener.close_alike l.core))
    (fun _ _ => onCustom_alike hβ.close)
    (fun _ _ _ h _ => onInner_alike h)
  accept := spares_of_layers (f := acceptOf)
    (fun _ _ => .refl _)
    (fun l w => by
      rw [acceptOf, Action.ends_bind]
      exact onListener_alike
        (Listener.acceptConnection_retains (fun h => h) fun h => ⟨h.mode, h.registration⟩))
    (fun _ w => by
      rw [acceptOf, Action.ends_bind]
      exact onCustom_alike hβ.accept)
    (fun _ _ _ h _ => onInner_alike h)

/-- One thing that can be done to a channel without taking its registration away. -/
inductive Handling : Channel τ α β → Channel τ α β → Prop
  | operate {c c' : Channel τ α β} {w w' : ω} (op : ChannelOp) (hop : op ≠ .detach)
    (h : op.perform.Leaves c w c' w') : Handling c c'
  | applyMode {c c' : Channel τ α β} {w w' : ω} (mode : WaitMode)
    (h : (ChannelOps.applyMode mode).Leaves c w c' w') : Handling c c'
  | accept {c c' : Channel τ α β} {w w' : ω} (h : ChannelOps.accept.Leaves c w c' w') :
    Handling c c'
  | touch {c c' : Channel τ α β} {w w' : ω}
    (h : (touch : Action ω ChannelError (Channel τ α β) Unit).Leaves c w c' w') : Handling c c'

abbrev Handled : Channel τ α β → Channel τ α β → Prop := Relation.ReflTransGen Handling

theorem Handled.alike (hβ : Steady ω β) {c c' : Channel τ α β} (h : Handled c c')
    (hr : isRegistered c = true) : Alike c c' := by
  induction h with
  | refl => exact .refl c
  | tail _ hstep ih =>
    refine ih.trans ?_
    have hr' := ih.registered.trans hr
    cases hstep with
    | operate op hop h => exact ((steady hβ).perform hop hr').leaves h
    | applyMode mode h => exact ((steady hβ).applyMode mode _ _).leaves h
    | accept h => exact ((steady hβ).accept _ _).leaves h
    | touch h => exact (touch_spares _ _).leaves h

end Channel

/-- Of a kind without channels there is nothing to ask. -/
theorem NoKind.steady (ω : Type) : ChannelOps.Steady ω (NoKind ω) where
  core_mapCore _ b := nomatch b
  listening_mapCore _ b := nomatch b
  applyMode _ b := nomatch b
  read _ _ b := nomatch b
  write _ b := nomatch b
  onRead b := nomatch b
  onWrite b := nomatch b
  close b := nomatch b
  accept b := nomatch b

end ChannelReactor
