import ChannelReactor.Proofs.Handling

/-! # What a channel is backed by

An active connection has its transport and an active listener its acceptor, and a connection lingers
only when it is inactive. Nothing that is done to a channel changes that. So a mode can be set on
every active channel over transports and acceptors on which modes can be set, and a channel that
leaves its reactor goes back to the mode it had. -/
namespace ChannelReactor

variable {ω ε τ α γ χ : Type}

/-- The core in another mode, without its registration. -/
def ChannelCore.released (core : ChannelCore) (mode : WaitMode) : ChannelCore :=
  { core with mode, registration := none }

/-- Every mode can be set on a transport. -/
def Transport.Pliant (ω τ : Type) [Transport ω τ] : Prop :=
  ∀ (mode : WaitMode) (t : τ) (w : ω), ∃ t' w',
    (Transport.setMode mode : Action ω IoError τ Unit) t w = .done () t' w'

/-- Every mode can be set on an acceptor. -/
def Acceptor.Pliant (ω α τ : Type) [Acceptor ω α τ] : Prop :=
  ∀ (mode : WaitMode) (a : α) (w : ω), ∃ a' w',
    (Acceptor.setMode mode : Action ω IoError α Unit) a w = .done () a' w'

namespace Connection

/-- The connection has its transport while it is active, and lingers only when it is not. -/
structure Backed (c : Connection τ) : Prop where
  active : c.core.active = true → c.transport.isSome = true
  lingering : c.lingering = true → c.core.active = false

variable [Transport ω τ]

theorem backed_outlasts : Outlasts fun (c : Connection τ) (_ : ω) => c.Backed where
  call h _ _ _ := ⟨fun _ => rfl, h.lingering⟩
  core := by
    intro c w f hf h
    refine ⟨fun ha => h.active ?_, fun hl => hf.inactive _ (h.lingering hl)⟩
    cases hi : c.core.active with
    | true => rfl
    | false => exact (hf.inactive _ hi).symm.trans ha
  linger h hi := ⟨h.active, fun _ => hi⟩
  part h hover := by
    refine ⟨fun ha => ?_, nofun⟩
    have hinactive := hover.elim h.lingering id
    exact Bool.noConfusion (hinactive.symm.trans ha)

theorem applyMode_backed {mode : WaitMode} :
    Action.Keeps (fun (c : Connection τ) (_ : ω) => c.Backed) (applyMode mode) :=
  applyMode_retains fun h => ⟨fun _ => rfl, h.lingering⟩

variable {c : Connection τ} {mode : WaitMode} {w w' : ω}

theorem applyMode_done {t t' : τ} (ht : c.transport = some t)
    (hset : Transport.setMode mode t w = .done () t' w') :
    applyMode mode c w = .done () { c with transport := some t' } w' := by
  rw [applyMode, callTransport, Action.bind_apply, onTransport, ht]
  dsimp only
  rw [hset]
  rfl

theorem applyMode_refused (hn : c.transport = none) :
    applyMode mode c w = .refused .closed c w := by
  rw [applyMode, callTransport, Action.bind_apply, onTransport, hn]

theorem Established.backed (h : Established c) : c.core.mode = .forever ∧ c.Backed := by
  obtain ⟨label, t, chunk, policy, rfl⟩ := h.made
  exact ⟨rfl, fun _ => rfl, Bool.noConfusion⟩

end Connection

namespace Listener

/-- The listener has its acceptor while it is active. -/
def Backed (l : Listener α) : Prop := l.core.active = true → l.acceptor.isSome = true

variable [Acceptor ω α τ]

theorem applyMode_backed {mode : WaitMode} :
    Action.Keeps (fun (l : Listener α) (_ : ω) => l.Backed) (applyMode mode) :=
  applyMode_retains fun _ _ => rfl

theorem close_backed : Action.Keeps (fun (l : Listener α) (_ : ω) => l.Backed) close :=
  Action.keeps_update fun _ _ _ => nofun

theorem acceptConnection_backed [Transport ω τ] :
    Action.Keeps (fun (l : Listener α) (_ : ω) => l.Backed) (acceptConnection (τ := τ)) :=
  acceptConnection_retains (fun _ _ => rfl) fun _ => nofun

variable {l : Listener α} {mode : WaitMode} {w w' : ω}

theorem applyMode_done {a a' : α} (ha : l.acceptor = some a)
    (hset : Acceptor.setMode mode a w = .done () a' w') :
    applyMode mode l w = .done () { l with acceptor := some a' } w' := by
  rw [applyMode, Action.bind_apply, onAcceptor, ha]
  dsimp only
  rw [hset]
  rfl

theorem applyMode_refused (hn : l.acceptor = none) :
    applyMode mode l w = .refused .closed l w := by
  rw [applyMode, Action.bind_apply, onAcceptor, hn]

/-- The listener was made just now. -/
def Established (l : Listener α) : Prop :=
  ∃ (policy : Policy) (settings : ChannelSettings) (a : α) (w w' : ω),
    (establish policy settings a : Action ω ChannelError Unit (Listener α)) () w = .done l () w'

theorem Established.made (h : Established l) : ∃ label a settings policy,
    l = { core := .new .forever label, acceptor := some a, settings, policy } := by
  obtain ⟨policy, settings, a, w, w', hx⟩ := h
  have he : (establish policy settings a : Action ω ChannelError Unit _).Ends () w
      (fun l _ _ => ∃ label a settings policy,
        l = { core := .new .forever label, acceptor := some a, settings, policy })
      (fun _ _ _ => True) := by
    rw [establish]
    split
    · trivial
    · rw [Action.ends_bind, Action.ends_runOn, Action.ends_mapReason]
      exact (Action.ends_self _ _ _).mono (fun _ _ _ _ => ⟨_, _, _, _, rfl⟩)
        (fun _ _ _ _ => trivial)
  exact he.done hx

theorem Established.backed (h : Established l) : l.core.mode = .forever ∧ l.Backed := by
  obtain ⟨label, a, settings, policy, rfl⟩ := h.made
  exact ⟨rfl, fun _ => rfl⟩

end Listener

namespace ChannelOps

variable [ChannelOps ω χ]

/-- The mode that the channel records is a normal one. -/
def IsNormal (c : χ) : Prop := (mode c).normalized = mode c

theorem Alike.normal {c c' : χ} (h : Alike c c') (hc : IsNormal c) : IsNormal c' := by
  rw [IsNormal, show mode c' = mode c from h.core.mode]
  exact hc

theorem Spares.normal {x : Action ω ε χ γ} (hx : Spares x) :
    Action.Keeps (fun c _ => IsNormal c) x := fun c w hc =>
  (hx c w).mono (fun _ _ _ h => h.normal hc) (fun _ _ _ h => h.normal hc)

/-- Only normal modes are recorded. -/
theorem Steady.perform_normal (hs : Steady ω χ) (op : ChannelOp) :
    Action.Keeps (fun c _ => IsNormal c) (op.perform (χ := χ)) := by
  have hrecorded (mode : WaitMode) {f : ChannelCore → ChannelCore} {c : χ}
      (hf : (f (core c)).mode = mode.normalized) : IsNormal (mapCore f c) := by
    rw [IsNormal, ChannelOps.mode, hs.core_mapCore, hf]
    exact mode.normalized_normalized
  cases op with
  | write data => exact (hs.write data).normal.bind fun _ => Action.keeps_pure
  | read count opts => exact (hs.read count opts).normal
  | onRead => exact hs.onRead.normal.bind fun _ => Action.keeps_pure
  | onWrite => exact hs.onWrite.normal.bind fun _ => Action.keeps_pure
  | setMode mode =>
    refine Action.Keeps.bind (Action.keeps_subject.bind fun c => ?_) fun _ => Action.keeps_pure
    split
    · exact Action.keeps_refuse
    · exact (hs.applyMode _).normal.bind fun _ =>
        Action.keeps_update fun _ _ _ => hrecorded mode.normalized rfl
  | attach token =>
    refine Action.Keeps.bind (Action.keeps_subject.bind fun c => ?_) fun _ => Action.keeps_pure
    split
    · exact Action.keeps_refuse
    · exact (hs.applyMode _).normal.bind fun _ =>
        Action.keeps_update fun _ _ _ => hrecorded .nonblocking rfl
  | detach =>
    refine Action.Keeps.bind (Action.keeps_subject.bind fun c => ?_) fun _ => Action.keeps_pure
    split
    · exact Action.keeps_pure
    · rename_i registration _
      refine Action.Keeps.bind (Action.keeps_update fun _ _ _ => hrecorded registration.prior rfl)
        fun _ => Action.keeps_subject.bind fun c => ?_
      split
      · exact (hs.applyMode _).normal
      · exact Action.keeps_pure
  | close => exact hs.close.normal.sure.bind fun _ => Action.keeps_pure

end ChannelOps

namespace Channel

/-- The connection or the listener that the channel is, under any layers, is backed. -/
def Backed : Channel τ α (NoKind ω) → Prop
  | connection k => k.Backed
  | listener l => l.Backed
  | custom _ => True
  | expiring inner _ _ => inner.Backed

/-- The channel stays backed through an action that is given it. -/
abbrev BacksOf (f : Channel τ α (NoKind ω) → Action ω ε (Channel τ α (NoKind ω)) γ)
    (c : Channel τ α (NoKind ω)) : Prop :=
  c.Backed → ∀ w, (f c).Ends c w (fun _ c' _ => c'.Backed) (fun _ c' _ => c'.Backed)

section

variable {f : Channel τ α (NoKind ω) → Action ω ε (Channel τ α (NoKind ω)) γ}

theorem onConnection_backed {k : Connection τ} {s : Channel τ α (NoKind ω)} {w : ω}
    {x : Action ω ε (Connection τ) γ} (hx : Action.Keeps (fun k _ => k.Backed) x) (h : k.Backed) :
    (onConnection k x : Action ω ε (Channel τ α (NoKind ω)) γ).Ends s w
      (fun _ c' _ => c'.Backed) (fun _ c' _ => c'.Backed) := by
  rw [onConnection_ends]
  exact hx k w h

theorem onListener_backed {l : Listener α} {s : Channel τ α (NoKind ω)} {w : ω}
    {x : Action ω ε (Listener α) γ} (hx : Action.Keeps (fun l _ => l.Backed) x) (h : l.Backed) :
    (onListener l x : Action ω ε (Channel τ α (NoKind ω)) γ).Ends s w
      (fun _ c' _ => c'.Backed) (fun _ c' _ => c'.Backed) := by
  rw [onListener_ends]
  exact hx l w h

/-- What connections, listeners and layers make of backed channels is backed. -/
theorem backed_of_layers (hconnection : ∀ k, BacksOf f (.connection k))
    (hlistener : ∀ l, BacksOf f (.listener l))
    (hlayer : ∀ inner last interval s w,
      (onInner inner last interval (f inner)).Ends s w (fun _ c' _ => c'.Backed)
        (fun _ c' _ => c'.Backed) →
      (f (.expiring inner last interval)).Ends s w (fun _ c' _ => c'.Backed)
        (fun _ c' _ => c'.Backed)) :
    Action.Keeps (fun c _ => c.Backed) (do f (← Action.subject)) := by
  have hall (c : Channel τ α (NoKind ω)) : BacksOf f c := by
    induction c with
    | connection k => exact hconnection k
    | listener l => exact hlistener l
    | custom b => exact b.absurd
    | expiring inner last interval ih =>
      intro h w
      refine hlayer inner last interval _ w ?_
      rw [onInner_ends]
      exact ih h w
  exact Action.Keeps.bindSubject fun c w h => hall c h w

end

variable [Machine ω]

theorem touch_backed : Action.Keeps (fun (c : Channel τ α (NoKind ω)) (_ : ω) => c.Backed)
    (touch : Action ω ε (Channel τ α (NoKind ω)) Unit) := by
  intro c w h
  rw [touch, Action.ends_bind, Action.now, Action.ends_ask, Action.ends_update]
  cases c <;> exact h

variable [Transport ω τ] [Acceptor ω α τ]

theorem Backed.mapCore (f : ChannelCore → ChannelCore) (hf : ∀ core, (f core).active = core.active)
    {c : Channel τ α (NoKind ω)} (h : c.Backed) : (ChannelOps.mapCore f c).Backed := by
  change (c.mapCore f).Backed
  induction c with
  | connection k =>
    exact ⟨fun ha => h.active ((hf _).symm.trans ha), fun hl => (hf _).trans (h.lingering hl)⟩
  | listener l => exact fun ha => h ((hf _).symm.trans ha)
  | custom b => exact b.absurd
  | expiring inner last interval ih => exact ih h

theorem Backed.retuned {f : ChannelCore → ChannelCore} (hf : ChannelCore.Retunes f)
    {c : Channel τ α (NoKind ω)} (h : c.Backed) : (ChannelOps.mapCore f c).Backed := by
  refine h.mapCore f fun core => ?_
  obtain ⟨mode, registration, hcore⟩ := hf core
  rw [hcore]

theorem applyMode_backed (mode : WaitMode) :
    Action.Keeps (fun (c : Channel τ α (NoKind ω)) _ => c.Backed) (ChannelOps.applyMode mode) :=
  backed_of_layers (f := applyModeOf mode)
    (fun _ h _ => onConnection_backed Connection.applyMode_backed h)
    (fun _ h _ => onListener_backed Listener.applyMode_backed h) (fun _ _ _ _ _ h => h)

theorem accept_backed :
    Action.Keeps (fun (c : Channel τ α (NoKind ω)) _ => c.Backed) ChannelOps.accept :=
  backed_of_layers (f := acceptOf) (fun _ h _ => h)
    (fun _ h _ => by
      rw [acceptOf, Action.ends_bind]
      exact onListener_backed Listener.acceptConnection_backed h)
    (fun _ _ _ _ _ h => h)

/-- Whatever is done to a channel, it stays backed. -/
theorem perform_backed (op : ChannelOp) :
    Action.Keeps (fun (c : Channel τ α (NoKind ω)) _ => c.Backed) op.perform := by
  have hk : Connection.Outlasts fun (c : Connection τ) (_ : ω) => c.Backed :=
    Connection.backed_outlasts
  refine ChannelOps.perform_keeps applyMode_backed (fun _ _ _ hf h => h.retuned hf)
    (fun count opts => ?_) (fun data => ?_) ?_ ?_ ?_ op
  · exact backed_of_layers (f := readOf count opts)
      (fun _ h _ => onConnection_backed (hk.read (fun _ => Connection.applyMode_backed) count opts)
        h)
      (fun _ h _ => h) (fun _ _ _ _ _ h => h)
  · exact backed_of_layers (f := writeOf data)
      (fun _ h _ => onConnection_backed (hk.write data) h) (fun _ h _ => h) (fun _ _ _ _ _ h => h)
  · refine backed_of_layers (f := onReadOf) (fun _ h _ => onConnection_backed hk.onRead h)
      (fun _ h _ => h) fun _ _ _ s w h => ?_
    rw [onReadOf, Action.ends_bind]
    exact h.mono (fun _ c' w' h' => touch_backed c' w' h') (fun _ _ _ h' => h')
  · exact backed_of_layers (f := onWriteOf) (fun _ h _ => onConnection_backed hk.onWrite h)
      (fun _ h _ => h) (fun _ _ _ _ _ h => h)
  · exact backed_of_layers (f := closeOf) (fun _ h _ => onConnection_backed hk.close h)
      (fun _ h _ => onListener_backed Listener.close_backed h) (fun _ _ _ _ _ h => h)

theorem attach_backed {token : Token} :
    Action.Keeps (fun (c : Channel τ α (NoKind ω)) _ => c.Backed) (ChannelOps.attach token) :=
  ChannelOps.attach_keeps applyMode_backed fun _ _ _ hf h => h.retuned hf

theorem Handling.backed {c c' : Channel τ α (NoKind ω)} (h : c.Handling c') (hc : c.Backed) :
    c'.Backed := by
  cases h with
  | operate op _ h => exact (perform_backed op _ _ hc).leaves h
  | applyMode mode h => exact (applyMode_backed mode _ _ hc).leaves h
  | accept h => exact (accept_backed _ _ hc).leaves h
  | touch h => exact (touch_backed _ _ hc).leaves h

theorem Handled.backed {c c' : Channel τ α (NoKind ω)} (h : c.Handled c') (hc : c.Backed) :
    c'.Backed := by
  induction h with
  | refl => exact hc
  | tail _ hstep ih => exact hstep.backed ih

/-- The channel is backed, and records a normal mode. -/
structure Sound (c : Channel τ α (NoKind ω)) : Prop where
  backed : c.Backed
  normal : ChannelOps.IsNormal c

/-- What the program makes: connections and listeners, layers around channels, and what becomes of
channels by anything that can be done to them. -/
inductive Made : Channel τ α (NoKind ω) → Prop
  | connection {k : Connection τ} (h : k.Established) : Made (.connection k)
  | listener {l : Listener α} (h : l.Established) : Made (.listener l)
  | expiring {inner : Channel τ α (NoKind ω)} {last : Instant} {interval : Span} (h : Made inner) :
    Made (.expiring inner last interval)
  | handle {c c' : Channel τ α (NoKind ω)} (h : Made c) (hc : c.Handling c') : Made c'
  | detach {c c' : Channel τ α (NoKind ω)} {w w' : ω} (h : Made c)
    (hc : ChannelOps.detach.Leaves c w c' w') : Made c'

theorem Handling.sound {c c' : Channel τ α (NoKind ω)} (h : c.Handling c') (hc : c.Sound) :
    c'.Sound := by
  have hs : ChannelOps.Steady ω (Channel τ α (NoKind ω)) := steady (NoKind.steady ω)
  refine ⟨h.backed hc.backed, ?_⟩
  cases h with
  | operate op _ h => exact (hs.perform_normal op _ _ hc.normal).leaves h
  | applyMode mode h => exact ((hs.applyMode mode _ _).leaves h).normal hc.normal
  | accept h => exact ((hs.accept _ _).leaves h).normal hc.normal
  | touch h => exact ((touch_spares _ _).leaves h).normal hc.normal

/-- Every channel that the program makes is sound. -/
theorem Made.sound {c : Channel τ α (NoKind ω)} (h : c.Made) : c.Sound := by
  have hforever {c : Channel τ α (NoKind ω)} (h : ChannelOps.mode c = .forever) :
      ChannelOps.IsNormal c := by
    rw [ChannelOps.IsNormal, h]
    rfl
  induction h with
  | connection h => exact ⟨h.backed.2, hforever h.backed.1⟩
  | listener h => exact ⟨h.backed.2, hforever h.backed.1⟩
  | expiring _ ih => exact ⟨ih.backed, ih.normal⟩
  | handle _ hc ih => exact hc.sound ih
  | detach _ hc ih =>
    have hs : ChannelOps.Steady ω (Channel τ α (NoKind ω)) := steady (NoKind.steady ω)
    exact ⟨(perform_backed .detach _ _ ih.backed).leaves hc.andThen,
      (hs.perform_normal .detach _ _ ih.normal).leaves hc.andThen⟩

/-- The second channel is the first with what the setting of a mode made of the transport or the
acceptor below it. -/
inductive Sets (mode : WaitMode) (w w' : ω) :
    Channel τ α (NoKind ω) → Channel τ α (NoKind ω) → Prop
  | connection {k : Connection τ} {t t' : τ} (ht : k.transport = some t)
    (hset : Transport.setMode mode t w = .done () t' w') :
    Sets mode w w' (.connection k) (.connection { k with transport := some t' })
  | listener {l : Listener α} {a a' : α} (ha : l.acceptor = some a)
    (hset : Acceptor.setMode mode a w = .done () a' w') :
    Sets mode w w' (.listener l) (.listener { l with acceptor := some a' })
  | expiring {inner inner' : Channel τ α (NoKind ω)} {last : Instant} {interval : Span}
    (h : Sets mode w w' inner inner') :
    Sets mode w w' (.expiring inner last interval) (.expiring inner' last interval)

variable {c c' : Channel τ α (NoKind ω)} {mode : WaitMode} {w w' : ω}

theorem Sets.core (h : Sets mode w w' c c') : ChannelOps.core c' = ChannelOps.core c := by
  change c'.core = c.core
  induction h with
  | connection _ _ => rfl
  | listener _ _ => rfl
  | expiring _ ih => exact ih

/-- The setting of a mode is done, or else nothing is below the channel, which is not active. -/
theorem applyMode_total (htransport : Transport.Pliant ω τ) (hacceptor : Acceptor.Pliant ω α τ)
    (mode : WaitMode) (c : Channel τ α (NoKind ω)) (w : ω) :
    (∃ c' w', ChannelOps.applyMode mode c w = .done () c' w' ∧ Sets mode w w' c c') ∨
      ChannelOps.applyMode mode c w = .refused .closed c w ∧
        (c.Backed → ChannelOps.isActive c = false) := by
  change (∃ c' w', applyModeOf mode c c w = .done () c' w' ∧ Sets mode w w' c c') ∨
    applyModeOf mode c c w = .refused .closed c w ∧ (c.Backed → c.core.active = false)
  have hinactive {α : Type} {active : Bool} {below : Option α} (hn : below = none)
      (h : active = true → below.isSome = true) : active = false := by
    cases active with
    | false => rfl
    | true => exact absurd (h rfl) (by rw [hn]; exact Bool.false_ne_true)
  induction c with
  | connection k =>
    rw [applyModeOf, onConnection]
    cases ht : k.transport with
    | none =>
      rw [Connection.applyMode_refused ht]
      exact .inr ⟨rfl, fun h => hinactive ht h.active⟩
    | some t =>
      obtain ⟨t', w', hset⟩ := htransport mode t w
      rw [Connection.applyMode_done ht hset]
      exact .inl ⟨_, w', rfl, .connection ht hset⟩
  | listener l =>
    rw [applyModeOf, onListener]
    cases ha : l.acceptor with
    | none =>
      rw [Listener.applyMode_refused ha]
      exact .inr ⟨rfl, fun h => hinactive ha h⟩
    | some a =>
      obtain ⟨a', w', hset⟩ := hacceptor mode a w
      rw [Listener.applyMode_done ha hset]
      exact .inl ⟨_, w', rfl, .listener ha hset⟩
  | custom b => exact b.absurd
  | expiring inner last interval ih =>
    rw [applyModeOf, onInner]
    obtain ⟨inner', w', hx, hsets⟩ | ⟨hx, hidle⟩ := ih
    · rw [hx]
      exact .inl ⟨_, w', rfl, .expiring hsets⟩
    · rw [hx]
      exact .inr ⟨rfl, hidle⟩

/-- The second channel is the first as it leaves a reactor: with no registration, this mode, and
what the setting of that mode made of the transport or the acceptor below it. -/
def Restores (mode : WaitMode) (w w' : ω) (c c' : Channel τ α (NoKind ω)) : Prop :=
  Sets mode w w' (ChannelOps.mapCore (·.released mode) c) c'

theorem core_retuned (f : ChannelCore → ChannelCore) (c : Channel τ α (NoKind ω)) :
    ChannelOps.core (ChannelOps.mapCore f c) = f (ChannelOps.core c) :=
  (steady (NoKind.steady ω)).core_mapCore f c

theorem Restores.core (h : Restores mode w w' c c') :
    ChannelOps.core c' = { ChannelOps.core c with mode, registration := none } :=
  (Sets.core h).trans (core_retuned _ c)

/-- A channel can always leave its reactor, though it may not be able to set its mode. -/
theorem detach_total (htransport : Transport.Pliant ω τ) (hacceptor : Acceptor.Pliant ω α τ)
    (c : Channel τ α (NoKind ω)) (w : ω) : ∃ c' w', ChannelOps.detach.Leaves c w c' w' := by
  cases h : (ChannelOps.core c).registration with
  | none => exact ⟨c, w, .inl ⟨(), ChannelOps.detach_unregistered h⟩⟩
  | some registration =>
    unfold Action.Leaves
    rw [ChannelOps.detach_registered h rfl]
    split
    · obtain ⟨c', w', hx, -⟩ | ⟨hx, -⟩ := applyMode_total htransport hacceptor registration.prior
        (ChannelOps.mapCore (fun core => core.unregister.recordMode registration.prior) c) w
      · exact ⟨c', w', .inl ⟨(), hx⟩⟩
      · exact ⟨_, w, .inr ⟨_, hx⟩⟩
    · exact ⟨_, w, .inl ⟨(), rfl⟩⟩

/-- An active channel that leaves its reactor goes back to the mode it had. -/
theorem detach_restores (htransport : Transport.Pliant ω τ) (hacceptor : Acceptor.Pliant ω α τ)
    {registration : Registration} (hc : c.Backed) (hactive : ChannelOps.isActive c = true)
    (hregistration : (ChannelOps.core c).registration = some registration)
    (hnormal : registration.prior.normalized = registration.prior) (w : ω) :
    ∃ c' w', ChannelOps.detach c w = .done () c' w' ∧ Restores registration.prior w w' c c' := by
  have hreleased : (fun core : ChannelCore => core.unregister.recordMode registration.prior) =
      (·.released registration.prior) := by
    funext core
    rw [ChannelCore.recordMode, hnormal]
    rfl
  have hstays :
      ChannelOps.isActive (ChannelOps.mapCore (·.released registration.prior) c) = true := by
    rw [ChannelOps.isActive, core_retuned]
    exact hactive
  have hbacked : (ChannelOps.mapCore (·.released registration.prior) c).Backed :=
    hc.mapCore (·.released registration.prior) fun _ => rfl
  rw [ChannelOps.detach_registered hregistration rfl, hreleased, if_pos hstays]
  obtain ⟨c', w', hx, hsets⟩ | ⟨-, hidle⟩ := applyMode_total htransport hacceptor
    registration.prior (ChannelOps.mapCore (·.released registration.prior) c) w
  · exact ⟨c', w', hx, hsets⟩
  · exact Bool.noConfusion ((hidle hbacked).symm.trans hstays)

end Channel

end ChannelReactor
