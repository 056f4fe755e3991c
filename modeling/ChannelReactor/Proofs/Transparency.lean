import ChannelReactor.Channel.Kinds
import ChannelReactor.Proofs.Mirrors

/-! # Transparent wrappings

A channel in boxes and under layers that make it expire is used like the channel alone: every use
has the same result, leaves the machine in the same state, and leaves the channel as that use would
leave it without its wrappings. -/
namespace ChannelReactor

namespace Wrapped

open ChannelReactor.Action (Mirrors)

variable {ω ε χ ρ γ : Type}

/-- The channel in its wrappings. -/
def content : Wrapped χ → χ
  | plain c => c
  | boxed inner | expiring inner _ _ => inner.content

theorem under_apply (wrap : ρ → Wrapped χ) (own : ρ) (x : Action ω ε ρ γ) (s : Wrapped χ) (w : ω) :
    under wrap own x s w = (x own w).map id wrap := by
  unfold under
  cases x own w <;> rfl

/-- What is done under a wrapping is what is done inside. -/
theorem under_mirrors {wrap : ρ → Wrapped χ} {x : Action ω ε ρ γ}
    {f : Wrapped χ → Action ω ε (Wrapped χ) γ} (h : ∀ own, f (wrap own) = under wrap own x) :
    Mirrors id wrap x (do f (← Action.subject)) := by
  intro own w
  change _ = f (wrap own) (wrap own) w
  rw [h, under_apply]

/-- An operation that a layer makes anew is no other than what the boxes pass on, when making it
anew outside a box is the same as making it anew inside. -/
theorem remade_eq {x : Action ω ε χ γ} {anew : Action ω ε (Wrapped χ) γ}
    (hplain : Mirrors id plain x anew) (hboxed : Mirrors id boxed anew anew) :
    (do remade x anew (← Action.subject)) = anew := by
  funext c w
  change remade x anew c c w = anew c w
  induction c with
  | plain c =>
    rw [remade, under_apply]
    exact hplain c w
  | boxed inner ih =>
    rw [remade, under_apply, ih]
    exact hboxed inner w
  | expiring inner last interval => rfl

/-- The view takes a channel out of its boxes, and for a layer around it has one of its own. -/
structure Unwraps (view : Wrapped χ → χ) (layer : Instant → Span → χ → χ) : Prop where
  plain : ∀ c, view (.plain c) = c
  boxed : ∀ inner, view (.boxed inner) = view inner
  expiring : ∀ inner last interval,
    view (.expiring inner last interval) = layer last interval (view inner)

namespace Unwraps

variable {view : Wrapped χ → χ} {layer : Instant → Span → χ → χ}

/-- What is not asked of the layers of the view is asked of what is inside. -/
theorem asked (h : Unwraps view layer) {query : χ → γ}
    (hlayer : ∀ last interval c, query (layer last interval c) = query c) (c : Wrapped χ) :
    query (view c) = c.asked query := by
  induction c with
  | plain c => exact congrArg query (h.plain c)
  | boxed inner ih => exact (congrArg query (h.boxed inner)).trans ih
  | expiring inner last interval ih =>
    rw [h.expiring, hlayer]
    exact ih

/-- What is done inside the layers of the view is passed on. -/
theorem passed (h : Unwraps view layer) {x : Action ω ε χ γ}
    (hlayer : ∀ last interval, Mirrors id (layer last interval) x x) :
    Mirrors id view (do Wrapped.passed x (← Action.subject)) x := by
  intro c w
  change (Wrapped.passed x c c w).map id view = _
  induction c with
  | plain c =>
    rw [Wrapped.passed, under_apply, Outcome.map_map, h.plain,
      show view ∘ Wrapped.plain = id from funext h.plain]
    exact Outcome.map_id _
  | boxed inner ih =>
    rw [Wrapped.passed, under_apply, Outcome.map_map, h.boxed,
      show view ∘ Wrapped.boxed = view from funext h.boxed]
    exact ih
  | expiring inner last interval ih =>
    rw [Wrapped.passed, under_apply, Outcome.map_map, h.expiring, ← hlayer, ← ih, Outcome.map_map]
    exact congrArg (Outcome.map id · _) (funext fun inner => h.expiring inner last interval)

variable [ChannelOps ω χ]

theorem mapCore (h : Unwraps view layer)
    (hlayer : ∀ f last interval c,
      layer last interval (ChannelOps.mapCore f c) = ChannelOps.mapCore f (layer last interval c))
    (f : ChannelCore → ChannelCore) (c : Wrapped χ) :
    view (c.mapCore f) = ChannelOps.mapCore f (view c) := by
  induction c with
  | plain c => rw [Wrapped.mapCore, h.plain, h.plain]
  | boxed inner ih => rw [Wrapped.mapCore, h.boxed, h.boxed, ih]
  | expiring inner last interval ih => rw [Wrapped.mapCore, h.expiring, h.expiring, ih, hlayer]

theorem accept [Machine ω] (h : Unwraps view layer)
    (hlayer : ∀ last interval, Mirrors id (layer last interval) (ChannelOps.accept (χ := χ))
      ChannelOps.accept) :
    Mirrors (Accepted.map view) view (ChannelOps.accept (χ := Wrapped χ)) ChannelOps.accept := by
  have hx : Mirrors (Accepted.map view) view
      ((do Wrapped.passed ChannelOps.accept (← Action.subject)) >>= fun accepted =>
        pure ⟨Wrapped.plain accepted.channel, accepted.peer⟩) (ChannelOps.accept >>= pure) := by
    refine (h.passed hlayer).bind fun accepted => ?_
    have hview : Accepted.map view ⟨.plain accepted.channel, accepted.peer⟩ = accepted := by
      rw [Accepted.map, h.plain]
    exact fun _ _ => congrArg (Outcome.done · _ _) hview
  rw [bind_pure] at hx
  exact hx

end Unwraps

variable [ChannelOps ω χ] [Machine ω]

theorem content_unwraps : Unwraps (content (χ := χ)) fun _ _ c => c where
  plain _ := rfl
  boxed _ := rfl
  expiring _ _ _ := rfl

/-- That the layers note the time of a read shows nowhere inside. -/
theorem onRead_content (c : Wrapped χ) (w : ω) :
    (onReadOf c c w).map id content = ChannelOps.onRead c.content w := by
  induction c with
  | plain c =>
    rw [onReadOf, under_apply, Outcome.map_map]
    exact Outcome.map_id _
  | boxed inner ih =>
    rw [onReadOf, under_apply, Outcome.map_map]
    exact ih
  | expiring inner last interval ih =>
    rw [onReadOf, Action.bind_apply, under_apply]
    change _ = ChannelOps.onRead inner.content w
    rw [← ih]
    cases onReadOf inner inner w <;> rfl

/-- A wrapped channel is transparent for what is in it. -/
theorem content_transparent : Transparent (content (χ := χ)) where
  core := content_unwraps.asked fun _ _ _ => rfl
  mapCore := content_unwraps.mapCore fun _ _ _ _ => rfl
  descriptor := content_unwraps.asked fun _ _ _ => rfl
  isWritePending := content_unwraps.asked fun _ _ _ => rfl
  isListening := content_unwraps.asked fun _ _ _ => rfl
  applyMode _ := content_unwraps.passed fun _ _ => .refl _
  read _ _ := content_unwraps.passed fun _ _ => .refl _
  write _ := content_unwraps.passed fun _ _ => .refl _
  onRead := onRead_content
  onWrite := content_unwraps.passed fun _ _ => .refl _
  close := content_unwraps.passed fun _ _ => .refl _
  accept := content_unwraps.accept fun _ _ => .refl _

theorem plain_sharesCore : SharesCore (plain (χ := χ)) where
  core _ := rfl
  mapCore _ _ := rfl
  applyMode _ := under_mirrors fun _ => rfl

theorem boxed_sharesCore : SharesCore (boxed (χ := χ)) where
  core _ := rfl
  mapCore _ _ := rfl
  applyMode _ := under_mirrors fun _ => rfl

theorem setMode_eq (mode : WaitMode) :
    setMode (χ := χ) mode = ChannelOps.setMode mode :=
  remade_eq (plain_sharesCore.setMode mode) (boxed_sharesCore.setMode mode)

theorem attach_eq (token : Token) : attach (χ := χ) token = ChannelOps.attach token :=
  remade_eq (plain_sharesCore.attach token) (boxed_sharesCore.attach token)

theorem detach_eq : detach (χ := χ) = ChannelOps.detach :=
  remade_eq plain_sharesCore.detach boxed_sharesCore.detach

theorem label_eq : label (χ := χ) = ChannelOps.label :=
  funext fun c => (content_unwraps.asked (fun _ _ _ => rfl) c).symm.trans
    (congrArg ChannelCore.label (content_transparent.core c))

/-- The way that a change of the mode or the registration takes through the wrappings makes no
difference. -/
theorem operate_eq : operate (χ := χ) = ChannelOp.perform := by
  funext op
  cases op with
  | setMode mode => rw [operate, setMode_eq, ChannelOp.perform]
  | attach token => rw [operate, attach_eq, ChannelOp.perform]
  | detach => rw [operate, detach_eq, ChannelOp.perform]
  | _ => rfl

theorem perform_eq : perform (χ := χ) = ChannelUse.perform := by
  rw [perform, operate_eq, label_eq, ChannelUse.perform]

end Wrapped

namespace Channel

open ChannelReactor.Action (Mirrors)

variable {ω ε τ α β γ δ : Type}

/-- The channel without the layers that make it expire. -/
def bare : Channel τ α β → Channel τ α β
  | expiring inner _ _ => inner.bare
  | c => c

theorem onConnection_bare (k : Connection τ) (x : Action ω ε (Connection τ) γ)
    (s : Channel τ α β) (w : ω) : (onConnection k x s w).map id bare = onConnection k x s w := by
  unfold onConnection
  cases x k w <;> rfl

theorem onListener_bare (l : Listener α) (x : Action ω ε (Listener α) γ) (s : Channel τ α β)
    (w : ω) : (onListener l x s w).map id bare = onListener l x s w := by
  unfold onListener
  cases x l w <;> rfl

theorem onCustom_bare (b : β) (x : Action ω ε β γ) (s : Channel τ α β) (w : ω) :
    (onCustom b x s w).map id bare = onCustom b x s w := by
  unfold onCustom
  cases x b w <;> rfl

theorem onInner_bare (inner : Channel τ α β) (last : Instant) (interval : Span)
    (x : Action ω ε (Channel τ α β) γ) (value : γ → δ) (s : Channel τ α β) (w : ω) :
    (onInner inner last interval x s w).map value bare = (x inner w).map value bare := by
  unfold onInner
  cases x inner w <;> rfl

/-- What leaves a bare channel bare, and does in a layer what it does inside, does the same to a
channel and to the bare one. -/
theorem bare_mirrors {f : Channel τ α β → Action ω ε (Channel τ α β) γ} {value : γ → γ}
    (hconnection : ∀ k w, (f (.connection k) (.connection k) w).map value bare =
      f (.connection k) (.connection k) w)
    (hlistener : ∀ l w, (f (.listener l) (.listener l) w).map value bare =
      f (.listener l) (.listener l) w)
    (hcustom : ∀ b w, (f (.custom b) (.custom b) w).map value bare = f (.custom b) (.custom b) w)
    (hlayer : ∀ inner last interval w,
      (f (.expiring inner last interval) (.expiring inner last interval) w).map value bare =
        (f inner inner w).map value bare) :
    Mirrors value bare (do f (← Action.subject)) (do f (← Action.subject)) := by
  intro c w
  change (f c c w).map value bare = f c.bare c.bare w
  induction c with
  | connection k => exact hconnection k w
  | listener l => exact hlistener l w
  | custom b => exact hcustom b w
  | expiring inner last interval ih => exact (hlayer inner last interval w).trans ih

theorem onConnection_mirrors {x : Action ω ε (Connection τ) γ}
    {f : Channel τ α β → Action ω ε (Channel τ α β) γ}
    (h : ∀ k, f (.connection k) = onConnection k x) :
    Mirrors id connection x (do f (← Action.subject)) := by
  intro k w
  change _ = f (.connection k) (.connection k) w
  rw [h]
  unfold onConnection
  cases x k w <;> rfl

section

variable [ChannelOps ω β]

theorem core_bare (c : Channel τ α β) : c.bare.core = c.core := by
  induction c with
  | expiring inner last interval ih => exact ih
  | _ => rfl

theorem mapCore_bare (f : ChannelCore → ChannelCore) (c : Channel τ α β) :
    (c.mapCore f).bare = c.bare.mapCore f := by
  induction c with
  | expiring inner last interval ih => exact ih
  | _ => rfl

theorem isListening_bare (c : Channel τ α β) : c.bare.isListening = c.isListening := by
  induction c with
  | expiring inner last interval ih => exact ih
  | _ => rfl

end

section

variable [Transport ω τ] [ChannelOps ω β]

theorem isWritePending_bare (c : Channel τ α β) : c.bare.isWritePending = c.isWritePending := by
  induction c with
  | expiring inner last interval ih => exact ih
  | _ => rfl

/-- That the layers note the time of a read does not show without them. -/
theorem onReadOf_layer [Machine ω] (inner : Channel τ α β) (last : Instant) (interval : Span)
    (w : ω) :
    (onReadOf (.expiring inner last interval) (.expiring inner last interval) w).map id bare =
      (onReadOf inner inner w).map id bare := by
  rw [onReadOf, Action.bind_apply]
  unfold onInner
  cases onReadOf inner inner w <;> rfl

variable [Acceptor ω α τ]

theorem descriptor_bare (c : Channel τ α β) : c.bare.descriptor = c.descriptor := by
  induction c with
  | expiring inner last interval ih => exact ih
  | _ => rfl

theorem acceptOf_listener (l : Listener α) (w : ω) :
    (acceptOf (τ := τ) (β := β) (.listener l) (.listener l) w).map (Accepted.map bare) bare =
      acceptOf (.listener l) (.listener l) w := by
  rw [acceptOf, Action.bind_apply]
  unfold onListener
  cases Listener.acceptConnection l w <;> rfl

theorem acceptOf_custom (b : β) (w : ω) :
    (acceptOf (τ := τ) (α := α) (.custom b) (.custom b) w).map (Accepted.map bare) bare =
      acceptOf (.custom b) (.custom b) w := by
  rw [acceptOf, Action.bind_apply]
  unfold onCustom
  cases ChannelOps.accept b w <;> rfl

variable [Machine ω]

/-- A channel is transparent for the one without its layers. -/
theorem bare_transparent : Transparent (bare (τ := τ) (α := α) (β := β)) where
  core := core_bare
  mapCore := mapCore_bare
  descriptor := descriptor_bare
  isWritePending := isWritePending_bare
  isListening := isListening_bare
  applyMode _ := bare_mirrors (fun _ _ => onConnection_bare ..) (fun _ _ => onListener_bare ..)
    (fun _ _ => onCustom_bare ..) fun _ _ _ _ => onInner_bare ..
  read _ _ := bare_mirrors (fun _ _ => onConnection_bare ..) (fun _ _ => rfl)
    (fun _ _ => onCustom_bare ..) fun _ _ _ _ => onInner_bare ..
  write _ := bare_mirrors (fun _ _ => onConnection_bare ..) (fun _ _ => rfl)
    (fun _ _ => onCustom_bare ..) fun _ _ _ _ => onInner_bare ..
  onRead := bare_mirrors (fun _ _ => onConnection_bare ..) (fun _ _ => rfl)
    (fun _ _ => onCustom_bare ..) onReadOf_layer
  onWrite := bare_mirrors (fun _ _ => onConnection_bare ..) (fun _ _ => rfl)
    (fun _ _ => onCustom_bare ..) fun _ _ _ _ => onInner_bare ..
  close := bare_mirrors (fun _ _ => onConnection_bare ..) (fun _ _ => onListener_bare ..)
    (fun _ _ => onCustom_bare ..) fun _ _ _ _ => onInner_bare ..
  accept := bare_mirrors (fun _ _ => rfl) acceptOf_listener acceptOf_custom
    fun _ _ _ _ => onInner_bare ..

/-- A connection is the same channel whether it is one of several kinds or of its own. -/
theorem connection_transparent :
    Transparent (connection : Connection τ → Channel τ α β) where
  core _ := rfl
  mapCore _ _ := rfl
  descriptor _ := rfl
  isWritePending _ := rfl
  isListening _ := rfl
  applyMode _ := onConnection_mirrors fun _ => rfl
  read _ _ := onConnection_mirrors fun _ => rfl
  write _ := onConnection_mirrors fun _ => rfl
  onRead := onConnection_mirrors fun _ => rfl
  onWrite := onConnection_mirrors fun _ => rfl
  close := onConnection_mirrors fun _ => rfl
  accept _ _ := rfl

end

end Channel

namespace Wrapped

open ChannelReactor.Action (Mirrors)

variable {ω ε τ α β γ : Type}

/-- The running channel for one in wrappings: its layers are the same, and there are no boxes. -/
def flat : Wrapped (Channel τ α β) → Channel τ α β
  | plain c => c
  | boxed inner => inner.flat
  | expiring inner last interval => .expiring inner.flat last interval

/-- An operation that a layer of a running channel passes on. -/
theorem onInner_mirrors {f : Channel τ α β → Action ω ε (Channel τ α β) γ} {last : Instant}
    {interval : Span} (h : ∀ inner,
      f (.expiring inner last interval) = Channel.onInner inner last interval (f inner)) :
    Mirrors id (Channel.expiring · last interval) (do f (← Action.subject))
      (do f (← Action.subject)) := by
  intro inner w
  change _ = f (.expiring inner last interval) (.expiring inner last interval) w
  rw [h, Channel.onInner]
  change (f inner inner w).map id _ = _
  cases f inner inner w <;> rfl

theorem flat_unwraps :
    Unwraps (flat (τ := τ) (α := α) (β := β)) fun last interval c => .expiring c last interval where
  plain _ := rfl
  boxed _ := rfl
  expiring _ _ _ := rfl

variable [Machine ω] [Transport ω τ] [Acceptor ω α τ] [ChannelOps ω β]

theorem onRead_flat (c : Wrapped (Channel τ α β)) (w : ω) :
    (onReadOf c c w).map id flat = ChannelOps.onRead c.flat w := by
  induction c with
  | plain c =>
    rw [onReadOf, under_apply, Outcome.map_map]
    exact Outcome.map_id _
  | boxed inner ih =>
    rw [onReadOf, under_apply, Outcome.map_map]
    exact ih
  | expiring inner last interval ih =>
    change _ = Channel.onReadOf (.expiring inner.flat last interval) _ w
    change _ = Channel.onReadOf inner.flat inner.flat w at ih
    rw [onReadOf, Action.bind_apply, under_apply, Channel.onReadOf, Action.bind_apply,
      Channel.onInner, ← ih]
    cases onReadOf inner inner w <;> rfl

/-- A box is no more than what is in it: a channel in wrappings is the running channel with its
layers. -/
theorem flat_transparent : Transparent (flat (τ := τ) (α := α) (β := β)) where
  core := flat_unwraps.asked fun _ _ _ => rfl
  mapCore := flat_unwraps.mapCore fun _ _ _ _ => rfl
  descriptor := flat_unwraps.asked fun _ _ _ => rfl
  isWritePending := flat_unwraps.asked fun _ _ _ => rfl
  isListening := flat_unwraps.asked fun _ _ _ => rfl
  applyMode _ := flat_unwraps.passed fun _ _ => onInner_mirrors fun _ => rfl
  read _ _ := flat_unwraps.passed fun _ _ => onInner_mirrors fun _ => rfl
  write _ := flat_unwraps.passed fun _ _ => onInner_mirrors fun _ => rfl
  onRead := onRead_flat
  onWrite := flat_unwraps.passed fun _ _ => onInner_mirrors fun _ => rfl
  close := flat_unwraps.passed fun _ _ => onInner_mirrors fun _ => rfl
  accept := flat_unwraps.accept fun _ _ => onInner_mirrors fun _ => rfl

end Wrapped

namespace ChannelUse

variable {ω χ τ α β : Type} [Machine ω] [ChannelOps ω χ] [Transport ω τ] [Acceptor ω α τ]
  [ChannelOps ω β]

/-- Uses of a channel in boxes and under layers, in any order and any number, end one by one like
the same uses of the channel alone: with the same result, the same machine and the same channel
inside. This is so for channels of any kind, and for a running channel, which keeps its layers when
it is taken out of its boxes; a running channel is used like the one without its layers, and one
that is a connection like the connection. -/
theorem trail_unwrapped :
    (∀ (uses : List ChannelUse) (c : Wrapped χ) (w : ω),
      (Action.trail Wrapped.perform uses c w).map
          (·.map (ChannelAnswer.map Wrapped.content) Wrapped.content) =
        Action.trail perform uses c.content w) ∧
    (∀ (uses : List ChannelUse) (c : Wrapped (Channel τ α β)) (w : ω),
      (Action.trail Wrapped.perform uses c w).map
          (·.map (ChannelAnswer.map Wrapped.flat) Wrapped.flat) =
        Action.trail perform uses c.flat w) ∧
    (∀ (uses : List ChannelUse) (c : Channel τ α β) (w : ω),
      (Action.trail perform uses c w).map (·.map (ChannelAnswer.map Channel.bare) Channel.bare) =
        Action.trail perform uses c.bare w) ∧
    ∀ (uses : List ChannelUse) (k : Connection τ) (w : ω),
      (Action.trail perform uses k w).map
          (·.map (ChannelAnswer.map Channel.connection) Channel.connection) =
        Action.trail perform uses (Channel.connection k : Channel τ α β) w := by
  refine ⟨?_, ?_, ?_, ?_⟩
  · rw [Wrapped.perform_eq]
    exact Action.trail_mirrors Wrapped.content_transparent.perform
  · rw [Wrapped.perform_eq]
    exact Action.trail_mirrors Wrapped.flat_transparent.perform
  · exact Action.trail_mirrors Channel.bare_transparent.perform
  · exact Action.trail_mirrors Channel.connection_transparent.perform

end ChannelUse

end ChannelReactor
