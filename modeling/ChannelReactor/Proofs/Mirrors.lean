import ChannelReactor.Channel.Wrapped
import ChannelReactor.Proofs.Sessions

/-! # Channels that mirror each other

A channel of one kind may be the view of a channel of another. The view is transparent when what a
kind decides does the same to both; all other operations and queries then do the same as well, in
any order. Both work on the same machine, whatever it is: one that keeps a record of the calls on
its transports has the same record after both. -/
namespace ChannelReactor

/-- The outcome in another view of its value and its subject. -/
def Outcome.map {ω ε σ ρ α β : Type} (value : α → β) (view : σ → ρ) :
    Outcome ω ε σ α → Outcome ω ε ρ β
  | done a s w => .done (value a) (view s) w
  | refused e s w => .refused e (view s) w
  | halted h w => .halted h w

theorem Outcome.map_id {ω ε σ α : Type} (x : Outcome ω ε σ α) : x.map id id = x := by
  cases x <;> rfl

theorem Outcome.map_map {ω ε σ ρ π α β γ : Type} {value : α → β} {value' : β → γ} {view : σ → ρ}
    {view' : ρ → π} (x : Outcome ω ε σ α) :
    (x.map value view).map value' view' = x.map (value' ∘ value) (view' ∘ view) := by
  cases x <;> rfl

/-- One use after another, each on what the one before left, with all their outcomes. The last is
that of the use that halted, if one does. -/
def Action.trail {ω ε σ υ α : Type} (use : υ → Action ω ε σ α) :
    List υ → σ → ω → List (Outcome ω ε σ α)
  | [], _, _ => []
  | u :: rest, s, w =>
    use u s w ::
      match use u s w with
      | .done _ s w | .refused _ s w => trail use rest s w
      | .halted _ _ => []

def Accepted.map {χ ρ : Type} (view : χ → ρ) (accepted : Accepted χ) : Accepted ρ :=
  ⟨view accepted.channel, accepted.peer⟩

/-- What the queries of a channel answer, all but whether it has expired. -/
structure ChannelSight where
  core : ChannelCore
  status : ChannelStatus
  label : String
  token : Option Token
  descriptor : Except ChannelError Int

/-- A use of a channel. To look at it is to ask all its queries. -/
inductive ChannelUse where
  | operate (op : ChannelOp)
  | accept
  | look

/-- What a use of a channel answers. -/
inductive ChannelAnswer (χ : Type) where
  | bytes (data : Bytes)
  | accepted (accepted : Accepted χ)
  | sight (sight : ChannelSight)

def ChannelAnswer.map {χ ρ : Type} (view : χ → ρ) : ChannelAnswer χ → ChannelAnswer ρ
  | bytes data => bytes data
  | accepted a => accepted (a.map view)
  | sight s => sight s

/-- What is seen of a channel whose kind has this label for it. -/
def ChannelOps.sight {ω χ : Type} [ChannelOps ω χ] (label : χ → String) (c : χ) : ChannelSight where
  core := ChannelOps.core c
  status := ChannelOps.status c
  label := label c
  token := ChannelOps.token? c
  descriptor := ChannelOps.descriptor c

namespace ChannelUse

variable {ω χ : Type} [ChannelOps ω χ]

/-- A use of a channel whose kind has these operations and this label. -/
def performBy (operate : ChannelOp → Action ω ChannelError χ Bytes) (label : χ → String) :
    ChannelUse → Action ω ChannelError χ (ChannelAnswer χ)
  | .operate op => do pure (.bytes (← operate op))
  | accept => do pure (.accepted (← ChannelOps.accept))
  | look => do pure (.sight (ChannelOps.sight label (← Action.subject)))

/-- A use of a channel of any kind. -/
def perform : ChannelUse → Action ω ChannelError χ (ChannelAnswer χ) :=
  performBy ChannelOp.perform ChannelOps.label

end ChannelUse

namespace Wrapped

variable {ω χ : Type} [Machine ω] [ChannelOps ω χ]

/-- An operation on a wrapped channel. The changes of its mode and its registration take their own
way through the wrappings. -/
def operate : ChannelOp → Action ω ChannelError (Wrapped χ) Bytes
  | .setMode mode => do
    setMode mode
    pure []
  | .attach token => do
    attach token
    pure []
  | .detach => do
    detach
    pure []
  | op => op.perform

/-- A use of a wrapped channel. -/
def perform : ChannelUse → Action ω ChannelError (Wrapped χ) (ChannelAnswer (Wrapped χ)) :=
  ChannelUse.performBy operate label

end Wrapped

namespace Action

variable {ω ε ε' σ ρ α β γ δ : Type}

/-- The first action does to a subject what the second does to the view of it. -/
def Mirrors (value : α → β) (view : σ → ρ) (x : Action ω ε σ α) (y : Action ω ε ρ β) : Prop :=
  ∀ s w, (x s w).map value view = y (view s) w

variable {value : α → β} {value' : γ → δ} {view : σ → ρ}

theorem Mirrors.refl (x : Action ω ε σ α) : Mirrors id id x x := fun s w => Outcome.map_id (x s w)

theorem Mirrors.trans {π : Type} {value' : β → γ} {view' : ρ → π} {x : Action ω ε σ α}
    {y : Action ω ε ρ β} {z : Action ω ε π γ} (h : Mirrors value view x y)
    (h' : Mirrors value' view' y z) : Mirrors (value' ∘ value) (view' ∘ view) x z := fun s w => by
  rw [← Outcome.map_map, h s w, h' (view s) w, Function.comp_apply]

theorem mirrors_pure (a : α) :
    Mirrors value view (pure a : Action ω ε σ α) (pure (value a)) := fun _ _ => rfl

theorem mirrors_subject : Mirrors view view (subject : Action ω ε σ σ) subject := fun _ _ => rfl

theorem mirrors_refuse (e : ε) :
    Mirrors value view (refuse e : Action ω ε σ α) (refuse e) := fun _ _ => rfl

theorem mirrors_update {f : σ → σ} {g : ρ → ρ} (h : ∀ s, view (f s) = g (view s)) :
    Mirrors id view (update f : Action ω ε σ Unit) (update g) := fun s w => by
  rw [update_apply, update_apply, Outcome.map, h]

theorem Mirrors.bind {x : Action ω ε σ α} {y : Action ω ε ρ β} {f : α → Action ω ε σ γ}
    {g : β → Action ω ε ρ δ} (h : Mirrors value view x y)
    (hf : ∀ a, Mirrors value' view (f a) (g (value a))) :
    Mirrors value' view (x >>= f) (y >>= g) := by
  intro s w
  rw [bind_apply, bind_apply, ← h s w]
  cases x s w with
  | done a s' w' => exact hf a s' w'
  | refused e s' w' => rfl
  | halted halt w' => rfl

theorem Mirrors.attempt {x : Action ω ε σ α} {y : Action ω ε ρ α} (h : Mirrors id view x y) :
    Mirrors id view (attempt x : Action ω ε' σ (Except ε α)) (attempt y) := by
  intro s w
  unfold Action.attempt
  rw [← h s w]
  cases x s w <;> rfl

theorem Mirrors.mapReason {x : Action ω ε σ α} {y : Action ω ε ρ β} (f : ε → ε')
    (h : Mirrors value view x y) : Mirrors value view (x.mapReason f) (y.mapReason f) := by
  intro s w
  unfold Action.mapReason
  rw [← h s w]
  cases x s w <;> rfl

theorem Mirrors.ends {x : Action ω ε σ α} {y : Action ω ε ρ β} {s : σ} {w : ω}
    {Q : β → ρ → ω → Prop} {R : ε → ρ → ω → Prop} (h : Mirrors value view x y)
    (hy : y.Ends (view s) w Q R) :
    x.Ends s w (fun a s' w' => Q (value a) (view s') w') (fun e s' w' => R e (view s') w') := by
  unfold Ends at hy ⊢
  rw [← h s w] at hy
  cases hx : x s w <;> rw [hx] at hy <;> exact hy

/-- What answers in the view answers so itself. -/
theorem Mirrors.answers {x : Action ω ε σ α} {y : Action ω ε ρ α} {s : σ} {r : ρ} {w w' : ω}
    {answer : Except ε α} (h : Mirrors id view x y) (hy : y.Answers (view s) w answer r w') :
    ∃ s', x.Answers s w answer s' w' ∧ view s' = r := by
  unfold Answers at hy ⊢
  rw [← h s w] at hy
  cases hx : x s w <;> rw [hx] at hy <;> cases answer <;> cases hy <;> exact ⟨_, rfl, rfl⟩

/-- Uses that mirror each other do so in any order. -/
theorem trail_mirrors {υ : Type} {use : υ → Action ω ε σ α} {use' : υ → Action ω ε ρ β}
    (h : ∀ u, Mirrors value view (use u) (use' u)) :
    ∀ (uses : List υ) (s : σ) (w : ω),
      (trail use uses s w).map (·.map value view) = trail use' uses (view s) w
  | [], _, _ => rfl
  | u :: rest, s, w => by
    rw [trail, trail, List.map_cons, ← h u s w]
    cases use u s w with
    | done a s' w' => exact congrArg _ (trail_mirrors h rest s' w')
    | refused e s' w' => exact congrArg _ (trail_mirrors h rest s' w')
    | halted halt w' => rfl

end Action

/-- A channel of one kind shares its core with its view in another kind, and they take a mode in
the same way. -/
structure SharesCore {ω χ ρ : Type} [ChannelOps ω χ] [ChannelOps ω ρ] (view : χ → ρ) : Prop where
  core : ∀ c, ChannelOps.core (view c) = ChannelOps.core c
  mapCore : ∀ f c, view (ChannelOps.mapCore f c) = ChannelOps.mapCore f (view c)
  applyMode : ∀ mode, Action.Mirrors id view (ChannelOps.applyMode (χ := χ) mode)
    (ChannelOps.applyMode mode)

/-- A channel of one kind does what its view in another kind does: the operations that the kinds
decide mirror each other. -/
structure Transparent {ω χ ρ : Type} [ChannelOps ω χ] [ChannelOps ω ρ] (view : χ → ρ) : Prop
    extends SharesCore view where
  descriptor : ∀ c, ChannelOps.descriptor (view c) = ChannelOps.descriptor c
  isWritePending : ∀ c, ChannelOps.isWritePending (view c) = ChannelOps.isWritePending c
  isListening : ∀ c, ChannelOps.isListening (view c) = ChannelOps.isListening c
  read : ∀ count opts, Action.Mirrors id view (ChannelOps.read (χ := χ) count opts)
    (ChannelOps.read count opts)
  write : ∀ data, Action.Mirrors id view (ChannelOps.write (χ := χ) data) (ChannelOps.write data)
  onRead : Action.Mirrors id view (ChannelOps.onRead (χ := χ)) ChannelOps.onRead
  onWrite : Action.Mirrors id view (ChannelOps.onWrite (χ := χ)) ChannelOps.onWrite
  close : Action.Mirrors id view (ChannelOps.close (χ := χ)) ChannelOps.close
  accept : Action.Mirrors (Accepted.map view) view (ChannelOps.accept (χ := χ)) ChannelOps.accept

section

open ChannelReactor.Action (Mirrors)

variable {ω χ ρ π : Type} [ChannelOps ω χ] [ChannelOps ω ρ] [ChannelOps ω π] {view : χ → ρ}
variable {view' : ρ → π}

namespace SharesCore

theorem trans (h : SharesCore view) (h' : SharesCore view') : SharesCore (view' ∘ view) where
  core c := (h'.core (view c)).trans (h.core c)
  mapCore f c := (congrArg view' (h.mapCore f c)).trans (h'.mapCore f (view c))
  applyMode mode := (h.applyMode mode).trans (h'.applyMode mode)

theorem isRegistered (h : SharesCore view) (c : χ) :
    ChannelOps.isRegistered (view c) = ChannelOps.isRegistered c := by
  rw [ChannelOps.isRegistered, h.core, ChannelOps.isRegistered]

theorem isActive (h : SharesCore view) (c : χ) :
    ChannelOps.isActive (view c) = ChannelOps.isActive c := by
  rw [ChannelOps.isActive, h.core, ChannelOps.isActive]

theorem update (h : SharesCore view) (f : ChannelCore → ChannelCore) :
    Mirrors id view (Action.update (ChannelOps.mapCore f) : Action ω ChannelError χ Unit)
      (Action.update (ChannelOps.mapCore f)) :=
  Action.mirrors_update (h.mapCore f)

theorem setMode (h : SharesCore view) (mode : WaitMode) :
    Mirrors id view (ChannelOps.setMode (χ := χ) mode) (ChannelOps.setMode mode) := by
  refine Action.mirrors_subject.bind fun c => ?_
  rw [h.isRegistered]
  split
  · exact Action.mirrors_refuse _
  · exact (h.applyMode _).bind fun _ => h.update _

theorem attach (h : SharesCore view) (token : Token) :
    Mirrors id view (ChannelOps.attach (χ := χ) token) (ChannelOps.attach token) := by
  refine Action.mirrors_subject.bind fun c => ?_
  rw [h.isRegistered]
  split
  · exact Action.mirrors_refuse _
  · refine (h.applyMode _).bind fun _ => ?_
    rw [ChannelOps.mode, ChannelOps.mode, h.core]
    exact h.update _

theorem detach (h : SharesCore view) :
    Mirrors id view (ChannelOps.detach (χ := χ)) ChannelOps.detach := by
  refine Action.mirrors_subject.bind fun c => ?_
  rw [h.core]
  cases (ChannelOps.core c).registration with
  | none => exact Action.mirrors_pure ()
  | some registration =>
    refine (h.update _).bind fun _ => Action.mirrors_subject.bind fun c' => ?_
    rw [h.isActive]
    split
    · exact h.applyMode _
    · exact Action.mirrors_pure ()

end SharesCore

namespace Transparent

/-- A view of a view. -/
theorem trans (h : Transparent view) (h' : Transparent view') : Transparent (view' ∘ view) where
  toSharesCore := h.toSharesCore.trans h'.toSharesCore
  descriptor c := (h'.descriptor (view c)).trans (h.descriptor c)
  isWritePending c := (h'.isWritePending (view c)).trans (h.isWritePending c)
  isListening c := (h'.isListening (view c)).trans (h.isListening c)
  read count opts := (h.read count opts).trans (h'.read count opts)
  write data := (h.write data).trans (h'.write data)
  onRead := h.onRead.trans h'.onRead
  onWrite := h.onWrite.trans h'.onWrite
  close := h.close.trans h'.close
  accept := h.accept.trans h'.accept

theorem sight (h : Transparent view) (c : χ) :
    ChannelOps.sight ChannelOps.label (view c) = ChannelOps.sight ChannelOps.label c := by
  simp only [ChannelOps.sight, ChannelOps.status, ChannelOps.isActive, ChannelOps.buffered,
    ChannelOps.mode, ChannelOps.isRegistered, ChannelOps.label, ChannelOps.token?, h.core,
    h.descriptor, h.isWritePending, h.isListening]

theorem operate (h : Transparent view) (op : ChannelOp) :
    Mirrors id view (op.perform (χ := χ)) op.perform := by
  have hdone : ∀ {x : Action ω ChannelError χ Unit} {y : Action ω ChannelError ρ Unit},
      Mirrors id view x y → Mirrors id view (do x; pure ([] : Bytes)) (do y; pure []) :=
    fun hx => hx.bind fun _ => Action.mirrors_pure _
  cases op with
  | write data => exact hdone (h.write data)
  | read count opts => exact h.read count opts
  | onRead => exact hdone h.onRead
  | onWrite => exact hdone h.onWrite
  | setMode mode => exact hdone (h.toSharesCore.setMode mode)
  | attach token => exact hdone (h.toSharesCore.attach token)
  | detach => exact hdone h.toSharesCore.detach
  | close => exact hdone (h.close.mapReason _)

theorem perform (h : Transparent view) (use : ChannelUse) :
    Mirrors (ChannelAnswer.map view) view (use.perform (χ := χ)) use.perform := by
  cases use with
  | operate op => exact (h.operate op).bind fun _ => Action.mirrors_pure _
  | accept => exact h.accept.bind fun _ => Action.mirrors_pure _
  | look =>
    refine Action.mirrors_subject.bind fun c => ?_
    rw [h.sight]
    exact Action.mirrors_pure (ChannelAnswer.sight _)

end Transparent

end

end ChannelReactor
