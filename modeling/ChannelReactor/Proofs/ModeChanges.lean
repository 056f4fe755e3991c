import ChannelReactor.Proofs.Attunement
import ChannelReactor.Proofs.Backing
import ChannelReactor.Proofs.Retuning
import ChannelReactor.Proofs.Transparency

/-! # Changes of the mode that are refused

A change of mode, joining a reactor and leaving it set the mode of what is below the channel, which
may refuse. The first two set it before they record anything, so a refusal leaves the channel as it
was. Leaving a reactor records first: when it is refused the channel is out of the reactor and
records its old mode, which nothing was set to (`mode_changes_refused`). -/
namespace ChannelReactor

variable {ω δ τ α β χ : Type}

/-- `modeOf` tells which mode a device is in: the one that was set last. A mode that cannot be set
leaves the device in the mode it had. -/
structure Heeds (setMode : WaitMode → Action ω IoError δ Unit) (modeOf : δ → ω → WaitMode) :
    Prop where
  done : ∀ {mode : WaitMode} {d d' : δ} {w w' : ω}, setMode mode d w = .done () d' w' →
    modeOf d' w' = mode
  refused : ∀ {mode : WaitMode} {d d' : δ} {w w' : ω} {e : IoError},
    setMode mode d w = .refused e d' w' → modeOf d' w' = modeOf d w

/-- The mode that the record tells of a device, which waits without end when none was set. -/
def Recorded.modeOf (d : Recorded δ) (w : Recorder ω) : WaitMode :=
  (lastMode d.device w.calls).getD .forever

/-- A record of the calls tells the mode of a device, whatever the device is. -/
theorem Recorded.heeds (setMode : WaitMode → Action ω IoError δ Unit) :
    Heeds (fun mode => Recorded.call (.setMode mode) (setMode mode)) Recorded.modeOf := by
  have hends (mode : WaitMode) (d : Recorded δ) (w : Recorder ω) :
      (Recorded.call (.setMode mode) (setMode mode)).Ends d w
        (fun _ d' w' => Recorded.modeOf d' w' = mode)
        (fun _ d' w' => Recorded.modeOf d' w' = Recorded.modeOf d w) :=
    Recorded.call_ends
      (fun _ d' w' hd hw => by rw [modeOf, hd, hw, lastMode_append_single]; rfl)
      (fun _ d' w' hd hw => by rw [modeOf, hd, hw, lastMode_append_single]; rfl)
  exact ⟨fun h => (hends _ _ _).done h, fun h => (hends _ _ _).refused h⟩

namespace ChannelOps

variable [ChannelOps ω χ]

/-- `below` tells the mode of what is below a channel. Setting that mode changes nothing of the
channel's core, and changing the core nothing of what is below. -/
structure Governs (below : χ → ω → Option WaitMode) : Prop where
  core_mapCore : ∀ f (c : χ), core (mapCore f c) = f (core c)
  below_mapCore : ∀ f (c : χ) w, below (mapCore f c) w = below c w
  applyMode : ∀ mode (c : χ) w, (applyMode mode).Ends c w
    (fun _ c' w' => core c' = core c ∧ below c' w' = some mode)
    (fun _ c' w' => core c' = core c ∧ below c' w' = below c w)

variable {below : χ → ω → Option WaitMode} {c c' : χ} {w w' : ω}

/-- What is below an active channel is in the mode that the channel records; an empty span means the
same as not waiting. -/
def Agrees (below : χ → ω → Option WaitMode) (c : χ) (w : ω) : Prop :=
  isActive c = true → (below c w).map WaitMode.normalized = some (mode c).normalized

/-- The channel and the mode of what is below are as they were: the buffers, the activity, the
registration and the recorded mode. -/
structure Unchanged (below : χ → ω → Option WaitMode) (c : χ) (w : ω) (c' : χ) (w' : ω) : Prop where
  core : core c' = core c
  device : below c' w' = below c w

/-- What a channel is after it could not go back to the mode it had before its reactor: it has left
the reactor and records that mode, and what is below is in the mode that it was in. -/
structure HalfDetached (below : χ → ω → Option WaitMode) (c : χ) (w : ω) (c' : χ) (w' : ω)
    (registration : Registration) : Prop where
  registered : (ChannelOps.core c).registration = some registration
  active : isActive c = true
  core : ChannelOps.core c' =
    { ChannelOps.core c with registration := none, mode := registration.prior.normalized }
  device : below c' w' = below c w
  /-- The channel and what is below part just if the modes do. -/
  agrees : Agrees below c w →
    (Agrees below c' w' ↔ registration.prior.normalized = (mode c).normalized)

/-- The channel agrees with what is below when it is done, and changes nothing when it is refused. -/
def AllOrNothing (below : χ → ω → Option WaitMode) (x : Action ω ChannelError χ Unit) (c : χ)
    (w : ω) : Prop :=
  x.Ends c w (fun _ c' w' => Agrees below c' w') (fun _ c' w' => Unchanged below c w c' w')

theorem Governs.setMode (h : Governs below) (mode : WaitMode) :
    AllOrNothing below (setMode mode) c w := by
  rw [AllOrNothing, ChannelOps.setMode, Action.ends_bind, Action.ends_subject]
  split
  · exact ⟨rfl, rfl⟩
  · rw [Action.ends_bind]
    refine (h.applyMode mode.normalized c w).mono (fun _ c' w' hx => ?_)
      (fun _ c' w' hx => ⟨hx.1, hx.2⟩)
    intro _
    rw [h.below_mapCore, hx.2, ChannelOps.mode, h.core_mapCore]
    simp [ChannelCore.recordMode]

theorem Governs.attach (h : Governs below) (token : Token) :
    AllOrNothing below (attach token) c w := by
  refine attach_ends (fun _ => ⟨rfl, rfl⟩) fun _ =>
    (h.applyMode .nonblocking c w).mono (fun _ c' w' hx => ?_) (fun _ c' w' hx => ⟨hx.1, hx.2⟩)
  intro _
  rw [h.below_mapCore, hx.2, mode, h.core_mapCore]
  rfl

theorem Governs.detach (h : Governs below) :
    (detach : Action ω ChannelError χ Unit).Ends c w
      (fun _ c' w' => Agrees below c w → Agrees below c' w')
      (fun _ c' w' => ∃ registration, HalfDetached below c w c' w' registration) := by
  cases hr : (core c).registration with
  | none =>
    unfold Action.Ends
    rw [detach_unregistered hr]
    exact id
  | some registration =>
    generalize hleft : mapCore (fun core => core.unregister.recordMode registration.prior) c = left
    have hcore : core left =
        { core c with registration := none, mode := registration.prior.normalized } := by
      rw [← hleft, h.core_mapCore]
      rfl
    have hactive : isActive left = isActive c := by rw [isActive, hcore, isActive]
    have hbelow : below left w = below c w := by rw [← hleft, h.below_mapCore]
    have hdetach := detach_registered (w := w) hr hleft.symm
    unfold Action.Ends
    rw [hdetach]
    by_cases ha : isActive left = true
    · rw [if_pos ha]
      change (ChannelOps.applyMode registration.prior).Ends left w _ _
      refine (h.applyMode registration.prior left w).mono (fun _ c' w' hx => ?_)
        (fun e c' w' hx => ⟨registration, hr, hactive ▸ ha, hx.1.trans hcore, hx.2.trans hbelow, ?_⟩)
      · intro _ _
        rw [hx.2, mode, hx.1, hcore]
        simp
      · intro hagrees
        have hmode : mode c' = registration.prior.normalized := by rw [mode, hx.1, hcore]
        have ha' : isActive c' = true := by rw [← ha, isActive, isActive, hx.1]
        rw [Agrees, hx.2, hbelow, hagrees (hactive ▸ ha), hmode]
        simp [ha', eq_comm]
    · rw [if_neg ha]
      intro _ ha'
      exact absurd ha' ha

end ChannelOps

namespace Channel

/-- The mode of the transport or the acceptor below a channel, if it has one. -/
def modeBelow (ofTransport : τ → ω → WaitMode) (ofAcceptor : α → ω → WaitMode) :
    Channel τ α (NoKind ω) → ω → Option WaitMode
  | connection k, w => k.transport.map (ofTransport · w)
  | listener l, w => l.acceptor.map (ofAcceptor · w)
  | custom b, _ => b.absurd
  | expiring inner _ _, w => inner.modeBelow ofTransport ofAcceptor w

variable {ofTransport : τ → ω → WaitMode} {ofAcceptor : α → ω → WaitMode}
variable [Transport ω τ] [Acceptor ω α τ]

theorem applyModeOf_governed (ht : Heeds (ω := ω) Transport.setMode ofTransport)
    (ha : Heeds (ω := ω) Acceptor.setMode ofAcceptor) (mode : WaitMode) (w : ω) :
    ∀ (c s : Channel τ α (NoKind ω)), (applyModeOf mode c).Ends s w
      (fun _ c' w' => c'.core = c.core ∧ c'.modeBelow ofTransport ofAcceptor w' = some mode)
      (fun _ c' w' => c'.core = c.core ∧ c'.modeBelow ofTransport ofAcceptor w' =
        c.modeBelow ofTransport ofAcceptor w)
  | .connection k, s => by
    rw [applyModeOf, onConnection_ends, Connection.applyMode, Connection.callTransport,
      Action.ends_bind]
    unfold Action.Ends Connection.onTransport
    cases hk : k.transport with
    | none => exact ⟨rfl, rfl⟩
    | some t =>
      dsimp only
      cases hx : Transport.setMode mode t w with
      | done _ t' w' => exact ⟨rfl, congrArg some (ht.done hx)⟩
      | refused e t' w' =>
        refine ⟨rfl, ?_⟩
        rw [modeBelow, modeBelow, hk]
        exact congrArg some (ht.refused hx)
      | halted _ _ => trivial
  | .listener l, s => by
    rw [applyModeOf, onListener_ends, Listener.applyMode, Action.ends_bind]
    unfold Action.Ends Listener.onAcceptor
    cases hl : l.acceptor with
    | none => exact ⟨rfl, rfl⟩
    | some a =>
      dsimp only
      cases hx : Acceptor.setMode mode a w with
      | done _ a' w' => exact ⟨rfl, congrArg some (ha.done hx)⟩
      | refused e a' w' =>
        refine ⟨rfl, ?_⟩
        rw [modeBelow, modeBelow, hl]
        exact congrArg some (ha.refused hx)
      | halted _ _ => trivial
  | .custom b, _ => b.absurd
  | .expiring inner last interval, s => by
    rw [applyModeOf, onInner_ends]
    exact applyModeOf_governed ht ha mode w inner inner

theorem governs [Machine ω] (ht : Heeds (ω := ω) Transport.setMode ofTransport)
    (ha : Heeds (ω := ω) Acceptor.setMode ofAcceptor) :
    ChannelOps.Governs (modeBelow (τ := τ) ofTransport ofAcceptor) where
  core_mapCore := core_retuned
  below_mapCore f c w := by
    change (c.mapCore f).modeBelow ofTransport ofAcceptor w = _
    induction c with
    | connection k | listener l => rfl
    | custom b => exact b.absurd
    | expiring inner last interval ih => exact ih
  applyMode mode c w := applyModeOf_governed ht ha mode w c c

end Channel

namespace Wrapped

variable [Machine ω] [ChannelOps ω χ] {below : χ → ω → Option WaitMode}

/-- The mode of what is below the channel in its wrappings. -/
def modeBelow (below : χ → ω → Option WaitMode) (c : Wrapped χ) (w : ω) : Option WaitMode :=
  below c.content w

theorem governs (h : ChannelOps.Governs below) : ChannelOps.Governs (modeBelow below) where
  core_mapCore f c := by
    rw [← content_transparent.core, ← content_transparent.core, content_transparent.mapCore]
    exact h.core_mapCore f c.content
  below_mapCore f c w := by
    rw [modeBelow, content_transparent.mapCore]
    exact h.below_mapCore f c.content w
  applyMode mode c w := by
    refine ((content_transparent.applyMode mode).ends (h.applyMode mode c.content w)).mono
      (fun _ c' w' hx => ?_) (fun _ c' w' hx => ?_)
    all_goals
      rw [content_transparent.core, content_transparent.core] at hx
      exact hx

variable {τ α : Type} [Transport ω τ] [Acceptor ω α τ]
variable {ofTransport : τ → ω → WaitMode} {ofAcceptor : α → ω → WaitMode}

/-- A mode that is set, by itself or on joining a reactor, is the mode of the device, and a refusal
to set it changes nothing. A channel that leaves its reactor keeps in step with its device when it
gets its old mode back; when that is refused it has left all the same, and records the old mode
while the device stays in the other. -/
theorem mode_changes_refused (htransport : Heeds (ω := ω) Transport.setMode ofTransport)
    (hacceptor : Heeds (ω := ω) Acceptor.setMode ofAcceptor)
    (c : Wrapped (Channel τ α (NoKind ω))) (w : ω) :
    let below := modeBelow (Channel.modeBelow ofTransport ofAcceptor)
    (∀ mode, ChannelOps.AllOrNothing below (setMode mode) c w) ∧
    (∀ token, ChannelOps.AllOrNothing below (attach token) c w) ∧
    detach.Ends c w
      (fun _ c' w' => ChannelOps.Agrees below c w → ChannelOps.Agrees below c' w')
      (fun _ c' w' => ∃ registration, ChannelOps.HalfDetached below c w c' w' registration) := by
  have h := governs (Channel.governs htransport hacceptor)
  rw [detach_eq]
  exact ⟨fun mode => setMode_eq (χ := Channel τ α (NoKind ω)) mode ▸ h.setMode mode,
    fun token => attach_eq (χ := Channel τ α (NoKind ω)) token ▸ h.attach token, h.detach⟩

/-- A channel in a box and a layer, over a wire whose mode can be set once and then no more. -/
def stuckChannel : Wrapped (Channel (Recorded Scenario.Wire) (Recorded Scenario.Gate)
    (NoKind (Recorder Scenario.Bench))) :=
  .boxed (.expiring (.plain (.connection
    { core := .new .forever "stuck"
      transport := some ⟨0, { name := "stuck", script.modeResults := [none, some (.failure "x")] }⟩
      chunk := 4
      policy := .plain })) .start ⟨10⟩)

/-- The channel joins a reactor and cannot leave it whole: it waits without end over a wire that
does not wait. -/
theorem mode_changes_refused_stuckChannel :
    let below := modeBelow (Channel.modeBelow Recorded.modeOf Recorded.modeOf)
    ∃ c w e c' w', attach ⟨1, none⟩ stuckChannel (.start {}) = .done () c w ∧
      detach c w = .refused e c' w' ∧
      (ChannelOps.isActive c' = true ∧ ChannelOps.mode c' = .forever ∧
        below c' w' = some .nonblocking) ∧
      ∃ registration, ChannelOps.HalfDetached below c w c' w' registration :=
  ⟨_, _, _, _, _, rfl, rfl, ⟨rfl, rfl, rfl⟩,
    (mode_changes_refused (Recorded.heeds _) (Recorded.heeds _) _ _).2.2.refused rfl⟩

end Wrapped

end ChannelReactor
