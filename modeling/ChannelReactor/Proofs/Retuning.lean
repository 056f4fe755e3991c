import ChannelReactor.Channel.Basic
import ChannelReactor.Proofs.Ends

/-! # Modes and registrations

What the operations that change a channel's mode or registration keep, for channels of any kind:
whatever the setting of a mode keeps and the recording of one. -/
namespace ChannelReactor

/-- The change is one of the mode and the registration. -/
def ChannelCore.Retunes (f : ChannelCore → ChannelCore) : Prop :=
  ∀ core, ∃ mode registration, f core = { core with mode, registration }

namespace ChannelOps

variable {ω χ : Type} [ChannelOps ω χ] {I : χ → ω → Prop}

theorem setMode_keeps {mode : WaitMode}
    (happly : ∀ mode, Action.Keeps I (applyMode mode : Action ω ChannelError χ Unit))
    (hcore : ∀ f c w, ChannelCore.Retunes f → I c w → I (mapCore f c) w) :
    Action.Keeps I (setMode mode : Action ω ChannelError χ Unit) := by
  refine Action.keeps_subject.bind fun c => ?_
  split
  · exact Action.keeps_refuse
  · exact (happly _).bind fun _ => Action.keeps_update fun c w hc =>
      hcore _ c w (fun core => ⟨_, core.registration, rfl⟩) hc

theorem attach_keeps {token : Token}
    (happly : ∀ mode, Action.Keeps I (applyMode mode : Action ω ChannelError χ Unit))
    (hcore : ∀ f c w, ChannelCore.Retunes f → I c w → I (mapCore f c) w) :
    Action.Keeps I (attach token : Action ω ChannelError χ Unit) := by
  refine Action.keeps_subject.bind fun c => ?_
  split
  · exact Action.keeps_refuse
  · exact (happly _).bind fun _ => Action.keeps_update fun c w hc =>
      hcore _ c w (fun core => ⟨_, _, rfl⟩) hc

theorem detach_keeps
    (happly : ∀ mode, Action.Keeps I (applyMode mode : Action ω ChannelError χ Unit))
    (hcore : ∀ f c w, ChannelCore.Retunes f → I c w → I (mapCore f c) w) :
    Action.Keeps I (detach : Action ω ChannelError χ Unit) := by
  refine Action.keeps_subject.bind fun c => ?_
  split
  · exact Action.keeps_pure
  · refine Action.Keeps.bind (Action.keeps_update fun c w hc => hcore _ c w
      (fun core => ⟨_, _, rfl⟩) hc) fun _ => Action.keeps_subject.bind fun c => ?_
    split
    · exact happly _
    · exact Action.keeps_pure

section

variable {c : χ} {w : ω} {Q : Unit → χ → ω → Prop} {R : ChannelError → χ → ω → Prop}

/-- A channel without a registration joins a reactor when it can be set not to wait. -/
theorem attach_ends {token : Token}
    (hregistered : isRegistered c = true → R (.misuse .alreadyRegistered) c w)
    (happly : isRegistered c = false → (applyMode .nonblocking).Ends c w
      (fun _ c' w' => Q () (mapCore (·.register token (mode c)) c') w') R) :
    (attach token).Ends c w Q R := by
  rw [attach, Action.ends_bind, Action.ends_subject]
  split
  · rename_i h
    exact hregistered h
  · rename_i h
    rw [Action.ends_bind]
    exact (happly (Bool.eq_false_iff.mpr h)).mono (fun _ _ _ h' => h') (fun _ _ _ h' => h')

theorem detach_unregistered (h : (core c).registration = none) : detach c w = .done () c w := by
  rw [detach, Action.bind_apply, Action.subject_apply]
  dsimp only
  rw [h]
  rfl

/-- A registered channel goes back to its mode as far as its core goes, and sets that mode below if
it is active. -/
theorem detach_registered {registration : Registration}
    (h : (core c).registration = some registration) {c₁ : χ}
    (hc₁ : c₁ = mapCore (fun core => core.unregister.recordMode registration.prior) c) :
    detach c w =
      if isActive c₁ = true then applyMode registration.prior c₁ w else .done () c₁ w := by
  subst hc₁
  rw [detach, Action.bind_apply, Action.subject_apply]
  dsimp only
  rw [h]
  dsimp only
  rw [Action.bind_apply, Action.update_apply]
  dsimp only
  rw [Action.bind_apply, Action.subject_apply]
  dsimp only
  split <;> rfl

end

end ChannelOps

end ChannelReactor
