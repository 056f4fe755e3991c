import ChannelReactor.Proofs.FinalEvictions
import ChannelReactor.Proofs.Registrations
import ChannelReactor.Proofs.Strides

/-! # Prompt channels

A channel that joins a reactor waits no more, and refuses another mode for as long as it is
registered. Whatever the application and the owner use the channels of a reactor for, each of them
is prompt wherever the reactor is in an iteration: if it still has its registration, it does not
wait. -/
namespace ChannelReactor

variable {ω ε η χ α : Type}

namespace ChannelOps

variable [ChannelOps ω χ] {c c' : χ}

/-- As long as it is registered, the channel does not wait. -/
def Prompt (c : χ) : Prop := isRegistered c = true → mode c = .nonblocking

theorem Prompt.of_unregistered (h : isRegistered c = false) : Prompt c := fun hr => by
  rw [h] at hr
  cases hr

theorem Prompt.alike (h : Prompt c) (ha : Alike c c') : Prompt c' := fun hr =>
  ha.core.mode.trans (h (ha.registered.symm.trans hr))

theorem Spares.prompt {x : Action ω ε χ α} (hx : Spares x) :
    Action.Keeps (fun c _ => Prompt c) x := fun c w h =>
  (hx c w).mono (fun _ _ _ ha => h.alike ha) (fun _ _ _ ha => h.alike ha)

theorem Steady.isRegistered_mapCore (hs : Steady ω χ) (f : ChannelCore → ChannelCore) (c : χ) :
    isRegistered (mapCore f c) = (f (core c)).isRegistered := by
  rw [isRegistered, hs.core_mapCore]

/-- Only a channel without a registration takes another mode. -/
theorem Steady.setMode_prompt (hs : Steady ω χ) (mode : WaitMode) :
    Action.Keeps (fun c _ => Prompt c) (setMode mode : Action ω ChannelError χ Unit) := by
  intro c w h
  rw [setMode, Action.ends_bind, Action.ends_subject]
  split
  · exact h
  · rename_i hr
    rw [Action.ends_bind]
    refine (hs.applyMode _ c w).mono (fun _ c' w' ha => ?_) (fun _ _ _ ha => h.alike ha)
    refine Prompt.of_unregistered ?_
    rw [hs.isRegistered_mapCore]
    exact ha.registered.trans (Bool.eq_false_iff.mpr hr)

/-- A channel is registered in the mode that does not wait. -/
theorem Steady.attach_prompt (hs : Steady ω χ) (token : Token) :
    Action.Keeps (fun c _ => Prompt c)
      (ChannelOps.attach token : Action ω ChannelError χ Unit) := by
  intro c w h
  refine attach_ends (fun _ => h) fun _ =>
    (hs.applyMode .nonblocking c w).mono (fun _ c' _ _ _ => ?_) (fun _ _ _ ha => h.alike ha)
  rw [mode, hs.core_mapCore]
  rfl

/-- A channel that left its reactor is prompt in any mode. -/
theorem Steady.detach_prompt (hs : Steady ω χ) :
    Action.Keeps (fun c _ => Prompt c) (detach : Action ω ChannelError χ Unit) := by
  intro c w h
  rw [detach, Action.ends_bind, Action.ends_subject]
  split
  · exact h
  · rename_i registration _
    rw [Action.ends_bind, Action.ends_update, Action.ends_bind, Action.ends_subject]
    have hleft : Prompt
        (mapCore (fun core => core.unregister.recordMode registration.prior) c) :=
      .of_unregistered (hs.isRegistered_mapCore _ c)
    split
    · exact (hs.applyMode registration.prior).prompt _ w hleft
    · exact hleft

theorem Steady.perform_prompt (hs : Steady ω χ) (op : ChannelOp) :
    Action.Keeps (fun c _ => Prompt c) (op.perform (χ := χ)) := by
  cases op with
  | write data => exact (hs.write data).prompt.bind fun _ => Action.keeps_pure
  | read count opts => exact (hs.read count opts).prompt
  | onRead => exact hs.onRead.prompt.bind fun _ => Action.keeps_pure
  | onWrite => exact hs.onWrite.prompt.bind fun _ => Action.keeps_pure
  | setMode mode => exact (hs.setMode_prompt mode).bind fun _ => Action.keeps_pure
  | attach token => exact (hs.attach_prompt token).bind fun _ => Action.keeps_pure
  | detach => exact hs.detach_prompt.bind fun _ => Action.keeps_pure
  | close => exact hs.close.prompt.sure.bind fun _ => Action.keeps_pure

/-- No use of a channel makes it wait while it is registered. -/
theorem Prompt.used (hs : Steady ω χ) (h : Prompt c) (hu : Used c c') : Prompt c' :=
  hu.keeps hs.perform_prompt hs.accept.prompt h

end ChannelOps

namespace Reactor

variable [ChannelOps ω χ] {V : χ → χ → Prop}

/-- What is true of every channel that is attached, and kept by what `V` allows, is true of all
channels of a reactor if it was. -/
theorem entries_sustained {P : χ → Prop} (hV : ∀ {c c' : χ}, V c c' → P c → P c')
    (hattach : ∀ {token : Token} {c c' : χ} {w w' : ω},
      ChannelOps.attach token c w = .done () c' w' → P c') :
    Sustains V fun r : Reactor η χ => ∀ side, ∀ e ∈ r.entries side, P e.channel where
  desk desk h side e he := h side e (by rwa [entries_withDesk] at he)
  count _ h side e he := h side e (by rwa [entries_count] at he)
  put hx hv h side e he := by
    rcases mem_entries_put he with hold | ⟨-, e', he', rfl⟩
    · exact h side e hold
    · cases hx.symm.trans he'
      exact hV hv (h _ _ (List.mem_of_getElem? hx))
  without h side e he := h side e (mem_entries_without he)
  enroll hx h side e he := by
    rcases mem_entries_enrolled he with hold | ⟨-, rfl⟩
    · exact h side e hold
    · exact hattach hx

section

variable [Machine ω] [Hooks ω η χ] {I : Reactor η χ → Prop} {p q : Reactor η χ × ω}

/-- What the elementary changes and all counts keep, every stride keeps. -/
theorem Sustains.stride (hI : Sustains V I) (hW : Conducts η V)
    (hcounts : ∀ {r : Reactor η χ} (f : ReactorStats → ReactorStats), I r → I (r.count f))
    (hp : I p.1) (h : Stride p q) : I q.1 := by
  -- A callback that is done and the hook that is told of it.
  have htold {r : Reactor η χ} {index : Nat} {e : Entry χ} {c₁ c₂ : χ} {desk : Desk η χ} (hr : I r)
      (he : (r.entries .client)[index]? = some e) (hc : V e.channel c₁) (hh : V c₁ c₂) :
      I ((r.put .client index c₂).withDesk desk) := by
    have hput := hI.put (entry_put he c₁) hh (hI.put he hc hr)
    rw [put_put] at hput
    exact hI.desk desk hput
  have hregister {r r' : Reactor η χ} {c : χ} {w w' : ω} (hr : I r)
      (hx : (Reactor.register c).Leaves r w r' w') : I r' := (hI.register r w hr).leaves hx
  cases h with
  | elapse _ => exact hp
  | @fetch r _ _ _ _ rest _ hx =>
    exact hregister (hcounts _ (hI.desk ⟨r.hooks, { r.mailbox with queue := rest }⟩ hp)) hx
  | write he hc hh => exact htold hp he (hW.write (.inl ⟨_, hc⟩)) (hW.writable hh)
  | read he hc hh => exact htold hp he (hW.read (.inl ⟨_, hc⟩)) (hW.readable hh)
  | welcome he hc _ hx =>
    exact hregister (hI.desk _ (hcounts _ (hI.put he (hW.accept (.inl ⟨_, hc⟩)) hp))) hx
  | decline he hc _ =>
    exact hcounts _ (hI.desk _ (hcounts _ (hI.put he (hW.accept (.inl ⟨_, hc⟩)) hp)))
  | refuse he hx =>
    refine hI.put he ?_ hp
    cases hx with
    | write hx => exact hW.write (.inr ⟨_, hx⟩)
    | read hx => exact hW.read (.inr ⟨_, hx⟩)
    | accept hx => exact hW.accept (.inr ⟨_, hx⟩)
  | pollFailed => exact hcounts _ hp
  | evict _ _ _ => exact hI.desk _ (hcounts _ (hI.without hp))

/-- So does an iteration, up to any stride of it. -/
theorem Sustains.iterates (hI : Sustains V I) (hW : Conducts η V)
    (hcounts : ∀ {r : Reactor η χ} (f : ReactorStats → ReactorStats), I r → I (r.count f))
    (hp : I p.1) (h : Iterates p q) : I q.1 := by
  obtain ⟨⟨begun, w⟩, ⟨desk, -, rfl : begun = _⟩, hstrides⟩ := h
  exact hstrides.keeps (I := fun r _ => I r)
    (fun hr hstride => hI.stride hW hcounts hr hstride) (hI.desk desk (hcounts _ hp))

end

end Reactor

/-- Wherever a reactor is in an iteration, after any commands that use its channels, a channel that
it has waits for nothing as long as it is registered. -/
theorem Estate.channels_prompt [Machine ω] [ChannelOps ω χ] [Hooks ω η χ]
    (hs : ChannelOps.Steady ω χ) (hhooks : Hooks.Uses ω η χ) {serial : Nat}
    {settings : ReactorSettings} {hooks : η} {machine : ω} {s₀ s : Estate ω η χ}
    (hfounded : founded serial settings hooks machine = some s₀)
    (commands : List (Command ω η χ))
    (hcommands : ∀ command ∈ commands, command.Within ChannelOps.Used)
    (hplay : s₀.play commands = some s) {p : Reactor (Watched η χ) χ × ω}
    (hiterates : Reactor.Iterates (s.reactor, s.machine) p) {side : Side} {e : Entry χ}
    (he : e ∈ p.1.entries side) : ChannelOps.Prompt e.channel := by
  have hsustained {η' : Type} : Reactor.Sustains ChannelOps.Used
      fun r : Reactor η' χ => ∀ side, ∀ e ∈ r.entries side, ChannelOps.Prompt e.channel :=
    Reactor.entries_sustained (fun hu hc => hc.used hs hu) fun hx _ => (hs.attach hx).1
  have hcounts {r : Reactor (Watched η χ) χ} (f : ReactorStats → ReactorStats)
      (hr : ∀ side, ∀ e ∈ r.entries side, ChannelOps.Prompt e.channel) :
      ∀ side, ∀ e ∈ (r.count f).entries side, ChannelOps.Prompt e.channel := fun side e he =>
    hr side e (by rwa [Reactor.entries_count] at he)
  have hnone : ∀ side, ∀ e ∈ s₀.reactor.entries side, ChannelOps.Prompt e.channel := by
    intro side e he
    rw [founded_eq hfounded] at he
    cases side <;> exact absurd he List.not_mem_nil
  exact hsustained.iterates hhooks.conducts.watched hcounts
    (play_sustains hsustained hhooks.conducts hcounts commands hcommands hnone hplay) hiterates
    side e he

end ChannelReactor
