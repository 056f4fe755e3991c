import ChannelReactor.Proofs.ConnectionEnds
import ChannelReactor.Proofs.Operations

/-! # What endures sending and receiving

A connection sends, receives and flushes without setting a mode, and changes its core without
changing its mode or registration or becoming active. What is true of a connection through every
such call and change endures its functions, whatever the transport answers; a wait with a deadline
alone also sets modes, and what is to endure that has to endure them too. -/
namespace ChannelReactor

variable {ω ε τ α β : Type}

/-- The mode that a call set. -/
def Call.mode? : Call → Option WaitMode
  | setMode mode (.ok ()) => some mode
  | _ => none

/-- The change leaves the mode and the registration, and activates nothing. -/
structure ChannelCore.Spares (f : ChannelCore → ChannelCore) : Prop where
  mode : ∀ core, (f core).mode = core.mode
  registration : ∀ core, (f core).registration = core.registration
  inactive : ∀ core, core.active = false → (f core).active = false

namespace ChannelCore

theorem spares_deactivate : Spares deactivate := ⟨fun _ => rfl, fun _ => rfl, fun _ _ => rfl⟩

theorem spares_receive (data : Bytes) : Spares (receive · data) :=
  ⟨fun _ => rfl, fun _ => rfl, fun _ h => h⟩

theorem spares_enqueue (data : Bytes) : Spares (enqueue · data) :=
  ⟨fun _ => rfl, fun _ => rfl, fun _ h => h⟩

theorem spares_sent (n : Nat) : Spares (sent · n) := ⟨fun _ => rfl, fun _ => rfl, fun _ h => h⟩

theorem spares_dropOutput : Spares dropOutput := ⟨fun _ => rfl, fun _ => rfl, fun _ h => h⟩

theorem spares_input (input : ByteQueue) : Spares fun core => { core with input } :=
  ⟨fun _ => rfl, fun _ => rfl, fun _ h => h⟩

end ChannelCore

namespace Connection

/-- What every call on the transport keeps that sets no mode, and every change of the core that
spares its mode. -/
structure Endures [Transport ω τ] (I : Connection τ → ω → Prop) : Prop where
  call : ∀ {c : Connection τ} {t t' : τ} {w w' : ω} {call : Call}, I c w →
    c.transport = some t → call.Made t w t' w' → call.mode? = none →
    I { c with transport := some t' } w'
  core : ∀ {c : Connection τ} {w : ω} {f : ChannelCore → ChannelCore}, ChannelCore.Spares f →
    I c w → I (c.mapCore f) w

/-- What also endures the end of a connection: that it begins to linger, and that it parts with its
transport. -/
structure Outlasts [Transport ω τ] (I : Connection τ → ω → Prop) : Prop extends Endures I where
  linger : ∀ {c : Connection τ} {w : ω}, I c w → c.core.active = false →
    I { c with lingering := true } w
  part : ∀ {c : Connection τ} {w : ω}, I c w → c.lingering = true ∨ c.core.active = false →
    I { c with lingering := false, transport := none } w

theorem ensureActive_keeps {I : Connection τ → ω → Prop} :
    Action.Keeps I (ensureActive : Action ω ChannelError (Connection τ) Unit) :=
  Action.keeps_subject.bind fun _ => Action.keeps_ofExcept

namespace Endures

open ChannelReactor.Action

variable [Transport ω τ] {I : Connection τ → ω → Prop}

/-- What endures, endures of an inactive connection. -/
theorem inactive (hI : Endures I) :
    Endures fun (c : Connection τ) w => I c w ∧ c.core.active = false where
  call h ht hm hmode := ⟨hI.call h.1 ht hm hmode, h.2⟩
  core hf h := ⟨hI.core hf h.1, hf.inactive _ h.2⟩

theorem update (hI : Endures I) {f : ChannelCore → ChannelCore} (hf : ChannelCore.Spares f) :
    Keeps I (Action.update (mapCore f) : Action ω ε (Connection τ) Unit) :=
  keeps_update fun _ _ h => hI.core hf h

/-- A call on the transport that sets no mode. -/
theorem onTransport (hI : Endures I) {x : Action ω IoError τ β} (toCall : Except IoError β → Call)
    (hmade : ∀ {t t' : τ} {w w' : ω} {answer : Except IoError β}, x.Answers t w answer t' w' →
      (toCall answer).Made t w t' w' ∧ (toCall answer).mode? = none) :
    Keeps I (onTransport x) := by
  intro c w h
  refine onTransport_answers (fun t t' w' answer ht hx => ?_) (fun _ => h)
  exact hI.call h ht (hmade hx).1 (hmade hx).2

theorem fail (hI : Endures I) {e : IoError} :
    Keeps I (Connection.fail e : Action ω ChannelError (Connection τ) α) :=
  (hI.update ChannelCore.spares_deactivate).bind fun _ => keeps_refuse

theorem receiveOnce (hI : Endures I) : Keeps I (receiveOnce (τ := τ)) := by
  refine keeps_subject.bind fun c =>
    (hI.onTransport (.recv c.chunk) fun h => ⟨h, rfl⟩).bind fun answer => ?_
  split
  · exact (hI.update ChannelCore.spares_deactivate).bind fun _ => keeps_pure
  · exact (hI.update (ChannelCore.spares_receive _)).bind fun _ => keeps_pure
  · split
    · exact keeps_pure
    · exact keeps_pure
    · exact hI.fail

theorem receive (hI : Endures I) : Keeps I (receive (τ := τ)) :=
  keeps_subject.bind fun _ => hI.receiveOnce.repeatUntil _

theorem drainInput (hI : Endures I) (drain : Bool) :
    ∀ rounds received, Keeps I (drainInput (τ := τ) drain rounds received)
  | 0, _ => keeps_halt
  | rounds + 1, received => by
    refine hI.receive.bind fun answer => ?_
    split
    · refine keeps_subject.bind fun c => ?_
      split
      · exact hI.drainInput drain rounds true
      · exact keeps_pure
    · exact keeps_pure
    · split
      · exact keeps_pure
      · exact keeps_refuse

theorem sendOnce (hI : Endures I) : Keeps I (sendOnce (τ := τ)) := by
  refine keeps_subject.bind fun c =>
    (hI.onTransport (.send c.core.output.run) fun h => ⟨h, rfl⟩).bind fun answer => ?_
  split
  · exact hI.fail
  · exact (hI.update (ChannelCore.spares_sent _)).bind fun _ => keeps_pure
  · split
    · exact keeps_pure
    · exact keeps_pure
    · exact hI.fail

theorem sendSome (hI : Endures I) : Keeps I (sendSome (τ := τ)) :=
  keeps_subject.bind fun _ => hI.sendOnce.repeatUntil _

theorem sendAll (hI : Endures I) : Keeps I (sendAll (τ := τ)) := by
  refine keeps_subject.bind fun _ => Keeps.repeatUntil (keeps_subject.bind fun c => ?_) _
  split
  · exact keeps_pure
  · refine hI.sendSome.bind fun blocked => ?_
    split
    · exact keeps_pure
    · exact keeps_pure

theorem settleOnce (hI : Endures I) : Keeps I (settleOnce (τ := τ)) := by
  refine keeps_subject.bind fun c =>
    (hI.onTransport .flush fun h => ⟨h, rfl⟩).bind fun answer => ?_
  split
  · refine keeps_subject.bind fun c' => ?_
    split
    · exact keeps_pure
    · exact keeps_pure
  · split
    · exact keeps_pure
    · exact keeps_pure
    · exact hI.fail

theorem flush (hI : Endures I) : Keeps I (flush (τ := τ)) := by
  refine hI.sendAll.bind fun flushed => ?_
  cases flushed with
  | drained => exact keeps_subject.bind fun _ => hI.settleOnce.repeatUntil _
  | blocked => exact keeps_pure

theorem write (hI : Endures I) (data : Bytes) : Keeps I (write (τ := τ) data) := by
  refine ensureActive_keeps.bind fun _ =>
    (hI.update (ChannelCore.spares_enqueue data)).bind fun _ => keeps_subject.bind fun c => ?_
  split
  · refine hI.flush.bind fun flushed => ?_
    cases flushed with
    | drained => exact keeps_pure
    | blocked => exact keeps_refuse
  · exact keeps_pure

theorem onRead (hI : Endures I) : Keeps I (onRead (τ := τ)) := by
  refine keeps_subject.bind fun c => ?_
  split
  · exact keeps_refuse
  · exact ensureActive_keeps.bind fun _ => hI.drainInput _ _ _

theorem takeInput (hI : Endures I) (count : Nat) (opts : ReadOptions) :
    Keeps I (takeInput (ω := ω) (τ := τ) count opts) := by
  intro c w h
  refine takeInput_ends (fun data core hcore => ?_) (fun e _ => h)
  obtain ⟨input, rfl, -, -⟩ := ChannelCore.takeInput_ok hcore
  exact hI.core (ChannelCore.spares_input input) h

section

variable [Machine ω]

/-- A wait sets no mode but that of the rest of its time. -/
theorem fillUntil_of_rest (hI : Endures I) (count : Nat) {deadline : Option Instant}
    (hrest : Keeps I (allowRest (τ := τ) deadline)) :
    Keeps I (fillUntil (τ := τ) count deadline) := by
  have hround : Keeps I (fillRound (τ := τ) count deadline) := by
    refine keeps_subject.bind fun c => ?_
    split
    · exact keeps_pure
    · refine hrest.bind fun rest => ?_
      split
      · refine hI.receive.bind fun answer => ?_
        split
        · exact keeps_pure
        · exact keeps_pure
      · exact keeps_pure
  refine Keeps.repeatUntil (Keeps.bind ?_ fun progress => ?_) _
  · exact keeps_subject.bind fun _ => hround.repeatUntil _
  · cases progress <;> exact keeps_pure

/-- A wait without a deadline sets no mode. -/
theorem fillUntil (hI : Endures I) (count : Nat) (deadline : Option Instant)
    (happly : deadline ≠ none → ∀ mode, Keeps I (applyMode (τ := τ) mode)) :
    Keeps I (fillUntil (τ := τ) count deadline) := by
  refine hI.fillUntil_of_rest count ?_
  cases deadline with
  | none => exact keeps_pure
  | some deadline =>
    refine keeps_ask.bind fun now => ?_
    split
    · exact keeps_pure
    · exact (happly (by simp) _).bind fun _ => keeps_pure

/-- What endures the setting of modes too endures every read. -/
theorem read (hI : Endures I) (happly : ∀ mode, Keeps I (applyMode (τ := τ) mode)) (count : Nat)
    (opts : ReadOptions) : Keeps I (read (τ := τ) count opts) := by
  have hfill : Keeps I (fill (τ := τ) count) := by
    refine keeps_subject.bind fun c => Keeps.bind ?_ fun deadline =>
      ((hI.fillUntil count deadline fun _ => happly).attempt).bind fun result =>
        keeps_subject.bind fun c' => ?_
    · refine keeps_ask.bind fun now => ?_
      split
      · exact keeps_pure
      · exact keeps_halt
    · split
      · exact (happly _).bind fun _ => keeps_ofExcept
      · exact keeps_ofExcept
  refine keeps_subject.bind fun c => ?_
  split
  · exact hfill.bind fun _ => hI.takeInput count opts
  · exact hI.takeInput count opts

end

end Endures

namespace Outlasts

open ChannelReactor.Action

variable [Transport ω τ] {I : Connection τ → ω → Prop}

/-- A connection is released when it lingered or is inactive. -/
theorem release (hI : Outlasts I) {c : Connection τ} {w : ω} (h : I c w)
    (hover : c.lingering = true ∨ c.core.active = false) :
    (release (τ := τ)).Ends c w (fun _ c' w' => I c' w') (fun e _ _ => e.elim) := by
  refine release_ends fun w' hparts => ?_
  unfold PartsWith at hparts
  split at hparts
  · subst hparts
    exact hI.part (hI.core ChannelCore.spares_dropOutput h) hover
  · rename_i t ht
    obtain ⟨answer, t', hclose⟩ := hparts
    have hcalled : I { c with transport := some t' } w' := hI.call h ht hclose rfl
    exact hI.part (hI.core ChannelCore.spares_dropOutput hcalled) hover

theorem onWrite (hI : Outlasts I) : Keeps I (onWrite (τ := τ)) := by
  refine hI.flush.attempt.bind fun flushed => Keeps.bindSubject fun c w h => ?_
  have hrelease (hl : c.lingering = true) (e : ChannelError) :
      (do Connection.release.sure; Action.refuse e : Action ω ChannelError _ Unit).Ends c w
        (fun _ c' w' => I c' w') (fun _ c' w' => I c' w') := by
    rw [ends_bind, ends_sure]
    exact (hI.release h (.inl hl)).mono (fun _ _ _ h' => h') (fun e _ _ _ => e.elim)
  split
  · rename_i hl
    split
    · exact h
    · exact hrelease hl .closed
    · exact hrelease hl _
  · exact (keeps_ofExcept.bind fun _ => keeps_pure) c w h

theorem close (hI : Outlasts I) : Keeps I (close (τ := τ)) := by
  intro c w h
  have hinactive := hI.core ChannelCore.spares_deactivate h
  rw [Connection.close, ends_bind, ends_update, ends_bind, ends_subject]
  generalize hc : c.mapCore ChannelCore.deactivate = c₁ at hinactive
  have hi : c₁.core.active = false := by rw [← hc]; rfl
  have hrelease {c' : Connection τ} {w' : ω} (h' : I c' w' ∧ c'.core.active = false) :
      Connection.release.Ends c' w' (fun _ c' w' => I c' w') (fun _ c' w' => I c' w') :=
    (hI.release h'.1 (.inr h'.2)).mono (fun _ _ _ h => h) (fun e _ _ _ => e.elim)
  split
  · exact hinactive
  · split
    · rw [ends_bind, ends_attempt]
      -- The flush leaves the connection inactive, as lingering and parting ask.
      refine (hI.toEndures.inactive.flush c₁ w ⟨hinactive, hi⟩).mono (fun flushed c' w' h' => ?_)
        (fun e c' w' h' => ?_)
      · rw [ends_bind, ends_subject]
        split
        · exact hI.linger h'.1 h'.2
        · exact hrelease h'
      · rw [ends_bind, ends_subject]
        exact hrelease h'
    · exact hrelease ⟨hinactive, hi⟩

end Outlasts

end Connection

end ChannelReactor
