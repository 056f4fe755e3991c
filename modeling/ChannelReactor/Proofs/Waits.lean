import ChannelReactor.Proofs.Gathering
import ChannelReactor.Scenario.Wire

/-! # Reads that wait

A read in a waiting mode receives until it has enough bytes, the channel is no longer active, an
error ends it, or its deadline has passed. Nothing else brings it to an end, so what it gives up on
it gives up no earlier than it may. -/
namespace ChannelReactor

/-- A wait in this mode may be over at `now` when it began at `start`. -/
def WaitMode.Spent (start now : Instant) : WaitMode → Prop
  | nonblocking => True
  | forever => False
  | upTo d => start.advance d ≤ now

/-- A wait up to its deadline has been long enough for its mode. -/
theorem WaitMode.spent_of_deadline {mode : WaitMode} {start now deadline : Instant}
    (h : mode.deadline? start = some (some deadline)) (hnow : deadline ≤ now) :
    mode.Spent start now := by
  cases mode with
  | nonblocking => trivial
  | forever => cases h
  | upTo d =>
    rw [deadline?, normalized] at h
    split at h <;> rename_i hmode
    · split at hmode <;> cases hmode
      rw [Instant.add?] at h
      split at h <;> cases h
      exact hnow
    · cases h

theorem WaitMode.spent_of_not_blocking {mode : WaitMode} {now : Instant}
    (h : mode.isBlocking ≠ true) : mode.Spent now now := by
  cases mode with
  | nonblocking => trivial
  | forever => exact absurd rfl h
  | upTo d =>
    rw [isBlocking, normalized] at h
    split at h <;> rename_i hzero
    · have hnanos : d.nanos = 0 := by simpa [Span.isZero] using hzero
      exact Nat.le_of_eq (by simp [Instant.advance, hnanos])
    · exact absurd rfl h

/-- No call on a transport of this kind sets the clock back. -/
def Transport.Forward {ω : Type} (τ : Type) [Machine ω] [Transport ω τ] : Prop :=
  ∀ (call : Call) (t t' : τ) (w w' : ω), call.Made t w t' w' → Machine.now w ≤ Machine.now w'

namespace Connection

variable {ω τ : Type} [Machine ω] [Transport ω τ]

theorem Exchange.forward {p q : Connection τ × ω} {calls : List Call}
    (hforward : Transport.Forward τ) (h : Exchange p calls q) :
    Machine.now p.2 ≤ Machine.now q.2 := by
  induction h with
  | none => exact Nat.le_refl _
  | call _ _ _ hc ih => exact Nat.le_trans ih (hforward _ _ _ _ _ hc)

variable {c : Connection τ} {w : ω}

omit [Machine ω] in
/-- What a transport does not do fails the operation for good. -/
theorem applyMode_fails {mode : WaitMode} :
    (applyMode mode).Ends c w (fun _ _ _ => True) (fun e _ _ => e ≠ .dataNotAvailable) := by
  rw [applyMode, callTransport, Action.ends_bind]
  refine onTransport_answers (fun t t' w' answer _ _ => ?_) (fun _ => by simp)
  cases answer with
  | ok _ => trivial
  | error e => exact ChannelError.noConfusion

omit [Machine ω] in
theorem receiveOnce_fails :
    receiveOnce.Ends c w (fun _ _ _ => True) (fun e _ _ => e ≠ .dataNotAvailable) := by
  rw [receiveOnce, Action.ends_bind, Action.ends_subject, Action.ends_bind]
  refine onTransport_answers (fun t t' w' answer _ _ => ?_) (fun _ => by simp)
  cases answer with
  | ok data => cases data <;> trivial
  | error e => cases hj : c.policy.judge .recv e <;> simp [hj, fail_ends]

omit [Machine ω] in
theorem receive_fails :
    receive.Ends c w (fun _ _ _ => True) (fun e _ _ => e ≠ .dataNotAvailable) := by
  rw [receive, Action.ends_bind, Action.ends_subject]
  refine Action.Ends.repeatUntil (I := fun _ _ => True) (fun c w _ => ?_) _ c w trivial
  refine receiveOnce_fails.mono (fun r _ _ _ => ?_) (fun _ _ _ he => he)
  cases r <;> trivial

/-- A wait for `count` bytes with this deadline is over. -/
def Waited (count : Nat) (deadline : Option Instant) (c : Connection τ) (w : ω) : Prop :=
  c.Short count → ∃ d, deadline = some d ∧ d ≤ Machine.now w

variable {count : Nat} {deadline : Option Instant}

theorem allowRest_waits :
    (allowRest deadline).Ends c w
      (fun rest _ w' => rest = false → ∃ d, deadline = some d ∧ d ≤ Machine.now w')
      (fun e _ _ => e ≠ .dataNotAvailable) := by
  cases deadline with
  | none => exact fun h => by cases h
  | some d =>
    rw [allowRest, Action.ends_bind, Action.now, Action.ends_ask]
    split
    · exact fun _ => ⟨d, rfl, ‹_›⟩
    · rw [Action.ends_bind]
      exact applyMode_fails.mono (fun _ _ _ _ => by simp) (fun _ _ _ he => he)

theorem fillRound_waits :
    (fillRound count deadline).Ends c w
      (fun r c' w' => r = some .over → Waited count deadline c' w')
      (fun e _ _ => e ≠ .dataNotAvailable) := by
  rw [fillRound, Action.ends_bind, Action.ends_subject]
  split
  · rename_i hover
    refine fun _ hshort => absurd hshort (not_short_iff.mpr ?_)
    simpa using hover
  · rw [Action.ends_bind]
    refine allowRest_waits.mono (fun rest c' w' hrest => ?_) (fun _ _ _ he => he)
    split
    · rw [Action.ends_bind]
      refine receive_fails.mono (fun r _ _ _ => ?_) (fun _ _ _ he => he)
      cases r <;> simp
    · rename_i hno
      exact fun _ _ => hrest (by simpa using hno)

theorem fillUntil_waits :
    (fillUntil count deadline).Ends c w (fun _ c' w' => Waited count deadline c' w')
      (fun e _ _ => e ≠ .dataNotAvailable) := by
  rw [fillUntil]
  -- Neither loop has to carry anything: a round that ends one says all there is to say.
  refine Action.Ends.repeatUntil (I := fun _ _ => True) (fun c w _ => ?_) _ c w trivial
  rw [Action.ends_bind, fillSome, Action.ends_bind, Action.ends_subject]
  refine Action.Ends.repeatUntil (I := fun _ _ => True) (fun c w _ => ?_) _ c w trivial
  refine fillRound_waits.mono (fun r c' w' hr => ?_) (fun _ _ _ he => he)
  cases r with
  | none => trivial
  | some progress =>
    cases progress
    · exact hr rfl
    · trivial

/-- A wait in the connection's mode is one up to its deadline, after which the mode is put back if
there was one. -/
theorem fill_ends {P : Option Instant → Except ChannelError Unit → Connection τ → ω → Prop}
    {Q : Unit → Connection τ → ω → Prop} {R : ChannelError → Connection τ → ω → Prop}
    (hwait : ∀ deadline, c.core.mode.deadline? (Machine.now w) = some deadline →
      (fillUntil count deadline).Ends c w (fun a c₁ w₁ => P deadline (.ok a) c₁ w₁)
        (fun e c₁ w₁ => P deadline (.error e) c₁ w₁))
    (hend : ∀ deadline result c₁ w₁, P deadline result c₁ w₁ →
      (Action.ofExcept result).Ends c₁ w₁ Q R)
    (hback : ∀ deadline result c₁ w₁, P deadline result c₁ w₁ →
      (applyMode c.core.mode).Ends c₁ w₁
        (fun _ c' w' => (Action.ofExcept result).Ends c' w' Q R) R) :
    (fill count).Ends c w Q R := by
  rw [fill, Action.ends_bind, Action.ends_subject, Action.ends_bind, Action.deadline,
    Action.ends_bind, Action.now, Action.ends_ask]
  split
  · rename_i deadline hdeadline
    rw [Action.ends_pure, Action.ends_bind, Action.ends_attempt]
    have hrest : ∀ result c₁ w₁, P deadline result c₁ w₁ →
        (do
          if deadline.isSome && (← Action.subject).transport.isSome then applyMode c.core.mode
          Action.ofExcept result : Action ω ChannelError (Connection τ) Unit).Ends c₁ w₁ Q R := by
      intro result c₁ w₁ h
      rw [Action.ends_bind, Action.ends_subject]
      split
      · rw [Action.ends_bind]
        exact hback deadline result c₁ w₁ h
      · exact hend deadline result c₁ w₁ h
    exact (hwait deadline hdeadline).mono (fun _ => hrest _) (fun _ => hrest _)
  · trivial

theorem fill_waits (hforward : Transport.Forward τ) :
    (fill count).Ends c w
      (fun _ c' w' => c'.Short count → c.core.mode.Spent (Machine.now w) (Machine.now w'))
      (fun e _ _ => e ≠ .dataNotAvailable) := by
  refine fill_ends (P := fun deadline result c₁ w₁ =>
      c.core.mode.deadline? (Machine.now w) = some deadline ∧
      (∀ a, result = .ok a → Waited count deadline c₁ w₁) ∧
      ∀ e, result = .error e → e ≠ .dataNotAvailable)
    (fun deadline hdeadline => ?_) (fun deadline result c₁ w₁ h => ?_)
    (fun deadline result c₁ w₁ h => ?_)
  · exact fillUntil_waits.mono (fun _ _ _ h => ⟨hdeadline, fun _ _ => h, fun _ he => by cases he⟩)
      (fun e _ _ h => ⟨hdeadline, fun _ ha => (by cases ha), fun _ he => Except.error.inj he ▸ h⟩)
  · obtain ⟨hdeadline, hok, herror⟩ := h
    refine Action.ends_ofExcept.mpr ⟨fun a ha hshort => ?_, herror⟩
    obtain ⟨d, rfl, hd⟩ := hok a ha hshort
    exact WaitMode.spent_of_deadline hdeadline hd
  · obtain ⟨hdeadline, hok, herror⟩ := h
    refine ((applyMode_exchanged .refl).and applyMode_fails).mono (fun _ c' w' h => ?_)
      (fun _ _ _ h => h.2)
    obtain ⟨⟨hm, hcore⟩, -⟩ := h
    refine Action.ends_ofExcept.mpr ⟨fun a ha hshort => ?_, herror⟩
    have hshort₁ : c₁.Short count := by rwa [Short, hcore] at hshort
    obtain ⟨d, rfl, hd⟩ := hok a ha hshort₁
    obtain ⟨calls, hx⟩ := hm
    exact WaitMode.spent_of_deadline hdeadline (Nat.le_trans hd (hx.forward hforward))

omit [Machine ω] [Transport ω τ] in
/-- Of a connection that is not short of them, a read takes all the bytes it is for. -/
theorem takeInput_short {opts : ReadOptions} :
    (takeInput count opts).Ends c w
      (fun data c' w' => w' = w ∧ (data.length < count → c'.core.active = true → c.Short count))
      (fun e _ w' => w' = w ∧ (e = .dataNotAvailable → c.Short count)) := by
  have hsize : ∀ {data : Bytes} {core : ChannelCore} {n : Nat},
      c.core.drainInput n opts.peek = (data, core) →
        data.length = min n c.core.input.size ∧ core.active = c.core.active := by
    intro data core n h
    rw [ChannelCore.drainInput, Prod.mk.injEq] at h
    obtain ⟨rfl, rfl⟩ := h
    exact ⟨by simp [ByteQueue.peek_eq, ByteQueue.size], by split <;> rfl⟩
  refine takeInput_ends (fun data core h => ⟨rfl, fun hless hactive => ?_⟩)
    (fun e h => ⟨rfl, fun he => ?_⟩) <;> unfold ChannelCore.takeInput at h <;> split at h
  · obtain ⟨hlength, -⟩ := hsize (Except.ok.inj h)
    omega
  · split at h
    · exact ⟨‹_›, by omega⟩
    · rename_i hinactive
      split at h
      · obtain ⟨-, hcore⟩ := hsize (Except.ok.inj h)
        exact absurd (hcore.symm.trans hactive) hinactive
      · cases h
  · cases h
  · split at h
    · exact ⟨‹_›, by omega⟩
    · split at h <;> cases h
      cases he

/-- A read gives up on bytes only when its mode lets it: it returns less than it is for while the
connection is active, or says that nothing is available, no earlier than the span of its mode after
it began, and never in the mode that waits without end. -/
theorem read_never_early {opts : ReadOptions} (hforward : Transport.Forward τ) :
    (read count opts).Ends c w
      (fun data c' w' => data.length < count → c'.core.active = true →
        c.core.mode.Spent (Machine.now w) (Machine.now w'))
      (fun e _ w' => e = .dataNotAvailable →
        c.core.mode.Spent (Machine.now w) (Machine.now w')) := by
  have htake : ∀ (c₁ : Connection τ) (w₁ : ω),
      (c₁.Short count → c.core.mode.Spent (Machine.now w) (Machine.now w₁)) →
      (takeInput count opts).Ends c₁ w₁
        (fun data c' w' => data.length < count → c'.core.active = true →
          c.core.mode.Spent (Machine.now w) (Machine.now w'))
        (fun e _ w' => e = .dataNotAvailable →
          c.core.mode.Spent (Machine.now w) (Machine.now w')) := by
    refine fun c₁ w₁ hspent => takeInput_short.mono (fun data c' w' h hless hactive => ?_)
      (fun e c' w' h he => ?_)
    · rw [h.1]
      exact hspent (h.2 hless hactive)
    · rw [h.1]
      exact hspent (h.2 he)
  by_cases hwaits : c.core.mode.isBlocking = true ∧ c.Short count
  · obtain ⟨hblocking, hactive, hsize⟩ := hwaits
    rw [read, Action.ends_bind, Action.ends_subject, if_pos (by simp [hblocking, hactive, hsize]),
      Action.ends_bind]
    exact (fill_waits hforward).mono (fun _ c₁ w₁ hspent => htake c₁ w₁ hspent)
      (fun e _ _ he h => absurd h he)
  · -- The read does not wait: either its mode has no wait in it, or there is none to make.
    have hready : c.core.mode.isBlocking = false ∨ c.core.active = false ∨
        count ≤ c.core.input.size := by
      rcases Decidable.not_and_iff_not_or_not.mp hwaits with h | h
      · exact .inl (by simpa using h)
      · exact .inr (not_short_iff.mp h).symm
    exact Action.Ends.of_run (read_eq_takeInput hready) (htake c w fun hshort =>
      WaitMode.spent_of_not_blocking fun hblocking => hwaits ⟨hblocking, hshort⟩)

end Connection

namespace Scenario

/-- The clock shows this instant or a later one. -/
def Bench.After {σ : Type} (start : Instant) (_ : σ) (b : Bench) : Prop := start ≤ b.clock

namespace Wire

open Bench (After)

variable {ε σ : Type} {start : Instant}

theorem record_forward {e : Event} :
    Action.Keeps (After start) (record e : Action Bench ε σ Unit) :=
  fun _ _ h => h

theorem pass_forward {d : Span} :
    Action.Keeps (After start) (pass d : Action Bench ε σ Unit) :=
  fun _ b h => Nat.le_trans h (Nat.le_add_right b.clock.nanos d.nanos)

theorem update_forward {f : σ → σ} :
    Action.Keeps (After start) (Action.update f : Action Bench ε σ Unit) :=
  Action.keeps_update fun _ _ h => h

/-- The clock only moves on while a wire is at work. -/
theorem recv_forward {limit : Nat} : Action.Keeps (After start) (recv limit) := by
  have hdelivers : ∀ data, Action.Keeps (After start) (delivers data) := fun _ =>
    Action.keeps_subject.bind fun _ => record_forward.bind fun _ => Action.keeps_pure
  have hfails : ∀ e, Action.Keeps (After start) (recvFails e) := fun _ =>
    Action.keeps_subject.bind fun _ => record_forward.bind fun _ => Action.keeps_refuse
  have hbeyond : Action.Keeps (After start) (recvBeyond limit) := by
    refine Action.keeps_subject.bind fun w => ?_
    split
    · exact hdelivers _
    · cases w.mode with
      | nonblocking => exact hfails _
      | upTo d => exact pass_forward.bind fun _ => hfails _
      | forever => exact hfails _
  refine Action.keeps_subject.bind fun w => ?_
  cases w.script.recv with
  | nil => exact hbeyond
  | cons entry rest =>
    refine pass_forward.bind fun _ => ?_
    cases entry.act with
    | data bytes => exact update_forward.bind fun _ => hdelivers _
    | ended => exact update_forward.bind fun _ => hdelivers _
    | fails e => exact update_forward.bind fun _ => hfails _

theorem send_forward {data : Bytes} : Action.Keeps (After start) (send data) := by
  have haccepts : ∀ data, Action.Keeps (After start) (accepts data) := fun data => by
    refine Action.keeps_subject.bind fun w => record_forward.bind fun _ => ?_
    split
    · exact update_forward.bind fun _ => Action.keeps_pure
    · exact Action.keeps_pure
  have hfails : ∀ e, Action.Keeps (After start) (sendFails e) := fun _ =>
    Action.keeps_subject.bind fun _ => record_forward.bind fun _ => Action.keeps_refuse
  refine Action.keeps_subject.bind fun w => ?_
  cases w.script.send with
  | nil =>
    dsimp only
    split
    · exact hfails _
    · exact haccepts _
  | cons act rest =>
    cases act with
    | accepts n => exact update_forward.bind fun _ => haccepts _
    | nothing => exact update_forward.bind fun _ => haccepts _
    | fails e => exact update_forward.bind fun _ => hfails _

theorem flush_forward : Action.Keeps (After start) flush := by
  have hholds : ∀ held, Action.Keeps (After start) (holds held) := fun _ =>
    update_forward.bind fun _ => Action.keeps_subject.bind fun _ => record_forward
  refine Action.keeps_subject.bind fun w => ?_
  split
  · exact Action.keeps_pure
  · cases w.script.flush with
    | nil => exact hholds _
    | cons act rest =>
      refine update_forward.bind fun _ => ?_
      cases act with
      | drains n => exact hholds _
      | idle => exact hholds _
      | fails e => exact record_forward.bind fun _ => Action.keeps_refuse

theorem setMode_forward {mode : WaitMode} :
    Action.Keeps (After start) (setMode mode) := by
  refine Action.keeps_subject.bind fun w => update_forward.bind fun _ => ?_
  split
  · exact record_forward.bind fun _ => update_forward
  · exact record_forward.bind fun _ => Action.keeps_refuse

theorem close_forward : Action.Keeps (After start) close := by
  refine Action.keeps_subject.bind fun w => update_forward.bind fun _ => ?_
  split
  · exact record_forward
  · exact record_forward.bind fun _ => Action.keeps_refuse

theorem setNodelay_forward {on : Bool} :
    Action.Keeps (After start) (setNodelay on) := by
  refine Action.keeps_subject.bind fun w => ?_
  split
  · exact Action.keeps_pure
  · refine update_forward.bind fun _ => ?_
    split
    · exact record_forward
    · exact record_forward.bind fun _ => Action.keeps_refuse

/-- A wire never sets the clock back. -/
theorem forward : Transport.Forward Wire := by
  intro call t t' w w' h
  have hstart : After w.clock t w := Nat.le_refl _
  cases call with
  | send offered answer => exact (send_forward t w hstart).leaves h.leaves
  | recv room answer => exact (recv_forward t w hstart).leaves h.leaves
  | setMode mode answer => exact (setMode_forward t w hstart).leaves h.leaves
  | close answer => exact (close_forward t w hstart).leaves h.leaves
  | flush answer => exact (flush_forward t w hstart).leaves h.leaves
  | setNodelay on answer => exact (setNodelay_forward t w hstart).leaves h.leaves
  | accept answer => exact h.elim

end Wire

end Scenario

namespace Connection

open Scenario

/-- A connection that may wait for a tenth of a second, to a wire that brings two bytes and then
nothing more. -/
def dripping : Connection Wire where
  core := .new (.upTo (.ofMillis 100)) "dripping"
  transport := some { name := "dripping", script := { recv := [{ act := .data [1, 2] }] } }
  chunk := 4
  policy := .plain

theorem read_never_early_dripping :
    Transport.Forward Wire ∧
      ∃ (data : Bytes) (c' : Connection Wire) (w' : Bench),
        read 4 { lessAllowed := true } dripping {} = .done data c' w' ∧ data.length < 4 ∧
        c'.core.active = true ∧ Instant.start.advance (.ofMillis 100) ≤ Machine.now w' := by
  have hrun : (read 4 { lessAllowed := true } dripping {}).any
      (fun data c' _ => decide (data.length < 4) && c'.core.active) = true := by
    decide +kernel
  simp only [Outcome.any_eq_true, Bool.and_eq_true, decide_eq_true_eq] at hrun
  obtain ⟨data, c', w', hread, hless, hactive⟩ := hrun
  exact ⟨Wire.forward, data, c', w', hread, hless, hactive,
    (read_never_early Wire.forward).done hread hless hactive⟩

end Connection

end ChannelReactor
