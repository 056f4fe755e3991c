import Mathlib.Logic.Relation
import ChannelReactor.Proofs.Waits

/-! # Reads with a bound

Before every receive a bounded read sets its transport to wait no longer than until the deadline. A
receive that is interrupted is made again without that, so the transport may wait the same span once
more. Over a transport that keeps to the spans it is given, a read is late by no more than the time
that interrupted receives took before its last receive, and by nothing when there were none. -/
namespace ChannelReactor

namespace Transport

variable {ω τ : Type} [Machine ω] [Transport ω τ]

/-- The transport was set to a mode, and has done nothing since but receive. -/
inductive Under (mode : WaitMode) : τ → ω → Prop
  | set {t t' : τ} {w w' : ω} (h : (Transport.setMode mode).Answers t w (.ok ()) t' w') :
    Under mode t' w'
  | recv {t t' : τ} {w w' : ω} {room : Nat} {answer : Except IoError Bytes} (h : Under mode t w)
    (hx : (Transport.recv room).Answers t w answer t' w') : Under mode t' w'

/-- A receive takes no longer than the transport was told to wait, whatever its answer is, and to
set a mode takes no time. -/
structure Punctual (τ : Type) [Transport ω τ] : Prop where
  setMode : ∀ {mode : WaitMode} {t t' : τ} {w w' : ω} {answer : Except IoError Unit},
    (Transport.setMode mode).Answers t w answer t' w' → Machine.now w' = Machine.now w
  recv : ∀ {d : Span} {room : Nat} {t t' : τ} {w w' : ω} {answer : Except IoError Bytes},
    Under (.upTo d) t w → (Transport.recv room).Answers t w answer t' w' →
    Machine.now w' ≤ (Machine.now w).advance d

end Transport

theorem WaitMode.deadline_upTo {mode : WaitMode} {d : Span} {now : Instant}
    {deadline : Option Instant} (hblocking : mode.isBlocking = true) (hmode : mode = .upTo d)
    (h : mode.deadline? now = some deadline) : deadline = some (now.advance d) := by
  subst hmode
  have hspan : (WaitMode.upTo d).normalized = .upTo d := by
    rw [isBlocking, normalized] at hblocking
    rw [normalized]
    split at hblocking
    · cases hblocking
    · rw [if_neg ‹_›]
  simp only [deadline?, hspan, Instant.add?] at h
  split at h <;> cases h
  rfl

namespace Connection

open Transport (Under Punctual)

variable {ω τ : Type} [Transport ω τ]

/-- A receive on the connection's transport is interrupted. -/
def Interrupts (p q : Connection τ × ω) : Prop :=
  ∃ t t' e, p.1.transport = some t ∧ (Transport.recv p.1.chunk).Answers t p.2 (.error e) t' q.2 ∧
    p.1.policy.judge .recv e = .interrupted ∧ q.1 = { p.1 with transport := some t' }

/-- Receives are interrupted, one after another. -/
abbrev Interruptions : Connection τ × ω → Connection τ × ω → Prop :=
  Relation.ReflTransGen Interrupts

variable [Machine ω] {o : Connection τ × ω} {c : Connection τ} {w : ω} {deadline : Instant}

/-- An exchange leads here, with receives interrupted on its way, and the clock is past the deadline
by no more than these took. -/
def Within (o : Connection τ × ω) (deadline : Instant) (s : Connection τ × ω) : Prop :=
  ∃ p q, Exchanged o p ∧ Interruptions p q ∧ Exchanged q s ∧
    Machine.now s.2 ≤ deadline.advance ((Machine.now q.2).since (Machine.now p.2))

theorem Within.of_early (ho : Exchanged o (c, w)) (h : Machine.now w ≤ deadline) :
    Within o deadline (c, w) :=
  ⟨(c, w), (c, w), ho, .refl, .refl, Nat.le_trans h (Nat.le_add_right _ _)⟩

/-- Without an interruption the deadline is kept. -/
theorem Within.early {s : Connection τ × ω} (h : Within o deadline s)
    (hnone : ∀ p q, Exchanged o p → ¬ Interrupts p q) : Machine.now s.2 ≤ deadline := by
  obtain ⟨p, q, ho, hinterruptions, -, hnow⟩ := h
  obtain rfl | ⟨q', hfirst, -⟩ := Relation.ReflTransGen.cases_head hinterruptions
  · simpa [Instant.le_iff, Instant.advance, Instant.since] using hnow
  · exact absurd hfirst (hnone p q' ho)

theorem applyMode_punctual (hpunctual : Punctual τ) {mode : WaitMode} :
    (applyMode mode).Ends c w
      (fun _ c' w' => Machine.now w' = Machine.now w ∧ c'.core = c.core ∧
        ∃ t, c'.transport = some t ∧ Under mode t w')
      (fun _ _ w' => Machine.now w' = Machine.now w) := by
  rw [applyMode, callTransport, Action.ends_bind]
  refine onTransport_answers (fun t t' w' answer ht hx => ?_) (fun _ => rfl)
  cases answer with
  | ok _ => exact ⟨hpunctual.setMode hx, rfl, t', rfl, .set hx⟩
  | error e => exact hpunctual.setMode hx

/-- After a mode is set, the connection is within the deadline as it was before. -/
theorem applyMode_within (hpunctual : Punctual τ) {mode : WaitMode} :
    Action.Keeps (fun c w => Within o deadline (c, w)) (applyMode (τ := τ) (ω := ω) mode) := by
  rintro c w ⟨p, q, ho, hinterruptions, hs, hnow⟩
  refine ((applyMode_exchanged hs).and (applyMode_punctual hpunctual)).mono
    (fun _ c' w' h' => ?_) (fun _ c' w' h' => ?_)
  · exact ⟨p, q, ho, hinterruptions, h'.1.1, h'.2.1 ▸ hnow⟩
  · exact ⟨p, q, ho, hinterruptions, h'.1, h'.2 ▸ hnow⟩

theorem receiveOnce_punctual (hpunctual : Punctual τ) {d : Span} {t : τ}
    (ht : c.transport = some t) (hunder : Under (.upTo d) t w) :
    receiveOnce.Ends c w
      (fun r c' w' => Machine.now w' ≤ (Machine.now w).advance d ∧
        (r = none → Interrupts (c, w) (c', w') ∧
          ∃ t', c'.transport = some t' ∧ Under (.upTo d) t' w'))
      (fun _ _ w' => Machine.now w' ≤ (Machine.now w).advance d) := by
  rw [receiveOnce, Action.ends_bind, Action.ends_subject, Action.ends_bind]
  refine onTransport_answers (fun t₀ t' w' answer ht₀ hx => ?_)
    (fun hnone => by cases ht.symm.trans hnone)
  cases ht.symm.trans ht₀
  have hnow := hpunctual.recv hunder hx
  cases answer with
  | ok data => cases data <;> exact ⟨hnow, fun h => by cases h⟩
  | error e =>
    dsimp only
    cases hj : c.policy.judge .recv e with
    | retry => exact ⟨hnow, fun h => by cases h⟩
    | interrupted =>
      exact ⟨hnow, fun _ => ⟨⟨t, t', e, ht, hx, hj, rfl⟩, t', rfl, .recv hunder hx⟩⟩
    | fatal => exact hnow

/-- A receive after which the deadline is only missed by what interruptions took. -/
theorem receive_within (hpunctual : Punctual τ) (ho : Exchanged o (c, w))
    (hactive : c.core.active = true) (hearly : Machine.now w ≤ deadline) {t : τ}
    (ht : c.transport = some t) (hunder : Under (.upTo (deadline.since (Machine.now w))) t w) :
    receive.Ends c w (fun _ c' w' => Within o deadline (c', w'))
      (fun _ c' w' => Within o deadline (c', w')) := by
  have hlast : ∀ {c₁ w₁ c' w'}, Interruptions (c, w) (c₁, w₁) →
      Exchanged (c₁, w₁) (c', w') →
      Machine.now w' ≤ (Machine.now w₁).advance (deadline.since (Machine.now w)) →
      Within o deadline (c', w') := by
    refine fun hinterruptions hs hnow => ⟨_, _, ho, hinterruptions, hs, ?_⟩
    simp only [Instant.le_iff, Instant.advance, Instant.since] at hearly hnow ⊢
    omega
  rw [receive, Action.ends_bind, Action.ends_subject]
  -- Interrupted receives leave the transport in the mode that the first was made in.
  refine Action.Ends.repeatUntil (I := fun c₁ w₁ => Interruptions (c, w) (c₁, w₁) ∧
      c₁.core.active = true ∧ ∃ t, c₁.transport = some t ∧
        Under (.upTo (deadline.since (Machine.now w))) t w₁)
    (fun c₁ w₁ h => ?_) _ c w ⟨.refl, hactive, t, ht, hunder⟩
  obtain ⟨hinterruptions, hactive₁, t₁, ht₁, hunder₁⟩ := h
  refine ((receiveOnce_exchanged .refl hactive₁).and
    (receiveOnce_punctual hpunctual ht₁ hunder₁)).mono (fun r c' w' h => ?_)
    (fun _ c' w' h => hlast hinterruptions h.1 h.2)
  obtain ⟨⟨hs, hstill⟩, hnow, hagain⟩ := h
  cases r with
  | some received => exact hlast hinterruptions hs hnow
  | none =>
    obtain ⟨hinterrupts, hrest⟩ := hagain rfl
    exact ⟨hinterruptions.tail hinterrupts, hstill (by simp), hrest⟩

theorem fillRound_within (hpunctual : Punctual τ) {count : Nat} :
    Action.Keeps (fun c w => Exchanged o (c, w) ∧ Within o deadline (c, w))
      (fillRound (τ := τ) (ω := ω) count (some deadline)) := by
  rintro c w ⟨ho, hwithin⟩
  refine ((fillRound_exchanged c w ho).and (?_ : (fillRound count (some deadline)).Ends c w
    (fun _ c' w' => Within o deadline (c', w')) (fun _ c' w' => Within o deadline (c', w'))))
  rw [fillRound, Action.ends_bind, Action.ends_subject]
  split
  · exact hwithin
  · rename_i hwait
    have hactive : c.core.active = true := by
      cases h : c.core.active with
      | true => rfl
      | false => simp [h] at hwait
    rw [Action.ends_bind, allowRest, Action.ends_bind, Action.now, Action.ends_ask]
    split
    · exact hwithin
    · rename_i hearly
      rw [Action.ends_bind]
      refine ((applyMode_exchanged ho).and ((applyMode_punctual hpunctual).and
        (applyMode_within hpunctual c w hwithin))).mono (fun _ c' w' h => ?_) (fun _ _ _ h => h.2.2)
      obtain ⟨⟨hm, -⟩, ⟨hnow, hcore, t, ht, hunder⟩, -⟩ := h
      rw [Action.ends_pure, if_pos rfl, Action.ends_bind]
      have hbefore : Machine.now w' ≤ deadline := by
        rw [hnow]
        exact Nat.le_of_lt (Nat.lt_of_not_le hearly)
      refine (receive_within hpunctual hm (hcore ▸ hactive) hbefore ht (hnow ▸ hunder)).mono
        (fun r _ _ h => ?_) (fun _ _ _ h => h)
      cases r <;> exact h

theorem fillUntil_within (hpunctual : Punctual τ) {count : Nat} :
    Action.Keeps (fun c w => Exchanged o (c, w) ∧ Within o deadline (c, w))
      (fillUntil (τ := τ) (ω := ω) count (some deadline)) := by
  refine Action.Keeps.repeatUntil (Action.Keeps.bind ?_ fun progress => ?_) _
  · exact Action.Keeps.bind Action.keeps_subject fun _ => (fillRound_within hpunctual).repeatUntil _
  · cases progress <;> exact Action.keeps_pure

theorem fill_within (hpunctual : Punctual τ) {count : Nat}
    (hdeadline : ∀ deadline', c.core.mode.deadline? (Machine.now w) = some deadline' →
      deadline' = some deadline)
    (ho : Exchanged o (c, w)) (hearly : Machine.now w ≤ deadline) :
    (fill count).Ends c w (fun _ c' w' => Within o deadline (c', w'))
      (fun _ c' w' => Within o deadline (c', w')) := by
  have hend : ∀ (result : Except ChannelError Unit) (c' : Connection τ) (w' : ω),
      Within o deadline (c', w') → (Action.ofExcept result).Ends c' w'
        (fun _ c' w' => Within o deadline (c', w')) (fun _ c' w' => Within o deadline (c', w')) :=
    fun result c' w' h => Action.ends_ofExcept.mpr ⟨fun _ _ => h, fun _ _ => h⟩
  refine fill_ends (P := fun _ _ c₁ w₁ => Within o deadline (c₁, w₁)) (fun deadline' h => ?_)
    (fun _ result c₁ w₁ h => hend result c₁ w₁ h) (fun _ result c₁ w₁ h => ?_)
  · cases hdeadline deadline' h
    exact (fillUntil_within hpunctual c w ⟨ho, .of_early ho hearly⟩).mono (fun _ _ _ h => h.2)
      (fun _ _ _ h => h.2)
  · exact (applyMode_within hpunctual c₁ w₁ h).mono (fun _ c' w' h => hend result c' w' h)
      (fun _ _ _ h => h)

/-- The clock is past the deadline by no more than what one run of interrupted receives took, and
not past it when no receive is interrupted. -/
def Timely (o : Connection τ × ω) (deadline : Instant) (w : ω) : Prop :=
  (∃ c, Within o deadline (c, w)) ∧
    ((∀ p q, Exchanged o p → ¬ Interrupts p q) → Machine.now w ≤ deadline)

/-- A read that may wait for a span ends when the span does, but for the time that receives took
which were interrupted and made again. -/
theorem read_timely {count : Nat} {opts : ReadOptions} {d : Span} (hpunctual : Punctual τ)
    (hmode : c.core.mode = .upTo d) :
    (read count opts).Ends c w
      (fun _ _ w' => Timely (c, w) ((Machine.now w).advance d) w')
      (fun _ _ w' => Timely (c, w) ((Machine.now w).advance d) w') := by
  have hstart : Machine.now w ≤ (Machine.now w).advance d := Nat.le_add_right _ _
  have htake : ∀ c₁ w₁, Within (c, w) ((Machine.now w).advance d) (c₁, w₁) →
      (takeInput count opts).Ends c₁ w₁
        (fun _ _ w' => Timely (c, w) ((Machine.now w).advance d) w')
        (fun _ _ w' => Timely (c, w) ((Machine.now w).advance d) w') := fun c₁ w₁ h =>
    takeInput_ends (fun _ _ _ => ⟨⟨c₁, h⟩, h.early⟩) (fun _ _ => ⟨⟨c₁, h⟩, h.early⟩)
  have hnow : (takeInput count opts).Ends c w
      (fun _ _ w' => Timely (c, w) ((Machine.now w).advance d) w')
      (fun _ _ w' => Timely (c, w) ((Machine.now w).advance d) w') :=
    htake c w (.of_early .refl hstart)
  rw [read, Action.ends_bind, Action.ends_subject]
  split
  · rename_i hwaits
    simp only [Bool.and_eq_true] at hwaits
    rw [Action.ends_bind]
    exact (fill_within hpunctual (fun _ => WaitMode.deadline_upTo hwaits.1.1 hmode) .refl
      hstart).mono (fun _ => htake) (fun _ c₁ w₁ h => ⟨⟨c₁, h⟩, h.early⟩)
  · exact hnow

end Connection

/-- A transport that brings nothing and keeps to the spans it is given. Each of its first receives
is interrupted after a span of its own, if it may wait for so long. -/
structure Jolted where
  mode : WaitMode := .forever
  jolts : List Span

namespace Jolted

open Scenario (Bench)
open Transport (Under Punctual)

/-- A receive in a mode, which leaves these jolts to come. -/
def recvIn (mode : WaitMode) (jolts : List Span) : Action Bench IoError Jolted Bytes :=
  match mode, jolts with
  | .upTo d, jolt :: rest => do
    Scenario.pass ⟨min d.nanos jolt.nanos⟩
    Action.update fun t => { t with jolts := rest }
    Action.refuse (.bare .interrupted)
  | .upTo d, [] => do
    Scenario.pass d
    Action.refuse (.bare .wouldBlock)
  | _, _ => Action.refuse (.bare .wouldBlock)

instance : Transport Bench Jolted where
  send data := pure data.length
  recv _ := do
    let t ← Action.subject
    recvIn t.mode t.jolts
  setMode mode := Action.update fun t => { t with mode }
  close := pure ()
  descriptor _ := 0
  patience t := t.jolts.length

/-- What a receive leaves of the mode, and how long it takes. -/
theorem recv_answers {room : Nat} {t t' : Jolted} {w w' : Bench} {answer : Except IoError Bytes}
    (h : (Transport.recv room).Answers t w answer t' w') :
    t'.mode = t.mode ∧ ∀ d, t.mode = .upTo d → Machine.now w' ≤ (Machine.now w).advance d := by
  have hrecv : (Transport.recv room).Leaves t w t' w' := h.leaves
  change (recvIn t.mode t.jolts).Leaves t w t' w' at hrecv
  obtain ⟨mode, jolts⟩ := t
  refine Action.Ends.leaves (P := fun t' w' => t'.mode = mode ∧
    ∀ d, mode = .upTo d → Machine.now w' ≤ (Machine.now w).advance d) ?_ hrecv
  cases mode with
  | nonblocking | forever => exact ⟨rfl, fun d hd => by cases hd⟩
  | upTo d =>
    cases jolts with
    | nil => exact ⟨rfl, fun d' hd => by cases hd; exact Nat.le_refl _⟩
    | cons jolt rest =>
      refine ⟨rfl, fun d' hd => ?_⟩
      cases hd
      exact Nat.add_le_add_left (Nat.min_le_left _ _) _

theorem under_mode {mode : WaitMode} {t : Jolted} {w : Bench} (h : Under mode t w) :
    t.mode = mode := by
  induction h with
  | set hx =>
    cases hx
    rfl
  | recv _ hx ih => exact (recv_answers hx).1.trans ih

theorem punctual : Punctual Jolted where
  setMode {_ _ _ _ _ answer} hx := by
    cases answer with
    | ok _ =>
      cases hx
      rfl
    | error e => cases hx
  recv hunder hx := (recv_answers hx).2 _ (under_mode hunder)

end Jolted

namespace Connection

/-- A connection that may wait for a tenth of a second, over a transport whose first receive is
interrupted after 60 milliseconds. -/
def jolted : Connection Jolted where
  core := .new (.upTo (.ofMillis 100)) "jolted"
  transport := some { jolts := [.ofMillis 60] }
  chunk := 4
  policy := .plain

/-- The read is late by the 60 milliseconds of the interrupted receive. -/
theorem read_timely_jolted :
    Transport.Punctual Jolted ∧ jolted.core.mode = .upTo (.ofMillis 100) ∧
      ∃ (data : Bytes) (c' : Connection Jolted) (w' : Scenario.Bench),
        read 4 { lessAllowed := true } jolted ({} : Scenario.Bench) = .done data c' w' ∧
        Machine.now w' = Instant.start.advance (.ofMillis 160) ∧
        Timely (jolted, ({} : Scenario.Bench)) (Instant.start.advance (.ofMillis 100)) w' := by
  have hrun : (read 4 { lessAllowed := true } jolted ({} : Scenario.Bench)).any
      (fun _ _ w' => Machine.now w' == Instant.start.advance (.ofMillis 160)) = true := by
    decide +kernel
  simp only [Outcome.any_eq_true, beq_iff_eq] at hrun
  obtain ⟨data, c', w', hread, hlate⟩ := hrun
  exact ⟨Jolted.punctual, rfl, data, c', w', hread, hlate,
    (read_timely Jolted.punctual rfl).done hread⟩

end Connection

end ChannelReactor
