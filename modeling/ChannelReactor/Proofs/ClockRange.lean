import ChannelReactor.Proofs.Deadlines
import ChannelReactor.Proofs.Enduring

/-! # Reads and the range of the clock

The clock has a last instant, and a span that a mode may have is as long as it likes. A read that
waits in a bounded mode halts when its deadline lies beyond that instant, and for no other cause
than that; whatever it then computes from the deadline is exact
(`Connection.read_overflows_iff`). -/
namespace ChannelReactor

variable {ω ε ε' σ τ α β : Type}

/-- The action halts only when it is stuck. -/
def Action.Steady (x : Action ω ε σ α) : Prop :=
  ∀ s w h w', x s w = .halted h w' → h = .spinning

namespace Action

theorem steady_pure {a : α} : Steady (pure a : Action ω ε σ α) := fun _ _ _ _ h => by cases h

theorem steady_refuse {e : ε} : Steady (refuse e : Action ω ε σ α) := fun _ _ _ _ h => by cases h

theorem steady_subject : Steady (subject : Action ω ε σ σ) := fun _ _ _ _ h => by cases h

theorem steady_update {f : σ → σ} : Steady (update f : Action ω ε σ Unit) :=
  fun _ _ _ _ h => by cases h

theorem steady_ask {f : ω → α} : Steady (ask f : Action ω ε σ α) := fun _ _ _ _ h => by cases h

theorem steady_onMachine {f : ω → α × ω} : Steady (onMachine f : Action ω ε σ α) :=
  fun _ _ _ _ h => by cases h

theorem steady_ofExcept {r : Except ε α} : Steady (ofExcept r : Action ω ε σ α) := by
  cases r with
  | ok a => exact steady_pure
  | error e => exact steady_refuse

theorem Steady.bind {x : Action ω ε σ α} {f : α → Action ω ε σ β} (hx : Steady x)
    (hf : ∀ a, Steady (f a)) : Steady (x >>= f) := by
  intro s w h w' hhalts
  rw [bind_apply] at hhalts
  cases hrun : x s w with
  | done a s₁ w₁ =>
    rw [hrun] at hhalts
    exact hf a s₁ w₁ h w' hhalts
  | refused e s₁ w₁ => rw [hrun] at hhalts; cases hhalts
  | halted h₁ w₁ =>
    rw [hrun] at hhalts
    cases hhalts
    exact hx s w h w' hrun

theorem Steady.attempt {x : Action ω ε σ α} (hx : Steady x) :
    Steady (attempt x : Action ω ε' σ (Except ε α)) := by
  intro s w h w' hhalts
  unfold Action.attempt at hhalts
  cases hrun : x s w with
  | done a s₁ w₁ => rw [hrun] at hhalts; cases hhalts
  | refused e s₁ w₁ => rw [hrun] at hhalts; cases hhalts
  | halted h₁ w₁ =>
    rw [hrun] at hhalts
    cases hhalts
    exact hx s w h w' hrun

/-- A loop that is out of rounds is stuck. -/
theorem Steady.repeatUntil {step : Action ω ε σ (Option α)} (hstep : Steady step) :
    ∀ bound, Steady (repeatUntil bound step)
  | 0 => fun _ _ _ _ h => by cases h; rfl
  | bound + 1 => hstep.bind fun r => match r with
    | some _ => steady_pure
    | none => hstep.repeatUntil bound

end Action

/-- Nothing that a read does with a transport of this kind fails the machine. -/
structure Transport.Steady (τ : Type) [Transport ω τ] : Prop where
  recv : ∀ room, Action.Steady (Transport.recv (τ := τ) room)
  setMode : ∀ mode, Action.Steady (Transport.setMode (τ := τ) mode)

theorem WaitMode.normalized_upTo {d : Span} (hd : 0 < d.nanos) :
    (upTo d).normalized = upTo d := by
  rw [normalized, if_neg (by simp [Span.isZero]; omega)]

/-- The deadline of a bounded wait fails just when the clock cannot show it. -/
theorem WaitMode.deadline?_eq_none_iff {d : Span} {now : Instant} (hd : 0 < d.nanos) :
    (upTo d).deadline? now = none ↔ Instant.limit ≤ now.nanos + d.nanos := by
  unfold deadline?
  rw [normalized_upTo hd]
  simp [Instant.add?_eq_none_iff]

namespace Connection

open ChannelReactor.Action

theorem onTransport_steady {call : Action ω IoError τ β} (hcall : Action.Steady call) :
    Action.Steady (onTransport call) := by
  intro c w h w' hhalts
  unfold onTransport at hhalts
  cases ht : c.transport with
  | none => rw [ht] at hhalts; cases hhalts
  | some t =>
    simp only [ht] at hhalts
    cases hrun : call t w with
    | done b t' w₁ => rw [hrun] at hhalts; cases hhalts
    | refused e t' w₁ => rw [hrun] at hhalts; cases hhalts
    | halted h₁ w₁ =>
      rw [hrun] at hhalts
      cases hhalts
      exact hcall t w h w' hrun

theorem takeInput_steady {count : Nat} {opts : ReadOptions} :
    Action.Steady (takeInput (ω := ω) (τ := τ) count opts) := by
  refine steady_subject.bind fun c => ?_
  split
  · exact steady_update.bind fun _ => steady_pure
  · exact steady_refuse

variable [Transport ω τ] {count : Nat}

theorem applyMode_steady (hsteady : Transport.Steady τ) {mode : WaitMode} :
    Action.Steady (applyMode (τ := τ) mode) := by
  refine (onTransport_steady (hsteady.setMode mode)).bind fun answer => ?_
  cases answer with
  | ok _ => exact steady_pure
  | error e => exact steady_refuse

theorem receive_steady (hsteady : Transport.Steady τ) : Action.Steady (receive (τ := τ)) := by
  refine steady_subject.bind fun c => Steady.repeatUntil (steady_subject.bind fun c =>
    (onTransport_steady (hsteady.recv c.chunk)).bind fun answer => ?_) _
  split
  · exact steady_update.bind fun _ => steady_pure
  · exact steady_update.bind fun _ => steady_pure
  · split
    · exact steady_pure
    · exact steady_pure
    · exact steady_update.bind fun _ => steady_refuse

variable [Machine ω]

theorem fillUntil_steady (hsteady : Transport.Steady τ) {deadline : Option Instant} :
    Action.Steady (fillUntil (τ := τ) count deadline) := by
  have hrest : Action.Steady (allowRest (τ := τ) deadline) := by
    cases deadline with
    | none => exact steady_pure
    | some deadline =>
      refine steady_ask.bind fun now => ?_
      split
      · exact steady_pure
      · exact (applyMode_steady hsteady).bind fun _ => steady_pure
  have hround : Action.Steady (fillRound (τ := τ) count deadline) := by
    refine steady_subject.bind fun c => ?_
    split
    · exact steady_pure
    · refine hrest.bind fun rest => ?_
      split
      · refine (receive_steady hsteady).bind fun r => ?_
        cases r <;> exact steady_pure
      · exact steady_pure
  refine Steady.repeatUntil (Steady.bind ?_ fun progress => ?_) _
  · exact steady_subject.bind fun _ => hround.repeatUntil _
  · cases progress <;> exact steady_pure

variable {c : Connection τ} {w w' : ω} {opts : ReadOptions}

/-- A wait that has a deadline which the clock can show, or none, only gets stuck. -/
theorem fill_steady (hsteady : Transport.Steady τ) {deadline : Option Instant}
    (hdeadline : c.core.mode.deadline? (Machine.now w) = some deadline) {h : Halt}
    (hhalts : fill count c w = .halted h w') : h = .spinning := by
  rw [fill, bind_apply, subject_apply] at hhalts
  dsimp only at hhalts
  rw [bind_apply, Action.deadline, bind_apply, now, ask_apply] at hhalts
  dsimp only at hhalts
  rw [hdeadline] at hhalts
  have hrest : Action.Steady (do
      let result ← attempt (fillUntil count deadline)
      if deadline.isSome && (← subject).transport.isSome then applyMode c.core.mode
      ofExcept result : Action ω ChannelError (Connection τ) Unit) := by
    refine (fillUntil_steady hsteady).attempt.bind fun result => steady_subject.bind fun c' => ?_
    split
    · exact (applyMode_steady hsteady).bind fun _ => steady_ofExcept
    · exact steady_ofExcept
  exact hrest c w h w' hhalts

theorem fill_overflows (hdeadline : c.core.mode.deadline? (Machine.now w) = none) :
    fill count c w = .halted .clockOverflow w := by
  rw [fill, bind_apply, subject_apply]
  dsimp only
  rw [bind_apply, Action.deadline, bind_apply, now, ask_apply]
  dsimp only
  rw [hdeadline]
  rfl

/-- At this instant a wait may set this mode: it is the connection's own, or it leaves the transport
just what there is left of the time. -/
def Rations (own : WaitMode) (deadline now : Instant) (mode : WaitMode) : Prop :=
  mode = own ∨ ∃ rest, mode = .upTo rest ∧ 0 < rest.nanos ∧ now.advance rest = deadline

/-- A step of a wait. -/
inductive WaitStep (own : WaitMode) (deadline : Instant) :
    Connection τ × ω → Connection τ × ω → Prop
  | call {c : Connection τ} {t t' : τ} {w w' : ω} {call : Call} (ht : c.transport = some t)
    (hm : call.Made t w t' w') (hmode : call.mode? = none) :
    WaitStep own deadline (c, w) ({ c with transport := some t' }, w')
  | core {c : Connection τ} {w : ω} {f : ChannelCore → ChannelCore} (hf : ChannelCore.Spares f) :
    WaitStep own deadline (c, w) (c.mapCore f, w)
  | set {c : Connection τ} {t t' : τ} {w w' : ω} {mode : WaitMode} (ht : c.transport = some t)
    (hmode : Rations own deadline (Machine.now w) mode)
    (hm : (Call.setMode mode (.ok ())).Made t w t' w') :
    WaitStep own deadline (c, w) ({ c with transport := some t' }, w')

/-- Steps of a wait lead from the first to the second: every mode that was set on the way leaves the
transport just what is left of the time, or is the connection's own. -/
abbrev Rationed (own : WaitMode) (deadline : Instant) :
    Connection τ × ω → Connection τ × ω → Prop :=
  Relation.ReflTransGen (WaitStep own deadline)

variable {own : WaitMode} {deadline : Instant} {o : Connection τ × ω}

theorem rationed_endures :
    Endures fun (c : Connection τ) (w : ω) => Rationed own deadline o (c, w) where
  call ho ht hm hmode := ho.tail (.call ht hm hmode)
  core hf ho := ho.tail (.core hf)

theorem applyMode_rationed {mode : WaitMode} (ho : Rationed own deadline o (c, w))
    (hmode : Rations own deadline (Machine.now w) mode) :
    (applyMode mode).Ends c w (fun _ c' w' => Rationed own deadline o (c', w'))
      (fun _ c' w' => Rationed own deadline o (c', w')) := by
  rw [applyMode, callTransport, ends_bind]
  refine onTransport_answers (fun t t' w' answer ht hx => ?_) (fun _ => ho)
  cases answer with
  | ok _ => exact ho.tail (.set ht hmode hx)
  | error e =>
    have hmade : (Call.setMode mode (.error e)).Made t w t' w' := hx
    exact ho.tail (.call ht hmade rfl)

/-- What is left until the deadline is computed only while there is something left. -/
theorem allowRest_rationed :
    Keeps (fun c w => Rationed own deadline o (c, w)) (allowRest (τ := τ) (some deadline)) := by
  intro c w ho
  rw [allowRest, ends_bind, now, ends_ask]
  split
  · exact ho
  · rename_i hearly
    rw [ends_bind]
    refine (applyMode_rationed ho (.inr ⟨_, rfl, ?_, ?_⟩)).mono (fun _ _ _ h => h) fun _ _ _ h => h
    all_goals
      simp only [Instant.le_iff, Instant.advance, Instant.since] at hearly ⊢
      first | omega | exact congrArg Instant.mk (by omega)

theorem fill_rationed {d : Span} (hmode : c.core.mode = .upTo d) (hd : 0 < d.nanos) :
    (fill count).Ends c w
      (fun _ c' w' => Rationed (.upTo d) ((Machine.now w).advance d) (c, w) (c', w'))
      (fun _ c' w' => Rationed (.upTo d) ((Machine.now w).advance d) (c, w) (c', w')) := by
  have hblocks : c.core.mode.isBlocking = true := by
    rw [hmode, WaitMode.isBlocking, WaitMode.normalized_upTo hd]
    rfl
  refine fill_ends (P := fun _ _ c₁ w₁ =>
      Rationed (.upTo d) ((Machine.now w).advance d) (c, w) (c₁, w₁))
    (fun _ hdeadline => ?_) (fun _ result c₁ w₁ h => keeps_ofExcept c₁ w₁ h)
    (fun _ result c₁ w₁ h => ?_)
  · cases WaitMode.deadline_upTo hblocks hmode hdeadline
    exact rationed_endures.fillUntil_of_rest count allowRest_rationed c w .refl
  · exact (applyMode_rationed h (.inl hmode)).mono
      (fun _ c' w' h => keeps_ofExcept c' w' h) (fun _ _ _ h => h)

theorem takeInput_rationed (ho : Rationed own deadline o (c, w)) :
    (takeInput count opts).Ends c w (fun _ c' w' => Rationed own deadline o (c', w'))
      (fun _ c' w' => Rationed own deadline o (c', w')) :=
  rationed_endures.takeInput count opts c w ho

/-- A mode that was accepted is the mode of the connection, in its normal form. -/
theorem setMode_records {mode : WaitMode} {c' : Connection τ}
    (h : ChannelOps.setMode mode c w = .done () c' w') : c'.core.mode = mode.normalized := by
  have he : (ChannelOps.setMode mode).Ends c w
      (fun _ (c' : Connection τ) _ => c'.core.mode = mode.normalized) (fun _ _ _ => True) := by
    rw [ChannelOps.setMode, ends_bind, ends_subject]
    split
    · trivial
    · rw [ends_bind]
      exact .of_outcome (fun _ _ _ _ => WaitMode.normalized_normalized mode)
        (fun _ _ _ _ => trivial)
  exact he.done h

/-- A read that has to wait for a while halts just when its deadline does. -/
theorem waiting_overflows_iff (hsteady : Transport.Steady τ) {d : Span} (hd : 0 < d.nanos)
    (hmode : c.core.mode = .upTo d) :
    (∃ h w', (do
        fill count
        takeInput count opts : Action ω ChannelError (Connection τ) Bytes) c w = .halted h w' ∧
      h ≠ .spinning) ↔ Instant.limit ≤ (Machine.now w).nanos + d.nanos := by
  rw [← WaitMode.deadline?_eq_none_iff hd, ← hmode]
  constructor
  · rintro ⟨h, w', hhalts, hother⟩
    refine Option.eq_none_iff_forall_ne_some.mpr fun deadline hdeadline => hother ?_
    rw [bind_apply] at hhalts
    cases hfill : fill count c w with
    | done a c₁ w₁ =>
      rw [hfill] at hhalts
      exact takeInput_steady c₁ w₁ h w' hhalts
    | refused e c₁ w₁ => rw [hfill] at hhalts; cases hhalts
    | halted h₁ w₁ =>
      rw [hfill] at hhalts
      cases hhalts
      exact fill_steady hsteady hdeadline hfill
  · intro hnone
    refine ⟨.clockOverflow, w, ?_, by decide⟩
    rw [bind_apply, fill_overflows hnone]

/-- Once a span was accepted as the bound of a connection's mode, every read in that mode halts for
good, other than by being stuck, just when it has to wait, for a span that is not empty, and the
instant at which the wait would have to end is none that the clock can show. Whatever the clock
shows while a read waits, it is never asked for anything else that it cannot show: every mode that
is set below leaves just what is left of the time, which is something, or is put back. -/
theorem read_overflows_iff (hsteady : Transport.Steady τ) {d : Span} {c₀ c₁ : Connection τ}
    {w₀ w₁ : ω} (hset : ChannelOps.setMode (.upTo d) c₀ w₀ = .done () c₁ w₁)
    (hmode : c.core.mode = c₁.core.mode) (count : Nat) (opts : ReadOptions) :
    ((∃ h w', read count opts c w = .halted h w' ∧ h ≠ .spinning) ↔
      c.Short count ∧ 0 < d.nanos ∧ Instant.limit ≤ (Machine.now w).nanos + d.nanos) ∧
    (read count opts).Ends c w
      (fun _ c' w' => Rationed (.upTo d) ((Machine.now w).advance d) (c, w) (c', w'))
      (fun _ c' w' => Rationed (.upTo d) ((Machine.now w).advance d) (c, w) (c', w')) := by
  rw [setMode_records hset] at hmode
  by_cases hwaits : 0 < d.nanos ∧ c.Short count
  · obtain ⟨hd, hshort⟩ := hwaits
    rw [WaitMode.normalized_upTo hd] at hmode
    have hread : read count opts c w = (do
        fill count
        takeInput count opts : Action ω ChannelError (Connection τ) Bytes) c w := by
      have hblocks : c.core.mode.isBlocking = true := by
        rw [hmode, WaitMode.isBlocking, WaitMode.normalized_upTo hd]
        rfl
      rw [read, bind_apply, subject_apply]
      dsimp only
      rw [if_pos (by simp [hblocks, hshort.1, hshort.2])]
    refine ⟨?_, Ends.of_run hread ?_⟩
    · rw [hread, waiting_overflows_iff hsteady hd hmode]
      exact ⟨fun hlimit => ⟨hshort, hd, hlimit⟩, fun h => h.2.2⟩
    · rw [ends_bind]
      exact (fill_rationed hmode hd).mono (fun _ _ _ h => takeInput_rationed h) fun _ _ _ h => h
  · -- There is nothing to wait for, or no time to wait.
    have hready : c.core.mode.isBlocking = false ∨ c.core.active = false ∨
        count ≤ c.core.input.size := by
      rcases Decidable.not_and_iff_not_or_not.mp hwaits with hd | hshort
      · have hnone : (WaitMode.upTo d).normalized = .nonblocking := by
          rw [WaitMode.normalized, if_pos (by simp [Span.isZero]; omega)]
        exact .inl (by rw [hmode, hnone]; rfl)
      · exact .inr (not_short_iff.mp hshort).symm
    have hread := (read_eq_takeInput hready : read count opts c w = _)
    refine ⟨⟨fun hhalted => ?_, fun hdue => absurd ⟨hdue.2.1, hdue.1⟩ hwaits⟩,
      Ends.of_run hread (takeInput_rationed .refl)⟩
    obtain ⟨h, w', hhalts, hother⟩ := hhalted
    exact absurd (takeInput_steady c w h w' (hread ▸ hhalts)) hother

end Connection

namespace Scenario.Wire

open ChannelReactor.Action

theorem recv_steady (limit : Nat) : Action.Steady (recv limit) := by
  have hdelivers (data : Bytes) : Action.Steady (delivers data) :=
    steady_subject.bind fun _ => steady_onMachine.bind fun _ => steady_pure
  have hfails (e : IoError) : Action.Steady (recvFails e) :=
    steady_subject.bind fun _ => steady_onMachine.bind fun _ => steady_refuse
  have hbeyond : Action.Steady (recvBeyond limit) := by
    refine steady_subject.bind fun w => ?_
    split
    · exact hdelivers _
    · cases w.mode with
      | nonblocking => exact hfails _
      | upTo d => exact steady_onMachine.bind fun _ => hfails _
      | forever => exact hfails _
  refine steady_subject.bind fun w => ?_
  cases w.script.recv with
  | nil => exact hbeyond
  | cons entry rest =>
    refine steady_onMachine.bind fun _ => ?_
    cases entry.act with
    | data bytes => exact steady_update.bind fun _ => hdelivers _
    | ended => exact steady_update.bind fun _ => hdelivers _
    | fails e => exact steady_update.bind fun _ => hfails _

theorem setMode_steady (mode : WaitMode) : Action.Steady (setMode mode) := by
  refine steady_subject.bind fun w => steady_update.bind fun _ => ?_
  split
  · exact steady_onMachine.bind fun _ => steady_update
  · exact steady_onMachine.bind fun _ => steady_refuse

/-- Whatever is done with a wire does not fail the bench. -/
theorem steady : Transport.Steady Wire := ⟨recv_steady, setMode_steady⟩

end Scenario.Wire

namespace Connection

open Scenario

/-- A connection to a wire that has a byte to read. -/
def hearing : Connection Wire where
  core := .new .forever "hearing"
  transport := some { name := "hearing", script := { recv := [{ act := .data [97] }] } }
  chunk := 4
  policy := .plain

/-- All seconds of the clock are taken as the bound of a mode, and the next read halts although
there is a byte to read. -/
theorem read_overflows_iff_hearing :
    Transport.Steady Wire ∧
    ∃ (d : Span) (c : Connection Wire) (w w' : Bench) (h : Halt),
      ChannelOps.setMode (.upTo d) hearing ({} : Bench) = .done () c w ∧
      read 1 {} c w = .halted h w' ∧ h ≠ .spinning ∧
      (read 1 {}).Ends c w
        (fun _ c' w' => Rationed (.upTo d) ((Machine.now w).advance d) (c, w) (c', w'))
        (fun _ c' w' => Rationed (.upTo d) ((Machine.now w).advance d) (c, w) (c', w')) := by
  have hrun : (ChannelOps.setMode (.upTo (.ofParts 9223372036854775808 0)) hearing ({} : Bench)).any
      (fun _ c w => c.core.active && decide (c.core.input.size < 1) &&
        decide (Instant.limit ≤ (Machine.now w).nanos +
          (Span.ofParts 9223372036854775808 0).nanos)) = true := by
    decide +kernel
  obtain ⟨_, c, w, hset, hfacts⟩ := Outcome.any_eq_true.mp hrun
  simp only [Bool.and_eq_true, decide_eq_true_eq] at hfacts
  obtain ⟨⟨hactive, hsize⟩, hlimit⟩ := hfacts
  obtain ⟨hoverflows, hrationed⟩ :=
    read_overflows_iff (w := w) Wire.steady hset rfl 1 {}
  obtain ⟨h, w', hhalts, hother⟩ := hoverflows.mpr ⟨⟨hactive, hsize⟩, by decide, hlimit⟩
  exact ⟨Wire.steady, _, c, w, w', h, hset, hhalts, hother, hrationed⟩

end Connection

end ChannelReactor
