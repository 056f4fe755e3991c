import ChannelReactor.Proofs.Gathering
import ChannelReactor.Proofs.Possession
import Mathlib.Data.Stream.Init

/-! # Two paths of a read

A read that waits and a read on readiness receive in loops of their own, and come to the same over
the same transport (`read_paths_agree`). The transport is known by the answers that it gives to
receives (`Supplies`). These decide what is gathered, in any mode (`decided_of_pauses`), and both
paths follow the gathering to its end. -/
namespace ChannelReactor

variable {ω τ : Type}

/-- The answer to a receive is an error that passes. -/
def Policy.Passes (policy : Policy) (answer : Except IoError Bytes) : Prop :=
  ∃ e, answer = .error e ∧ policy.judge .recv e ≠ .fatal

/-- The transport gives these answers to its receives, one after another. Wherever it is in them, it
has the patience for the errors that pass before something else comes. -/
def Supplies [Transport ω τ] (policy : Policy) (room : Nat)
    (answers : Stream' (Except IoError Bytes)) (t : τ) (w : ω) : Prop :=
  ∃ run : Stream' (τ × ω), run.head = (t, w) ∧ ∀ n,
    (Transport.recv room).Answers (run.get n).1 (run.get n).2 (answers.get n) (run.get (n + 1)).1
      (run.get (n + 1)).2 ∧
    ∃ k ≤ Transport.patience (run.get n).1, ¬ policy.Passes (answers.get (n + k))

section

variable [Transport ω τ] {policy : Policy} {room : Nat} {answers : Stream' (Except IoError Bytes)}
variable {t : τ} {w : ω}

theorem Supplies.next (hs : Supplies policy room answers t w) : ∃ t' w',
    (Transport.recv room).Answers t w answers.head t' w' ∧
      Supplies policy room answers.tail t' w' := by
  obtain ⟨run, hstart, hrun⟩ := hs
  have hfirst := (hrun 0).1
  rw [show run.get 0 = (t, w) from hstart] at hfirst
  refine ⟨_, _, hfirst, run.tail, rfl, fun n => ?_⟩
  obtain ⟨hx, k, hk, hpause⟩ := hrun (n + 1)
  exact ⟨hx, k, hk, by rwa [Nat.add_right_comm] at hpause⟩

theorem Supplies.pause (hs : Supplies policy room answers t w) :
    ∃ k ≤ Transport.patience t, ¬ policy.Passes (answers.get k) := by
  obtain ⟨run, hstart, hrun⟩ := hs
  obtain ⟨k, hk, hpause⟩ := (hrun 0).2
  rw [show run.get 0 = (t, w) from hstart] at hk
  exact ⟨k, hk, by rwa [Nat.zero_add] at hpause⟩

theorem Supplies.pauses (hs : Supplies policy room answers t w) (n : Nat) :
    ∃ k, ¬ policy.Passes (answers.get (n + k)) := by
  obtain ⟨run, -, hrun⟩ := hs
  obtain ⟨k, -, hpause⟩ := (hrun n).2
  exact ⟨k, hpause⟩

theorem Policy.not_passes_ok {data : Bytes} : ¬ policy.Passes (.ok data) := fun ⟨_, h, _⟩ => by
  cases h

theorem Supplies.cons {answer : Except IoError Bytes} {t' : τ} {w' : ω}
    (hx : (Transport.recv room).Answers t w answer t' w')
    (hpause : ∃ k ≤ Transport.patience t, ¬ policy.Passes ((Stream'.cons answer answers).get k))
    (hs : Supplies policy room answers t' w') :
    Supplies policy room (Stream'.cons answer answers) t w := by
  obtain ⟨run, hstart, hrun⟩ := hs
  refine ⟨Stream'.cons (t, w) run, rfl, fun n => ?_⟩
  cases n with
  | zero =>
    change (Transport.recv room).Answers t w answer run.head.1 run.head.2 ∧ _
    rw [hstart]
    exact ⟨hx, by simpa using hpause⟩
  | succ n =>
    obtain ⟨hx, k, hk, hpause⟩ := hrun n
    exact ⟨hx, k, hk, by rwa [Nat.add_right_comm]⟩

/-- A transport that gives the same answer again and again. -/
theorem Supplies.const {answer : Except IoError Bytes} (hpause : ¬ policy.Passes answer)
    (hx : ∀ w : ω, ∃ w', (Transport.recv room).Answers t w answer t w') :
    Supplies policy room (Stream'.const answer) t w := by
  choose next hnext using hx
  exact ⟨fun n => (t, (Stream'.iterate next w).get n), rfl, fun n =>
    ⟨hnext _, 0, Nat.zero_le _, hpause⟩⟩

end

namespace Connection

variable [Transport ω τ]

/-- The connection in this mode, over this transport. -/
def through (mode : WaitMode) (t : τ) (c : Connection τ) : Connection τ :=
  { c with core := { c.core with mode }, transport := some t }

/-- These answers decide what is gathered from here on: it is the same in every mode and over every
transport that gives them, and takes the same number of them. -/
def Decided (count : Nat) (answers : Stream' (Except IoError Bytes)) (c : Connection τ) : Prop :=
  ∃ (used : Nat) (failure : Option IoError) (c' : Connection τ),
    ∀ (mode : WaitMode) (t : τ) (w : ω), Supplies c.policy c.chunk answers t w → ∃ m t' w',
      (∀ k, ¬ c.policy.Passes (answers.get k) → m ≤ k) ∧
      Gathers count m (c.through mode t, w) failure (c'.through mode t', w') ∧
      Supplies c.policy c.chunk (answers.drop used) t' w'

omit [Transport ω τ] in
theorem received_through {c : Connection τ} {mode : WaitMode} {t t' : τ}
    {answer : Except IoError Bytes} :
    (c.through mode t).received answer t' = (c.heard answer).through mode t' := by
  have hcore : afterCall c.policy { c.core with mode } (.recv c.chunk answer) =
      { afterCall c.policy c.core (.recv c.chunk answer) with mode } := by
    match answer with
    | .ok [] => rfl
    | .ok (b :: data) => rfl
    | .error e =>
      simp only [afterCall, afterError]
      split <;> rfl
  simp only [received, heard, through, mapCore, hcore]

section

variable {count : Nat} {c : Connection τ} {answers : Stream' (Except IoError Bytes)}

theorem decided_enough (h : ¬ c.Short count) : c.Decided (ω := ω) count answers :=
  ⟨0, none, c, fun _ t w hs => ⟨0, t, w, fun k _ => Nat.zero_le k, .enough h, hs⟩⟩

theorem decided_fails {e : IoError} (h : c.Short count) (ha : answers.head = .error e)
    (he : c.policy.judge .recv e = .fatal) : c.Decided (ω := ω) count answers := by
  refine ⟨1, some e, c.heard (.error e), fun mode t w hs => ?_⟩
  obtain ⟨t', w', hx, hnext⟩ := hs.next
  rw [ha] at hx
  refine ⟨0, t', w', fun k _ => Nat.zero_le k, ?_, hnext⟩
  rw [← received_through (t := t)]
  exact .fails h rfl hx he

theorem decided_brings {data : Bytes} (h : c.Short count) (ha : answers.head = .ok data)
    (hrest : (c.heard (.ok data)).Decided (ω := ω) count answers.tail) :
    c.Decided (ω := ω) count answers := by
  obtain ⟨used, failure, c', hrest⟩ := hrest
  refine ⟨used + 1, failure, c', fun mode t w hs => ?_⟩
  obtain ⟨t', w', hx, hnext⟩ := hs.next
  rw [ha] at hx
  obtain ⟨m, t'', w'', -, hg, hs'⟩ := hrest mode t' w' hnext
  rw [← received_through (t := t)] at hg
  exact ⟨0, t'', w'', fun k _ => Nat.zero_le k, .brings h rfl hx hg, hs'⟩

theorem decided_passes {e : IoError} (h : c.Short count) (ha : answers.head = .error e)
    (he : c.policy.judge .recv e ≠ .fatal) (hrest : c.Decided (ω := ω) count answers.tail) :
    c.Decided (ω := ω) count answers := by
  obtain ⟨used, failure, c', hrest⟩ := hrest
  refine ⟨used + 1, failure, c', fun mode t w hs => ?_⟩
  obtain ⟨t', w', hx, hnext⟩ := hs.next
  rw [ha] at hx
  obtain ⟨m, t'', w'', hm, hg, hs'⟩ := hrest mode t' w' hnext
  have hbound (k : Nat) (hk : ¬ c.policy.Passes (answers.get k)) : m + 1 ≤ k := by
    cases k with
    | zero => exact absurd ⟨e, ha, he⟩ hk
    | succ k => exact Nat.succ_le_succ (hm k hk)
  obtain ⟨k, hpatience, hk⟩ := hs.pause
  have hpass : (c.through mode t).received (.error e) t' = c.through mode t' := received_passing he
  rw [← hpass] at hg
  exact ⟨m + 1, t'', w'', hbound,
    .passes h rfl hx he (Nat.lt_of_lt_of_le (hbound k hk) hpatience) hg, hs'⟩

end

/-- With only so many errors that pass in a row, answers decide what is gathered. -/
theorem decided_of_pauses (count : Nat) (c : Connection τ)
    (answers : Stream' (Except IoError Bytes))
    (hpauses : ∀ n, ∃ k, ¬ c.policy.Passes (answers.get (n + k))) :
    c.Decided (ω := ω) count answers := by
  -- Blocks and the end bring the connection nearer, errors that pass bring the next of them nearer.
  induction hmissing : c.missing count using Nat.strongRecOn generalizing c answers with
  | _ missing ih =>
    by_cases hshort : c.Short count
    case neg => exact decided_enough hshort
    obtain ⟨k, hk⟩ := hpauses 0
    rw [Nat.zero_add] at hk
    induction k using Nat.strongRecOn generalizing answers with
    | _ k ihk =>
      have htail (n : Nat) : ∃ k, ¬ c.policy.Passes (answers.tail.get (n + k)) := by
        obtain ⟨k, hk⟩ := hpauses (n + 1)
        exact ⟨k, by rwa [Nat.add_right_comm] at hk⟩
      cases ha : answers.head with
      | ok data =>
        have hless : (c.heard (.ok data)).missing count < missing := hmissing ▸ missing_heard hshort
        exact decided_brings hshort ha (ih _ hless _ _ htail rfl)
      | error e =>
        by_cases he : c.policy.judge .recv e = .fatal
        · exact decided_fails hshort ha he
        · cases k with
          | zero => exact absurd ⟨e, ha, he⟩ hk
          | succ k => exact decided_passes hshort ha he (ihk k (Nat.lt_succ_self k) _ htail hk)

/-- One call of a channel that is short of `count` bytes; none when it may be short still. A failure
is the end of it. -/
def readyRound (count : Nat) : Action ω ChannelError (Connection τ) (Option Unit) := do
  let c ← Action.subject
  if c.core.active && decide (c.core.input.size < count) then
    match ← Action.attempt onRead with
    | .error (.failed e) => Action.refuse (.failed e)
    | _ => pure none
  else pure (some ())

/-- Calls a channel that is short of `count` bytes until it is not, and then reads. -/
def readWhenReady [Machine ω] (rounds count : Nat) (opts : ReadOptions) :
    Action ω ChannelError (Connection τ) Bytes := do
  Action.repeatUntil rounds (readyRound count)
  read count opts

variable {count n : Nat} {c c' : Connection τ} {w w' : ω} {q : Connection τ × ω}
variable {failure : Option IoError}

/-- The same is still to be gathered, and there is less that comes before it. -/
def Nearer (count n : Nat) (c : Connection τ) (failure : Option IoError) (q : Connection τ × ω)
    (c' : Connection τ) (w' : ω) : Prop :=
  ∃ m, Gathers count m (c', w') failure q ∧
    Prod.Lex (· < ·) (· < ·) (c'.missing count, m) (c.missing count, n)

theorem Gained.nearer (h : Gained count c failure q c' w') : Nearer count n c failure q c' w' := by
  obtain ⟨hless, m, hg⟩ := h
  exact ⟨m, hg, .left _ _ hless⟩

theorem Paused.nearer (h : Paused count n c failure q c' w') : Nearer count n c failure q c' w' := by
  obtain ⟨hc, m, hm, hg⟩ := h
  refine ⟨m, hg, ?_⟩
  rw [missing_congr hc]
  exact .right _ hm

theorem onRead_gathers (hp : c.policy = .plain) (hl : c.lingering = false)
    (hg : Gathers count n (c, w) failure q) (h : c.Short count) :
    onRead.Completes c w (fun _ c' w' => Nearer count n c failure q c' w')
      (fun e c' w' => FailsWith failure q e c' w' ∨
        e = .closed ∧ Nearer count n c failure q c' w') := by
  -- Under the plain policy one block is all that is taken at a time.
  unfold Action.Completes
  rw [onRead_active h.1 hl, hp, Policy.drainsReads, Bool.false_and, drainInput]
  change Action.Completes _ c w _ _
  rw [Action.completes_bind]
  refine (receive_gathers hg h).mono (fun r c' w' hr => ?_) (fun e c' w' hr => .inl hr)
  cases r with
  | data =>
    rw [Action.completes_bind, Action.completes_subject]
    exact Gained.nearer hr
  | ended => exact .inr ⟨rfl, Gained.nearer hr⟩
  | wouldBlock => exact Paused.nearer hr

theorem readyRound_gathers (hp : q.1.policy = .plain) (hl : q.1.lingering = false)
    (hg : Gathers count n (c, w) failure q) :
    (readyRound count).Completes c w
      (fun r c' w' => match r with
        | some () => IsOver failure q c' w'
        | none => Nearer count n c failure q c' w')
      (FailsWith failure q) := by
  obtain ⟨hpolicy, hlingering⟩ := hg.kept
  rw [readyRound, Action.completes_bind, Action.completes_subject]
  split
  · rename_i hshort
    have hs : c.Short count := by simpa [Short] using hshort
    rw [Action.completes_bind, Action.completes_attempt]
    refine (onRead_gathers (hpolicy ▸ hp) (hlingering ▸ hl) hg hs).mono (fun _ _ _ hr => hr)
      (fun e c' w' hr => ?_)
    obtain ⟨cause, hfailure, rfl, hq⟩ | ⟨rfl, hnearer⟩ := hr
    · exact ⟨cause, hfailure, rfl, hq⟩
    · exact hnearer
  · rename_i hready
    exact hg.of_not_short (by simpa [Short] using hready)

theorem readyRounds_gather (hp : q.1.policy = .plain) (hl : q.1.lingering = false)
    (hg : Gathers count n (c, w) failure q) :
    ∃ enough, ∀ rounds, enough ≤ rounds →
      (Action.repeatUntil rounds (readyRound count)).Completes c w
        (fun _ => IsOver failure q) (FailsWith failure q) := by
  have hwf : WellFounded (Prod.Lex (· < ·) (· < ·) : Nat × Nat → Nat × Nat → Prop) :=
    (Prod.lex Nat.lt_wfRel Nat.lt_wfRel).wf
  refine Action.Completes.repeatUntil_wf hwf
    (I := fun i c' w' => c'.missing count = i.1 ∧ Gathers count i.2 (c', w') failure q)
    (fun i c' w' hi => ?_) (c.missing count, n) c w ⟨rfl, hg⟩
  obtain ⟨hi, hg⟩ := hi
  refine (readyRound_gathers hp hl hg).mono (fun r c'' w'' hr => ?_) (fun _ _ _ hr => hr)
  cases r with
  | some _ => exact hr
  | none =>
    obtain ⟨m, hg', hless⟩ := hr
    exact ⟨_, hi ▸ hless, rfl, hg'⟩

theorem readWhenReady_gathers [Machine ω] (hp : c.policy = .plain) (hl : c.lingering = false)
    (hg : Gathers count n (c, w) failure (c', w')) (opts : ReadOptions) :
    ∃ enough, ∀ rounds, enough ≤ rounds →
      (readWhenReady rounds count opts).Answers c w (gathered count opts failure c')
        (c'.afterRead count opts failure) w' := by
  obtain ⟨hpolicy, hlingering⟩ := hg.kept
  obtain ⟨enough, hrounds⟩ := readyRounds_gather (hpolicy.trans hp) (hlingering.trans hl) hg
  refine ⟨enough, fun rounds hr => answers_of_gathers hg (hrounds rounds hr) fun hready => ?_⟩
  exact read_eq_takeInput (.inr (not_short_iff.mp hready).symm)

omit [Transport ω τ] in
theorem gathered_through {mode : WaitMode} {t : τ} {opts : ReadOptions} :
    gathered count opts failure (c.through mode t) = gathered count opts failure c := by
  cases failure <;> rfl

omit [Transport ω τ] in
theorem afterRead_through {mode : WaitMode} {t : τ} {opts : ReadOptions} :
    (c.through mode t).afterRead count opts failure =
      (c.afterRead count opts failure).through mode t := by
  cases failure <;> rfl

/-- Over transports that give the same answers to receives, with only so many errors that pass in a
row, a plain connection that waits without end and the same connection without waiting, which is
called while it is short of `count` bytes and then read, have the same result, and are left the same,
with the same answers still to come. -/
theorem read_paths_agree [Machine ω] {c₀ c : Connection τ} (hmade : c₀.Established)
    (hops : ChannelOps.Operated c₀ c) (hplain : c.policy = .plain) (hactive : c.core.active = true)
    (hmode : c.core.mode = .forever) {t u : τ} {w v : ω} (ht : c.transport = some t)
    {answers : Stream' (Except IoError Bytes)} (hwaits : Supplies .plain c.chunk answers t w)
    (hready : Supplies .plain c.chunk answers u v) (count : Nat) (opts : ReadOptions) :
    ∃ (result : Except ChannelError Bytes) (c' : Connection τ) (used : Nat) (t' : τ) (w' : ω)
      (u' : τ) (v' : ω),
      (read count opts).Answers c w result (c'.through .forever t') w' ∧
      (∃ enough, ∀ rounds, enough ≤ rounds →
        (readWhenReady rounds count opts).Answers (c.through .nonblocking u) v result
          (c'.through .nonblocking u') v') ∧
      Supplies .plain c.chunk (answers.drop used) t' w' ∧
      Supplies .plain c.chunk (answers.drop used) u' v' := by
  have hlingering : c.lingering = false := (operated_possesses hmade hops).not_lingering hactive
  obtain ⟨used, failure, c', hdecided⟩ :=
    decided_of_pauses (ω := ω) count c answers (hplain ▸ hwaits.pauses)
  obtain ⟨m, t', w', -, hg, hs⟩ := hdecided .forever t w (hplain ▸ hwaits)
  obtain ⟨n, u', v', -, hg', hs'⟩ := hdecided .nonblocking u v (hplain ▸ hready)
  have hsame : c.through .forever t = c := by
    rw [through, ← hmode, ← ht]
  rw [hsame] at hg
  refine ⟨gathered count opts failure c', c'.afterRead count opts failure, used, t', w', u', v', ?_,
    ?_, hplain ▸ hs, hplain ▸ hs'⟩
  · have hread := read_gathers hmode hg opts
    rwa [gathered_through, afterRead_through] at hread
  · have hread := readWhenReady_gathers (c := c.through .nonblocking u) hplain hlingering hg' opts
    simpa only [gathered_through, afterRead_through] using hread

/-- A wire with this script, and then input without end. -/
def floodingWire (mode : WaitMode) (entries : List Scenario.RecvEntry) : Scenario.Wire where
  name := "flooding"
  mode := mode
  script.recv := entries
  script.flood := true

/-- It is interrupted, and then blocked, between its first bytes. -/
def floodingEntries : List Scenario.RecvEntry :=
  [{ act := .data [1, 2, 3] }, { act := .fails (.bare .interrupted) },
    { act := .fails (.bare .wouldBlock) }, { act := .data [4] }]

/-- The answers of the wire to receives of two bytes. -/
def floodingAnswers : Stream' (Except IoError Bytes) :=
  Stream'.cons (.ok [1, 2]) <| Stream'.cons (.ok [3]) <|
    Stream'.cons (.error (.bare .interrupted)) <| Stream'.cons (.error (.bare .wouldBlock)) <|
    Stream'.cons (.ok [4]) <| Stream'.const (.ok (List.replicate 2 'x'.toUInt8))

theorem floodingWire_supplies (mode : WaitMode) (w : Scenario.Bench) :
    Supplies .plain 2 floodingAnswers (floodingWire mode floodingEntries) w := by
  have hnow {data : Bytes} {answers : Stream' (Except IoError Bytes)} {t : Scenario.Wire} :
      ∃ k ≤ Transport.patience t, ¬ Policy.plain.Passes ((Stream'.cons (.ok data) answers).get k) :=
    ⟨0, Nat.zero_le _, Policy.not_passes_ok⟩
  have hflood (w : Scenario.Bench) : Supplies .plain 2
      (Stream'.const (.ok (List.replicate 2 'x'.toUInt8))) (floodingWire mode []) w :=
    .const Policy.not_passes_ok fun _ => ⟨_, rfl⟩
  unfold floodingAnswers
  exact .cons rfl hnow <| .cons rfl hnow <|
    .cons rfl ⟨2, Nat.le_of_ble_eq_true rfl, Policy.not_passes_ok⟩ <|
    .cons rfl ⟨1, Nat.le_of_ble_eq_true rfl, Policy.not_passes_ok⟩ <|
    .cons rfl hnow (hflood _)

/-- Both are held up twice, and stop at the receive that brings the fifth byte. -/
theorem read_paths_agree_floodingWire :
    ∃ (c : Connection Scenario.Wire) (t u : Scenario.Wire) (w v : Scenario.Bench),
      (c.Established ∧ ChannelOps.Operated c c ∧ c.policy = .plain ∧ c.core.active = true ∧
        c.core.mode = .forever ∧ c.transport = some t ∧
        Supplies .plain c.chunk floodingAnswers t w ∧
        Supplies .plain c.chunk floodingAnswers u v) ∧
      ∃ (result : Except ChannelError Bytes) (c' : Connection Scenario.Wire) (used : Nat)
        (t' : Scenario.Wire) (w' : Scenario.Bench) (u' : Scenario.Wire) (v' : Scenario.Bench),
        result = .ok [1, 2, 3, 4, 'x'.toUInt8] ∧
        (read 5 {}).Answers c w result (c'.through .forever t') w' ∧
        (∃ enough, ∀ rounds, enough ≤ rounds →
          (readWhenReady rounds 5 {}).Answers (c.through .nonblocking u) v result
            (c'.through .nonblocking u') v') ∧
        Supplies .plain c.chunk (floodingAnswers.drop used) t' w' ∧
        Supplies .plain c.chunk (floodingAnswers.drop used) u' v' := by
  let t := floodingWire .forever floodingEntries
  let c : Connection Scenario.Wire :=
    { core := .new .forever (Transport.describe t), transport := some t, chunk := 2,
      policy := .plain }
  have hmade : c.Established := ⟨.plain, { readChunk := 2 }, t, {}, _, rfl⟩
  have hops : ChannelOps.Operated c c := .refl
  have hwaits : Supplies .plain 2 floodingAnswers t {} := floodingWire_supplies _ _
  have hready : Supplies .plain 2 floodingAnswers (floodingWire .nonblocking floodingEntries) {} :=
    floodingWire_supplies _ _
  obtain ⟨result, c', used, t', w', u', v', hread, hrest⟩ :=
    read_paths_agree hmade hops rfl rfl rfl rfl hwaits hready 5 {}
  have hrun : (read 5 {} c {}).value? = some [1, 2, 3, 4, 'x'.toUInt8] := by decide +kernel
  have hresult : result = .ok [1, 2, 3, 4, 'x'.toUInt8] := by
    cases result with
    | ok data =>
      rw [show read 5 {} c {} = .done data _ _ from hread] at hrun
      exact congrArg Except.ok (Option.some.inj hrun)
    | error e =>
      rw [show read 5 {} c {} = .refused e _ _ from hread] at hrun
      cases hrun
  exact ⟨c, t, _, {}, {}, ⟨hmade, hops, rfl, rfl, rfl, rfl, hwaits, hready⟩, result, c', used, t',
    w', u', v', hresult, hread, hrest⟩

end Connection

end ChannelReactor
