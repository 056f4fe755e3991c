import ChannelReactor.Proofs.Completion
import ChannelReactor.Proofs.Inactivity

/-! # Gathering input

A connection that is short of bytes receives, one time after another, until it is not short any
more. `Gathers` says what such receives make of it, whatever has them made, and every function that
makes them has a lemma that it follows a gathering to its end. That it gets there is part of each
lemma: errors that pass come no more often in a row than the transport's patience allows, and
whatever else comes brings the connection nearer to what it is short of (`missing`), so that no loop
runs out of rounds. -/
namespace ChannelReactor.Connection

variable {ω τ : Type}

theorem onTransport_completes {α : Type} {call : Action ω IoError τ α} {c : Connection τ}
    {t t' : τ} {w w' : ω} {answer : Except IoError α}
    {Q : Except IoError α → Connection τ → ω → Prop} {R : ChannelError → Connection τ → ω → Prop}
    (ht : c.transport = some t) (hx : call.Answers t w answer t' w')
    (hq : Q answer { c with transport := some t' } w') : (onTransport call).Completes c w Q R := by
  unfold Action.Completes
  rw [onTransport_done ht hx]
  exact hq

variable [Transport ω τ]

/-- The connection is short of `count` bytes, and more may come. -/
def Short (count : Nat) (c : Connection τ) : Prop :=
  c.core.active = true ∧ c.core.input.size < count

omit [Transport ω τ] in
theorem not_short_iff {count : Nat} {c : Connection τ} :
    ¬ c.Short count ↔ count ≤ c.core.input.size ∨ c.core.active = false := by
  unfold Short
  cases c.core.active <;> simp

/-- The connection with what this answer to a receive makes of its core. -/
def heard (c : Connection τ) (answer : Except IoError Bytes) : Connection τ :=
  c.mapCore fun core => afterCall c.policy core (.recv c.chunk answer)

/-- The connection after a receive with this answer, which leaves this transport. -/
def received (c : Connection τ) (answer : Except IoError Bytes) (t : τ) : Connection τ :=
  { c.heard answer with transport := some t }

/-- Receives, one after another, bring a connection that is short of `count` bytes to one that is
not, or to a failure. Errors that pass are counted until something else comes, and there are no more
of them in a row than the transport's patience allows. -/
inductive Gathers (count : Nat) :
    Nat → Connection τ × ω → Option IoError → Connection τ × ω → Prop
  | enough {p : Connection τ × ω} (h : ¬ p.1.Short count) : Gathers count 0 p none p
  | passes {n : Nat} {c : Connection τ} {w w' : ω} {t t' : τ} {e : IoError}
    {failure : Option IoError} {q : Connection τ × ω} (h : c.Short count)
    (ht : c.transport = some t) (hx : (Transport.recv c.chunk).Answers t w (.error e) t' w')
    (he : c.policy.judge .recv e ≠ .fatal) (hn : n < Transport.patience t)
    (rest : Gathers count n (c.received (.error e) t', w') failure q) :
    Gathers count (n + 1) (c, w) failure q
  | brings {n : Nat} {c : Connection τ} {w w' : ω} {t t' : τ} {data : Bytes}
    {failure : Option IoError} {q : Connection τ × ω} (h : c.Short count)
    (ht : c.transport = some t) (hx : (Transport.recv c.chunk).Answers t w (.ok data) t' w')
    (rest : Gathers count n (c.received (.ok data) t', w') failure q) :
    Gathers count 0 (c, w) failure q
  | fails {c : Connection τ} {w w' : ω} {t t' : τ} {e : IoError} (h : c.Short count)
    (ht : c.transport = some t) (hx : (Transport.recv c.chunk).Answers t w (.error e) t' w')
    (he : c.policy.judge .recv e = .fatal) :
    Gathers count 0 (c, w) (some e) (c.received (.error e) t', w')

variable {count n : Nat} {c c' : Connection τ} {w w' : ω} {p q : Connection τ × ω}
variable {failure : Option IoError}

theorem Gathers.le_patience (hg : Gathers count n (c, w) failure q) : n ≤ c.patience := by
  cases hg with
  | passes _ ht _ _ hn _ =>
    rw [patience, ht]
    exact hn
  | _ => exact Nat.zero_le _

theorem Gathers.of_not_short (hg : Gathers count n p failure q) (h : ¬ p.1.Short count) :
    failure = none ∧ q = p := by
  cases hg with
  | enough _ => exact ⟨rfl, rfl⟩
  | passes hs | brings hs | fails hs => exact absurd hs h

theorem Gathers.not_short (hg : Gathers count n p none q) : ¬ q.1.Short count := by
  generalize hf : none = failure at hg
  induction hg with
  | enough h => exact h
  | passes _ _ _ _ _ _ ih => exact ih hf
  | brings _ _ _ _ ih => exact ih hf
  | fails => cases hf

/-- What receives do not change on the way. -/
theorem Gathers.kept (hg : Gathers count n p failure q) :
    q.1.policy = p.1.policy ∧ q.1.lingering = p.1.lingering := by
  induction hg with
  | enough _ => exact ⟨rfl, rfl⟩
  | passes _ _ _ _ _ _ ih => exact ih
  | brings _ _ _ _ ih => exact ih
  | fails _ _ _ _ => exact ⟨rfl, rfl⟩

/-- The gathering ended here, without a failure. -/
def IsOver (failure : Option IoError) (q : Connection τ × ω) (c' : Connection τ) (w' : ω) : Prop :=
  failure = none ∧ q = (c', w')

/-- The gathering ended here, with a failure that is the error. -/
def FailsWith (failure : Option IoError) (q : Connection τ × ω) (e : ChannelError)
    (c' : Connection τ) (w' : ω) : Prop :=
  ∃ cause, failure = some cause ∧ e = .failed cause ∧ q = (c', w')

/-- How many receives may bring something until the connection is not short of `count` bytes. -/
def missing (count : Nat) (c : Connection τ) : Nat :=
  if c.core.active then count - c.core.input.size + 1 else 0

omit [Transport ω τ] in
theorem heard_block {block : Bytes} (h : block ≠ []) :
    c.heard (.ok block) = c.mapCore (·.receive block) := by
  cases block with
  | nil => exact absurd rfl h
  | cons _ _ => rfl

theorem missing_heard {data : Bytes} (h : c.Short count) :
    (c.heard (.ok data)).missing count < c.missing count := by
  obtain ⟨ha, hs⟩ := h
  cases data with
  | nil => simp [missing, heard, mapCore, afterCall, ChannelCore.deactivate, ha]
  | cons b data =>
    have hsize : c.core.input.size < count := hs
    simp only [missing, heard, mapCore, afterCall, ChannelCore.receive, ByteQueue.size,
      ByteQueue.toList_push, List.length_append, List.length_cons, ha, if_true] at hsize ⊢
    omega

theorem received_passing {e : IoError} {t : τ} (he : c.policy.judge .recv e ≠ .fatal) :
    c.received (.error e) t = { c with transport := some t } := by
  have hcore : afterCall c.policy c.core (.recv c.chunk (.error e)) = c.core := if_neg he
  rw [received, heard, mapCore, hcore]

/-- Nothing came of a receive, and the gathering goes on with fewer errors to come. -/
def Paused (count n : Nat) (c : Connection τ) (failure : Option IoError) (q : Connection τ × ω)
    (c' : Connection τ) (w' : ω) : Prop :=
  c'.core = c.core ∧ ∃ m < n, Gathers count m (c', w') failure q

/-- Something came of a receive, and the gathering goes on from nearer to its end. -/
def Gained (count : Nat) (c : Connection τ) (failure : Option IoError) (q : Connection τ × ω)
    (c' : Connection τ) (w' : ω) : Prop :=
  c'.missing count < c.missing count ∧ ∃ m, Gathers count m (c', w') failure q

/-- What is true of the answer to a receive. -/
def Advanced (count n : Nat) (c : Connection τ) (failure : Option IoError)
    (q : Connection τ × ω) : Received → Connection τ → ω → Prop
  | .wouldBlock => Paused count n c failure q
  | _ => Gained count c failure q

omit [Transport ω τ] in
theorem missing_congr (h : c'.core = c.core) : c'.missing count = c.missing count := by
  rw [missing, missing, h]

theorem Gained.of_core {c₀ : Connection τ} (h : Gained count c failure q c' w')
    (hc : c.core = c₀.core) : Gained count c₀ failure q c' w' :=
  ⟨missing_congr hc ▸ h.1, h.2⟩

theorem receiveOnce_gathers (hg : Gathers count n (c, w) failure q) (h : c.Short count) :
    receiveOnce.Completes c w
      (fun r c' w' => match r with
        | none | some .wouldBlock => Paused count n c failure q c' w'
        | some _ => Gained count c failure q c' w')
      (FailsWith failure q) := by
  rw [receiveOnce, Action.completes_bind, Action.completes_subject, Action.completes_bind]
  cases hg with
  | enough hover => exact absurd h hover
  | @passes m _ _ w' t t' e _ _ _ ht hx he hn rest =>
    refine onTransport_completes ht hx ?_
    rw [received_passing he] at rest
    dsimp only
    cases hj : c.policy.judge .recv e with
    | retry => exact ⟨rfl, m, Nat.lt_succ_self m, rest⟩
    | interrupted => exact ⟨rfl, m, Nat.lt_succ_self m, rest⟩
    | fatal => exact absurd hj he
  | @brings m _ _ w' t t' data _ _ _ ht hx rest =>
    refine onTransport_completes ht hx ?_
    have hless : (c.heard (.ok data)).missing count < c.missing count := missing_heard h
    cases data with
    | nil => exact ⟨hless, m, rest⟩
    | cons b data => exact ⟨hless, m, rest⟩
  | @fails _ _ w' t t' e _ ht hx he =>
    refine onTransport_completes ht hx ?_
    dsimp only
    rw [he]
    refine ⟨e, rfl, rfl, ?_⟩
    simp [received, heard, afterCall, afterError, he, mapCore]

theorem receive_gathers (hg : Gathers count n (c, w) failure q) (h : c.Short count) :
    receive.Completes c w (Advanced count n c failure q) (FailsWith failure q) := by
  rw [receive, Action.completes_bind, Action.completes_subject]
  -- Interrupted receives are counted among the errors that pass, so the patience is enough.
  refine Action.Completes.repeatUntil
    (I := fun m c' w' => c'.core = c.core ∧ m ≤ n ∧ Gathers count m (c', w') failure q)
    (fun m c' w' hi => ?_) _ n c w (Nat.lt_succ_of_le hg.le_patience) ⟨rfl, Nat.le_refl n, hg⟩
  obtain ⟨hc, hm, hg⟩ := hi
  have hs : c'.Short count := by rwa [Short, hc]
  refine (receiveOnce_gathers hg hs).mono (fun r c'' w'' hr => ?_) (fun _ _ _ hr => hr)
  cases r with
  | none =>
    obtain ⟨hc', k, hk, hg'⟩ := hr
    exact ⟨k, hk, hc'.trans hc, by omega, hg'⟩
  | some r =>
    cases r with
    | wouldBlock =>
      obtain ⟨hc', k, hk, hg'⟩ := hr
      exact ⟨hc'.trans hc, k, by omega, hg'⟩
    | data => exact Gained.of_core hr hc
    | ended => exact Gained.of_core hr hc

section

variable [Machine ω]

/-- A round of a wait ends it just when the connection is not short any more. -/
theorem fillRound_gathers (hg : Gathers count n (c, w) failure q) :
    (fillRound count none).Completes c w
      (fun r c' w' => match r with
        | none => Paused count n c failure q c' w'
        | some .more => Gained count c failure q c' w'
        | some .over => IsOver failure q c' w')
      (FailsWith failure q) := by
  rw [fillRound, Action.completes_bind, Action.completes_subject]
  split
  · rename_i hover
    exact hg.of_not_short (not_short_iff.mpr (by simpa using hover))
  · rename_i hshort
    have hs : c.Short count := by simpa [Short, and_comm] using hshort
    rw [Action.completes_bind, allowRest, Action.completes_pure, if_pos rfl, Action.completes_bind]
    refine (receive_gathers hg hs).mono (fun r c' w' hr => ?_) (fun _ _ _ hr => hr)
    cases r <;> exact hr

theorem fillSome_gathers (hg : Gathers count n (c, w) failure q) :
    (fillSome count none).Completes c w
      (fun r c' w' => match r with
        | .more => Gained count c failure q c' w'
        | .over => IsOver failure q c' w')
      (FailsWith failure q) := by
  rw [fillSome, Action.completes_bind, Action.completes_subject]
  have hbound : n < c.patience + 2 := by
    have := hg.le_patience
    omega
  refine Action.Completes.repeatUntil
    (I := fun m c' w' => c'.core = c.core ∧ Gathers count m (c', w') failure q)
    (fun m c' w' hi => ?_) _ n c w hbound ⟨rfl, hg⟩
  obtain ⟨hc, hg⟩ := hi
  refine (fillRound_gathers hg).mono (fun r c'' w'' hr => ?_) (fun _ _ _ hr => hr)
  cases r with
  | none =>
    obtain ⟨hc', k, hk, hg'⟩ := hr
    exact ⟨k, hk, hc'.trans hc, hg'⟩
  | some progress =>
    cases progress with
    | more => exact Gained.of_core hr hc
    | _ => exact hr

theorem fillUntil_gathers (hg : Gathers count n (c, w) failure q) :
    (fillUntil count none).Completes c w (fun _ => IsOver failure q)
      (FailsWith failure q) := by
  have hbound : c.missing count < count + 2 := by
    unfold missing
    split <;> omega
  refine Action.Completes.repeatUntil
    (I := fun k c' w' => c'.missing count = k ∧ ∃ m, Gathers count m (c', w') failure q)
    (fun k c' w' hi => ?_) _ _ c w hbound ⟨rfl, n, hg⟩
  obtain ⟨hk, m, hg⟩ := hi
  rw [Action.completes_bind]
  refine (fillSome_gathers hg).mono (fun r c'' w'' hr => ?_) (fun _ _ _ hr => hr)
  cases r with
  | more => exact ⟨_, hk ▸ hr.1, rfl, hr.2⟩
  | _ => exact hr

theorem fill_gathers (hmode : c.core.mode = .forever) (hg : Gathers count n (c, w) failure q) :
    (fill count).Completes c w (fun _ => IsOver failure q)
      (FailsWith failure q) := by
  rw [fill, Action.completes_bind, Action.completes_subject, Action.completes_bind, hmode]
  have hdeadline : (Action.deadline .forever : Action ω ChannelError (Connection τ) _).Answers c w
      (.ok none) c w := rfl
  refine hdeadline.completes ?_
  dsimp only
  rw [Action.completes_bind, Action.completes_attempt]
  exact (fillUntil_gathers hg).mono (fun _ _ _ h => h) (fun _ _ _ h => h)

end

/-- The result of a read for which this was gathered: the failure, or the share of the input. -/
def gathered (count : Nat) (opts : ReadOptions) (failure : Option IoError) (c : Connection τ) :
    Except ChannelError Bytes :=
  match failure with
  | some e => .error (.failed e)
  | none => opts.serve count c.core.input.toList

/-- The connection after such a read. -/
def afterRead (count : Nat) (opts : ReadOptions) (failure : Option IoError) (c : Connection τ) :
    Connection τ :=
  match failure with
  | some _ => c
  | none => c.withInput (opts.leave count c.core.input.toList)

/-- What gathers, and then a read of what there is, are together such a read. -/
theorem answers_of_gathers {x : Action ω ChannelError (Connection τ) Unit}
    {rest : Action ω ChannelError (Connection τ) Bytes} {opts : ReadOptions}
    (hg : Gathers count n (c, w) failure (c', w'))
    (hx : x.Completes c w (fun _ => IsOver failure (c', w')) (FailsWith failure (c', w')))
    (hrest : ¬ c'.Short count → rest c' w' = takeInput count opts c' w') :
    (do x; rest).Answers c w (gathered count opts failure c') (c'.afterRead count opts failure)
      w' := by
  obtain ⟨answer, c₁, w₁, hx, ha⟩ := hx.answers
  cases answer with
  | error e =>
    obtain ⟨cause, rfl, rfl, hq⟩ := ha
    cases hq
    exact hx.bind_error
  | ok _ =>
    obtain ⟨rfl, hq⟩ := ha
    cases hq
    exact hx.bind ((takeInput_serves (not_short_iff.mp hg.not_short)).of_eq (hrest hg.not_short))

/-- A read without end gathers what it is short of, and then takes its share. -/
theorem read_gathers [Machine ω] (hmode : c.core.mode = .forever)
    (hg : Gathers count n (c, w) failure (c', w')) (opts : ReadOptions) :
    (read count opts).Answers c w (gathered count opts failure c')
      (c'.afterRead count opts failure) w' := by
  by_cases hs : c.Short count
  · have hread : read count opts c w =
        (do fill count; takeInput count opts : Action ω ChannelError _ Bytes) c w := by
      have hshort : (c.core.mode.isBlocking && c.core.active &&
          decide (c.core.input.size < count)) = true := by
        rw [hmode, hs.1, decide_eq_true hs.2]
        rfl
      rw [read, Action.bind_apply, Action.subject_apply]
      dsimp only
      rw [if_pos hshort]
    exact (answers_of_gathers hg (fill_gathers hmode hg) fun _ => rfl).of_eq hread
  · obtain ⟨rfl, hq⟩ := hg.of_not_short hs
    cases hq
    have hready := not_short_iff.mp hs
    exact (takeInput_serves hready).of_eq (read_eq_takeInput (.inr hready.symm))

end ChannelReactor.Connection
