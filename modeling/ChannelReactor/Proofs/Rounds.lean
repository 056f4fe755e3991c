import ChannelReactor.Proofs.Injection

/-! # The rounds of a run

A run iterates until somebody has asked the reactor to stop. Its iterations are rounds: none begins
when the reactor is asked to stop, and the reactor rests after one that has failed. A loop comes to
its end exactly when finitely many rounds lead to a reactor that is asked to stop. What the
application is asked and told in them is what an iteration may ask and tell, and a request to stop
is there until the loop has seen it. -/
namespace ChannelReactor

variable {ω ε η χ α : Type}

namespace Hooks

/-- The hook does with the mailbox what any other thread can do at any time: it may hand channels
over, and it may ask the reactor to stop. That cannot be taken back. -/
structure Asking (x : Action ω Empty (Desk η χ) α) : Prop where
  posting : Posting x
  lasting : ∀ desk w a desk' w', x desk w = .done a desk' w' →
    desk.mailbox.stopped = true → desk'.mailbox.stopped = true

/-- All that the hooks of an application do with the mailbox is to ask. -/
structure Ask (ω η χ : Type) [Hooks ω η χ] : Prop where
  accept : ∀ id accepted, Asking (onAccept id accepted : Action ω Empty (Desk η χ) _)
  readable : ∀ id c, Asking (onReadable id c : Action ω Empty (Desk η χ) _)
  writable : ∀ id c, Asking (onWritable id c : Action ω Empty (Desk η χ) _)
  closed : ∀ id c reason, Asking (onClosed id c reason : Action ω Empty (Desk η χ) _)
  tick : ∀ stats, Asking (onTick stats : Action ω Empty (Desk η χ) _)
  startup : Asking (onStartup : Action ω Empty (Desk η χ) _)
  cleanup : Asking (onCleanup : Action ω Empty (Desk η χ) _)

theorem asking_pure {a : α} : Asking (pure a : Action ω Empty (Desk η χ) α) where
  posting desk w a desk' w' hx := by
    cases hx
    exact ⟨[], (List.append_nil _).symm⟩
  lasting desk w a desk' w' hx hstopped := by
    cases hx
    exact hstopped

theorem asking_update {f : Desk η χ → Desk η χ}
    (hposting : ∀ desk, ∃ posted, (f desk).mailbox.queue = desk.mailbox.queue ++ posted)
    (hlasting : ∀ desk, desk.mailbox.stopped = true → (f desk).mailbox.stopped = true) :
    Asking (Action.update f : Action ω Empty (Desk η χ) Unit) where
  posting desk w a desk' w' hx := by
    cases hx
    exact hposting desk
  lasting desk w a desk' w' hx hstopped := by
    cases hx
    exact hlasting desk hstopped

theorem Asking.noting {call : HookCall χ} {x : Action ω Empty (Desk η χ) α} (h : Asking x) :
    Asking (Watched.noting call x) where
  posting := h.posting.noting
  lasting desk w a desk' w' hx hstopped := by
    obtain ⟨d, hinner, rfl⟩ := Watched.noting_eq hx
    exact h.lasting _ _ _ _ _ hinner hstopped

theorem Ask.watched [Hooks ω η χ] (h : Ask ω η χ) : Ask ω (Watched η χ) χ where
  accept id accepted := .noting (h.accept id accepted)
  readable id c := .noting (h.readable id c)
  writable id c := .noting (h.writable id c)
  closed id c reason := .noting (h.closed id c reason)
  tick stats := .noting (h.tick stats)
  startup := .noting h.startup
  cleanup := .noting h.cleanup

end Hooks

/-- The machine with another sleep. -/
abbrev Machine.withSleep [Machine ω] (sleep : Span → ω → ω) : Machine ω :=
  { (inferInstance : Machine ω) with sleep }

/-- A call that an iteration may make. -/
def HookCall.Amid : HookCall χ → Prop
  | startup | cleanup => False
  | closed _ _ reason => reason ≠ .shutdown
  | tick _ | accept _ _ | readable _ _ | writable _ _ => True

namespace Reactor

section

variable [Machine ω] [ChannelOps ω χ] [Hooks ω η χ]

omit [ChannelOps ω χ] [Hooks ω η χ] in
theorem probe_withSleep {σ : Type} (sleep : Span → ω → ω) (descriptor : Int) :
    @PollSet.probe ω (Machine.withSleep sleep) σ descriptor = PollSet.probe descriptor := rfl

omit [Hooks ω η χ] in
theorem findBroken_withSleep {σ : Type} (sleep : Span → ω → ω) :
    ∀ (index : Nat) (entries : List (Entry χ)),
      @findBroken ω ε χ (Machine.withSleep sleep) _ σ index entries = findBroken index entries
  | _, [] => rfl
  | index, e :: rest => by
    unfold findBroken
    simp only [findBroken_withSleep sleep (index + 1) rest, probe_withSleep]

theorem recover_withSleep (sleep : Span → ω → ω) (error : PollError) :
    @recover ω η χ (Machine.withSleep sleep) _ _ error = recover error := by
  unfold recover
  simp only [findBroken_withSleep]

/-- An iteration never sleeps: however the machine sleeps, it is the same. -/
theorem runOnce_withSleep (sleep : Span → ω → ω) :
    @runOnce ω η χ (Machine.withSleep sleep) _ _ = runOnce := by
  unfold runOnce
  simp only [recover_withSleep]
  rfl

variable {r r' : Reactor η χ} {w w' : ω} {p q : Reactor η χ × ω}

/-- A request to stop stays. -/
theorem Move.stopped (hhooks : Hooks.Ask ω η χ) (h : Move (r, w) (r', w'))
    (hstopped : r.mailbox.stopped = true) : r'.mailbox.stopped = true := by
  cases h with
  | tick hh => exact (hhooks.tick _).lasting _ _ _ _ _ hh hstopped
  | write _ _ hh => exact (hhooks.writable _ _).lasting _ _ _ _ _ hh hstopped
  | read _ _ hh => exact (hhooks.readable _ _).lasting _ _ _ _ _ hh hstopped
  | accept _ _ hh => exact (hhooks.accept _ _).lasting _ _ _ _ _ hh hstopped
  | blame _ _ _ hh | evict _ _ _ hh =>
    exact (hhooks.closed _ _ _).lasting _ _ _ _ _ hh hstopped
  | enroll side _ => rwa [mailbox_enrolled]
  | defer _ _ => rwa [mailbox_put]
  | elapse _ | reject _ | fetch _ | discard | pollFailed => exact hstopped

/-- No iteration changes the settings. -/
theorem Moves.settings {p q : Reactor (Watched η χ) χ × ω} (h : Moves p q) :
    q.1.settings = p.1.settings := by
  induction h with
  | refl => rfl
  | tail _ hmove ih => exact (Turn.settings (V := fun _ _ => True) (.move hmove)).trans ih

theorem Moves.stopped (hhooks : Hooks.Ask ω η χ) (h : Moves p q)
    (hstopped : p.1.mailbox.stopped = true) : q.1.mailbox.stopped = true := by
  induction h with
  | refl => exact hstopped
  | tail _ hmove ih => exact hmove.stopped hhooks ih

/-- A move makes no call, or one that an iteration may make. -/
theorem Move.calls {r r' : Reactor (Watched η χ) χ} (h : Move (r, w) (r', w')) :
    ∃ more, r'.hooks.calls = r.hooks.calls ++ more ∧ ∀ call ∈ more, call.Amid := by
  have hnone {hooks : Watched η χ} (hsame : hooks = r.hooks) :
      ∃ more, hooks.calls = r.hooks.calls ++ more ∧ ∀ call ∈ more, call.Amid :=
    ⟨[], by rw [hsame, List.append_nil], fun call hcall => absurd hcall List.not_mem_nil⟩
  have hone {hooks : Watched η χ} {call : HookCall χ}
      (hcall : hooks.calls = r.hooks.calls ++ [call]) (hamid : call.Amid) :
      ∃ more, hooks.calls = r.hooks.calls ++ more ∧ ∀ call ∈ more, call.Amid :=
    ⟨[call], hcall, List.forall_mem_singleton.mpr hamid⟩
  cases h with
  | tick hh | write _ _ hh | read _ _ hh | accept _ _ hh =>
    exact hone (Watched.noting_done hh) trivial
  | blame _ _ _ hh => exact hone (Watched.noting_done hh) CloseReason.noConfusion
  | evict _ hf _ hh => exact hone (Watched.noting_done hh) hf.ne_shutdown
  | enroll side _ => exact hnone (by cases side <;> rfl)
  | defer _ _ => exact hnone (hooks_put _)
  | elapse _ | reject _ | fetch _ | discard | pollFailed => exact hnone rfl

theorem Moves.calls {p q : Reactor (Watched η χ) χ × ω} (h : Moves p q) :
    ∃ more, q.1.hooks.calls = p.1.hooks.calls ++ more ∧ ∀ call ∈ more, call.Amid := by
  induction h with
  | refl => exact ⟨[], (List.append_nil _).symm, fun call hcall => absurd hcall List.not_mem_nil⟩
  | tail _ hmove ih =>
    obtain ⟨before, hbefore, hamid⟩ := ih
    obtain ⟨more, hmore, hamid'⟩ := hmove.calls
    refine ⟨before ++ more, by rw [hmore, hbefore, List.append_assoc], fun call hcall => ?_⟩
    exact (List.mem_append.mp hcall).elim (hamid call) (hamid' call)

end

/-- An iteration of a loop, from the reactor and the machine where it starts to those that it
leaves, with its answer. -/
structure Round (ω η χ : Type) where
  start : Reactor η χ × ω
  answer : Except ReactorError Nat
  finish : Reactor η χ × ω

section

variable [Machine ω]

/-- After an iteration that failed, and after no other, the reactor sleeps, once and as long as a
poll may take. -/
def Round.rested (round : Round ω η χ) : Reactor η χ × ω :=
  match round.answer with
  | .ok _ => round.finish
  | .error _ =>
    (round.finish.1, Machine.sleep round.finish.1.settings.pollTimeout round.finish.2)

variable [ChannelOps ω χ] [Hooks ω η χ]

/-- The round is an iteration of the program. -/
def Round.Runs (round : Round ω η χ) : Prop :=
  (Action.attempt runOnce : Action ω Empty (Reactor η χ) _) round.start.1 round.start.2 =
    .done round.answer round.finish.1 round.finish.2

/-- The rounds of a loop in their order. None begins when the reactor is asked to stop, and they
lead to where it is. -/
inductive Rounds : Reactor η χ × ω → List (Round ω η χ) → Reactor η χ × ω → Prop
  | stop {p : Reactor η χ × ω} (h : p.1.mailbox.stopped = true) : Rounds p [] p
  | next {round : Round ω η χ} {rest : List (Round ω η χ)} {q : Reactor η χ × ω}
    (hclear : round.start.1.mailbox.stopped = false) (hruns : round.Runs)
    (hrest : Rounds round.rested rest q) : Rounds round.start (round :: rest) q

variable {p q : Reactor η χ × ω} {round : Round ω η χ} {rounds : List (Round ω η χ)}

theorem iteration_done {r r' : Reactor η χ} {w w' : ω} :
    (iteration : Action ω Empty (Reactor η χ) Unit) r w = .done () r' w' ↔
      ∃ round : Round ω η χ, round.start = (r, w) ∧ round.Runs ∧ round.rested = (r', w') := by
  constructor
  · intro h
    obtain ⟨answer, r₁, w₁, hruns, hrested⟩ := Action.done_of_bind h
    refine ⟨⟨(r, w), answer, (r₁, w₁)⟩, rfl, hruns, ?_⟩
    cases answer with
    | ok count =>
      cases hrested
      rfl
    | error e =>
      cases hrested
      rfl
  · rintro ⟨round, hstart, hruns, hrested⟩
    unfold Round.Runs at hruns
    rw [hstart] at hruns
    rw [iteration, Action.bind_apply, hruns]
    unfold Round.rested at hrested
    cases hanswer : round.answer with
    | ok count =>
      rw [hanswer] at hrested
      rw [show round.finish = (r', w') from hrested]
      rfl
    | error e =>
      rw [hanswer] at hrested
      cases hrested
      rfl

/-- No round begins when the reactor is asked to stop. -/
theorem Rounds.unstarted (h : Rounds p rounds q) (hstopped : p.1.mailbox.stopped = true) :
    rounds = [] := by
  cases h with
  | stop _ => rfl
  | next hclear _ _ => cases hclear.symm.trans hstopped

/-- A loop that may go on for so long makes the rounds. -/
theorem Rounds.iterate (h : Rounds p rounds q) :
    ∀ {limit : Nat}, rounds.length ≤ limit →
      (Reactor.iterate limit : Action ω Empty (Reactor η χ) Unit) p.1 p.2 = .done () q.1 q.2 := by
  induction h with
  | stop hstopped =>
    intro limit _
    cases limit
    all_goals
      rw [Reactor.iterate, Action.bind_apply, Action.subject_apply]
      dsimp only
      rw [if_pos hstopped]
      rfl
  | @next round rest q hclear hruns _ ih =>
    intro limit hlimit
    obtain ⟨limit, rfl⟩ := Nat.exists_eq_add_one_of_ne_zero (Nat.ne_zero_of_lt hlimit)
    have hrested : (iteration : Action ω Empty (Reactor η χ) Unit) round.start.1 round.start.2 =
        .done () round.rested.1 round.rested.2 := iteration_done.mpr ⟨round, rfl, hruns, rfl⟩
    rw [Reactor.iterate, Action.bind_apply, Action.subject_apply]
    dsimp only
    rw [if_neg (Bool.eq_false_iff.mp hclear), Action.bind_apply, hrested]
    exact ih (Nat.le_of_succ_le_succ hlimit)

/-- A loop that comes to its end has made rounds. -/
theorem iterate_rounds :
    ∀ {limit : Nat} {p q : Reactor η χ × ω},
      (iterate limit : Action ω Empty (Reactor η χ) Unit) p.1 p.2 = .done () q.1 q.2 →
        ∃ rounds, rounds.length ≤ limit ∧ Rounds p rounds q
  | 0, (r, w), (r', w'), h => by
    rw [iterate] at h
    obtain ⟨_, _, _, hr, h⟩ := Action.done_of_bind h
    cases hr
    split at h
    · rename_i hstopped
      cases h
      exact ⟨[], Nat.le_refl 0, .stop hstopped⟩
    · cases h
  | limit + 1, (r, w), (r', w'), h => by
    rw [iterate] at h
    obtain ⟨_, _, _, hr, h⟩ := Action.done_of_bind h
    cases hr
    split at h
    · rename_i hstopped
      cases h
      exact ⟨[], Nat.zero_le _, .stop hstopped⟩
    · rename_i hclear
      obtain ⟨_, r₁, w₁, hiteration, hrest⟩ := Action.done_of_bind h
      obtain ⟨round, hstart, hruns, hrested⟩ := iteration_done.mp hiteration
      obtain ⟨rounds, hlength, hrounds⟩ := iterate_rounds (p := (r₁, w₁)) hrest
      rw [← hrested] at hrounds
      rw [← hstart]
      refine ⟨round :: rounds, Nat.succ_le_succ hlength, .next ?_ hruns hrounds⟩
      rw [hstart]
      exact Bool.eq_false_iff.mpr hclear

theorem Round.Runs.moves (h : round.Runs) : Moves round.start round.finish := by
  have hkeeps : Action.Keeps (fun r w => Moves round.start (r, w))
      (Action.attempt runOnce : Action ω Empty (Reactor η χ) _) := runOnce_keeps.attempt
  exact (hkeeps _ _ .refl).done h

/-- A sleep is a step of the machine. -/
theorem Round.moves_rested (h : Moves p round.finish) : Moves p round.rested := by
  unfold Round.rested
  split
  · exact h
  · exact h.tail (.elapse (.sleep _ _))

/-- Every round is reached in moves, and so is the end of all. -/
theorem Rounds.moves (h : Rounds p rounds q) :
    Moves p q ∧ ∀ round ∈ rounds, Moves p round.finish := by
  induction h with
  | stop _ => exact ⟨.refl, fun round hround => absurd hround List.not_mem_nil⟩
  | @next round rest q _ hruns _ ih =>
    have hrested := Round.moves_rested hruns.moves
    refine ⟨hrested.trans ih.1, List.forall_mem_cons.mpr ⟨hruns.moves, fun x hx => ?_⟩⟩
    exact hrested.trans (ih.2 x hx)

/-- A request to stop that comes at any point of a round makes it the last one. -/
theorem Rounds.last (hhooks : Hooks.Ask ω η χ) (h : Rounds p rounds q)
    {before after : List (Round ω η χ)} (hrounds : rounds = before ++ round :: after)
    {mid : Reactor η χ × ω} (hmid : Moves mid round.finish)
    (hstopped : mid.1.mailbox.stopped = true) : after = [] := by
  induction h generalizing before with
  | stop _ => cases before <;> cases hrounds
  | next _ _ hrest ih =>
    cases before with
    | nil =>
      cases hrounds
      exact hrest.unstarted ((Round.moves_rested hmid).stopped hhooks hstopped)
    | cons first before =>
      exact ih (List.cons.inj hrounds).2

end

end Reactor

end ChannelReactor
