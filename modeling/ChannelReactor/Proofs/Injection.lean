import ChannelReactor.Proofs.Expiry
import ChannelReactor.Proofs.Registrations

/-! # Handing channels over

Other threads and hooks hand channels over at any time, and every iteration takes some of them, the
oldest first. With the history of both beside the reactor, each interleaving of the threads with the
reactor's work is a chain of steps. Whatever the interleaving, a reactor takes the channels in the
order in which they came, none twice and none left out. -/
namespace ChannelReactor

variable {ω ε η χ α : Type}

/-- A reactor and its machine, with the channels that were handed over so far and those that the
reactor has taken, each with the id that it got or the reason why it was dropped. -/
structure Intake (ω η χ : Type) where
  reactor : Reactor (Watched η χ) χ
  machine : ω
  injected : List χ := []
  taken : List (χ × Except ReactorError ChannelId) := []

namespace Reactor

/-- The reactor with `rest` left in the mailbox, from which it has taken one channel. -/
def fetched (rest : List χ) (r : Reactor η χ) : Reactor η χ :=
  ({ r with mailbox.queue := rest } : Reactor η χ).count (·.addInjected)

/-- What becomes of a channel that is to be registered: it is attached and comes last on its side,
under the next id; or it is dropped, and the reactor is as before. -/
inductive Settles [ChannelOps ω χ] (c : χ) (w w' : ω) (r : Reactor η χ) :
    Except ReactorError ChannelId → Reactor η χ → Prop
  | registered {c' : χ} (h : ChannelOps.attach r.token c w = .done () c' w') :
    Settles c w w' r (.ok r.nextId) (r.enrolled (sideOf c) c')
  | dropped {reason : ReactorError} {e : ChannelError} {c' : χ}
    (h : ChannelOps.attach r.token c w = .refused e c' w') : Settles c w w' r (.error reason) r

theorem register_settles [ChannelOps ω χ] {c : χ} {r r' : Reactor η χ} {w w' : ω}
    {answer : Except ReactorError ChannelId}
    (h : (Action.attempt (register c) : Action ω ε _ _) r w = .done answer r' w') :
    Settles c w w' r answer r' := by
  have hends : (Action.attempt (register c) : Action ω ε _ _).Ends r w
      (fun answer r' w' => Settles c w w' r answer r') (fun _ _ _ => False) := by
    rw [Action.ends_attempt]
    refine enroll_ends.mono (fun id r' w' hx => ?_) (fun e r' w' hx => ?_)
    · obtain ⟨rfl, c', hattach, rfl⟩ := hx
      exact .registered hattach
    · obtain ⟨rfl, e', c', hattach⟩ := hx
      exact .dropped hattach
  exact hends.done h

section

variable {r : Reactor η χ} {side : Side} {index : Nat}

@[simp] theorem settings_put (c : χ) : (r.put side index c).settings = r.settings := by
  cases side <;> rfl

@[simp] theorem settings_without : (r.without side index).settings = r.settings := by
  cases side <;> rfl

@[simp] theorem settings_enrolled (c : χ) : (r.enrolled side c).settings = r.settings := by
  cases side <;> rfl

@[simp] theorem settings_withDesk (desk : Desk η χ) :
    (r.withDesk desk).settings = r.settings := rfl

@[simp] theorem settings_count (f : ReactorStats → ReactorStats) :
    (r.count f).settings = r.settings := rfl

@[simp] theorem mailbox_put (c : χ) : (r.put side index c).mailbox = r.mailbox := by
  cases side <;> rfl

@[simp] theorem mailbox_enrolled (c : χ) : (r.enrolled side c).mailbox = r.mailbox := by
  cases side <;> rfl

end

variable [Machine ω] [ChannelOps ω χ] [Hooks ω η χ] {r r' : Reactor η χ} {w w' : ω}

/-- A move takes one channel out of the mailbox and counts it, or it counts none. -/
theorem Move.injected (h : Move (r, w) (r', w')) :
    r'.stats.injected = r.stats.injected ∨
      r'.stats.injected = r.stats.injected + 1 ∧
        ∃ c, r.mailbox.queue = c :: r'.mailbox.queue := by
  cases h with
  | fetch hqueue => exact .inr ⟨rfl, _, hqueue⟩
  | enroll side _ => exact .inl (by rw [stats_enrolled])
  | defer _ _ => exact .inl (by rw [stats_put])
  | blame _ _ _ _ | evict _ _ _ _ =>
    exact .inl (by simp [ReactorStats.addEvicted, ReactorStats.addPollFailure])
  | _ => exact .inl rfl

/-- The settings are there for good. -/
theorem Turn.settings {V : χ → χ → Prop} {r r' : Reactor (Watched η χ) χ}
    (h : Turn V (r, w) (r', w')) : r'.settings = r.settings := by
  cases h with
  | move hmove =>
    cases hmove with
    | enroll side _ => exact settings_enrolled _
    | write _ _ _ | read _ _ _ | accept _ _ _ => simp
    | defer _ _ => exact settings_put _
    | blame _ _ _ _ | evict _ _ _ _ => simp
    | _ => rfl
  | visit _ _ => exact settings_put _
  | unregister side index => exact settings_without
  | _ => rfl

/-- A turn that leaves in the mailbox what is there counts no channel. -/
theorem Turn.injected {V : χ → χ → Prop} {r r' : Reactor (Watched η χ) χ} {posted : List χ}
    (h : Turn V (r, w) (r', w')) (hposted : r'.mailbox.queue = r.mailbox.queue ++ posted) :
    r'.stats.injected = r.stats.injected := by
  cases h with
  | move hmove =>
    obtain hsame | ⟨-, c, hqueue⟩ := hmove.injected
    · exact hsame
    · have hlength := congrArg List.length (hposted.trans (congrArg (· ++ posted) hqueue))
      simp only [List.length_append, List.length_cons] at hlength
      omega
  | visit _ _ => rw [stats_put]
  | unregister side index => rw [stats_without]
  | _ => rfl

end Reactor

namespace Hooks

/-- The hook leaves in the mailbox what is there, and may hand more over. -/
def Posting (x : Action ω Empty (Desk η χ) α) : Prop :=
  ∀ desk w a desk' w', x desk w = .done a desk' w' →
    ∃ posted, desk'.mailbox.queue = desk.mailbox.queue ++ posted

/-- All that the hooks of an iteration do with the mailbox is to hand channels over. -/
structure Post (ω η χ : Type) [Hooks ω η χ] : Prop where
  accept : ∀ id accepted, Posting (onAccept id accepted : Action ω Empty (Desk η χ) _)
  readable : ∀ id c, Posting (onReadable id c : Action ω Empty (Desk η χ) _)
  writable : ∀ id c, Posting (onWritable id c : Action ω Empty (Desk η χ) _)
  closed : ∀ id c reason, Posting (onClosed id c reason : Action ω Empty (Desk η χ) _)
  tick : ∀ stats, Posting (onTick stats : Action ω Empty (Desk η χ) _)

theorem Posting.noting {call : HookCall χ} {x : Action ω Empty (Desk η χ) α} (h : Posting x) :
    Posting (Watched.noting call x) := by
  intro desk w a desk' w' hx
  unfold Watched.noting at hx
  split at hx
  · rename_i hinner
    cases hx
    exact h _ _ _ _ _ hinner
  · rename_i e _ _ _
    exact e.elim
  · cases hx

theorem Post.watched [Hooks ω η χ] (h : Post ω η χ) : Post ω (Watched η χ) χ where
  accept id accepted := .noting (h.accept id accepted)
  readable id c := .noting (h.readable id c)
  writable id c := .noting (h.writable id c)
  closed id c reason := .noting (h.closed id c reason)
  tick stats := .noting (h.tick stats)

end Hooks

namespace Reactor

variable [Machine ω] [ChannelOps ω χ] [Hooks ω η χ] {r r' : Reactor η χ} {w w' : ω}

/-- A move that counts no channel leaves in the mailbox what is there. -/
theorem Move.posted (hhooks : Hooks.Post ω η χ) (h : Move (r, w) (r', w'))
    (hcount : r'.stats.injected = r.stats.injected) :
    ∃ posted, r'.mailbox.queue = r.mailbox.queue ++ posted := by
  have hsame {m : Mailbox χ} (hm : m = r.mailbox) :
      ∃ posted, m.queue = r.mailbox.queue ++ posted := ⟨[], by rw [hm, List.append_nil]⟩
  cases h with
  | tick hh => exact hhooks.tick _ _ _ _ _ _ hh
  | write _ _ hh => exact hhooks.writable _ _ _ _ _ _ _ hh
  | read _ _ hh => exact hhooks.readable _ _ _ _ _ _ _ hh
  | accept _ _ hh => exact hhooks.accept _ _ _ _ _ _ _ hh
  | blame _ _ _ hh | evict _ _ _ hh => exact hhooks.closed _ _ _ _ _ _ _ _ hh
  | fetch _ => exact absurd hcount (Nat.succ_ne_self _)
  | enroll side _ => exact hsame (mailbox_enrolled _)
  | defer _ _ => exact hsame (mailbox_put _)
  | elapse _ | reject _ | discard | pollFailed => exact hsame rfl

end Reactor

namespace Intake

/-- One more channel is handed over. -/
def inject (c : χ) (machine : ω) (s : Intake ω η χ) : Intake ω η χ where
  reactor := { s.reactor with mailbox := s.reactor.mailbox.post c }
  machine
  injected := s.injected ++ [c]
  taken := s.taken

/-- Another thread hands a channel over, whatever else it does to the machine. -/
def Injects (s s' : Intake ω η χ) : Prop := ∃ c machine, s' = s.inject c machine

/-- The ids that taken channels got. -/
def given (taken : List (χ × Except ReactorError ChannelId)) : List ChannelId :=
  taken.filterMap (·.2.toOption)

theorem given_append (taken more : List (χ × Except ReactorError ChannelId)) :
    given (taken ++ more) = given taken ++ given more := List.filterMap_append ..

/-- What was taken and what is pending is what was handed over, in that order; every channel that
was taken is counted, and the ids that they got increase. -/
structure Balanced (settings : ReactorSettings) (s : Intake ω η χ) : Prop where
  settings : s.reactor.settings = settings
  fifo : s.taken.map (·.1) ++ s.reactor.mailbox.queue = s.injected
  counted : s.reactor.stats.injected = s.taken.length
  increasing : (given s.taken).Pairwise (· < ·)
  below : ∀ id ∈ given s.taken, id < s.reactor.nextId

theorem founded_balanced {serial : Nat} {settings : ReactorSettings} {hooks : Watched η χ}
    {r : Reactor (Watched η χ) χ} {machine : ω} (h : Reactor.new serial settings hooks = .ok r) :
    Balanced settings { reactor := r, machine } := by
  unfold Reactor.new at h
  split at h
  · cases h
  · cases h
    exact ⟨rfl, rfl, rfl, .nil, fun _ hid => absurd hid List.not_mem_nil⟩

section

variable [ChannelOps ω χ]

/-! ## What a reactor takes -/

/-- The reactor takes the oldest channel out of the mailbox, and registers or drops it. -/
inductive Takes : Intake ω η χ → Intake ω η χ → Prop
  | take {s : Intake ω η χ} {c : χ} {rest : List χ} {answer : Except ReactorError ChannelId}
    {r' : Reactor (Watched η χ) χ} {w' : ω} (hqueue : s.reactor.mailbox.queue = c :: rest)
    (h : (Action.attempt (Reactor.register c) : Action ω ReactorError _ _)
      (s.reactor.fetched rest) s.machine = .done answer r' w') :
    Takes s
      { s with reactor := r', machine := w', taken := s.taken ++ [(c, answer)] }

variable {settings : ReactorSettings}

theorem Balanced.takes {s s' : Intake ω η χ} (h : s.Balanced settings) (hs : s.Takes s') :
    s'.Balanced settings := by
  cases hs with
  | @take c rest answer r' w' hqueue hanswer =>
    have hfifo : (s.taken ++ [(c, answer)]).map (·.1) ++ rest = s.injected := by
      rw [← h.fifo, hqueue, List.map_append, List.append_assoc]
      rfl
    have hcounted : s.reactor.stats.injected + 1 = (s.taken ++ [(c, answer)]).length := by
      rw [List.length_append, h.counted]
      rfl
    cases Reactor.register_settles hanswer with
    | registered hattach =>
      have hgiven : given (s.taken ++ [(c, .ok s.reactor.nextId)]) =
          given s.taken ++ [s.reactor.nextId] := given_append ..
      refine ⟨(Reactor.settings_enrolled _).trans h.settings, ?_, ?_, ?_, fun id hid => ?_⟩
      · rwa [Reactor.mailbox_enrolled]
      · rwa [Reactor.stats_enrolled]
      · rw [show (s.reactor.fetched rest).nextId = s.reactor.nextId from rfl, hgiven,
          List.pairwise_append]
        refine ⟨h.increasing, List.pairwise_singleton .., fun id hid next hnext => ?_⟩
        rw [List.mem_singleton.mp hnext]
        exact h.below id hid
      · change id ∈ given (s.taken ++ [(c, .ok s.reactor.nextId)]) at hid
        rw [hgiven, List.mem_append, List.mem_singleton] at hid
        rcases hid with hold | rfl
        · exact Nat.lt_succ_of_lt (h.below id hold)
        · exact Nat.lt_succ_self _
    | dropped hattach =>
      rename_i reason _ _
      have hgiven : given (s.taken ++ [(c, .error reason)]) = given s.taken :=
        (given_append ..).trans (List.append_nil _)
      exact ⟨h.settings, hfifo, hcounted, by rw [hgiven]; exact h.increasing,
        fun id hid => h.below id (by rwa [hgiven] at hid)⟩

/-- The part of an iteration in which a reactor takes channels, at most so many, until there are no
more. Other threads may hand channels over at any point of it. -/
inductive Drains : Nat → Intake ω η χ → Intake ω η χ → Prop
  | spent {s : Intake ω η χ} : Drains 0 s s
  | empty {s : Intake ω η χ} {batch : Nat} (hqueue : s.reactor.mailbox.queue = []) :
    Drains batch s s
  | amid {s s₁ s' : Intake ω η χ} {batch : Nat} (h : s.Injects s₁) (hrest : Drains batch s₁ s') :
    Drains batch s s'
  | take {s s₁ s' : Intake ω η χ} {batch : Nat} (h : s.Takes s₁) (hrest : Drains batch s₁ s') :
    Drains (batch + 1) s s'

/-- What a drain comes to: it takes all that was there and some of what came meanwhile, or as many
as its batch allows. Each taken channel that is registered comes, in its turn, last on the side
where it belongs. -/
structure Drained (batch : Nat) (got : List (χ × Except ReactorError ChannelId)) (came : List χ)
    (s s' : Intake ω η χ) : Prop where
  taken : s'.taken = s.taken ++ got
  injected : s'.injected = s.injected ++ came
  least : min batch s.reactor.mailbox.queue.length ≤ got.length
  most : got.length ≤ min batch (s.reactor.mailbox.queue.length + came.length)
  ids : ∀ side, s'.reactor.ids side =
    s.reactor.ids side ++ given (got.filter fun taken => Reactor.sideOf taken.1 == side)

/-- When nothing comes meanwhile, a drain takes as many as it can. -/
theorem Drained.exact {batch : Nat} {got : List (χ × Except ReactorError ChannelId)} {came : List χ}
    {s s' : Intake ω η χ} (h : Drained batch got came s s') (hcame : s'.injected = s.injected) :
    got.length = min batch s.reactor.mailbox.queue.length := by
  have hnone : came = [] := List.self_eq_append_right.mp (hcame.symm.trans h.injected)
  have hmost := h.most
  rw [hnone] at hmost
  exact Nat.le_antisymm hmost h.least

theorem Drained.nothing {batch : Nat} {s : Intake ω η χ}
    (h : min batch s.reactor.mailbox.queue.length = 0) : Drained batch [] [] s s where
  taken := (List.append_nil _).symm
  injected := (List.append_nil _).symm
  least := Nat.le_of_eq h
  most := Nat.zero_le _
  ids _ := (List.append_nil _).symm

theorem Takes.ids {s s' : Intake ω η χ} (h : s.Takes s') :
    ∃ c rest answer, s.reactor.mailbox.queue = c :: rest ∧ s'.reactor.mailbox.queue = rest ∧
      s'.taken = s.taken ++ [(c, answer)] ∧ s'.injected = s.injected ∧
      ∀ side, s'.reactor.ids side = s.reactor.ids side ++
        given ([(c, answer)].filter fun taken => Reactor.sideOf taken.1 == side) := by
  cases h with
  | @take c rest answer r' w' hqueue hanswer =>
    refine ⟨c, rest, answer, hqueue, ?_, rfl, rfl, fun side => ?_⟩
    · cases Reactor.register_settles hanswer with
      | registered hattach => rw [Reactor.mailbox_enrolled]; rfl
      | dropped hattach => rfl
    · have hids : (s.reactor.fetched rest).ids side = s.reactor.ids side := by cases side <;> rfl
      cases Reactor.register_settles hanswer with
      | registered hattach =>
        rw [Reactor.ids_enrolled, hids, List.filter_cons]
        by_cases hown : Reactor.sideOf c = side
        · rw [if_pos hown.symm, if_pos (beq_iff_eq.mpr hown)]
          rfl
        · rw [if_neg (Ne.symm hown), if_neg (mt beq_iff_eq.mp hown)]
          rfl
      | dropped hattach =>
        rw [hids, List.filter_cons]
        split <;> exact (List.append_nil _).symm

theorem Drains.drained {batch : Nat} {s s' : Intake ω η χ} (h : Drains batch s s') :
    ∃ got came, Drained batch got came s s' := by
  induction h with
  | spent => exact ⟨[], [], .nothing (Nat.zero_min _)⟩
  | empty hqueue => exact ⟨[], [], .nothing (by rw [hqueue]; exact Nat.min_zero _)⟩
  | @amid s s₁ s' batch hinject _ ih =>
    obtain ⟨c, machine, rfl⟩ := hinject
    obtain ⟨got, came, hrest⟩ := ih
    have hqueue : (s.inject c machine).reactor.mailbox.queue.length =
        s.reactor.mailbox.queue.length + 1 := List.length_append
    have hleast := hrest.least
    have hmost := hrest.most
    rw [hqueue] at hleast hmost
    refine ⟨got, c :: came, hrest.taken, ?_, by omega, ?_, hrest.ids⟩
    · rw [hrest.injected]
      exact List.append_assoc s.injected [c] came
    · rw [List.length_cons]
      omega
  | @take s s₁ s' batch htakes _ ih =>
    obtain ⟨c, rest, answer, hqueue, hqueue₁, htaken, hinjected, hids⟩ := htakes.ids
    obtain ⟨got, came, hrest⟩ := ih
    have hleast := hrest.least
    have hmost := hrest.most
    rw [hqueue₁] at hleast hmost
    refine ⟨(c, answer) :: got, came, ?_, hinjected ▸ hrest.injected, ?_, ?_, fun side => ?_⟩
    · rw [hrest.taken, htaken, List.append_assoc]
      rfl
    · rw [hqueue, List.length_cons, List.length_cons]
      omega
    · rw [hqueue, List.length_cons, List.length_cons]
      omega
    · rw [hrest.ids, hids, List.append_assoc, ← given_append, ← List.filter_append]
      rfl

variable [Machine ω] [Hooks ω η χ]

/-- A step in which the reactor takes nothing: a thread hands a channel over, or the reactor or its
owner does anything else. Hooks may hand channels over meanwhile, and so may other threads, before,
between and after these. -/
inductive Quiet : Intake ω η χ → Intake ω η χ → Prop
  | inject {s s' : Intake ω η χ} (h : s.Injects s') : Quiet s s'
  | turn {s : Intake ω η χ} {r' : Reactor (Watched η χ) χ} {w' : ω} {posted arrived : List χ}
    (h : Reactor.Turn (fun _ _ => True) (s.reactor, s.machine) (r', w'))
    (hposted : r'.mailbox.queue = s.reactor.mailbox.queue ++ posted)
    (hamid : posted.Sublist arrived) :
    Quiet s
      { reactor := { r' with mailbox.queue := s.reactor.mailbox.queue ++ arrived }
        machine := w'
        injected := s.injected ++ arrived
        taken := s.taken }

/-- The reactor takes a channel, or something else happens. -/
def Step (s s' : Intake ω η χ) : Prop := s.Quiet s' ∨ s.Takes s'

abbrev Reaches : Intake ω η χ → Intake ω η χ → Prop := Relation.ReflTransGen Step

/-- An iteration amid other threads. From the second state to the third the reactor takes at most a
batch of channels; before and after that it does everything else. -/
structure Iteration (s s₁ s₂ s' : Intake ω η χ) : Prop where
  before : Relation.ReflTransGen Quiet s s₁
  drain : Drains s₁.reactor.settings.injectBatch s₁ s₂
  after : Relation.ReflTransGen Quiet s₂ s'

theorem Balanced.quiet {s s' : Intake ω η χ} (h : s.Balanced settings) (hs : s.Quiet s') :
    s'.Balanced settings := by
  cases hs with
  | inject hinject =>
    obtain ⟨c, machine, rfl⟩ := hinject
    refine ⟨h.settings, ?_, h.counted, h.increasing, h.below⟩
    rw [inject, ← h.fifo, List.append_assoc]
    rfl
  | turn hturn hposted hamid =>
    refine ⟨hturn.settings.trans h.settings, ?_, (hturn.injected hposted).trans h.counted,
      h.increasing, fun id hid => ?_⟩
    · rw [← h.fifo, List.append_assoc]
    · exact Nat.lt_of_lt_of_le (h.below id hid) (Reactor.Renews.turns (.single hturn)).next

theorem Balanced.reaches {s s' : Intake ω η χ} (h : s.Balanced settings) (hs : s.Reaches s') :
    s'.Balanced settings := by
  induction hs with
  | refl => exact h
  | tail _ hstep ih =>
    rcases hstep with hquiet | htakes
    · exact ih.quiet hquiet
    · exact ih.takes htakes

theorem Drains.reaches {batch : Nat} {s s' : Intake ω η χ} (h : Drains batch s s') :
    s.Reaches s' := by
  induction h with
  | spent | empty _ => exact .refl
  | amid hinject _ ih => exact .head (.inl (.inject hinject)) ih
  | take htakes _ ih => exact .head (.inr htakes) ih

theorem reaches_of_quiet {s s' : Intake ω η χ} (h : Relation.ReflTransGen Quiet s s') :
    s.Reaches s' := Relation.ReflTransGen.mono (fun _ _ => .inl) _ _ h

theorem Iteration.reaches {s s₁ s₂ s' : Intake ω η χ} (h : Iteration s s₁ s₂ s') : s.Reaches s' :=
  (reaches_of_quiet h.before).trans (h.drain.reaches.trans (reaches_of_quiet h.after))

theorem quiet_taken {s s' : Intake ω η χ} (h : Relation.ReflTransGen Quiet s s') :
    s'.taken = s.taken := by
  induction h with
  | refl => rfl
  | tail _ hquiet ih =>
    refine Eq.trans ?_ ih
    cases hquiet with
    | inject hinject =>
      obtain ⟨c, machine, rfl⟩ := hinject
      rfl
    | turn _ _ _ => rfl

/-! ## The program's iteration -/

/-- Moves of a reactor that count no channel are quiet. -/
theorem quiet_of_moves (hhooks : Hooks.Post ω η χ) {s : Intake ω η χ}
    {r' : Reactor (Watched η χ) χ} {w' : ω} (h : Reactor.Moves (s.reactor, s.machine) (r', w'))
    (hcount : r'.stats.injected = s.reactor.stats.injected) :
    ∃ s', Relation.ReflTransGen Quiet s s' ∧ s'.reactor = r' ∧ s'.machine = w' := by
  have hall (p : Reactor (Watched η χ) χ × ω) (hp : Reactor.Moves (s.reactor, s.machine) p) :
      (∃ s', Relation.ReflTransGen Quiet s s' ∧ s'.reactor = p.1 ∧ s'.machine = p.2 ∧
        p.1.stats.injected = s.reactor.stats.injected) ∨
      s.reactor.stats.injected < p.1.stats.injected := by
    induction hp with
    | refl => exact .inl ⟨s, .refl, rfl, rfl, rfl⟩
    | @tail p q _ hmove ih =>
      rcases ih with ⟨s', hquiet, hreactor, hmachine, hsame⟩ | hmore
      · rcases hmove.injected with hnone | ⟨hone, -⟩
        · obtain ⟨posted, hposted⟩ := hmove.posted hhooks.watched hnone
          rw [← hreactor] at hposted
          have hturn : Reactor.Turn (fun _ _ => True) (s'.reactor, s'.machine) (q.1, q.2) := by
            rw [hreactor, hmachine]
            exact .move hmove
          refine .inl ⟨_, hquiet.tail (.turn hturn hposted (.refl posted)), ?_, rfl,
            hnone.trans hsame⟩
          change ({ q.1 with mailbox.queue := s'.reactor.mailbox.queue ++ posted } :
            Reactor (Watched η χ) χ) = q.1
          rw [← hposted]
        · exact .inr (by omega)
      · rcases hmove.injected with hnone | ⟨hone, -⟩
        · exact .inr (by omega)
        · exact .inr (by omega)
  rcases hall _ h with ⟨s', hquiet, hreactor, hmachine, -⟩ | hmore
  · exact ⟨s', hquiet, hreactor, hmachine⟩
  · exact absurd hcount (Nat.ne_of_gt hmore)

/-- What is done by moves and counts no channel is done quietly. -/
theorem quietly {α ε : Type} (hhooks : Hooks.Post ω η χ) {s : Intake ω η χ}
    {x : Action ω ε (Reactor (Watched η χ) χ) α}
    (hmoves : ∀ o, Action.Keeps (fun r w => Reactor.Moves o (r, w)) x)
    (hcount : ∀ n, Action.Keeps (fun r _ => r.stats.injected = n) x) :
    Action.Keeps (fun r w =>
      ∃ s', Relation.ReflTransGen Quiet s s' ∧ s'.reactor = r ∧ s'.machine = w) x := by
  rintro _ _ ⟨s₁, hbefore, rfl, rfl⟩
  have hleaves {r' : Reactor (Watched η χ) χ} {w' : ω}
      (h : x.Leaves s₁.reactor s₁.machine r' w') :
      ∃ s', Relation.ReflTransGen Quiet s s' ∧ s'.reactor = r' ∧ s'.machine = w' := by
    obtain ⟨s', hquiet, hreactor, hmachine⟩ := quiet_of_moves hhooks
      ((hmoves _ _ _ .refl).leaves h) ((hcount _ _ s₁.machine rfl).leaves h)
    exact ⟨s', hbefore.trans hquiet, hreactor, hmachine⟩
  exact .of_outcome (fun a _ _ hx => hleaves (.inl ⟨a, hx⟩))
    (fun e _ _ hx => hleaves (.inr ⟨e, hx⟩))

omit [Machine ω] [Hooks ω η χ] in
/-- The program's drain takes channels as a drain without other threads does. -/
theorem drainMailbox_drains :
    ∀ (batch : Nat) (s : Intake ω η χ),
      (Reactor.drainMailbox batch : Action ω ReactorError _ _).Ends s.reactor s.machine
        (fun _ r' w' => ∃ s', Drains batch s s' ∧ s'.injected = s.injected ∧ s'.reactor = r' ∧
          s'.machine = w') (fun _ _ _ => False)
  | 0, s => ⟨s, .spent, rfl, rfl, rfl⟩
  | batch + 1, s => by
    rw [Reactor.drainMailbox, Action.ends_bind, Action.ends_subject]
    split
    · rename_i hqueue
      exact ⟨s, .empty hqueue, rfl, rfl, rfl⟩
    · rename_i c rest hqueue
      rw [Action.ends_bind, Action.ends_update, Action.ends_bind, Action.ends_update,
        Action.ends_bind]
      refine .of_outcome (fun answer r' w' hanswer => ?_) (fun e r' w' hrefused => ?_)
      · have hrest := drainMailbox_drains batch
          { s with reactor := r', machine := w', taken := s.taken ++ [(c, answer)] }
        refine hrest.mono (fun _ r'' w'' h => ?_) (fun _ _ _ h => h)
        obtain ⟨s', hdrains, hinjected, hreactor, hmachine⟩ := h
        exact ⟨s', .take (.take hqueue hanswer) hdrains, hinjected, hreactor, hmachine⟩
      · have hanswers : (Action.attempt (Reactor.register c) : Action ω ReactorError _ _).Ends
            (s.reactor.fetched rest) s.machine (fun _ _ _ => True) (fun _ _ _ => False) := by
          rw [Action.ends_attempt]
          exact (Action.ends_self _ _ _).mono (fun _ _ _ _ => trivial) (fun _ _ _ _ => trivial)
        exact hanswers.refused hrefused

/-- An iteration of the program, with no other thread beside it, is an iteration. -/
theorem runOnce_iteration (hhooks : Hooks.Post ω η χ) {s : Intake ω η χ}
    {r' : Reactor (Watched η χ) χ} {w' : ω}
    (h : Reactor.runOnce.Leaves s.reactor s.machine r' w') :
    ∃ s₁ s₂ s', Iteration s s₁ s₂ s' ∧ s₂.injected = s₁.injected ∧ s'.reactor = r' ∧
      s'.machine = w' := by
  have hI (n : Nat) : Reactor.Sustains (fun _ _ => True)
      fun r : Reactor (Watched η χ) χ => r.stats.injected = n :=
    Reactor.stats_sustained (fun hf stats => (hf stats).2) n
  obtain ⟨_, _, _, _, htick, hexpire, hrest, -, -⟩ := Reactor.runOnce_expires h
  obtain ⟨s₀, hticked, rfl, rfl⟩ := (quietly hhooks (fun _ => Reactor.tick_keeps)
    (fun n => (hI n).tick) _ _ ⟨s, .refl, rfl, rfl⟩).done htick
  obtain ⟨s₁, hbefore, rfl, rfl⟩ := (quietly hhooks (fun _ => Reactor.expire_keeps _)
    (fun n => (hI n).expire (fun h => h) _) _ _ ⟨s₀, hticked, rfl, rfl⟩).done hexpire
  obtain ⟨_, _, _, hsubject, hrest⟩ | ⟨e, hx⟩ := Action.leaves_of_bind hrest
  · cases hsubject
    obtain ⟨_, _, _, hdrain, hserve⟩ | ⟨e, hx⟩ := Action.leaves_of_bind hrest
    · obtain ⟨s₂, hdrains, hinjected, rfl, rfl⟩ := (drainMailbox_drains _ s₁).done hdrain
      obtain ⟨s', hafter, hreactor, hmachine⟩ := (quietly hhooks (fun _ => Reactor.serve_keeps)
        (fun n => (hI n).serve .any) _ _ ⟨s₂, .refl, rfl, rfl⟩).leaves hserve
      exact ⟨s₁, s₂, s', ⟨hbefore, hdrains, hafter⟩, hinjected, hreactor, hmachine⟩
    · exact ((drainMailbox_drains _ s₁).refused hx).elim
  · cases hx

/-- A turn that leaves in the mailbox what is there is a quiet step. -/
theorem Reaches.turn {s s' : Intake ω η χ} {r' : Reactor (Watched η χ) χ} {w' : ω}
    (h : s.Reaches s') (hturn : Reactor.Turn (fun _ _ => True) (s'.reactor, s'.machine) (r', w'))
    (hqueue : r'.mailbox = s'.reactor.mailbox) :
    ∃ s'', s.Reaches s'' ∧ s''.reactor = r' ∧ s''.machine = w' := by
  have hposted : r'.mailbox.queue = s'.reactor.mailbox.queue ++ [] := by
    rw [hqueue, List.append_nil]
  refine ⟨_, h.tail (.inl (.turn hturn hposted (.refl []))), ?_, rfl⟩
  change ({ r' with mailbox.queue := s'.reactor.mailbox.queue ++ [] } :
    Reactor (Watched η χ) χ) = r'
  rw [← hposted]

/-- However often the program iterates, it is somewhere that the steps lead to. -/
theorem iterate_reaches {ε : Type} (hhooks : Hooks.Post ω η χ) {s : Intake ω η χ} :
    ∀ limit, Action.Keeps
      (fun r w => ∃ s', s.Reaches s' ∧ s'.reactor = r ∧ s'.machine = w)
      (Reactor.iterate limit : Action ω ε (Reactor (Watched η χ) χ) Unit)
  | 0 => by
    refine Action.keeps_subject.bind fun r => ?_
    split
    · exact Action.keeps_pure
    · exact Action.keeps_halt
  | limit + 1 => by
    refine Action.keeps_subject.bind fun r => ?_
    split
    · exact Action.keeps_pure
    · refine Action.Keeps.bind ?_ fun _ => iterate_reaches hhooks limit
      have hrunOnce : Action.Keeps
          (fun r w => ∃ s', s.Reaches s' ∧ s'.reactor = r ∧ s'.machine = w)
          (Reactor.runOnce : Action ω ReactorError (Reactor (Watched η χ) χ) Nat) := by
        rintro _ _ ⟨s₀, hreaches, rfl, rfl⟩
        have hleaves {r' : Reactor (Watched η χ) χ} {w' : ω}
            (h : Reactor.runOnce.Leaves s₀.reactor s₀.machine r' w') :
            ∃ s', s.Reaches s' ∧ s'.reactor = r' ∧ s'.machine = w' := by
          obtain ⟨_, _, s', hiteration, -, hreactor, hmachine⟩ := runOnce_iteration hhooks h
          exact ⟨s', hreaches.trans hiteration.reaches, hreactor, hmachine⟩
        exact .of_outcome (fun count _ _ hx => hleaves (.inl ⟨count, hx⟩))
          (fun e _ _ hx => hleaves (.inr ⟨e, hx⟩))
      refine hrunOnce.attempt.bind fun answer => ?_
      split
      · exact Action.keeps_pure
      · refine Action.keeps_subject.bind fun r => ?_
        rintro _ _ ⟨s', hreaches, rfl, rfl⟩
        exact hreaches.turn (.move (.elapse (.sleep _ s'.machine))) rfl

/-- Whatever threads and hooks hand over while a reactor works: it takes the channels in the order
in which they came, counts them, and registers each once under a greater id than those before it or
drops it. An iteration takes all that there is, up to its batch, whether they can be registered or
not. -/
theorem injections_in_order (hhooks : Hooks.Post ω η χ) {serial : Nat} {hooks : Watched η χ}
    {r : Reactor (Watched η χ) χ} {machine : ω} (hnew : Reactor.new serial settings hooks = .ok r)
    {s : Intake ω η χ} (hreaches : Reaches { reactor := r, machine } s) :
    (s.taken.map (·.1) <+: s.injected ∧
      s.taken.map (·.1) ++ s.reactor.mailbox.queue = s.injected) ∧
    (s.reactor.stats.injected = s.taken.length ∧
      s.reactor.mailbox.queue.length = s.injected.length - s.taken.length) ∧
    (given s.taken).Pairwise (· < ·) ∧
    (∀ s', s.Takes s' → ∃ c rest answer, s.reactor.mailbox.queue = c :: rest ∧
      s'.taken = s.taken ++ [(c, answer)] ∧
      Reactor.Settles c s.machine s'.machine (s.reactor.fetched rest) answer s'.reactor) ∧
    (∀ s₁ s₂ s', Iteration s s₁ s₂ s' → s.Reaches s' ∧
      ∃ got came, s'.taken = s.taken ++ got ∧ Drained settings.injectBatch got came s₁ s₂ ∧
        (s₂.injected = s₁.injected →
          got.length = min settings.injectBatch s₁.reactor.mailbox.queue.length)) ∧
    (∀ r' w', Reactor.runOnce.Leaves s.reactor s.machine r' w' →
      ∃ s₁ s₂ s', Iteration s s₁ s₂ s' ∧ s₂.injected = s₁.injected ∧ s'.reactor = r' ∧
        s'.machine = w') ∧
    ∀ limit r' w', (Reactor.iterate limit : Action ω Empty _ _).Leaves s.reactor s.machine r' w' →
      ∃ s', s.Reaches s' ∧ s'.reactor = r' ∧ s'.machine = w' := by
  have hfounded : Balanced settings { reactor := r, machine } := founded_balanced hnew
  have h := hfounded.reaches hreaches
  have hlength := congrArg List.length h.fifo
  rw [List.length_append, List.length_map] at hlength
  refine ⟨⟨⟨_, h.fifo⟩, h.fifo⟩, ⟨h.counted, by omega⟩, h.increasing, fun s' htakes => ?_,
    fun s₁ s₂ s' hiteration => ⟨hiteration.reaches, ?_⟩, fun r' w' => runOnce_iteration hhooks,
    fun limit r' w' => (iterate_reaches hhooks limit _ _ ⟨s, .refl, rfl, rfl⟩).leaves⟩
  · cases htakes with
    | take hqueue hanswer => exact ⟨_, _, _, hqueue, rfl, Reactor.register_settles hanswer⟩
  · have hbatch : s₁.reactor.settings = settings :=
      (h.reaches (reaches_of_quiet hiteration.before)).settings
    obtain ⟨got, came, hdrained⟩ := hiteration.drain.drained
    rw [hbatch] at hdrained
    refine ⟨got, came, ?_, hdrained, hdrained.exact⟩
    rw [quiet_taken hiteration.after, hdrained.taken, quiet_taken hiteration.before]

end

theorem noHooks_post : Hooks.Post ω NoHooks χ := by
  have hsame (desk desk' : Desk NoHooks χ) (h : desk = desk') :
      ∃ posted, desk'.mailbox.queue = desk.mailbox.queue ++ posted :=
    ⟨[], by rw [h, List.append_nil]⟩
  constructor
  all_goals
    intros
    intro desk w a desk' w' hx
    cases hx
    exact hsame _ _ rfl

/-- A connection whose transport is gone cannot be registered. -/
def goneConnection : Connection Scenario.Wire :=
  { Estate.quietConnection with transport := none }

/-- A reactor that takes two channels in each iteration. -/
def smallReactor :
    Reactor (Watched NoHooks (Connection Scenario.Wire)) (Connection Scenario.Wire) where
  serial := 1
  settings := { injectBatch := 2 }
  hooks := { hooks := {} }

/-- The reactor was handed three channels. -/
def busyIntake : Intake Scenario.Bench NoHooks (Connection Scenario.Wire) :=
  ((inject Estate.quietConnection {} { reactor := smallReactor, machine := {} }).inject
    goneConnection {}).inject Estate.quietConnection {}

theorem busyIntake_reaches :
    Reaches { reactor := smallReactor, machine := {} } busyIntake :=
  .tail (.tail (.single (.inl (.inject ⟨_, _, rfl⟩))) (.inl (.inject ⟨_, _, rfl⟩)))
    (.inl (.inject ⟨_, _, rfl⟩))

/-- In an iteration the first of three channels is registered and the second, which cannot be, is
dropped; the third is left for the next iteration. -/
theorem injections_in_order_busyIntake :
    ∃ s₁ s₂ s, Iteration busyIntake s₁ s₂ s ∧
      (s.reactor.ids .client = [1] ∧ s.reactor.mailbox.queue.length = 1) ∧
      (s.taken.length = 2 ∧ s.taken.map (·.1) ++ s.reactor.mailbox.queue = s.injected ∧
        (given s.taken).Pairwise (· < ·)) ∧
      ∃ got came, s.taken = busyIntake.taken ++ got ∧ Drained 2 got came s₁ s₂ ∧
        got.length = min 2 s₁.reactor.mailbox.queue.length := by
  have hrun : (Estate.step .runOnce
      { reactor := busyIntake.reactor, machine := busyIntake.machine }).any (fun s =>
        s.reactor.ids .client == [1] && s.reactor.mailbox.queue.length == 1 &&
          s.reactor.stats.injected == 2) = true := by
    decide +kernel
  obtain ⟨s', hstep, hp⟩ := (Option.any_eq_true _ _).mp hrun
  simp only [Bool.and_eq_true, beq_iff_eq] at hp
  obtain ⟨⟨hids, hpending⟩, hcount⟩ := hp
  have hnew : Reactor.new 1 { injectBatch := 2 } { hooks := {} } = .ok smallReactor := rfl
  obtain ⟨-, -, -, -, hiterations, hprogram, -⟩ :=
    injections_in_order noHooks_post hnew busyIntake_reaches
  obtain ⟨s₁, s₂, s, hiteration, hundisturbed, hreactor, -⟩ :=
    hprogram _ _ (Estate.step_runOnce hstep)
  obtain ⟨hreaches, got, came, htaken, hdrained, hexact⟩ := hiterations s₁ s₂ s hiteration
  obtain ⟨⟨-, hfifo⟩, ⟨hcounted, -⟩, hincreasing, -⟩ :=
    injections_in_order noHooks_post hnew (busyIntake_reaches.trans hreaches)
  rw [← hreactor] at hids hpending hcount
  exact ⟨s₁, s₂, s, hiteration, ⟨hids, hpending⟩,
    ⟨hcounted.symm.trans hcount, hfifo, hincreasing⟩, got, came, htaken, hdrained,
    hexact hundisturbed⟩

end Intake

end ChannelReactor
