import ChannelReactor.Proofs.EchoHooks
import ChannelReactor.Proofs.Stages
import ChannelReactor.Proofs.Strides
import ChannelReactor.Scenario.Wire

/-! # The capacity of an echo

An echo lets in at most so many connections at a time. It does not see the clients: it counts them
anew when an iteration begins, and from there on it counts those that it lets through. Clients that
are let go meanwhile, and connections that cannot be registered, only make its count too high; so
the clients are never more than it counts, and it never counts more than its capacity. -/
namespace ChannelReactor

variable {ω ε η χ τ α β γ : Type}

/-- Hooks with a record of what they said of connections: whether each was let through. -/
structure Deciding (η : Type) where
  hooks : η
  decisions : List Bool := []

namespace Deciding

/-- What the hooks themselves do. -/
def inner (x : Action ω Empty (Desk η χ) α) : Action ω Empty (Desk (Deciding η) χ) α :=
  Action.focus (fun desk => { desk with hooks := desk.hooks.hooks })
    (fun d desk => { d with hooks := { desk.hooks with hooks := d.hooks } }) x

instance [Hooks ω η χ] : Hooks ω (Deciding η) χ where
  onAccept id accepted := do
    let answer ← inner (Hooks.onAccept id accepted)
    Action.update fun desk =>
      { desk with hooks.decisions := desk.hooks.decisions ++ [answer.isSome] }
    pure answer
  onReadable id c := inner (Hooks.onReadable id c)
  onWritable id c := inner (Hooks.onWritable id c)
  onClosed id c reason := inner (Hooks.onClosed id c reason)
  onTick stats := inner (Hooks.onTick stats)
  onStartup := inner Hooks.onStartup
  onCleanup := inner Hooks.onCleanup

end Deciding

/-- The command brings no client to the reactor, neither at once nor through the mailbox, and leaves
the hooks alone. -/
def Command.BringsNoClient [ChannelOps ω χ] : Command ω η χ → Prop
  | register c => ChannelOps.isListening c = true
  | inject _ | adjust _ => False
  | _ => True

namespace Echo

/-- What has to do with the capacity: the count, what was decided, and what was handed over. -/
structure Standing (χ : Type) where
  capacity : Nat
  live : Nat
  decisions : List Bool
  queue : List χ

def standing (desk : Desk (Watched (Deciding Echo) χ) χ) : Standing χ where
  capacity := desk.hooks.hooks.hooks.capacity
  live := desk.hooks.hooks.hooks.live
  decisions := desk.hooks.hooks.decisions
  queue := desk.mailbox.queue

variable [Machine ω] [Transport ω τ] [Acceptor ω α τ] [ChannelOps ω β]

section

variable {desk desk' : Desk (Watched (Deciding Echo) (Channel τ α β)) (Channel τ α β)}
variable {w w' : ω} {id : ChannelId} {c c' : Channel τ α β}

omit [Machine ω] [Transport ω τ] [Acceptor ω α τ] [ChannelOps ω β] in
/-- A hook that the echo leaves as it is by default. -/
theorem default_standing {call : HookCall (Channel τ α β)} {a b : γ}
    (h : Watched.noting call (Deciding.inner (pure a)) desk w = .done b desk' w') :
    standing desk' = standing desk := by
  obtain ⟨d, hd, rfl⟩ := Watched.noting_eq h
  cases hd
  rfl

theorem onTick_standing {stats : ReactorStats}
    (h : Hooks.onTick stats desk w = .done () desk' w') :
    standing desk' = { standing desk with live := stats.channels } := by
  obtain ⟨d, hd, rfl⟩ := Watched.noting_eq h
  cases hd
  rfl

/-- What is sent back is counted, and has nothing to do with the capacity. -/
theorem onReadable_standing (h : Hooks.onReadable id c desk w = .done c' desk' w') :
    standing desk' = standing desk := by
  obtain ⟨d, hd, rfl⟩ := Watched.noting_eq h
  have hends : (Deciding.inner (Hooks.onReadable id c)).Ends
      { desk with hooks := desk.hooks.hooks } w
      (fun _ d _ => ∀ calls, standing { d with hooks := ⟨d.hooks, calls⟩ } = standing desk)
      (fun e _ _ => e.elim) := by
    rw [Deciding.inner, Action.ends_focus]
    refine (onReadable_ends (R := fun _ _ _ => False)).mono (fun _ _ _ h => ?_)
      (fun e _ _ _ => e.elim)
    obtain ⟨moved, -, rfl⟩ := h
    exact fun _ => rfl
  exact hends.done hd _

/-- A connection is let through as long as there is room, and then it is counted. -/
theorem onAccept_standing {accepted : Accepted (Channel τ α β)} {answer : Option (Channel τ α β)}
    (h : Hooks.onAccept id accepted desk w = .done answer desk' w') :
    if answer.isSome then
      (standing desk).live < (standing desk).capacity ∧
        standing desk' = { standing desk with
          live := (standing desk).live + 1, decisions := (standing desk).decisions ++ [true] }
    else
      (standing desk).capacity ≤ (standing desk).live ∧
        standing desk' =
          { standing desk with decisions := (standing desk).decisions ++ [false] } := by
  obtain ⟨d, hd, rfl⟩ := Watched.noting_eq h
  obtain ⟨answer₁, d₁, w₁, hinner, hrest⟩ := Action.done_of_bind hd
  cases hrest
  have hends : (Deciding.inner (Hooks.onAccept id accepted)).Ends
      { desk with hooks := desk.hooks.hooks } w
      (fun (answer : Option (Channel τ α β)) d _ =>
        d.mailbox = desk.mailbox ∧ d.hooks.decisions = desk.hooks.hooks.decisions ∧
        Admission desk.hooks.hooks.hooks accepted.channel answer d.hooks.hooks)
      (fun e _ _ => e.elim) := by
    rw [Deciding.inner, Action.ends_focus]
    exact (onAccept_ends (R := fun _ _ _ => False)).mono (fun _ _ _ h => ⟨h.2.1, rfl, h.2.2⟩)
      (fun e _ _ _ => e.elim)
  obtain ⟨hmailbox, hdecisions, hadmission⟩ := hends.done hinner
  generalize hecho : d₁.hooks.hooks = echo at hadmission
  cases hadmission with
  | letIn hroom _ => exact ⟨hroom, by simp [standing, hmailbox, hdecisions, hecho]⟩
  | turnedAway hfull => exact ⟨hfull, by simp [standing, hmailbox, hdecisions, hecho]⟩

end

/-- Nothing is in the mailbox, the clients are no more than the echo counts, and it counts no more
than its capacity. -/
structure Capped (capacity : Nat) (r : Reactor (Watched (Deciding Echo) χ) χ) : Prop where
  bound : (standing r.desk).capacity = capacity
  queue : (standing r.desk).queue = []
  counted : r.clients.length ≤ (standing r.desk).live
  room : (standing r.desk).live ≤ capacity

/-- What was decided since the echo counted `start` clients: it counts those that it let through,
and it declined only when it counted to its capacity. -/
structure Decides (capacity start : Nat) (earlier decisions : List Bool)
    (r : Reactor (Watched (Deciding Echo) χ) χ) : Prop where
  recorded : (standing r.desk).decisions = earlier ++ decisions
  live : (standing r.desk).live = start + decisions.count true
  full : ∀ before after, decisions = before ++ false :: after → capacity ≤ start + before.count true

variable {capacity start : Nat} {earlier decisions : List Bool}
variable {r r' : Reactor (Watched (Deciding Echo) χ) χ}

omit [Machine ω] [Transport ω τ] [Acceptor ω α τ] [ChannelOps ω β] in
/-- Fewer clients, and nothing new for the echo. -/
theorem Capped.lessen (h : Capped capacity r) (hstanding : standing r'.desk = standing r.desk)
    (hclients : r'.clients.length ≤ r.clients.length) : Capped capacity r' where
  bound := hstanding ▸ h.bound
  queue := hstanding ▸ h.queue
  counted := hstanding ▸ Nat.le_trans hclients h.counted
  room := hstanding ▸ h.room

/-- A connection is let through, and comes or does not come. -/
theorem Capped.through (h : Capped capacity r)
    (hroom : (standing r.desk).live < (standing r.desk).capacity)
    (hstanding : standing r'.desk = { standing r.desk with
      live := (standing r.desk).live + 1, decisions := (standing r.desk).decisions ++ [true] })
    (hclients : r'.clients.length ≤ r.clients.length + 1) : Capped capacity r' where
  bound := by rw [hstanding]; exact h.bound
  queue := by rw [hstanding]; exact h.queue
  counted := by
    rw [hstanding]
    exact Nat.le_trans hclients (Nat.succ_le_succ h.counted)
  room := by rw [hstanding]; exact h.bound ▸ hroom

theorem Capped.declined (h : Capped capacity r)
    (hstanding : standing r'.desk = { standing r.desk with
      decisions := (standing r.desk).decisions ++ [false] })
    (hclients : r'.clients.length ≤ r.clients.length) : Capped capacity r' where
  bound := by rw [hstanding]; exact h.bound
  queue := by rw [hstanding]; exact h.queue
  counted := by
    rw [hstanding]
    exact Nat.le_trans hclients h.counted
  room := by rw [hstanding]; exact h.room

theorem Decides.same (h : Decides capacity start earlier decisions r)
    (hstanding : standing r'.desk = standing r.desk) :
    Decides capacity start earlier decisions r' where
  recorded := hstanding ▸ h.recorded
  live := hstanding ▸ h.live
  full := h.full

/-- The last of some decisions, or one before it. -/
theorem decided_before {last : Bool} {before after : List Bool}
    (h : decisions ++ [last] = before ++ false :: after) :
    last = false ∧ decisions = before ∨ ∃ rest, decisions = before ++ false :: rest := by
  obtain rfl | ⟨rest, last', rfl⟩ := List.eq_nil_or_concat after
  · obtain ⟨hsame, hlast⟩ := List.append_inj' h rfl
    cases hlast
    exact .inl ⟨rfl, hsame⟩
  · rw [List.concat_eq_append, ← List.cons_append, ← List.append_assoc] at h
    exact .inr ⟨rest, (List.append_inj' h rfl).1⟩

theorem Decides.through (h : Decides capacity start earlier decisions r)
    (hstanding : standing r'.desk = { standing r.desk with
      live := (standing r.desk).live + 1, decisions := (standing r.desk).decisions ++ [true] }) :
    Decides capacity start earlier (decisions ++ [true]) r' where
  recorded := by rw [hstanding, h.recorded, List.append_assoc]
  live := by
    rw [hstanding, List.count_append]
    change (standing r.desk).live + 1 = _
    rw [h.live, List.count_singleton_self, Nat.add_assoc]
  full before after heq := by
    obtain ⟨hlast, -⟩ | ⟨rest, hrest⟩ := decided_before heq
    · cases hlast
    · exact h.full before rest hrest

theorem Decides.declined (h : Decides capacity start earlier decisions r)
    (hfull : capacity ≤ (standing r.desk).live)
    (hstanding : standing r'.desk = { standing r.desk with
      decisions := (standing r.desk).decisions ++ [false] }) :
    Decides capacity start earlier (decisions ++ [false]) r' where
  recorded := by rw [hstanding, h.recorded, List.append_assoc]
  live := by
    rw [hstanding, List.count_append]
    exact h.live
  full before after heq := by
    obtain ⟨-, rfl⟩ | ⟨rest, hrest⟩ := decided_before heq
    · exact h.live ▸ hfull
    · exact h.full before rest hrest

omit [Machine ω] in
theorem register_spares {η : Type} [ChannelOps ω χ] {r r' : Reactor η χ} {w w' : ω} {c : χ}
    (h : (Reactor.register c).Leaves r w r' w') :
    r'.desk = r.desk ∧ r'.clients.length ≤ r.clients.length + 1 := by
  refine (Reactor.enroll_ends.mono (fun _ r' _ h' => ?_) (fun _ r' _ h' => ?_)).leaves
    (P := fun r' _ => r'.desk = r.desk ∧ r'.clients.length ≤ r.clients.length + 1) h
  · obtain ⟨-, c', -, rfl⟩ := h'
    generalize (if ChannelOps.isListening c then Side.listener else .client) = side
    cases side with
    | listener => exact ⟨rfl, Nat.le_succ _⟩
    | client => exact ⟨rfl, by simp [Reactor.enrolled, Reactor.mapEntries]⟩
  · rw [h'.1]
    exact ⟨rfl, Nat.le_succ _⟩

theorem length_put {η : Type} {r : Reactor η χ} {side : Side} {index : Nat} {c : χ} :
    (r.put side index c).clients.length = r.clients.length := by
  cases side with
  | listener => rfl
  | client => exact List.length_modify ..

theorem length_without {η : Type} {r : Reactor η χ} {side : Side} {index : Nat} :
    (r.without side index).clients.length ≤ r.clients.length := by
  cases side with
  | listener => exact Nat.le_refl _
  | client => exact List.length_eraseIdx_le ..

/-- Whatever an iteration does after it began keeps the clients below the count, and what is decided
is as it should be. -/
theorem stride_capped {r r' : Reactor (Watched (Deciding Echo) (Channel τ α β)) (Channel τ α β)}
    {w w' : ω} (h : Capped capacity r) (hd : Decides capacity start earlier decisions r)
    (hstride : Reactor.Stride (r, w) (r', w')) :
    Capped capacity r' ∧ ∃ decisions', Decides capacity start earlier decisions' r' := by
  have hlessen {r' : Reactor (Watched (Deciding Echo) (Channel τ α β)) (Channel τ α β)}
      (hstanding : standing r'.desk = standing r.desk)
      (hclients : r'.clients.length ≤ r.clients.length) :
      Capped capacity r' ∧ ∃ decisions', Decides capacity start earlier decisions' r' :=
    ⟨h.lessen hstanding hclients, decisions, hd.same hstanding⟩
  cases hstride with
  | elapse _ => exact hlessen rfl (Nat.le_refl _)
  | fetch hq _ =>
    have hqueue : r.mailbox.queue = [] := h.queue
    rw [hq] at hqueue
    cases hqueue
  | write _ _ hh => exact hlessen (default_standing hh) (Nat.le_of_eq length_put)
  | read _ _ hh => exact hlessen (onReadable_standing hh) (Nat.le_of_eq length_put)
  | @welcome _ _ _ _ _ _ _ _ _ _ _ desk _ _ hh hr =>
    obtain ⟨hroom, hstanding⟩ := onAccept_standing hh
    obtain ⟨hdesk, hclients⟩ := register_spares hr
    have hstanding : standing r'.desk = _ := (congrArg standing hdesk).trans hstanding
    refine ⟨h.through hroom hstanding (Nat.le_trans hclients ?_), _, hd.through hstanding⟩
    exact Nat.succ_le_succ (Nat.le_of_eq length_put)
  | decline _ _ hh =>
    obtain ⟨hfull, hstanding⟩ := onAccept_standing hh
    exact ⟨h.declined hstanding (Nat.le_of_eq length_put), _,
      hd.declined (h.bound ▸ hfull) hstanding⟩
  | refuse _ _ =>
    exact hlessen (by rw [Reactor.desk_put]) (Nat.le_of_eq length_put)
  | pollFailed => exact hlessen rfl (Nat.le_refl _)
  | evict _ _ hh => exact hlessen (default_standing hh) length_without

/-- The second reactor has no more clients, and nothing new for the echo. -/
def Spares (r r' : Reactor (Watched (Deciding Echo) χ) χ) : Prop :=
  standing r'.desk = standing r.desk ∧ r'.clients.length ≤ r.clients.length

omit [Machine ω] [Transport ω τ] [Acceptor ω α τ] [ChannelOps ω β] in
theorem Spares.refl (r : Reactor (Watched (Deciding Echo) χ) χ) : Spares r r :=
  ⟨rfl, Nat.le_refl _⟩

section

variable {r : Reactor (Watched (Deciding Echo) (Channel τ α β)) (Channel τ α β)} {w : ω}

theorem enroll_spares {c : Channel τ α β} :
    (Reactor.enroll .listener c).Ends r w (fun _ r' _ => Spares r r')
      (fun _ r' _ => Spares r r') := by
  refine Reactor.enroll_ends.mono (fun _ r' _ h => ?_) (fun _ r' _ h => ?_)
  · obtain ⟨-, c', -, rfl⟩ := h
    exact ⟨rfl, Nat.le_refl _⟩
  · rw [h.1]
    exact .refl r

omit [Machine ω] [Transport ω τ] [Acceptor ω α τ] [ChannelOps ω β] in
theorem hook_spares {x : Action ω Empty (Desk (Watched (Deciding Echo) (Channel τ α β)) _) Unit}
    (hx : ∀ {desk desk' w w'}, x desk w = .done () desk' w' → standing desk' = standing desk)
    {R : ε → Reactor (Watched (Deciding Echo) (Channel τ α β)) _ → ω → Prop} :
    (Reactor.hook x).Ends r w (fun _ r' _ => Spares r r') R :=
  Reactor.hook_ends fun _ _ _ h => ⟨hx h, Nat.le_refl _⟩

theorem closeAll_spares {R : ε → Reactor (Watched (Deciding Echo) (Channel τ α β)) _ → ω → Prop} :
    ∀ {entries : List (Entry (Channel τ α β))}
      {r : Reactor (Watched (Deciding Echo) (Channel τ α β)) (Channel τ α β)} {w : ω},
      (Reactor.closeAll entries).Ends r w (fun _ r' _ => Spares r r') R
  | [], r, _ => .refl r
  | e :: rest, r, w => by
    refine Reactor.closeAll_cons_ends fun c w₁ desk w₂ _ hh => ?_
    have h : Spares r (r.withDesk desk) := ⟨default_standing hh, Nat.le_refl _⟩
    exact closeAll_spares.mono (fun _ _ _ h' => ⟨h'.1.trans h.1, Nat.le_trans h'.2 h.2⟩)
      (fun _ _ _ h => h)

/-- What the owner does otherwise brings no client, and asks the echo nothing. -/
theorem perform_spares {command : Command ω (Deciding Echo) (Channel τ α β)}
    (hcommand : command.BringsNoClient) (hphase : command.IsPhase)
    (hidle : ¬ command.IsIteration) :
    command.perform.Ends r w (fun _ r' _ => Spares r r') (fun _ r' _ => Spares r r') := by
  cases command with
  | register c =>
    have hlistening : ChannelOps.isListening c = true := hcommand
    rw [Command.perform, Action.ends_bind, Reactor.register, if_pos hlistening]
    exact enroll_spares
  | listen c =>
    rw [Command.perform, Action.ends_bind, Reactor.listen]
    split
    · exact enroll_spares
    · exact .refl r
  | unregister id =>
    rw [Command.perform, Action.ends_bind]
    refine Reactor.unregister_ends (.refl r) fun side index e c w' _ _ _ => ?_
    exact ⟨by rw [Reactor.desk_without], length_without⟩
  | takeListeners =>
    rw [Command.perform, Action.ends_bind, Action.ends_subject, Action.ends_bind,
      Reactor.takeListeners, Action.ends_bind, Action.ends_subject, Action.ends_bind,
      Action.ends_update]
    refine Reactor.detachAll_ends.mono (fun _ r' _ h => ?_) (fun _ _ _ h => h.elim)
    subst h
    exact ⟨rfl, Nat.le_refl _⟩
  | inject c | adjust f => exact hcommand.elim
  | stop => exact ⟨rfl, Nat.le_refl _⟩
  | visit id x =>
    rw [Command.perform, Action.ends_bind, Action.ends_subject]
    split
    · exact .refl r
    · rename_i side index _
      have hput (c : Channel τ α β) : Spares r (r.put side index c) :=
        ⟨by rw [Reactor.desk_put], Nat.le_of_eq length_put⟩
      rw [Action.ends_bind, Reactor.onChannel_ends]
      intro e _
      exact (Action.ends_self _ _ _).mono (fun _ c _ _ => hput c) (fun _ c _ _ => hput c)
  | runOnce | iteration => exact (hidle trivial).elim
  | run limit => exact hphase.elim
  | startup =>
    rw [Command.perform, Action.ends_bind, Action.ends_sure]
    exact hook_spares fun hh => default_standing hh
  | cleanup =>
    rw [Command.perform, Action.ends_bind, Action.ends_sure]
    exact hook_spares fun hh => default_standing hh
  | shutdown =>
    rw [Command.perform, Action.ends_bind, Action.ends_sure, Reactor.shutdown, Action.ends_bind,
      Action.ends_subject, Action.ends_bind, Action.ends_update]
    exact (closeAll_spares (R := fun _ _ _ => False)).mono
      (fun _ _ _ h => ⟨h.1, Nat.le_trans h.2 (Nat.zero_le _)⟩) (fun e _ _ _ => e.elim)

end

/-- From the first state to the second there are strides, after each of which the clients are no
more than so many. -/
abbrev StridesWithin (capacity : Nat) :
    Reactor (Watched (Deciding Echo) (Channel τ α β)) (Channel τ α β) × ω →
      Reactor (Watched (Deciding Echo) (Channel τ α β)) (Channel τ α β) × ω → Prop :=
  Relation.ReflTransGen fun p q => Reactor.Stride p q ∧ q.1.clients.length ≤ capacity

/-- An iteration begins with a count of the clients, and from there on they are no more than the
capacity. -/
theorem iterates_within
    {p q : Reactor (Watched (Deciding Echo) (Channel τ α β)) (Channel τ α β) × ω}
    (h : Capped capacity p.1) (hiterates : Reactor.Iterates p q) :
    Capped capacity q.1 ∧ ∃ ticked, Reactor.Ticks p ticked ∧ ticked.1.clients = p.1.clients ∧
      StridesWithin capacity ticked q ∧
      ∃ decisions,
        Decides capacity p.1.clients.length (standing p.1.desk).decisions decisions q.1 := by
  obtain ⟨⟨begun, w₁⟩, hticks, hstrides⟩ := hiterates
  obtain ⟨desk, htick, rfl : begun = _⟩ := id hticks
  have hstanding := onTick_standing htick
  have hbegun : Capped capacity
      ((p.1.count (·.addIteration p.1.clients.length)).withDesk desk) :=
    ⟨(congrArg Standing.capacity hstanding).trans h.bound,
      (congrArg Standing.queue hstanding).trans h.queue,
      Nat.le_of_eq (congrArg Standing.live hstanding).symm,
      Nat.le_trans (Nat.le_of_eq (congrArg Standing.live hstanding))
        (Nat.le_trans h.counted h.room)⟩
  have hnone : Decides capacity p.1.clients.length (standing p.1.desk).decisions []
      ((p.1.count (·.addIteration p.1.clients.length)).withDesk desk) :=
    ⟨(congrArg Standing.decisions hstanding).trans (List.append_nil _).symm,
      congrArg Standing.live hstanding, fun before after hnil => by simp at hnil⟩
  suffices hall : Capped capacity q.1 ∧ StridesWithin capacity (_, w₁) q ∧ ∃ decisions,
      Decides capacity p.1.clients.length (standing p.1.desk).decisions decisions q.1 from
    ⟨hall.1, _, hticks, rfl, hall.2⟩
  induction hstrides with
  | refl => exact ⟨hbegun, .refl, [], hnone⟩
  | tail _ hstride ih =>
    obtain ⟨hcapped, hwithin, decisions, hdecides⟩ := ih
    obtain ⟨hcapped', hdecides'⟩ := stride_capped hcapped hdecides hstride
    exact ⟨hcapped', hwithin.tail ⟨hstride, Nat.le_trans hcapped'.counted hcapped'.room⟩, hdecides'⟩

end Echo

namespace Estate

open Echo

variable [Machine ω] [Transport ω τ] [Acceptor ω α τ] [ChannelOps ω β]
variable {s₀ s s' : Estate ω (Deciding Echo) (Channel τ α β)}

omit [Machine ω] [Transport ω τ] [Acceptor ω α τ] [ChannelOps ω β] in
theorem founded_capped {capacity serial : Nat} {settings : ReactorSettings} {hooks : Deciding Echo}
    {machine : ω} (hcapacity : hooks.hooks.capacity = capacity) (hlive : hooks.hooks.live = 0)
    (hfounded : founded serial settings hooks machine = some s₀) :
    s₀.reactor.Ordered ∧ Capped capacity s₀.reactor := by
  refine ⟨founded_ordered hfounded, ?_⟩
  rw [founded_eq hfounded]
  exact ⟨hcapacity, rfl, Nat.zero_le _, Nat.le_trans (Nat.le_of_eq hlive) (Nat.zero_le _)⟩

theorem step_capped {capacity : Nat} {command : Command ω (Deciding Echo) (Channel τ α β)}
    (hcommand : command.BringsNoClient) (hphase : command.IsPhase)
    (h : s.reactor.Ordered ∧ Capped capacity s.reactor) (hstep : s.step command = some s') :
    s'.reactor.Ordered ∧ Capped capacity s'.reactor := by
  refine ⟨step_ordered h.1 hstep, ?_⟩
  by_cases hiteration : command.IsIteration
  · exact (iterates_within h.2 (step_iterates h.1 hiteration hstep)).1
  · obtain ⟨hstanding, hclients⟩ := step_ends (P := fun r _ => Spares s.reactor r) hstep
      (perform_spares hcommand hphase hiteration)
    exact h.2.lessen hstanding hclients

/-- With clients that come only through its listeners, a reactor never has more of them than the
echo's capacity: not after any command, and not after any part of an iteration. The echo declines a
connection only when the clients at the start of the iteration and the connections that it let
through since are as many as its capacity; it is asked in iterations only, and a run consists of
iterations. -/
theorem capacity_kept {idleTimeout : Option Span} {capacity serial : Nat}
    {settings : ReactorSettings} {machine : ω}
    (hfounded : founded serial settings
      ({ hooks := { idleTimeout, capacity } } : Deciding Echo) machine = some s₀)
    (commands : List (Command ω (Deciding Echo) (Channel τ α β)))
    (hcommands : ∀ command ∈ commands, command.BringsNoClient)
    (hplay : s₀.play commands = some s) :
    s.reactor.clients.length ≤ capacity ∧
    (∀ command s', command.IsIteration → s.step command = some s' →
      ∃ ticked, Reactor.Ticks (s.reactor, s.machine) ticked ∧
        ticked.1.clients = s.reactor.clients ∧
        StridesWithin capacity ticked (s'.reactor, s'.machine) ∧
        ∃ decisions, s'.reactor.hooks.hooks.decisions =
            s.reactor.hooks.hooks.decisions ++ decisions ∧
          ∀ before after, decisions = before ++ false :: after →
            capacity ≤ s.reactor.clients.length + before.count true) ∧
    (∀ command s', command.BringsNoClient → command.IsPhase → ¬ command.IsIteration →
      s.step command = some s' →
        s'.reactor.hooks.hooks.decisions = s.reactor.hooks.hooks.decisions) ∧
    ∀ limit s', s.step (.run limit) = some s' → ∃ n ≤ limit, s.play (phases n) = some s' := by
  have hphases : ∀ n, ∀ command ∈ (phases n : List (Command ω (Deciding Echo) (Channel τ α β))),
      command.BringsNoClient := by
    intro n command hmem
    obtain rfl | rfl | rfl | rfl := mem_phases hmem <;> trivial
  obtain ⟨hordered, h⟩ := play_keeps (P := fun s => s.reactor.Ordered ∧ Capped capacity s.reactor)
    hphases (fun hcommand hphase h hstep => step_capped hcommand hphase h hstep) commands hcommands
    (founded_capped rfl rfl hfounded) hplay
  refine ⟨Nat.le_trans h.counted h.room, fun command s' hiteration hstep => ?_,
    fun command s' hcommand hphase hidle hstep => ?_, fun limit s' => run_phases⟩
  · obtain ⟨-, ticked, hticks, hsame, hwithin, decisions, hdecides⟩ :=
      iterates_within h (step_iterates hordered hiteration hstep)
    exact ⟨ticked, hticks, hsame, hwithin, decisions, hdecides.recorded, hdecides.full⟩
  · have hspares := step_ends (P := fun r _ => Spares s.reactor r) hstep
      (perform_spares hcommand hphase hidle)
    exact congrArg Standing.decisions hspares.1

/-- A listener whose gate brings one connection. -/
def singleGate (descriptor : Int) : Channel Scenario.Wire Scenario.Gate (NoKind Scenario.Bench) :=
  .listener
    { core := .new .forever "gate"
      acceptor := some
        { name := "gate", descriptor, accepts := [.connects { name := "wire" } "peer"] }
      settings := {}
      policy := .plain }

/-- Of the connections of two listeners an echo with room for one lets the first through and
declines the second. -/
theorem capacity_kept_singleGates :
    ∃ s₀ s s' : Estate Scenario.Bench (Deciding Echo)
        (Channel Scenario.Wire Scenario.Gate (NoKind Scenario.Bench)),
      founded 1 {} ({ hooks := { idleTimeout := some ⟨10⟩, capacity := 1 } } : Deciding Echo)
        { polls.ready := [(8, { input := true }), (9, { input := true })] } = some s₀ ∧
      s₀.play [.listen (singleGate 8), .listen (singleGate 9)] = some s ∧
      s.step .runOnce = some s' ∧
      s'.reactor.hooks.hooks.decisions = [true, false] ∧ s'.reactor.clients.length = 1 ∧
      (∃ ticked, Reactor.Ticks (s.reactor, s.machine) ticked ∧
        ticked.1.clients = s.reactor.clients ∧
        StridesWithin 1 ticked (s'.reactor, s'.machine)) ∧
      ∀ before after, [true, false] = before ++ false :: after → 1 ≤ 0 + before.count true := by
  have hrun : ((founded 1 {} ({ hooks := { idleTimeout := some ⟨10⟩, capacity := 1 } } :
        Deciding Echo) { polls.ready := [(8, { input := true }), (9, { input := true })] } :
          Option (Estate Scenario.Bench (Deciding Echo) _)).any fun s₀ =>
      (s₀.play [.listen (singleGate 8), .listen (singleGate 9)]).any fun s =>
      (s.step .runOnce).any fun s' =>
        s'.reactor.hooks.hooks.decisions == [true, false] && s'.reactor.clients.length == 1 &&
        s.reactor.clients.length == 0 && s.reactor.hooks.hooks.decisions == []) = true := by
    decide +kernel
  simp only [Option.any_eq_true, Bool.and_eq_true, beq_iff_eq] at hrun
  obtain ⟨s₀, hfounded, s, hplay, s', hstep, ⟨⟨hdecisions, hclients⟩, hnone⟩, hearlier⟩ := hrun
  have hcommands : ∀ command ∈ ([.listen (singleGate 8), .listen (singleGate 9)] :
      List (Command Scenario.Bench (Deciding Echo) _)), command.BringsNoClient := by
    simp only [List.forall_mem_cons]
    exact ⟨trivial, trivial, List.forall_mem_nil _⟩
  obtain ⟨-, hiterations, -⟩ := capacity_kept hfounded _ hcommands hplay
  obtain ⟨ticked, hticks, hsame, hwithin, decisions, hrecorded, hfull⟩ :=
    hiterations .runOnce s' trivial hstep
  rw [hdecisions, hearlier, List.nil_append] at hrecorded
  rw [← hrecorded, hnone] at hfull
  exact ⟨s₀, s, s', hfounded, hplay, hstep, hdecisions, hclients, ⟨ticked, hticks, hsame, hwithin⟩,
    hfull⟩

end Estate

end ChannelReactor
