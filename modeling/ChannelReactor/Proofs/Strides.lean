import ChannelReactor.Proofs.Visits
import ChannelReactor.Proofs.Polling

/-! # The strides of an iteration

A stride is a part of an iteration that belongs together: a callback with the hook that follows it,
and with the registration if the hook lets a connection through; an eviction; a channel that is
taken out of the mailbox and registered. Every iteration tells the application that it begins, and
is a chain of strides from there. Where a move says of a channel that it came, a stride says where
it came from. -/
namespace ChannelReactor

variable {ω ε η χ α : Type}

namespace Reactor

variable [Machine ω] [ChannelOps ω χ] [Hooks ω η χ]

/-- The callback on a channel is refused. -/
inductive Refuses : Callback → χ → ω → χ → ω → Prop
  | write {c c' : χ} {w w' : ω} {e : ChannelError}
    (h : ChannelOps.onWrite c w = .refused e c' w') : Refuses .write c w c' w'
  | read {c c' : χ} {w w' : ω} {e : ChannelError}
    (h : ChannelOps.onRead c w = .refused e c' w') : Refuses .read c w c' w'
  | accept {c c' : χ} {w w' : ω} {e : ChannelError}
    (h : ChannelOps.accept c w = .refused e c' w') : Refuses .accept c w c' w'

/-- The strides of an iteration, each from its first state to its last. -/
inductive Stride : Reactor η χ × ω → Reactor η χ × ω → Prop
  | elapse {r : Reactor η χ} {w w' : ω} (h : Machine.Step w w') : Stride (r, w) (r, w')
  | fetch {r r' : Reactor η χ} {w w' : ω} {c : χ} {rest : List χ}
    (hq : r.mailbox.queue = c :: rest)
    (h : (register c).Leaves
      (({ r with mailbox.queue := rest } : Reactor η χ).count (·.addInjected)) w r' w') :
    Stride (r, w) (r', w')
  | write {r : Reactor η χ} {w w₁ w₂ : ω} {index : Nat} {e : Entry χ} {c₁ c₂ : χ} {desk : Desk η χ}
    (he : (r.entries .client)[index]? = some e)
    (hc : ChannelOps.onWrite e.channel w = .done () c₁ w₁)
    (hh : Hooks.onWritable e.id c₁ r.desk w₁ = .done c₂ desk w₂) :
    Stride (r, w) ((r.put .client index c₂).withDesk desk, w₂)
  | read {r : Reactor η χ} {w w₁ w₂ : ω} {index : Nat} {e : Entry χ} {c₁ c₂ : χ} {desk : Desk η χ}
    (he : (r.entries .client)[index]? = some e)
    (hc : ChannelOps.onRead e.channel w = .done () c₁ w₁)
    (hh : Hooks.onReadable e.id c₁ r.desk w₁ = .done c₂ desk w₂) :
    Stride (r, w) ((r.put .client index c₂).withDesk desk, w₂)
  /-- The application lets a connection through, which is registered if it can be. -/
  | welcome {r r' : Reactor η χ} {w w₁ w₂ w' : ω} {index : Nat} {e : Entry χ}
    {accepted : Accepted χ} {c c₁ : χ} {desk : Desk η χ}
    (he : (r.entries .listener)[index]? = some e)
    (hc : ChannelOps.accept e.channel w = .done accepted c₁ w₁)
    (hh : Hooks.onAccept e.id accepted r.desk w₁ = .done (some c) desk w₂)
    (hr : (register c).Leaves (((r.put .listener index c₁).count (·.addAccepted)).withDesk desk) w₂
      r' w') : Stride (r, w) (r', w')
  | decline {r : Reactor η χ} {w w₁ w₂ : ω} {index : Nat} {e : Entry χ} {accepted : Accepted χ}
    {c₁ : χ} {desk : Desk η χ} (he : (r.entries .listener)[index]? = some e)
    (hc : ChannelOps.accept e.channel w = .done accepted c₁ w₁)
    (hh : Hooks.onAccept e.id accepted r.desk w₁ = .done none desk w₂) :
    Stride (r, w)
      ((((r.put .listener index c₁).count (·.addAccepted)).withDesk desk).count (·.addDiscarded),
        w₂)
  | refuse {r : Reactor η χ} {w w' : ω} {callback : Callback} {index : Nat} {e : Entry χ} {c : χ}
    (he : (r.entries callback.side)[index]? = some e) (h : Refuses callback e.channel w c w') :
    Stride (r, w) (r.put callback.side index c, w')
  | pollFailed {r : Reactor η χ} {w : ω} : Stride (r, w) (r.count (·.addPollFailure), w)
  | evict {r : Reactor η χ} {w w₁ w₂ : ω} {side : Side} {index : Nat} {e : Entry χ} {c : χ}
    {reason : CloseReason} {desk : Desk η χ} (he : (r.entries side)[index]? = some e)
    (hc : ChannelOps.close (ChannelOps.mapCore ChannelCore.unregister e.channel) w = .done () c w₁)
    (hh : Hooks.onClosed e.id c reason r.desk w₁ = .done () desk w₂) :
    Stride (r, w)
      (((r.without side index).count (·.addEvicted (reason == .expired))).withDesk desk, w₂)

abbrev Strides : Reactor η χ × ω → Reactor η χ × ω → Prop := Relation.ReflTransGen Stride

/-- The application is told that an iteration begins. -/
def Ticks (p q : Reactor η χ × ω) : Prop :=
  ∃ desk,
    Hooks.onTick (p.1.stats.addIteration p.1.clients.length) p.1.desk p.2 = .done () desk q.2 ∧
    q.1 = (p.1.count (·.addIteration p.1.clients.length)).withDesk desk

/-- From the first to the second it is an iteration. -/
def Iterates (p q : Reactor η χ × ω) : Prop := ∃ ticked, Ticks p ticked ∧ Strides ticked q

section

variable {o p q : Reactor η χ × ω} {r : Reactor η χ} {w w' : ω}

omit [Machine ω] [Hooks ω η χ] in
theorem register_ordered {c : χ} {r r' : Reactor η χ} (hr : r.Ordered)
    (h : (register c).Leaves r w r' w') : r'.Ordered := by
  refine (enroll_ends.mono (fun _ r' _ h' => ?_) (fun _ r' _ h' => ?_)).leaves
    (P := fun r' _ => r'.Ordered) h
  · obtain ⟨-, c', -, rfl⟩ := h'
    exact hr.enrolled
  · rw [h'.1]
    exact hr

theorem Stride.ordered (h : Stride p q) (hp : p.1.Ordered) : q.1.Ordered := by
  have hself {r : Reactor η χ} : Thins r r := .of_entries (fun _ => rfl) rfl
  cases h with
  | elapse _ => exact hp
  | @fetch r _ _ _ _ rest _ h =>
    exact register_ordered (hp.thins (Thins.mailbox { r.mailbox with queue := rest }).count) h
  | write _ _ _ | read _ _ _ => exact hp.thins Thins.put.withDesk
  | welcome _ _ _ hr => exact register_ordered (hp.thins Thins.put.count.withDesk) hr
  | decline _ _ _ => exact hp.thins Thins.put.count.withDesk.count
  | refuse _ _ => exact hp.thins .put
  | pollFailed => exact hp.thins hself.count
  | evict _ _ _ => exact hp.thins Thins.without.count.withDesk

/-- What every stride keeps is true wherever strides lead. -/
theorem Strides.keeps {I : Reactor η χ → ω → Prop}
    (hstep : ∀ {p q : Reactor η χ × ω}, I p.1 p.2 → Stride p q → I q.1 q.2) (h : Strides p q)
    (hp : I p.1 p.2) : I q.1 q.2 := by
  induction h with
  | refl => exact hp
  | tail _ hstride ih => exact hstep ih hstride

theorem Strides.ordered (h : Strides p q) (hp : p.1.Ordered) : q.1.Ordered :=
  h.keeps (I := fun r _ => r.Ordered) (fun hr hstride => hstride.ordered hr) hp

theorem Strides.elapse (ho : Strides o (r, w)) (h : Relation.ReflTransGen Machine.Step w w') :
    Strides o (r, w') := by
  induction h with
  | refl => exact ho
  | tail _ hstep ih => exact ih.tail (.elapse hstep)

theorem evict_strides {side : Side} {index : Nat} {reason : CloseReason} :
    Action.Keeps (fun r w => Strides o (r, w))
      (evict side index reason : Action ω ε (Reactor η χ) Unit) := by
  intro r w ho
  cases he : (r.entries side)[index]? with
  | none =>
    rw [evict, letGo, Action.ends_bind, Action.ends_bind, entryAt_ends]
    intro e he'
    cases he.symm.trans he'
  | some e =>
    refine (evict_spec he).mono (fun _ r' w₂ h => ?_) (fun _ _ _ h => h)
    obtain ⟨c, w₁, desk, hc, hh, rfl⟩ := h
    exact ho.tail (.evict he hc hh)

theorem expireFrom_strides (now : Instant) :
    ∀ rounds index, Action.Keeps (fun r w => Strides o (r, w))
      (expireFrom now rounds index : Action ω ε (Reactor η χ) Unit)
  | 0, _ => Action.keeps_pure
  | rounds + 1, index => by
    refine Action.keeps_subject.bind fun r => ?_
    split
    · exact Action.keeps_pure
    · split
      · exact evict_strides.bind fun _ => expireFrom_strides now rounds index
      · exact expireFrom_strides now rounds (index + 1)

theorem drainMailbox_strides :
    ∀ batch, Action.Keeps (fun r w => Strides o (r, w))
      (drainMailbox batch : Action ω ε (Reactor η χ) Unit)
  | 0 => Action.keeps_pure
  | batch + 1 => by
    refine Action.Keeps.bindSubject fun r w ho => ?_
    split
    · exact ho
    · rename_i c rest hq
      rw [Action.ends_bind, Action.ends_update, Action.ends_bind, Action.ends_update,
        Action.ends_bind, Action.ends_attempt]
      exact (Action.ends_self _ _ _).mono
        (fun id r' w' hx =>
          drainMailbox_strides batch r' w' (ho.tail (.fetch hq (.inl ⟨id, hx⟩))))
        (fun e r' w' hx => drainMailbox_strides batch r' w' (ho.tail (.fetch hq (.inr ⟨e, hx⟩))))

theorem preparePoll_strides :
    Action.Keeps (fun r w => Strides o (r, w))
      (preparePoll : Action ω ε (Reactor η χ) PollTable) := by
  refine Action.keeps_subject.bind fun r => Action.Keeps.repeatUntil
    (Action.keeps_subject.bind fun r => ?_) _
  split
  · exact evict_strides.bind fun _ => Action.keeps_pure
  · exact Action.keeps_pure

theorem polling_iterates :
    (polling : Action ω ε (Reactor η χ) _).Ends r w (fun _ r' w' => Iterates (r, w) (r', w'))
      (fun _ r' w' => Iterates (r, w) (r', w')) := by
  rw [polling, Action.ends_bind, Action.ends_update, Action.ends_bind, Action.ends_subject,
    Action.ends_bind]
  refine hook_ends fun _ desk w₁ hh => ?_
  have hticks : Ticks (r, w) (_, w₁) := ⟨desk, hh, rfl⟩
  refine Action.Ends.mono ((Action.keeps_ask.bind fun now => Action.Keeps.bind ?_ fun _ =>
    Action.keeps_subject.bind fun r => (drainMailbox_strides _).bind fun _ =>
      preparePoll_strides.bind fun table => Action.keeps_subject.bind fun r => ?_) _ _ .refl)
    (fun _ _ _ ho => ⟨_, hticks, ho⟩) (fun _ _ _ ho => ⟨_, hticks, ho⟩)
  · exact Action.keeps_subject.bind fun r => expireFrom_strides now r.clients.length 0
  · intro r w ho
    rw [Action.ends_bind, Action.ends_runOn, Action.ends_attempt]
    exact (wait_keeps _ _ .refl).mono (fun _ _ _ hw => ho.elapse hw) (fun _ _ _ hw => ho.elapse hw)

omit [Hooks ω η χ] in
theorem Unpollable.elapse {c : χ} (h : Unpollable c w w') :
    Relation.ReflTransGen Machine.Step w w' := by
  obtain ⟨-, rfl⟩ | ⟨descriptor, -, rfl, -⟩ := h
  · exact .refl
  · exact .single (.probe descriptor w)

theorem findBroken_strides {index : Nat} {entries : List (Entry χ)} :
    Action.Keeps (fun r w => Strides o (r, w))
      (findBroken index entries : Action ω ε (Reactor η χ) (Option Nat)) := by
  intro r w ho
  refine findBroken_ends.mono (fun found r' w' h => ?_) (fun _ _ _ h => h.elim)
  obtain ⟨rfl, w₁, hw, hfound⟩ := h
  cases found with
  | none =>
    rw [show w' = w₁ from hfound]
    exact ho.elapse hw
  | some index =>
    obtain ⟨-, e, -, hbroken⟩ := hfound
    exact (ho.elapse hw).elapse hbroken.elapse

theorem recover_strides {error : PollError} :
    Action.Keeps (fun r w => Strides o (r, w)) (recover error : Action ω _ (Reactor η χ) Nat) := by
  refine (Action.keeps_update fun _ _ ho => ho.tail .pollFailed).bind fun _ =>
    Action.keeps_subject.bind fun r => findBroken_strides.bind fun found => ?_
  split
  · exact evict_strides.bind fun _ => Action.keeps_pure
  · refine findBroken_strides.bind fun found => ?_
    split
    · exact evict_strides.bind fun _ => Action.keeps_pure
    · exact Action.keeps_refuse

/-- A callback that is done is a stride, and so is one that is refused. -/
theorem call_strides {callback : Callback} {index : Nat} (ho : Strides o (r, w)) :
    (call callback index).Ends r w (fun _ r' w' => Strides o (r', w'))
      (fun _ r' w' => Strides o (r', w')) := by
  cases callback with
  | write =>
    rw [call, Action.ends_bind, onChannel_ends]
    intro e he
    refine (Action.ends_self _ _ _).mono (fun _ c₁ w₁ hc => ?_)
      (fun _ c₁ _ hc => ho.tail (.refuse he (Refuses.write hc)))
    exact tell_ends he fun c₂ desk w₂ hh => ho.tail (.write he hc hh)
  | read =>
    rw [call, readFrom, Action.ends_bind, onChannel_ends]
    intro e he
    refine (Action.ends_self _ _ _).mono (fun _ c₁ w₁ hc => ?_)
      (fun _ c₁ _ hc => ho.tail (.refuse he (Refuses.read hc)))
    exact tell_ends he fun c₂ desk w₂ hh => ho.tail (.read he hc hh)
  | accept =>
    rw [call, acceptFrom, Action.ends_bind, entryAt_ends]
    intro listener hl
    rw [Action.ends_bind, onChannel_ends]
    intro e he
    cases hl.symm.trans he
    refine (Action.ends_self _ _ _).mono (fun accepted c₁ w₁ hc => ?_)
      (fun _ c₁ _ hc => ho.tail (.refuse he (Refuses.accept hc)))
    rw [Action.ends_bind, Action.ends_update, Action.ends_bind]
    refine hook_ends fun answer desk w₂ hh => ?_
    rw [desk_count, desk_put] at hh
    cases answer with
    | some c =>
      rw [Action.ends_bind, Action.ends_attempt]
      exact (Action.ends_self _ _ _).mono
        (fun id _ _ hx => ho.tail (.welcome he hc hh (.inl ⟨id, hx⟩)))
        (fun err _ _ hx => ho.tail (.welcome he hc hh (.inr ⟨err, hx⟩)))
    | none => exact ho.tail (.decline he hc hh)

theorem visit_strides {due : Due} {index : Nat} :
    Action.Keeps (fun r w => Strides o (r, w))
      (visit due index : Action ω ε (Reactor η χ) Visit) := by
  refine (Action.Keeps.attempt fun _ _ ho => call_strides ho).bind fun answer => ?_
  unfold settle
  split
  · exact evict_strides.bind fun _ => Action.keeps_pure
  · exact Action.keeps_pure

theorem attend_strides :
    ∀ due, Action.Keeps (fun r w => Strides o (r, w))
      (attend due : Action ω ε (Reactor η χ) (List Visit))
  | [] => Action.keeps_pure
  | due :: rest => by
    refine Action.keeps_subject.bind fun r => ?_
    split
    · exact attend_strides rest
    · refine visit_strides.bind fun v => ?_
      split
      · exact Action.keeps_pure
      · exact (attend_strides rest).bind fun _ => Action.keeps_pure

/-- Both dispatches are visits as long as the ids stand in order. -/
theorem respond_strides {table : PollTable} {answer : Except PollError Nat} {set : PollSet}
    (hr : r.Ordered) (ho : Strides o (r, w)) :
    (respond table answer set).Ends r w (fun _ r' w' => Strides o (r', w'))
      (fun _ r' w' => Strides o (r', w')) := by
  unfold respond
  split
  · exact ho
  · exact recover_strides r w ho
  · exact ho
  · split
    · exact recover_strides r w ho
    · rw [Action.ends_bind]
      refine .of_run (dispatchWrites_eq hr) ?_
      rw [Action.ends_map]
      have hwrites := attend_strides (o := (r, w)) (ε := ReactorError)
        (writesOf (PollTable.reports table.slots set)) r w .refl
      refine hwrites.mono (fun _ r₁ w₁ h₁ => ?_) (fun _ _ _ h₁ => ho.trans h₁)
      rw [Action.ends_bind]
      refine .of_run (dispatchReads_eq (h₁.ordered hr)) ?_
      rw [Action.ends_map]
      exact (attend_strides _ r₁ w₁ (ho.trans h₁)).mono (fun _ _ _ h => h) (fun _ _ _ h => h)

theorem Iterates.ordered (h : Iterates p q) (hp : p.1.Ordered) : q.1.Ordered := by
  obtain ⟨⟨r₁, w₁⟩, ⟨desk, -, rfl⟩, hstrides⟩ := h
  have hself : Thins p.1 p.1 := .of_entries (fun _ => rfl) rfl
  exact hstrides.ordered (hp.thins hself.count.withDesk)

theorem runOnce_iterates (hr : r.Ordered) :
    (runOnce : Action ω _ (Reactor η χ) Nat).Ends r w (fun _ r' w' => Iterates (r, w) (r', w'))
      (fun _ r' w' => Iterates (r, w) (r', w')) := by
  rw [runOnce_eq, Action.ends_bind]
  refine polling_iterates.mono (fun _ r₁ w₁ h => ?_) (fun _ _ _ h => h)
  obtain ⟨ticked, hticks, hstrides⟩ := h
  exact (respond_strides (Iterates.ordered ⟨ticked, hticks, hstrides⟩ hr) hstrides).mono
    (fun _ _ _ h => ⟨ticked, hticks, h⟩) (fun _ _ _ h => ⟨ticked, hticks, h⟩)

theorem iteration_iterates (hr : r.Ordered) :
    (iteration : Action ω ε (Reactor η χ) Unit).Ends r w
      (fun _ r' w' => Iterates (r, w) (r', w')) (fun _ r' w' => Iterates (r, w) (r', w')) := by
  rw [iteration, Action.ends_bind, Action.ends_attempt]
  refine (runOnce_iterates hr).mono (fun _ _ _ h => h) (fun _ r' w' h => ?_)
  obtain ⟨ticked, hticks, hstrides⟩ := h
  rw [Action.ends_bind, Action.ends_subject]
  exact ⟨ticked, hticks, hstrides.tail (.elapse (.sleep _ w'))⟩

end

end Reactor

/-- The command makes an iteration, and does nothing else. -/
def Command.IsIteration : Command ω η χ → Prop
  | runOnce | iteration => True
  | _ => False

/-- The command is not a run, which is a command for each of its phases. -/
def Command.IsPhase : Command ω η χ → Prop
  | run _ => False
  | _ => True

namespace Estate

variable [Machine ω] [ChannelOps ω χ] [Hooks ω η χ] {s s' : Estate ω η χ}

theorem step_iterates {command : Command ω η χ} (hs : s.reactor.Ordered)
    (hcommand : command.IsIteration) (h : s.step command = some s') :
    Reactor.Iterates (s.reactor, s.machine) (s'.reactor, s'.machine) := by
  refine step_ends (P := fun r w => Reactor.Iterates (s.reactor, s.machine) (r, w)) h ?_
  cases command with
  | runOnce =>
    rw [Command.perform, Action.ends_bind]
    exact (Reactor.runOnce_iterates hs).mono (fun _ _ _ h => h) (fun _ _ _ h => h)
  | iteration =>
    rw [Command.perform, Action.ends_bind, Action.ends_sure]
    exact (Reactor.iteration_iterates hs).mono (fun _ _ _ h => h) (fun e _ _ _ => e.elim)
  | _ => exact hcommand.elim

omit [Machine ω] [ChannelOps ω χ] [Hooks ω η χ] in
theorem mem_phases {n : Nat} {command : Command ω η χ} (h : command ∈ phases n) :
    command = .startup ∨ command = .iteration ∨ command = .shutdown ∨ command = .cleanup := by
  simp only [phases, List.cons_append, List.mem_cons, List.mem_append, List.mem_replicate,
    List.not_mem_nil, or_false] at h
  tauto

/-- What is kept by all commands of a sort but runs is kept by runs too, if the phases of a run are
of that sort. -/
theorem play_keeps {P : Estate ω η χ → Prop} {A : Command ω η χ → Prop}
    (hphases : ∀ n, ∀ command ∈ phases n, A command)
    (hstep : ∀ {command : Command ω η χ} {s s' : Estate ω η χ}, A command → command.IsPhase →
      P s → s.step command = some s' → P s') :
    ∀ (commands : List (Command ω η χ)) {s s' : Estate ω η χ}, (∀ command ∈ commands, A command) →
      P s → s.play commands = some s' → P s' := by
  have hplay (commands : List (Command ω η χ))
      (hone : ∀ command ∈ commands, ∀ {s s' : Estate ω η χ}, P s → s.step command = some s' →
        P s') : ∀ {s s' : Estate ω η χ}, P s → s.play commands = some s' → P s' := by
    induction commands with
    | nil =>
      intro s s' hs hplay
      cases hplay
      exact hs
    | cons command rest ih =>
      intro s s' hs hplay
      rw [play, Option.bind_eq_some_iff] at hplay
      obtain ⟨next, hnext, hrest⟩ := hplay
      exact ih (fun c hc => hone c (List.mem_cons_of_mem _ hc))
        (hone command (List.mem_cons_self ..) hs hnext) hrest
  intro commands s s' hA hs
  refine hplay commands (fun command hc s s' hs hnext => ?_) hs
  have hphase {command : Command ω η χ} (hA : A command) (hphase : command.IsPhase)
      {s s' : Estate ω η χ} (hs : P s) (h : s.step command = some s') : P s' :=
    hstep hA hphase hs h
  cases command with
  | run limit =>
    obtain ⟨n, -, hrun⟩ := run_phases hnext
    refine hplay (phases n) (fun command hc s s' hs hnext => ?_) hs hrun
    refine hphase (hphases n command hc) ?_ hs hnext
    obtain rfl | rfl | rfl | rfl := mem_phases hc <;> trivial
  | _ => exact hphase (hA _ hc) trivial hs hnext

theorem step_ordered {command : Command ω η χ} (hs : s.reactor.Ordered)
    (h : s.step command = some s') : s'.reactor.Ordered := by
  have hwithin : command.Within fun _ _ => True := by
    cases command with
    | visit _ _ => exact fun _ _ _ _ _ => trivial
    | _ => trivial
  exact hs.turns (step_turns hwithin h)

end Estate

end ChannelReactor
