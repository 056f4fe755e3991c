import Mathlib.Logic.Relation
import ChannelReactor.Proofs.Ends
import ChannelReactor.Reactor.Loop

/-! # The moves of a reactor

An iteration is a chain of moves: a callback with its hook, an eviction with what caused it, a
channel that comes, a step of the machine. Each move is an equation of the operations involved, so
what every move keeps is kept by every iteration, whatever the hooks, the channels and the machine
do. -/
namespace ChannelReactor

/-- A step that the machine makes by itself or when it is asked. -/
inductive Machine.Step {ω : Type} [Machine ω] : ω → ω → Prop
  | sleep (d : Span) (w : ω) : Step w (Machine.sleep d w)
  | wait (interests : List PollInterest) (millis : Nat) (w : ω) :
    Step w (Machine.wait interests millis w).2
  | probe (descriptor : Int) (w : ω) : Step w (Machine.probe descriptor w).2

namespace Reactor

variable {ω ε η χ α : Type}

section

variable {side : Side} {index : Nat} {r : Reactor η χ}

@[simp] theorem desk_put (c : χ) : (r.put side index c).desk = r.desk := by cases side <;> rfl

@[simp] theorem desk_without : (r.without side index).desk = r.desk := by cases side <;> rfl

@[simp] theorem desk_count (f : ReactorStats → ReactorStats) : (r.count f).desk = r.desk := rfl

@[simp] theorem hooks_put (c : χ) : (r.put side index c).hooks = r.hooks := by cases side <;> rfl

@[simp] theorem stats_put (c : χ) : (r.put side index c).stats = r.stats := by cases side <;> rfl

@[simp] theorem entries_withDesk (desk : Desk η χ) :
    (r.withDesk desk).entries side = r.entries side := by
  cases side <;> rfl

@[simp] theorem entries_count (f : ReactorStats → ReactorStats) :
    (r.count f).entries side = r.entries side := by
  cases side <;> rfl

theorem entries_put (c : χ) :
    (r.put side index c).entries side =
      (r.entries side).modify index fun e => { e with channel := c } := by
  cases side <;> rfl

theorem put_withDesk (desk : Desk η χ) (c : χ) :
    (r.withDesk desk).put side index c = (r.put side index c).withDesk desk := by
  cases side <;> rfl

theorem entry_put {e : Entry χ} (he : (r.entries side)[index]? = some e) (c : χ) :
    ((r.put side index c).entries side)[index]? = some { e with channel := c } := by
  rw [entries_put, List.getElem?_modify_eq, he]
  rfl

theorem put_put (c c' : χ) : (r.put side index c).put side index c' = r.put side index c' := by
  cases side <;> simp [put, mapEntries, List.modify_modify_eq, Function.comp_def]

theorem without_put (c : χ) : (r.put side index c).without side index = r.without side index := by
  cases side <;> simp [put, without, mapEntries, List.eraseIdx_modify_of_eq]

/-- To put the channel of a place there changes nothing. -/
theorem put_self {e : Entry χ} (he : (r.entries side)[index]? = some e) :
    r.put side index e.channel = r := by
  have hm : (r.entries side).modify index (fun x => { x with channel := e.channel }) =
      r.entries side := by
    apply List.ext_getElem?
    intro k
    by_cases hk : index = k
    · rw [← hk, List.getElem?_modify_eq, he]
      rfl
    · rw [List.getElem?_modify_ne _ _ hk]
  cases side with
  | listener => exact congrArg (fun l => { r with listeners := l }) hm
  | client => exact congrArg (fun l => { r with clients := l }) hm

end

section

variable {ε : Type} {r : Reactor η χ} {w : ω} {side : Side} {index : Nat}
variable {R : ε → Reactor η χ → ω → Prop}

theorem hook_ends {x : Action ω Empty (Desk η χ) α} {Q : α → Reactor η χ → ω → Prop}
    (hq : ∀ a desk w', x r.desk w = .done a desk w' → Q a (r.withDesk desk) w') :
    (hook x : Action ω ε (Reactor η χ) α).Ends r w Q R := by
  rw [hook, Action.ends_focus, Action.ends_sure]
  exact (Action.ends_self x _ _).mono (fun a desk w' hx => hq a desk w' hx) (fun e _ _ _ => e.elim)

theorem entryAt_ends {Q : Entry χ → Reactor η χ → ω → Prop} :
    (entryAt side index : Action ω ε (Reactor η χ) (Entry χ)).Ends r w Q R ↔
      ∀ e, (r.entries side)[index]? = some e → Q e r w := by
  rw [entryAt, Action.ends_bind, Action.ends_subject]
  cases (r.entries side)[index]? with
  | none => simp
  | some e => simp

theorem onChannel_ends {x : Action ω ε χ α} {Q : α → Reactor η χ → ω → Prop} :
    (onChannel side index x).Ends r w Q R ↔
      ∀ e, (r.entries side)[index]? = some e →
        x.Ends e.channel w (fun a c w' => Q a (r.put side index c) w')
          (fun err c w' => R err (r.put side index c) w') := by
  unfold Action.Ends onChannel
  cases (r.entries side)[index]? with
  | none => simp
  | some e =>
    simp only [Option.some.injEq, forall_eq']
    cases x e.channel w <;> rfl

/-- A client's callback that is done, and the hook that is told of it. -/
theorem tell_ends {e : Entry χ} {c₁ : χ} {f : ChannelId → χ → Action ω Empty (Desk η χ) χ}
    {Q : Unit → Reactor η χ → ω → Prop} (he : (r.entries .client)[index]? = some e)
    (hq : ∀ c₂ desk w₂, f e.id c₁ r.desk w = .done c₂ desk w₂ →
      Q () ((r.put .client index c₂).withDesk desk) w₂) :
    (tell index f).Ends (r.put .client index c₁) w Q R := by
  rw [tell, Action.ends_bind, entryAt_ends]
  intro x hx
  rw [entry_put he] at hx
  cases hx
  rw [Action.ends_bind]
  refine hook_ends fun c₂ desk w₂ hh => ?_
  rw [Action.ends_update, put_withDesk, put_put]
  exact hq c₂ desk w₂ (by simpa using hh)

variable [ChannelOps ω χ]

/-- What an enrollment does, and that nothing changes when the channel cannot be attached. -/
theorem enroll_ends {c : χ} :
    (enroll side c).Ends r w
      (fun id r' w' => id = r.nextId ∧
        ∃ c', ChannelOps.attach r.token c w = .done () c' w' ∧ r' = r.enrolled side c')
      (fun _ r' w' => r' = r ∧ ∃ e c', ChannelOps.attach r.token c w = .refused e c' w') := by
  rw [enroll, Action.ends_bind, Action.ends_subject, Action.ends_bind, Action.ends_runOn,
    Action.ends_mapReason]
  refine (Action.ends_self _ _ _).mono (fun _ c' w' hx => ?_) (fun e c' w' hx => ?_)
  · rw [Action.ends_bind, Action.ends_update]
    exact ⟨rfl, c', hx, rfl⟩
  · exact ⟨rfl, e, c', hx⟩

/-- A channel that is dismissed is unregistered and closed, and nothing else happens. -/
theorem dismiss_ends {σ : Type} {c : χ} {s : σ} {Q : χ → σ → ω → Prop} {R : ε → σ → ω → Prop}
    (hq : ∀ c' w', ChannelOps.close (ChannelOps.mapCore ChannelCore.unregister c) w =
      .done () c' w' → Q c' s w') :
    (dismiss c : Action ω ε σ χ).Ends s w Q R := by
  rw [dismiss, Action.ends_bind]
  exact .runOn_sure fun _ c' w' hc => hq c' w' hc

/-- At the end of a run the first client is closed and told of; then come the others. -/
theorem closeAll_cons_ends [Hooks ω η χ] {e : Entry χ} {rest : List (Entry χ)}
    {Q : Unit → Reactor η χ → ω → Prop}
    (hq : ∀ c w₁ desk w₂,
      ChannelOps.close (ChannelOps.mapCore ChannelCore.unregister e.channel) w = .done () c w₁ →
      Hooks.onClosed e.id c .shutdown r.desk w₁ = .done () desk w₂ →
      (closeAll rest).Ends (r.withDesk desk) w₂ Q R) :
    (closeAll (e :: rest)).Ends r w Q R := by
  rw [closeAll, Action.ends_bind]
  refine dismiss_ends fun c w₁ hc => ?_
  rw [Action.ends_bind]
  exact hook_ends fun _ desk w₂ hh => hq c w₁ desk w₂ hc hh

/-- The entry of an id leaves the lists, whatever comes of detaching its channel; an id that nothing
has is refused. -/
theorem unregister_ends {id : ChannelId} {Q : χ → Reactor η χ → ω → Prop}
    {R : ReactorError → Reactor η χ → ω → Prop} (hnone : R (.unknownChannel id) r w)
    (hgone : ∀ side index e c w', r.find? id = some (side, index) →
      (r.entries side)[index]? = some e → ChannelOps.detach.Leaves e.channel w c w' →
      Q c (r.without side index) w') :
    (unregister id).Ends r w Q R := by
  rw [unregister, Action.ends_bind, Action.ends_subject]
  split
  · exact hnone
  · rename_i side index hfind
    rw [Action.ends_bind, entryAt_ends]
    intro e he
    rw [Action.ends_bind, Action.ends_update, Action.ends_bind, Action.ends_runOn,
      Action.ends_attempt]
    exact .of_outcome (fun a c w' h => hgone side index e c w' hfind he (.inl ⟨a, h⟩))
      (fun err c w' h => hgone side index e c w' hfind he (.inr ⟨err, h⟩))

/-- What a reactor does with a channel before it tells the application that the channel is gone. -/
theorem letGo_ends {reason : CloseReason} {e : Entry χ}
    (he : (r.entries side)[index]? = some e) :
    (letGo side index reason).Ends r w
      (fun x r' w' => ∃ c,
        ChannelOps.close (ChannelOps.mapCore ChannelCore.unregister e.channel) w = .done () c w' ∧
        x = { e with channel := c } ∧
        r' = (r.without side index).count (·.addEvicted (reason == .expired))) R := by
  rw [letGo, Action.ends_bind, entryAt_ends]
  intro x hx
  obtain rfl : e = x := Option.some.inj (he.symm.trans hx)
  rw [Action.ends_bind, Action.ends_update, Action.ends_bind]
  exact dismiss_ends fun c w' hc => ⟨c, hc, rfl, rfl⟩

theorem evict_spec [Hooks ω η χ] {reason : CloseReason} {e : Entry χ}
    (he : (r.entries side)[index]? = some e) :
    (evict side index reason).Ends r w
      (fun _ r' w₂ => ∃ c w₁ desk,
        ChannelOps.close (ChannelOps.mapCore ChannelCore.unregister e.channel) w = .done () c w₁ ∧
        Hooks.onClosed e.id c reason r.desk w₁ = .done () desk w₂ ∧
        r' = ((r.without side index).count (·.addEvicted (reason == .expired))).withDesk desk)
      R := by
  rw [evict, Action.ends_bind]
  refine (letGo_ends he).mono (fun x r' w₁ h => ?_) (fun _ _ _ h => h)
  obtain ⟨c, hc, rfl, rfl⟩ := h
  exact hook_ends fun _ desk w₂ hh => ⟨c, w₁, desk, hc, by simpa using hh, rfl⟩

/-- The place that the enlisting stops at is that of an entry without a descriptor. -/
theorem enlist_error :
    ∀ {entries : List (Entry χ)} {index k : Nat} {table : PollTable},
      enlist side index entries table = .error k → index ≤ k ∧
        ∃ e, entries[k - index]? = some e ∧ ∃ err, ChannelOps.descriptor e.channel = .error err
  | [], _, _, _, h => by cases h
  | x :: rest, index, k, table, h => by
    rw [enlist] at h
    split at h
    · obtain ⟨hk, e, he, herr⟩ := enlist_error h
      refine ⟨by omega, e, ?_, herr⟩
      have : k - index = k - (index + 1) + 1 := by omega
      rw [this, List.getElem?_cons_succ]
      exact he
    · rename_i err herr
      cases h
      exact ⟨Nat.le_refl _, x, by simp, err, herr⟩

theorem pollTable_error (h : pollTable r = .error (side, index)) :
    ∃ e, (r.entries side)[index]? = some e ∧
      ∃ err, ChannelOps.descriptor e.channel = .error err := by
  unfold pollTable at h
  split at h
  · rename_i k hk
    cases h
    obtain ⟨-, he⟩ := enlist_error hk
    exact he
  · split at h
    · rename_i k hk
      cases h
      obtain ⟨-, he⟩ := enlist_error hk
      exact he
    · cases h

end

/-! ## Moves -/

/-- The action leaves the channel where it is: it is done, or refuses for a reason that will
pass. -/
def Stays (x : Action ω ChannelError χ α) (c : χ) (w : ω) (c' : χ) (w' : ω) : Prop :=
  (∃ a, x c w = .done a c' w') ∨ ∃ e, CloseReason.ofError? e = none ∧ x c w = .refused e c' w'

def Fails (x : Action ω ChannelError χ α) (c : χ) (w : ω) (reason : CloseReason) (c' : χ)
    (w' : ω) : Prop :=
  ∃ e, CloseReason.ofError? e = some reason ∧ x c w = .refused e c' w'

variable [Machine ω] [ChannelOps ω χ]

/-- In this step the machine says that a descriptor cannot be polled. -/
def Denied (descriptor : Int) (w w' : ω) : Prop :=
  (Machine.probe descriptor w).2 = w' ∧ match (Machine.probe descriptor w).1 with
    | .error e => e ≠ .interrupted
    | .ok flags => flags.invalid = true

/-- A channel that cannot be polled. The second machine is the one that has said so, if it had to be
asked. -/
def Unpollable (c : χ) (w w' : ω) : Prop :=
  (∃ e, ChannelOps.descriptor c = .error e) ∧ w' = w ∨
    ∃ descriptor, ChannelOps.descriptor c = .ok descriptor ∧ Denied descriptor w w'

/-- What makes a reactor let a channel go. The second channel and machine are those after the
callback that failed, if it was one. -/
inductive Fault : Side → χ → ω → CloseReason → χ → ω → Prop
  | expired {c : χ} {w : ω} {now : Instant} (h : ChannelOps.hasExpired now c = true) :
    Fault .client c w .expired c w
  | lost {side : Side} {c : χ} {w : ω} {e : ChannelError} (h : ChannelOps.descriptor c = .error e) :
    Fault side c w .closed c w
  | write {c c' : χ} {w w' : ω} {reason : CloseReason}
    (h : Fails ChannelOps.onWrite c w reason c' w') : Fault .client c w reason c' w'
  | read {c c' : χ} {w w' : ω} {reason : CloseReason}
    (h : Fails ChannelOps.onRead c w reason c' w') : Fault .client c w reason c' w'
  | accept {c c' : χ} {w w' : ω} {reason : CloseReason}
    (h : Fails ChannelOps.accept c w reason c' w') : Fault .listener c w reason c' w'

/-- A callback that may refuse and leave its channel where it is. -/
inductive Defers : Side → χ → ω → χ → ω → Prop
  | write {c c' : χ} {w w' : ω} (h : Stays ChannelOps.onWrite c w c' w') : Defers .client c w c' w'
  | read {c c' : χ} {w w' : ω} (h : Stays ChannelOps.onRead c w c' w') : Defers .client c w c' w'
  | accept {c c' : χ} {w w' : ω} (h : Stays ChannelOps.accept c w c' w') :
    Defers .listener c w c' w'

variable [Hooks ω η χ]

inductive Move : Reactor η χ × ω → Reactor η χ × ω → Prop
  | elapse {r : Reactor η χ} {w w' : ω} (h : Machine.Step w w') : Move (r, w) (r, w')
  | tick {r : Reactor η χ} {w w' : ω} {desk : Desk η χ}
    (h : Hooks.onTick (r.stats.addIteration r.clients.length) r.desk w = .done () desk w') :
    Move (r, w) ((r.count (·.addIteration r.clients.length)).withDesk desk, w')
  /-- A channel is taken out of the mailbox. -/
  | fetch {r : Reactor η χ} {w : ω} {c : χ} {rest : List χ} (h : r.mailbox.queue = c :: rest) :
    Move (r, w) (({ r with mailbox.queue := rest } : Reactor η χ).count (·.addInjected), w)
  | enroll {r : Reactor η χ} {w w' : ω} {c c' : χ} (side : Side)
    (h : ChannelOps.attach r.token c w = .done () c' w') : Move (r, w) (r.enrolled side c', w')
  /-- A channel cannot be registered, and is dropped. -/
  | reject {r : Reactor η χ} {w w' : ω} {c c' : χ} {e : ChannelError}
    (h : ChannelOps.attach r.token c w = .refused e c' w') : Move (r, w) (r, w')
  | write {r : Reactor η χ} {w w₁ w₂ : ω} {index : Nat} {e : Entry χ} {c₁ c₂ : χ} {desk : Desk η χ}
    (he : (r.entries .client)[index]? = some e)
    (hc : ChannelOps.onWrite e.channel w = .done () c₁ w₁)
    (hh : Hooks.onWritable e.id c₁ r.desk w₁ = .done c₂ desk w₂) :
    Move (r, w) ((r.put .client index c₂).withDesk desk, w₂)
  | read {r : Reactor η χ} {w w₁ w₂ : ω} {index : Nat} {e : Entry χ} {c₁ c₂ : χ} {desk : Desk η χ}
    (he : (r.entries .client)[index]? = some e)
    (hc : ChannelOps.onRead e.channel w = .done () c₁ w₁)
    (hh : Hooks.onReadable e.id c₁ r.desk w₁ = .done c₂ desk w₂) :
    Move (r, w) ((r.put .client index c₂).withDesk desk, w₂)
  | accept {r : Reactor η χ} {w w₁ w₂ : ω} {index : Nat} {e : Entry χ} {accepted : Accepted χ}
    {c₁ : χ} {answer : Option χ} {desk : Desk η χ}
    (he : (r.entries .listener)[index]? = some e)
    (hc : ChannelOps.accept e.channel w = .done accepted c₁ w₁)
    (hh : Hooks.onAccept e.id accepted r.desk w₁ = .done answer desk w₂) :
    Move (r, w) (((r.put .listener index c₁).count (·.addAccepted)).withDesk desk, w₂)
  /-- The application declines a connection. -/
  | discard {r : Reactor η χ} {w : ω} : Move (r, w) (r.count (·.addDiscarded), w)
  | defer {r : Reactor η χ} {w w' : ω} {side : Side} {index : Nat} {e : Entry χ} {c : χ}
    (he : (r.entries side)[index]? = some e) (h : Defers side e.channel w c w') :
    Move (r, w) (r.put side index c, w')
  /-- A poll fails, and no channel is to blame. -/
  | pollFailed {r : Reactor η χ} {w : ω} : Move (r, w) (r.count (·.addPollFailure), w)
  | blame {r : Reactor η χ} {w w₁ w₂ w₃ : ω} {side : Side} {index : Nat} {e : Entry χ} {c : χ}
    {desk : Desk η χ} (he : (r.entries side)[index]? = some e) (hu : Unpollable e.channel w w₁)
    (hc : ChannelOps.close (ChannelOps.mapCore ChannelCore.unregister e.channel) w₁ = .done () c w₂)
    (hh : Hooks.onClosed e.id c .pollFailure r.desk w₂ = .done () desk w₃) :
    Move (r, w)
      ((((r.count (·.addPollFailure)).without side index).count (·.addEvicted false)).withDesk desk,
        w₃)
  | evict {r : Reactor η χ} {w w₁ w₂ w₃ : ω} {side : Side} {index : Nat} {e : Entry χ}
    {reason : CloseReason} {c₁ c₂ : χ} {desk : Desk η χ}
    (he : (r.entries side)[index]? = some e) (hf : Fault side e.channel w reason c₁ w₁)
    (hc : ChannelOps.close (ChannelOps.mapCore ChannelCore.unregister c₁) w₁ = .done () c₂ w₂)
    (hh : Hooks.onClosed e.id c₂ reason r.desk w₂ = .done () desk w₃) :
    Move (r, w)
      (((r.without side index).count (·.addEvicted (reason == .expired))).withDesk desk, w₃)

abbrev Moves : Reactor η χ × ω → Reactor η χ × ω → Prop := Relation.ReflTransGen Move

/-! ## The parts of an iteration -/

section

variable {ε : Type} {o : Reactor η χ × ω}

theorem enroll_keeps {side : Side} {c : χ} :
    Action.Keeps (fun r w => Moves o (r, w)) (enroll side c) := by
  intro r w ho
  refine enroll_ends.mono (fun id r' w' h => ?_) (fun e r' w' h => ?_)
  · obtain ⟨-, c', hx, rfl⟩ := h
    exact ho.tail (.enroll side hx)
  · obtain ⟨rfl, e, c', hx⟩ := h
    exact ho.tail (.reject hx)

theorem register_keeps {c : χ} : Action.Keeps (fun r w => Moves o (r, w)) (register c) :=
  enroll_keeps

/-- An eviction is a move from where its fault begins. -/
theorem evict_ends {side : Side} {index : Nat} {reason : CloseReason} {e : Entry χ}
    {r : Reactor η χ} {w w₁ : ω} {c₁ : χ} (ho : Moves o (r, w))
    (he : (r.entries side)[index]? = some e) (hf : Fault side e.channel w reason c₁ w₁)
    {R : ε → Reactor η χ → ω → Prop} :
    (evict side index reason).Ends (r.put side index c₁) w₁ (fun _ r w => Moves o (r, w)) R := by
  refine (evict_spec (entry_put he c₁)).mono (fun _ r' w₃ h => ?_) (fun _ _ _ h => h)
  obtain ⟨c₂, w₂, desk, hc, hh, rfl⟩ := h
  rw [without_put]
  exact ho.tail (.evict he hf hc (by simpa using hh))

/-- An eviction for a fault that is no callback's. -/
theorem evict_ends_idle {side : Side} {index : Nat} {reason : CloseReason} {e : Entry χ}
    {r : Reactor η χ} {w : ω} (ho : Moves o (r, w)) (he : (r.entries side)[index]? = some e)
    (hf : Fault side e.channel w reason e.channel w) {R : ε → Reactor η χ → ω → Prop} :
    (evict side index reason).Ends r w (fun _ r w => Moves o (r, w)) R := by
  have h := evict_ends (R := R) ho he hf
  rwa [put_self he] at h

/-- An eviction after a failed poll. -/
theorem blame_ends {side : Side} {index : Nat} {e : Entry χ} {r : Reactor η χ} {w w₁ : ω}
    (ho : Moves o (r, w)) (he : (r.entries side)[index]? = some e)
    (hu : Unpollable e.channel w w₁) {R : ε → Reactor η χ → ω → Prop} :
    (evict side index .pollFailure).Ends (r.count (·.addPollFailure)) w₁
      (fun _ r w => Moves o (r, w)) R := by
  have he' : ((r.count (·.addPollFailure)).entries side)[index]? = some e := by
    rwa [entries_count]
  refine (evict_spec he').mono (fun _ r' w₃ h => ?_) (fun _ _ _ h => h)
  obtain ⟨c, w₂, desk, hc, hh, rfl⟩ := h
  exact ho.tail (.blame he hu hc hh)

theorem expireFrom_keeps (now : Instant) :
    ∀ rounds index, Action.Keeps (fun r w => Moves o (r, w))
      (expireFrom now rounds index : Action ω ε (Reactor η χ) Unit)
  | 0, _ => Action.keeps_pure
  | rounds + 1, index => by
    refine Action.Keeps.bindSubject fun r w ho => ?_
    split
    · exact ho
    · rename_i e he
      split
      · rename_i hexpired
        have hclient : (r.entries .client)[index]? = some e := he
        rw [Action.ends_bind]
        exact (evict_ends_idle ho hclient (.expired hexpired)).mono
          (fun _ r' w' ho' => expireFrom_keeps now rounds index r' w' ho') (fun _ _ _ h => h)
      · exact expireFrom_keeps now rounds (index + 1) r w ho

theorem expire_keeps (now : Instant) :
    Action.Keeps (fun r w => Moves o (r, w)) (expire now : Action ω ε (Reactor η χ) Unit) :=
  Action.keeps_subject.bind fun r => expireFrom_keeps now r.clients.length 0

theorem drainMailbox_keeps :
    ∀ batch, Action.Keeps (fun r w => Moves o (r, w))
      (drainMailbox batch : Action ω ε (Reactor η χ) Unit)
  | 0 => Action.keeps_pure
  | batch + 1 => by
    refine Action.Keeps.bindSubject fun r w ho => ?_
    split
    · exact ho
    · rename_i c rest hq
      rw [Action.ends_bind, Action.ends_update, Action.ends_bind, Action.ends_update]
      exact (register_keeps.attempt.bind fun _ => drainMailbox_keeps batch) _ _
        (ho.tail (.fetch hq))

theorem preparePoll_keeps :
    Action.Keeps (fun r w => Moves o (r, w))
      (preparePoll : Action ω ε (Reactor η χ) PollTable) := by
  refine Action.Keeps.bindSubject fun r₀ w₀ ho₀ => ?_
  -- Every round evicts one entry without a descriptor, or there is none left.
  refine Action.Keeps.repeatUntil (I := fun r w => Moves o (r, w)) ?_ _ _ _ ho₀
  refine Action.Keeps.bindSubject fun r w ho => ?_
  split
  · rename_i side index htable
    obtain ⟨e, he, err, herr⟩ := pollTable_error htable
    rw [Action.ends_bind]
    exact evict_ends_idle ho he (.lost herr)
  · exact ho

theorem Moves.elapse {r : Reactor η χ} {w w' : ω} (ho : Moves o (r, w))
    (h : Relation.ReflTransGen Machine.Step w w') : Moves o (r, w') := by
  induction h with
  | refl => exact ho
  | tail _ hstep ih => exact ih.tail (.elapse hstep)

/-- A probe is some steps of the machine, and the last step of one that refuses is a denial. -/
theorem probe_ends {σ : Type} {descriptor : Int} {s : σ} {w : ω} :
    (PollSet.probe descriptor : Action ω PollError σ Unit).Ends s w
      (fun _ s' w' => s' = s ∧ Relation.ReflTransGen Machine.Step w w')
      (fun _ s' w' => s' = s ∧ ∃ w₁, Relation.ReflTransGen Machine.Step w w₁ ∧
        Denied descriptor w₁ w') := by
  rw [PollSet.probe, Action.ends_bind, Action.ends_ask]
  refine Action.Ends.repeatUntil
    (I := fun s' w' => s' = s ∧ Relation.ReflTransGen Machine.Step w w') ?_ _ _ _ ⟨rfl, .refl⟩
  rintro s' w' ⟨rfl, hw⟩
  have hw' := hw.tail (.probe descriptor w')
  rw [Action.ends_bind, Action.ends_onMachine]
  split
  · exact ⟨rfl, hw'⟩
  · rename_i e hne he
    exact ⟨rfl, w', hw, rfl, by rw [he]; exact hne⟩
  · rename_i flags hflags
    split
    · rename_i hinvalid
      exact ⟨rfl, w', hw, rfl, by rw [hflags]; exact hinvalid⟩
    · exact ⟨rfl, hw'⟩

/-- The search stops right after a channel that cannot be polled. -/
theorem findBroken_ends {σ : Type} {s : σ} :
    ∀ {entries : List (Entry χ)} {index : Nat} {w : ω},
      (findBroken index entries : Action ω ε σ (Option Nat)).Ends s w
        (fun found s' w' => s' = s ∧ ∃ w₁, Relation.ReflTransGen Machine.Step w w₁ ∧
          match found with
          | none => w' = w₁
          | some k => index ≤ k ∧ ∃ e, entries[k - index]? = some e ∧ Unpollable e.channel w₁ w')
        (fun _ _ _ => False)
  | [], _, w => ⟨rfl, w, .refl, rfl⟩
  | x :: rest, index, w => by
    have hhere {w₁ w' : ω} (hx : Unpollable x.channel w₁ w') :
        index ≤ index ∧ ∃ e, (x :: rest)[index - index]? = some e ∧ Unpollable e.channel w₁ w' :=
      ⟨Nat.le_refl _, x, by simp, hx⟩
    rw [findBroken]
    split
    · rename_i e he
      exact ⟨rfl, w, .refl, hhere (.inl ⟨⟨e, he⟩, rfl⟩)⟩
    · rename_i descriptor hd
      rw [Action.ends_bind, Action.ends_attempt]
      refine probe_ends.mono (fun _ s' w' h => ?_) (fun e s' w' h => ?_)
      · obtain ⟨rfl, hw⟩ := h
        refine findBroken_ends.mono (fun found s' w'' h => ?_) (fun _ _ _ h => h)
        obtain ⟨rfl, w₁, hw', hfound⟩ := h
        refine ⟨rfl, w₁, hw.trans hw', ?_⟩
        cases found with
        | none => exact hfound
        | some k =>
          obtain ⟨hle, e, he, hbroken⟩ := hfound
          refine ⟨by omega, e, ?_, hbroken⟩
          have hk : k - index = k - (index + 1) + 1 := by omega
          rw [hk, List.getElem?_cons_succ]
          exact he
      · obtain ⟨rfl, w₁, hw, hdenied⟩ := h
        exact ⟨rfl, w₁, hw, hhere (.inr ⟨descriptor, hd, hdenied⟩)⟩

theorem recover_keeps {error : PollError} :
    Action.Keeps (fun r w => Moves o (r, w)) (recover error : Action ω _ (Reactor η χ) Nat) := by
  intro r w ho
  rw [recover, Action.ends_bind, Action.ends_update, Action.ends_bind, Action.ends_subject,
    Action.ends_bind]
  refine findBroken_ends.mono (fun found r' w' h => ?_) (fun _ _ _ h => h.elim)
  obtain ⟨rfl, w₁, hw, hfound⟩ := h
  cases found with
  | some index =>
    obtain ⟨-, e, he, hbroken⟩ := hfound
    have hclient : (r.entries .client)[index]? = some e := he
    rw [Action.ends_bind]
    exact blame_ends (ho.elapse hw) hclient hbroken
  | none =>
    obtain rfl : w' = w₁ := hfound
    rw [Action.ends_bind]
    refine findBroken_ends.mono (fun found r'' w'' h => ?_) (fun _ _ _ h => h.elim)
    obtain ⟨rfl, w₂, hw', hfound⟩ := h
    have ho' := (ho.elapse hw).elapse hw'
    cases found with
    | some index =>
      obtain ⟨-, e, he, hbroken⟩ := hfound
      have hlistener : (r.entries .listener)[index]? = some e := he
      rw [Action.ends_bind]
      exact blame_ends ho' hlistener hbroken
    | none =>
      obtain rfl : w'' = w₂ := hfound
      exact ho'.tail .pollFailed

theorem dispatchWrites_keeps :
    ∀ reports, Action.Keeps (fun r w => Moves o (r, w))
      (dispatchWrites reports : Action ω ε (Reactor η χ) Nat)
  | [] => Action.keeps_pure
  | (slot, ready) :: rest => by
    rw [dispatchWrites]
    split
    · exact dispatchWrites_keeps rest
    · refine Action.Keeps.bindSubject fun r w ho => ?_
      split
      · exact dispatchWrites_keeps rest r w ho
      · rename_i index _
        rw [Action.ends_bind, Action.ends_attempt, onChannel_ends]
        intro e he
        refine (Action.ends_self _ _ _).mono (fun _ c₁ w₁ hc => ?_) (fun err c₁ w₁ hc => ?_)
        · rw [Action.ends_bind]
          refine tell_ends he fun c₂ desk w₂ hh => ?_
          exact (dispatchWrites_keeps rest).bind (fun _ => Action.keeps_pure) _ _
            (ho.tail (.write he hc hh))
        · dsimp only
          split
          · rename_i reason hreason
            rw [Action.ends_bind]
            exact evict_ends ho he (.write ⟨err, hreason, hc⟩)
          · rename_i hreason
            exact dispatchWrites_keeps rest _ _
              (ho.tail (.defer he (.write (.inr ⟨err, hreason, hc⟩))))

theorem acceptFrom_ends {index : Nat} {r : Reactor η χ} {w : ω} (ho : Moves o (r, w)) :
    (acceptFrom index).Ends r w (fun _ r' w' => Moves o (r', w'))
      (fun err r' w' => ∃ e c, (r.entries .listener)[index]? = some e ∧
        ChannelOps.accept e.channel w = .refused err c w' ∧ r' = r.put .listener index c) := by
  rw [acceptFrom, Action.ends_bind, entryAt_ends]
  intro listener hl
  rw [Action.ends_bind, onChannel_ends]
  intro e he
  obtain rfl : listener = e := Option.some.inj (hl.symm.trans he)
  refine (Action.ends_self _ _ _).mono (fun accepted c₁ w₁ hc => ?_) (fun err c₁ w₁ hc => ?_)
  · rw [Action.ends_bind, Action.ends_update, Action.ends_bind]
    refine hook_ends fun answer desk w₂ hh => ?_
    have ho' := ho.tail (.accept he hc (by simpa using hh))
    split
    · rw [Action.ends_bind, Action.ends_attempt]
      exact (register_keeps _ _ ho').mono (fun _ _ _ h => h) (fun _ _ _ h => h)
    · exact ho'.tail .discard
  · exact ⟨listener, c₁, he, hc, rfl⟩

theorem readFrom_ends {index : Nat} {r : Reactor η χ} {w : ω} (ho : Moves o (r, w)) :
    (readFrom index).Ends r w (fun _ r' w' => Moves o (r', w'))
      (fun err r' w' => ∃ e c, (r.entries .client)[index]? = some e ∧
        ChannelOps.onRead e.channel w = .refused err c w' ∧ r' = r.put .client index c) := by
  rw [readFrom, Action.ends_bind, onChannel_ends]
  intro e he
  refine (Action.ends_self _ _ _).mono (fun _ c₁ w₁ hc => ?_) (fun err c₁ w₁ hc => ?_)
  · exact tell_ends he fun c₂ desk w₂ hh => ho.tail (.read he hc hh)
  · exact ⟨e, c₁, he, hc, rfl⟩

/-- Either side's entry when its callback has refused: it stays, or there is a fault. -/
theorem serve_ends {slot : Slot} {index : Nat} {r : Reactor η χ} {w : ω} (ho : Moves o (r, w)) :
    (match slot.side with
      | .listener => acceptFrom index
      | .client => readFrom index : Action ω ChannelError (Reactor η χ) Unit).Ends r w
      (fun _ r' w' => Moves o (r', w'))
      (fun err r' w' => ∃ e c, (r.entries slot.side)[index]? = some e ∧
        r' = r.put slot.side index c ∧
        (CloseReason.ofError? err = none → Defers slot.side e.channel w c w') ∧
        ∀ reason, CloseReason.ofError? err = some reason →
          Fault slot.side e.channel w reason c w') := by
  cases slot.side with
  | listener =>
    refine (acceptFrom_ends ho).mono (fun _ _ _ h => h) (fun err r' w' h => ?_)
    obtain ⟨e, c, he, hc, rfl⟩ := h
    exact ⟨e, c, he, rfl, fun hn => .accept (.inr ⟨err, hn, hc⟩),
      fun reason hr => .accept ⟨err, hr, hc⟩⟩
  | client =>
    refine (readFrom_ends ho).mono (fun _ _ _ h => h) (fun err r' w' h => ?_)
    obtain ⟨e, c, he, hc, rfl⟩ := h
    exact ⟨e, c, he, rfl, fun hn => .read (.inr ⟨err, hn, hc⟩),
      fun reason hr => .read ⟨err, hr, hc⟩⟩

theorem dispatchReads_keeps :
    ∀ reports, Action.Keeps (fun r w => Moves o (r, w))
      (dispatchReads reports : Action ω ε (Reactor η χ) Nat)
  | [] => Action.keeps_pure
  | (slot, ready) :: rest => by
    rw [dispatchReads]
    split
    · exact dispatchReads_keeps rest
    · refine Action.Keeps.bindSubject fun r w ho => ?_
      split
      · exact dispatchReads_keeps rest r w ho
      · rw [Action.ends_bind, Action.ends_attempt]
        refine (serve_ends ho).mono (fun _ r' w' ho' => ?_) (fun err r' w' h => ?_)
        · exact (dispatchReads_keeps rest).bind (fun _ => Action.keeps_pure) _ _ ho'
        · obtain ⟨e, c, he, rfl, hdefer, hfault⟩ := h
          dsimp only
          split
          -- An error for good lets the entry go and ends the phase; the others are left for later.
          · rename_i reason hreason
            rw [Action.ends_bind]
            exact evict_ends ho he (hfault reason hreason)
          · rename_i hreason
            exact dispatchReads_keeps rest _ _ (ho.tail (.defer he (hdefer hreason)))

theorem wait_keeps {timeout : Span} {w₀ : ω} :
    Action.Keeps (fun _ w => Relation.ReflTransGen Machine.Step w₀ w)
      (PollSet.wait timeout : Action ω PollError PollSet Nat) := by
  refine Action.Keeps.bindSubject fun set w hw => ?_
  rw [Action.ends_bind, Action.ends_onMachine]
  split <;> exact hw.tail (.wait ..)

/-- What follows a poll that has waited. -/
theorem waited_ends {table : PollTable} {answer : Except PollError Nat} {set : PollSet}
    {r : Reactor η χ} {w : ω} (ho : Moves o (r, w)) :
    (match answer with
      | .error .interrupted => pure 0
      | .error e => recover e
      | .ok 0 => pure 0
      | .ok _ =>
        if set.anyInvalid then recover .badDescriptor
        else do
          let reports := PollTable.reports table.slots set
          let written ← dispatchWrites reports
          let served ← dispatchReads reports
          pure (written + served) : Action ω ReactorError (Reactor η χ) Nat).Ends r w
      (fun _ r w => Moves o (r, w)) (fun _ r w => Moves o (r, w)) := by
  split
  · exact ho
  · exact recover_keeps r w ho
  · exact ho
  · split
    · exact recover_keeps r w ho
    · exact ((dispatchWrites_keeps _).bind fun _ =>
        (dispatchReads_keeps _).bind fun _ => Action.keeps_pure) r w ho

/-- Every iteration is a chain of moves. -/
theorem runOnce_keeps :
    Action.Keeps (fun r w => Moves o (r, w)) (runOnce : Action ω _ (Reactor η χ) Nat) := by
  intro r w ho
  rw [runOnce, Action.ends_bind, Action.ends_update, Action.ends_bind, Action.ends_subject,
    Action.ends_bind]
  refine hook_ends fun _ desk w' hh => ?_
  have hticked := ho.tail (.tick hh)
  refine (Action.keeps_ask.bind fun now => (expire_keeps now).bind fun _ =>
    Action.keeps_subject.bind fun r => (drainMailbox_keeps _).bind fun _ =>
      preparePoll_keeps.bind fun table => Action.keeps_subject.bind fun r => ?_) _ _ hticked
  intro r w ho
  rw [Action.ends_bind, Action.ends_runOn, Action.ends_attempt]
  exact (wait_keeps _ _ .refl).mono (fun _ _ _ hw => waited_ends (ho.elapse hw))
    (fun _ _ _ hw => waited_ends (ho.elapse hw))

theorem iteration_keeps :
    Action.Keeps (fun r w => Moves o (r, w)) (iteration : Action ω ε (Reactor η χ) Unit) := by
  refine runOnce_keeps.attempt.bind fun answer => ?_
  split
  · exact Action.keeps_pure
  · refine Action.keeps_subject.bind fun r => ?_
    intro r w ho
    exact ho.tail (.elapse (.sleep _ w))

end

end Reactor

end ChannelReactor
