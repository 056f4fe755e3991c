import ChannelReactor.Proofs.Following
import ChannelReactor.Proofs.Polling

/-! # The stages of an iteration

An iteration ticks, closes what is expired, takes what was handed over, and serves what it polls.
What is true of a reactor through the elementary changes of its parts is kept by every one of these
stages and by every command. Only the second stage counts expired channels, and only the third one
channels that were handed over; so what depends on those counts is kept by the other stages. -/
namespace ChannelReactor

variable {ω ε σ ρ η χ α : Type}

/-- Whatever is done on a subject of its own, the subject stays as it is. -/
theorem Action.keeps_runOn {P : σ → Prop} {own : ρ} {x : Action ω ε ρ α} :
    Keeps (fun s _ => P s) (runOn own x : Action ω ε σ (α × ρ)) := by
  intro s w h
  rw [ends_runOn]
  exact (ends_self _ _ _).mono (fun _ _ _ _ => h) (fun _ _ _ _ => h)

namespace ReactorStats

/-- The change counts no expired channel and none that was handed over. -/
def Plain (f : ReactorStats → ReactorStats) : Prop :=
  ∀ stats, (f stats).expired = stats.expired ∧ (f stats).injected = stats.injected

theorem plain_addIteration (clients : Nat) : Plain (·.addIteration clients) := fun _ => ⟨rfl, rfl⟩

theorem plain_addAccepted : Plain addAccepted := fun _ => ⟨rfl, rfl⟩

theorem plain_addDiscarded : Plain addDiscarded := fun _ => ⟨rfl, rfl⟩

theorem plain_addPollFailure : Plain addPollFailure := fun _ => ⟨rfl, rfl⟩

theorem plain_addEvicted : Plain (·.addEvicted false) := fun _ => ⟨rfl, rfl⟩

end ReactorStats

theorem CloseReason.ofError?_ne_expired {e : ChannelError} {reason : CloseReason}
    (h : CloseReason.ofError? e = some reason) : reason ≠ .expired := by
  cases e <;> cases h <;> decide

namespace Reactor

section

variable {r : Reactor η χ} {side : Side} {index : Nat}

@[simp] theorem stats_withDesk (desk : Desk η χ) : (r.withDesk desk).stats = r.stats := rfl

@[simp] theorem stats_count (f : ReactorStats → ReactorStats) : (r.count f).stats = f r.stats := rfl

@[simp] theorem stats_without : (r.without side index).stats = r.stats := by cases side <;> rfl

@[simp] theorem stats_enrolled (c : χ) : (r.enrolled side c).stats = r.stats := by
  cases side <;> rfl

end

/-- The side on which a channel is registered. -/
def sideOf [ChannelOps ω χ] (c : χ) : Side :=
  if ChannelOps.isListening c then .listener else .client

theorem entryAt_keeps {I : Reactor η χ → Prop} {side : Side} {index : Nat} :
    Action.Keeps (fun r _ => I r) (entryAt side index : Action ω ε (Reactor η χ) (Entry χ)) := by
  refine Action.keeps_subject.bind fun r => ?_
  split
  · exact Action.keeps_pure
  · exact Action.keeps_halt

variable [ChannelOps ω χ]

theorem dismiss_keeps {I : Reactor η χ → Prop} {c : χ} :
    Action.Keeps (fun r _ => I r) (dismiss c : Action ω ε (Reactor η χ) χ) :=
  Action.keeps_runOn.bind fun _ => Action.keeps_pure

section

variable [Hooks ω η χ]

/-- What the callbacks of a reactor and the hooks about a channel make of it is among the changes
that `V` allows. -/
structure Conducts (η : Type) [Hooks ω η χ] (V : χ → χ → Prop) : Prop where
  write : ∀ {c c' : χ} {w w' : ω}, ChannelOps.onWrite.Leaves c w c' w' → V c c'
  read : ∀ {c c' : χ} {w w' : ω}, ChannelOps.onRead.Leaves c w c' w' → V c c'
  accept : ∀ {c c' : χ} {w w' : ω}, ChannelOps.accept.Leaves c w c' w' → V c c'
  writable : ∀ {id : ChannelId} {c c' : χ} {desk desk' : Desk η χ} {w w' : ω},
    Hooks.onWritable id c desk w = .done c' desk' w' → V c c'
  readable : ∀ {id : ChannelId} {c c' : χ} {desk desk' : Desk η χ} {w w' : ω},
    Hooks.onReadable id c desk w = .done c' desk' w' → V c c'

theorem Conducts.any : Conducts (ω := ω) (χ := χ) η fun _ _ => True :=
  ⟨fun _ => trivial, fun _ => trivial, fun _ => trivial, fun _ => trivial, fun _ => trivial⟩

theorem Conducts.watched {V : χ → χ → Prop} (h : Conducts η V) : Conducts (Watched η χ) V where
  write := h.write
  read := h.read
  accept := h.accept
  writable hx := by
    obtain ⟨_, _, hinner⟩ := Watched.noting_inner hx
    exact h.writable hinner
  readable hx := by
    obtain ⟨_, _, hinner⟩ := Watched.noting_inner hx
    exact h.readable hinner

end

/-- What the elementary changes of a reactor keep: other hooks and another mailbox, counts, a change
of a channel in its place, a channel that leaves and one that comes. -/
structure Sustains (V : χ → χ → Prop) (I : Reactor η χ → Prop) : Prop where
  desk : ∀ {r : Reactor η χ} (desk : Desk η χ), I r → I (r.withDesk desk)
  count : ∀ {r : Reactor η χ} {f : ReactorStats → ReactorStats}, ReactorStats.Plain f → I r →
    I (r.count f)
  put : ∀ {r : Reactor η χ} {side : Side} {index : Nat} {e : Entry χ} {c : χ},
    (r.entries side)[index]? = some e → V e.channel c → I r → I (r.put side index c)
  without : ∀ {r : Reactor η χ} {side : Side} {index : Nat}, I r → I (r.without side index)
  enroll : ∀ {r : Reactor η χ} {c c' : χ} {w w' : ω},
    ChannelOps.attach r.token c w = .done () c' w' → I r → I (r.enrolled (sideOf c) c')

/-- A number that no plain count changes is kept by the elementary changes. -/
theorem stats_sustained {number : ReactorStats → Nat}
    (hnumber : ∀ {f : ReactorStats → ReactorStats}, ReactorStats.Plain f →
      ∀ stats, number (f stats) = number stats) (n : Nat) :
    Sustains (fun _ _ => True) fun r : Reactor η χ => number r.stats = n where
  desk _ h := h
  count hf h := (hnumber hf _).trans h
  put _ _ h := by rwa [stats_put]
  without h := by rwa [stats_without]
  enroll _ h := by rwa [stats_enrolled]

namespace Sustains

open ChannelReactor.Action

variable {V : χ → χ → Prop} {I : Reactor η χ → Prop}

theorem hook (hI : Sustains V I) {x : Action ω Empty (Desk η χ) α} :
    Keeps (fun r _ => I r) (hook x : Action ω ε (Reactor η χ) α) := fun _ _ h =>
  hook_ends fun _ desk _ _ => hI.desk desk h

theorem counting (hI : Sustains V I) {f : ReactorStats → ReactorStats}
    (hf : ReactorStats.Plain f) :
    Keeps (fun r _ => I r) (update (Reactor.count f) : Action ω ε (Reactor η χ) Unit) :=
  keeps_update fun _ _ h => hI.count hf h

theorem onChannel (hI : Sustains V I) {side : Side} {index : Nat} {x : Action ω ε χ α}
    (hx : ∀ {c c' : χ} {w w' : ω}, x.Leaves c w c' w' → V c c') :
    Keeps (fun r _ => I r) (onChannel side index x : Action ω ε (Reactor η χ) α) := by
  intro r w h
  rw [onChannel_ends]
  intro e he
  exact (ends_self _ _ _).mono (fun a c w' hc => hI.put he (hx (.inl ⟨a, hc⟩)) h)
    (fun err c w' hc => hI.put he (hx (.inr ⟨err, hc⟩)) h)

theorem tell (hI : Sustains V I) {index : Nat} {f : ChannelId → χ → Action ω Empty (Desk η χ) χ}
    (hf : ∀ {id : ChannelId} {c c' : χ} {desk desk' : Desk η χ} {w w' : ω},
      f id c desk w = .done c' desk' w' → V c c') :
    Keeps (fun r _ => I r) (tell index f : Action ω ε (Reactor η χ) Unit) := by
  intro r w h
  rw [Reactor.tell, ends_bind, entryAt_ends]
  intro e he
  rw [ends_bind]
  refine hook_ends fun c desk w' hx => ?_
  rw [ends_update]
  exact hI.put (by rwa [entries_withDesk]) (hf hx) (hI.desk desk h)

theorem enrolling (hI : Sustains V I) {c : χ} :
    Keeps (fun r _ => I r)
      (Reactor.enroll (sideOf c) c : Action ω ReactorError (Reactor η χ) ChannelId) := by
  intro r w h
  refine enroll_ends.mono (fun _ r' w' hx => ?_) (fun _ r' w' hx => ?_)
  · obtain ⟨-, c', hattach, rfl⟩ := hx
    exact hI.enroll hattach h
  · rw [hx.1]
    exact h

theorem register (hI : Sustains V I) {c : χ} :
    Keeps (fun r _ => I r) (register c : Action ω ReactorError (Reactor η χ) ChannelId) :=
  hI.enrolling

/-- A list is emptied as if its entries left it one by one. -/
theorem clear (hI : Sustains V I) {r : Reactor η χ} (side : Side) (h : I r) :
    I (r.mapEntries side fun _ => []) := by
  generalize hentries : r.entries side = entries
  induction entries generalizing r with
  | nil =>
    have hsame : r.mapEntries side (fun _ => []) = r := by
      cases r
      cases side <;> cases hentries <;> rfl
    rwa [hsame]
  | cons e rest ih =>
    have hrest : (r.without side 0).entries side = rest := by
      cases side <;> exact (congrArg (List.eraseIdx · 0) hentries).trans rfl
    have hsame : (r.without side 0).mapEntries side (fun _ => []) =
        r.mapEntries side fun _ => [] := by
      cases side <;> rfl
    exact hsame ▸ ih (hI.without h) hrest

theorem unregister (hI : Sustains V I) {id : ChannelId} :
    Keeps (fun r _ => I r) (unregister id : Action ω ReactorError (Reactor η χ) χ) := by
  refine keeps_subject.bind fun r => ?_
  split
  · exact keeps_refuse
  · exact entryAt_keeps.bind fun _ => (keeps_update fun _ _ h => hI.without h).bind fun _ =>
      keeps_runOn.bind fun _ => keeps_pure

theorem takeListeners (hI : Sustains V I) :
    Keeps (fun r _ => I r) (takeListeners : Action ω ε (Reactor η χ) (List χ)) := by
  refine keeps_subject.bind fun r =>
    (keeps_update fun _ _ h => hI.clear .listener h).bind fun _ r' w h => ?_
  refine detachAll_ends.mono (fun _ r'' _ hr => ?_) (fun _ _ _ hf => hf.elim)
  rw [hr]
  exact h

theorem listen (hI : Sustains V I) {c : χ} :
    Keeps (fun r _ => I r) (listen c : Action ω ReactorError (Reactor η χ) ChannelId) := by
  unfold Reactor.listen
  split
  · rename_i hlistening
    have hside : sideOf c = .listener := if_pos hlistening
    exact hside ▸ hI.enrolling
  · exact keeps_refuse

theorem drainMailbox (hI : Sustains V I)
    (hcount : ∀ {r : Reactor η χ}, I r → I (r.count (·.addInjected))) :
    ∀ batch, Keeps (fun r _ => I r) (drainMailbox batch : Action ω ε (Reactor η χ) Unit)
  | 0 => keeps_pure
  | batch + 1 => by
    refine keeps_subject.bind fun r => ?_
    split
    · exact keeps_pure
    · rename_i c rest _
      refine (keeps_update fun r _ h => ?_).bind fun _ =>
        (keeps_update fun _ _ h => hcount h).bind fun _ => hI.register.attempt.bind fun _ =>
          hI.drainMailbox hcount batch
      exact hI.desk { hooks := r.hooks, mailbox := { r.mailbox with queue := rest } } h

variable [Hooks ω η χ]

/-- An eviction is counted; what it counts besides matters only when the channel is expired. -/
theorem evict (hI : Sustains V I) {side : Side} {index : Nat} {reason : CloseReason}
    (hcount : ∀ {r : Reactor η χ}, reason = .expired → I r → I (r.count (·.addEvicted true))) :
    Keeps (fun r _ => I r) (evict side index reason : Action ω ε (Reactor η χ) Unit) := by
  have hevicted : ∀ r : Reactor η χ, I r → I (r.count (·.addEvicted (reason == .expired))) := by
    intro r h
    by_cases hreason : reason = .expired
    · rw [hreason]
      exact hcount hreason h
    · rw [show (reason == .expired) = false from beq_eq_false_iff_ne.mpr hreason]
      exact hI.count ReactorStats.plain_addEvicted h
  have hletGo : Keeps (fun r _ => I r)
      (letGo side index reason : Action ω ε (Reactor η χ) (Entry χ)) :=
    entryAt_keeps.bind fun _ => (keeps_update fun _ _ h => hI.without h).bind fun _ =>
      dismiss_keeps.bind fun _ => (keeps_update fun r _ h => hevicted r h).bind fun _ => keeps_pure
  exact hletGo.bind fun _ => hI.hook

theorem evicting (hI : Sustains V I) {side : Side} {index : Nat} {reason : CloseReason}
    (hreason : reason ≠ .expired) :
    Keeps (fun r _ => I r) (Reactor.evict side index reason : Action ω ε (Reactor η χ) Unit) :=
  hI.evict fun hexpired => absurd hexpired hreason

/-! ## The stages -/

theorem expire (hI : Sustains V I)
    (hcount : ∀ {r : Reactor η χ}, I r → I (r.count (·.addEvicted true))) (now : Instant) :
    Keeps (fun r _ => I r) (expire now : Action ω ε (Reactor η χ) Unit) := by
  have hfrom : ∀ rounds index, Keeps (fun r _ => I r)
      (expireFrom now rounds index : Action ω ε (Reactor η χ) Unit) := by
    intro rounds
    induction rounds with
    | zero => exact fun _ => keeps_pure
    | succ rounds ih =>
      intro index
      refine keeps_subject.bind fun r => ?_
      split
      · exact keeps_pure
      · split
        · exact (hI.evict fun _ => hcount).bind fun _ => ih index
        · exact ih (index + 1)
  exact keeps_subject.bind fun r => hfrom r.clients.length 0

theorem preparePoll (hI : Sustains V I) :
    Keeps (fun r _ => I r) (preparePoll : Action ω ε (Reactor η χ) PollTable) := by
  refine keeps_subject.bind fun r => Keeps.repeatUntil (keeps_subject.bind fun r => ?_) _
  split
  · exact (hI.evicting (by decide)).bind fun _ => keeps_pure
  · exact keeps_pure

theorem shutdown (hI : Sustains V I) :
    Keeps (fun r _ => I r) (shutdown : Action ω ε (Reactor η χ) Unit) := by
  have hclose : ∀ entries, Keeps (fun r _ => I r)
      (closeAll entries : Action ω ε (Reactor η χ) Unit) := by
    intro entries
    induction entries with
    | nil => exact keeps_pure
    | cons e rest ih => exact dismiss_keeps.bind fun _ => hI.hook.bind fun _ => ih
  exact keeps_subject.bind fun r =>
    (keeps_update fun _ _ h => hI.clear .client h).bind fun _ => hclose r.clients

theorem dispatchWrites (hI : Sustains V I) (hV : Conducts η V) :
    ∀ reports, Keeps (fun r _ => I r) (dispatchWrites reports : Action ω ε (Reactor η χ) Nat)
  | [] => keeps_pure
  | (slot, ready) :: rest => by
    rw [Reactor.dispatchWrites]
    split
    · exact hI.dispatchWrites hV rest
    · refine keeps_subject.bind fun r => ?_
      split
      · exact hI.dispatchWrites hV rest
      · refine (hI.onChannel hV.write).attempt.bind fun answer => ?_
        split
        · exact (hI.tell hV.writable).bind fun _ =>
            (hI.dispatchWrites hV rest).bind fun _ => keeps_pure
        · split
          · rename_i hreason
            exact (hI.evicting (CloseReason.ofError?_ne_expired hreason)).bind fun _ =>
              keeps_pure
          · exact hI.dispatchWrites hV rest

theorem acceptFrom (hI : Sustains V I) (hV : Conducts η V) {index : Nat} :
    Keeps (fun r _ => I r) (acceptFrom index : Action ω ChannelError (Reactor η χ) Unit) := by
  refine entryAt_keeps.bind fun _ => (hI.onChannel hV.accept).bind fun _ =>
    (hI.counting ReactorStats.plain_addAccepted).bind fun _ => hI.hook.bind fun answer => ?_
  split
  · exact hI.register.attempt.bind fun _ => keeps_pure
  · exact hI.counting ReactorStats.plain_addDiscarded

theorem serving (hI : Sustains V I) (hV : Conducts η V) {side : Side} {index : Nat} :
    Keeps (fun r _ => I r) (match side with
      | .listener => Reactor.acceptFrom index
      | .client => readFrom index : Action ω ChannelError (Reactor η χ) Unit) := by
  cases side with
  | listener => exact hI.acceptFrom hV
  | client => exact (hI.onChannel hV.read).bind fun _ => hI.tell hV.readable

theorem dispatchReads (hI : Sustains V I) (hV : Conducts η V) :
    ∀ reports, Keeps (fun r _ => I r) (dispatchReads reports : Action ω ε (Reactor η χ) Nat)
  | [] => keeps_pure
  | (slot, ready) :: rest => by
    rw [Reactor.dispatchReads]
    split
    · exact hI.dispatchReads hV rest
    · refine keeps_subject.bind fun r => ?_
      split
      · exact hI.dispatchReads hV rest
      · refine (hI.serving hV).attempt.bind fun answer => ?_
        split
        · exact (hI.dispatchReads hV rest).bind fun _ => keeps_pure
        · split
          · rename_i hreason
            exact (hI.evicting (CloseReason.ofError?_ne_expired hreason)).bind fun _ =>
              keeps_pure
          · exact hI.dispatchReads hV rest

variable [Machine ω]

theorem recover (hI : Sustains V I) {error : PollError} :
    Keeps (fun r _ => I r) (recover error : Action ω ReactorError (Reactor η χ) Nat) := by
  have hfind (index : Nat) (entries : List (Entry χ)) : Keeps (fun r _ => I r)
      (findBroken index entries : Action ω ReactorError (Reactor η χ) (Option Nat)) := by
    intro r w h
    refine findBroken_ends.mono (fun _ r' _ hx => ?_) (fun _ _ _ hx => hx.elim)
    rw [hx.1]
    exact h
  refine (hI.counting ReactorStats.plain_addPollFailure).bind fun _ =>
    keeps_subject.bind fun r => (hfind 0 r.clients).bind fun found => ?_
  split
  · exact (hI.evicting (by decide)).bind fun _ => keeps_pure
  · refine (hfind 0 r.listeners).bind fun found => ?_
    split
    · exact (hI.evicting (by decide)).bind fun _ => keeps_pure
    · exact keeps_refuse

theorem respond (hI : Sustains V I) (hV : Conducts η V) {table : PollTable}
    {answer : Except PollError Nat} {set : PollSet} :
    Keeps (fun r _ => I r)
      (respond table answer set : Action ω ReactorError (Reactor η χ) Nat) := by
  unfold Reactor.respond
  split
  · exact keeps_pure
  · exact hI.recover
  · exact keeps_pure
  · split
    · exact hI.recover
    · exact (hI.dispatchWrites hV _).bind fun _ => (hI.dispatchReads hV _).bind fun _ => keeps_pure

end Sustains

section

variable [Hooks ω η χ] [Machine ω]

/-- The first stage: the application is told of the iteration. -/
def tick : Action ω ε (Reactor η χ) Unit := do
  Action.update fun r => r.count (·.addIteration r.clients.length)
  hook (Hooks.onTick (← Action.subject).stats)

/-- The last stage: what can be polled is polled, and what is ready is served. -/
def serve : Action ω ReactorError (Reactor η χ) Nat := do
  let table ← preparePoll
  let timeout := (← Action.subject).settings.pollTimeout
  let (answer, set) ← Action.runOn table.set (Action.attempt (PollSet.wait timeout))
  respond table answer set

theorem runOnce_stages :
    (runOnce : Action ω ReactorError (Reactor η χ) Nat) = (do
      tick
      expire (← Action.now)
      drainMailbox (← Action.subject).settings.injectBatch
      serve) := rfl

variable {o : Reactor η χ × ω}

omit [ChannelOps ω χ] [Machine ω] in
theorem tick_ends {r : Reactor η χ} {w : ω} {R : ε → Reactor η χ → ω → Prop} :
    (tick : Action ω ε (Reactor η χ) Unit).Ends r w
      (fun _ r' w' => ∃ desk,
        r' = (r.count (·.addIteration r.clients.length)).withDesk desk ∧
        Hooks.onTick (r.stats.addIteration r.clients.length) r.desk w = .done () desk w') R := by
  rw [tick, Action.ends_bind, Action.ends_update, Action.ends_bind, Action.ends_subject]
  exact hook_ends fun _ desk w' hh => ⟨desk, rfl, hh⟩

/-- To tell the application of the iteration is one move. -/
theorem tick_keeps :
    Action.Keeps (fun r w => Moves o (r, w)) (tick : Action ω ε (Reactor η χ) Unit) := by
  intro r w ho
  have hends := tick_ends (r := r) (w := w) (R := fun (_ : ε) _ _ => False)
  refine hends.mono (fun _ r' w' h => ?_) (fun _ _ _ h => h.elim)
  obtain ⟨desk, rfl, hh⟩ := h
  exact ho.tail (.tick hh)

theorem serve_keeps :
    Action.Keeps (fun r w => Moves o (r, w)) (serve : Action ω ReactorError (Reactor η χ) Nat) := by
  refine preparePoll_keeps.bind fun table => Action.keeps_subject.bind fun _ r w ho => ?_
  rw [Action.ends_bind, Action.ends_runOn, Action.ends_attempt]
  exact (wait_keeps _ _ .refl).mono (fun _ _ _ hw => waited_ends (ho.elapse hw))
    (fun _ _ _ hw => waited_ends (ho.elapse hw))

end

namespace Sustains

open ChannelReactor.Action

variable {V : χ → χ → Prop} {I : Reactor η χ → Prop} [Hooks ω η χ]

theorem tick (hI : Sustains V I) :
    Keeps (fun r _ => I r) (tick : Action ω ε (Reactor η χ) Unit) :=
  (keeps_update fun r _ h => hI.count (ReactorStats.plain_addIteration r.clients.length) h).bind
    fun _ => keeps_subject.bind fun _ => hI.hook

variable [Machine ω]

theorem serve (hI : Sustains V I) (hV : Conducts η V) :
    Keeps (fun r _ => I r) (serve : Action ω ReactorError (Reactor η χ) Nat) :=
  hI.preparePoll.bind fun _ => keeps_subject.bind fun _ => keeps_runOn.bind fun _ => hI.respond hV

theorem runOnce (hI : Sustains V I) (hV : Conducts η V)
    (hexpired : ∀ {r : Reactor η χ}, I r → I (r.count (·.addEvicted true)))
    (hinjected : ∀ {r : Reactor η χ}, I r → I (r.count (·.addInjected))) :
    Keeps (fun r _ => I r) (runOnce : Action ω ReactorError (Reactor η χ) Nat) := by
  rw [runOnce_stages]
  exact hI.tick.bind fun _ => keeps_ask.bind fun now => (hI.expire hexpired now).bind fun _ =>
    keeps_subject.bind fun _ => (hI.drainMailbox hinjected _).bind fun _ => hI.serve hV

theorem iteration (hI : Sustains V I) (hV : Conducts η V)
    (hexpired : ∀ {r : Reactor η χ}, I r → I (r.count (·.addEvicted true)))
    (hinjected : ∀ {r : Reactor η χ}, I r → I (r.count (·.addInjected))) :
    Keeps (fun r _ => I r) (iteration : Action ω ε (Reactor η χ) Unit) := by
  refine (hI.runOnce hV hexpired hinjected).attempt.bind fun answer => ?_
  split
  · exact keeps_pure
  · exact keeps_subject.bind fun _ _ _ h => h

theorem iterate (hI : Sustains V I) (hV : Conducts η V)
    (hexpired : ∀ {r : Reactor η χ}, I r → I (r.count (·.addEvicted true)))
    (hinjected : ∀ {r : Reactor η χ}, I r → I (r.count (·.addInjected))) :
    ∀ limit, Keeps (fun r _ => I r) (iterate limit : Action ω ε (Reactor η χ) Unit)
  | 0 => by
    refine keeps_subject.bind fun r => ?_
    split
    · exact keeps_pure
    · exact keeps_halt
  | limit + 1 => by
    refine keeps_subject.bind fun r => ?_
    split
    · exact keeps_pure
    · exact (hI.iteration hV hexpired hinjected).bind fun _ =>
        hI.iterate hV hexpired hinjected limit

end Sustains

end Reactor

/-! ## The commands -/

/-- The command makes iterations. -/
def Command.Iterates : Command ω η χ → Prop
  | runOnce | run _ | iteration => True
  | _ => False

open ChannelReactor.Action in
/-- What the elementary changes keep, every command keeps; an iteration also counts. -/
theorem Command.perform_sustains [Machine ω] [ChannelOps ω χ] [Hooks ω η χ] {V : χ → χ → Prop}
    {I : Reactor (Watched η χ) χ → Prop} {command : Command ω η χ} (hI : Reactor.Sustains V I)
    (hV : Reactor.Conducts η V) (hcommand : command.Within V)
    (hcounts : command.Iterates → ∀ {r : Reactor (Watched η χ) χ}, I r →
      I (r.count (·.addEvicted true)) ∧ I (r.count (·.addInjected))) :
    Keeps (fun r _ => I r) command.perform := by
  have hdesk (r : Reactor (Watched η χ) χ) (hooks : Watched η χ) (mailbox : Mailbox χ) (h : I r) :
      I { r with hooks, mailbox } := hI.desk { hooks, mailbox } h
  cases command with
  | register c => exact hI.register.bind fun _ => keeps_pure
  | listen c => exact hI.listen.bind fun _ => keeps_pure
  | unregister id => exact hI.unregister.bind fun _ => keeps_pure
  | takeListeners =>
    exact keeps_subject.bind fun _ => hI.takeListeners.bind fun _ => keeps_pure
  | inject c => exact (keeps_update fun r _ h => hdesk r r.hooks _ h).bind fun _ => keeps_pure
  | stop => exact (keeps_update fun r _ h => hdesk r r.hooks _ h).bind fun _ => keeps_pure
  | adjust f => exact (keeps_update fun r _ h => hdesk r _ r.mailbox h).bind fun _ => keeps_pure
  | visit id x =>
    refine keeps_subject.bind fun r => ?_
    split
    · exact keeps_pure
    · refine Keeps.bind (fun r w h => ?_) fun _ => keeps_pure
      rw [Reactor.onChannel_ends]
      intro e he
      rw [ends_mapReason]
      exact (ends_self _ _ _).mono
        (fun a c w' hx => hI.put he (hcommand _ _ _ _ (.inl ⟨a, hx⟩)) h)
        (fun err c w' hx => hI.put he (hcommand _ _ _ _ (.inr ⟨err, hx⟩)) h)
  | runOnce =>
    exact (hI.runOnce hV.watched (fun h => (hcounts trivial h).1)
      (fun h => (hcounts trivial h).2)).bind fun _ => keeps_pure
  | run limit =>
    refine Keeps.bind (Keeps.sure ?_) fun _ => keeps_pure
    exact hI.hook.bind fun _ => (hI.iterate hV.watched (fun h => (hcounts trivial h).1)
      (fun h => (hcounts trivial h).2) limit).bind fun _ => hI.shutdown.bind fun _ => hI.hook
  | startup => exact hI.hook.sure.bind fun _ => keeps_pure
  | iteration =>
    exact (hI.iteration hV.watched (fun h => (hcounts trivial h).1)
      (fun h => (hcounts trivial h).2)).sure.bind fun _ => keeps_pure
  | shutdown => exact hI.shutdown.sure.bind fun _ => keeps_pure
  | cleanup => exact hI.hook.sure.bind fun _ => keeps_pure

/-- What the elementary changes and all counts keep, every turn keeps, if a channel that comes on
either side does not matter. -/
theorem Reactor.Sustains.turn [Machine ω] [ChannelOps ω χ] [Hooks ω η χ] {V : χ → χ → Prop}
    {I : Reactor (Watched η χ) χ → Prop} (hI : Reactor.Sustains V I) (hV : Reactor.Conducts η V)
    (hcounts : ∀ {r : Reactor (Watched η χ) χ} (f : ReactorStats → ReactorStats), I r →
      I (r.count f))
    (hcomes : ∀ {r : Reactor (Watched η χ) χ} {side : Side} {c : χ}, I r → I (r.enrolled side c))
    {r r' : Reactor (Watched η χ) χ} {w w' : ω} (h : I r) (ht : Reactor.Turn V (r, w) (r', w')) :
    I r' := by
  have hW := hV.watched
  -- A callback that is done and the hook that is told of it.
  have htold {index : Nat} {e : Entry χ} {c₁ c₂ : χ} {desk : Desk (Watched η χ) χ}
      (he : (r.entries .client)[index]? = some e) (hc : V e.channel c₁) (hh : V c₁ c₂) :
      I ((r.put .client index c₂).withDesk desk) := by
    have hput := hI.put (entry_put he c₁) hh (hI.put he hc h)
    rw [put_put] at hput
    exact hI.desk desk hput
  cases ht with
  | move hm =>
    cases hm with
    | elapse _ | reject _ => exact h
    | tick _ => exact hI.desk _ (hcounts _ h)
    | fetch _ => exact hcounts _ (hI.desk { hooks := r.hooks, mailbox := _ } h)
    | enroll side _ => exact hcomes h
    | write he hc hh => exact htold he (hV.write (.inl ⟨_, hc⟩)) (hW.writable hh)
    | read he hc hh => exact htold he (hV.read (.inl ⟨_, hc⟩)) (hW.readable hh)
    | accept he hc _ => exact hI.desk _ (hcounts _ (hI.put he (hV.accept (.inl ⟨_, hc⟩)) h))
    | discard | pollFailed => exact hcounts _ h
    | defer he hd =>
      refine hI.put he ?_ h
      cases hd with
      | write hs => exact hV.write (hs.imp id fun ⟨err, _, hx⟩ => ⟨err, hx⟩)
      | read hs => exact hV.read (hs.imp id fun ⟨err, _, hx⟩ => ⟨err, hx⟩)
      | accept hs => exact hV.accept (hs.imp id fun ⟨err, _, hx⟩ => ⟨err, hx⟩)
    | blame _ _ _ _ => exact hI.desk _ (hcounts _ (hI.without (hcounts _ h)))
    | evict _ _ _ _ => exact hI.desk _ (hcounts _ (hI.without h))
  | mailbox mailbox => exact hI.desk { hooks := r.hooks, mailbox } h
  | adjust hooks => exact hI.desk { hooks := { r.hooks with hooks }, mailbox := r.mailbox } h
  | visit he hv => exact hI.put he hv h
  | unregister side index => exact hI.without h
  | takeListeners => exact hI.clear .listener h
  | @dismiss r _ _ _ e rest c desk he _ _ =>
    have hrest : r.without .client 0 = { r with clients := rest } := by
      rw [Reactor.without, Reactor.mapEntries, he]
      rfl
    exact hI.desk desk (hrest ▸ hI.without h)
  | greet _ _ => exact hI.desk _ h

theorem Estate.founded_eq {s : Estate ω η χ} {serial : Nat} {settings : ReactorSettings} {hooks : η}
    {machine : ω} (h : founded serial settings hooks machine = some s) :
    s = { reactor := { serial, settings, hooks := { hooks } }, machine } := by
  unfold founded at h
  split at h
  · rename_i r hr
    unfold Reactor.new at hr
    split at hr
    · cases hr
    · cases hr
      cases h
      rfl
  · cases h

/-- What an owner has after an iteration is what the iteration leaves. -/
theorem Estate.step_runOnce [Machine ω] [ChannelOps ω χ] [Hooks ω η χ] {s s' : Estate ω η χ}
    (h : s.step .runOnce = some s') :
    Reactor.runOnce.Leaves s.reactor s.machine s'.reactor s'.machine := by
  refine step_ends (P := fun r w => Reactor.runOnce.Leaves s.reactor s.machine r w) h ?_
  rw [Command.perform, Action.ends_bind]
  exact .of_outcome (fun count _ _ hx => .inl ⟨count, hx⟩) (fun e _ _ hx => .inr ⟨e, hx⟩)

/-- What is kept through all changes and counts is true after any commands. -/
theorem Estate.play_sustains [Machine ω] [ChannelOps ω χ] [Hooks ω η χ] {V : χ → χ → Prop}
    {I : Reactor (Watched η χ) χ → Prop} (hI : Reactor.Sustains V I) (hV : Reactor.Conducts η V)
    (hcounts : ∀ {r : Reactor (Watched η χ) χ} (f : ReactorStats → ReactorStats), I r →
      I (r.count f)) :
    ∀ (commands : List (Command ω η χ)) {s₀ s : Estate ω η χ},
      (∀ command ∈ commands, command.Within V) → I s₀.reactor → s₀.play commands = some s →
        I s.reactor
  | [], _, _, _, h, hplay => by
    cases hplay
    exact h
  | command :: rest, _, _, hcommands, h, hplay => by
    rw [play, Option.bind_eq_some_iff] at hplay
    obtain ⟨next, hnext, hrest⟩ := hplay
    have hkeeps := Command.perform_sustains hI hV (hcommands command (List.mem_cons_self ..))
      fun _ _ hr => ⟨hcounts _ hr, hcounts _ hr⟩
    exact play_sustains hI hV hcounts rest
      (fun c hc => hcommands c (List.mem_cons_of_mem _ hc)) (step_ends hnext (hkeeps _ _ h)) hrest

end ChannelReactor
