import ChannelReactor.Proofs.Completion
import ChannelReactor.Proofs.Injection
import ChannelReactor.Proofs.Lifecycle
import ChannelReactor.Proofs.Polling
import ChannelReactor.Proofs.Registrations
import ChannelReactor.Proofs.Watched

/-! # The table of a poll

Before it polls, a reactor closes the channels that have no descriptor, one after the other, and
starts over after each. What that comes to is that the channels without a descriptor are gone, each
was told of once, in their order, and the table has a line for each of the others and for nothing
else (`preparePoll_coherent`). The rounds are bounded by the number of channels that are lost, which
every round but the last brings down by one. -/
namespace ChannelReactor

variable {ω ε η χ : Type}

/-- The application comes back from being told that a channel is gone for this reason. -/
def Hooks.Hears (ω η χ : Type) [Hooks ω η χ] (reason : CloseReason) : Prop :=
  ∀ (id : ChannelId) (c : χ) (desk : Desk η χ) (w : ω), ∃ desk' w',
    Hooks.onClosed id c reason desk w = .done () desk' w'

theorem Hooks.Hears.watched [Hooks ω η χ] {reason : CloseReason} (h : Hooks.Hears ω η χ reason) :
    Hooks.Hears ω (Watched η χ) χ reason := by
  intro id c desk w
  obtain ⟨desk', w', hx⟩ := h id c { desk with hooks := desk.hooks.hooks } w
  refine ⟨{ desk' with hooks := ⟨desk'.hooks, desk.hooks.calls ++ [.closed id c reason]⟩ }, w', ?_⟩
  change Watched.noting _ _ desk w = _
  rw [Watched.noting, hx]

theorem NoHooks.hears {reason : CloseReason} : Hooks.Hears ω NoHooks χ reason :=
  fun _ _ desk w => ⟨desk, w, rfl⟩

namespace Reactor

variable [ChannelOps ω χ]

/-- The call tells that the channel of an entry was closed as one that is no longer registered, and
why. -/
def Ousts (ω : Type) [ChannelOps ω χ] (reason : CloseReason) (e : Entry χ) (call : HookCall χ) :
    Prop :=
  ∃ (c : χ) (w w' : ω),
    ChannelOps.close (ChannelOps.mapCore ChannelCore.unregister e.channel) w = .done () c w' ∧
    call = .closed e.id c reason

/-- The entry can be polled by a descriptor of its own. -/
def reachable (e : Entry χ) : Bool := (ChannelOps.descriptor e.channel).isOk

/-- The entries without a descriptor, the listeners before the clients. -/
def lost (r : Reactor η χ) : List (Side × Entry χ) := r.registered.filter fun p => !reachable p.2

theorem reachable_of_ok {e : Entry χ} {descriptor : Int}
    (h : ChannelOps.descriptor e.channel = .ok descriptor) : reachable e = true := by
  rw [reachable, h]
  rfl

theorem unreachable_of_error {e : Entry χ} {err : ChannelError}
    (h : ChannelOps.descriptor e.channel = .error err) : reachable e = false := by
  rw [reachable, h]
  rfl

/-- A pass stops at the first entry that is lost. -/
theorem enlist_stops {side : Side} :
    ∀ {entries : List (Entry χ)} {index k : Nat} {table : PollTable},
      enlist side index entries table = .error k →
        ∃ before e after, entries = before ++ e :: after ∧ k = index + before.length ∧
          (∀ b ∈ before, reachable b = true) ∧
          ∃ err, ChannelOps.descriptor e.channel = .error err
  | [], _, _, _, h => by cases h
  | x :: rest, index, k, table, h => by
    rw [enlist] at h
    split at h
    · rename_i d hd
      obtain ⟨before, e, after, rfl, rfl, hbefore, herr⟩ := enlist_stops h
      refine ⟨x :: before, e, after, rfl, ?_, ?_, herr⟩
      · simp only [List.length_cons]
        omega
      · simpa using ⟨reachable_of_ok hd, hbefore⟩
    · rename_i err herr
      cases h
      exact ⟨[], x, rest, rfl, rfl, by simp, err, herr⟩

/-- What the poll asks of a channel: its input, by its own descriptor, and its output just if it is
a client with output waiting; nothing is reported yet. -/
structure Polled (p : Side × Entry χ) (entry : PollEntry) : Prop where
  descriptor : ChannelOps.descriptor p.2.channel = .ok entry.interest.descriptor
  read : entry.interest.read = true
  write : entry.interest.write = true ↔
    p.1 = .client ∧ ChannelOps.isWritePending p.2.channel = true
  unreported : entry.reported = .none

/-- The slots of a list whose first entry stands at `index`. -/
def slotsFrom (side : Side) (index : Nat) (entries : List (Entry χ)) : List Slot :=
  entries.mapIdx fun k e => ⟨side, index + k, e.id⟩

/-- A pass that does not stop adds a line for each entry. -/
theorem enlist_passes {side : Side} :
    ∀ {entries : List (Entry χ)} {index : Nat} {table table' : PollTable},
      enlist side index entries table = .ok table' →
        (∀ e ∈ entries, reachable e = true) ∧
        table'.slots = table.slots ++ slotsFrom side index entries ∧
        ∃ added, List.Forall₂ (fun e entry => Polled (side, e) entry) entries added ∧
          table'.set.entries = table.set.entries ++ added
  | [], _, _, _, h => by
    cases h
    exact ⟨by simp, (List.append_nil _).symm, [], .nil, (List.append_nil _).symm⟩
  | e :: rest, index, table, table', h => by
    rw [enlist] at h
    split at h
    · rename_i d hd
      obtain ⟨hrest, hslots, added, hpolled, hentries⟩ := enlist_passes h
      have hfirst : Polled (side, e) { interest := interest side d e.channel } :=
        ⟨hd, rfl, by simp [interest], rfl⟩
      refine ⟨by simpa using ⟨reachable_of_ok hd, hrest⟩, ?_, _ :: added, .cons hfirst hpolled, ?_⟩
      · simp [hslots, PollTable.push, slotsFrom, List.mapIdx_cons, Nat.add_right_comm, Nat.add_assoc]
      · rw [hentries]
        exact List.append_assoc ..
    · cases h

/-- The table lists what is registered: the listeners and then the clients, in their order and from
their places, each with what the poll asks of it, and nothing else. -/
structure Coherent (r : Reactor η χ) (table : PollTable) : Prop where
  slots : table.slots =
    (r.listeners.mapIdx fun k e => ⟨.listener, k, e.id⟩) ++
      r.clients.mapIdx fun k e => ⟨.client, k, e.id⟩
  size : table.set.size = table.slots.length
  entries : List.Forall₂ Polled r.registered table.set.entries

theorem forall₂_polled {side : Side} {entries : List (Entry χ)} {added : List PollEntry}
    (h : List.Forall₂ (fun e entry => Polled (side, e) entry) entries added) :
    List.Forall₂ Polled (entries.map (side, ·)) added := by
  rw [List.forall₂_map_left_iff]
  exact h

theorem pollTable_coherent {r : Reactor η χ} {table : PollTable} (h : pollTable r = .ok table) :
    (∀ p ∈ r.registered, reachable p.2 = true) ∧ r.Coherent table := by
  unfold pollTable at h
  split at h
  · cases h
  · rename_i above habove
    split at h
    · cases h
    · rename_i all hall
      cases h
      obtain ⟨hlisteners, hslots, listening, hlistening, hentries⟩ := enlist_passes habove
      obtain ⟨hclients, hslots', serving, hserving, hentries'⟩ := enlist_passes hall
      have hpolled : List.Forall₂ Polled r.registered table.set.entries := by
        rw [hentries', hentries]
        exact List.rel_append (forall₂_polled hlistening) (forall₂_polled hserving)
      have hslots : table.slots =
          (r.listeners.mapIdx fun k e => ⟨.listener, k, e.id⟩) ++
            r.clients.mapIdx fun k e => ⟨.client, k, e.id⟩ := by
        simp [hslots', hslots, slotsFrom]
      refine ⟨?_, hslots, ?_, hpolled⟩
      · rintro ⟨side, e⟩ hp
        simp only [registered, List.mem_append, List.mem_map, Prod.mk.injEq] at hp
        obtain ⟨_, hmem, -, rfl⟩ | ⟨_, hmem, -, rfl⟩ := hp
        · exact hlisteners _ hmem
        · exact hclients _ hmem
      · rw [PollSet.size, ← hpolled.length_eq, hslots]
        simp [registered]

/-- The first entry that is lost, and what the reactor is without it. -/
structure FirstLost (r : Reactor η χ) (side : Side) (index : Nat) (e : Entry χ) : Prop where
  found : (r.entries side)[index]? = some e
  unreachable : ∃ err, ChannelOps.descriptor e.channel = .error err
  lost : r.lost = (side, e) :: (r.without side index).lost
  kept : ∀ side', ((r.without side index).entries side').filter reachable =
    (r.entries side').filter reachable

theorem FirstLost.of_split {r : Reactor η χ} {side : Side} {before after : List (Entry χ)}
    {e : Entry χ} {err : ChannelError} (hsplit : r.entries side = before ++ e :: after)
    (hbefore : ∀ b ∈ before, reachable b = true)
    (habove : side = .client → ∀ b ∈ r.listeners, reachable b = true)
    (herr : ChannelOps.descriptor e.channel = .error err) :
    r.FirstLost side before.length e := by
  have hlost := unreachable_of_error herr
  have hnone (entries : List (Entry χ)) (side : Side) (hall : ∀ b ∈ entries, reachable b = true) :
      (entries.map (side, ·)).filter (fun p => !reachable p.2) = [] := by
    simpa [List.filter_eq_nil_iff] using hall
  refine ⟨by simp [hsplit], ⟨err, herr⟩, ?_, fun side' => ?_⟩
  · cases side with
    | listener =>
      change r.listeners = _ at hsplit
      simp [Reactor.lost, registered, without, mapEntries, hsplit, hnone _ _ hbefore, hlost,
        List.eraseIdx_append_of_length_le]
    | client =>
      change r.clients = _ at hsplit
      simp [Reactor.lost, registered, without, mapEntries, hsplit, hnone _ _ hbefore,
        hnone _ _ (habove rfl), hlost, List.eraseIdx_append_of_length_le]
  · cases side <;> cases side' <;>
      simp_all [without, mapEntries, entries, List.eraseIdx_append_of_length_le]

/-- A table that cannot be made names the first entry that is lost. -/
theorem pollTable_stops {r : Reactor η χ} {side : Side} {index : Nat}
    (h : pollTable r = .error (side, index)) : ∃ e, r.FirstLost side index e := by
  unfold pollTable at h
  split at h
  · rename_i k hk
    cases h
    obtain ⟨before, e, after, hsplit, rfl, hbefore, err, herr⟩ := enlist_stops hk
    rw [Nat.zero_add]
    exact ⟨e, .of_split hsplit hbefore (fun hside => (by cases hside)) herr⟩
  · rename_i above habove
    split at h
    · rename_i k hk
      cases h
      obtain ⟨before, e, after, hsplit, rfl, hbefore, err, herr⟩ := enlist_stops hk
      rw [Nat.zero_add]
      exact ⟨e, .of_split hsplit hbefore (fun _ => (enlist_passes habove).1) herr⟩
    · cases h

/-- What is left of a reactor after the entries `gone` were closed as lost, the first that are. -/
structure Purges (ω : Type) [ChannelOps ω χ] (r r' : Reactor (Watched η χ) χ)
    (gone : List (Side × Entry χ)) : Prop where
  lost : r.lost = gone ++ r'.lost
  kept : ∀ side, (r'.entries side).filter reachable = (r.entries side).filter reachable
  calls : ∃ ends, List.Forall₂ (fun p => Ousts ω .closed p.2) gone ends ∧
    r'.hooks.calls = r.hooks.calls ++ ends
  stats : r'.stats = { r.stats with evicted := r.stats.evicted + gone.length }

/-- A reactor without the entries that were lost: the others stand as they stood, and the
application was told once of each that is gone, in their order. -/
structure Purged (ω : Type) [ChannelOps ω χ] (r r' : Reactor (Watched η χ) χ) : Prop where
  entries : ∀ side, r'.entries side = (r.entries side).filter reachable
  calls : ∃ ends, List.Forall₂ (fun p => Ousts ω .closed p.2) r.lost ends ∧
    r'.hooks.calls = r.hooks.calls ++ ends
  stats : r'.stats = { r.stats with evicted := r.stats.evicted + r.lost.length }

theorem Purges.refl (r : Reactor (Watched η χ) χ) : Purges ω r r [] where
  lost := rfl
  kept _ := rfl
  calls := ⟨[], .nil, (List.append_nil _).symm⟩
  stats := rfl

theorem Purges.purged {r r' : Reactor (Watched η χ) χ} {gone : List (Side × Entry χ)}
    (h : Purges ω r r' gone) (hall : ∀ p ∈ r'.registered, reachable p.2 = true) :
    Purged ω r r' := by
  have hnone : r'.lost = [] := by simpa [Reactor.lost, List.filter_eq_nil_iff] using hall
  have hgone : r.lost = gone := by rw [h.lost, hnone, List.append_nil]
  refine ⟨fun side => ?_, hgone ▸ h.calls, hgone ▸ h.stats⟩
  rw [← h.kept side, List.filter_eq_self.mpr]
  intro e he
  refine hall (side, e) ?_
  cases side <;> simpa [registered, entries] using he

section

variable [Hooks ω η χ] {side : Side} {index : Nat} {w : ω} {e : Entry χ}

/-- What an eviction does when the close and the hook come to their end. -/
theorem evict_done {reason : CloseReason} {r : Reactor η χ} {c : χ} {w₁ w₂ : ω} {desk : Desk η χ}
    (he : (r.entries side)[index]? = some e)
    (hc : ChannelOps.close (ChannelOps.mapCore ChannelCore.unregister e.channel) w = .done () c w₁)
    (hh : Hooks.onClosed e.id c reason r.desk w₁ = .done () desk w₂) :
    (evict side index reason : Action ω ε (Reactor η χ) Unit) r w =
      .done () (((r.without side index).count (·.addEvicted (reason == .expired))).withDesk desk)
        w₂ := by
  have hdesk : ((r.without side index).count (·.addEvicted (reason == .expired))).desk = r.desk := by
    simp
  simp only [evict, letGo, entryAt, dismiss, hook, Action.sure, Action.mapReason, Action.focus,
    Action.runOn, Action.bind_apply, Action.subject_apply, Action.update_apply, Action.pure_apply,
    he, hc, hdesk, hh]

/-- The first entry that is lost is closed, and there is one less. -/
theorem Purges.evicted {r₀ r : Reactor (Watched η χ) χ} {gone : List (Side × Entry χ)} {c : χ}
    {w₁ w₂ : ω} {desk : Desk (Watched η χ) χ} (h : Purges ω r₀ r gone)
    (hlost : r.lost = (side, e) :: (r.without side index).lost)
    (hkept : ∀ side', ((r.without side index).entries side').filter reachable =
      (r.entries side').filter reachable)
    (hc : ChannelOps.close (ChannelOps.mapCore ChannelCore.unregister e.channel) w = .done () c w₁)
    (hh : Hooks.onClosed e.id c .closed r.desk w₁ = .done () desk w₂) :
    Purges ω r₀ (((r.without side index).count (·.addEvicted false)).withDesk desk)
      (gone ++ [(side, e)]) := by
  have hstats : (r.without side index).stats = r.stats := by cases side <;> rfl
  have hsame (side' : Side) :
      (((r.without side index).count (·.addEvicted false)).withDesk desk).entries side' =
        (r.without side index).entries side' := by
    rw [entries_withDesk, entries_count]
  refine ⟨?_, fun side' => ?_, ?_, ?_⟩
  · rw [h.lost, hlost, List.append_cons]
    rfl
  · rw [hsame, hkept, h.kept]
  · obtain ⟨ends, hends, hcalls⟩ := h.calls
    refine ⟨ends ++ [.closed e.id c .closed],
      List.rel_append hends (.cons ⟨c, w, w₁, hc, rfl⟩ .nil), ?_⟩
    rw [← List.append_assoc, ← hcalls]
    exact Watched.noting_done hh
  · change ReactorStats.addEvicted false (r.without side index).stats = _
    rw [hstats, h.stats, List.length_append]
    rfl

/-- The construction of a poll comes to its end: the passes over the lists are no more than there
are entries, because each but the last finds one that is lost. -/
theorem preparePoll_completes {r : Reactor (Watched η χ) χ} {w : ω}
    {R : ε → Reactor (Watched η χ) χ → ω → Prop}
    (hclose : ∀ (c : χ) (err : ChannelError) (w : ω), ChannelOps.descriptor c = .error err →
      ∃ c' w', ChannelOps.close (ChannelOps.mapCore ChannelCore.unregister c) w = .done () c' w')
    (hhears : Hooks.Hears ω η χ .closed) :
    (preparePoll : Action ω ε (Reactor (Watched η χ) χ) PollTable).Completes r w
      (fun table r' _ => Purged ω r r' ∧ r'.Coherent table) R := by
  rw [preparePoll, Action.completes_bind, Action.completes_subject]
  refine Action.Completes.repeatUntil
    (I := fun n r' _ => n = r'.lost.length ∧ ∃ gone, Purges ω r r' gone)
    (fun n r₁ w₁ h => ?_) _ r.lost.length r w ?_ ⟨rfl, [], .refl r⟩
  · obtain ⟨rfl, gone, hpurges⟩ := h
    rw [Action.completes_bind, Action.completes_subject]
    split
    · rename_i side index hstop
      obtain ⟨e, he, ⟨err, herr⟩, hlost, hkept⟩ := pollTable_stops hstop
      obtain ⟨c, w₂, hc⟩ := hclose _ err w₁ herr
      obtain ⟨desk, w₃, hh⟩ := hhears.watched e.id c r₁.desk w₂
      have hfewer : (((r₁.without side index).count (·.addEvicted false)).withDesk desk).lost =
          (r₁.without side index).lost := rfl
      have hevict : (evict side index .closed : Action ω ε _ Unit).Answers r₁ w₁ (.ok ()) _ w₃ :=
        evict_done he hc hh
      rw [Action.completes_bind]
      refine Action.Answers.completes ?_ hevict
      refine ⟨_, ?_, rfl, _, hpurges.evicted hlost hkept hc hh⟩
      rw [hlost, List.length_cons]
      exact Nat.lt_succ_of_le (Nat.le_of_eq (congrArg List.length hfewer))
    · rename_i table htable
      obtain ⟨hall, hcoherent⟩ := pollTable_coherent htable
      exact ⟨hpurges.purged hall, hcoherent⟩
  · have hle : r.lost.length ≤ r.registered.length := List.length_filter_le ..
    simp only [registered, List.length_append, List.length_map] at hle
    omega

end

end Reactor

section

variable {τ α β : Type} [Transport ω τ] [Acceptor ω α τ] [ChannelOps ω β]

/-- The application's own kind of channel can be closed when it has lost its descriptor. -/
def Channel.Yields (ω β : Type) [ChannelOps ω β] : Prop :=
  ∀ (b : β) (err : ChannelError) (w : ω), ChannelOps.descriptor b = .error err →
    ∃ b' w', ChannelOps.close (ChannelOps.mapCore ChannelCore.unregister b) w = .done () b' w'

/-- A connection or a listener that has no descriptor has nothing below it that a close could
call. -/
theorem Channel.closeOf_lost (hyields : Channel.Yields ω β) :
    ∀ (c : Channel τ α β) (err : ChannelError) (s : Channel τ α β) (w : ω),
      c.descriptor = .error err →
        ∃ c' w', Channel.closeOf (c.mapCore ChannelCore.unregister) s w = .done () c' w'
  | .connection c, err, s, w, h => by
    have hgone : c.transport = none := by
      change c.descriptor = _ at h
      unfold Connection.descriptor at h
      split at h
      · cases h
      · assumption
    have hclose : Connection.close (c.mapCore ChannelCore.unregister) w =
        .done () ((c.mapCore ChannelCore.unregister).mapCore ChannelCore.deactivate) w := by
      simp [Connection.close, Connection.mapCore, hgone, Action.bind_apply]
    rw [Channel.mapCore, Channel.closeOf, Channel.onConnection, hclose]
    exact ⟨_, _, rfl⟩
  | .listener l, _, _, w, _ =>
    ⟨.listener { (l.mapCore ChannelCore.unregister).mapCore ChannelCore.deactivate with
      acceptor := none }, w, rfl⟩
  | .custom b, err, s, w, h => by
    obtain ⟨b', w', hb⟩ := hyields b err w h
    rw [Channel.mapCore, Channel.closeOf, Channel.onCustom, hb]
    exact ⟨_, _, rfl⟩
  | .expiring inner last interval, err, s, w, h => by
    obtain ⟨c', w', hc⟩ := closeOf_lost hyields inner err (inner.mapCore ChannelCore.unregister) w h
    rw [Channel.mapCore, Channel.closeOf, Channel.onInner, hc]
    exact ⟨_, _, rfl⟩

variable [Machine ω]

theorem Channel.close_lost (hyields : Channel.Yields ω β) (c : Channel τ α β) (err : ChannelError)
    (w : ω) (h : ChannelOps.descriptor c = .error err) :
    ∃ c' w', ChannelOps.close (ChannelOps.mapCore ChannelCore.unregister c) w = .done () c' w' :=
  closeOf_lost hyields c err _ w h

variable [Hooks ω η (Channel τ α β)]

/-- For all that is registered and whatever state its channels are in, the construction of a poll
comes to its end. It closes the listeners and clients that have no descriptor and no others, each
once and as closed, in their order. What it leaves has a line in the table for each listener and
then for each client, and no other: its side, its present place and its id, with its descriptor,
its input asked for, and its output asked for just if it is a client with output waiting. -/
theorem Reactor.preparePoll_coherent (hyields : Channel.Yields ω β)
    (hhears : Hooks.Hears ω η (Channel τ α β) .closed)
    (r : Reactor (Watched η (Channel τ α β)) (Channel τ α β)) (w : ω) :
    ∃ table r' w', (Reactor.preparePoll : Action ω Empty _ PollTable) r w = .done table r' w' ∧
      Reactor.Purged ω r r' ∧ r'.Coherent table := by
  obtain ⟨answer, r', w', hx, hanswer⟩ := (Reactor.preparePoll_completes (ε := Empty)
    (R := fun _ _ _ => True) (r := r) (w := w) (Channel.close_lost hyields) hhears).answers
  cases answer with
  | error e => exact e.elim
  | ok table => exact ⟨table, r', w', hx, hanswer⟩

end

abbrev BenchKind : Type := Channel Scenario.Wire Scenario.Gate (NoKind Scenario.Bench)

def goneListener : Listener Scenario.Gate where
  core := .new .forever "gone"
  acceptor := none
  settings := {}
  policy := .plain

/-- Two listeners and four clients. The first listener, the first client and the third, which
expires, have lost their devices; the last client has output waiting. -/
def holedReactor : Reactor (Watched NoHooks BenchKind) BenchKind where
  serial := 1
  settings := {}
  hooks := { hooks := {} }
  listeners := [⟨1, .listener goneListener⟩, ⟨2, Estate.openListener⟩]
  clients := [⟨3, .connection Intake.goneConnection⟩, ⟨4, .connection Estate.quietConnection⟩,
    ⟨5, .expiring (.connection Intake.goneConnection) .start ⟨10⟩⟩,
    ⟨6, .connection (Estate.quietConnection.mapCore (·.enqueue [1]))⟩]
  nextId := 7

/-- Three passes close a channel each, and the fourth makes the table. -/
theorem preparePoll_coherent_holedReactor :
    Channel.Yields Scenario.Bench (NoKind Scenario.Bench) ∧
    Hooks.Hears Scenario.Bench NoHooks BenchKind .closed ∧
    ∃ table r' w', (Reactor.preparePoll : Action Scenario.Bench Empty _ PollTable)
        holedReactor {} = .done table r' w' ∧
      (table.slots = [⟨.listener, 0, 2⟩, ⟨.client, 0, 4⟩, ⟨.client, 1, 6⟩] ∧
        table.set.interests = [⟨9, true, false⟩, ⟨0, true, false⟩, ⟨0, true, true⟩] ∧
        r'.closures = [(1, .closed), (3, .closed), (5, .closed)]) ∧
      Reactor.Purged Scenario.Bench holedReactor r' ∧ r'.Coherent table := by
  have hyields : Channel.Yields Scenario.Bench (NoKind Scenario.Bench) := fun b => b.absurd
  obtain ⟨table, r', w', hx, hpurged, hcoherent⟩ :=
    Reactor.preparePoll_coherent hyields NoHooks.hears holedReactor {}
  have hrun : ((Reactor.preparePoll : Action Scenario.Bench Empty _ PollTable)
      holedReactor {}).any (fun table r' _ =>
        table.slots == [⟨.listener, 0, 2⟩, ⟨.client, 0, 4⟩, ⟨.client, 1, 6⟩] &&
          table.set.interests == [⟨9, true, false⟩, ⟨0, true, false⟩, ⟨0, true, true⟩] &&
          r'.closures == [(1, .closed), (3, .closed), (5, .closed)]) = true := by
    decide +kernel
  obtain ⟨table₁, r₁, w₁, hx₁, hfacts⟩ := Outcome.any_eq_true.mp hrun
  obtain ⟨rfl, rfl, rfl⟩ : table₁ = table ∧ r₁ = r' ∧ w₁ = w' := by
    cases hx.symm.trans hx₁
    exact ⟨rfl, rfl, rfl⟩
  exact ⟨hyields, NoHooks.hears, table₁, r₁, w₁, hx, by simpa [and_assoc] using hfacts, hpurged,
    hcoherent⟩

end ChannelReactor
