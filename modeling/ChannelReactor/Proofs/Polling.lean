import Mathlib.Data.List.Forall2
import ChannelReactor.Proofs.ReactorMoves

/-! # Polls

An iteration falls into what leads to its poll and what it makes of the answer. What is polled are
the listeners and then the clients, in the order of their lists, each by its own descriptor; and
what is reported of an entry of the poll is reported of the channel that stood at its place. -/
namespace ChannelReactor

variable {ω ε η χ : Type}

namespace PollSet

theorem report_interests :
    ∀ (entries : List PollEntry) (flags : List PollFlags),
      (report entries flags).map (·.interest) = entries.map (·.interest)
  | [], _ => rfl
  | entry :: rest, [] => congrArg (entry.interest :: ·) (report_interests rest [])
  | entry :: rest, _ :: more => congrArg (entry.interest :: ·) (report_interests rest more)

/-- What the last wait reported of the entries. -/
def reported (set : PollSet) : List PollFlags := set.entries.map (·.reported)

/-- A wait changes what is reported, and not what is asked. -/
theorem wait_interests [Machine ω] {timeout : Span} {interests : List PollInterest} :
    Action.Keeps (fun set _ => set.interests = interests)
      (wait timeout : Action ω PollError PollSet Nat) := by
  refine Action.Keeps.bindSubject fun set w h => ?_
  rw [Action.ends_bind, Action.ends_onMachine]
  split
  · exact h
  · rw [Action.ends_bind, Action.ends_update]
    exact (report_interests _ _).trans h

end PollSet

theorem PollTable.reports_eq :
    ∀ {slots : List Slot} {entries : List PollEntry}, slots.length = entries.length →
      reports slots ⟨entries⟩ =
        List.zipWith (fun slot (e : PollEntry) => (slot, e.interest.readiness e.reported)) slots
          entries := by
  intro slots entries hlen
  apply List.ext_getElem?
  intro k
  rw [reports, List.getElem?_map, List.getElem?_zipIdx, List.getElem?_zipWith]
  cases hs : slots[k]? with
  | none => simp
  | some slot =>
    have hk : k < entries.length := by
      rw [← hlen]
      exact (List.getElem?_eq_some_iff.mp hs).1
    simp [PollSet.readiness, List.getElem?_eq_getElem hk]

namespace Reactor

/-- What stands in the lists, the listeners before the clients. -/
def registered (r : Reactor η χ) : List (Side × Entry χ) :=
  r.listeners.map (.listener, ·) ++ r.clients.map (.client, ·)

variable [ChannelOps ω χ]

/-- What is asked of a channel: its input, and if it is a client with output waiting, its output
too, by its own descriptor. -/
def Asks (p : Side × Entry χ) (i : PollInterest) : Prop :=
  ∃ d, ChannelOps.descriptor p.2.channel = .ok d ∧ i = interest p.1 d p.2.channel

theorem Asks.read {p : Side × Entry χ} {i : PollInterest} (h : Asks p i) : i.read = true := by
  obtain ⟨d, -, rfl⟩ := h
  rfl

theorem Asks.write {p : Side × Entry χ} {i : PollInterest} (h : Asks p i) :
    i.write = (p.1 == .client && ChannelOps.isWritePending p.2.channel) := by
  obtain ⟨d, -, rfl⟩ := h
  rfl

/-- The slot is that of a channel, and so is the interest. -/
structure Enlisted (p : Side × Entry χ) (line : Slot × PollInterest) : Prop where
  side : line.1.side = p.1
  id : line.1.id = p.2.id
  asks : Asks p line.2

theorem enlist_ok {side : Side} :
    ∀ {entries : List (Entry χ)} {index : Nat} {table table' : PollTable},
      enlist side index entries table = .ok table' →
        ∃ lines : List (Slot × PollInterest),
          List.Forall₂ (fun e line => Enlisted (side, e) line) entries lines ∧
          table'.slots = table.slots ++ lines.map (·.1) ∧
          table'.set.interests = table.set.interests ++ lines.map (·.2)
  | [], _, table, table', h => by
    cases h
    exact ⟨[], .nil, by simp, by simp⟩
  | e :: rest, index, table, table', h => by
    rw [enlist] at h
    split at h
    · rename_i d hd
      obtain ⟨lines, hlines, hslots, hinterests⟩ := enlist_ok h
      refine ⟨(⟨side, index, e.id⟩, interest side d e.channel) :: lines,
        .cons ⟨rfl, rfl, d, hd, rfl⟩ hlines, ?_, ?_⟩
      · rw [hslots, PollTable.push, List.append_assoc]
        rfl
      · rw [hinterests]
        simp [PollTable.push, PollSet.push, PollSet.interests]
    · cases h

theorem forall₂_sides {side : Side} {entries : List (Entry χ)} {lines : List (Slot × PollInterest)}
    (h : List.Forall₂ (fun e line => Enlisted (side, e) line) entries lines) :
    List.Forall₂ Enlisted (entries.map (side, ·)) lines := by
  rw [List.forall₂_map_left_iff]
  exact h

/-- The table has a line for every listener and every client, in their order. -/
theorem pollTable_ok {r : Reactor η χ} {table : PollTable} (h : pollTable r = .ok table) :
    ∃ lines : List (Slot × PollInterest), List.Forall₂ Enlisted r.registered lines ∧
      table.slots = lines.map (·.1) ∧ table.set.interests = lines.map (·.2) := by
  unfold pollTable at h
  split at h
  · cases h
  · rename_i listening hl
    split at h
    · cases h
    · rename_i all hc
      cases h
      obtain ⟨above, habove, hslots, hinterests⟩ := enlist_ok hl
      obtain ⟨below, hbelow, hslots', hinterests'⟩ := enlist_ok hc
      refine ⟨above ++ below, List.rel_append (forall₂_sides habove) (forall₂_sides hbelow), ?_, ?_⟩
      · rw [hslots', hslots, List.map_append]
        rfl
      · rw [hinterests', hinterests, List.map_append]
        rfl

/-- Every registered channel is polled by its own descriptor. -/
theorem pollTable_asks {r : Reactor η χ} {table : PollTable} (h : pollTable r = .ok table) :
    List.Forall₂ Asks r.registered table.set.interests := by
  obtain ⟨lines, hlines, -, hinterests⟩ := pollTable_ok h
  rw [hinterests, List.forall₂_map_right_iff]
  exact hlines.imp fun _ _ h => h.asks

theorem pollTable_mem {r : Reactor η χ} {table : PollTable} {p : Side × Entry χ}
    (h : pollTable r = .ok table) (hp : p ∈ r.registered) :
    ∃ i ∈ table.set.interests, Asks p i := by
  have hmem {entries : List (Side × Entry χ)} {interests : List PollInterest}
      (hall : List.Forall₂ Asks entries interests) (hp : p ∈ entries) :
      ∃ i ∈ interests, Asks p i := by
    induction hall with
    | nil => cases hp
    | @cons p' i _ _ hasks _ ih =>
      obtain rfl | hp := List.mem_cons.mp hp
      · exact ⟨i, List.mem_cons_self .., hasks⟩
      · obtain ⟨i', hi', hasks'⟩ := ih hp
        exact ⟨i', List.mem_cons_of_mem _ hi', hasks'⟩
  exact hmem (pollTable_asks h) hp

variable [Hooks ω η χ]

theorem preparePoll_ends {r : Reactor η χ} {w : ω} {R : ε → Reactor η χ → ω → Prop} :
    (preparePoll : Action ω ε (Reactor η χ) PollTable).Ends r w
      (fun table r' _ => pollTable r' = .ok table) R := by
  rw [preparePoll, Action.ends_bind, Action.ends_subject]
  refine Action.Ends.repeatUntil (I := fun _ _ => True) (fun r w _ => ?_) _ r w trivial
  rw [Action.ends_bind, Action.ends_subject]
  split
  · rename_i side index htable
    obtain ⟨e, he, -⟩ := pollTable_error htable
    rw [Action.ends_bind]
    exact (evict_spec he).mono (fun _ _ _ _ => trivial) (fun _ _ _ h => h)
  · assumption

variable [Machine ω]

/-- An iteration as far as its poll: what is polled, the answer, and what is reported. -/
def polling : Action ω ε (Reactor η χ) (PollTable × Except PollError Nat × PollSet) := do
  Action.update fun r => r.count (·.addIteration r.clients.length)
  hook (Hooks.onTick (← Action.subject).stats)
  expire (← Action.now)
  drainMailbox (← Action.subject).settings.injectBatch
  let table ← preparePoll
  let timeout := (← Action.subject).settings.pollTimeout
  let (answer, set) ← Action.runOn table.set (Action.attempt (PollSet.wait timeout))
  pure (table, answer, set)

/-- What an iteration makes of the answer to its poll. -/
def respond (table : PollTable) (answer : Except PollError Nat) (set : PollSet) :
    Action ω ReactorError (Reactor η χ) Nat :=
  match answer with
  | .error .interrupted => pure 0
  | .error e => recover e
  | .ok 0 => pure 0
  | .ok _ =>
    if set.anyInvalid then recover .badDescriptor
    else do
      let reports := PollTable.reports table.slots set
      let written ← dispatchWrites reports
      let served ← dispatchReads reports
      pure (written + served)

theorem runOnce_eq :
    (runOnce : Action ω ReactorError (Reactor η χ) Nat) =
      polling >>= fun (table, answer, set) => respond table answer set := by
  unfold polling
  simp only [bind_assoc, pure_bind]
  rfl

/-- A poll is led to by moves, and asks about what is registered when it is made. -/
theorem polling_ends {r : Reactor η χ} {w : ω} :
    (polling : Action ω ε (Reactor η χ) _).Ends r w
      (fun (table, _, set) r' w' => Moves (r, w) (r', w') ∧ pollTable r' = .ok table ∧
        set.interests = table.set.interests)
      (fun _ r' w' => Moves (r, w) (r', w')) := by
  rw [polling, Action.ends_bind, Action.ends_update, Action.ends_bind, Action.ends_subject,
    Action.ends_bind]
  refine hook_ends fun _ desk w' hh => ?_
  have hticked : Moves (r, w) (_, w') := .single (.tick hh)
  rw [Action.ends_bind, Action.now, Action.ends_ask, Action.ends_bind]
  refine (expire_keeps _ _ _ hticked).mono (fun _ r₁ w₁ h₁ => ?_) (fun _ _ _ h => h)
  rw [Action.ends_bind, Action.ends_subject, Action.ends_bind]
  refine (drainMailbox_keeps _ _ _ h₁).mono (fun _ r₂ w₂ h₂ => ?_) (fun _ _ _ h => h)
  rw [Action.ends_bind]
  refine .of_outcome (fun table r₃ w₃ hx => ?_) (fun e r₃ w₃ hx => ?_)
  · have h₃ := (preparePoll_keeps r₂ w₂ h₂).done hx
    have htable : pollTable r₃ = .ok table :=
      (preparePoll_ends (R := fun _ _ _ => True)).done hx
    rw [Action.ends_bind, Action.ends_subject, Action.ends_bind, Action.ends_runOn,
      Action.ends_attempt]
    refine .of_outcome (fun n set w₄ hy => ?_) (fun e set w₄ hy => ?_)
    · exact ⟨h₃.elapse ((wait_keeps _ _ .refl).done hy), htable,
        (PollSet.wait_interests _ _ rfl).done hy⟩
    · exact ⟨h₃.elapse ((wait_keeps _ _ .refl).refused hy), htable,
        (PollSet.wait_interests _ _ rfl).refused hy⟩
  · exact (preparePoll_keeps r₂ w₂ h₂).refused hx

end Reactor

end ChannelReactor
