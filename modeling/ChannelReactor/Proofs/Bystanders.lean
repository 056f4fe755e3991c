import ChannelReactor.Proofs.DispatchOrder
import ChannelReactor.Proofs.Exchanges
import ChannelReactor.Proofs.Expiry

/-! # Bystanders

A bystander of an iteration is a channel that the iteration has no business with: it is not expired,
it has a descriptor, the poll reports nothing of it that it was asked about, and no recovery blames
it. Channels come and go around it and places move up, but it stands in its list as it stood. -/
namespace ChannelReactor

variable {ω ε η χ σ : Type}

namespace Reactor

/-- Looks for the channel to blame: the first client that cannot be polled, or else the first such
listener. -/
def findCulprit [Machine ω] [ChannelOps ω χ] : Action ω ε (Reactor η χ) (Option (Side × Nat)) := do
  let r ← Action.subject
  match ← findBroken 0 r.clients with
  | some index => pure (some (.client, index))
  | none => return (← findBroken 0 r.listeners).map (.listener, ·)

theorem recover_eq [Machine ω] [ChannelOps ω χ] [Hooks ω η χ] (error : PollError) :
    (recover error : Action ω ReactorError (Reactor η χ) Nat) = (do
      Action.update (count (·.addPollFailure))
      match ← findCulprit with
      | some (side, index) =>
        evict side index .pollFailure
        pure 0
      | none => Action.refuse (.poll error)) := by
  unfold recover findCulprit
  simp only [bind_assoc]
  refine congrArg _ (funext fun _ => congrArg _ (funext fun r =>
    congrArg _ (funext fun found => ?_)))
  cases found with
  | some index => rfl
  | none =>
    simp only [bind_assoc, pure_bind]
    refine congrArg _ (funext fun found => ?_)
    cases found <;> rfl

/-- Where the channel stands that a recovery from here blames. -/
def culprit? [Machine ω] [ChannelOps ω χ] (r : Reactor η χ) (w : ω) : Option (Side × Nat) :=
  ((findCulprit : Action ω ReactorError _ _) (r.count (·.addPollFailure)) w).value?.join

/-- The answer leads to a recovery: the poll failed, or a descriptor is invalid. -/
def Recovers (answer : Except PollError Nat) (set : PollSet) : Prop :=
  (∃ e, answer = .error e ∧ e ≠ .interrupted) ∨ ∃ n, answer = .ok (n + 1) ∧ set.anyInvalid = true

/-- The answer leads to callbacks: something is ready, and every descriptor is valid. -/
def Serves (answer : Except PollError Nat) (set : PollSet) : Prop :=
  ∃ n, answer = .ok (n + 1) ∧ set.anyInvalid = false

/-- What an iteration that expires clients at an instant, and whose poll had this answer for this
reactor and machine, has no business with. -/
structure Bystander [Machine ω] [ChannelOps ω χ] (now : Instant) (answer : Except PollError Nat)
    (set : PollSet) (r : Reactor η χ) (w : ω) (side : Side) (e : Entry χ) : Prop where
  unexpired : side = .client → ChannelOps.hasExpired now e.channel = false
  polled : ∃ d, ChannelOps.descriptor e.channel = .ok d
  blameless : Recovers answer set → ∀ index, r.culprit? w = some (side, index) →
    (r.entries side)[index]? ≠ some e
  idle : Serves answer set → ∀ p ∈ r.polled set.reported, p.side = side → p.entry.id = e.id →
    p.canSend = false ∧ p.hasInput = false

section

variable {r : Reactor η χ} {side side' : Side} {index : Nat} {e : Entry χ}

/-- The place is that of another entry, or of none. -/
def Apart (r : Reactor η χ) (side' : Side) (index : Nat) (side : Side) (e : Entry χ) : Prop :=
  side' = side → (r.entries side)[index]? ≠ some e

theorem stands_put {c : χ} (he : e ∈ r.entries side) (h : r.Apart side' index side e) :
    e ∈ (r.put side' index c).entries side := by
  by_cases hside : side' = side
  · subst hside
    obtain ⟨k, hk⟩ := List.mem_iff_getElem?.mp he
    have hne : index ≠ k := fun heq => h rfl (heq ▸ hk)
    rw [entries_put]
    exact List.mem_of_getElem? ((List.getElem?_modify_ne _ _ hne).trans hk)
  · cases side' <;> cases side <;> first | exact he | exact absurd rfl hside

theorem stands_without (he : e ∈ r.entries side) (h : r.Apart side' index side e) :
    e ∈ (r.without side' index).entries side := by
  by_cases hside : side' = side
  · subst hside
    obtain ⟨k, hk⟩ := List.mem_iff_getElem?.mp he
    have hne : k ≠ index := fun heq => h rfl (heq ▸ hk)
    have hstands : e ∈ (r.entries side').eraseIdx index :=
      List.mem_eraseIdx_iff_getElem?.mpr ⟨k, hne, hk⟩
    cases side' <;> exact hstands
  · cases side' <;> cases side <;> first | exact he | exact absurd rfl hside

theorem stands_enrolled {c : χ} (he : e ∈ r.entries side) :
    e ∈ (r.enrolled side' c).entries side := by
  cases side' <;> cases side <;>
    first | exact he | exact List.mem_append_left _ he

theorem apart_of_id {id : ChannelId} (hplace : placeOf? id (r.entries side') = some index)
    (h : side' = side → id ≠ e.id) : r.Apart side' index side e := by
  intro hside he
  obtain ⟨x, hx, hid⟩ := placeOf?_eq_some hplace
  subst hside
  cases hx.symm.trans he
  exact h rfl hid.symm

variable [ChannelOps ω χ] {w : ω}

theorem register_stands {c : χ} (he : e ∈ r.entries side) :
    (register c).Ends r w (fun _ r' _ => e ∈ r'.entries side) (fun _ r' _ => e ∈ r'.entries side) :=
  enroll_ends.mono
    (fun _ _ _ h => by
      obtain ⟨-, c', -, rfl⟩ := h
      exact stands_enrolled he)
    (fun _ _ _ h => h.1 ▸ he)

/-- What comes out of the mailbox joins what is registered, and displaces nothing. -/
theorem drainMailbox_stands {R : ε → Reactor η χ → ω → Prop} :
    ∀ (batch : Nat) {r : Reactor η χ} {w : ω},
      (drainMailbox batch : Action ω ε (Reactor η χ) Unit).Ends r w
        (fun _ r' _ => ∀ side, ∀ e ∈ r.entries side, e ∈ r'.entries side) R
  | 0, _, _ => fun _ _ he => he
  | batch + 1, r, w => by
    rw [drainMailbox, Action.ends_bind, Action.ends_subject]
    split
    · exact fun _ _ he => he
    · rename_i c rest _
      rw [Action.ends_bind, Action.ends_update, Action.ends_bind, Action.ends_update,
        Action.ends_bind, Action.ends_attempt]
      have hfetched (side : Side) : (({ r with mailbox := { r.mailbox with queue := rest } } :
          Reactor η χ).count (·.addInjected)).entries side = r.entries side := by
        rw [entries_count]
        cases side <;> rfl
      refine (enroll_ends (c := c)).mono (fun _ r' w' h => ?_) (fun _ r' w' h => ?_)
      · obtain ⟨-, c', -, rfl⟩ := h
        refine (drainMailbox_stands batch).mono (fun _ _ _ hrest side e he => ?_)
          (fun _ _ _ h => h)
        exact hrest side e (stands_enrolled (hfetched side ▸ he))
      · obtain ⟨rfl, -⟩ := h
        refine (drainMailbox_stands batch).mono (fun _ _ _ hrest side e he => ?_)
          (fun _ _ _ h => h)
        exact hrest side e (hfetched side ▸ he)

variable [Hooks ω η χ]

theorem evict_stands {reason : CloseReason} {R : ε → Reactor η χ → ω → Prop}
    (he : e ∈ (r.without side' index).entries side) :
    (evict side' index reason).Ends r w (fun _ r' _ => e ∈ r'.entries side) R := by
  cases hx : (r.entries side')[index]? with
  | none =>
    rw [evict, letGo, Action.ends_bind, Action.ends_bind, entryAt_ends]
    intro x hx'
    cases hx.symm.trans hx'
  | some x =>
    refine (evict_spec hx).mono (fun _ r' _ h' => ?_) (fun _ _ _ h' => h')
    obtain ⟨_, _, desk, -, -, rfl⟩ := h'
    rwa [entries_withDesk, entries_count]

/-- The entries without a descriptor are evicted, and no others. -/
theorem preparePoll_stands {R : ε → Reactor η χ → ω → Prop} :
    (preparePoll : Action ω ε (Reactor η χ) PollTable).Ends r w
      (fun _ r' _ => ∀ side, ∀ e ∈ r.entries side,
        (∃ d, ChannelOps.descriptor e.channel = .ok d) → e ∈ r'.entries side) R := by
  rw [preparePoll, Action.ends_bind, Action.ends_subject]
  refine Action.Ends.repeatUntil (I := fun r' _ => ∀ side, ∀ e ∈ r.entries side,
    (∃ d, ChannelOps.descriptor e.channel = .ok d) → e ∈ r'.entries side) (fun r₁ w₁ hI => ?_)
    _ r w fun _ _ he _ => he
  rw [Action.ends_bind, Action.ends_subject]
  split
  · rename_i side' index htable
    obtain ⟨x, hx, err, herr⟩ := pollTable_error htable
    rw [Action.ends_bind]
    refine (evict_spec hx).mono (fun _ r₂ w₂ h => ?_) (fun _ _ _ h => h)
    obtain ⟨_, _, desk, -, -, rfl⟩ := h
    intro side e he hd
    rw [entries_withDesk, entries_count]
    refine stands_without (hI side e he hd) ?_
    rintro rfl he'
    obtain ⟨d, hd⟩ := hd
    cases hx.symm.trans he'
    cases herr.symm.trans hd
  · exact hI

theorem call_stands {callback : Callback} (he : e ∈ r.entries side)
    (h : r.Apart callback.side index side e) :
    (call callback index).Ends r w (fun _ r' _ => e ∈ r'.entries side)
      (fun _ r' _ => ∃ c, r' = r.put callback.side index c) := by
  have hserved {x : Action ω ChannelError χ Unit} {f : ChannelId → χ → Action ω Empty (Desk η χ) χ}
      (h : r.Apart .client index side e) :
      (do onChannel .client index x; tell index f :
          Action ω ChannelError (Reactor η χ) Unit).Ends r w
        (fun _ r' _ => e ∈ r'.entries side) (fun _ r' _ => ∃ c, r' = r.put .client index c) := by
    rw [Action.ends_bind, onChannel_ends]
    intro x hx
    refine (Action.ends_self _ _ _).mono (fun _ c₁ w₁ _ => ?_) (fun _ c₁ _ _ => ⟨c₁, rfl⟩)
    refine tell_ends hx fun c₂ desk w₂ _ => ?_
    rw [entries_withDesk]
    exact stands_put he h
  cases callback with
  | write | read => exact hserved h
  | accept =>
    rw [call, acceptFrom, Action.ends_bind, entryAt_ends]
    intro listener _
    rw [Action.ends_bind, onChannel_ends]
    intro x _
    refine (Action.ends_self _ _ _).mono (fun accepted c₁ w₁ _ => ?_) (fun _ c₁ _ _ => ⟨c₁, rfl⟩)
    rw [Action.ends_bind, Action.ends_update, Action.ends_bind]
    refine hook_ends fun answer desk w₂ _ => ?_
    have haccepted : e ∈ (((r.put .listener index c₁).count (·.addAccepted)).withDesk desk).entries
        side := by
      rw [entries_withDesk, entries_count]
      exact stands_put he h
    split
    · rw [Action.ends_bind, Action.ends_attempt]
      exact (register_stands haccepted).mono (fun _ _ _ h => h) (fun _ _ _ h => h)
    · rw [Action.ends_update, entries_count]
      exact haccepted

theorem visit_stands {due : Due} {R : ε → Reactor η χ → ω → Prop} (he : e ∈ r.entries side)
    (h : r.Apart due.callback.side index side e) :
    (visit due index).Ends r w (fun _ r' _ => e ∈ r'.entries side) R := by
  rw [visit, Action.ends_bind, Action.ends_attempt]
  refine (call_stands he h).mono (fun _ r' w' he' => he') (fun err r' w' hput => ?_)
  obtain ⟨c, rfl⟩ := hput
  rw [settle]
  split
  · rw [Action.ends_bind]
    refine evict_stands ?_
    rw [without_put]
    exact stands_without he h
  · exact stands_put he h

/-- Callbacks that are due on others leave an entry as it is. -/
theorem attend_stands {R : ε → Reactor η χ → ω → Prop} :
    ∀ {due : List Due} {r : Reactor η χ} {w : ω}, e ∈ r.entries side →
      (∀ d ∈ due, d.callback.side = side → d.id ≠ e.id) →
      (attend due : Action ω ε (Reactor η χ) _).Ends r w (fun _ r' _ => e ∈ r'.entries side) R
  | [], _, _, he, _ => he
  | due :: rest, r, w, he, h => by
    have hrest : ∀ d ∈ rest, d.callback.side = side → d.id ≠ e.id :=
      fun d hd => h d (List.mem_cons_of_mem _ hd)
    rw [attend, Action.ends_bind, Action.ends_subject]
    split
    · exact attend_stands he hrest
    · rename_i index hplace
      have hapart := apart_of_id hplace (h due (List.mem_cons_self ..))
      rw [Action.ends_bind]
      refine (visit_stands he hapart).mono (fun v r₁ w₁ he₁ => ?_) (fun _ _ _ h => h)
      split
      · exact he₁
      · rw [Action.ends_bind]
        exact (attend_stands he₁ hrest).mono (fun _ _ _ h => h) (fun _ _ _ h => h)

variable [Machine ω]

omit [Hooks ω η χ] in
theorem findCulprit_ends {R : ReactorError → Reactor η χ → ω → Prop} :
    (findCulprit : Action ω ReactorError (Reactor η χ) _).Ends r w (fun _ r' _ => r' = r) R := by
  have hfind (index : Nat) (entries : List (Entry χ)) (w : ω) :
      (findBroken index entries : Action ω ReactorError (Reactor η χ) _).Ends r w
        (fun _ r' _ => r' = r) R :=
    findBroken_ends.mono (fun _ _ _ h => h.1) (fun _ _ _ h => h.elim)
  rw [findCulprit, Action.ends_bind, Action.ends_subject, Action.ends_bind]
  refine (hfind 0 r.clients w).mono (fun found r' w' h => ?_) (fun _ _ _ h => h)
  subst h
  cases found with
  | some index => rfl
  | none =>
    rw [Action.ends_bind]
    exact (hfind 0 r'.listeners w').mono (fun _ _ _ h => h) (fun _ _ _ h => h)

/-- A recovery evicts the one it blames, and no other. -/
theorem recover_stands {error : PollError} (he : e ∈ r.entries side)
    (h : ∀ index, r.culprit? w = some (side, index) → (r.entries side)[index]? ≠ some e) :
    (recover error).Ends r w (fun _ r' _ => e ∈ r'.entries side)
      (fun _ r' _ => e ∈ r'.entries side) := by
  have hcounted : e ∈ (r.count (·.addPollFailure)).entries side := by rwa [entries_count]
  rw [recover_eq, Action.ends_bind, Action.ends_update, Action.ends_bind]
  refine .of_outcome (fun found r' w' hx => ?_) (fun err r' w' hx => ?_)
  · obtain rfl := (findCulprit_ends (R := fun _ _ _ => False)).done hx
    match found with
    | none => exact hcounted
    | some (side', index) =>
      have hculprit : r.culprit? w = some (side', index) := by
        rw [culprit?, hx]
        rfl
      have hapart : (r.count (·.addPollFailure)).Apart side' index side e := by
        rintro rfl
        rw [entries_count]
        exact h index hculprit
      rw [Action.ends_bind]
      exact evict_stands (stands_without hcounted hapart)
  · exact ((findCulprit_ends (R := fun _ _ _ => False)).refused hx).elim

end

section

variable [Machine ω] [ChannelOps ω χ] [Hooks ω η χ] {r r' : Reactor (Watched η χ) χ} {w w' : ω}
variable {side : Side} {e : Entry χ} {now : Instant} {answer : Except PollError Nat} {set : PollSet}

/-- Whatever an iteration makes of the answer to its poll, it leaves the bystanders as they are. -/
theorem respond_stands {table : PollTable} (hr : r.Ordered) (htable : pollTable r = .ok table)
    (hset : set.interests = table.set.interests) (he : e ∈ r.entries side)
    (h : Bystander now answer set r w side e) :
    (respond table answer set).Ends r w (fun _ r' _ => e ∈ r'.entries side)
      (fun _ r' _ => e ∈ r'.entries side) := by
  match answer with
  | .error error =>
    by_cases hinterrupted : error = .interrupted
    · subst hinterrupted
      exact he
    · have hrecover : (respond table (.error error) set : Action ω _ (Reactor (Watched η χ) χ) _) =
          recover error := by
        cases error <;> first | rfl | exact absurd rfl hinterrupted
      rw [hrecover]
      exact recover_stands he (h.blameless (.inl ⟨error, rfl, hinterrupted⟩))
  | .ok 0 => exact he
  | .ok (n + 1) =>
    cases hvalid : set.anyInvalid with
    | true =>
      have hrecover : (respond table (.ok (n + 1)) set : Action ω _ (Reactor (Watched η χ) χ) _) =
          recover .badDescriptor := if_pos hvalid
      rw [hrecover]
      exact recover_stands he (h.blameless (.inr ⟨n, rfl, hvalid⟩))
    | false =>
      have hidle := h.idle ⟨n, rfl, hvalid⟩
      have hwrites : ∀ d ∈ r.dueWrites set.reported, d.callback.side = side → d.id ≠ e.id := by
        intro d hd hside hid
        obtain ⟨p, hp, rfl⟩ := List.mem_map.mp hd
        obtain ⟨hmem, hsend⟩ := List.mem_filter.mp hp
        have hquiet := (hidle p hmem ((side_of_canSend hsend).trans hside) hid).1
        cases hsend.symm.trans hquiet
      have hreads : ∀ d ∈ r.dueReads set.reported, d.callback.side = side → d.id ≠ e.id := by
        intro d hd hside hid
        obtain ⟨p, hp, rfl⟩ := List.mem_map.mp hd
        obtain ⟨hmem, hinput⟩ := List.mem_filter.mp hp
        have hquiet := (hidle p hmem ((Side.reading_side p.side).symm.trans hside) hid).2
        cases hinput.symm.trans hquiet
      unfold Action.Ends
      rw [respond_eq hr htable hset hvalid]
      change (serveAll r set.reported).Ends r w _ _
      rw [serveAll, Action.ends_bind]
      refine (attend_stands he hwrites).mono (fun written r₁ w₁ he₁ => ?_) (fun _ _ _ h => h)
      rw [Action.ends_bind]
      exact (attend_stands he₁ hreads).mono (fun _ _ _ h => h) (fun _ _ _ h => h)

/-- Before its poll an iteration lets go only expired clients and what has no descriptor, and it
always gets to its poll. -/
theorem polling_stands {r : Reactor (Watched η χ) χ} {w : ω} {r₁ : Reactor (Watched η χ) χ} {w₁ : ω}
    {R : ReactorError → Reactor (Watched η χ) χ → ω → Prop}
    (htick : (tick : Action ω ReactorError _ Unit) r w = .done () r₁ w₁) :
    (polling : Action ω ReactorError (Reactor (Watched η χ) χ) _).Ends r w
      (fun _ r' _ => ∀ side, ∀ e ∈ r.entries side,
        (side = .client → ChannelOps.hasExpired (Machine.now w₁) e.channel = false) →
        (∃ d, ChannelOps.descriptor e.channel = .ok d) → e ∈ r'.entries side) R := by
  have hstages : (polling : Action ω ReactorError (Reactor (Watched η χ) χ) _) = (do
      tick
      expire (← Action.now)
      drainMailbox (← Action.subject).settings.injectBatch
      let table ← preparePoll
      let timeout := (← Action.subject).settings.pollTimeout
      let waited ← Action.runOn table.set (Action.attempt (PollSet.wait timeout))
      pure (table, waited.1, waited.2)) := rfl
  have hends := tick_ends (r := r) (w := w) (R := fun (_ : ReactorError) _ _ => False)
  rw [hstages, Action.ends_bind]
  refine .of_outcome (fun _ r' w' hx => ?_) (fun _ _ _ hx => (hends.refused hx).elim)
  cases htick.symm.trans hx
  obtain ⟨desk, rfl, -⟩ := hends.done htick
  rw [Action.ends_bind, Action.now, Action.ends_ask, Action.ends_bind]
  refine expire_ends.mono (fun _ r₂ w₂ h => ?_) (fun _ _ _ h => h)
  have hlasts (side : Side) (e : Entry χ) (he : e ∈ r.entries side)
      (hexpired : side = .client → ChannelOps.hasExpired (Machine.now w₁) e.channel = false) :
      e ∈ r₂.entries side := by
    cases side with
    | listener =>
      change e ∈ r₂.listeners
      rwa [h.listeners]
    | client =>
      change e ∈ r₂.clients
      rw [h.clients]
      exact List.mem_filter.mpr ⟨he, by simp [hexpired rfl]⟩
  rw [Action.ends_bind, Action.ends_subject, Action.ends_bind]
  refine (drainMailbox_stands _).mono (fun _ r₃ w₃ hdrained => ?_) (fun _ _ _ h => h)
  rw [Action.ends_bind]
  refine preparePoll_stands.mono (fun table r₄ w₄ hprepared => ?_) (fun _ _ _ h => h)
  have hstands (side : Side) (e : Entry χ) (he : e ∈ r.entries side)
      (hexpired : side = .client → ChannelOps.hasExpired (Machine.now w₁) e.channel = false)
      (hd : ∃ d, ChannelOps.descriptor e.channel = .ok d) : e ∈ r₄.entries side :=
    hprepared side e (hdrained side e (hlasts side e he hexpired)) hd
  rw [Action.ends_bind, Action.ends_subject, Action.ends_bind, Action.ends_runOn,
    Action.ends_attempt]
  exact (Action.ends_self _ _ _).mono (fun _ _ _ _ => hstands) (fun _ _ _ _ => hstands)

/-- What is left after some moves of what was there stands in its old order, before what came. -/
theorem Moves.survivors (h : Moves (r, w) (r', w')) (side : Side) :
    ∃ left new, r'.ids side = left ++ new ∧ left.Sublist (r.ids side) ∧
      ∀ id ∈ new, r.nextId ≤ id := by
  have hall (p : Reactor (Watched η χ) χ × ω) (hp : Moves (r, w) p) : r.nextId ≤ p.1.nextId ∧
      ∃ left new, p.1.ids side = left ++ new ∧ left.Sublist (r.ids side) ∧
        ∀ id ∈ new, r.nextId ≤ id := by
    induction hp with
    | refl => exact ⟨Nat.le_refl _, _, [], (List.append_nil _).symm, .refl _, List.forall_mem_nil _⟩
    | @tail p q _ hmove ih =>
      obtain ⟨hnext, left, new, hids, hleft, hnew⟩ := ih
      have hparts : Move (p.1, p.2) (q.1, q.2) := hmove
      obtain hthins | ⟨side', c, hq⟩ := hparts.thins
      · have hsub := hthins.ids side
        rw [hids] at hsub
        obtain ⟨left', new', hids', hleft', hnew'⟩ := List.sublist_append_iff.mp hsub
        exact ⟨hthins.next ▸ hnext, left', new', hids', hleft'.trans hleft,
          fun id hid => hnew id (hnew'.subset hid)⟩
      · rw [hq]
        refine ⟨Nat.le_succ_of_le hnext, left, new ++ if side = side' then [p.1.nextId] else [], ?_,
          hleft, fun id hid => ?_⟩
        · rw [ids_enrolled, hids, List.append_assoc]
        · obtain hold | hcame := List.mem_append.mp hid
          · exact hnew id hold
          · split at hcame
            · rwa [List.mem_singleton.mp hcame]
            · cases hcame
  exact (hall _ h).2

end

end Reactor

namespace Estate

variable [Machine ω] [ChannelOps ω χ] [Hooks ω η χ] {s₀ s s' : Estate ω η χ}

/-- After any commands, whatever an iteration does, what its poll answers and what its hooks do:
what it has no business with is registered afterwards exactly as it was before, and all that is left
stands in its old order, before what came. -/
theorem bystanders_untouched {serial : Nat} {settings : ReactorSettings} {hooks : η} {machine : ω}
    (hfounded : founded serial settings hooks machine = some s₀)
    (commands : List (Command ω η χ)) (hplay : s₀.play commands = some s)
    (hrun : s.step .runOnce = some s') :
    ∃ r₁ w₁ table answer set r₂ w₂,
      (Reactor.tick : Action ω ReactorError _ Unit) s.reactor s.machine = .done () r₁ w₁ ∧
      (Reactor.polling : Action ω ReactorError _ _) s.reactor s.machine =
        .done (table, answer, set) r₂ w₂ ∧
      (Reactor.respond table answer set).Leaves r₂ w₂ s'.reactor s'.machine ∧
      ∀ side, (∀ e ∈ s.reactor.entries side,
          Reactor.Bystander (Machine.now w₁) answer set r₂ w₂ side e →
            e ∈ s'.reactor.entries side) ∧
        ∃ left new, s'.reactor.ids side = left ++ new ∧ left.Sublist (s.reactor.ids side) ∧
          ∀ id ∈ new, s.reactor.nextId ≤ id := by
  have hordered := play_ordered hfounded commands hplay
  have hleaves := step_runOnce hrun
  have hmoves := (Reactor.runOnce_keeps s.reactor s.machine .refl).leaves hleaves
  obtain ⟨r₁, w₁, _, _, htick, -⟩ := Reactor.runOnce_expires hleaves
  rw [Reactor.runOnce_eq] at hleaves
  have hpolls := Reactor.polling_stands (R := fun _ _ _ => False) htick
  obtain ⟨⟨table, answer, set⟩, r₂, w₂, hpoll, hrespond⟩ | ⟨e, hx⟩ := Action.leaves_of_bind hleaves
  · obtain ⟨hmoved, htable, hset⟩ := Reactor.polling_ends.done hpoll
    refine ⟨r₁, w₁, table, answer, set, r₂, w₂, htick, hpoll, hrespond,
      fun side => ⟨fun e he h => ?_, hmoves.survivors side⟩⟩
    have he₂ := hpolls.done hpoll side e he h.unexpired h.polled
    exact (Reactor.respond_stands (hordered.moves hmoved) htable hset he₂ h).leaves hrespond
  · exact (hpolls.refused hx).elim

/-- Whether a machine's poll of these clients, which finds something ready, is of no concern to the
fourth of them. -/
def sparesFourth (s s' : Estate Scenario.Bench NoHooks Scenario.Stub) (now : Instant)
    (answer : Except PollError Nat) (set : PollSet)
    (r : Reactor (Watched NoHooks Scenario.Stub) Scenario.Stub) : Bool :=
  s.reactor.ids .client == [1, 2, 3, 4] && s'.reactor.ids .client == [3, 4] &&
  s.reactor.clients[3]?.any (fun e => e.id == 4 && !ChannelOps.hasExpired now e.channel &&
    (ChannelOps.descriptor (ω := Scenario.Bench) e.channel).toBool &&
    answer.toBool && !set.anyInvalid &&
    (r.polled set.reported).all (fun p =>
      p.side != .client || p.entry.id != e.id || (!p.canSend && !p.hasInput)))

/-- One client is let go by each dispatch and a third is served, while nothing comes of the fourth,
whose descriptor is not ready. -/
theorem bystanders_untouched_busyStubs :
    ∃ (s₀ s s' : Estate Scenario.Bench NoHooks Scenario.Stub)
      (r₁ r₂ : Reactor (Watched NoHooks Scenario.Stub) Scenario.Stub)
      (w₁ w₂ : Scenario.Bench) (answer : Except PollError Nat) (set : PollSet)
      (e : Entry Scenario.Stub),
      founded 1 {} {} busyBench = some s₀ ∧
      s₀.play [.register (busyStub 1 [.closed] []), .register (busyStub 2 [] [.fails]),
        .register (busyStub 3 [] []), .register (busyStub 4 [.fails] [.fails])] = some s ∧
      s.step .runOnce = some s' ∧
      (s.reactor.ids .client = [1, 2, 3, 4] ∧ s'.reactor.ids .client = [3, 4]) ∧
      (Reactor.tick : Action _ ReactorError _ Unit) s.reactor s.machine = .done () r₁ w₁ ∧
      e ∈ s.reactor.clients ∧ e.id = 4 ∧
      Reactor.Bystander (Machine.now w₁) answer set r₂ w₂ .client e ∧
      e ∈ s'.reactor.clients := by
  have hrun : ((founded 1 {} {} busyBench : Option (Estate _ NoHooks _)).any fun s₀ =>
      (s₀.play [.register (busyStub 1 [.closed] []), .register (busyStub 2 [] [.fails]),
        .register (busyStub 3 [] []), .register (busyStub 4 [.fails] [.fails])]).any fun s =>
      (s.step .runOnce).any fun s' =>
      ((Reactor.tick : Action _ ReactorError _ Unit) s.reactor s.machine).any fun _ _ w₁ =>
      ((Reactor.polling : Action _ ReactorError _ _) s.reactor s.machine).any fun p r _ =>
        sparesFourth s s' (Machine.now w₁) p.2.1 p.2.2 r) = true := by
    decide +kernel
  simp only [Option.any_eq_true, Outcome.any_eq_true] at hrun
  obtain ⟨s₀, hfounded, s, hplay, s', hstep, _, r₁, w₁, htick, ⟨table, answer, set⟩, r₂, w₂, hpoll,
    hspared⟩ := hrun
  obtain ⟨r₁', w₁', table', answer', set', r₂', w₂', htick', hpoll', -, hsides⟩ :=
    bystanders_untouched hfounded _ hplay hstep
  cases htick.symm.trans htick'
  cases hpoll.symm.trans hpoll'
  simp only [sparesFourth, Option.any_eq_true, Bool.and_eq_true, Bool.not_eq_true', beq_iff_eq]
    at hspared
  obtain ⟨⟨hids, hids'⟩, e, he, ⟨⟨⟨⟨hid, hexpired⟩, hd⟩, hanswer⟩, hvalid⟩, hquiet⟩ := hspared
  have hmem : e ∈ s.reactor.clients := List.mem_of_getElem? he
  have hby : Reactor.Bystander (Machine.now w₁) answer set r₂ w₂ .client e := by
    refine ⟨fun _ => hexpired, ?_, ?_, fun _ p hp hside hpid => ?_⟩
    · cases hdesc : ChannelOps.descriptor (ω := Scenario.Bench) e.channel with
      | ok d => exact ⟨d, rfl⟩
      | error err =>
        rw [hdesc] at hd
        cases hd
    · rintro (⟨err, rfl, -⟩ | ⟨n, -, hinvalid⟩)
      · cases hanswer
      · cases hvalid.symm.trans hinvalid
    · simpa [hside, hpid] using List.all_eq_true.mp hquiet p hp
  exact ⟨s₀, s, s', r₁, r₂, w₁, w₂, answer, set, e, hfounded, hplay, hstep, ⟨hids, hids'⟩, htick,
    hmem, hid, hby, (hsides .client).1 e hmem hby⟩

end Estate

end ChannelReactor
