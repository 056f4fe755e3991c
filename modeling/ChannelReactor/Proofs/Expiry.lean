import ChannelReactor.Proofs.Stages
import ChannelReactor.Proofs.Visits

/-! # The expiry of clients

The second stage of an iteration walks along the clients and takes each that is expired out of the
list that it walks. What it comes to is simpler: the expired clients leave the list all at once, and
then they are closed one by one. No other stage closes a channel as expired. -/
namespace ChannelReactor.Reactor

variable {ω ε η χ : Type}

section

variable [ChannelOps ω χ] [Hooks ω η χ]

/-- Unregisters and closes an expired channel that is no longer in the lists, and tells the
application. -/
def expel (e : Entry χ) : Action ω ε (Reactor η χ) Unit := do
  let ((), c) ← Action.runOn (ChannelOps.mapCore ChannelCore.unregister e.channel)
    ChannelOps.close.sure
  Action.update (count (·.addEvicted true))
  hook (Hooks.onClosed e.id c .expired)

def expelAll : List (Entry χ) → Action ω ε (Reactor η χ) Unit
  | [] => pure ()
  | e :: rest => do
    expel e
    expelAll rest

/-- The clients that are expired at an instant, in their order. -/
def expired (now : Instant) (r : Reactor η χ) : List (Entry χ) :=
  r.clients.filter fun e => ChannelOps.hasExpired now e.channel

/-- The reactor without the clients that are expired at an instant. -/
def spared (now : Instant) (r : Reactor η χ) : Reactor η χ :=
  { r with clients := r.clients.filter fun e => !ChannelOps.hasExpired now e.channel }

/-- To evict an expired client is to take it out of the list and then to expel it. -/
theorem evict_expired {r : Reactor η χ} {w : ω} {index : Nat} {e : Entry χ}
    (he : r.clients[index]? = some e) :
    (evict .client index .expired : Action ω ε (Reactor η χ) Unit) r w =
      expel e (r.without .client index) w := by
  have hentry : (entryAt .client index : Action ω ε (Reactor η χ) (Entry χ)) r w =
      .done e r w := by
    rw [entryAt, Action.bind_apply, Action.subject_apply]
    simp only [entries, he]
    rfl
  simp only [evict, letGo, dismiss, bind_assoc, pure_bind]
  rw [Action.bind_apply, hentry]
  rfl

/-- What an expulsion does does not depend on the list of clients. -/
theorem expel_beside (e : Entry χ) (r : Reactor η χ) (w : ω) (clients : List (Entry χ)) :
    (expel e : Action ω ε (Reactor η χ) Unit) { r with clients } w =
      match (expel e : Action ω ε (Reactor η χ) Unit) r w with
      | .done () r' w' => .done () { r' with clients } w'
      | .refused err r' w' => .refused err { r' with clients } w'
      | .halted h w' => .halted h w' := by
  simp only [expel, Action.bind_apply, Action.runOn, hook, Action.focus]
  cases (ChannelOps.close.sure : Action ω ε χ Unit)
      (ChannelOps.mapCore ChannelCore.unregister e.channel) w with
  | refused _ _ _ | halted _ _ => rfl
  | done _ c w₁ =>
    have hdesk : (Reactor.count (·.addEvicted true) { r with clients }).desk =
        (r.count (·.addEvicted true)).desk := rfl
    simp only [Action.update_apply, hdesk]
    cases (Hooks.onClosed e.id c .expired : Action ω Empty (Desk η χ) Unit).sure
        (r.count (·.addEvicted true)).desk w₁ with
    | done _ _ _ | refused _ _ _ | halted _ _ => rfl

theorem expel_ends {e : Entry χ} {r : Reactor η χ} {w : ω} {R : ε → Reactor η χ → ω → Prop} :
    (expel e : Action ω ε (Reactor η χ) Unit).Ends r w
      (fun _ r' w₂ => ∃ c w₁ desk,
        ChannelOps.close (ChannelOps.mapCore ChannelCore.unregister e.channel) w = .done () c w₁ ∧
        Hooks.onClosed e.id c .expired r.desk w₁ = .done () desk w₂ ∧
        r' = (r.count (·.addEvicted true)).withDesk desk) R := by
  rw [expel, Action.ends_bind]
  refine .runOn_sure fun _ c w₁ hc => ?_
  rw [Action.ends_bind, Action.ends_update]
  exact hook_ends fun _ desk w₂ hh => ⟨c, w₁, desk, hc, hh, rfl⟩

/-- The walk from a place on closes the expired ones of the clients that stand there or later. -/
theorem expireFrom_eq (now : Instant) :
    ∀ (rest before : List (Entry χ)) (rounds : Nat) (r : Reactor η χ) (w : ω),
      r.clients = before ++ rest → rest.length ≤ rounds →
        (expireFrom now rounds before.length : Action ω ε (Reactor η χ) Unit) r w =
          expelAll (rest.filter fun e => ChannelOps.hasExpired now e.channel)
            { r with clients := before ++
                rest.filter fun e => !ChannelOps.hasExpired now e.channel } w
  | [], before, rounds, r, w, hclients, _ => by
    have hsame : { r with clients := before ++ [] } = r := by rw [← hclients]
    have hend : r.clients[before.length]? = none := by simp [hclients]
    rw [List.filter_nil, List.filter_nil, hsame]
    cases rounds with
    | zero => rfl
    | succ rounds =>
      rw [expireFrom, Action.bind_apply, Action.subject_apply]
      simp only [hend]
      rfl
  | e :: rest, before, 0, r, w, _, hrounds => absurd hrounds (Nat.not_succ_le_zero _)
  | e :: rest, before, rounds + 1, r, w, hclients, hrounds => by
    have he : r.clients[before.length]? = some e := by simp [hclients]
    have hrounds' : rest.length ≤ rounds := Nat.le_of_succ_le_succ hrounds
    rw [expireFrom, Action.bind_apply, Action.subject_apply]
    simp only [he]
    by_cases hexpired : ChannelOps.hasExpired now e.channel = true
    · have hwithout : r.without .client before.length = { r with clients := before ++ rest } := by
        simp [without, mapEntries, hclients, List.eraseIdx_append_of_length_le]
      have hgone : (!ChannelOps.hasExpired now e.channel) = false := by rw [hexpired]; rfl
      rw [if_pos hexpired, Action.bind_apply, evict_expired he, hwithout, List.filter_cons,
        if_pos hexpired, expelAll, List.filter_cons, hgone, if_neg Bool.false_ne_true,
        Action.bind_apply,
        expel_beside e { r with clients := before ++ rest } w
          (before ++ rest.filter fun e => !ChannelOps.hasExpired now e.channel)]
      cases hx : (expel e : Action ω ε (Reactor η χ) Unit)
          { r with clients := before ++ rest } w with
      | done _ r' w' =>
        obtain ⟨_, _, _, -, -, rfl⟩ := (expel_ends (R := fun _ _ _ => False)).done hx
        exact expireFrom_eq now rest before rounds _ w' rfl hrounds'
      | refused _ _ _ => exact ((expel_ends (R := fun _ _ _ => False)).refused hx).elim
      | halted _ _ => rfl
    · have hkept : (!ChannelOps.hasExpired now e.channel) = true := by simp [hexpired]
      have hrest := expireFrom_eq now rest (before ++ [e]) rounds r w (by simp [hclients])
        hrounds'
      rw [if_neg hexpired, List.filter_cons, if_neg hexpired, List.filter_cons, if_pos hkept]
      simpa using hrest

/-- What the walk comes to: the expired clients leave the list, and are closed in their order. -/
theorem expire_eq (now : Instant) (r : Reactor η χ) (w : ω) :
    (expire now : Action ω ε (Reactor η χ) Unit) r w =
      expelAll (r.expired now) (r.spared now) w :=
  expireFrom_eq now r.clients [] r.clients.length r w rfl (Nat.le_refl _)

end

/-- What an expiry at an instant makes of a reactor: the clients that are not expired are left, in
their order, and the application was told of each of the others, in theirs. -/
structure Expires [ChannelOps ω χ] (now : Instant) (r r' : Reactor (Watched η χ) χ) : Prop where
  clients : r'.clients = r.clients.filter fun e => !ChannelOps.hasExpired now e.channel
  listeners : r'.listeners = r.listeners
  closures : r'.closures = r.closures ++ (r.expired now).map fun e => (e.id, .expired)

section

variable [ChannelOps ω χ] [Hooks ω η χ] {r r' : Reactor (Watched η χ) χ} {w w' : ω}

theorem expelAll_ends {R : ε → Reactor (Watched η χ) χ → ω → Prop} :
    ∀ {entries : List (Entry χ)} {r : Reactor (Watched η χ) χ} {w : ω},
      (expelAll entries : Action ω ε (Reactor (Watched η χ) χ) Unit).Ends r w
        (fun _ r' _ => r'.clients = r.clients ∧ r'.listeners = r.listeners ∧
          r'.closures = r.closures ++ entries.map fun e => (e.id, .expired)) R
  | [], _, _ => ⟨rfl, rfl, (List.append_nil _).symm⟩
  | e :: rest, r, w => by
    rw [expelAll, Action.ends_bind]
    refine expel_ends.mono (fun _ r₁ w₁ h => ?_) (fun _ _ _ h => h)
    obtain ⟨c, _, desk, -, hh, rfl⟩ := h
    have htold : ((r.count (·.addEvicted true)).withDesk desk).closures =
        r.closures ++ [(e.id, .expired)] := by
      change desk.hooks.calls.filterMap _ = _
      rw [show desk.hooks.calls = r.hooks.calls ++ _ from Watched.noting_done hh,
        List.filterMap_append]
      rfl
    refine expelAll_ends.mono (fun _ r' _ h => ?_) (fun _ _ _ h => h)
    obtain ⟨hclients, hlisteners, hclosures⟩ := h
    refine ⟨hclients, hlisteners, ?_⟩
    rw [hclosures, htold, List.append_assoc]
    rfl

theorem expire_ends {now : Instant} {R : ε → Reactor (Watched η χ) χ → ω → Prop} :
    (expire now : Action ω ε (Reactor (Watched η χ) χ) Unit).Ends r w
      (fun _ r' _ => r.Expires now r') R := by
  unfold Action.Ends
  rw [expire_eq]
  exact expelAll_ends.mono (fun _ _ _ h => ⟨h.1, h.2.1, h.2.2⟩) (fun _ _ _ h => h)

/-- The application was told of more ends, and those of expired channels are counted. -/
structure Tallied (r r' : Reactor (Watched η χ) χ) (more : List (ChannelId × CloseReason)) :
    Prop where
  closures : r'.closures = r.closures ++ more
  expired : r'.stats.expired = r.stats.expired + more.countP (·.2 == .expired)

theorem Told.tallied (h : Told r r' []) : Tallied r r' [] := ⟨h.closures, h.expired⟩

theorem Tallied.trans {r₁ : Reactor (Watched η χ) χ} {more more' : List (ChannelId × CloseReason)}
    (h : Tallied r r₁ more) (h' : Tallied r₁ r' more') : Tallied r r' (more ++ more') :=
  ⟨by rw [h'.closures, h.closures, List.append_assoc],
    by rw [h'.expired, h.expired, List.countP_append, Nat.add_assoc]⟩

theorem Tallied.evicted {side : Side} {index : Nat} {id : ChannelId} {c : χ} {reason : CloseReason}
    {desk : Desk (Watched η χ) χ}
    (hcalls : desk.hooks.calls = r.hooks.calls ++ [.closed id c reason]) :
    Tallied r (((r.without side index).count (·.addEvicted (reason == .expired))).withDesk desk)
      [(id, reason)] := by
  refine ⟨?_, ?_⟩
  · change desk.hooks.calls.filterMap _ = _
    rw [hcalls, List.filterMap_append]
    rfl
  · have hstats : (r.without side index).stats = r.stats := by cases side <;> rfl
    change (if reason == .expired then (r.without side index).stats.expired + 1
      else (r.without side index).stats.expired) = _
    rw [hstats, List.countP_singleton]
    split <;> rfl

variable [Machine ω]

theorem Move.tallied (h : Move (r, w) (r', w')) : ∃ more, Tallied r r' more := by
  have htold {r' : Reactor (Watched η χ) χ} (ht : Told r r' []) : ∃ more, Tallied r r' more :=
    ⟨[], ht.tallied⟩
  cases h with
  | elapse _ | reject _ => exact htold (.refl _)
  | tick hh => exact htold (.informed (.count rfl rfl) rfl rfl (Watched.noting_done hh))
  | fetch _ => exact htold ((Told.mailbox _).trans (.count rfl rfl))
  | enroll side _ => exact ⟨[], by cases side <;> exact ⟨(List.append_nil _).symm, rfl⟩⟩
  | write _ _ hh | read _ _ hh =>
    exact htold (.informed (.put _) (hooks_put _) rfl (Watched.noting_done hh))
  | accept _ _ hh =>
    exact htold (.informed ((Told.put _).trans (.count rfl rfl)) (hooks_put _) rfl
      (Watched.noting_done hh))
  | discard | pollFailed => exact htold (.count rfl rfl)
  | defer _ _ => exact htold (.put _)
  | blame _ _ _ hh =>
    have hcounted : Tallied r (r.count (·.addPollFailure)) [] := (Told.count rfl rfl).tallied
    exact ⟨_, hcounted.trans
      (Tallied.evicted (r := r.count (·.addPollFailure)) (Watched.noting_done hh))⟩
  | evict _ _ _ hh => exact ⟨_, .evicted (Watched.noting_done hh)⟩

theorem Moves.tallied (h : Moves (r, w) (r', w')) : ∃ more, Tallied r r' more := by
  have hall (p : Reactor (Watched η χ) χ × ω) (hp : Moves (r, w) p) :
      ∃ more, Tallied r p.1 more := by
    induction hp with
    | refl => exact ⟨[], (Told.refl r).tallied⟩
    | tail _ hstep ih =>
      obtain ⟨more, htallied⟩ := ih
      obtain ⟨more', htallied'⟩ := hstep.tallied
      exact ⟨more ++ more', htallied.trans htallied'⟩
  exact hall _ h

/-- After the expiry of an iteration no channel is closed as expired. -/
theorem proceeds_tallied (h : (do drainMailbox (← Action.subject).settings.injectBatch; serve :
      Action ω ReactorError _ Nat).Leaves r w r' w') :
    ∃ later, r'.closures = r.closures ++ later ∧ ∀ closure ∈ later, closure.2 ≠ .expired := by
  have hmoves : Moves (r, w) (r', w') :=
    ((Action.keeps_subject.bind fun _ => (drainMailbox_keeps _).bind fun _ => serve_keeps) r w
      .refl).leaves h
  have hI : Sustains (fun _ _ => True) fun r' : Reactor (Watched η χ) χ =>
      r'.stats.expired = r.stats.expired := stats_sustained (fun hf stats => (hf stats).1) _
  have hcount : r'.stats.expired = r.stats.expired :=
    ((Action.keeps_subject.bind fun _ => (hI.drainMailbox (fun h => h) _).bind fun _ =>
      hI.serve Conducts.any) r w rfl).leaves h
  obtain ⟨later, htallied⟩ := hmoves.tallied
  refine ⟨later, htallied.closures, fun closure hmem hexpired => ?_⟩
  have hnone : later.countP (·.2 == .expired) = 0 := by
    have := htallied.expired
    omega
  exact List.countP_eq_zero.mp hnone closure hmem (beq_iff_eq.mpr hexpired)

/-- An iteration that ends reads the clock, and then closes as expired the clients that are expired
at that instant, and no others before it ends. -/
theorem runOnce_expires (h : runOnce.Leaves r w r' w') :
    ∃ r₁ w₁ r₂ w₂, (tick : Action ω ReactorError _ Unit) r w = .done () r₁ w₁ ∧
      (expire (Machine.now w₁) : Action ω ReactorError _ Unit) r₁ w₁ = .done () r₂ w₂ ∧
      (do drainMailbox (← Action.subject).settings.injectBatch; serve :
        Action ω ReactorError _ Nat).Leaves r₂ w₂ r' w' ∧
      r.Expires (Machine.now w₁) r₂ ∧
      ∃ later, r'.closures = r₂.closures ++ later ∧ ∀ closure ∈ later, closure.2 ≠ .expired := by
  rw [runOnce_stages] at h
  obtain ⟨_, r₁, w₁, htick, hnext⟩ | ⟨e, hx⟩ := Action.leaves_of_bind h
  · obtain ⟨now, _, _, hnow, hwalk⟩ | ⟨e, hx⟩ := Action.leaves_of_bind hnext
    · cases hnow
      obtain ⟨_, r₂, w₂, hexpire, hrest⟩ | ⟨e, hx⟩ := Action.leaves_of_bind hwalk
      · obtain ⟨desk, rfl, hh⟩ := (tick_ends (R := fun _ _ _ => False)).done htick
        have hexpires := (expire_ends (R := fun _ _ _ => False)).done hexpire
        have htold : ((r.count (·.addIteration r.clients.length)).withDesk desk).closures =
            r.closures :=
          ((Told.count rfl rfl).informed rfl rfl (Watched.noting_done hh)).closures.trans
            (List.append_nil _)
        exact ⟨_, w₁, r₂, w₂, htick, hexpire, hrest,
          ⟨hexpires.clients, hexpires.listeners, htold ▸ hexpires.closures⟩, proceeds_tallied hrest⟩
      · exact ((expire_ends (R := fun _ _ _ => False)).refused hx).elim
    · cases hx
  · exact ((tick_ends (R := fun _ _ _ => False)).refused hx).elim

end

end ChannelReactor.Reactor
