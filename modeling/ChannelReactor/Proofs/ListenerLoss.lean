import ChannelReactor.Proofs.Accepting
import ChannelReactor.Proofs.Custody
import ChannelReactor.Scenario.Wire

/-! # How a reactor loses a listener

A listener that an iteration lets go was not open, was blamed for a failed poll, or failed in its
accept: by an error of its own acceptor, or because the transport that it accepted could not be set
to wait. Nothing else about a connection is charged to the listener that accepted it. -/
namespace ChannelReactor.Reactor

variable {ω η τ α β χ : Type}

theorem mem_modify_or {entries : List (Entry χ)} (index : Nat) (f : Entry χ → Entry χ)
    {e : Entry χ} (h : e ∈ entries) :
    e ∈ entries.modify index f ∨ entries[index]? = some e ∧ f e ∈ entries.modify index f := by
  obtain ⟨k, hk⟩ := List.mem_iff_getElem?.mp h
  by_cases hki : index = k
  · subst hki
    refine .inr ⟨hk, List.mem_iff_getElem?.mpr ⟨index, ?_⟩⟩
    rw [List.getElem?_modify_eq, hk]
    rfl
  · refine .inl (List.mem_iff_getElem?.mpr ⟨k, ?_⟩)
    rw [List.getElem?_modify_ne _ _ hki, hk]

theorem mem_eraseIdx_or {entries : List (Entry χ)} (index : Nat) {e : Entry χ} (h : e ∈ entries) :
    e ∈ entries.eraseIdx index ∨ entries[index]? = some e := by
  obtain ⟨k, hk⟩ := List.mem_iff_getElem?.mp h
  by_cases hki : k = index
  · subst hki
    exact .inr hk
  · exact .inl (List.mem_eraseIdx_iff_getElem?.mpr ⟨k, hki, hk⟩)

variable [Acceptor ω α τ]

/-- The listener that was `l` is registered under an id, as `l'`. -/
def Present (id : ChannelId) (l : Listener α) (r : Reactor η (Channel τ α β)) (l' : Listener α) :
    Prop :=
  l.Follows l' ∧ ∃ e ∈ r.listeners, e.id = id ∧ e.channel.listener? = some l'

section

variable {id : ChannelId} {l : Listener α}

/-- A listener is there when the channel at one place is changed, if it is followed there. -/
theorem Present.put {r : Reactor η (Channel τ α β)} {index : Nat} {x : Entry (Channel τ α β)}
    {c : Channel τ α β} {l' : Listener α} (there : Present id l r l')
    (hx : (r.entries .listener)[index]? = some x)
    (hc : ∀ l', x.channel.listener? = some l' → ∃ l'', c.listener? = some l'' ∧ l'.Follows l'') :
    ∃ l'', Present id l (r.put .listener index c) l'' := by
  obtain ⟨hfollows, e, he, hid, hl⟩ := there
  rcases mem_modify_or index (fun e => { e with channel := c }) he with
    hstill | ⟨hat, hnew⟩
  · exact ⟨l', hfollows, e, hstill, hid, hl⟩
  · obtain rfl : x = e := Option.some.inj (hx.symm.trans hat)
    obtain ⟨l'', hl'', hfollows'⟩ := hc l' hl
    exact ⟨l'', hfollows.trans hfollows', _, hnew, hid, hl''⟩

/-- A listener is there without the entry at one place, if it is not that entry's. -/
theorem Present.without {r : Reactor η (Channel τ α β)} {l' : Listener α}
    (there : Present id l r l') (index : Nat) :
    Present id l (r.without .listener index) l' ∨
      ∃ x, (r.entries .listener)[index]? = some x ∧ x.channel.listener? = some l' := by
  obtain ⟨hfollows, e, he, hid, hl⟩ := there
  rcases mem_eraseIdx_or index he with hstill | hat
  · exact .inl ⟨hfollows, e, hstill, hid, hl⟩
  · exact .inr ⟨e, hat, hl⟩

end

variable [Machine ω] [Transport ω τ] [ChannelOps ω β] [Hooks ω η (Channel τ α β)]

/-- Why a listener can be missing at the end of some moves. -/
inductive Loss (id : ChannelId) (l : Listener α) (p q : Reactor η (Channel τ α β) × ω) : Prop
  /-- It was closed, or had failed before. -/
  | shut (h : ¬ l.IsOpen)
  /-- At a moment in between, its acceptor could not be polled, and it was blamed for a failed
  poll. -/
  | blamed {m : Reactor η (Channel τ α β) × ω} {l' : Listener α} (before : Moves p m)
    (there : Present id l m.1 l')
    (h : ∀ a, l'.acceptor = some a → ∃ w', Denied (Acceptor.descriptor a) m.2 w')
    (later : Moves m q) (failed : m.1.stats.pollFailures < q.1.stats.pollFailures)
  /-- At a moment in between, an accept of its own acceptor failed for good. -/
  | accept {m : Reactor η (Channel τ α β) × ω} {l' : Listener α} (before : Moves p m)
    (there : Present id l m.1 l') (h : l'.FailsAccept m.2) (later : Moves m q)
  /-- At a moment in between, it accepted a transport that could not be set to wait. -/
  | wrap {m : Reactor η (Channel τ α β) × ω} {l' : Listener α} (before : Moves p m)
    (there : Present id l m.1 l') (h : l'.FailsWrap m.2) (later : Moves m q)

section

variable {id : ChannelId} {l : Listener α} {p m q : Reactor η (Channel τ α β) × ω}

theorem Move.pollFailures_le (h : Move m q) : m.1.stats.pollFailures ≤ q.1.stats.pollFailures := by
  cases h with
  | elapse _ | tick _ | fetch _ | reject _ | write _ _ _ | read _ _ _ | accept _ _ _ | discard =>
    exact Nat.le_refl _
  | enroll side _ => cases side <;> exact Nat.le_refl _
  | @defer _ _ _ side => cases side <;> exact Nat.le_refl _
  | pollFailed => exact Nat.le_succ _
  | @blame _ _ _ _ _ side => cases side <;> exact Nat.le_succ _
  | @evict _ _ _ _ _ side => cases side <;> exact Nat.le_refl _

theorem Loss.move (h : Loss id l p m) (hm : Move m q) : Loss id l p q := by
  cases h with
  | shut h => exact .shut h
  | blamed before there h later failed =>
    exact .blamed before there h (later.tail hm) (Nat.lt_of_lt_of_le failed hm.pollFailures_le)
  | accept before there h later => exact .accept before there h (later.tail hm)
  | wrap before there h later => exact .wrap before there h (later.tail hm)

/-- An accept that is done or refused for a while. -/
theorem follows_of_stays {c c' : Channel τ α β} {w w' : ω} (h : Stays ChannelOps.accept c w c' w')
    {l' : Listener α} (hl : c.listener? = some l') :
    ∃ l'', c'.listener? = some l'' ∧ l'.Follows l'' := by
  rcases h with ⟨a, hdone⟩ | ⟨e, hpass, hrefused⟩
  · obtain ⟨l'', hl'', -, hfollows, -⟩ := (Channel.accept_ends hl).done hdone
    exact ⟨l'', hl'', hfollows⟩
  · obtain ⟨l'', hl'', ⟨-, rfl, -⟩ | ⟨-, ⟨-, hfollows, -⟩ | ⟨hfinal, -⟩⟩⟩ :=
      (Channel.accept_ends hl).refused hrefused
    · cases hpass
    · exact ⟨l'', hl'', hfollows⟩
    · rw [hpass] at hfinal
      cases hfinal

/-- An accept that is refused for good. -/
theorem fails_of_fault {c c' : Channel τ α β} {w w' : ω} {reason : CloseReason}
    (h : Fault .listener c w reason c' w') {l' : Listener α} (hl : c.listener? = some l') :
    ¬ l'.IsOpen ∨ l'.Fails w := by
  cases h with
  | lost hdescriptor =>
    rw [Channel.descriptor_eq hl] at hdescriptor
    refine .inl fun hopen => ?_
    obtain ⟨-, a, ha⟩ := hopen
    rw [Listener.descriptor, ha] at hdescriptor
    cases hdescriptor
  | accept hfails =>
    obtain ⟨e, hreason, hrefused⟩ := hfails
    obtain ⟨l'', -, ⟨hshut, -⟩ | ⟨-, ⟨hpass, -⟩ | ⟨-, hfails⟩⟩⟩ :=
      (Channel.accept_ends hl).refused hrefused
    · exact .inl hshut
    · rw [hreason] at hpass
      cases hpass
    · exact .inr (hfails.imp id And.left)

/-- A listener that is there stays there, as it is or after an accept, or is lost for one of the
reasons. -/
theorem Present.move {l' : Listener α} (there : Present id l m.1 l') (before : Moves p m)
    (hm : Move m q) : (∃ l'', Present id l q.1 l'') ∨ Loss id l p q := by
  have hthere := there
  obtain ⟨hfollows, e, he, hid, hl⟩ := hthere
  have hstay (hlisteners : q.1.listeners = m.1.listeners) : ∃ l'', Present id l q.1 l'' :=
    ⟨l', hfollows, e, hlisteners ▸ he, hid, hl⟩
  -- Only a blame and an eviction take entries out, and only on their own side.
  cases hm with
  | elapse _ | tick _ | fetch _ | reject _ | write _ _ _ | read _ _ _ | discard | pollFailed =>
    exact .inl (hstay rfl)
  | enroll side _ =>
    cases side with
    | client => exact .inl (hstay rfl)
    | listener => exact .inl ⟨l', hfollows, e, List.mem_append_left _ he, hid, hl⟩
  | accept hx hc _ =>
    obtain ⟨l'', hfollows', x, hmem, hid', hl'⟩ :=
      Present.put there hx fun _ hl => follows_of_stays (.inl ⟨_, hc⟩) hl
    exact .inl ⟨l'', hfollows', x, hmem, hid', hl'⟩
  | @defer r w w' side index x c hx hd =>
    cases hd with
    | write _ | read _ => exact .inl (hstay rfl)
    | accept hd => exact .inl (there.put hx fun _ hl => follows_of_stays hd hl)
  | @blame r w w₁ w₂ w₃ side index x c desk hx hu hc hh =>
    cases side with
    | client => exact .inl (hstay rfl)
    | listener =>
      rcases there.without index with ⟨hfollows', y, hy⟩ | ⟨y, hy, hl'⟩
      · exact .inl ⟨l', hfollows', y, hy⟩
      · obtain rfl : x = y := Option.some.inj (hx.symm.trans hy)
        refine .inr (.blamed before there (fun a ha => ?_) (.single (.blame hx hu hc hh))
          (Nat.lt_succ_self _))
        rcases hu with ⟨⟨err, hdescriptor⟩, -⟩ | ⟨descriptor, hdescriptor, hdenied⟩
        all_goals
          rw [Channel.descriptor_eq hl', Listener.descriptor, ha] at hdescriptor
          cases hdescriptor
        exact ⟨w₁, hdenied⟩
  | @evict r w w₁ w₂ w₃ side index x reason c₁ c₂ desk hx hf hc hh =>
    cases side with
    | client => exact .inl (hstay rfl)
    | listener =>
      rcases there.without index with ⟨hfollows', y, hy⟩ | ⟨y, hy, hl'⟩
      · exact .inl ⟨l', hfollows', y, hy⟩
      · obtain rfl : x = y := Option.some.inj (hx.symm.trans hy)
        rcases fails_of_fault hf hl' with hshut | haccept | hwrap
        · exact .inr (.shut fun hopen => hshut (hfollows.isOpen hopen))
        · exact .inr (.accept before there haccept (.single (.evict hx hf hc hh)))
        · exact .inr (.wrap before there hwrap (.single (.evict hx hf hc hh)))

/-- After some moves a listener is there, or lost for one of the reasons. -/
theorem present_or_lost {e : Entry (Channel τ α β)} (he : e ∈ p.1.listeners)
    (hl : e.channel.listener? = some l) (hm : Moves p q) :
    (∃ l', Present e.id l q.1 l') ∨ Loss e.id l p q := by
  induction hm with
  | refl => exact .inl ⟨l, .refl l, e, he, rfl, hl⟩
  | tail before hmove ih =>
    rcases ih with ⟨l', there⟩ | hlost
    · exact there.move before hmove
    · exact .inr (hlost.move hmove)

end

section

variable {r : Reactor η (Channel τ α β)} {w : ω} {index : Nat} {e : Entry (Channel τ α β)}
variable {l : Listener α}

theorem acceptFrom_listeners (he : (r.entries .listener)[index]? = some e) :
    (acceptFrom index).Ends r w
      (fun _ r' _ => ∃ accepted c w₁, ChannelOps.accept e.channel w = .done accepted c w₁ ∧
        (r.put .listener index c).listeners ⊆ r'.listeners)
      (fun err r' w' => ∃ c, ChannelOps.accept e.channel w = .refused err c w' ∧
        r' = r.put .listener index c) := by
  rw [acceptFrom, Action.ends_bind, entryAt_ends]
  intro x hx
  obtain rfl : e = x := Option.some.inj (he.symm.trans hx)
  rw [Action.ends_bind, onChannel_ends]
  intro y hy
  obtain rfl : e = y := Option.some.inj (he.symm.trans hy)
  refine (Action.ends_self _ _ _).mono (fun accepted c w₁ hc => ?_) (fun err c w₁ hc => ?_)
  · rw [Action.ends_bind, Action.ends_update, Action.ends_bind]
    refine hook_ends fun answer desk w₂ _ => ?_
    split
    · rw [Action.ends_bind, Action.ends_attempt]
      refine enroll_ends.mono (fun _ r' _ h => ?_) (fun _ r' _ h => ?_)
      · obtain ⟨-, c', -, rfl⟩ := h
        refine ⟨accepted, c, w₁, hc, ?_⟩
        split
        · exact List.subset_append_left _ _
        · exact List.Subset.refl _
      · obtain ⟨rfl, -⟩ := h
        exact ⟨accepted, c, w₁, hc, List.Subset.refl _⟩
    · exact ⟨accepted, c, w₁, hc, List.Subset.refl _⟩
  · exact ⟨c, hc, rfl⟩

theorem put_mem (he : (r.entries .listener)[index]? = some e) (c : Channel τ α β) :
    { e with channel := c } ∈ (r.put .listener index c).listeners :=
  List.mem_iff_getElem?.mpr ⟨index, entry_put he c⟩

/-- Of distinct ids, that of an entry is missing without the entry. -/
theorem without_id (he : (r.entries .listener)[index]? = some e) (hids : (r.ids .listener).Nodup) :
    ∀ x ∈ (r.without .listener index).listeners, x.id ≠ e.id := by
  intro x hx hid
  have hcount := count_eraseIdx (id_at he) e.id
  have hle := List.nodup_iff_count.mp hids e.id
  have hmem : e.id ∈ (r.without .listener index).ids .listener :=
    hid ▸ List.mem_map_of_mem hx
  rw [ids_without, if_pos rfl] at hmem
  have hpos := List.count_pos_iff.mpr hmem
  rw [if_pos rfl] at hcount
  omega

/-- An open listener that is served is let go just when it fails its part of the connection. -/
theorem serve_ends_iff (he : (r.entries .listener)[index]? = some e)
    (hl : e.channel.listener? = some l) (hopen : l.IsOpen) (hids : (r.ids .listener).Nodup)
    {ready : Readiness} (hready : ready.readable = true) :
    (dispatchReads [(⟨.listener, index, e.id⟩, ready)] :
      Action ω ChannelError (Reactor η (Channel τ α β)) Nat).Ends r w
      (fun _ r' _ => (∀ x ∈ r'.listeners, x.id ≠ e.id) ↔ l.Fails w) (fun _ _ _ => False) := by
  have hlocate : locate ⟨.listener, index, e.id⟩ r = some index := by simp [locate, he]
  rw [dispatchReads, hready]
  simp only [Bool.not_true, Bool.false_eq_true, if_false]
  rw [Action.ends_bind, Action.ends_subject, hlocate]
  dsimp only
  rw [Action.ends_bind, Action.ends_attempt]
  refine (acceptFrom_listeners he).mono (fun _ r' w' h => ?_) (fun err r' w' h => ?_)
  · obtain ⟨accepted, c, w₁, hc, hsub⟩ := h
    obtain ⟨l', -, -, -, hfails⟩ := (Channel.accept_ends hl).done hc
    refine ⟨fun hgone => (hgone _ (hsub (put_mem he c)) rfl).elim, fun h => absurd h hfails⟩
  · obtain ⟨c, hc, rfl⟩ := h
    obtain ⟨l', -, ⟨hshut, -⟩ | ⟨-, ⟨hpass, -, hfails⟩ | ⟨hfinal, hfails⟩⟩⟩ :=
      (Channel.accept_ends hl).refused hc
    · exact absurd hopen hshut
    · dsimp only
      rw [hpass]
      refine ⟨fun hgone => (hgone _ (put_mem he c) rfl).elim, fun h => absurd h hfails⟩
    · dsimp only
      rw [hfinal]
      dsimp only
      rw [Action.ends_bind]
      refine (evict_spec (entry_put he c)).mono (fun _ r' w₂ h => ?_) (fun _ _ _ h => h)
      obtain ⟨c₂, w₁, desk, -, -, rfl⟩ := h
      rw [without_put]
      exact ⟨fun _ => hfails.imp id And.left, fun _ => without_id he hids⟩

/-- A registered listener, under any layers, that is missing after an iteration was not open, was
blamed, or failed its part in an accept of its own. One that is open and is served is let go just
when it fails its part: when its own acceptor fails with a fatal error or when the transport that it
accepted cannot be set to wait. Nothing but a close and a fatal error of its own acceptor makes an
active listener inactive. -/
theorem listener_lost (he : (r.entries .listener)[index]? = some e)
    (hl : e.channel.listener? = some l) :
    runOnce.Ends r w
      (fun _ r' w' => (∀ x ∈ r'.listeners, x.id ≠ e.id) → Loss e.id l (r, w) (r', w'))
      (fun _ r' w' => (∀ x ∈ r'.listeners, x.id ≠ e.id) → Loss e.id l (r, w) (r', w')) ∧
    (l.IsOpen → (r.ids .listener).Nodup → ∀ ready : Readiness, ready.readable = true →
      (dispatchReads [(⟨.listener, index, e.id⟩, ready)] : Action ω ChannelError _ Nat).Ends r w
        (fun _ r' _ => (∀ x ∈ r'.listeners, x.id ≠ e.id) ↔ l.FailsAccept w ∨ l.FailsWrap w)
        (fun _ _ _ => False)) ∧
    (l.core.active = true →
      (∀ op : ChannelOp, op ≠ .close →
        op.perform.Ends e.channel w (fun _ c _ => c.Serves) (fun _ c _ => c.Serves)) ∧
      (ChannelOps.accept : Action ω ChannelError (Channel τ α β) _).Ends e.channel w
        (fun _ c _ => c.Serves) (fun _ c _ => c.Serves ∨ l.FailsAccept w)) := by
  have hlost {r' : Reactor η (Channel τ α β)} {w' : ω} (hm : Moves (r, w) (r', w'))
      (hgone : ∀ x ∈ r'.listeners, x.id ≠ e.id) : Loss e.id l (r, w) (r', w') := by
    rcases present_or_lost (List.mem_of_getElem? he) hl hm with ⟨l', -, x, hx, hid, -⟩ | hlost
    · exact absurd hid (hgone x hx)
    · exact hlost
  refine ⟨?_, fun hopen hids ready hready => serve_ends_iff he hl hopen hids hready,
    fun hactive => ⟨fun op hop => ?_, Channel.accept_serves hl hactive⟩⟩
  · exact (runOnce_keeps r w .refl).mono (fun _ _ _ hm => hlost hm) (fun _ _ _ hm => hlost hm)
  · exact Channel.perform_serves hop e.channel w ⟨l, hl, hactive⟩

end

/-- A listener whose only connection comes over a wire that cannot be set to wait. -/
def fussyListener : Listener Scenario.Gate where
  core := .new .nonblocking "gate"
  acceptor := some
    { name := "gate"
      descriptor := 9
      accepts :=
        [.connects { name := "wire", script.modeResults := [some (.bare .other)] } "peer"] }
  settings := {}
  policy := .plain

def fussyReactor :
    Reactor NoHooks (Channel Scenario.Wire Scenario.Gate (NoKind Scenario.Bench)) where
  serial := 1
  settings := {}
  hooks := {}
  listeners := [{ id := 1, channel := .listener fussyListener }]
  nextId := 2

/-- The poll finds the listener readable. -/
def readableBench : Scenario.Bench := { polls.ready := [(9, { input := true })] }

/-- One connection that cannot be made costs the listener its place. -/
theorem listener_lost_fussyListener :
    ∃ r' w', runOnce fussyReactor readableBench = .done 0 r' w' ∧
      (∀ x ∈ r'.listeners, x.id ≠ 1) ∧ fussyListener.IsOpen ∧
      Loss 1 fussyListener (fussyReactor, readableBench) (r', w') ∧
      (fussyListener.FailsAccept readableBench ∨ fussyListener.FailsWrap readableBench) := by
  have he : (fussyReactor.entries .listener)[0]? =
      some { id := 1, channel := .listener fussyListener } := rfl
  have hopen : fussyListener.IsOpen := ⟨rfl, _, rfl⟩
  obtain ⟨hlost, hserved, -⟩ := listener_lost (w := readableBench) he rfl
  have hrun : (runOnce fussyReactor readableBench).any
      (fun n r _ => n == 0 && r.listeners.isEmpty) = true := by
    decide +kernel
  have hserve : ((dispatchReads [(⟨.listener, 0, 1⟩, { readable := true })] :
      Action Scenario.Bench ChannelError _ Nat) fussyReactor readableBench).any
      (fun _ r _ => r.listeners.isEmpty) = true := by
    decide +kernel
  simp only [Outcome.any_eq_true, Bool.and_eq_true, beq_iff_eq, List.isEmpty_iff] at hrun hserve
  obtain ⟨n, r', w', hx, rfl, hempty⟩ := hrun
  obtain ⟨m, r'', w'', hy, hserve⟩ := hserve
  have hgone : ∀ x ∈ r'.listeners, x.id ≠ 1 := by simp [hempty]
  exact ⟨r', w', hx, hgone, hopen, hlost.done hx hgone,
    ((hserved hopen (by decide) _ rfl).done hy).mp (by simp [hserve])⟩

end ChannelReactor.Reactor
