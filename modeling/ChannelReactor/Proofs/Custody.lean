import Mathlib.Data.List.InsertIdx
import Mathlib.Data.List.Perm.Basic
import ChannelReactor.Proofs.ReactorMoves
import ChannelReactor.Proofs.Watched

/-! # The custody of channels

A channel under an id is registered, or was given back, or its end was told: one of these, once.
That is true at the beginning and every move keeps it, so it is true after every operation and
every iteration. -/
namespace ChannelReactor.Reactor

variable {ω η χ α : Type}

def ids (side : Side) (r : Reactor η χ) : List ChannelId := (r.entries side).map (·.id)

section

variable {r : Reactor η χ} {side : Side} {index : Nat}

theorem ids_put (c : χ) (side' : Side) : (r.put side index c).ids side' = r.ids side' := by
  have hm (entries : List (Entry χ)) :
      (entries.modify index fun e => { e with channel := c }).map (·.id) =
        entries.map (·.id) := by
    apply List.ext_getElem?
    intro k
    simp only [List.getElem?_map, List.getElem?_modify]
    split <;> simp [Option.map_map, Function.comp_def]
  cases side <;> cases side' <;> simp [ids, put, mapEntries, entries, hm]

theorem count_eraseIdx {ids : List ChannelId} {index : Nat} {a : ChannelId}
    (h : ids[index]? = some a) (id : ChannelId) :
    (ids.eraseIdx index).count id + (if a = id then 1 else 0) = ids.count id := by
  obtain ⟨hlt, rfl⟩ := List.getElem?_eq_some_iff.mp h
  rw [← (List.getElem_cons_eraseIdx_perm hlt).count_eq id, List.count_cons]
  simp

theorem id_at {e : Entry χ} (he : (r.entries side)[index]? = some e) :
    (r.ids side)[index]? = some e.id := by
  rw [ids, List.getElem?_map, he]
  rfl

theorem ids_without (side' : Side) :
    (r.without side index).ids side' =
      if side' = side then (r.ids side').eraseIdx index else r.ids side' := by
  cases side <;> cases side' <;>
    simp [ids, without, mapEntries, entries, List.eraseIdx_map]

/-- Without an entry, its id is missing where it was. -/
theorem count_without {e : Entry χ} (he : (r.entries side)[index]? = some e) (id : ChannelId) :
    ((r.without side index).ids .listener).count id +
        ((r.without side index).ids .client).count id + (if e.id = id then 1 else 0) =
      (r.ids .listener).count id + (r.ids .client).count id := by
  have hcount := count_eraseIdx (id_at he) id
  cases side with
  | listener =>
    rw [ids_without, ids_without, if_pos rfl, if_neg (by decide)]
    omega
  | client =>
    rw [ids_without, ids_without, if_pos rfl, if_neg (by decide)]
    omega

end

/-- The ends of channels that the application was told of, the oldest first. -/
def closures (r : Reactor (Watched η χ) χ) : List (ChannelId × CloseReason) :=
  r.hooks.calls.filterMap HookCall.closure?

/-- What is true of a reactor whose owner was given some ids and got back the channels under
some. -/
structure Accounted (issued returned : List ChannelId) (r : Reactor (Watched η χ) χ) : Prop where
  next : 0 < r.nextId
  issued : ∀ id ∈ issued, 0 < id ∧ id < r.nextId
  /-- An id that was given out is in one place, once; no other id is anywhere. -/
  placed : ∀ id, (r.ids .listener).count id + (r.ids .client).count id + returned.count id +
    (r.closures.map (·.1)).count id = if 0 < id ∧ id < r.nextId then 1 else 0
  evicted : r.stats.evicted = r.closures.countP (·.2 != .shutdown)
  expired : r.stats.expired = r.closures.countP (·.2 == .expired)

/-- An id that is registered nowhere, was not given back, and whose end was not told. -/
structure Nowhere (returned : List ChannelId) (r : Reactor (Watched η χ) χ) (id : ChannelId) :
    Prop where
  listeners : id ∉ r.ids .listener
  clients : id ∉ r.ids .client
  returned : id ∉ returned
  closures : id ∉ r.closures.map (·.1)

/-- The second reactor is the first after the application was told of some ends. -/
structure Told (r r' : Reactor (Watched η χ) χ) (more : List (ChannelId × CloseReason)) :
    Prop where
  ids : ∀ side, r'.ids side = r.ids side
  next : r'.nextId = r.nextId
  evicted : r'.stats.evicted = r.stats.evicted
  expired : r'.stats.expired = r.stats.expired
  closures : r'.closures = r.closures ++ more

section

variable {r r₁ r₂ : Reactor (Watched η χ) χ} {side : Side} {index : Nat}
variable {more more' : List (ChannelId × CloseReason)} {issued returned : List ChannelId}

theorem Told.refl (r : Reactor (Watched η χ) χ) : Told r r [] :=
  ⟨fun _ => rfl, rfl, rfl, rfl, by simp⟩

theorem Told.trans (h : Told r r₁ more) (h' : Told r₁ r₂ more') : Told r r₂ (more ++ more') :=
  ⟨fun side => (h'.ids side).trans (h.ids side), h'.next.trans h.next,
    h'.evicted.trans h.evicted, h'.expired.trans h.expired, by
    rw [h'.closures, h.closures, List.append_assoc]⟩

theorem Told.withDesk {desk : Desk (Watched η χ) χ} {call : HookCall χ}
    (h : desk.hooks.calls = r.hooks.calls ++ [call]) :
    Told r (r.withDesk desk) call.closure?.toList := by
  refine ⟨fun side => by rw [Reactor.ids, entries_withDesk]; rfl, rfl, rfl, rfl, ?_⟩
  change desk.hooks.calls.filterMap _ = _
  rw [h, List.filterMap_append]
  cases hc : call.closure? <;> simp [Reactor.closures, hc]

theorem Told.put (c : χ) : Told r (r.put side index c) [] := by
  refine ⟨ids_put c, ?_, by rw [stats_put], by rw [stats_put], ?_⟩
  · cases side <;> rfl
  · cases side <;> simp [Reactor.closures, Reactor.put, mapEntries]

theorem Told.count {f : ReactorStats → ReactorStats}
    (he : (f r.stats).evicted = r.stats.evicted) (hx : (f r.stats).expired = r.stats.expired) :
    Told r (r.count f) [] := by
  refine ⟨fun side => ?_, rfl, he, hx, ?_⟩
  · rw [Reactor.ids, entries_count]
    rfl
  · rw [List.append_nil]
    rfl

theorem Told.mailbox (m : Mailbox χ) : Told r { r with mailbox := m } [] :=
  ⟨fun side => by cases side <;> rfl, rfl, rfl, rfl, by simp [Reactor.closures]⟩

theorem Told.adjust (hooks : η) : Told r { r with hooks := { r.hooks with hooks } } [] :=
  ⟨fun side => by cases side <;> rfl, rfl, rfl, rfl, by simp [Reactor.closures]⟩

theorem Accounted.told (h : Accounted issued returned r) (ht : Told r r₁ []) :
    Accounted issued returned r₁ := by
  have hc : r₁.closures = r.closures := by rw [ht.closures, List.append_nil]
  refine ⟨by rw [ht.next]; exact h.next, by rw [ht.next]; exact h.issued, fun id => ?_, ?_, ?_⟩
  · rw [ht.ids, ht.ids, hc, ht.next]
    exact h.placed id
  · rw [ht.evicted, hc]
    exact h.evicted
  · rw [ht.expired, hc]
    exact h.expired

theorem Accounted.fewer {issued' : List ChannelId} (h : Accounted issued returned r)
    (hsub : issued' ⊆ issued) : Accounted issued' returned r :=
  { h with issued := fun id hid => h.issued id (hsub hid) }

theorem Accounted.placed_le (h : Accounted issued returned r) (id : ChannelId) :
    (r.ids .listener).count id + (r.ids .client).count id + returned.count id +
      (r.closures.map (·.1)).count id ≤ 1 := by
  rw [h.placed]
  split <;> omega

/-- The id of an entry is nowhere else. -/
theorem Accounted.entry {e : Entry χ} (h : Accounted issued returned r)
    (he : (r.entries side)[index]? = some e) :
    Nowhere returned (r.without side index) e.id := by
  have hplaced := h.placed_le e.id
  have hcount := count_without he e.id
  have hclosures : (r.without side index).closures = r.closures := by cases side <;> rfl
  rw [if_pos rfl] at hcount
  refine ⟨?_, ?_, ?_, ?_⟩
  · rw [← List.count_eq_zero]
    omega
  · rw [← List.count_eq_zero]
    omega
  · rw [← List.count_eq_zero]
    omega
  · rw [hclosures, ← List.count_eq_zero]
    omega

/-- An entry that goes is given back or told of. -/
theorem Accounted.removed {e : Entry χ} (h : Accounted issued returned r)
    (he : (r.entries side)[index]? = some e) {returned' : List ChannelId}
    {r' : Reactor (Watched η χ) χ} (hids : ∀ side', r'.ids side' = (r.without side index).ids side')
    (hnext : r'.nextId = r.nextId)
    (hplace : ∀ id, returned'.count id + (r'.closures.map (·.1)).count id =
      returned.count id + (r.closures.map (·.1)).count id + if e.id = id then 1 else 0)
    (hevicted : r'.stats.evicted = r'.closures.countP (·.2 != .shutdown))
    (hexpired : r'.stats.expired = r'.closures.countP (·.2 == .expired)) :
    Accounted issued returned' r' := by
  refine ⟨by rw [hnext]; exact h.next, by rw [hnext]; exact h.issued, fun id => ?_, hevicted,
    hexpired⟩
  have hplaced := h.placed id
  have hcount := count_without he id
  have hplace := hplace id
  rw [hids, hids, hnext]
  omega

/-- The next number is the only new one. -/
theorem given_succ {next id places : Nat} (hnext : 0 < next)
    (h : places = if 0 < id ∧ id < next then 1 else 0) :
    places + (if next = id then 1 else 0) = if 0 < id ∧ id < next + 1 then 1 else 0 := by
  split at h <;> split <;> split <;> omega

theorem Accounted.enrolled (h : Accounted issued returned r) (c : χ) :
    Accounted (issued ++ [r.nextId]) returned (r.enrolled side c) := by
  have hids (id : ChannelId) :
      ((r.enrolled side c).ids .listener).count id + ((r.enrolled side c).ids .client).count id =
        (r.ids .listener).count id + (r.ids .client).count id +
          if r.nextId = id then 1 else 0 := by
    cases side with
    | listener =>
      simp only [ids, Reactor.enrolled, mapEntries, entries, List.map_append, List.map_cons,
        List.map_nil, List.count_append, List.count_singleton, beq_iff_eq]
      omega
    | client =>
      simp only [ids, Reactor.enrolled, mapEntries, entries, List.map_append, List.map_cons,
        List.map_nil, List.count_append, List.count_singleton, beq_iff_eq]
      omega
  have hclosures : (r.enrolled side c).closures = r.closures := by cases side <;> rfl
  have hstats : (r.enrolled side c).stats = r.stats := by cases side <;> rfl
  refine ⟨Nat.succ_pos _, fun id hid => ?_, fun id => ?_, ?_, ?_⟩
  · rw [List.mem_append, List.mem_singleton] at hid
    obtain hid | rfl := hid
    · obtain ⟨hpos, hlt⟩ := h.issued id hid
      exact ⟨hpos, Nat.lt_succ_of_lt hlt⟩
    · exact ⟨h.next, Nat.lt_succ_self _⟩
  · have hsucc := given_succ h.next (h.placed id)
    have hids := hids id
    rw [hclosures]
    refine Eq.trans ?_ hsucc
    omega
  · rw [hstats, hclosures]
    exact h.evicted
  · rw [hstats, hclosures]
    exact h.expired

/-- A hook that does not tell of an end. -/
theorem Accounted.informed {desk : Desk (Watched η χ) χ} {call : HookCall χ}
    (h : Accounted issued returned r) (ht : Told r r₁ []) (hh : r₁.hooks = r.hooks)
    (hcalls : desk.hooks.calls = r.hooks.calls ++ [call]) (hcall : call.closure? = none) :
    Accounted issued returned (r₁.withDesk desk) := by
  have htold : Told r₁ (r₁.withDesk desk) call.closure?.toList :=
    .withDesk (by rw [hh]; exact hcalls)
  rw [hcall] at htold
  exact (h.told ht).told htold

/-- An eviction, told of when the entry is already gone, keeps account. -/
theorem Accounted.evicted_told {e : Entry χ} {c : χ} {reason : CloseReason}
    {desk : Desk (Watched η χ) χ} (h : Accounted issued returned r)
    (he : (r.entries side)[index]? = some e) (hreason : reason ≠ .shutdown)
    (hcalls : desk.hooks.calls = r.hooks.calls ++ [.closed e.id c reason]) :
    Accounted issued returned
      (((r.without side index).count (·.addEvicted (reason == .expired))).withDesk desk) := by
  have hclosures : (((r.without side index).count
      (·.addEvicted (reason == .expired))).withDesk desk).closures =
      r.closures ++ [(e.id, reason)] := by
    change desk.hooks.calls.filterMap _ = _
    rw [hcalls, List.filterMap_append]
    rfl
  have hstats : (r.without side index).stats = r.stats := by cases side <;> rfl
  refine h.removed he (fun side' => ?_) (by cases side <;> rfl) (fun id => ?_) ?_ ?_
  · rw [ids, entries_withDesk, entries_count]
    rfl
  · rw [hclosures, List.map_append, List.count_append, List.map_singleton, List.count_singleton]
    simp only [beq_iff_eq]
    omega
  · change (r.without side index).stats.evicted + 1 = _
    rw [hclosures, List.countP_append, hstats, h.evicted]
    simp [hreason]
  · change (if reason == .expired then (r.without side index).stats.expired + 1
      else (r.without side index).stats.expired) = _
    rw [hclosures, List.countP_append, hstats, h.expired]
    by_cases hx : reason = .expired <;> simp [hx]

section

variable [ChannelOps ω χ]

theorem Fault.ne_shutdown {c c' : χ} {w w' : ω} {reason : CloseReason}
    (h : Fault side c w reason c' w') : reason ≠ .shutdown := by
  have hcallback {e : ChannelError} (he : CloseReason.ofError? e = some reason) :
      reason ≠ .shutdown := by
    rintro rfl
    cases e <;> simp [CloseReason.ofError?] at he
  cases h with
  | expired _ => simp
  | lost _ => simp
  | write h | read h | accept h =>
    obtain ⟨e, he, -⟩ := h
    exact hcallback he

variable [Machine ω] [Hooks ω η χ]

theorem Accounted.move {w w' : ω} (h : Accounted issued returned r) (hm : Move (r, w) (r₁, w')) :
    Accounted issued returned r₁ := by
  cases hm with
  | elapse _ | reject _ => exact h
  | tick hh => exact h.informed (.count rfl rfl) rfl (Watched.noting_done hh) rfl
  | fetch _ => exact h.told ((Told.mailbox _).trans (.count rfl rfl))
  | enroll side _ => exact (h.enrolled _).fewer (List.subset_append_left _ _)
  | write _ _ hh => exact h.informed (.put _) (hooks_put _) (Watched.noting_done hh) rfl
  | read _ _ hh => exact h.informed (.put _) (hooks_put _) (Watched.noting_done hh) rfl
  | accept _ _ hh =>
    exact h.informed ((Told.put _).trans (.count rfl rfl)) (hooks_put _)
      (Watched.noting_done hh) rfl
  | discard => exact h.told (.count rfl rfl)
  | defer _ _ => exact h.told (.put _)
  | pollFailed => exact h.told (.count rfl rfl)
  | blame he _ _ hh =>
    have hcounted := h.told (.count (f := (·.addPollFailure)) rfl rfl)
    exact hcounted.evicted_told (by rwa [entries_count]) (by decide) (Watched.noting_done hh)
  | evict he hf _ hh => exact h.evicted_told he hf.ne_shutdown (Watched.noting_done hh)

theorem Accounted.moves {w w' : ω} (h : Accounted issued returned r) (hm : Moves (r, w) (r₁, w')) :
    Accounted issued returned r₁ := by
  have hall (p : Reactor (Watched η χ) χ × ω) (hp : Moves (r, w) p) :
      Accounted issued returned p.1 := by
    induction hp with
    | refl => exact h
    | tail _ hstep ih => exact ih.move hstep
  exact hall _ hm

end

/-- When a reactor has let a channel go, and before it tells the application, the id is nowhere. -/
theorem Accounted.letGo [ChannelOps ω χ] {w : ω} {reason : CloseReason}
    (h : Accounted issued returned r) {ε : Type} :
    (letGo side index reason : Action ω ε (Reactor (Watched η χ) χ) (Entry χ)).Ends r w
      (fun e r' _ => Nowhere returned r' e.id) (fun _ _ _ => False) := by
  cases he : (r.entries side)[index]? with
  | none =>
    rw [Reactor.letGo, Action.ends_bind, entryAt_ends]
    intro e he'
    rw [he] at he'
    cases he'
  | some e =>
    refine (letGo_ends he).mono (fun x r' w' hx => ?_) (fun _ _ _ hx => hx)
    obtain ⟨c, -, rfl, rfl⟩ := hx
    obtain ⟨hl, hc, hr, ht⟩ := h.entry he
    refine ⟨?_, ?_, hr, ht⟩
    · rwa [ids, entries_count]
    · rwa [ids, entries_count]

end

end ChannelReactor.Reactor
