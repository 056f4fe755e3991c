import Mathlib.Data.List.Nodup
import ChannelReactor.Proofs.Turns

/-! # Visits

A visit is one callback of an iteration, with the hook that follows it when it is done, and with the
eviction that follows it when it fails for good. The two dispatches of an iteration are visits to
channels under their ids: wherever a slot says that a channel stood, the visit is to the channel of
the slot's id. -/
namespace ChannelReactor

variable {ω ε η χ α β : Type}

/-- A program may be continued differently where the continuations agree. -/
theorem Action.Ends.bind_congr {σ : Type} {x : Action ω ε σ α} {f g : α → Action ω ε σ β} {s : σ}
    {w : ω} {R : ε → σ → ω → Prop} (h : x.Ends s w (fun a s' w' => f a s' w' = g a s' w') R) :
    (x >>= f) s w = (x >>= g) s w := by
  unfold Action.Ends at h
  rw [Action.bind_apply, Action.bind_apply]
  cases hx : x s w with
  | done a s' w' =>
    rw [hx] at h
    exact h
  | refused e s' w' => rfl
  | halted h w' => rfl

theorem Action.subject_bind {σ : Type} (f : σ → Action ω ε σ α) (s : σ) (w : ω) :
    (subject >>= f) s w = f s s w := rfl

theorem Action.bind_congr_left {σ : Type} {x y : Action ω ε σ α} {s : σ} {w : ω}
    (h : x s w = y s w) (f : α → Action ω ε σ β) : (x >>= f) s w = (y >>= f) s w := by
  rw [bind_apply, bind_apply, h]

theorem Action.attempt_bind {σ ε' : Type} (x : Action ω ε σ α) (f : α → Action ω ε σ β) :
    (attempt (x >>= f) : Action ω ε' σ (Except ε β)) =
      attempt x >>= fun
        | .ok a => attempt (f a)
        | .error e => pure (.error e) := by
  funext s w
  simp only [attempt, bind_apply]
  cases x s w <;> rfl

/-- The callbacks on channels that are ready. -/
inductive Callback where
  | write
  | accept
  | read
deriving DecidableEq

def Callback.side : Callback → Side
  | accept => .listener
  | write | read => .client

/-- The callback on what is readable. -/
def Side.reading : Side → Callback
  | listener => .accept
  | client => .read

theorem Side.reading_side (side : Side) : side.reading.side = side := by cases side <;> rfl

/-- A callback that is due on the channel of an id. -/
structure Due where
  callback : Callback
  id : ChannelId
deriving DecidableEq

/-- A callback that was made, with its answer. -/
structure Visit where
  due : Due
  answer : Except ChannelError Unit

namespace Visit

def succeeded (v : Visit) : Bool := v.answer.isOk

/-- The end of the channel, if its callback said that it is closed or that it failed. -/
def closure? (v : Visit) : Option (ChannelId × CloseReason) :=
  match v.answer with
  | .error .closed => some (v.due.id, .closed)
  | .error (.failed _) => some (v.due.id, .failed)
  | _ => none

theorem closure?_ok {due : Due} : (Visit.mk due (.ok ())).closure? = none := rfl

theorem closure?_error {due : Due} {e : ChannelError} :
    (Visit.mk due (.error e)).closure? = (CloseReason.ofError? e).map (due.id, ·) := by
  cases e <;> rfl

end Visit

/-- The visits make all callbacks that are due in their order, up to the first that fails for
good. -/
inductive Served : List Due → List Visit → Prop
  | nil : Served [] []
  | more {v : Visit} {due : List Due} {visits : List Visit} (hv : v.closure? = none)
    (h : Served due visits) : Served (v.due :: due) (v :: visits)
  | last {v : Visit} {due : List Due} (hv : v.closure? ≠ none) : Served (v.due :: due) [v]

namespace Served

variable {due : List Due} {visits : List Visit}

theorem dues_prefix (h : Served due visits) : visits.map (·.due) <+: due := by
  induction h with
  | nil => exact List.prefix_rfl
  | more _ _ ih => exact (List.cons_prefix_cons).mpr ⟨rfl, ih⟩
  | last _ => exact (List.cons_prefix_cons).mpr ⟨rfl, List.nil_prefix⟩

end Served

namespace Reactor

/-- A hook about a client is not refused. -/
theorem attempt_tell {ε' : Type} {index : Nat} {f : ChannelId → χ → Action ω Empty (Desk η χ) χ} :
    (Action.attempt (tell index f : Action ω ε (Reactor η χ) Unit) : Action ω ε' _ _) =
      tell index f >>= fun () => pure (.ok ()) := by
  funext r w
  simp only [Action.attempt, tell, entryAt, Action.bind_apply, Action.subject_apply]
  cases (r.entries .client)[index]? with
  | none => rfl
  | some e =>
    simp only [Action.pure_apply, hook, Action.focus, Action.sure, Action.mapReason]
    cases f e.id e.channel r.desk w with
    | refused e _ _ => exact e.elim
    | done _ _ _ | halted _ _ => rfl

section

variable [ChannelOps ω χ] [Hooks ω η χ] {index : Nat}

/-- A callback on the channel at a place, and the hook that is told when it is done. -/
def call (callback : Callback) (index : Nat) : Action ω ChannelError (Reactor η χ) Unit :=
  match callback with
  | .write => do
    onChannel .client index ChannelOps.onWrite
    tell index Hooks.onWritable
  | .accept => acceptFrom index
  | .read => readFrom index

/-- Lets the channel at a place go when its callback failed for good. -/
def settle (index : Nat) (v : Visit) : Action ω ε (Reactor η χ) Visit :=
  match v.closure? with
  | some (_, reason) => do
    evict v.due.callback.side index reason
    pure v
  | none => pure v

/-- Makes a callback on the channel at a place. -/
def visit (due : Due) (index : Nat) : Action ω ε (Reactor η χ) Visit := do
  settle index { due, answer := ← Action.attempt (call due.callback index) }

/-- Makes the callbacks that are due on channels that are still registered, up to the first that
fails for good. -/
def attend : List Due → Action ω ε (Reactor η χ) (List Visit)
  | [] => pure []
  | due :: rest => do
    match placeOf? due.id ((← Action.subject).entries due.callback.side) with
    | none => attend rest
    | some index =>
      let v ← visit due index
      if v.closure?.isSome then pure [v] else return v :: (← attend rest)

theorem attempt_write (k : Except ChannelError Unit → Action ω ε (Reactor η χ) α) :
    (Action.attempt (call .write index) >>= k) =
      Action.attempt (onChannel .client index ChannelOps.onWrite) >>= fun
        | .ok () => tell index Hooks.onWritable >>= fun () => k (.ok ())
        | .error e => k (.error e) := by
  rw [call, Action.attempt_bind, bind_assoc]
  refine congrArg _ (funext fun answer => ?_)
  cases answer with
  | ok a =>
    rw [attempt_tell, bind_assoc]
    rfl
  | error e => rfl

theorem attend_absent {r : Reactor η χ} {w : ω} {due : Due} {rest : List Due}
    (h : placeOf? due.id (r.entries due.callback.side) = none) :
    (attend (due :: rest) : Action ω ε (Reactor η χ) _) r w = attend rest r w := by
  rw [attend, Action.subject_bind, h]

theorem attend_present {r : Reactor η χ} {w : ω} {due : Due} {rest : List Due}
    (h : placeOf? due.id (r.entries due.callback.side) = some index) :
    (attend (due :: rest) : Action ω ε (Reactor η χ) _) r w =
      (visit due index >>= fun v => if v.closure?.isSome then pure [v]
        else attend rest >>= fun visits => pure (v :: visits)) r w := by
  rw [attend, Action.subject_bind, h]

theorem placeOf?_eq_none {id : ChannelId} {entries : List (Entry χ)} :
    placeOf? id entries = none ↔ id ∉ entries.map (·.id) := by
  rw [placeOf?, List.findIdx?_eq_none_iff, List.mem_map]
  constructor
  · rintro h ⟨e, he, rfl⟩
    simpa using h e he
  · intro h e he
    exact beq_eq_false_iff_ne.mpr fun hid => h ⟨e, he, hid⟩

/-- An id that stands nowhere else is found where it stands. -/
theorem placeOf?_of_nodup {entries : List (Entry χ)} {k : Nat} {e : Entry χ}
    (hnodup : (entries.map (·.id)).Nodup) (he : entries[k]? = some e) :
    placeOf? e.id entries = some k := by
  obtain ⟨hk, rfl⟩ := List.getElem?_eq_some_iff.mp he
  have hpairs : entries.Pairwise fun a b => a.id ≠ b.id := List.pairwise_map.mp hnodup
  rw [placeOf?, List.findIdx?_eq_some_iff_getElem]
  refine ⟨hk, beq_self_eq_true _, fun j hj hid => ?_⟩
  exact List.pairwise_iff_getElem.mp hpairs j k (Nat.lt_trans hj hk) hk hj (eq_of_beq hid)

/-- Whether the place of a slot is still right or not, what is located is the slot's id. -/
theorem locate_eq (slot : Slot) {r : Reactor η χ} (h : r.Ordered) :
    locate slot r = placeOf? slot.id (r.entries slot.side) := by
  have hnodup : ((r.entries slot.side).map (·.id)).Nodup :=
    (h.increasing slot.side).imp Nat.ne_of_lt
  unfold locate
  split
  · rename_i e he
    split
    · rename_i hid
      rw [← hid, placeOf?_of_nodup hnodup he]
    · rfl
  · rfl

/-- A client that refuses to read for now, without a change, is passed over. -/
theorem dispatchReads_unread {r : Reactor η χ} {w : ω} {e : Entry χ} {err : ChannelError}
    {slot : Slot} {ready : Readiness} {rest : List (Slot × Readiness)} (hr : r.Ordered)
    (he : e ∈ r.clients) (hread : ChannelOps.onRead e.channel w = .refused err e.channel w)
    (hpasses : CloseReason.ofError? err = none) (hside : slot.side = .client)
    (hid : slot.id = e.id) :
    (dispatchReads ((slot, ready) :: rest) : Action ω ε (Reactor η χ) Nat) r w =
      dispatchReads rest r w := by
  rw [dispatchReads]
  by_cases hready : ready.readable = true
  · obtain ⟨index, hindex⟩ := List.mem_iff_getElem?.mp he
    have hplace : locate slot r = some index := by
      rw [locate_eq slot hr, hside, hid]
      exact placeOf?_of_nodup ((hr.increasing .client).imp Nat.ne_of_lt) hindex
    have hself : r.put .client index e.channel = r := put_self hindex
    have hserved : (readFrom index : Action ω ChannelError (Reactor η χ) Unit) r w =
        .refused err r w := by
      have hentry : (r.entries .client)[index]? = some e := hindex
      simp only [readFrom, Action.bind_apply, onChannel, hentry, hread, hself]
    rw [if_neg (by simp [hready]), Action.subject_bind, hplace]
    simp only [hside, Action.bind_apply, Action.attempt, hserved, hpasses]
  · rw [if_pos (by simpa using hready)]

end

/-! ## Dispatches are visits -/

def writesOf (reports : List (Slot × Readiness)) : List Due :=
  reports.filterMap fun (slot, ready) =>
    if slot.side = .client ∧ ready.writable = true then some ⟨.write, slot.id⟩ else none

def readsOf (reports : List (Slot × Readiness)) : List Due :=
  reports.filterMap fun (slot, ready) =>
    if ready.readable = true then some ⟨slot.side.reading, slot.id⟩ else none

section

variable {slot : Slot} {ready : Readiness} {rest : List (Slot × Readiness)}

theorem writesOf_cons_of_pos (h : slot.side = .client ∧ ready.writable = true) :
    writesOf ((slot, ready) :: rest) = ⟨.write, slot.id⟩ :: writesOf rest :=
  List.filterMap_cons_some (if_pos h)

theorem writesOf_cons_of_neg (h : ¬ (slot.side = .client ∧ ready.writable = true)) :
    writesOf ((slot, ready) :: rest) = writesOf rest :=
  List.filterMap_cons_none (if_neg h)

theorem readsOf_cons_of_pos (h : ready.readable = true) :
    readsOf ((slot, ready) :: rest) = ⟨slot.side.reading, slot.id⟩ :: readsOf rest :=
  List.filterMap_cons_some (if_pos h)

theorem readsOf_cons_of_neg (h : ¬ ready.readable = true) :
    readsOf ((slot, ready) :: rest) = readsOf rest :=
  List.filterMap_cons_none (if_neg h)

end

section

variable [Machine ω] [ChannelOps ω χ] [Hooks ω η χ] {r : Reactor η χ} {w : ω} {index : Nat}

/-- A callback that is refused leaves its channel in its place. -/
theorem call_moves {callback : Callback} {o : Reactor η χ × ω} (ho : Moves o (r, w)) :
    (call callback index).Ends r w (fun _ r' w' => Moves o (r', w'))
      (fun _ r' _ => ∃ c, r' = r.put callback.side index c) := by
  cases callback with
  | write =>
    rw [call, Action.ends_bind, onChannel_ends]
    intro e he
    refine (Action.ends_self _ _ _).mono (fun _ c₁ w₁ hc => ?_) (fun _ c₁ _ _ => ⟨c₁, rfl⟩)
    exact tell_ends he fun c₂ desk w₂ hh => ho.tail (.write he hc hh)
  | accept =>
    refine (acceptFrom_ends ho).mono (fun _ _ _ h => h) (fun err r' w' h => ?_)
    obtain ⟨e, c, -, -, rfl⟩ := h
    exact ⟨c, rfl⟩
  | read =>
    refine (readFrom_ends ho).mono (fun _ _ _ h => h) (fun err r' w' h => ?_)
    obtain ⟨e, c, -, -, rfl⟩ := h
    exact ⟨c, rfl⟩

theorem call_ordered {callback : Callback} (h : r.Ordered) :
    (call callback index).Ends r w (fun _ r' _ => r'.Ordered) (fun _ r' _ => r'.Ordered) := by
  refine (call_moves .refl).mono (fun _ _ _ hm => h.moves hm) (fun _ r' _ hr => ?_)
  obtain ⟨c, rfl⟩ := hr
  exact h.thins .put

/-- How a dispatch goes on after a callback: with the rest, unless the callback failed for good. -/
def goOn (side : Side) (index : Nat) (rest : Action ω ε (Reactor η χ) Nat) :
    Except ChannelError Unit → Action ω ε (Reactor η χ) Nat
  | .ok () => (· + 1) <$> rest
  | .error e =>
    match CloseReason.ofError? e with
    | some reason => do
      evict side index reason
      pure 0
    | none => rest

/-- What a dispatch does about a channel that is ready is a visit to it. -/
theorem visit_eq {due : Due} {rest : List Due} {x : Action ω ε (Reactor η χ) Nat}
    (hx : ∀ r w, r.Ordered → x r w = (List.countP Visit.succeeded <$> attend rest) r w)
    (hr : r.Ordered) :
    (Action.attempt (call due.callback index) >>= goOn due.callback.side index x) r w =
      ((visit due index >>= fun v => if v.closure?.isSome then pure [v]
        else attend rest >>= fun visits => pure (v :: visits)) >>=
          fun visits => pure (List.countP Visit.succeeded visits)) r w := by
  rw [visit, bind_assoc, bind_assoc]
  refine Action.Ends.bind_congr (R := fun _ _ _ => True) (Action.ends_attempt.mpr ?_)
  refine (call_ordered hr).mono (fun () r' w' h => ?_) (fun e r' w' h => ?_)
  · have hcount (visits : List Visit) :
        List.countP Visit.succeeded (⟨due, .ok ()⟩ :: visits) =
          List.countP Visit.succeeded visits + 1 :=
      List.countP_cons_of_pos rfl
    simp only [goOn, settle, Visit.closure?_ok, pure_bind, Option.isSome_none,
      Bool.false_eq_true, if_false, bind_assoc, hcount]
    rw [map_eq_pure_bind, Action.bind_congr_left (hx r' w' h), map_eq_pure_bind, bind_assoc]
    rfl
  · have hcount (visits : List Visit) :
        List.countP Visit.succeeded (⟨due, .error e⟩ :: visits) =
          List.countP Visit.succeeded visits :=
      List.countP_cons_of_neg (by simp [Visit.succeeded, Except.isOk, Except.toBool])
    simp only [goOn, settle, Visit.closure?_error]
    cases hreason : CloseReason.ofError? e with
    | some reason => simp [Visit.closure?_error, hreason, hcount]
    | none =>
      simp only [Visit.closure?_error, hreason, Option.map_none, pure_bind, Option.isSome_none,
        Bool.false_eq_true, if_false, bind_assoc, hcount]
      rw [hx r' w' h, map_eq_pure_bind]

/-- The first dispatch visits the clients that can send. -/
theorem dispatchWrites_eq :
    ∀ {reports : List (Slot × Readiness)} {r : Reactor η χ} {w : ω}, r.Ordered →
      (dispatchWrites reports : Action ω ε (Reactor η χ) Nat) r w =
        (List.countP Visit.succeeded <$> attend (writesOf reports)) r w
  | [], _, _, _ => rfl
  | (slot, ready) :: rest, r, w, h => by
    rw [dispatchWrites]
    by_cases hdue : slot.side = .client ∧ ready.writable = true
    · obtain ⟨hside, hready⟩ := hdue
      have hplace := locate_eq slot h
      rw [hside] at hplace
      rw [if_neg (by simp [hside, hready]), Action.subject_bind, hplace,
        writesOf_cons_of_pos ⟨hside, hready⟩, map_eq_pure_bind]
      cases hindex : placeOf? slot.id (r.entries .client) with
      | none =>
        rw [Action.bind_congr_left (attend_absent hindex), ← map_eq_pure_bind]
        exact dispatchWrites_eq h
      | some index =>
        rw [Action.bind_congr_left (attend_present hindex)]
        rw [← visit_eq (fun _ _ h => dispatchWrites_eq h) h, attempt_write]
        rfl
    · rw [writesOf_cons_of_neg hdue, if_pos]
      · exact dispatchWrites_eq h
      · cases hside : slot.side <;> simp_all

/-- The second dispatch visits the listeners and then the clients that have input. -/
theorem dispatchReads_eq :
    ∀ {reports : List (Slot × Readiness)} {r : Reactor η χ} {w : ω}, r.Ordered →
      (dispatchReads reports : Action ω ε (Reactor η χ) Nat) r w =
        (List.countP Visit.succeeded <$> attend (readsOf reports)) r w
  | [], _, _, _ => rfl
  | (slot, ready) :: rest, r, w, h => by
    rw [dispatchReads]
    by_cases hready : ready.readable = true
    · have hplace : locate slot r = placeOf? slot.id (r.entries slot.side.reading.side) := by
        rw [Side.reading_side]
        exact locate_eq slot h
      rw [if_neg (by simp [hready]), Action.subject_bind, hplace, readsOf_cons_of_pos hready,
        map_eq_pure_bind]
      cases hindex : placeOf? slot.id (r.entries slot.side.reading.side) with
      | none =>
        rw [Action.bind_congr_left (attend_absent hindex), ← map_eq_pure_bind]
        exact dispatchReads_eq h
      | some index =>
        rw [Action.bind_congr_left (attend_present hindex)]
        rw [← visit_eq (fun _ _ h => dispatchReads_eq h) h]
        cases slot.side <;> rfl
    · rw [readsOf_cons_of_neg hready, if_pos (by simpa using hready)]
      exact dispatchReads_eq h

end

/-! ## What visits leave -/

section

variable {index : Nat} {r r' r'' : Reactor (Watched η χ) χ}
variable {ended ended' : List (ChannelId × CloseReason)}

/-- The second reactor is the first after the ends of some channels: the others stand as they stood,
and what came behind them has new ids. -/
structure Sequel (ended : List (ChannelId × CloseReason)) (r r' : Reactor (Watched η χ) χ) :
    Prop where
  ids : ∀ side, ∃ new, (∀ id ∈ new, r.nextId ≤ id) ∧
    r'.ids side = (r.ids side).filter (fun id => id ∉ ended.map (·.1)) ++ new
  next : r.nextId ≤ r'.nextId
  closures : r'.closures = r.closures ++ ended

theorem Sequel.of_told (h : Told r r' []) : Sequel [] r r' :=
  ⟨fun side => ⟨[], by simp, by simp [h.ids side]⟩, Nat.le_of_eq h.next.symm, h.closures⟩

theorem Sequel.enrolled {side : Side} {c : χ} : Sequel [] r (r.enrolled side c) := by
  refine ⟨fun side' => ⟨if side' = side then [r.nextId] else [], fun id hid => ?_, ?_⟩,
    Nat.le_succ _, ?_⟩
  · split at hid
    · exact Nat.le_of_eq (List.mem_singleton.mp hid).symm
    · cases hid
  · simp [ids_enrolled]
  · cases side <;> simp [Reactor.closures, Reactor.enrolled, mapEntries]

theorem Sequel.trans (h : Sequel ended r r') (h' : Sequel ended' r' r'') :
    Sequel (ended ++ ended') r r'' := by
  refine ⟨fun side => ?_, Nat.le_trans h.next h'.next, ?_⟩
  · obtain ⟨new, hnew, hids⟩ := h.ids side
    obtain ⟨new', hnew', hids'⟩ := h'.ids side
    refine ⟨new.filter (fun id => id ∉ ended'.map (·.1)) ++ new', fun id hid => ?_, ?_⟩
    · rw [List.mem_append] at hid
      obtain hid | hid := hid
      · exact hnew id (List.mem_filter.mp hid).1
      · exact Nat.le_trans h.next (hnew' id hid)
    · rw [hids', hids, List.filter_append, List.filter_filter, List.append_assoc]
      congr 2
      funext id
      rw [Bool.eq_iff_iff]
      simp only [Bool.and_eq_true, decide_eq_true_eq, List.map_append, List.mem_append, not_or]
      exact and_comm
  · rw [h'.closures, h.closures, List.append_assoc]

/-- What was registered with an id from before is still, if its end did not come. -/
theorem Sequel.mem_ids (h : Sequel [] r r') {side : Side} {id : ChannelId} (hid : id < r.nextId) :
    id ∈ r'.ids side ↔ id ∈ r.ids side := by
  obtain ⟨new, hnew, hids⟩ := h.ids side
  rw [hids, List.mem_append]
  refine ⟨fun hmem => hmem.elim (fun hmem => (List.mem_filter.mp hmem).1) fun hmem => ?_,
    fun hmem => .inl (by simpa using hmem)⟩
  exact absurd hid (Nat.not_lt.mpr (hnew id hmem))

/-- An eviction takes its entry out of the list, and nothing else. -/
theorem Sequel.evicted {side : Side} {index : Nat} {e : Entry χ} {c : χ} {reason : CloseReason}
    {desk : Desk (Watched η χ) χ} (hr : r.Ordered) (he : (r.entries side)[index]? = some e)
    (hcalls : desk.hooks.calls = r.hooks.calls ++ [.closed e.id c reason]) :
    Sequel [(e.id, reason)] r
      (((r.without side index).count (·.addEvicted (reason == .expired))).withDesk desk) := by
  refine ⟨fun side' => ⟨[], by simp, ?_⟩, Nat.le_of_eq (by cases side <;> rfl), ?_⟩
  · rw [Reactor.ids, entries_withDesk, entries_count]
    change (r.without side index).ids side' = _
    rw [ids_without, List.append_nil]
    obtain ⟨hindex, hid⟩ := List.getElem?_eq_some_iff.mp (id_at he)
    by_cases hside : side' = side
    · subst hside
      rw [if_pos rfl, ← hid]
      have hnodup : (r.ids side').Nodup := (hr.increasing side').imp Nat.ne_of_lt
      rw [← hnodup.erase_getElem index hindex, hnodup.erase_eq_filter]
      refine List.filter_congr fun id _ => ?_
      simp [bne, BEq.beq, decide_not]
    · rw [if_neg hside, List.filter_eq_self.mpr]
      intro id hmem
      have hother : e.id ∉ r.ids side' := by
        have hself : e.id ∈ r.ids side := hid ▸ List.getElem_mem hindex
        cases side <;> cases side'
        · exact absurd rfl hside
        · exact hr.apart _ hself
        · exact fun h => hr.apart _ h hself
        · exact absurd rfl hside
      have hne : id ≠ e.id := fun h => hother (h ▸ hmem)
      simpa using hne
  · change desk.hooks.calls.filterMap _ = _
    rw [hcalls, List.filterMap_append]
    rfl

/-- A hook that does not tell of an end. -/
theorem Told.informed {desk : Desk (Watched η χ) χ} {call : HookCall χ} (h : Told r r' [])
    (hhooks : r'.hooks = r.hooks) (hcall : call.closure? = none)
    (hcalls : desk.hooks.calls = r.hooks.calls ++ [call]) : Told r (r'.withDesk desk) [] := by
  have htold : Told r' (r'.withDesk desk) call.closure?.toList :=
    .withDesk (by rw [hhooks]; exact hcalls)
  rw [hcall] at htold
  exact h.trans htold

variable [ChannelOps ω χ] [Hooks ω η χ]

/-- A callback leaves all entries in their places. When it is done, a channel may have come. -/
theorem call_ends {callback : Callback} {w : ω} :
    (call callback index).Ends r w (fun _ r' _ => Sequel [] r r')
      (fun _ r' _ => ∃ c, r' = r.put callback.side index c) := by
  cases callback with
  | write =>
    rw [call, Action.ends_bind, onChannel_ends]
    intro e he
    refine (Action.ends_self _ _ _).mono (fun _ c₁ w₁ _ => ?_) (fun _ c₁ _ _ => ⟨c₁, rfl⟩)
    refine tell_ends he fun c₂ desk w₂ hh => .of_told ?_
    exact (Told.put c₂).informed (hooks_put c₂) rfl (Watched.noting_done hh)
  | read =>
    rw [call, readFrom, Action.ends_bind, onChannel_ends]
    intro e he
    refine (Action.ends_self _ _ _).mono (fun _ c₁ w₁ _ => ?_) (fun _ c₁ _ _ => ⟨c₁, rfl⟩)
    refine tell_ends he fun c₂ desk w₂ hh => .of_told ?_
    exact (Told.put c₂).informed (hooks_put c₂) rfl (Watched.noting_done hh)
  | accept =>
    rw [call, acceptFrom, Action.ends_bind, entryAt_ends]
    intro listener _
    rw [Action.ends_bind, onChannel_ends]
    intro e _
    refine (Action.ends_self _ _ _).mono (fun accepted c₁ w₁ _ => ?_) (fun _ c₁ _ _ => ⟨c₁, rfl⟩)
    rw [Action.ends_bind, Action.ends_update, Action.ends_bind]
    refine hook_ends fun answer desk w₂ hh => ?_
    have htold : Told r (((r.put .listener index c₁).count (·.addAccepted)).withDesk desk) [] :=
      ((Told.put c₁).trans (.count rfl rfl)).informed (hooks_put c₁) rfl
        (by rw [desk_count, desk_put] at hh; exact Watched.noting_done hh)
    split
    · rw [Action.ends_bind, Action.ends_attempt]
      refine enroll_ends.mono (fun _ r' _ h => ?_) (fun _ r' _ h => ?_)
      · obtain ⟨-, c', -, rfl⟩ := h
        exact (Sequel.of_told htold).trans .enrolled
      · rw [Action.ends_pure, h.1]
        exact .of_told htold
    · exact .of_told (htold.trans (.count rfl rfl))

variable [Machine ω]

/-- A visit ends no channel but its own, and that only when its callback fails for good. -/
theorem visit_ends {due : Due} {w : ω} {R : ε → Reactor (Watched η χ) χ → ω → Prop}
    (hr : r.Ordered)
    (hplace : placeOf? due.id (r.entries due.callback.side) = some index) :
    (visit due index).Ends r w
      (fun v r' _ => v.due = due ∧ r'.Ordered ∧ Sequel v.closure?.toList r r') R := by
  obtain ⟨e, he, hid⟩ := placeOf?_eq_some hplace
  rw [visit, Action.ends_bind, Action.ends_attempt]
  refine .of_outcome (fun () r₁ w₁ hx => ?_) (fun err r₁ w₁ hx => ?_)
  · exact ⟨rfl, (call_ordered hr).done hx, call_ends.done hx⟩
  · obtain ⟨c, rfl⟩ := call_ends.refused hx
    have hput : Sequel [] r (r.put due.callback.side index c) := .of_told (.put c)
    have hordered : (r.put due.callback.side index c).Ordered := hr.thins .put
    rw [settle]
    split
    · rename_i id reason hclosure
      have hown : id = e.id := by
        rw [Visit.closure?_error, Option.map_eq_some_iff] at hclosure
        obtain ⟨_, -, heq⟩ := hclosure
        rw [hid, ← (Prod.mk.inj heq).1]
      rw [Action.ends_bind]
      refine (evict_spec (entry_put he c)).mono (fun _ r' w₂ h => ?_) (fun _ _ _ h => h)
      obtain ⟨c₂, w₁, desk, -, hh, rfl⟩ := h
      refine ⟨rfl, hordered.thins Thins.without.count.withDesk, ?_⟩
      rw [hclosure, hown]
      have hevicted := Sequel.evicted hordered (entry_put he c) (Watched.noting_done hh)
      exact hput.trans hevicted
    · rename_i hclosure
      refine ⟨rfl, hordered, ?_⟩
      rw [hclosure]
      exact hput

/-- A channel that a callback is due on is where the callback looks for it. -/
abbrev Holds (r : Reactor (Watched η χ) χ) (due : Due) : Prop := due.id ∈ r.ids due.callback.side

/-- The visits make the callbacks that are due on the channels that are registered when they begin,
and nothing ends but the channels whose callbacks failed for good. -/
theorem attend_ends :
    ∀ {due : List Due} {r : Reactor (Watched η χ) χ} {w : ω}
      {R : ε → Reactor (Watched η χ) χ → ω → Prop}, r.Ordered → (∀ d ∈ due, d.id < r.nextId) →
      (attend due).Ends r w
        (fun visits r' _ => r'.Ordered ∧ Served (due.filter (Holds r)) visits ∧
          Sequel (visits.filterMap Visit.closure?) r r') R
  | [], r, _, _, hr, _ => ⟨hr, .nil, .of_told (.refl r)⟩
  | due :: rest, r, w, R, hr, hold => by
    have hrest : ∀ d ∈ rest, d.id < r.nextId := fun d hd => hold d (List.mem_cons_of_mem _ hd)
    rw [attend, Action.ends_bind, Action.ends_subject]
    split
    · rename_i hplace
      have hgone : ¬ Holds r due := placeOf?_eq_none.mp hplace
      rw [List.filter_cons_of_neg (by simpa using hgone)]
      exact attend_ends hr hrest
    · rename_i index hplace
      have hhere : Holds r due := by
        obtain ⟨e, he, hid⟩ := placeOf?_eq_some hplace
        exact List.mem_map.mpr ⟨e, List.mem_of_getElem? he, hid⟩
      rw [List.filter_cons_of_pos (by simpa using hhere), Action.ends_bind]
      refine (visit_ends hr hplace).mono (fun v r₁ w₁ h => ?_) (fun _ _ _ h => h)
      obtain ⟨rfl, hr₁, hone⟩ := h
      cases hclosure : v.closure? with
      | some ended =>
        refine ⟨hr₁, .last (by simp [hclosure]), ?_⟩
        simpa [hclosure] using hone
      | none =>
        rw [hclosure] at hone
        have hholds : rest.filter (Holds r₁) = rest.filter (Holds r) :=
          List.filter_congr fun d hd => by
            rw [decide_eq_decide]
            exact hone.mem_ids (hrest d hd)
        rw [Option.isSome_none, if_neg Bool.false_ne_true, Action.ends_bind]
        refine (attend_ends hr₁ fun d hd => Nat.lt_of_lt_of_le (hrest d hd) hone.next).mono
          (fun visits r' w' h => ?_) (fun _ _ _ h => h)
        obtain ⟨hr', hserved, hmore⟩ := h
        rw [hholds] at hserved
        refine ⟨hr', .more hclosure hserved, ?_⟩
        rw [List.filterMap_cons_none hclosure]
        exact hone.trans hmore

end

end Reactor

end ChannelReactor
