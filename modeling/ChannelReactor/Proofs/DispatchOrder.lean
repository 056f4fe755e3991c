import ChannelReactor.Proofs.Polling
import ChannelReactor.Proofs.Visits
import ChannelReactor.Scenario.Stub

/-! # The order of callbacks

Which callbacks an iteration makes follows from what was registered when it polled and from what the
poll reported of each descriptor: first those on the clients that can send, and then those on the
listeners and the clients that have input, in the order in which they were registered. -/
namespace ChannelReactor

variable {ω η χ : Type}

/-- Listeners come before clients, and those of one side in the order of their ids. -/
def Due.Before (a b : Due) : Prop :=
  a.callback = .accept ∧ b.callback = .read ∧ a.id ≠ b.id ∨ a.callback = b.callback ∧ a.id < b.id

/-- A registered channel with what a poll reported of its descriptor. -/
structure Polled (χ : Type) where
  side : Side
  entry : Entry χ
  flags : PollFlags

namespace Polled

/-- A client that was asked whether it can send, and that can or is broken. -/
def canSend [ChannelOps ω χ] (p : Polled χ) : Bool :=
  p.side == .client && ChannelOps.isWritePending p.entry.channel &&
    (p.flags.output || p.flags.broken)

def hasInput (p : Polled χ) : Bool := p.flags.input || p.flags.broken

/-- Listeners stand before clients, and those of one side in the order of their ids. -/
def Before (p q : Polled χ) : Prop :=
  p.side = .listener ∧ q.side = .client ∧ p.entry.id ≠ q.entry.id ∨
    p.side = q.side ∧ p.entry.id < q.entry.id

end Polled

/-- The first parts of pairs are related as they were. -/
theorem pairwise_zip {α β : Type} {R : α → α → Prop} :
    ∀ {l : List α} {m : List β}, l.Pairwise R → (l.zip m).Pairwise fun p q => R p.1 q.1
  | [], _, _ => .nil
  | _ :: _, [], _ => .nil
  | a :: l, b :: m, h => by
    obtain ⟨hfirst, hrest⟩ := List.pairwise_cons.mp h
    exact .cons (fun q hq => hfirst q.1 (List.of_mem_zip hq).1) (pairwise_zip hrest)

namespace Reactor

/-- What is registered, with what a poll reported of it. -/
def polled (r : Reactor η χ) (flags : List PollFlags) : List (Polled χ) :=
  (r.registered.zip flags).map fun (p, f) => ⟨p.1, p.2, f⟩

def dueWrites [ChannelOps ω χ] (r : Reactor η χ) (flags : List PollFlags) : List Due :=
  ((r.polled flags).filter Polled.canSend).map fun p => ⟨.write, p.entry.id⟩

def dueReads (r : Reactor η χ) (flags : List PollFlags) : List Due :=
  ((r.polled flags).filter Polled.hasInput).map fun p => ⟨p.side.reading, p.entry.id⟩

section

variable {r : Reactor η χ} {flags : List PollFlags}

theorem polled_registered {p : Polled χ} (h : p ∈ r.polled flags) :
    p.entry.id ∈ r.ids p.side := by
  obtain ⟨⟨q, f⟩, hq, rfl⟩ := List.mem_map.mp h
  have hmem := (List.of_mem_zip hq).1
  rw [registered, List.mem_append] at hmem
  obtain hmem | hmem := hmem <;>
  · obtain ⟨x, hx, rfl⟩ := List.mem_map.mp hmem
    exact List.mem_map_of_mem hx

/-- What is registered stands in order. -/
theorem registered_ordered (h : r.Ordered) (f : Side × Entry χ → PollFlags) :
    r.registered.Pairwise fun p q =>
      Polled.Before ⟨p.1, p.2, f p⟩ ⟨q.1, q.2, f q⟩ := by
  have hside (side : Side) : ((r.entries side).map (side, ·)).Pairwise fun p q =>
      Polled.Before ⟨p.1, p.2, f p⟩ ⟨q.1, q.2, f q⟩ := by
    rw [List.pairwise_map]
    exact (List.pairwise_map.mp (h.increasing side)).imp fun hlt => .inr ⟨rfl, hlt⟩
  refine List.pairwise_append.mpr ⟨hside .listener, hside .client, fun p hp q hq => ?_⟩
  obtain ⟨e, he, rfl⟩ := List.mem_map.mp hp
  obtain ⟨f, hf, rfl⟩ := List.mem_map.mp hq
  refine .inl ⟨rfl, rfl, fun hid => ?_⟩
  have hid : e.id = f.id := hid
  exact h.apart e.id (List.mem_map_of_mem he) (hid ▸ List.mem_map_of_mem hf)

theorem polled_ordered (h : r.Ordered) : (r.polled flags).Pairwise Polled.Before := by
  rw [polled, List.pairwise_map]
  exact (pairwise_zip (registered_ordered h fun _ => .none)).imp fun hpq => hpq

theorem dueReads_ordered (h : r.Ordered) : (r.dueReads flags).Pairwise Due.Before := by
  rw [dueReads, List.pairwise_map]
  refine ((polled_ordered h).filter _).imp fun {p q} hpq => ?_
  obtain ⟨hp, hq, hne⟩ | ⟨hside, hlt⟩ := hpq
  · exact .inl ⟨congrArg Side.reading hp, congrArg Side.reading hq, hne⟩
  · exact .inr ⟨congrArg Side.reading hside, hlt⟩

theorem dueReads_registered {d : Due} (h : d ∈ r.dueReads flags) :
    d.id ∈ r.ids d.callback.side := by
  obtain ⟨p, hmem, rfl⟩ := List.mem_map.mp h
  rw [Side.reading_side]
  exact polled_registered (List.mem_filter.mp hmem).1

theorem dueReads_below (h : r.Ordered) (flags : List PollFlags) :
    ∀ d ∈ r.dueReads flags, d.id < r.nextId :=
  fun _ hd => h.below _ _ (dueReads_registered hd)

variable [ChannelOps ω χ]

theorem side_of_canSend {p : Polled χ} (h : p.canSend = true) : p.side = .client := by
  simp only [Polled.canSend, Bool.and_eq_true, beq_iff_eq] at h
  exact h.1.1

theorem dueWrites_ordered (h : r.Ordered) : (r.dueWrites flags).Pairwise Due.Before := by
  rw [dueWrites, List.pairwise_map]
  refine ((polled_ordered h).filter _).imp_of_mem fun {p q} hp _ hpq => ?_
  obtain ⟨hl, -, -⟩ | ⟨-, hlt⟩ := hpq
  · cases (side_of_canSend (List.mem_filter.mp hp).2).symm.trans hl
  · exact .inr ⟨rfl, hlt⟩

theorem dueWrites_registered {d : Due} (h : d ∈ r.dueWrites flags) :
    d.id ∈ r.ids d.callback.side := by
  obtain ⟨p, hmem, rfl⟩ := List.mem_map.mp h
  obtain ⟨hp, hready⟩ := List.mem_filter.mp hmem
  have hid := polled_registered hp
  rwa [side_of_canSend hready] at hid

theorem dueWrites_below (h : r.Ordered) (flags : List PollFlags) :
    ∀ d ∈ r.dueWrites flags, d.id < r.nextId :=
  fun _ hd => h.below _ _ (dueWrites_registered hd)

end

section

variable [ChannelOps ω χ]

/-- What a poll reports of the lines of its table. -/
theorem reports_due :
    ∀ {ps : List (Side × Entry χ)} {lines : List (Slot × PollInterest)} {entries : List PollEntry},
      List.Forall₂ Enlisted ps lines → entries.map (·.interest) = lines.map (·.2) →
      let reports := List.zipWith
        (fun slot (e : PollEntry) => (slot, e.interest.readiness e.reported)) (lines.map (·.1))
        entries
      let polled := (ps.zip (entries.map (·.reported))).map fun (p, f) => Polled.mk p.1 p.2 f
      writesOf reports = (polled.filter Polled.canSend).map (fun p => ⟨.write, p.entry.id⟩) ∧
        readsOf reports =
          (polled.filter Polled.hasInput).map fun p => ⟨p.side.reading, p.entry.id⟩
  | [], _, _, .nil, _ => ⟨rfl, rfl⟩
  | (side, e) :: ps, (slot, i) :: lines, [], .cons _ _, h => by cases h
  | (side, e) :: ps, (slot, i) :: lines, entry :: entries, .cons hline hrest, h => by
    obtain ⟨hi, hmore⟩ := List.cons.inj h
    obtain ⟨hwrites, hreads⟩ := reports_due hrest hmore
    have hi : entry.interest = i := hi
    have hw : (entry.interest.readiness entry.reported).writable =
        Polled.canSend ⟨side, e, entry.reported⟩ := by
      rw [PollInterest.readiness, hi, hline.asks.write]
      rfl
    have hr : (entry.interest.readiness entry.reported).readable =
        Polled.hasInput ⟨side, e, entry.reported⟩ := by
      rw [PollInterest.readiness, hi, hline.asks.read, Bool.true_and]
      rfl
    have hside : slot.side = side := hline.side
    have hid : slot.id = e.id := hline.id
    constructor
    · cases hsend : Polled.canSend ⟨side, e, entry.reported⟩ with
      | true =>
        refine (writesOf_cons_of_pos ⟨hside.trans (side_of_canSend hsend), hw.trans hsend⟩).trans ?_
        rw [hwrites, hid, List.map_cons, List.zip_cons_cons, List.map_cons,
          List.filter_cons_of_pos hsend, List.map_cons]
      | false =>
        refine (writesOf_cons_of_neg fun h => ?_).trans ?_
        · rw [hw, hsend] at h
          cases h.2
        · rw [hwrites, List.map_cons, List.zip_cons_cons, List.map_cons,
            List.filter_cons_of_neg (by simp [hsend])]
    · cases hinput : Polled.hasInput ⟨side, e, entry.reported⟩ with
      | true =>
        refine (readsOf_cons_of_pos (hr.trans hinput)).trans ?_
        rw [hreads, hid, hside, List.map_cons, List.zip_cons_cons, List.map_cons,
          List.filter_cons_of_pos hinput, List.map_cons]
      | false =>
        refine (readsOf_cons_of_neg fun h => ?_).trans ?_
        · rw [hr, hinput] at h
          cases h
        · rw [hreads, List.map_cons, List.zip_cons_cons, List.map_cons,
            List.filter_cons_of_neg (by simp [hinput])]

variable [Machine ω] [Hooks ω η χ] {r : Reactor (Watched η χ) χ} {flags : List PollFlags}

/-- What an iteration does about what its poll reported. -/
def serveAll (r : Reactor (Watched η χ) χ) (flags : List PollFlags) :
    Action ω ReactorError (Reactor (Watched η χ) χ) Nat := do
  let written ← attend (r.dueWrites flags)
  let served ← attend (r.dueReads flags)
  pure (written.countP Visit.succeeded + served.countP Visit.succeeded)

/-- After a poll that found something, an iteration makes the callbacks that are due. -/
theorem respond_eq {w : ω} {table : PollTable} {set : PollSet} {n : Nat} (hr : r.Ordered)
    (htable : pollTable r = .ok table) (hset : set.interests = table.set.interests)
    (hvalid : set.anyInvalid = false) :
    respond table (.ok (n + 1)) set r w = serveAll r set.reported r w := by
  obtain ⟨lines, hlines, hslots, hinterests⟩ := pollTable_ok htable
  rw [hinterests] at hset
  have hlen : table.slots.length = set.entries.length := by
    have hlen := congrArg List.length hset
    rw [PollSet.interests, List.length_map, List.length_map] at hlen
    rw [hslots, List.length_map, hlen]
  obtain ⟨hwrites, hreads⟩ := reports_due hlines hset
  rw [← hslots, ← PollTable.reports_eq hlen] at hwrites hreads
  have hrun : respond table (.ok (n + 1)) set r w =
      (dispatchWrites (PollTable.reports table.slots set) >>= fun written =>
        dispatchReads (PollTable.reports table.slots set) >>= fun served =>
          pure (written + served) : Action ω ReactorError (Reactor _ χ) Nat) r w := by
    simp only [respond, hvalid, Bool.false_eq_true, if_false]
  have hwritten : writesOf (PollTable.reports table.slots set) = r.dueWrites set.reported := hwrites
  have hserved : readsOf (PollTable.reports table.slots set) = r.dueReads set.reported := hreads
  rw [hrun, serveAll, Action.bind_congr_left (dispatchWrites_eq hr), map_eq_pure_bind, bind_assoc,
    hwritten]
  refine Action.Ends.bind_congr (R := fun _ _ _ => True) ?_
  refine (attend_ends hr (dueWrites_below hr _)).mono (fun written r₁ w₁ h => ?_) (fun _ _ _ h => h)
  rw [pure_bind, Action.bind_congr_left (dispatchReads_eq h.1), map_eq_pure_bind, bind_assoc,
    hserved]
  rfl

/-- How an iteration that begins with a reactor and a machine serves what was ready when it had
polled and left another reactor and machine: it asked of each listener and client by its own
descriptor, and made the callbacks that were due in their order, each under the id of the channel
that was asked about. A channel that came later has a greater id than any that was served. -/
structure InOrder (p : Reactor (Watched η χ) χ × ω) (set : PollSet)
    (q : Reactor (Watched η χ) χ × ω) : Prop where
  asked : List.Forall₂ Asks q.1.registered set.interests
  run : runOnce p.1 p.2 = serveAll q.1 set.reported q.1 q.2
  visits : (attend (q.1.dueWrites set.reported) : Action ω ReactorError _ _).Ends q.1 q.2
    (fun written r₁ w₁ => Served (q.1.dueWrites set.reported) written ∧
      (written.map (·.due)).Pairwise Due.Before ∧
      (attend (q.1.dueReads set.reported) : Action ω ReactorError _ _).Ends r₁ w₁
        (fun served r₂ _ => Served ((q.1.dueReads set.reported).filter (Holds r₁)) served ∧
          (served.map (·.due)).Pairwise Due.Before ∧
          ∀ side, ∀ id ∈ r₂.ids side, id ∈ q.1.ids side ∨ ∀ v ∈ written ++ served, v.due.id < id)
        (fun _ _ _ => False))
    (fun _ _ _ => False)

theorem InOrder.of_polling {p : Reactor (Watched η χ) χ × ω} {table : PollTable} {n : Nat}
    {set : PollSet} {r : Reactor (Watched η χ) χ} {w : ω} (hp : p.1.Ordered)
    (hpoll : (polling : Action ω ReactorError _ _) p.1 p.2 = .done (table, .ok (n + 1), set) r w)
    (hvalid : set.anyInvalid = false) : InOrder p set (r, w) := by
  obtain ⟨hmoves, htable, hset⟩ := polling_ends.done hpoll
  have hr : r.Ordered := hp.moves hmoves
  refine ⟨by rw [hset]; exact pollTable_asks htable, ?_, ?_⟩
  · rw [runOnce_eq, Action.bind_apply, hpoll]
    exact respond_eq hr htable hset hvalid
  · have hwrites : (r.dueWrites set.reported).filter (Holds r) = r.dueWrites set.reported :=
      List.filter_eq_self.mpr fun d hd => decide_eq_true (dueWrites_registered hd)
    have hbefore {due : List Due} {visits : List Visit} (hdue : due.Pairwise Due.Before)
        (h : Served due visits) : (visits.map (·.due)).Pairwise Due.Before :=
      hdue.sublist h.dues_prefix.sublist
    refine (attend_ends hr (dueWrites_below hr _)).mono (fun written r₁ w₁ h => ?_)
      (fun _ _ _ h => h)
    obtain ⟨hr₁, hwritten, hfirst⟩ := h
    rw [hwrites] at hwritten
    refine ⟨hwritten, hbefore (dueWrites_ordered hr) hwritten, ?_⟩
    refine (attend_ends hr₁ fun d hd =>
      Nat.lt_of_lt_of_le (dueReads_below hr _ d hd) hfirst.next).mono (fun served r₂ w₂ h => ?_)
      (fun _ _ _ h => h)
    obtain ⟨-, hserved, hsecond⟩ := h
    refine ⟨hserved, hbefore ((dueReads_ordered hr).filter _) hserved, fun side id hid => ?_⟩
    obtain ⟨new, hnew, hids⟩ := (hfirst.trans hsecond).ids side
    rw [hids, List.mem_append] at hid
    refine hid.imp (fun hmem => (List.mem_filter.mp hmem).1) fun hmem v hv => ?_
    refine Nat.lt_of_lt_of_le ?_ (hnew id hmem)
    obtain hv | hv := List.mem_append.mp hv
    · exact dueWrites_below hr _ v.due (hwritten.dues_prefix.subset (List.mem_map_of_mem hv))
    · have hdue := hserved.dues_prefix.subset (List.mem_map_of_mem hv)
      exact dueReads_below hr _ v.due (List.mem_filter.mp hdue).1

end

end Reactor

namespace Estate

section

variable [Machine ω] [ChannelOps ω χ] [Hooks ω η χ]

/-- After any commands, when the poll of an iteration finds something ready and no descriptor
invalid, the iteration makes the callbacks that are due in their order, and no others. -/
theorem callbacks_in_order {serial : Nat} {settings : ReactorSettings} {hooks : η} {machine : ω}
    {s₀ s : Estate ω η χ} (hfounded : founded serial settings hooks machine = some s₀)
    (commands : List (Command ω η χ)) (hplay : s₀.play commands = some s) {table : PollTable}
    {n : Nat} {set : PollSet} {r : Reactor (Watched η χ) χ} {w : ω}
    (hpoll : (Reactor.polling : Action ω ReactorError _ _) s.reactor s.machine =
      .done (table, .ok (n + 1), set) r w)
    (hvalid : set.anyInvalid = false) :
    Reactor.InOrder (s.reactor, s.machine) set (r, w) :=
  .of_polling (play_ordered hfounded commands hplay) hpoll hvalid

end

/-- A client with output to send. -/
def busyStub (descriptor : Int) (onWrite onRead : List Scenario.StubAct) : Scenario.Stub where
  core := .new .forever "busy"
  descriptor := descriptor
  pending := true
  onWrite := onWrite
  onRead := onRead

/-- Three descriptors that are ready for everything. -/
def busyBench : Scenario.Bench where
  polls.ready := [(1, { input := true, output := true }), (2, { input := true, output := true }),
    (3, { input := true, output := true })]

/-- The first client is closed by its write and the second fails to read, from a place that was
not its own when it was polled. -/
theorem callbacks_in_order_busyStubs :
    ∃ (s₀ s : Estate Scenario.Bench NoHooks Scenario.Stub) (table : PollTable) (n : Nat)
      (set : PollSet) (r : Reactor (Watched NoHooks Scenario.Stub) Scenario.Stub)
      (w : Scenario.Bench),
      founded 1 {} {} busyBench = some s₀ ∧
      s₀.play [.register (busyStub 1 [.closed] []), .register (busyStub 2 [] [.fails]),
        .register (busyStub 3 [] [])] = some s ∧
      (Reactor.polling : Action _ ReactorError _ _) s.reactor s.machine =
        .done (table, .ok (n + 1), set) r w ∧
      set.anyInvalid = false ∧
      (r.dueWrites set.reported = [⟨.write, 1⟩, ⟨.write, 2⟩, ⟨.write, 3⟩] ∧
        r.dueReads set.reported = [⟨.read, 1⟩, ⟨.read, 2⟩, ⟨.read, 3⟩]) ∧
      Reactor.InOrder (s.reactor, s.machine) set (r, w) := by
  have hrun : ((founded 1 {} {} busyBench : Option (Estate _ NoHooks _)).bind
      (play [.register (busyStub 1 [.closed] []), .register (busyStub 2 [] [.fails]),
        .register (busyStub 3 [] [])])).any (fun s =>
      ((Reactor.polling : Action _ ReactorError _ _) s.reactor s.machine).any fun p r _ =>
        p.2.1.toOption == some 3 && !p.2.2.anyInvalid &&
        r.dueWrites p.2.2.reported == [⟨.write, 1⟩, ⟨.write, 2⟩, ⟨.write, 3⟩] &&
        r.dueReads p.2.2.reported == [⟨.read, 1⟩, ⟨.read, 2⟩, ⟨.read, 3⟩]) = true := by
    decide +kernel
  obtain ⟨s, hs, hp⟩ := (Option.any_eq_true _ _).mp hrun
  obtain ⟨s₀, hfounded, hplay⟩ := Option.bind_eq_some_iff.mp hs
  simp only [Outcome.any_eq_true, Bool.and_eq_true, Bool.not_eq_true', beq_iff_eq] at hp
  obtain ⟨⟨table, answer, set⟩, r, w, hpoll, ⟨⟨hanswer, hvalid⟩, hwrites⟩, hreads⟩ := hp
  cases answer with
  | error e => cases hanswer
  | ok n =>
    cases hanswer
    exact ⟨s₀, s, table, 2, set, r, w, hfounded, hplay, hpoll, hvalid, ⟨hwrites, hreads⟩,
      callbacks_in_order hfounded _ hplay hpoll hvalid⟩

/-- A channel that is handed over before an iteration is registered by it, is polled like any other,
and has its callback in that same iteration. -/
theorem handed_over_served :
    ∃ s₀ s s' : Estate Scenario.Bench NoHooks Scenario.Stub,
      founded 1 {} {} busyBench = some s₀ ∧ s₀.play [.inject (busyStub 1 [] [])] = some s ∧
      s.step .runOnce = some s' ∧ s.reactor.ids .client = [] ∧ s'.reactor.ids .client = [1] ∧
      ∃ c, HookCall.readable 1 c ∈ s'.reactor.hooks.calls := by
  have hrun : ((founded 1 {} {} busyBench : Option (Estate _ NoHooks _)).bind
      (play [.inject (busyStub 1 [] [])])).any (fun s =>
        s.reactor.ids .client == [] && (s.step .runOnce).any fun s' =>
          s'.reactor.ids .client == [1] && s'.reactor.hooks.calls.any fun
            | .readable id _ => id == 1
            | _ => false) = true := by
    decide +kernel
  obtain ⟨s, hs, hp⟩ := (Option.any_eq_true _ _).mp hrun
  obtain ⟨s₀, hfounded, hplay⟩ := Option.bind_eq_some_iff.mp hs
  rw [Bool.and_eq_true, beq_iff_eq] at hp
  obtain ⟨hbefore, hafter⟩ := hp
  obtain ⟨s', hstep, hp⟩ := (Option.any_eq_true _ _).mp hafter
  rw [Bool.and_eq_true, beq_iff_eq, List.any_eq_true] at hp
  obtain ⟨hids, call, hcall, hread⟩ := hp
  refine ⟨s₀, s, s', hfounded, hplay, hstep, hbefore, hids, ?_⟩
  split at hread
  · rename_i id c
    exact ⟨c, eq_of_beq hread ▸ hcall⟩
  · cases hread

end Estate

end ChannelReactor
