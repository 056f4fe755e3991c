import ChannelReactor.Proofs.Rounds

/-! # Running to the stop

A run tells the application that it starts, makes its rounds, closes all clients, and takes its
leave of the application. Whatever the rounds were, the end leaves the listeners, the statistics and
what is in the mailbox, and tells of every client once, in the order in which they came. -/
namespace ChannelReactor

variable {ω ε η χ : Type}

namespace Reactor

/-- The call tells that this client was closed at the end of a run. -/
def Dismisses (ω : Type) [ChannelOps ω χ] (client : Entry χ) (call : HookCall χ) : Prop :=
  ∃ (c : χ) (w w' : ω),
    ChannelOps.close (ChannelOps.mapCore ChannelCore.unregister client.channel) w =
      .done () c w' ∧
    call = .closed client.id c .shutdown

/-- The second desk is the first after the application was told of the ends of these clients. -/
structure Farewell (ω : Type) [ChannelOps ω χ] (clients : List (Entry χ))
    (desk desk' : Desk (Watched η χ) χ) : Prop where
  queue : ∃ posted, desk'.mailbox.queue = desk.mailbox.queue ++ posted
  calls : ∃ ends, List.Forall₂ (Dismisses ω) clients ends ∧
    desk'.hooks.calls = desk.hooks.calls ++ ends

/-- What the end of a run makes of the reactor that the loop leaves. -/
structure WoundUp (ω : Type) [ChannelOps ω χ] (r r' : Reactor (Watched η χ) χ) : Prop where
  clients : r'.clients = []
  listeners : r'.listeners = r.listeners
  stats : r'.stats = r.stats
  queue : ∃ posted, r'.mailbox.queue = r.mailbox.queue ++ posted
  /-- Every client is closed and told of, in their order. -/
  calls : ∃ ends, List.Forall₂ (Dismisses ω) r.clients ends ∧
    r'.hooks.calls = r.hooks.calls ++ ends ++ [.cleanup]
  /-- No other call ever tells of the end of a client that was there. -/
  once : ∀ id ∈ r.ids .client, (r'.closures.map (·.1)).count id = 1

section

variable [ChannelOps ω χ] {r : Reactor (Watched η χ) χ} {w : ω}

theorem dismisses_closures {clients : List (Entry χ)} {ends : List (HookCall χ)}
    (h : List.Forall₂ (Dismisses ω) clients ends) :
    ends.filterMap HookCall.closure? = clients.map fun e => (e.id, .shutdown) := by
  induction h with
  | nil => rfl
  | cons hfirst _ ih =>
    obtain ⟨c, w, w', -, rfl⟩ := hfirst
    rw [List.filterMap_cons, List.map_cons, ih]
    rfl

/-- An id that is registered and in its turn told of was told of once. -/
theorem Accounted.told_once {issued returned : List ChannelId} (h : Accounted issued returned r)
    {r' : Reactor (Watched η χ) χ} {ends : List (HookCall χ)}
    (hends : List.Forall₂ (Dismisses ω) r.clients ends)
    (hcalls : r'.hooks.calls = r.hooks.calls ++ ends ++ [.cleanup]) {id : ChannelId}
    (hid : id ∈ r.ids .client) : (r'.closures.map (·.1)).count id = 1 := by
  have hclosures : r'.closures.map (·.1) = r.closures.map (·.1) ++ r.ids .client := by
    rw [closures, hcalls, List.filterMap_append, List.filterMap_append, dismisses_closures hends]
    simp [closures, ids, entries, HookCall.closure?, Function.comp_def]
  have hplaced := h.placed_le id
  have hpos := List.count_pos_iff.mpr hid
  rw [hclosures, List.count_append]
  omega

variable [Hooks ω η χ]

theorem closeAll_farewell (hhooks : Hooks.Ask ω η χ) :
    ∀ {clients : List (Entry χ)} {r : Reactor (Watched η χ) χ} {w : ω},
      (closeAll clients : Action ω ε (Reactor (Watched η χ) χ) Unit).Ends r w
        (fun _ r' _ => ∃ desk, Farewell ω clients r.desk desk ∧ r' = r.withDesk desk)
        (fun _ _ _ => False)
  | [], r, _ => ⟨r.desk, ⟨⟨[], (List.append_nil _).symm⟩, [], .nil, (List.append_nil _).symm⟩, rfl⟩
  | e :: rest, r, w => by
    refine closeAll_cons_ends fun c w₁ desk w₂ hclose hd => ?_
    refine (closeAll_farewell hhooks).mono (fun _ r' _ hrest => ?_) (fun _ _ _ hf => hf)
    obtain ⟨desk', hfarewell, rfl⟩ := hrest
    obtain ⟨posted, hposted⟩ := (hhooks.watched.closed _ _ _).posting _ _ _ _ _ hd
    obtain ⟨more, hmore⟩ := hfarewell.queue
    obtain ⟨ends, hends, hcalls⟩ := hfarewell.calls
    refine ⟨desk', ⟨⟨posted ++ more, ?_⟩, _ :: ends, .cons ⟨c, w, w₁, hclose, rfl⟩ hends, ?_⟩, rfl⟩
    · rw [hmore, ← List.append_assoc, ← hposted]
      rfl
    · rw [hcalls, List.append_cons, ← Watched.noting_done hd]
      rfl

theorem ending_ends (hhooks : Hooks.Ask ω η χ) {issued returned : List ChannelId}
    (h : Accounted issued returned r) :
    (do shutdown; hook Hooks.onCleanup : Action ω ε (Reactor (Watched η χ) χ) Unit).Ends r w
      (fun _ r' _ => WoundUp ω r r') (fun _ _ _ => False) := by
  rw [shutdown, Action.ends_bind, Action.ends_bind, Action.ends_subject, Action.ends_bind,
    Action.ends_update]
  refine (closeAll_farewell hhooks).mono (fun _ r' w' hrest => ?_) (fun _ _ _ hf => hf)
  obtain ⟨desk, hfarewell, rfl⟩ := hrest
  refine hook_ends fun _ desk' w'' hd => ?_
  obtain ⟨posted, hposted⟩ := hfarewell.queue
  obtain ⟨more, hmore⟩ := hhooks.watched.cleanup.posting _ _ _ _ _ hd
  obtain ⟨ends, hends, hcalls⟩ := hfarewell.calls
  have hcalls' : desk'.hooks.calls = r.hooks.calls ++ ends ++ [.cleanup] := by
    rw [Watched.noting_done hd]
    exact congrArg (· ++ [.cleanup]) hcalls
  refine ⟨rfl, rfl, rfl, ⟨posted ++ more, ?_⟩, ⟨ends, hends, hcalls'⟩,
    fun id hid => h.told_once hends hcalls' hid⟩
  rw [← List.append_assoc]
  exact hmore.trans (congrArg (· ++ more) hposted)

end

end Reactor

namespace Estate

variable [Machine ω] [ChannelOps ω χ] [Hooks ω η χ] {s₀ s : Estate ω η χ}
variable {p q : Reactor (Watched η χ) χ × ω} {rounds : List (Reactor.Round ω (Watched η χ) χ)}

/-- The application is told that a run begins, which leaves `p`. -/
def Starts (s : Estate ω η χ) (p : Reactor (Watched η χ) χ × ω) : Prop :=
  (Reactor.hook Hooks.onStartup : Action ω Empty (Reactor (Watched η χ) χ) Unit)
    s.reactor s.machine = .done () p.1 p.2

/-- How a run goes that leaves `p` when it has started and makes the rounds from there to `q`. -/
structure Runs (s : Estate ω η χ) (p : Reactor (Watched η χ) χ × ω)
    (rounds : List (Reactor.Round ω (Watched η χ) χ)) (q : Reactor (Watched η χ) χ × ω) :
    Prop where
  /-- After its rounds the run shuts down, and the cleanup is the last that it does. -/
  run : ∀ limit, rounds.length ≤ limit →
    (Reactor.run limit : Action ω Empty _ Unit) s.reactor s.machine =
      (do Reactor.shutdown; Reactor.hook Hooks.onCleanup : Action ω Empty _ Unit) q.1 q.2
  greeted : p.1.hooks.calls = s.reactor.hooks.calls ++ [.startup]
  served : ∃ served, q.1.hooks.calls = p.1.hooks.calls ++ served ∧ ∀ call ∈ served, call.Amid
  /-- What is asked before the first round, before the run or by its startup, leaves no round. -/
  unstarted : s.reactor.mailbox.stopped = true ∨ p.1.mailbox.stopped = true → rounds = []
  /-- What is asked at any point of a round makes it the last one. -/
  last : ∀ before round after mid, rounds = before ++ round :: after →
    Reactor.Moves round.start mid → Reactor.Moves mid round.finish →
      mid.1.mailbox.stopped = true → after = []
  settings : ∀ round ∈ rounds, round.finish.1.settings = s.reactor.settings
  order : (q.1.ids .client).Pairwise (· < ·)
  ends : (do Reactor.shutdown; Reactor.hook Hooks.onCleanup : Action ω Empty _ Unit).Ends q.1 q.2
    (fun _ r' _ => Reactor.WoundUp ω q.1 r') (fun _ _ _ => False)

omit [Machine ω] [ChannelOps ω χ] in
/-- What a startup does is what its hook does at the desk. -/
theorem Starts.desk (h : s.Starts p) :
    ∃ desk, Hooks.onStartup s.reactor.desk s.machine = .done () desk p.2 ∧
      p.1 = s.reactor.withDesk desk :=
  (Reactor.hook_ends (R := fun _ _ _ => False)
    (Q := fun _ r' w' => ∃ desk, Hooks.onStartup s.reactor.desk s.machine = .done () desk w' ∧
      r' = s.reactor.withDesk desk) fun _ desk _ hx => ⟨desk, hx, rfl⟩).done h

/-- For every reactor, whatever its owner has done with it before, and with any hooks that leave
the requests of others as they are: a run that comes to its end makes rounds until somebody asks it
to stop, and it comes to its end when it makes such rounds. Only after a round that failed it
sleeps, as an iteration itself never does, however the machine sleeps. At the end all clients are
closed and told of once, in the order in which they came; the listeners, the statistics and what is
in the mailbox stay. A request of another thread shows to the run as one that a hook of the same
round makes. -/
theorem run_until_stopped (hhooks : Hooks.Ask ω η χ) {serial : Nat} {settings : ReactorSettings}
    {hooks : η} {machine : ω} (hfounded : founded serial settings hooks machine = some s₀)
    (commands : List (Command ω η χ)) (hplay : s₀.play commands = some s) :
    (∀ limit r' w', (Reactor.run limit : Action ω Empty _ Unit) s.reactor s.machine =
        .done () r' w' →
      ∃ p rounds q, s.Starts p ∧ rounds.length ≤ limit ∧ Reactor.Rounds p rounds q) ∧
    (∀ p rounds q, s.Starts p → Reactor.Rounds p rounds q → s.Runs p rounds q) ∧
    ∀ sleep, @Reactor.runOnce ω (Watched η χ) χ (Machine.withSleep sleep) _ _ =
      Reactor.runOnce := by
  refine ⟨fun limit r' w' hrun => ?_, fun p rounds q hstarts hrounds => ?_,
    Reactor.runOnce_withSleep⟩
  · rw [Reactor.run] at hrun
    obtain ⟨_, r₁, w₁, hstarts, hrun⟩ := Action.done_of_bind hrun
    obtain ⟨_, r₂, w₂, hiterate, -⟩ := Action.done_of_bind hrun
    obtain ⟨rounds, hlength, hrounds⟩ :=
      Reactor.iterate_rounds (p := (r₁, w₁)) (q := (r₂, w₂)) hiterate
    exact ⟨(r₁, w₁), rounds, (r₂, w₂), hstarts, hlength, hrounds⟩
  obtain ⟨desk, hstartup, hp⟩ := hstarts.desk
  have haccounted := play_accounted commands (founded_accounted hfounded) hplay
  have hordered := play_ordered hfounded commands hplay
  have hself : Reactor.Thins s.reactor s.reactor := .of_entries (fun _ => rfl) rfl
  obtain ⟨hmoves, hreached⟩ := hrounds.moves
  have hasks := hhooks.watched
  have hend : Reactor.Accounted s.issued s.returned q.1 := by
    refine Reactor.Accounted.moves ?_ hmoves
    rw [hp]
    exact haccounted.informed (.refl _) rfl (Watched.noting_done hstartup) rfl
  refine ⟨fun limit hlimit => ?_, ?_, hmoves.calls, fun hstopped => ?_,
    fun before round after mid hsplit _ hmid => hrounds.last hasks hsplit hmid,
    fun round hround => ?_, ?_, Reactor.ending_ends hhooks hend⟩
  · rw [Reactor.run, Action.bind_apply, show Reactor.hook _ _ _ = _ from hstarts]
    dsimp only
    rw [Action.bind_apply, hrounds.iterate hlimit]
  · rw [hp]
    exact Watched.noting_done hstartup
  · refine hrounds.unstarted (hstopped.elim (fun hbefore => ?_) id)
    rw [hp]
    exact hasks.startup.lasting _ _ _ _ _ hstartup hbefore
  · rw [(hreached round hround).settings, hp]
    rfl
  · refine (Reactor.Ordered.moves ?_ hmoves).increasing .client
    rw [hp]
    exact hordered.thins hself.withDesk

/-- Hooks that ask to stop in a certain iteration, and hand over again what the reactor lets go. -/
structure Curfew where
  iteration : Nat

instance : Hooks ω Curfew χ where
  onTick stats := Action.update fun desk =>
    { desk with mailbox.stopped :=
        desk.mailbox.stopped || stats.iterations == desk.hooks.iteration }
  onClosed _ c _ := Action.update fun desk => { desk with mailbox := desk.mailbox.post c }

omit [Machine ω] [ChannelOps ω χ] [Hooks ω η χ] in
theorem curfew_asks : Hooks.Ask ω Curfew χ where
  accept _ _ := Hooks.asking_pure
  readable _ _ := Hooks.asking_pure
  writable _ _ := Hooks.asking_pure
  closed _ c _ := Hooks.asking_update (fun _ => ⟨[c], rfl⟩) fun _ hstopped => hstopped
  tick _ := Hooks.asking_update (fun _ => ⟨[], (List.append_nil _).symm⟩) fun _ hstopped =>
    Bool.or_eq_true_iff.mpr (.inl hstopped)
  startup := Hooks.asking_pure
  cleanup := Hooks.asking_pure

/-- All polls fail. The first iteration blames the first of three clients, and in the second nobody
is to blame; the reactor sleeps, and is asked to stop. -/
theorem run_until_stopped_curfew :
    ∃ s₀ s : Estate Scenario.Bench Curfew (Channel Scenario.Wire Scenario.Gate (NoKind _)),
      founded 1 {} { iteration := 2 }
          { polls := { error := some .outOfMemory, probes := [some .badDescriptor] } } = some s₀ ∧
      s₀.play [.listen openListener, .register (.connection quietConnection),
        .register (.connection quietConnection), .register (.connection quietConnection)] =
          some s ∧
      ∃ p rounds q r w, s.Starts p ∧ rounds.length ≤ 2 ∧ Reactor.Rounds p rounds q ∧
        (Reactor.run 2 : Action _ Empty _ Unit) s.reactor s.machine = .done () r w ∧
        (r.closures = [(2, .pollFailure), (3, .shutdown), (4, .shutdown)] ∧
          r.ids .listener = [1] ∧ r.mailbox.queue.length = 2 ∧
          w.clock = Instant.start.advance (.ofMillis 100)) ∧
        Reactor.WoundUp Scenario.Bench q.1 r ∧ s.Runs p rounds q := by
  have hrun : ((founded 1 {} { iteration := 2 }
        { polls := { error := some .outOfMemory, probes := [some .badDescriptor] } } :
        Option (Estate Scenario.Bench Curfew _)).bind
      (play [.listen openListener, .register (.connection quietConnection),
        .register (.connection quietConnection), .register (.connection quietConnection)])).any
      (fun s => ((Reactor.run 2 : Action _ Empty _ Unit) s.reactor s.machine).any fun _ r w =>
        r.closures == [(2, .pollFailure), (3, .shutdown), (4, .shutdown)] &&
          r.ids .listener == [1] && r.mailbox.queue.length == 2 &&
          w.clock == Instant.start.advance (.ofMillis 100)) = true := by
    decide +kernel
  obtain ⟨s, hs, hany⟩ := (Option.any_eq_true _ _).mp hrun
  obtain ⟨s₀, hfounded, hplay⟩ := Option.bind_eq_some_iff.mp hs
  obtain ⟨_, r, w, hdone, hfacts⟩ := Outcome.any_eq_true.mp hany
  obtain ⟨hmakes, hruns, -⟩ := run_until_stopped curfew_asks hfounded _ hplay
  obtain ⟨p, rounds, q, hstarts, hlength, hrounds⟩ := hmakes 2 r w hdone
  have h := hruns p rounds q hstarts hrounds
  have hwound := h.ends.done ((h.run 2 hlength).symm.trans hdone)
  exact ⟨s₀, s, hfounded, hplay, p, rounds, q, r, w, hstarts, hlength, hrounds, hdone,
    by simpa [and_assoc] using hfacts, hwound, h⟩

end Estate

end ChannelReactor
