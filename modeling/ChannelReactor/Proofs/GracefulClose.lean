import ChannelReactor.Proofs.Delivery
import ChannelReactor.Proofs.Following
import ChannelReactor.Proofs.Lingering
import ChannelReactor.Proofs.Visits

/-! # Graceful closes

A client that its application closes, however often, while the client is registered, is let go as
closed only after its transport has taken all output, unless the transport itself brought the output
to a halt. What the operations keep of a connection and its journal is followed through everything
that a reactor and its owner do, up to the moment when the application is told. -/
namespace ChannelReactor

variable {ω η τ α β : Type}

/-- The hooks about a client do nothing with it but what its operations do. -/
structure Hooks.Operates (ω η χ : Type) [ChannelOps ω χ] [Hooks ω η χ] : Prop where
  readable : ∀ {id : ChannelId} {c c' : χ} {desk desk' : Desk η χ} {w w' : ω},
    Hooks.onReadable id c desk w = .done c' desk' w' → ChannelOps.Operated c c'
  writable : ∀ {id : ChannelId} {c c' : χ} {desk desk' : Desk η χ} {w w' : ω},
    Hooks.onWritable id c desk w = .done c' desk' w' → ChannelOps.Operated c c'

namespace Journaled

/-- The channel is a connection, to which its journal applies. -/
def Sound (j : Journaled (Channel (Logged τ) α β)) : Prop :=
  j.channel.Bears (Connection.Upheld j.notes j.written j.closes)

/-- An operation begins on a fresh page. -/
theorem Sound.fresh {j : Journaled (Channel (Logged τ) α β)} {w : ω} (h : j.Sound) :
    ∃ k, j.channel.connection? = some k ∧
      k.Upheld (j.notes ++ ({ machine := w } : Archive ω).notes) j.written j.closes := by
  obtain ⟨k, hk, hu⟩ := h
  rw [← List.append_nil j.notes] at hu
  exact ⟨k, hk, hu⟩

/-- The last of its closes, after the registration was taken away, let the client go. If it was
closed before, and always while it was registered, all that was written to it is delivered, unless
its output was brought to a halt. -/
def Graceful (j : Journaled (Channel (Logged τ) α β)) : Prop :=
  ∃ closes k, j.closes = closes ++ [false] ∧ j.channel.connection? = some k ∧
    (closes ≠ [] → (∀ registered ∈ closes, registered = true) → Note.Intact k.policy j.notes →
      Note.Delivered j.notes j.written)

variable [Machine ω] [Transport ω τ] [Acceptor ω α τ] [ChannelOps (Archive ω) β]
variable {j : Tracked τ α β} {w : ω}

theorem applyMode_sound {mode : WaitMode} :
    Action.Keeps (fun j _ => j.Sound)
      (ChannelOps.applyMode mode : Action ω ChannelError (Tracked τ α β) Unit) := by
  intro j w h
  obtain ⟨k, hk, hu⟩ := h.fresh (w := w)
  exact keeping_ends.mpr (Channel.applyMode_bears hk (Connection.applyMode_upheld _ _ hu))

theorem read_sound {count : Nat} {opts : ReadOptions} :
    Action.Keeps (fun j _ => j.Sound)
      (ChannelOps.read count opts : Action ω ChannelError (Tracked τ α β) Bytes) := by
  intro j w h
  obtain ⟨k, hk, hu⟩ := h.fresh (w := w)
  exact keeping_ends.mpr (Channel.read_bears hk (Connection.read_upheld _ _ hu))

theorem write_sound {data : Bytes} :
    Action.Keeps (fun j _ => j.Sound)
      (ChannelOps.write data : Action ω ChannelError (Tracked τ α β) Unit) := by
  intro j w h
  obtain ⟨k, hk, hu⟩ := h.fresh (w := w)
  refine Action.ends_bind.mpr (Action.ends_update.mpr (keeping_ends.mpr ?_))
  have hactive : ChannelOps.isActive j.channel = k.core.active := by
    rw [ChannelOps.isActive, Channel.core_eq hk]
  simp only [hactive]
  exact Channel.write_bears hk (Connection.write_upheld hu)

/-- A lingering client is refused its read only for now. -/
theorem onRead_sound (h : j.Sound) :
    (ChannelOps.onRead : Action ω ChannelError (Tracked τ α β) Unit).Ends j w
      (fun _ j' _ => j'.Sound)
      (fun e j' _ => j'.channel.Bears fun k => k.Upheld j'.notes j'.written j'.closes ∧
        (k.lingering = true → e = .dataNotAvailable)) := by
  obtain ⟨k, hk, hu⟩ := h.fresh (w := w)
  exact keeping_ends.mpr (Channel.onRead_bears hk (Connection.onRead_upheld hu))

theorem onWrite_sound (h : j.Sound) :
    (ChannelOps.onWrite : Action ω ChannelError (Tracked τ α β) Unit).Ends j w
      (fun _ j' _ => j'.Sound)
      (fun _ j' _ => j'.channel.Bears fun k => k.Upheld j'.notes j'.written j'.closes ∧
        k.lingering = false) := by
  obtain ⟨k, hk, hu⟩ := h.fresh (w := w)
  exact keeping_ends.mpr (Channel.onWrite_bears hk (Connection.onWrite_upheld hu))

/-- A close ends as the connection's does, and stands in the journal. -/
theorem close_ends {k : Connection (Logged τ)}
    {Q : Unit → Connection (Logged τ) → Archive ω → Prop} (hk : j.channel.connection? = some k)
    (hx : Connection.close.Ends k { machine := w } Q (fun e _ _ => e.elim)) :
    (ChannelOps.close : Action ω Empty (Tracked τ α β) Unit).Ends j w
      (fun _ j' _ => ∃ k' page, j'.channel.connection? = some k' ∧ Q () k' page ∧
        j'.notes = j.notes ++ page.notes ∧ j'.written = j.written ∧
        j'.closes = j.closes ++ [k.core.isRegistered])
      (fun e _ _ => e.elim) := by
  refine Action.ends_bind.mpr (Action.ends_update.mpr (keeping_ends.mpr ?_))
  refine (Channel.close_bears hk hx).mono (fun _ c page hc => ?_) (fun e _ _ _ => e.elim)
  obtain ⟨k', hk', hq⟩ := hc
  have hregistered : ChannelOps.isRegistered j.channel = k.core.isRegistered := by
    rw [ChannelOps.isRegistered, Channel.core_eq hk]
  exact ⟨k', page, hk', hq, rfl, rfl, by rw [hregistered]⟩

theorem close_sound :
    Action.Keeps (fun j _ => j.Sound)
      (ChannelOps.close : Action ω Empty (Tracked τ α β) Unit) := by
  intro j w h
  obtain ⟨k, hk, hu⟩ := h.fresh (w := w)
  refine (close_ends hk (Connection.close_upheld hu)).mono (fun _ j' _ hc => ?_)
    (fun e _ _ _ => e.elim)
  obtain ⟨k', page, hk', hu', hnotes, hwritten, hcloses⟩ := hc
  rw [← hnotes, ← hwritten, ← hcloses] at hu'
  exact ⟨k', hk', hu'⟩

theorem mapCore_sound {f : ChannelCore → ChannelCore} (hf : ChannelCore.Retunes f)
    (h : j.Sound) : (ChannelOps.mapCore f j).Sound := by
  obtain ⟨k, hk, hu⟩ := h
  exact ⟨_, Channel.mapCore_connection f hk, hu.retuned hf⟩

theorem onRead_keeps_sound :
    Action.Keeps (fun j _ => j.Sound)
      (ChannelOps.onRead : Action ω ChannelError (Tracked τ α β) Unit) := by
  intro j w h
  refine (onRead_sound h).mono (fun _ _ _ hs => hs) (fun _ _ _ hr => ?_)
  obtain ⟨k, hk, hu, -⟩ := hr
  exact ⟨k, hk, hu⟩

theorem onWrite_keeps_sound :
    Action.Keeps (fun j _ => j.Sound)
      (ChannelOps.onWrite : Action ω ChannelError (Tracked τ α β) Unit) := by
  intro j w h
  refine (onWrite_sound h).mono (fun _ _ _ hs => hs) (fun _ _ _ hr => ?_)
  obtain ⟨k, hk, hu, -⟩ := hr
  exact ⟨k, hk, hu⟩

theorem perform_sound (op : ChannelOp) :
    Action.Keeps (fun j _ => j.Sound) (op.perform (χ := Tracked τ α β)) :=
  ChannelOps.perform_keeps (fun _ => applyMode_sound) (fun _ _ _ hf h => mapCore_sound hf h)
    (fun _ _ => read_sound) (fun _ => write_sound) onRead_keeps_sound onWrite_keeps_sound
    close_sound op

theorem Genuine.sound (h : j.Genuine) : j.Sound := by
  induction h with
  | made hk => exact ⟨_, rfl, .established hk⟩
  | expiring _ ih => exact ih
  | operated _ hops ih => exact hops.keeps perform_sound ih

/-- A channel with a genuine journal that a reactor takes over is a client with one. -/
theorem enroll_genuine {side : Side} {c : Tracked τ α β}
    (hc : c.Genuine) {known : List (Entry (Tracked τ α β))} :
    Action.Keeps (fun r _ => ∀ e ∈ r.clients, e ∈ known ∨ e.channel.Genuine)
      (Reactor.enroll side c : Action ω ReactorError (Reactor η (Tracked τ α β)) ChannelId) := by
  intro r w hr
  refine Reactor.enroll_ends.mono (fun id r' w' henrolled => ?_) (fun _ r' _ hrefused => ?_)
  · obtain ⟨-, c', hattach, rfl⟩ := henrolled
    have hop : (ChannelOp.attach r.token).perform c w = .done [] c' w' := by
      rw [ChannelOp.perform, Action.bind_apply, hattach]
      rfl
    have hc' : c'.Genuine := .operated hc (.single ⟨_, _, _, .inl ⟨[], hop⟩⟩)
    intro e he
    cases side with
    | listener => exact hr e he
    | client =>
      obtain he | he := List.mem_append.mp he
      · exact hr e he
      · rw [List.mem_singleton.mp he]
        exact .inr hc'
  · rw [hrefused.1]
    exact hr

/-- What a reactor closes for good was closed by its application before only if its transport is
gone. -/
theorem sound_of_fault {j' : Tracked τ α β} {w' : ω} (h : j.Sound)
    (hf : Reactor.Fault .client j w .closed j' w') :
    j'.channel.Bears fun k => k.Upheld j'.notes j'.written j'.closes ∧
      (j'.closes ≠ [] → k.transport = none) := by
  -- A channel that was closed and does not linger has lost its transport.
  have hparted {j' : Tracked τ α β}
      (h' : j'.channel.Bears fun k => k.Upheld j'.notes j'.written j'.closes ∧
        k.lingering = false) :
      j'.channel.Bears fun k => k.Upheld j'.notes j'.written j'.closes ∧
        (j'.closes ≠ [] → k.transport = none) := by
    obtain ⟨k, hk, hu, hl⟩ := h'
    refine ⟨k, hk, hu, fun hne => ?_⟩
    obtain hl' | hn := (hu.shut hne).2
    · rw [hl] at hl'
      cases hl'
    · exact hn
  cases hf with
  | lost hd =>
    obtain ⟨k, hk, hu⟩ := h
    refine ⟨k, hk, hu, fun _ => ?_⟩
    have hdescriptor := (Channel.connection_descriptor hk).symm.trans hd
    unfold Connection.descriptor at hdescriptor
    split at hdescriptor
    · cases hdescriptor
    · assumption
  | write hw =>
    obtain ⟨e, -, hx⟩ := hw
    exact hparted ((onWrite_sound h).refused hx)
  | read hr =>
    obtain ⟨e, hclosed, hx⟩ := hr
    obtain ⟨k, hk, hu, hlingers⟩ := (onRead_sound h).refused hx
    refine hparted ⟨k, hk, hu, Bool.eq_false_iff.mpr fun hl => ?_⟩
    rw [hlingers hl] at hclosed
    cases hclosed

/-- A reactor takes a channel's registration away before it closes it for good. -/
theorem dismissed_graceful {j' : Tracked τ α β} {w' : ω}
    (h : j.channel.Bears fun k => k.Upheld j.notes j.written j.closes ∧
      (j.closes ≠ [] → k.transport = none))
    (hc : ChannelOps.close (ChannelOps.mapCore ChannelCore.unregister j) w = .done () j' w') :
    j'.Graceful := by
  obtain ⟨k, hk, hu, hparted⟩ := h
  have hk₁ := Channel.mapCore_connection ChannelCore.unregister hk
  cases ht : k.transport with
  | none =>
    have hclose := Connection.close_parted (k := k.mapCore ChannelCore.unregister)
      (w := ({ machine := w } : Archive ω)) ht
    obtain ⟨_, _, hk', ⟨rfl, rfl⟩, hnotes, hwritten, hcloses⟩ := (close_ends hk₁ hclose).done hc
    refine ⟨j.closes, _, hcloses, hk', fun _ hall hintact => ?_⟩
    rw [hnotes, List.append_nil] at hintact ⊢
    rw [hwritten]
    exact (hu.parted ht).2 hall hintact
  | some t =>
    have hnil : j.closes = [] := by
      cases hcloses : j.closes with
      | nil => rfl
      | cons registered rest =>
        rw [hparted (by simp [hcloses])] at ht
        cases ht
    obtain ⟨k', _, hk', -, -, -, hcloses⟩ :=
      (close_ends hk₁ (w := w) (Q := fun _ _ _ => True)
        (.of_outcome (fun _ _ _ _ => trivial) (fun e _ _ _ => e.elim))).done hc
    refine ⟨[], k', ?_, hk', fun hne => absurd rfl hne⟩
    rw [hcloses]
    exact congrArg (· ++ [false]) hnil

/-- What is done to a client keeps its journal sound, and its end is graceful if it is that of a
closed one. -/
theorem upkeep [Hooks ω η (Tracked τ α β)] (hhooks : Hooks.Operates ω η (Tracked τ α β)) :
    Reactor.Upkeep η ChannelOps.Operated (Sound : Tracked τ α β → Prop)
      (fun j reason => reason = .closed → j.Graceful) where
  write := onWrite_keeps_sound
  read := onRead_keeps_sound
  writable h hx := (hhooks.writable hx).keeps perform_sound h
  readable h hx := (hhooks.readable hx).keeps perform_sound h
  visit hv h := hv.keeps perform_sound h
  evict h hf hc hreason := by
    subst hreason
    exact dismissed_graceful (sound_of_fault h hf) hc
  dismiss _ hreason _ hclosed := by
    subst hclosed
    obtain hr | hr := hreason <;> cases hr

end Journaled

namespace Command

variable {χ : Type} [ChannelOps ω χ]

/-- One of the operations that every kind of channel offers, on a registered channel. -/
def operate (id : ChannelId) (op : ChannelOp) : Command ω η χ :=
  .visit id ((fun _ => ()) <$> op.perform)

theorem operate_within {id : ChannelId} {op : ChannelOp} :
    (operate id op : Command ω η χ).Within ChannelOps.Operated := by
  intro c w c' w' h
  refine Action.Ends.leaves (P := fun c' _ => ChannelOps.Operated c c') ?_ h
  rw [Action.ends_map]
  exact .of_outcome (fun data c' w' hx => .single ⟨op, w, w', .inl ⟨data, hx⟩⟩)
    (fun e c' w' hx => .single ⟨op, w, w', .inr ⟨e, hx⟩⟩)

end Command

namespace Estate

section

variable [Machine ω] [Transport ω τ] [Acceptor ω α τ] [ChannelOps (Archive ω) β]
variable [Hooks ω η (Tracked τ α β)]

theorem register_genuine {s s' : Estate ω η (Tracked τ α β)} {c : Tracked τ α β}
    (hc : c.Genuine) (h : s.step (.register c) = some s') :
    ∀ e ∈ s'.reactor.clients, e ∈ s.reactor.clients ∨ e.channel.Genuine := by
  have hkeeps : Action.Keeps
      (fun r _ => ∀ e ∈ r.clients, e ∈ s.reactor.clients ∨ e.channel.Genuine)
      (Command.register (η := η) c).perform :=
    (Journaled.enroll_genuine hc).bind fun _ => Action.keeps_pure
  exact step_ends h (hkeeps s.reactor s.machine fun e he => .inl he)

/-- After any commands, at any point of an iteration, and whatever follows: when the application is
told that a client was closed, its end was graceful. As long as a client lingers, a dispatch of
readable channels passes it over, and it takes no output. -/
theorem close_delivers {serial : Nat} {settings : ReactorSettings} {hooks : η} {machine : ω}
    {s₀ s : Estate ω η (Tracked τ α β)}
    (hfounded : founded serial settings hooks machine = some s₀)
    (commands : List (Command ω η (Tracked τ α β))) (hplay : s₀.play commands = some s)
    (hhooks : Hooks.Operates ω η (Tracked τ α β))
    {r r' : Reactor (Watched η (Tracked τ α β)) _} {w w' : ω}
    (hmoves : Reactor.Moves (s.reactor, s.machine) (r, w)) {e : Entry (Tracked τ α β)}
    (he : e ∈ r.clients) (hgenuine : e.channel.Genuine)
    (hturns : Reactor.Turns ChannelOps.Operated (r, w) (r', w')) :
    (∀ j, HookCall.closed e.id j .closed ∈ r'.hooks.calls → j.Graceful) ∧
    ∀ e' ∈ r'.clients, e'.id = e.id → ∀ k, e'.channel.channel.connection? = some k →
      k.lingering = true →
      (∀ data v, ChannelOps.write data e'.channel v = .refused .closed e'.channel v) ∧
      ∀ slot ready rest v, slot.side = .client → slot.id = e.id →
        (Reactor.dispatchReads ((slot, ready) :: rest) : Action ω ReactorError _ _) r' v =
          Reactor.dispatchReads rest r' v := by
  have hordered : r.Ordered := (play_ordered hfounded commands hplay).moves hmoves
  have haccounted := (play_accounted commands (founded_accounted hfounded) hplay).moves hmoves
  have hfollowed := (Reactor.Followed.start hordered haccounted he hgenuine.sound).turns
    (Journaled.upkeep hhooks) hturns
  refine ⟨fun j hclosed => hfollowed.told j _ hclosed rfl, fun e' he' hid k hk hl => ?_⟩
  have hu := Channel.Bears.of_connection (hfollowed.kept e' he' hid) hk
  have hinactive : k.core.active = false := (hu.shut (hu.lingers hl).1).1
  refine ⟨fun data v => ?_, fun slot ready rest v hside hslot => ?_⟩
  · have hidle : ChannelOps.isActive e'.channel.channel = false := by
      rw [ChannelOps.isActive, Channel.core_eq hk, hinactive]
    exact Journaled.write_refused hidle
      (Channel.write_refused hk (Connection.write_inactive hinactive))
  · have hread := Journaled.keeping_refused (w := v)
      (Channel.onRead_refused hk (Connection.onRead_lingering hl))
    exact Reactor.dispatchReads_unread (hordered.turns hturns) he' hread rfl hside
      (hslot.trans hid.symm)

end

/-- A wire on which the first send is blocked. -/
def blockedWire : Scenario.Wire where
  name := "blocked"
  descriptor := 5
  label := some "blocked"
  script.send := [.fails (.bare .wouldBlock)]

def blockedConnection : Connection (Logged Scenario.Wire) where
  core := .new .forever "blocked"
  transport := some ⟨blockedWire⟩
  chunk := 1024
  policy := .plain

theorem blockedConnection_established : blockedConnection.Established :=
  ⟨.plain, {}, ⟨blockedWire⟩, { machine := ({} : Scenario.Bench) }, _, rfl⟩

abbrev Ledger : Type := Tracked Scenario.Wire Scenario.Gate (NoKind (Archive Scenario.Bench))

/-- A connection that lingers, is detached and closed once more is closed for good, and all its
output is lost. -/
theorem detached_close_loses :
    ∃ (s₀ s : Estate Scenario.Bench NoHooks Ledger) (j : Ledger) (k : Connection _),
      blockedConnection.Established ∧ founded 1 {} {} {} = some s₀ ∧
      s₀.play [.register { channel := .connection blockedConnection },
        .operate 1 (.write [97, 98, 99]), .operate 1 .close, .operate 1 .detach,
        .operate 1 .close, .runOnce] = some s ∧
      HookCall.closed 1 j .closed ∈ s.reactor.hooks.calls ∧ j.closes = [true, false, false] ∧
      j.channel.connection? = some k ∧ Note.Intact k.policy j.notes ∧
      ¬ Note.Delivered j.notes j.written := by
  have hrun : ((founded 1 {} {} {} : Option (Estate Scenario.Bench NoHooks Ledger)).bind
      (play [.register { channel := .connection blockedConnection },
        .operate 1 (.write [97, 98, 99]), .operate 1 .close, .operate 1 .detach,
        .operate 1 .close, .runOnce])).any (fun s => s.reactor.hooks.calls.any fun call =>
          (call.closed? 1).any fun j => j.closes == [true, false, false] &&
            (Note.accepted j.notes != j.written &&
            j.channel.connection?.any fun k => decide (Note.Intact k.policy j.notes))) = true := by
    decide +kernel
  obtain ⟨s, hs, hp⟩ := (Option.any_eq_true _ _).mp hrun
  obtain ⟨s₀, hfounded, hplay⟩ := Option.bind_eq_some_iff.mp hs
  obtain ⟨call, hcall, hclosed⟩ := List.any_eq_true.mp hp
  obtain ⟨j, hj, hclosed⟩ := (Option.any_eq_true _ _).mp hclosed
  simp only [Bool.and_eq_true, beq_iff_eq, bne_iff_ne] at hclosed
  obtain ⟨hcloses, hlost, hk⟩ := hclosed
  obtain ⟨k, hk, hintact⟩ := (Option.any_eq_true _ _).mp hk
  exact ⟨s₀, s, j, k, blockedConnection_established, hfounded, hplay,
    HookCall.closed?_eq_some hj ▸ hcall, hcloses, hk, of_decide_eq_true hintact,
    fun hd => hlost hd.accepted_eq⟩

/-- The wire is ready to send once the poll is over. -/
def sendingBench : Scenario.Bench where
  polls.ready := [(5, { output := true })]

theorem noHooks_operates : Hooks.Operates Scenario.Bench NoHooks Ledger where
  readable h := by
    cases h
    exact .refl
  writable h := by
    cases h
    exact .refl

/-- The connection lingers after its close, until the wire has taken all output. -/
theorem close_delivers_blockedConnection :
    ∃ (s₀ s₁ s₂ s₃ : Estate Scenario.Bench NoHooks Ledger) (e e' : Entry Ledger)
      (k : Connection (Logged Scenario.Wire)) (j : Ledger),
      (founded 1 {} {} sendingBench = some s₀ ∧
        s₀.play [.register { channel := .connection blockedConnection }] = some s₁ ∧
        Hooks.Operates Scenario.Bench NoHooks Ledger ∧ e ∈ s₁.reactor.clients ∧
        e.channel.Genuine) ∧
      (s₁.play [.operate 1 (.write [97, 98, 99]), .operate 1 .close] = some s₂ ∧
        e' ∈ s₂.reactor.clients ∧ e'.id = e.id ∧ e'.channel.channel.connection? = some k ∧
        k.lingering = true ∧
        ∀ data v, ChannelOps.write data e'.channel v = .refused .closed e'.channel v) ∧
      s₂.play [.runOnce] = some s₃ ∧ HookCall.closed e.id j .closed ∈ s₃.reactor.hooks.calls ∧
      (j.written = [97, 98, 99] ∧ j.closes = [true, false]) ∧
      Note.Delivered j.notes j.written := by
  have hrun : (founded 1 {} {} sendingBench : Option (Estate _ NoHooks Ledger)).any (fun s₀ =>
      s₀.reactor.clients.isEmpty &&
      (s₀.play [.register { channel := .connection blockedConnection }]).any fun s₁ =>
        s₁.reactor.clients.map (·.id) == [1] &&
        (s₁.play [.operate 1 (.write [97, 98, 99]), .operate 1 .close]).any fun s₂ =>
          s₂.reactor.clients.any (fun e' => e'.id == 1 &&
            e'.channel.channel.connection?.any (·.lingering)) &&
          (s₂.play [.runOnce]).any fun s₃ => s₃.reactor.hooks.calls.any fun call =>
            (call.closed? 1).any fun j =>
              (j.written == [97, 98, 99] && j.closes == [true, false]) &&
              j.channel.connection?.any fun k => decide (Note.Intact k.policy j.notes)) = true := by
    decide +kernel
  obtain ⟨s₀, hfounded, hp⟩ := (Option.any_eq_true _ _).mp hrun
  rw [Bool.and_eq_true, List.isEmpty_iff] at hp
  obtain ⟨hnone, hp⟩ := hp
  obtain ⟨s₁, hplay, hp⟩ := (Option.any_eq_true _ _).mp hp
  rw [Bool.and_eq_true, beq_iff_eq, List.map_eq_singleton_iff] at hp
  obtain ⟨⟨e, hclients, hid⟩, hp⟩ := hp
  obtain ⟨s₂, hclosing, hp⟩ := (Option.any_eq_true _ _).mp hp
  rw [Bool.and_eq_true, List.any_eq_true] at hp
  obtain ⟨⟨e', he', hlingers⟩, hp⟩ := hp
  rw [Bool.and_eq_true, beq_iff_eq] at hlingers
  obtain ⟨hid', hlingers⟩ := hlingers
  obtain ⟨k, hk, hl⟩ := (Option.any_eq_true _ _).mp hlingers
  obtain ⟨s₃, hending, hp⟩ := (Option.any_eq_true _ _).mp hp
  obtain ⟨call, hcall, hclosed⟩ := List.any_eq_true.mp hp
  have he : e ∈ s₁.reactor.clients := by
    rw [hclients]
    exact List.mem_singleton_self e
  have hgenuine : e.channel.Genuine := by
    have hstep : s₀.step (.register { channel := .connection blockedConnection }) = some s₁ := by
      rw [play, Option.bind_eq_some_iff] at hplay
      obtain ⟨s, hs, hend⟩ := hplay
      cases hend
      exact hs
    obtain hold | hnew := register_genuine (.made blockedConnection_established) hstep e he
    · rw [hnone] at hold
      cases hold
    · exact hnew
  have hturns₂ := play_turns (V := ChannelOps.Operated) _ (by
    intro c hc
    simp only [List.mem_cons, List.not_mem_nil, or_false] at hc
    obtain rfl | rfl := hc <;> exact Command.operate_within) hclosing
  have hturns₃ := play_turns (V := ChannelOps.Operated) _ (by
    intro c hc
    cases List.mem_singleton.mp hc
    trivial) hending
  obtain ⟨-, hlingering⟩ :=
    close_delivers hfounded _ hplay noHooks_operates .refl he hgenuine hturns₂
  obtain ⟨hgraceful, -⟩ :=
    close_delivers hfounded _ hplay noHooks_operates .refl he hgenuine (hturns₂.trans hturns₃)
  obtain ⟨j, hj, hclosed⟩ := (Option.any_eq_true _ _).mp hclosed
  simp only [Bool.and_eq_true, beq_iff_eq] at hclosed
  obtain ⟨⟨hwritten, hcloses⟩, hintact⟩ := hclosed
  have htold : HookCall.closed e.id j .closed ∈ s₃.reactor.hooks.calls := by
    rw [hid]
    exact HookCall.closed?_eq_some hj ▸ hcall
  obtain ⟨closes, k', hj, hk', hdelivered⟩ := hgraceful j htold
  have hbefore : closes = [true] := List.append_cancel_right (hj.symm.trans hcloses)
  rw [hk', Option.any_some, decide_eq_true_eq] at hintact
  have hids : e'.id = e.id := hid'.trans hid.symm
  exact ⟨s₀, s₁, s₂, s₃, e, e', k, j,
    ⟨hfounded, hplay, noHooks_operates, he, hgenuine⟩,
    ⟨hclosing, he', hids, hk, hl, (hlingering e' he' hids k hk hl).1⟩, hending, htold,
    ⟨hwritten, hcloses⟩, hdelivered (by simp [hbefore]) (by simp [hbefore]) hintact⟩

end Estate

end ChannelReactor
