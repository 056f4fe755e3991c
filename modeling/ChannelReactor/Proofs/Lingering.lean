import ChannelReactor.Proofs.ConnectionEnds
import ChannelReactor.Proofs.Layers
import ChannelReactor.Proofs.Polling
import ChannelReactor.Scenario.Stub

/-! # Lingering connections

A connection that was closed with output still to send lingers until the output is sent. It is a
reactor's only if the reactor hears of the descriptor being writable, and it asks for that only
while output is pending. This is so as long as the transport says that it has output whenever a
flush of it is blocked. A transport that does not say so leaves the connection lingering with
nothing to wait for. -/
namespace ChannelReactor

variable {ω τ α β : Type}

namespace Connection

variable [Transport ω τ] {k : Connection τ}

/-- A connection that lingers is inactive and holds output. -/
def Waits (k : Connection τ) : Prop :=
  k.lingering = true → k.core.active = false ∧ k.Held

theorem Waits.of_not_lingering (h : k.lingering = false) : k.Waits := by
  intro hl
  rw [h] at hl
  cases hl

theorem Waits.active (h : k.Waits) (ha : k.core.active = true) : k.lingering = false := by
  cases hl : k.lingering with
  | false => rfl
  | true =>
    have hi := (h hl).1
    rw [ha] at hi
    cases hi

/-- A transport that says that it has output goes on saying so, unless a mode silences it. -/
theorem Held.tuned {t t' : τ} {w w' : ω} {mode : WaitMode} (h : k.Held) (ht : k.transport = some t)
    (hx : (Transport.setMode mode).Leaves t w t' w') :
    Held { k with transport := some t' } := by
  obtain ⟨t₀, ht₀, hwait⟩ := h
  cases ht.symm.trans ht₀
  by_cases he : k.core.output.toList = []
  · cases hw : Transport.wantsWrite t' with
    | true => exact .of_wantsWrite rfl hw
    | false =>
      obtain hp | ⟨-, hmute⟩ := hwait
      · have hwants : Transport.wantsWrite t = true := by
          simpa [isWritePending, ByteRing.isEmpty_iff.mpr he, ht] using hp
        exact ⟨t', rfl, .inr ⟨he, .silenced hwants hx hw⟩⟩
      · exact ⟨t', rfl, .inr ⟨he, .tuned hmute hx hw⟩⟩
  · exact .of_output rfl he

theorem retune_waits (f : ChannelCore → ChannelCore) (k : Connection τ)
    (hf : ChannelCore.Retunes f) (h : k.Waits) : (k.mapCore f).Waits := by
  obtain ⟨mode, registration, hcore⟩ := hf k.core
  rw [mapCore, hcore]
  exact h

theorem applyMode_waits {mode : WaitMode} :
    Action.Keeps (fun k _ => k.Waits) (applyMode (ω := ω) (τ := τ) mode) := by
  intro k w h
  rw [applyMode, callTransport, Action.ends_bind]
  refine onTransport_answers (fun t t' w' answer ht hx => ?_) (fun _ => h)
  have hwaits : Waits { k with transport := some t' } := fun hl =>
    ⟨(h hl).1, (h hl).2.tuned ht hx.leaves⟩
  cases answer with
  | ok _ => exact hwaits
  | error _ => exact hwaits

/-- An active connection talks to its transport, and does not come to linger by that. -/
theorem Waits.engaged {k' : Connection τ} {w w' : ω} (h : k.Waits)
    (hx : Engaged (k, w) (k', w')) : k'.Waits := by
  obtain ⟨hx, hidle⟩ := hx
  cases ha : k.core.active with
  | true => exact .of_not_lingering (hx.kept.lingering.trans (h.active ha))
  | false =>
    cases hidle ha
    exact h

theorem read_waits [Machine ω] {count : Nat} {opts : ReadOptions} :
    Action.Keeps (fun k _ => k.Waits) (read (ω := ω) (τ := τ) count opts) := by
  intro k w h
  refine read_exchanged.mono (fun data k' w' hx => ?_) (fun _ _ _ hx => h.engaged hx)
  obtain ⟨k₁, core, hx, hcore, rfl⟩ := hx
  obtain ⟨input, rfl, -⟩ := ChannelCore.takeInput_ok hcore
  have hk₁ : k₁.Waits := h.engaged hx
  exact hk₁

theorem write_waits {data : Bytes} :
    Action.Keeps (fun k _ => k.Waits) (write (ω := ω) (τ := τ) data) := by
  intro k w h
  have hqueued {k' : Connection τ} {w' : ω} (ha : k.core.active = true)
      (hx : Exchanged (k.mapCore (·.enqueue data), w) (k', w')) : k'.Waits :=
    .of_not_lingering (hx.kept.lingering.trans (h.active ha))
  refine write_exchanged.mono (fun _ k' w' ⟨ha, hx⟩ => hqueued ha hx) (fun e k' w' hx => ?_)
  obtain ⟨ha, hx⟩ | ⟨-, -, rfl, -⟩ := hx
  · exact hqueued ha hx
  · exact h

theorem onRead_waits : Action.Keeps (fun k _ => k.Waits) (onRead (ω := ω) (τ := τ)) := by
  intro k w h
  refine onRead_exchanged.mono (fun _ k' w' hx => h.engaged hx.2) (fun e k' w' hx => ?_)
  obtain ⟨-, hx⟩ | ⟨-, -, rfl, -⟩ := hx
  · exact h.engaged hx
  · exact h

theorem Parts.waits {p q : Connection τ × ω} {P : Connection τ × ω → Prop} (h : Parts p P q) :
    q.1.Waits := by
  obtain ⟨k, w, w', -, -, -, rfl⟩ := h
  exact .of_not_lingering rfl

/-- A connection that goes on lingering has been blocked once more. -/
theorem onWrite_waits : Action.Keeps (fun k _ => k.Waits) (onWrite (ω := ω) (τ := τ)) := by
  intro k w h
  refine onWrite_exchanged.mono (fun _ k' w' ⟨hx, hheld⟩ hl => ?_) (fun e k' w' hx => ?_)
  · have hlingers : k.lingering = true := hx.kept.lingering.symm.trans hl
    exact ⟨hx.kept.inactive (h hlingers).1, hheld hlingers⟩
  · obtain ⟨hl, hx⟩ | ⟨-, hparts⟩ := hx
    · exact .of_not_lingering (hx.kept.lingering.trans hl)
    · exact hparts.waits

/-- A close makes a connection linger when its flush was blocked. -/
theorem close_waits : Action.Keeps (fun k _ => k.Waits) (close (ω := ω) (τ := τ)) := by
  intro k w h
  refine close_exchanged.mono (fun _ k' w' hc => ?_) (fun e _ _ _ => e.elim)
  cases hc with
  | idle _ => exact fun hl => ⟨rfl, (h hl).2⟩
  | lingers hx _ _ hheld => exact fun _ => ⟨hx.kept.inactive rfl, hheld⟩
  | parts _ hparts => exact hparts.waits

/-- A connection that lingers takes nothing in, and stays as it is. -/
theorem onRead_lingering {w : ω} (hl : k.lingering = true) :
    onRead (ω := ω) k w = .refused .dataNotAvailable k w := by
  rw [onRead, Action.bind_apply, Action.subject_apply]
  dsimp only
  rw [if_pos hl, Action.refuse_apply]

end Connection

/-- The transport says that it has output after every flush that was blocked, and goes on saying so
in any mode. -/
structure Transport.Candid (policy : Policy) (τ : Type) [Transport ω τ] : Prop where
  flush : ∀ {t t' : τ} {w w' : ω} {e : IoError}, Transport.flush t w = .refused e t' w' →
    policy.judge .send e = .retry → Transport.wantsWrite t' = true
  setMode : ∀ {t t' : τ} {w w' : ω} {mode : WaitMode},
    (Transport.setMode mode).Leaves t w t' w' → Transport.wantsWrite t = true →
      Transport.wantsWrite t' = true

theorem Connection.Held.pending [Transport ω τ] {k : Connection τ} (h : k.Held)
    (hcandid : Transport.Candid k.policy τ) : k.isWritePending = true := by
  have hmute {t : τ} (hm : Connection.Mute k.policy t) : False := by
    induction hm with
    | flush hx hretry hquiet =>
      rw [hcandid.flush hx hretry] at hquiet
      cases hquiet
    | silenced hwants hx hquiet =>
      rw [hcandid.setMode hx hwants] at hquiet
      cases hquiet
    | tuned _ _ _ ih => exact ih
  obtain ⟨t, -, hp | ⟨-, hm⟩⟩ := h
  · exact hp
  · exact (hmute hm).elim

namespace Channel

variable [Machine ω] [Transport ω τ] [Acceptor ω α τ] [ChannelOps ω β]
variable {c₀ c : Channel τ α β} {k₀ : Connection τ}

theorem operated_waits (hk₀ : c₀.connection? = some k₀) (hmade : k₀.Established)
    (hops : ChannelOps.Operated c₀ c) : c.Bears Connection.Waits := by
  have hfresh : c₀.Bears Connection.Waits := ⟨k₀, hk₀, .of_not_lingering hmade.fresh.2.2⟩
  exact hops.keeps (perform_bears Connection.retune_waits (fun _ => Connection.applyMode_waits)
    (fun _ _ => Connection.read_waits) (fun _ => Connection.write_waits) Connection.onRead_waits
    Connection.onWrite_waits Connection.close_waits) hfresh

/-- A connection that lingers after any operations, over any transport, is inactive, refuses to
read, and has output pending; or it has none left, and its transport would not flush for now and
does not say that it has output. The latter cannot be with a transport that is candid. A reactor
whose client the connection is asks to hear of its descriptor being writable just when output is
pending. -/
theorem lingering_polled (hk₀ : c₀.connection? = some k₀) (hmade : k₀.Established)
    (hops : ChannelOps.Operated c₀ c) :
    ∃ k, c.connection? = some k ∧
      (k.lingering = true → k.core.active = false ∧
        (∀ w, (ChannelOps.onRead : Action ω ChannelError (Channel τ α β) Unit) c w =
          .refused .dataNotAvailable c w) ∧
        (∃ t, k.transport = some t ∧ (k.isWritePending = true ∨
          k.core.output.toList = [] ∧ Connection.Mute k.policy t)) ∧
        (Transport.Candid k.policy τ → k.isWritePending = true)) ∧
      ∀ {η : Type} (r : Reactor η (Channel τ α β)) (table : PollTable) (id : ChannelId),
        Reactor.pollTable r = .ok table → ⟨id, c⟩ ∈ r.clients →
          ∃ i ∈ table.set.interests, Reactor.Asks (.client, ⟨id, c⟩) i ∧
            i.write = k.isWritePending := by
  obtain ⟨k, hk, hwaits⟩ := operated_waits hk₀ hmade hops
  refine ⟨k, hk, fun hl => ?_, fun r table id htable hclient => ?_⟩
  · obtain ⟨hinactive, hheld⟩ := hwaits hl
    exact ⟨hinactive, fun w => onRead_refused hk (Connection.onRead_lingering hl), hheld,
      hheld.pending⟩
  · have hregistered : (Side.client, ⟨id, c⟩) ∈ r.registered :=
      List.mem_append_right _ (List.mem_map_of_mem hclient)
    obtain ⟨i, hi, hasks⟩ := Reactor.pollTable_mem htable hregistered
    refine ⟨i, hi, hasks, ?_⟩
    rw [hasks.write, isWritePending_eq hk]
    rfl

/-- A wire that holds nothing, and on which the first flush is blocked. -/
def muteWire : Scenario.Wire where
  name := "mute"
  script.flush := [.fails (.bare .wouldBlock)]

/-- A reactor with one client. -/
def serving (c : Channel Scenario.Wire Scenario.Gate (NoKind Scenario.Bench)) :
    Reactor NoHooks (Channel Scenario.Wire Scenario.Gate (NoKind Scenario.Bench)) where
  serial := 1
  settings := {}
  hooks := {}
  clients := [⟨1, c⟩]
  nextId := 2

/-- The wire takes all output and its flush is blocked: the connection lingers, and its reactor does
not ask to hear of the wire being writable. -/
theorem lingering_polled_muteWire :
    ∃ (k₀ k : Connection Scenario.Wire) (c : Channel _ Scenario.Gate (NoKind Scenario.Bench))
      (table : PollTable),
      (k₀.Established ∧ ChannelOps.Operated (Channel.connection k₀) c ∧ c.connection? = some k ∧
        Reactor.pollTable (serving c) = .ok table) ∧
      (k.lingering = true ∧ k.isWritePending = false) ∧
      (k.core.active = false ∧ (∀ w, ChannelOps.onRead c w = .refused .dataNotAvailable c w) ∧
        ∃ t, k.transport = some t ∧ (k.isWritePending = true ∨
          k.core.output.toList = [] ∧ Connection.Mute k.policy t)) ∧
      ∃ i ∈ table.set.interests, Reactor.Asks (.client, ⟨1, c⟩) i ∧ i.write = false := by
  have hrun : ((Connection.establish .plain {} muteWire :
      Action Scenario.Bench ChannelError Unit _) () {}).any (fun k₀ _ w =>
        (ChannelOps.operate [.attach ⟨1, none⟩, .write [97, 98, 99], .close]
          (Channel.connection k₀ : Channel _ Scenario.Gate (NoKind Scenario.Bench)) w).any
          fun p => (Reactor.pollTable (serving p.1)).isOk &&
            p.1.connection?.any fun k => k.lingering && !k.isWritePending) = true := by
    decide +kernel
  obtain ⟨k₀, _, w, hmade, hrun⟩ := Outcome.any_eq_true.mp hrun
  obtain ⟨⟨c, w'⟩, hops, hcheck⟩ := (Option.any_eq_true _ _).mp hrun
  obtain ⟨htable, hk⟩ := Bool.and_eq_true_iff.mp hcheck
  obtain ⟨k, hk, hlingers⟩ := (Option.any_eq_true _ _).mp hk
  obtain ⟨hl, hp⟩ := Bool.and_eq_true_iff.mp hlingers
  have hquiet : k.isWritePending = false := by simpa using hp
  have hest : k₀.Established := ⟨.plain, {}, muteWire, {}, w, hmade⟩
  have hoperated := ChannelOps.operated_of_operate hops
  cases hpoll : Reactor.pollTable (serving c) with
  | error e =>
    rw [hpoll] at htable
    cases htable
  | ok table =>
    have hmade : (Channel.connection k₀ : Channel _ Scenario.Gate
        (NoKind Scenario.Bench)).connection? = some k₀ := rfl
    obtain ⟨k', hk', hwaits, hasked⟩ := lingering_polled hmade hest hoperated
    cases hk.symm.trans hk'
    obtain ⟨hinactive, hread, hheld, -⟩ := hwaits hl
    obtain ⟨i, hi, hasks, hwrite⟩ := hasked (serving c) table 1 hpoll (List.mem_singleton_self _)
    exact ⟨k₀, k, c, table, ⟨hest, hoperated, hk, hpoll⟩, ⟨hl, hquiet⟩,
      ⟨hinactive, hread, hheld⟩, i, hi, hasks, hwrite.trans hquiet⟩

end Channel

end ChannelReactor
