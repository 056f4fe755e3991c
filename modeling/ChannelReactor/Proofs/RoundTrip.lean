import ChannelReactor.Proofs.Attunement
import ChannelReactor.Proofs.Backing
import ChannelReactor.Proofs.Registrations

/-! # Into a reactor and back

The mode that a channel had when a reactor took it over is stored beside the reactor's token, and
nothing but the channel's leaving touches it. Places shift as entries come and go, and the id still
leads to the channel, which is given back in the mode that it came with and otherwise as it is. -/
namespace ChannelReactor

variable {ω ε σ η χ τ α β : Type}

/-- What an attempt leaves of a subject of its own comes back, done or refused. -/
theorem Action.runOn_attempt {x : Action ω ε χ α} {own own' : χ} {s : σ} {w w' : ω}
    (h : x.Leaves own w own' w') : ∃ answer : Except ε α,
    (runOn own (attempt x) : Action ω β σ _) s w = .done (answer, own') s w' := by
  unfold runOn attempt
  obtain ⟨a, hx⟩ | ⟨e, hx⟩ := h
  · exact ⟨.ok a, by rw [hx]⟩
  · exact ⟨.error e, by rw [hx]⟩

namespace Reactor

/-- The id was given, and what stands under it, on either side, is as `P` says. -/
structure Tracked (P : Side → χ → Prop) (id : ChannelId) (r : Reactor η χ) : Prop where
  issued : id < r.nextId
  kept : ∀ side, ∀ e ∈ r.entries side, e.id = id → P side e.channel

section

variable {P : Side → χ → Prop} {id : ChannelId} {r : Reactor η χ} {side : Side} {c : χ}

/-- A channel that comes gets an id under which nothing stands. -/
theorem Ordered.tracked (h : r.Ordered) (hp : P side c) :
    Tracked P r.nextId (r.enrolled side c) := by
  refine ⟨Nat.lt_succ_self _, fun side' e he hid => ?_⟩
  obtain hold | ⟨rfl, rfl⟩ := mem_entries_enrolled he
  · exact absurd (h.below side' _ (List.mem_map_of_mem hold)) (by rw [hid]; exact Nat.lt_irrefl _)
  · exact hp

theorem Tracked.enrolled (h : Tracked P id r) : Tracked P id (r.enrolled side c) := by
  refine ⟨Nat.lt_succ_of_lt h.issued, fun side' e he hid => ?_⟩
  obtain hold | ⟨rfl, rfl⟩ := mem_entries_enrolled he
  · exact h.kept side' e hold hid
  · exact absurd hid (Nat.ne_of_gt h.issued)

theorem Tracked.count (h : Tracked P id r) (f : ReactorStats → ReactorStats) :
    Tracked P id (r.count f) :=
  ⟨h.issued, fun side e he => h.kept side e (by rwa [entries_count] at he)⟩

variable [ChannelOps ω χ] {V : χ → χ → Prop}

/-- What is done to channels keeps what stands under an id as `P` says if it keeps `P`. -/
theorem tracked_sustained (hV : ∀ side c c', V c c' → P side c → P side c') :
    Sustains V fun r : Reactor η χ => Tracked P id r where
  desk desk h := ⟨h.issued, fun side e he => h.kept side e (by rwa [entries_withDesk] at he)⟩
  count _ h := h.count _
  put := by
    intro r side index e c he hv h
    refine ⟨by cases side <;> exact h.issued, fun side' x hx hid => ?_⟩
    obtain hold | ⟨rfl, x', hx', rfl⟩ := mem_entries_put hx
    · exact h.kept side' x hold hid
    · cases he.symm.trans hx'
      exact hV _ _ _ hv (h.kept _ e (List.mem_of_getElem? he) hid)
  without := by
    intro r side index h
    refine ⟨by cases side <;> exact h.issued, fun side' x hx hid => ?_⟩
    exact h.kept side' x (mem_entries_without hx) hid
  enroll _ h := h.enrolled

theorem Tracked.turns [Machine ω] [Hooks ω η χ] {r r' : Reactor (Watched η χ) χ} {w w' : ω}
    (hV : ∀ side c c', V c c' → P side c → P side c') (hη : Conducts η V)
    (ht : Turns V (r, w) (r', w')) (h : Tracked P id r) : Tracked P id r' := by
  refine ht.keeps (I := Tracked P id) (fun h hturn => ?_) h
  exact (tracked_sustained hV).turn hη (fun f h => h.count f) (fun h => h.enrolled) h hturn

end

section

variable {r : Reactor η χ} {id : ChannelId} {side : Side} {index : Nat} {e : Entry χ} {w : ω}

theorem channel?_some {c : χ} (h : r.channel? id = some c) : ∃ side index e,
    r.find? id = some (side, index) ∧ (r.entries side)[index]? = some e ∧ e.id = id ∧
      e.channel = c := by
  obtain ⟨⟨side, index⟩, hfind, hentry⟩ := Option.bind_eq_some_iff.mp h
  obtain ⟨e, he, hchannel⟩ := Option.map_eq_some_iff.mp hentry
  obtain ⟨e', he', hid⟩ := find?_some hfind
  cases he.symm.trans he'
  exact ⟨side, index, e, hfind, he, hid, hchannel⟩

theorem find?_none (h : ∀ side, id ∉ r.ids side) : r.find? id = none := by
  have hplace (side : Side) : placeOf? id (r.entries side) = none := by
    refine List.findIdx?_eq_none_iff.mpr fun e he => ?_
    exact beq_false_of_ne fun hid => h side (List.mem_map.mpr ⟨e, he, hid⟩)
  rw [find?, show placeOf? id r.clients = none from hplace .client,
    show placeOf? id r.listeners = none from hplace .listener]
  rfl

/-- Where ids are distinct, the list without the entry at a place is the list without its id. -/
theorem eraseIdx_eq_filter :
    ∀ {entries : List (Entry χ)} {index : Nat}, (entries.map (·.id)).Nodup →
      entries[index]? = some e → entries.eraseIdx index = entries.filter (·.id != e.id)
  | x :: rest, 0, hids, he => by
    obtain rfl : x = e := Option.some.inj he
    obtain ⟨hnew, -⟩ := List.nodup_cons.mp hids
    have hothers : rest.filter (·.id != x.id) = rest := by
      refine List.filter_eq_self.mpr fun y hy => bne_iff_ne.mpr fun hid => hnew ?_
      exact List.mem_map.mpr ⟨y, hy, hid⟩
    rw [List.eraseIdx_cons_zero, List.filter_cons_of_neg (by simp), hothers]
  | x :: rest, index + 1, hids, he => by
    obtain ⟨hnew, hrest⟩ := List.nodup_cons.mp hids
    have hother : x.id ≠ e.id := fun hid =>
      hnew (List.mem_map.mpr ⟨e, List.mem_of_getElem? he, hid.symm⟩)
    rw [List.eraseIdx_cons_succ, eraseIdx_eq_filter hrest he]
    exact (List.filter_cons_of_pos (p := fun y : Entry χ => y.id != e.id)
      (bne_iff_ne.mpr hother)).symm

theorem Ordered.without_entries (h : r.Ordered) (he : (r.entries side)[index]? = some e)
    (side' : Side) :
    (r.without side index).entries side' = (r.entries side').filter (·.id != e.id) := by
  by_cases hside : side' = side
  · subst hside
    rw [← eraseIdx_eq_filter (h.nodup side') he]
    cases side' <;> rfl
  · have hsame : (r.without side index).entries side' = r.entries side' := by
      cases side <;> cases side' <;> first | rfl | exact absurd rfl hside
    rw [hsame]
    refine (List.filter_eq_self.mpr fun x hx => bne_iff_ne.mpr fun hid => ?_).symm
    exact h.other_side (List.mem_of_getElem? he) hside (List.mem_map.mpr ⟨x, hx, hid⟩)

variable [ChannelOps ω χ]

theorem unregister_unknown (h : ∀ side, id ∉ r.ids side) :
    unregister id r w = .refused (.unknownChannel id) r w := by
  rw [unregister, Action.bind_apply, Action.subject_apply]
  dsimp only
  rw [find?_none h]
  rfl

/-- The entry that an id leads to is given back as its detach leaves it. -/
theorem unregister_done {c : χ} {w' : ω} (hfind : r.find? id = some (side, index))
    (he : (r.entries side)[index]? = some e) (hx : ChannelOps.detach.Leaves e.channel w c w') :
    unregister id r w = .done c (r.without side index) w' := by
  have hentry : (entryAt side index : Action ω ReactorError (Reactor η χ) _) r w = .done e r w := by
    rw [entryAt, Action.bind_apply, Action.subject_apply]
    dsimp only
    rw [he]
    rfl
  obtain ⟨answer, hdetach⟩ :=
    Action.runOn_attempt (β := ReactorError) (s := r.without side index) hx
  rw [unregister, Action.bind_apply, Action.subject_apply]
  dsimp only
  rw [hfind]
  dsimp only
  rw [Action.bind_apply, hentry]
  dsimp only
  rw [Action.bind_apply, Action.update_apply]
  dsimp only
  rw [Action.bind_apply, hdetach]
  rfl

/-- Where all channels can be detached, all are given back, in their order. -/
theorem detachAll_done (hdetach : ∀ (c : χ) (w : ω), ∃ c' w', ChannelOps.detach.Leaves c w c' w')
    {s : σ} :
    ∀ (entries : List (Entry χ)) (w : ω), ∃ given w',
      (detachAll entries : Action ω ε σ (List χ)) s w = .done given s w' ∧
      List.Forall₂ (fun e c => ∃ w₁ w₂, ChannelOps.detach.Leaves e.channel w₁ c w₂) entries given
  | [], w => ⟨[], w, rfl, .nil⟩
  | e :: rest, w => by
    obtain ⟨c, w₁, hx⟩ := hdetach e.channel w
    obtain ⟨answer, hfirst⟩ := Action.runOn_attempt (β := ε) (s := s) hx
    obtain ⟨given, w', hrest, hgiven⟩ := detachAll_done hdetach rest w₁
    refine ⟨c :: given, w', ?_, .cons ⟨w, w₁, hx⟩ hgiven⟩
    rw [detachAll, Action.bind_apply, hfirst]
    dsimp only
    rw [Action.bind_apply, hrest]
    rfl

theorem takeListeners_done
    (hdetach : ∀ (c : χ) (w : ω), ∃ c' w', ChannelOps.detach.Leaves c w c' w') (w : ω) :
    ∃ given w', (takeListeners : Action ω ε (Reactor η χ) (List χ)) r w =
        .done given { r with listeners := [] } w' ∧
      List.Forall₂ (fun e c => ∃ w₁ w₂, ChannelOps.detach.Leaves e.channel w₁ c w₂)
        r.listeners given := by
  obtain ⟨given, w', hall, hgiven⟩ := detachAll_done (ε := ε) (s := { r with listeners := [] })
    hdetach r.listeners w
  refine ⟨given, w', ?_, hgiven⟩
  rw [takeListeners, Action.bind_apply, Action.subject_apply]
  dsimp only
  rw [Action.bind_apply, Action.update_apply]
  exact hall

end

/-- Either way of coming is an enrollment on the side where the channel belongs. -/
theorem enroll_of_register [ChannelOps ω χ] {r r' : Reactor η χ} {c : χ} {id : ChannelId}
    {w w' : ω} (h : register c r w = .done id r' w' ∨ listen c r w = .done id r' w') :
    enroll (sideOf c) c r w = .done id r' w' := by
  obtain h | h := h
  · exact h
  · unfold listen at h
    split at h
    · rename_i hlistening
      rwa [show sideOf c = .listener from if_pos hlistening]
    · cases h

/-- An id that is gone never comes back. -/
theorem unregister_forgotten [Machine ω] [ChannelOps ω χ] [Hooks ω η χ] {V : χ → χ → Prop}
    {r r' : Reactor (Watched η χ) χ} {w w' : ω} {id : ChannelId} (hissued : id < r.nextId)
    (hgone : ∀ side, id ∉ r.ids side) (ht : Turns V (r, w) (r', w')) :
    unregister id r' w' = .refused (.unknownChannel id) r' w' :=
  unregister_unknown fun side hid => hgone side ((Renews.turns ht).ids side id hid hissued)

end Reactor

section

variable [Machine ω] [Transport ω τ] [Acceptor ω α τ] [Hooks ω η (Channel τ α (NoKind ω))]

/-- What callbacks and such hooks do to a channel is handling. -/
theorem Hooks.Handles.handled (h : Hooks.Handles ω η τ α) :
    Reactor.Conducts (χ := Channel τ α (NoKind ω)) η Channel.Handled where
  write hx := .single (.operate .onWrite nofun hx.andThen)
  read hx := .single (.operate .onRead nofun hx.andThen)
  accept hx := .single (.accept hx)
  writable := h.writable
  readable := h.readable

end

namespace Estate

variable [Machine ω] [Transport ω τ] [Acceptor ω α τ] [Hooks ω η (Channel τ α (NoKind ω))]
variable {s₀ : Estate ω η (Channel τ α (NoKind ω))}

/-- A channel that a reactor took over in some mode, at any point of its life, is later what the
callbacks, the hooks and the owner made of it. Unless it was closed, it is given back with this mode
recorded and set on what is below it, without a registration, and else exactly as it stands; its id
is unknown from then on, and all other entries stand as they stood. A listener is given back so
with all the others, too, which come in their order. -/
theorem registration_restored (htransport : Transport.Pliant ω τ)
    (hacceptor : Acceptor.Pliant ω α τ) (hhooks : Hooks.Handles ω η τ α) {serial : Nat}
    {settings : ReactorSettings} {hooks : η} {machine : ω}
    (hfounded : founded serial settings hooks machine = some s₀)
    {r₀ r₁ r : Reactor (Watched η (Channel τ α (NoKind ω))) (Channel τ α (NoKind ω))} {w₀ w₁ w : ω}
    (hbefore : Reactor.Turns Channel.Handled (s₀.reactor, s₀.machine) (r₀, w₀))
    {c : Channel τ α (NoKind ω)} (hc : c.Sound) {mode : WaitMode} (hmode : ChannelOps.mode c = mode)
    {id : ChannelId} (hregister : Reactor.register c r₀ w₀ = .done id r₁ w₁ ∨
      Reactor.listen c r₀ w₀ = .done id r₁ w₁)
    (hafter : Reactor.Turns Channel.Handled (r₁, w₁) (r, w)) {held : Channel τ α (NoKind ω)}
    (hheld : r.channel? id = some held) (hactive : ChannelOps.isActive held = true) :
    (∃ c₀, ChannelOps.attach r₀.token c w₀ = .done () c₀ w₁ ∧ c₀.Handled held) ∧
    (∃ back r' w', Reactor.unregister id r w = .done back r' w' ∧
      held.Restores mode w w' back ∧
      ChannelOps.core back = { ChannelOps.core held with mode, registration := none } ∧
      (∀ side, r'.entries side = (r.entries side).filter (·.id != id)) ∧
      ∀ r'' w'', Reactor.Turns Channel.Handled (r', w') (r'', w'') →
        Reactor.unregister id r'' w'' = .refused (.unknownChannel id) r'' w'') ∧
    (ChannelOps.isListening c = true → ∃ given r' w',
      (Reactor.takeListeners : Action ω ReactorError _ _) r w = .done given r' w' ∧
      List.Forall₂ (fun e back => ∃ w₂ w₃, ChannelOps.detach.Leaves e.channel w₂ back w₃)
        r.listeners given ∧
      (∃ index back w₂ w₃, r.find? id = some (.listener, index) ∧ given[index]? = some back ∧
        held.Restores mode w₂ w₃ back ∧
        ChannelOps.core back = { ChannelOps.core held with mode, registration := none }) ∧
      r'.listeners = [] ∧ r'.clients = r.clients ∧
      ∀ r'' w'', Reactor.Turns Channel.Handled (r', w') (r'', w'') →
        Reactor.unregister id r'' w'' = .refused (.unknownChannel id) r'' w'') := by
  have hs : ChannelOps.Steady ω (Channel τ α (NoKind ω)) := Channel.steady (NoKind.steady ω)
  have ho₀ : r₀.Ordered := (founded_ordered hfounded).turns hbefore
  obtain ⟨rfl, c₀, hattach, rfl⟩ :=
    Reactor.enroll_ends.done (Reactor.enroll_of_register hregister)
  -- What stands under the id is on its side, and the channel that came with some handling.
  have htracked : Reactor.Tracked (fun side c' => side = Reactor.sideOf c ∧ c₀.Handled c')
      r₀.nextId r :=
    .turns (fun _ _ _ hv h => ⟨h.1, h.2.trans hv⟩) hhooks.handled hafter (ho₀.tracked ⟨rfl, .refl⟩)
  have ho : r.Ordered := ho₀.enrolled.turns hafter
  obtain ⟨side, index, e, hfind, he, hid, rfl⟩ := Reactor.channel?_some hheld
  obtain ⟨hside, hhandled⟩ := htracked.kept side e (List.mem_of_getElem? he) hid
  obtain ⟨-, hregistration, -⟩ := hs.attach hattach
  have hbacked : e.channel.Backed :=
    hhandled.backed ((Channel.attach_backed _ _ hc.backed).done hattach)
  have hjoined : ChannelOps.isRegistered c₀ = true := by
    rw [ChannelOps.isRegistered, ChannelCore.isRegistered, hregistration]
    rfl
  have hprior : (ChannelOps.core e.channel).registration =
      some { token := r₀.token, prior := mode } := by
    rw [(hhandled.alike (NoKind.steady ω) hjoined).core.registration, hregistration, hmode]
  have hrestores (w₂ : ω) := Channel.detach_restores htransport hacceptor hbacked hactive hprior
    (show mode.normalized = mode from hmode ▸ hc.normal) w₂
  refine ⟨⟨c₀, hattach, hhandled⟩, ?_, fun hlistening => ?_⟩
  · obtain ⟨back, w', hdetach, hrestored⟩ := hrestores w
    have hentries := ho.without_entries he
    rw [hid] at hentries
    have hnext : (r.without side index).nextId = r.nextId := by cases side <;> rfl
    refine ⟨back, _, w', Reactor.unregister_done hfind he (.inl ⟨(), hdetach⟩), hrestored,
      hrestored.core, hentries, fun r'' w'' ht => ?_⟩
    refine Reactor.unregister_forgotten (hnext ▸ htracked.issued) (fun side' hmem => ?_) ht
    obtain ⟨x, hx, hxid⟩ := List.mem_map.mp hmem
    rw [hentries side', List.mem_filter] at hx
    exact bne_iff_ne.mp hx.2 hxid
  · obtain rfl : side = .listener := hside.trans (if_pos hlistening)
    obtain ⟨given, w', htake, hgiven⟩ := Reactor.takeListeners_done (ε := ReactorError) (r := r)
      (Channel.detach_total htransport hacceptor) w
    refine ⟨given, _, w', htake, hgiven, ?_, rfl, rfl, fun r'' w'' ht => ?_⟩
    · obtain ⟨hlength, hget⟩ := List.forall₂_iff_get.mp hgiven
      obtain ⟨hlt, hentry⟩ := List.getElem?_eq_some_iff.mp he
      have hlt' : index < given.length := hlength ▸ hlt
      obtain ⟨w₂, w₃, hleaves⟩ := hget index hlt hlt'
      rw [List.get_eq_getElem, List.get_eq_getElem, show r.listeners[index] = e from hentry]
        at hleaves
      obtain ⟨back, w₃', hdetach, hrestored⟩ := hrestores w₂
      obtain ⟨rfl, rfl⟩ := hleaves.unique (.inl ⟨(), hdetach⟩)
      exact ⟨index, _, w₂, w₃, hfind, List.getElem?_eq_getElem hlt', hrestored, hrestored.core⟩
    · have hapart : e.id ∉ r.ids .client :=
        ho.other_side (List.mem_of_getElem? he) (by decide)
      refine Reactor.unregister_forgotten (r := { r with listeners := [] }) htracked.issued
        (fun side' hmem => ?_) ht
      cases side' with
      | listener => cases hmem
      | client => exact hapart (hid ▸ hmem)

/-- A gate whose mode can always be set, for wires of which that is true. -/
structure PliantGate where
  gate : Scenario.Gate

instance : Acceptor Scenario.Bench PliantGate Session.PliantWire where
  accept := do
    let (wire, peer) ← Action.focus PliantGate.gate (fun gate _ => ⟨gate⟩) Acceptor.accept
    pure (⟨wire⟩, peer)
  setMode mode := do Scenario.record (.mode (← Action.subject).gate.name (.ok mode))
  descriptor a := a.gate.descriptor
  patience a := Acceptor.patience a.gate

theorem pliantWire_pliant : Transport.Pliant Scenario.Bench Session.PliantWire :=
  fun _ _ _ => ⟨_, _, rfl⟩

theorem pliantGate_pliant : Acceptor.Pliant Scenario.Bench PliantGate Session.PliantWire :=
  fun _ _ _ => ⟨_, _, rfl⟩

/-- A listener that waits at most a hundred nanoseconds, and has one connection to accept. -/
def waitingListener : Channel Session.PliantWire PliantGate (NoKind Scenario.Bench) :=
  .listener
    { core := .new (.upTo ⟨100⟩) "gate"
      acceptor := some
        { gate :=
            { name := "gate", descriptor := 9, accepts := [.connects { name := "wire" } "peer"] } }
      settings := {}
      policy := .plain }

/-- A connection that waits at most two hundred, and has two bytes to receive. -/
def waitingClient : Channel Session.PliantWire PliantGate (NoKind Scenario.Bench) :=
  .expiring
    (.connection
      { core := .new (.upTo ⟨200⟩) "client"
        transport := some
          { wire :=
              { name := "client", descriptor := 10, script.recv := [{ act := .data [1, 2] }] } }
        chunk := 4
        policy := .plain })
    .start ⟨1000⟩

/-- After an accept, a read, a write and a change of mode in vain, the client is given back in its
mode with the bytes it received and is to send, and the listener in its own. -/
theorem registration_restored_waitingChannels :
    ∃ (s : Estate Scenario.Bench NoHooks (Channel Session.PliantWire PliantGate (NoKind _)))
      (listener client : Channel Session.PliantWire PliantGate (NoKind _)),
      (s.reactor.ids .listener = [1] ∧ s.reactor.ids .client = [2, 3]) ∧
      (s.reactor.channel? 1 = some listener ∧ s.reactor.channel? 2 = some client) ∧
      ((ChannelOps.core client).input.toList = [1, 2] ∧
        (ChannelOps.core client).output.toList = [3]) ∧
      (∃ back r' w', Reactor.unregister 2 s.reactor s.machine = .done back r' w' ∧
        client.Restores (.upTo ⟨200⟩) s.machine w' back ∧
        (∀ side, r'.entries side = (s.reactor.entries side).filter (·.id != 2)) ∧
        Reactor.unregister 2 r' w' = .refused (.unknownChannel 2) r' w') ∧
      ∃ given r' w', (Reactor.takeListeners : Action _ ReactorError _ _) s.reactor s.machine =
          .done given r' w' ∧
        (∃ index back w₂ w₃, s.reactor.find? 1 = some (.listener, index) ∧
          given[index]? = some back ∧ listener.Restores (.upTo ⟨100⟩) w₂ w₃ back) ∧
        Reactor.unregister 1 r' w' = .refused (.unknownChannel 1) r' w' := by
  have hrun : (founded 1 {} {}
        { polls.ready := [(9, { input := true }), (10, { input := true })] } :
      Option (Estate Scenario.Bench NoHooks (Channel Session.PliantWire PliantGate (NoKind _)))).any
      (fun s₀ => (Reactor.listen waitingListener s₀.reactor s₀.machine).any fun id r₁ w₁ =>
        id == 1 && (Reactor.register waitingClient r₁ w₁).any fun id r₂ w₂ =>
          id == 2 && (({ reactor := r₂, machine := w₂ } : Estate _ _ _).play
              [.runOnce, .operate 2 (.write [3]), .operate 2 (.setMode .forever)]).any fun s =>
            s.reactor.ids .listener == [1] && s.reactor.ids .client == [2, 3] &&
            (s.reactor.channel? 1).any ChannelOps.isActive &&
            (s.reactor.channel? 2).any fun client => ChannelOps.isActive client &&
              (ChannelOps.core client).input.toList == [1, 2] &&
              (ChannelOps.core client).output.toList == [3]) = true := by
    decide +kernel
  simp only [Option.any_eq_true, Outcome.any_eq_true, Bool.and_eq_true, beq_iff_eq] at hrun
  obtain ⟨s₀, hfounded, _, r₁, w₁, hlistener, rfl, _, r₂, w₂, hclient, rfl, s, hplay,
    ⟨⟨hids, hids'⟩, listener, hheld₁, hactive₁⟩, client, hheld₂, ⟨hactive₂, hinput⟩,
    houtput⟩ := hrun
  have hcommands : ∀ command ∈
      ([.runOnce, .operate 2 (.write [3]), .operate 2 (.setMode .forever)] :
        List (Command Scenario.Bench NoHooks (Channel Session.PliantWire PliantGate (NoKind _)))),
      command.Within Channel.Handled := by
    simp only [List.forall_mem_cons]
    exact ⟨trivial, Command.operate_handled nofun, Command.operate_handled nofun, nofun⟩
  have hlistened : Reactor.Turns Channel.Handled (s₀.reactor, s₀.machine) (r₁, w₁) :=
    (Reactor.enroll_turns _ _ .refl).done (Reactor.enroll_of_register (.inr hlistener))
  have hregistered : Reactor.Turns Channel.Handled (r₁, w₁) (r₂, w₂) :=
    (Reactor.enroll_turns _ _ .refl).done hclient
  have hplayed : Reactor.Turns Channel.Handled (r₂, w₂) (s.reactor, s.machine) :=
    play_turns _ hcommands hplay
  obtain ⟨-, ⟨back, r', w', hback, hrestored, -, hentries, hforgotten⟩, -⟩ :=
    registration_restored pliantWire_pliant pliantGate_pliant noHooks_handle hfounded hlistened
      (c := waitingClient) ⟨⟨fun _ => rfl, nofun⟩, rfl⟩ rfl (.inl hclient) hplayed hheld₂ hactive₂
  obtain ⟨-, -, hlisteners⟩ :=
    registration_restored pliantWire_pliant pliantGate_pliant noHooks_handle hfounded .refl
      (c := waitingListener) ⟨fun _ => rfl, rfl⟩ rfl (.inr hlistener) (hregistered.trans hplayed)
      hheld₁ hactive₁
  obtain ⟨given, r'', w'', htake, -, ⟨index, back', w₃, w₄, hfind, hgiven, hrestored', -⟩, -, -,
    hforgotten'⟩ := hlisteners rfl
  exact ⟨s, listener, client, ⟨hids, hids'⟩, ⟨hheld₁, hheld₂⟩, ⟨hinput, houtput⟩,
    ⟨back, r', w', hback, hrestored, hentries, hforgotten _ _ .refl⟩, given, r'', w'', htake,
    ⟨index, back', w₃, w₄, hfind, hgiven, hrestored'⟩, hforgotten' _ _ .refl⟩

end Estate

end ChannelReactor
