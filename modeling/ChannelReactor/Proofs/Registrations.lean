import ChannelReactor.Proofs.GracefulClose
import ChannelReactor.Proofs.Handling
import ChannelReactor.Proofs.Stages

/-! # Registrations

Every channel that a reactor has is on the side where it belongs, waits for nothing and has the
reactor's token, and the ids stand in the order in which they were given. That is so after
everything that a reactor and its owner can do, as long as nobody takes a registration away from a
channel behind the reactor's back. -/
namespace ChannelReactor

variable {ω η χ τ α : Type}

namespace Reactor

variable [ChannelOps ω χ]

/-- A channel as a reactor with this token has it on one side. -/
structure Held (token : Token) (side : Side) (c : χ) : Prop where
  listening : ChannelOps.isListening c = (side == .listener)
  mode : ChannelOps.mode c = .nonblocking
  token : ChannelOps.token? c = some token

theorem Held.registered {token : Token} {side : Side} {c : χ} (h : Held token side c) :
    ChannelOps.isRegistered c = true := by
  have htoken : ((ChannelOps.core c).registration.map (·.token)).isSome = true := by
    rw [show (ChannelOps.core c).registration.map (·.token) = some token from h.token]
    rfl
  rwa [Option.isSome_map] at htoken

theorem Held.alike {token : Token} {side : Side} {c c' : χ} (h : Held token side c)
    (ha : ChannelOps.Alike c c') : Held token side c' where
  listening := ha.listening.trans h.listening
  mode := ha.core.mode.trans h.mode
  token := by
    rw [ChannelOps.token?, ha.core.registration]
    exact h.token

/-- All ids stand in order, and all channels are held. -/
structure Enlists (r : Reactor η χ) : Prop where
  ordered : r.Ordered
  held : ∀ side, ∀ e ∈ r.entries side, Held r.token side e.channel

theorem sideOf_spec (c : χ) : ChannelOps.isListening c = (sideOf c == .listener) := by
  unfold sideOf
  cases ChannelOps.isListening c <;> rfl

section

variable {r : Reactor η χ} {side side' : Side} {index : Nat} {c : χ} {x : Entry χ}

omit [ChannelOps ω χ] in
theorem mem_entries_put (hx : x ∈ (r.put side index c).entries side') :
    x ∈ r.entries side' ∨
      side' = side ∧ ∃ e, (r.entries side)[index]? = some e ∧ x = { e with channel := c } := by
  by_cases hside : side' = side
  · subst hside
    rw [entries_put] at hx
    obtain ⟨k, hk⟩ := List.mem_iff_getElem?.mp hx
    by_cases hki : index = k
    · subst hki
      rw [List.getElem?_modify_eq, Option.map_eq_map, Option.map_eq_some_iff] at hk
      obtain ⟨e, he, rfl⟩ := hk
      exact .inr ⟨rfl, e, he, rfl⟩
    · rw [List.getElem?_modify_ne _ _ hki] at hk
      exact .inl (List.mem_of_getElem? hk)
  · have hother : (r.put side index c).entries side' = r.entries side' := by
      cases side <;> cases side' <;> first | rfl | exact absurd rfl hside
    exact .inl (hother ▸ hx)

omit [ChannelOps ω χ] in
theorem mem_entries_without (hx : x ∈ (r.without side index).entries side') :
    x ∈ r.entries side' := by
  cases side <;> cases side' <;> first | exact List.mem_of_mem_eraseIdx hx | exact hx

omit [ChannelOps ω χ] in
theorem mem_entries_enrolled (hx : x ∈ (r.enrolled side c).entries side') :
    x ∈ r.entries side' ∨ side' = side ∧ x = { id := r.nextId, channel := c } := by
  cases side <;> cases side' <;>
    first
    | exact .inl hx
    | exact (List.mem_append.mp hx).imp id fun hlast => ⟨rfl, List.mem_singleton.mp hlast⟩

end

theorem Enlists.count {r : Reactor η χ} (h : r.Enlists) (f : ReactorStats → ReactorStats) :
    (r.count f).Enlists :=
  ⟨h.ordered.thins (Thins.of_entries (fun _ => rfl) rfl).count,
    fun side e he => h.held side e (by rwa [entries_count] at he)⟩

/-- The parts of a reactor's work keep it in order if what is done to a registered channel leaves it
alike. -/
theorem enlists_sustained (hs : ChannelOps.Steady ω χ) :
    Sustains (fun c c' => ChannelOps.isRegistered c = true → ChannelOps.Alike c c')
      fun r : Reactor η χ => r.Enlists where
  desk desk h := ⟨h.ordered.thins (Thins.of_entries (fun _ => rfl) rfl).withDesk,
    fun side e he => h.held side e (by rwa [entries_withDesk] at he)⟩
  count _ h := h.count _
  put := by
    intro r side index e c he hv h
    have hheld := h.held side e (List.mem_of_getElem? he)
    have htoken : (r.put side index c).token = r.token := by cases side <;> rfl
    refine ⟨h.ordered.thins .put, fun side' x hx => ?_⟩
    rw [htoken]
    rcases mem_entries_put hx with hold | ⟨rfl, x', hx', rfl⟩
    · exact h.held side' x hold
    · cases he.symm.trans hx'
      exact hheld.alike (hv hheld.registered)
  without := by
    intro r side index h
    have htoken : (r.without side index).token = r.token := by cases side <;> rfl
    refine ⟨h.ordered.thins .without, fun side' x hx => ?_⟩
    rw [htoken]
    exact h.held side' x (mem_entries_without hx)
  enroll := by
    intro r c c' w w' hattach h
    obtain ⟨hmode, hregistration, hlistening⟩ := hs.attach hattach
    have hown : ChannelOps.token? c' = some r.token := by
      rw [ChannelOps.token?, hregistration]
      rfl
    have htoken : (r.enrolled (sideOf c) c').token = r.token := by cases sideOf c <;> rfl
    refine ⟨h.ordered.enrolled, fun side x hx => ?_⟩
    rw [htoken]
    rcases mem_entries_enrolled hx with hold | ⟨rfl, rfl⟩
    · exact h.held side x hold
    · exact ⟨hlistening.trans (sideOf_spec c), hmode, hown⟩

/-- What the second reactor has under an id that the first one had given, it has there since. -/
structure Renews (r r' : Reactor η χ) : Prop where
  next : r.nextId ≤ r'.nextId
  ids : ∀ side, ∀ id ∈ r'.ids side, id < r.nextId → id ∈ r.ids side

theorem Renews.turns [Machine ω] [Hooks ω η χ] {V : χ → χ → Prop}
    {r r' : Reactor (Watched η χ) χ} {w w' : ω} (ht : Turns V (r, w) (r', w')) : Renews r r' := by
  refine ht.keeps (I := Renews r) (fun h hturn => ?_) ⟨Nat.le_refl _, fun _ _ hid _ => hid⟩
  obtain hthins | ⟨side, c, rfl⟩ := hturn.thins
  · exact ⟨hthins.next ▸ h.next,
      fun side id hid hlt => h.ids side id ((hthins.ids side).subset hid) hlt⟩
  · refine ⟨Nat.le_succ_of_le h.next, fun side' id hid hlt => ?_⟩
    rw [ids_enrolled, List.mem_append] at hid
    rcases hid with hold | hnew
    · exact h.ids side' id hold hlt
    · split at hnew
      · rw [List.mem_singleton.mp hnew] at hlt
        exact absurd h.next (Nat.not_le.mpr hlt)
      · cases hnew

theorem register_refused {r r' : Reactor η χ} {c : χ} {w w' : ω} {e : ReactorError}
    (h : register c r w = .refused e r' w') : r' = r :=
  (enroll_ends.refused h).1

theorem listen_refused {r r' : Reactor η χ} {c : χ} {w w' : ω} {e : ReactorError}
    (h : listen c r w = .refused e r' w') : r' = r := by
  unfold listen at h
  split at h
  · exact (enroll_ends.refused h).1
  · cases h
    rfl

end Reactor

theorem Command.Within.mono {V V' : χ → χ → Prop} (hV : ∀ {c c' : χ}, V c c' → V' c c')
    {command : Command ω η χ} (h : command.Within V) : command.Within V' := by
  cases command with
  | visit id x => exact fun c w c' w' hx => hV (h c w c' w' hx)
  | _ => trivial

section

variable [Machine ω] [Transport ω τ] [Acceptor ω α τ]

theorem Command.operate_handled {id : ChannelId} {op : ChannelOp} (hop : op ≠ .detach) :
    (operate id op : Command ω η (Channel τ α (NoKind ω))).Within Channel.Handled := by
  intro c w c' w' h
  refine Action.Ends.leaves (P := fun c' _ => c.Handled c') ?_ h
  rw [Action.ends_map]
  exact .of_outcome (fun data c' w' hx => .single (.operate op hop (.inl ⟨data, hx⟩)))
    (fun e c' w' hx => .single (.operate op hop (.inr ⟨e, hx⟩)))

variable [Hooks ω η (Channel τ α (NoKind ω))]

/-- The hooks about a client do with it what can be done without taking its registration away. -/
structure Hooks.Handles (ω η τ α : Type) [Machine ω] [Transport ω τ] [Acceptor ω α τ]
    [Hooks ω η (Channel τ α (NoKind ω))] : Prop where
  readable : ∀ {id : ChannelId} {c c' : Channel τ α (NoKind ω)} {desk desk' : Desk η _} {w w' : ω},
    Hooks.onReadable id c desk w = .done c' desk' w' → c.Handled c'
  writable : ∀ {id : ChannelId} {c c' : Channel τ α (NoKind ω)} {desk desk' : Desk η _} {w w' : ω},
    Hooks.onWritable id c desk w = .done c' desk' w' → c.Handled c'

theorem Hooks.Handles.conducts (h : Hooks.Handles ω η τ α) :
    Reactor.Conducts (χ := Channel τ α (NoKind ω)) η fun c c' =>
      ChannelOps.isRegistered c = true → ChannelOps.Alike c c' :=
  have hs := Channel.steady (τ := τ) (α := α) (NoKind.steady ω)
  { write := fun hx _ => (hs.onWrite _ _).leaves hx
    read := fun hx _ => (hs.onRead _ _).leaves hx
    accept := fun hx _ => (hs.accept _ _).leaves hx
    writable := fun hx => (h.writable hx).alike (NoKind.steady ω)
    readable := fun hx => (h.readable hx).alike (NoKind.steady ω) }

end

namespace Estate

variable [Machine ω] [Transport ω τ] [Acceptor ω α τ] [Hooks ω η (Channel τ α (NoKind ω))]
variable {s₀ s : Estate ω η (Channel τ α (NoKind ω))}

/-- After anything that a reactor, its hooks and its owner do, short of taking the registration of a
channel away: ids stand in order and are never given twice, every channel is on its side, waits for
nothing, has the reactor's token, and refuses another mode or reactor without any change; and a
channel that cannot be registered leaves the reactor as it was. -/
theorem registrations_hold (hhooks : Hooks.Handles ω η τ α) {serial : Nat}
    {settings : ReactorSettings} {hooks : η} {machine : ω}
    (hfounded : founded serial settings hooks machine = some s₀)
    (commands : List (Command ω η (Channel τ α (NoKind ω))))
    (hcommands : ∀ command ∈ commands, command.Within Channel.Handled)
    (hplay : s₀.play commands = some s) :
    s.reactor.Ordered ∧
    (∀ more s', (∀ command ∈ more, Command.Within Channel.Handled command) →
      s.play more = some s' → s.reactor.Renews s'.reactor) ∧
    (∀ side, ∀ e ∈ s.reactor.entries side,
      ChannelOps.isListening e.channel = (side == .listener) ∧
      ChannelOps.token? e.channel = some s.reactor.token ∧
      ChannelOps.mode e.channel = .nonblocking ∧
      ∀ w, (∀ mode, ChannelOps.setMode mode e.channel w =
          .refused (.misuse .modeChangeWhileRegistered) e.channel w) ∧
        ∀ token, ChannelOps.attach token e.channel w =
          .refused (.misuse .alreadyRegistered) e.channel w) ∧
    ∀ c w e r' w', Reactor.register c s.reactor w = .refused e r' w' ∨
      Reactor.listen c s.reactor w = .refused e r' w' → r' = s.reactor := by
  have hs := Channel.steady (τ := τ) (α := α) (NoKind.steady ω)
  have h : s.reactor.Enlists := by
    refine play_sustains (Reactor.enlists_sustained hs) hhooks.conducts
      (fun f hr => hr.count f) commands (fun command hc => (hcommands command hc).mono
        fun hx => hx.alike (NoKind.steady ω)) ?_ hplay
    refine ⟨founded_ordered hfounded, fun side e he => ?_⟩
    rw [founded_eq hfounded] at he
    cases side <;> exact absurd he List.not_mem_nil
  refine ⟨h.ordered, fun more s' hmore hplay' => .turns (play_turns more hmore hplay'),
    fun side e he => ?_, fun c w e r' w' hrefused => ?_⟩
  · have hheld := h.held side e he
    exact ⟨hheld.listening, hheld.token, hheld.mode, fun w =>
      ⟨fun mode => ChannelOps.setMode_registered mode hheld.registered,
        fun token => ChannelOps.attach_registered token hheld.registered⟩⟩
  · rcases hrefused with hregister | hlisten
    · exact Reactor.register_refused hregister
    · exact Reactor.listen_refused hlisten

theorem noHooks_handle : Hooks.Handles ω NoHooks τ α where
  readable hx := by
    cases hx
    exact .refl
  writable hx := by
    cases hx
    exact .refl

/-- A listener whose gate brings one connection. -/
def openListener : Channel Scenario.Wire Scenario.Gate (NoKind Scenario.Bench) :=
  .listener
    { core := .new .forever "gate"
      acceptor := some
        { name := "gate", descriptor := 9, accepts := [.connects { name := "wire" } "peer"] }
      settings := {}
      policy := .plain }

/-- A client that is gone when it was idle for more than ten nanoseconds. -/
def briefClient : Channel Scenario.Wire Scenario.Gate (NoKind Scenario.Bench) :=
  .expiring (.connection quietConnection) .start ⟨10⟩

/-- A listener, a connection that it accepts, and two connections that were handed over and
registered; one of these is given back, and its owner asks the other in vain to wait. -/
theorem registrations_hold_openListener :
    ∃ s₀ s : Estate Scenario.Bench NoHooks (Channel Scenario.Wire Scenario.Gate (NoKind _)),
      founded 1 {} {} { polls.ready := [(9, { input := true })] } = some s₀ ∧
      s₀.play [.listen openListener, .inject briefClient, .runOnce,
        .register (.connection quietConnection), .unregister 2,
        .operate 4 (.setMode .forever)] = some s ∧
      (s.reactor.ids .listener = [1] ∧ s.reactor.ids .client = [3, 4]) ∧
      s.reactor.Ordered ∧
      (∀ more s', (∀ command ∈ more, Command.Within Channel.Handled command) →
        s.play more = some s' → s.reactor.Renews s'.reactor) ∧
      (∀ side, ∀ e ∈ s.reactor.entries side,
        ChannelOps.isListening e.channel = (side == .listener) ∧
        ChannelOps.token? e.channel = some s.reactor.token ∧
        ChannelOps.mode e.channel = .nonblocking ∧
        ∀ w, (∀ mode, ChannelOps.setMode mode e.channel w =
            .refused (.misuse .modeChangeWhileRegistered) e.channel w) ∧
          ∀ token, ChannelOps.attach token e.channel w =
            .refused (.misuse .alreadyRegistered) e.channel w) ∧
      ∀ c w e r' w', Reactor.register c s.reactor w = .refused e r' w' ∨
        Reactor.listen c s.reactor w = .refused e r' w' → r' = s.reactor := by
  have hrun : ((founded 1 {} {} { polls.ready := [(9, { input := true })] } :
        Option (Estate Scenario.Bench NoHooks _)).bind
      (play [.listen openListener, .inject briefClient, .runOnce,
        .register (.connection quietConnection), .unregister 2,
        .operate 4 (.setMode .forever)])).any
      (fun s => s.reactor.ids .listener == [1] && s.reactor.ids .client == [3, 4]) = true := by
    decide +kernel
  obtain ⟨s, hs, hids⟩ := (Option.any_eq_true _ _).mp hrun
  obtain ⟨s₀, hfounded, hplay⟩ := Option.bind_eq_some_iff.mp hs
  have hcommands : ∀ command ∈ ([.listen openListener, .inject briefClient, .runOnce,
      .register (.connection quietConnection), .unregister 2, .operate 4 (.setMode .forever)] :
        List (Command Scenario.Bench NoHooks _)), command.Within Channel.Handled := by
    simp only [List.forall_mem_cons]
    exact ⟨trivial, trivial, trivial, trivial, trivial, Command.operate_handled nofun, nofun⟩
  exact ⟨s₀, s, hfounded, hplay, by simpa using hids,
    registrations_hold noHooks_handle hfounded _ hcommands hplay⟩

end Estate

end ChannelReactor
