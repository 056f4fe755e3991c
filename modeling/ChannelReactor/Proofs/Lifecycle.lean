import ChannelReactor.Channel.Connection
import ChannelReactor.Proofs.Custody
import ChannelReactor.Scenario.Wire

/-! # The life of a reactor

An estate is a reactor from its making on, with its machine and with what its owner got from it.
The owner gives commands in any order. A run is a command, and its phases are commands too, so that
what is true after every command is true after every iteration of a run. -/
namespace ChannelReactor

variable {ω η χ α : Type}

/-- What the owner of a reactor can do with it. -/
inductive Command (ω η χ : Type) where
  | register (c : χ)
  | listen (c : χ)
  | unregister (id : ChannelId)
  | takeListeners
  | inject (c : χ)
  /-- Asks to stop. -/
  | stop
  /-- Changes the application's own state. -/
  | adjust (f : η → η)
  /-- Does something with a registered channel. -/
  | visit (id : ChannelId) (x : Action ω ChannelError χ Unit)
  | runOnce
  | run (limit : Nat)
  /-- The phases of a run. -/
  | startup
  | iteration
  | shutdown
  | cleanup

/-- What a command gives to the owner: the id of a channel that was taken over, the ids of channels
that were given back. -/
structure Receipt where
  issued : List ChannelId := []
  returned : List ChannelId := []

namespace Command

variable [Machine ω] [ChannelOps ω χ] [Hooks ω η χ]

def perform : Command ω η χ → Action ω ReactorError (Reactor (Watched η χ) χ) Receipt
  | register c => do
    let id ← Reactor.register c
    pure { issued := [id] }
  | listen c => do
    let id ← Reactor.listen c
    pure { issued := [id] }
  | unregister id => do
    let _ ← Reactor.unregister id
    pure { returned := [id] }
  | takeListeners => do
    let r ← Action.subject
    let _ ← Reactor.takeListeners
    pure { returned := r.ids .listener }
  | inject c => do
    Action.update fun r => { r with mailbox := r.mailbox.post c }
    pure {}
  | stop => do
    Action.update fun r => { r with mailbox.stopped := true }
    pure {}
  | adjust f => do
    Action.update fun r => { r with hooks.hooks := f r.hooks.hooks }
    pure {}
  | visit id x => do
    match (← Action.subject).find? id with
    | none => pure {}
    | some (side, index) =>
      Reactor.onChannel side index (x.mapReason ReactorError.channel)
      pure {}
  | runOnce => do
    let _ ← Reactor.runOnce
    pure {}
  | run limit => do
    (Reactor.run limit).sure
    pure {}
  | startup => do
    (Reactor.hook Hooks.onStartup).sure
    pure {}
  | iteration => do
    Reactor.iteration.sure
    pure {}
  | shutdown => do
    Reactor.shutdown.sure
    pure {}
  | cleanup => do
    (Reactor.hook Hooks.onCleanup).sure
    pure {}

end Command

/-- A reactor with its machine and with what its owner got so far. -/
structure Estate (ω η χ : Type) where
  reactor : Reactor (Watched η χ) χ
  machine : ω
  issued : List ChannelId := []
  returned : List ChannelId := []

namespace Estate

def founded (serial : Nat) (settings : ReactorSettings) (hooks : η) (machine : ω) :
    Option (Estate ω η χ) :=
  match Reactor.new serial settings { hooks := hooks } with
  | .ok reactor => some { reactor, machine }
  | .error _ => none

theorem founded_accounted {s : Estate ω η χ} {serial : Nat} {settings : ReactorSettings} {hooks : η}
    {machine : ω} (h : founded serial settings hooks machine = some s) :
    Reactor.Accounted s.issued s.returned s.reactor := by
  unfold founded at h
  split at h
  · rename_i r hr
    unfold Reactor.new at hr
    split at hr
    · cases hr
    · cases hr
      cases h
      refine ⟨Nat.one_pos, fun id hid => (by cases hid), fun id => ?_, rfl, rfl⟩
      rw [if_neg fun hid => Nat.ne_of_gt hid.1 (Nat.lt_one_iff.mp hid.2)]
      rfl
  · cases h

/-- The estate with what a command made of it. -/
def after (s : Estate ω η χ) (receipt : Receipt) (reactor : Reactor (Watched η χ) χ) (machine : ω) :
    Estate ω η χ where
  reactor := reactor
  machine := machine
  issued := s.issued ++ receipt.issued
  returned := s.returned ++ receipt.returned

variable [Machine ω] [ChannelOps ω χ] [Hooks ω η χ]

/-- The estate after a command, done or refused; none when the command halts. -/
def step (command : Command ω η χ) (s : Estate ω η χ) : Option (Estate ω η χ) :=
  match command.perform s.reactor s.machine with
  | .done receipt r w => some (s.after receipt r w)
  | .refused _ r w => some (s.after {} r w)
  | .halted _ _ => none

def play : List (Command ω η χ) → Estate ω η χ → Option (Estate ω η χ)
  | [], s => some s
  | command :: rest, s => (s.step command).bind fun next => next.play rest

end Estate

namespace Reactor

variable {ε : Type} {issued returned : List ChannelId} {r : Reactor (Watched η χ) χ} {w : ω}

/-! ## What the commands keep account of -/

theorem placeOf?_eq_some {id : ChannelId} {entries : List (Entry χ)} {k : Nat}
    (h : placeOf? id entries = some k) : ∃ e, entries[k]? = some e ∧ e.id = id := by
  rw [placeOf?, List.findIdx?_eq_some_iff_getElem] at h
  obtain ⟨hlt, hid, -⟩ := h
  exact ⟨entries[k], List.getElem?_eq_getElem hlt, eq_of_beq hid⟩

theorem find?_some {id : ChannelId} {side : Side} {index : Nat} {η : Type} {r : Reactor η χ}
    (h : r.find? id = some (side, index)) :
    ∃ e, (r.entries side)[index]? = some e ∧ e.id = id := by
  unfold find? at h
  split at h
  · rename_i k hk
    cases h
    exact placeOf?_eq_some hk
  · rw [Option.map_eq_some_iff] at h
    obtain ⟨k, hk, heq⟩ := h
    cases heq
    exact placeOf?_eq_some hk

/-- A hook that does not tell of an end. -/
theorem hook_accounted {x : Action ω Empty (Desk (Watched η χ) χ) α} {call : HookCall χ}
    (h : Accounted issued returned r) (hcall : call.closure? = none)
    (hx : ∀ a desk w', x r.desk w = .done a desk w' →
      desk.hooks.calls = r.hooks.calls ++ [call]) :
    (hook x : Action ω ε (Reactor (Watched η χ) χ) α).Ends r w
      (fun _ r' _ => Accounted issued returned r') (fun _ _ _ => False) :=
  hook_ends fun a desk w' hd => h.informed (.refl r) rfl (hx a desk w' hd) hcall

section

variable [ChannelOps ω χ]

theorem detachAll_ends {σ : Type} {s : σ} :
    ∀ {entries : List (Entry χ)} {w : ω},
      (detachAll entries : Action ω ε σ (List χ)).Ends s w (fun _ s' _ => s' = s)
        (fun _ _ _ => False)
  | [], _ => rfl
  | e :: rest, w => by
    rw [detachAll, Action.ends_bind, Action.ends_runOn, Action.ends_attempt]
    have hrest (c : χ) (w' : ω) : (do return c :: (← detachAll rest) : Action ω ε σ (List χ)).Ends
        s w' (fun _ s' _ => s' = s) (fun _ _ _ => False) := by
      rw [Action.ends_bind]
      exact detachAll_ends
    exact (Action.ends_self _ _ _).mono (fun _ c w' _ => hrest c w') (fun _ c w' _ => hrest c w')

theorem unregister_accounted {id : ChannelId} (h : Accounted issued returned r) :
    (unregister id).Ends r w (fun _ r' _ => Accounted issued (returned ++ [id]) r')
      (fun _ r' _ => Accounted issued returned r') := by
  refine unregister_ends h fun side index _ _ _ hfind _ _ => ?_
  obtain ⟨e, he, rfl⟩ := find?_some hfind
  have hclosures : (r.without side index).closures = r.closures := by cases side <;> rfl
  have hstats : (r.without side index).stats = r.stats := by cases side <;> rfl
  refine h.removed he (fun _ => rfl) (by cases side <;> rfl) (fun id => ?_) ?_ ?_
  · rw [hclosures, List.count_append, List.count_singleton]
    simp only [beq_iff_eq]
    omega
  · rw [hstats, hclosures]
    exact h.evicted
  · rw [hstats, hclosures]
    exact h.expired

theorem enroll_accounted {side : Side} {c : χ} (h : Accounted issued returned r) :
    (enroll side c).Ends r w (fun id r' _ => Accounted (issued ++ [id]) returned r')
      (fun _ r' _ => Accounted issued returned r') := by
  refine enroll_ends.mono (fun id r' w' hd => ?_) (fun e r' w' hr => ?_)
  · obtain ⟨rfl, c', -, rfl⟩ := hd
    exact h.enrolled c'
  · obtain ⟨rfl, -⟩ := hr
    exact h

theorem takeListeners_ends (h : Accounted issued returned r) :
    (takeListeners : Action ω ε (Reactor (Watched η χ) χ) (List χ)).Ends r w
      (fun _ r' _ => Accounted issued (returned ++ r.ids .listener) r') (fun _ _ _ => False) := by
  rw [takeListeners, Action.ends_bind, Action.ends_subject, Action.ends_bind, Action.ends_update]
  refine detachAll_ends.mono (fun _ r' _ hr => ?_) (fun _ _ _ hf => hf)
  subst hr
  refine ⟨h.next, h.issued, fun id => ?_, h.evicted, h.expired⟩
  have hplaced := h.placed id
  rw [List.count_append]
  change ([] : List ChannelId).count id + (r.ids .client).count id +
    (returned.count id + (r.ids .listener).count id) + (r.closures.map (·.1)).count id = _
  rw [List.count_nil]
  refine Eq.trans ?_ hplaced
  omega

variable [Hooks ω η χ]

/-- Channels that are closed at the end are told of, and nothing else changes. -/
theorem closeAll_ends :
    ∀ {entries : List (Entry χ)} {r : Reactor (Watched η χ) χ} {w : ω},
      (closeAll entries : Action ω ε (Reactor (Watched η χ) χ) Unit).Ends r w
        (fun _ r' _ => Told r r' (entries.map fun e => (e.id, .shutdown))) (fun _ _ _ => False)
  | [], r, _ => .refl r
  | e :: rest, r, w => by
    refine closeAll_cons_ends fun c w₁ desk w₂ _ hd => ?_
    have ht := Told.withDesk (Watched.noting_done hd)
    exact closeAll_ends.mono (fun _ r' _ hr => ht.trans hr) (fun _ _ _ hf => hf)

theorem closeAll_append (before rest : List (Entry χ)) :
    (closeAll (before ++ rest) : Action ω ε (Reactor (Watched η χ) χ) Unit) =
      closeAll before >>= fun _ => closeAll rest := by
  induction before with
  | nil => rfl
  | cons e before ih => simp only [List.cons_append, closeAll, bind_assoc, ih]

/-- A shutdown as far as the end of some clients. -/
def closing (before : List (Entry χ)) : Action ω ε (Reactor (Watched η χ) χ) Unit := do
  Action.update fun r => { r with clients := [] }
  closeAll before

/-- What follows when the first clients are closed is the end of the others. -/
theorem shutdown_eq {before rest : List (Entry χ)} (hclients : r.clients = before ++ rest) :
    (shutdown : Action ω ε (Reactor (Watched η χ) χ) Unit) r w =
      (closing before >>= fun _ => closeAll rest) r w := by
  have hrun : (shutdown : Action ω ε (Reactor (Watched η χ) χ) Unit) r w =
      ((Action.update fun r => { r with clients := [] }) >>= fun _ => closeAll r.clients) r w := rfl
  rw [hrun, hclients, closeAll_append, closing, bind_assoc]

/-- When a client's turn comes in a shutdown, its id is nowhere. -/
theorem closing_ends {before rest : List (Entry χ)} {client : Entry χ}
    (h : Accounted issued returned r) (hclients : r.clients = before ++ client :: rest) :
    (closing before : Action ω ε (Reactor (Watched η χ) χ) Unit).Ends r w
      (fun _ r' _ => Nowhere returned r' client.id) (fun _ _ _ => False) := by
  have hplaced := h.placed_le client.id
  have hids : r.ids .client = before.map (·.id) ++ client.id :: rest.map (·.id) := by
    rw [ids, entries, hclients, List.map_append, List.map_cons]
  rw [hids, List.count_append, List.count_cons_self] at hplaced
  rw [closing, Action.ends_bind, Action.ends_update]
  refine closeAll_ends.mono (fun _ r' _ ht => ?_) (fun _ _ _ hf => hf)
  have htold : (before.map fun e => (e.id, CloseReason.shutdown)).map (·.1) =
      before.map (·.id) := by
    rw [List.map_map]
    rfl
  refine ⟨?_, ?_, ?_, ?_⟩
  · rw [ht.ids, ← List.count_eq_zero]
    change (r.ids .listener).count client.id = 0
    omega
  · rw [ht.ids]
    exact List.not_mem_nil
  · rw [← List.count_eq_zero]
    omega
  · rw [ht.closures, List.map_append, htold, ← List.count_eq_zero, List.count_append]
    change (r.closures.map (·.1)).count client.id + _ = 0
    omega

theorem shutdown_ends (h : Accounted issued returned r) :
    (shutdown : Action ω ε (Reactor (Watched η χ) χ) Unit).Ends r w
      (fun _ r' _ => Accounted issued returned r') (fun _ _ _ => False) := by
  rw [shutdown, Action.ends_bind, Action.ends_subject, Action.ends_bind, Action.ends_update]
  refine closeAll_ends.mono (fun _ r' _ ht => ?_) (fun _ _ _ hf => hf)
  -- A client that is told of moves from the list to the ends; neither count counts a shutdown.
  have hreasons (p : CloseReason → Bool) :
      (r.clients.map fun e => (e.id, CloseReason.shutdown)).countP (fun c => p c.2) =
        if p .shutdown then r.clients.length else 0 := by
    rw [List.countP_map]
    cases hp : p .shutdown <;> simp [Function.comp_def, hp]
  refine ⟨by rw [ht.next]; exact h.next, by rw [ht.next]; exact h.issued, fun id => ?_, ?_, ?_⟩
  · have hplaced := h.placed id
    rw [ht.ids, ht.ids, ht.next, ht.closures, List.map_append, List.count_append, List.map_map]
    change (r.ids .listener).count id + ([] : List ChannelId).count id + returned.count id +
      ((r.closures.map (·.1)).count id + (r.ids .client).count id) = _
    rw [List.count_nil]
    refine Eq.trans ?_ hplaced
    omega
  · rw [ht.evicted, ht.closures, List.countP_append, hreasons (· != .shutdown)]
    exact h.evicted
  · rw [ht.expired, ht.closures, List.countP_append, hreasons (· == .expired)]
    exact h.expired

variable [Machine ω]

theorem runOnce_accounted (h : Accounted issued returned r) :
    (runOnce : Action ω _ (Reactor (Watched η χ) χ) Nat).Ends r w
      (fun _ r' _ => Accounted issued returned r') (fun _ r' _ => Accounted issued returned r') :=
  (runOnce_keeps r w .refl).mono (fun _ _ _ hm => h.moves hm) (fun _ _ _ hm => h.moves hm)

theorem iteration_accounted (h : Accounted issued returned r) :
    (iteration : Action ω Empty (Reactor (Watched η χ) χ) Unit).Ends r w
      (fun _ r' _ => Accounted issued returned r') (fun e _ _ => e.elim) :=
  (iteration_keeps r w .refl).mono (fun _ _ _ hm => h.moves hm) (fun e _ _ _ => e.elim)

theorem iterate_accounted :
    ∀ {limit : Nat} {r : Reactor (Watched η χ) χ} {w : ω}, Accounted issued returned r →
      (iterate limit : Action ω Empty (Reactor (Watched η χ) χ) Unit).Ends r w
        (fun _ r' _ => Accounted issued returned r') (fun e _ _ => e.elim)
  | 0, r, w, h => by
    rw [iterate, Action.ends_bind, Action.ends_subject]
    split
    · exact h
    · trivial
  | limit + 1, r, w, h => by
    rw [iterate, Action.ends_bind, Action.ends_subject]
    split
    · exact h
    · rw [Action.ends_bind]
      exact (iteration_accounted h).mono (fun _ r' w' h' => iterate_accounted h')
        (fun e _ _ _ => e.elim)

theorem run_accounted {limit : Nat} (h : Accounted issued returned r) :
    (run limit : Action ω Empty (Reactor (Watched η χ) χ) Unit).Ends r w
      (fun _ r' _ => Accounted issued returned r') (fun e _ _ => e.elim) := by
  rw [run, Action.ends_bind]
  refine (hook_accounted h rfl fun _ _ _ hd => Watched.noting_done hd).mono
    (fun _ r₁ w₁ h₁ => ?_) (fun e _ _ _ => e.elim)
  rw [Action.ends_bind]
  refine (iterate_accounted h₁).mono (fun _ r₂ w₂ h₂ => ?_) (fun e _ _ _ => e.elim)
  rw [Action.ends_bind]
  refine (shutdown_ends h₂).mono (fun _ r₃ w₃ h₃ => ?_) (fun e _ _ _ => e.elim)
  exact (hook_accounted h₃ rfl fun _ _ _ hd => Watched.noting_done hd).mono
    (fun _ _ _ h => h) (fun e _ _ _ => e.elim)

theorem perform_accounted (command : Command ω η χ) (h : Accounted issued returned r) :
    command.perform.Ends r w
      (fun receipt r' _ => Accounted (issued ++ receipt.issued) (returned ++ receipt.returned) r')
      (fun _ r' _ => Accounted issued returned r') := by
  have hsame {r' : Reactor (Watched η χ) χ} (h' : Accounted issued returned r') :
      Accounted (issued ++ []) (returned ++ []) r' := by
    rwa [List.append_nil, List.append_nil]
  have hissued {id : ChannelId} {r' : Reactor (Watched η χ) χ}
      (h' : Accounted (issued ++ [id]) returned r') :
      Accounted (issued ++ [id]) (returned ++ []) r' := by
    rwa [List.append_nil]
  have hreturned {back : List ChannelId} {r' : Reactor (Watched η χ) χ}
      (h' : Accounted issued (returned ++ back) r') :
      Accounted (issued ++ []) (returned ++ back) r' := by
    rwa [List.append_nil]
  cases command with
  | register c =>
    rw [Command.perform, Action.ends_bind]
    exact (enroll_accounted h).mono (fun _ _ _ h' => hissued h') (fun _ _ _ h' => h')
  | listen c =>
    rw [Command.perform, Action.ends_bind, listen]
    split
    · exact (enroll_accounted h).mono (fun _ _ _ h' => hissued h') (fun _ _ _ h' => h')
    · exact h
  | unregister id =>
    rw [Command.perform, Action.ends_bind]
    exact (unregister_accounted h).mono (fun _ _ _ h' => hreturned h') (fun _ _ _ h' => h')
  | takeListeners =>
    rw [Command.perform, Action.ends_bind, Action.ends_subject, Action.ends_bind]
    exact (takeListeners_ends h).mono (fun _ _ _ h' => hreturned h') (fun _ _ _ hf => hf.elim)
  | inject c => exact hsame (h.told (.mailbox _))
  | stop => exact hsame (h.told (.mailbox _))
  | adjust f => exact hsame (h.told (.adjust _))
  | visit id x =>
    rw [Command.perform, Action.ends_bind, Action.ends_subject]
    split
    · exact hsame h
    · rw [Action.ends_bind, onChannel_ends]
      intro e he
      exact (Action.ends_self _ _ _).mono (fun _ c _ _ => hsame (h.told (.put c)))
        (fun _ c _ _ => h.told (.put c))
  | runOnce =>
    rw [Command.perform, Action.ends_bind]
    exact (runOnce_accounted h).mono (fun _ _ _ h' => hsame h') (fun _ _ _ h' => h')
  | run limit =>
    rw [Command.perform, Action.ends_bind, Action.ends_sure]
    exact (run_accounted h).mono (fun _ _ _ h' => hsame h') (fun e _ _ _ => e.elim)
  | startup =>
    rw [Command.perform, Action.ends_bind, Action.ends_sure]
    exact (hook_accounted h rfl fun _ _ _ hd => Watched.noting_done hd).mono
      (fun _ _ _ h' => hsame h') (fun e _ _ _ => e.elim)
  | iteration =>
    rw [Command.perform, Action.ends_bind, Action.ends_sure]
    exact (iteration_accounted h).mono (fun _ _ _ h' => hsame h') (fun e _ _ _ => e.elim)
  | shutdown =>
    rw [Command.perform, Action.ends_bind, Action.ends_sure]
    exact (shutdown_ends h).mono (fun _ _ _ h' => hsame h') (fun e _ _ _ => e.elim)
  | cleanup =>
    rw [Command.perform, Action.ends_bind, Action.ends_sure]
    exact (hook_accounted h rfl fun _ _ _ hd => Watched.noting_done hd).mono
      (fun _ _ _ h' => hsame h') (fun e _ _ _ => e.elim)

end

end Reactor

/-! ## From command to command -/

namespace Estate

variable [Machine ω] [ChannelOps ω χ] [Hooks ω η χ] {s s' : Estate ω η χ}

theorem step_accounted {command : Command ω η χ}
    (h : Reactor.Accounted s.issued s.returned s.reactor) (hstep : s.step command = some s') :
    Reactor.Accounted s'.issued s'.returned s'.reactor := by
  have hp := Reactor.perform_accounted (w := s.machine) command h
  unfold step at hstep
  split at hstep
  · rename_i receipt r w hx
    cases hstep
    exact hp.done hx
  · rename_i e r w hx
    cases hstep
    have hr := hp.refused hx
    change Reactor.Accounted (s.issued ++ []) (s.returned ++ []) r
    rwa [List.append_nil, List.append_nil]
  · cases hstep

theorem play_accounted :
    ∀ (commands : List (Command ω η χ)) {s s' : Estate ω η χ},
      Reactor.Accounted s.issued s.returned s.reactor → s.play commands = some s' →
        Reactor.Accounted s'.issued s'.returned s'.reactor
  | [], s, s', h, hplay => by
    cases hplay
    exact h
  | command :: rest, s, s', h, hplay => by
    rw [play, Option.bind_eq_some_iff] at hplay
    obtain ⟨next, hnext, hrest⟩ := hplay
    exact play_accounted rest (step_accounted h hnext) hrest

theorem play_append (commands more : List (Command ω η χ)) (s : Estate ω η χ) :
    s.play (commands ++ more) = (s.play commands).bind (play more) := by
  induction commands generalizing s with
  | nil => rfl
  | cons command rest ih =>
    rw [List.cons_append, play, play, Option.bind_assoc]
    exact congrArg _ (funext ih)

theorem play_singleton (command : Command ω η χ) (s : Estate ω η χ) :
    s.play [command] = s.step command := Option.bind_fun_some _

/-- A command that cannot be refused and gives the owner nothing. -/
theorem step_sure {command : Command ω η χ}
    {x : Action ω Empty (Reactor (Watched η χ) χ) Unit}
    (hx : command.perform = do x.sure; pure {}) :
    s.step command = some s' ↔
      ∃ r w, x s.reactor s.machine = .done () r w ∧ s' = { s with reactor := r, machine := w } := by
  have hafter (r : Reactor (Watched η χ) χ) (w : ω) :
      s.after {} r w = { s with reactor := r, machine := w } := by
    simp [after]
  unfold step
  rw [hx, Action.bind_apply, Action.sure, Action.mapReason]
  cases x s.reactor s.machine with
  | done a r w => simp [hafter, eq_comm]
  | refused e r w => exact e.elim
  | halted h w => simp

/-- The iterations of a loop that came to its end. -/
theorem iterate_iterations :
    ∀ {limit : Nat} {s : Estate ω η χ} {r : Reactor (Watched η χ) χ} {w : ω},
      (Reactor.iterate limit : Action ω Empty _ Unit) s.reactor s.machine = .done () r w →
        ∃ n ≤ limit, s.play (List.replicate n .iteration) =
          some { s with reactor := r, machine := w }
  | 0, s, r, w, h => by
    rw [Reactor.iterate] at h
    obtain ⟨r₀, _, _, hr, h⟩ := Action.done_of_bind h
    cases hr
    split at h
    · cases h
      exact ⟨0, Nat.le_refl 0, rfl⟩
    · cases h
  | limit + 1, s, r, w, h => by
    rw [Reactor.iterate] at h
    obtain ⟨r₀, _, _, hr, h⟩ := Action.done_of_bind h
    cases hr
    split at h
    · cases h
      exact ⟨0, Nat.zero_le _, rfl⟩
    · obtain ⟨_, r₁, w₁, hiteration, hrest⟩ := Action.done_of_bind h
      obtain ⟨n, hn, hplay⟩ :=
        iterate_iterations (s := { s with reactor := r₁, machine := w₁ }) hrest
      refine ⟨n + 1, Nat.succ_le_succ hn, ?_⟩
      have hstep : s.step .iteration = some { s with reactor := r₁, machine := w₁ } :=
        (step_sure rfl).mpr ⟨r₁, w₁, hiteration, rfl⟩
      rw [List.replicate_succ, play, hstep]
      exact hplay

/-- The phases of a run with so many iterations. -/
def phases (iterations : Nat) : List (Command ω η χ) :=
  .startup :: List.replicate iterations .iteration ++ [.shutdown, .cleanup]

/-- A run is its phases. -/
theorem run_phases {limit : Nat} (h : s.step (.run limit) = some s') :
    ∃ n ≤ limit, s.play (phases n) = some s' := by
  obtain ⟨r, w, hrun, rfl⟩ := (step_sure rfl).mp h
  rw [Reactor.run] at hrun
  obtain ⟨_, r₁, w₁, hstartup, hrun⟩ := Action.done_of_bind hrun
  obtain ⟨_, r₂, w₂, hiterate, hrun⟩ := Action.done_of_bind hrun
  obtain ⟨_, r₃, w₃, hshutdown, hcleanup⟩ := Action.done_of_bind hrun
  obtain ⟨n, hn, hplay⟩ :=
    iterate_iterations (s := { s with reactor := r₁, machine := w₁ }) hiterate
  have hfirst : s.step .startup = some { s with reactor := r₁, machine := w₁ } :=
    (step_sure rfl).mpr ⟨r₁, w₁, hstartup, rfl⟩
  have hthird : step .shutdown { s with reactor := r₂, machine := w₂ } =
      some { s with reactor := r₃, machine := w₃ } :=
    (step_sure rfl).mpr ⟨r₃, w₃, hshutdown, rfl⟩
  have hlast : step .cleanup { s with reactor := r₃, machine := w₃ } =
      some { s with reactor := r, machine := w } :=
    (step_sure rfl).mpr ⟨r, w, hcleanup, rfl⟩
  refine ⟨n, hn, ?_⟩
  rw [phases, List.cons_append, play, hfirst, Option.bind_some, play_append, hplay,
    Option.bind_some, play, hthird, Option.bind_some, play, hlast]
  rfl

/-- Whatever the owner does with a reactor, and after every iteration: every id that was given is
registered once, or was given back, or its end was told once, and the counts of evicted and expired
channels are those of the ends that were told. An eviction, at whatever point of an iteration, and a
shutdown tell of an end when the id is nowhere any more. The states between the phases of a run are
among those that the commands lead to. -/
theorem custody_kept {serial : Nat} {settings : ReactorSettings} {hooks : η} {machine : ω}
    {s₀ : Estate ω η χ} (hfounded : founded serial settings hooks machine = some s₀)
    (commands : List (Command ω η χ)) {s : Estate ω η χ} (hplay : s₀.play commands = some s) :
    Reactor.Accounted s.issued s.returned s.reactor ∧
    (∀ r w, Reactor.Moves (s.reactor, s.machine) (r, w) → ∀ side index reason,
      (Reactor.letGo side index reason : Action ω Empty _ (Entry χ)).Ends r w
        (fun e r' _ => r'.Nowhere s.returned e.id) (fun _ _ _ => False)) ∧
    (∀ before client rest, s.reactor.clients = before ++ client :: rest →
      (Reactor.closing before : Action ω Empty _ Unit).Ends s.reactor s.machine
        (fun _ r' _ => r'.Nowhere s.returned client.id) (fun _ _ _ => False) ∧
      (Reactor.shutdown : Action ω Empty _ Unit) s.reactor s.machine =
        (do Reactor.closing before; Reactor.closeAll (client :: rest)) s.reactor s.machine) ∧
    ∀ limit s', s.step (.run limit) = some s' → ∃ n ≤ limit, s.play (phases n) = some s' := by
  have h := play_accounted commands (founded_accounted hfounded) hplay
  exact ⟨h, fun r w hm side index reason => (h.moves hm).letGo,
    fun before client rest hclients => ⟨Reactor.closing_ends h hclients,
      Reactor.shutdown_eq hclients⟩,
    fun limit s' => run_phases⟩

/-- A connection over a wire on which nothing happens. -/
def quietConnection : Connection Scenario.Wire where
  core := .new .forever "quiet"
  transport := some { name := "quiet" }
  chunk := 1
  policy := .plain

/-- Of three connections one is unregistered, one is closed by its owner, and one is there at the
end. -/
theorem custody_kept_quietConnections :
    ∃ s₀ s : Estate Scenario.Bench NoHooks (Connection Scenario.Wire),
      founded 1 {} {} {} = some s₀ ∧
      s₀.play [.register quietConnection, .register quietConnection, .register quietConnection,
        .unregister 1, .visit 2 ChannelOps.close.sure, .runOnce, .stop, .run 1] = some s ∧
      (s.issued = [1, 2, 3] ∧ s.returned = [1] ∧
        s.reactor.closures = [(2, .closed), (3, .shutdown)]) ∧
      Reactor.Accounted s.issued s.returned s.reactor ∧
      (∀ r w, Reactor.Moves (s.reactor, s.machine) (r, w) → ∀ side index reason,
        (Reactor.letGo side index reason : Action _ Empty _ (Entry _)).Ends r w
          (fun e r' _ => r'.Nowhere s.returned e.id) (fun _ _ _ => False)) ∧
      (∀ before client rest, s.reactor.clients = before ++ client :: rest →
        (Reactor.closing before : Action _ Empty _ Unit).Ends s.reactor s.machine
          (fun _ r' _ => r'.Nowhere s.returned client.id) (fun _ _ _ => False) ∧
        (Reactor.shutdown : Action _ Empty _ Unit) s.reactor s.machine =
          (do Reactor.closing before; Reactor.closeAll (client :: rest)) s.reactor s.machine) ∧
      ∀ limit s', s.step (.run limit) = some s' → ∃ n ≤ limit, s.play (phases n) = some s' := by
  have hrun : ((founded 1 {} {} {} : Option (Estate Scenario.Bench NoHooks _)).bind
      (play [.register quietConnection, .register quietConnection, .register quietConnection,
        .unregister 1, .visit 2 ChannelOps.close.sure, .runOnce, .stop, .run 1])).any
      (fun s => s.issued == [1, 2, 3] && s.returned == [1] &&
        s.reactor.closures == [(2, .closed), (3, .shutdown)]) = true := by
    decide +kernel
  obtain ⟨s, hs, hp⟩ := (Option.any_eq_true _ _).mp hrun
  obtain ⟨s₀, hfounded, hplay⟩ := Option.bind_eq_some_iff.mp hs
  exact ⟨s₀, s, hfounded, hplay, by simpa [and_assoc] using hp, custody_kept hfounded _ hplay⟩

end Estate

end ChannelReactor
