import ChannelReactor.Proofs.Finality
import ChannelReactor.Proofs.RoundTrip

/-! # Final evictions

Whatever makes a reactor let a channel go, the application hears of it when the channel is closed
for good. The channel under an id is followed through everything that the reactor and its owner do,
up to the close that comes before the news (`evictions_final`). -/
namespace ChannelReactor

variable {ω η τ α β χ : Type}

namespace ChannelOps

variable [ChannelOps ω χ]

/-- One operation or one accept makes the second channel of the first. -/
inductive Use : χ → χ → Prop
  | operate {c c' : χ} (h : Step c c') : Use c c'
  | accept {c c' : χ} {w w' : ω} (h : accept.Leaves c w c' w') : Use c c'

/-- Operations and accepts make the second channel of the first. -/
abbrev Used : χ → χ → Prop := Relation.ReflTransGen Use

theorem Used.keeps {I : χ → Prop} {c c' : χ}
    (hI : ∀ op : ChannelOp, Action.Keeps (fun c _ => I c) (op.perform (χ := χ)))
    (haccept : Action.Keeps (fun c _ => I c) (accept : Action ω ChannelError χ (Accepted χ)))
    (h : Used c c') (hc : I c) : I c' := by
  induction h with
  | refl => exact hc
  | tail _ hstep ih =>
    cases hstep with
    | operate hstep =>
      obtain ⟨op, w, w', hx⟩ := hstep
      exact (hI op _ w ih).leaves hx
    | accept hx => exact (haccept _ _ ih).leaves hx

/-- What a call of the program leaves is left by the operation that makes it. -/
theorem used_of_leaves {x : Action ω ChannelError χ Unit} (op : ChannelOp)
    (hop : op.perform = do x; pure []) {c c' : χ} {w w' : ω} (h : x.Leaves c w c' w') :
    Used c c' := by
  refine .single (.operate ⟨op, w, w', ?_⟩)
  rw [hop, Action.Leaves, Action.bind_apply]
  obtain ⟨a, hx⟩ | ⟨e, hx⟩ := h
  · exact .inl ⟨[], by rw [hx]; rfl⟩
  · exact .inr ⟨e, by rw [hx]⟩

end ChannelOps

/-- The hooks about a client do nothing with it but use it. -/
structure Hooks.Uses (ω η χ : Type) [ChannelOps ω χ] [Hooks ω η χ] : Prop where
  readable : ∀ {id : ChannelId} {c c' : χ} {desk desk' : Desk η χ} {w w' : ω},
    Hooks.onReadable id c desk w = .done c' desk' w' → ChannelOps.Used c c'
  writable : ∀ {id : ChannelId} {c c' : χ} {desk desk' : Desk η χ} {w w' : ω},
    Hooks.onWritable id c desk w = .done c' desk' w' → ChannelOps.Used c c'

theorem Hooks.Uses.conducts [ChannelOps ω χ] [Hooks ω η χ] (h : Hooks.Uses ω η χ) :
    Reactor.Conducts η (ChannelOps.Used (χ := χ)) where
  write hx := ChannelOps.used_of_leaves .onWrite rfl hx
  read hx := ChannelOps.used_of_leaves .onRead rfl hx
  accept hx := .single (.accept hx)
  writable hx := h.writable hx
  readable hx := h.readable hx

namespace Journaled

variable [Machine ω] [Transport ω τ] [Acceptor ω α τ] [ChannelOps (Archive ω) β]
variable [ChannelOps (Archive ω) χ] {view : χ → Channel (Logged τ) (Logged α) β} {j : Journaled χ}

/-- The journal goes back to the making of the connection or the listener that `view` shows, whatever
it was wrapped in and whatever was done with it since. -/
inductive Lived (view : χ → Channel (Logged τ) (Logged α) β) : Journaled χ → Prop
  | connection {c : χ} {k : Connection (Logged τ)} (hk : k.Established)
    (hc : view c = .connection k) : Lived view { channel := c }
  | listener {c : χ} {l : Listener (Logged α)} (hl : l.Established) (hc : view c = .listener l) :
    Lived view { channel := c }
  | wrapped {j : Journaled χ} {c : χ} (h : Lived view j) (hc : view c = view j.channel) :
    Lived view { j with channel := c }
  | used {j j' : Journaled χ} (h : Lived view j) (hj : ChannelOps.Used j j') : Lived view j'

theorem Lived.reckoned (hview : Transparent view) (h : j.Lived view) : j.Reckoned view := by
  induction h with
  | connection hk hc =>
    rw [Reckoned, hc]
    exact .established hk
  | listener hl hc =>
    rw [Reckoned, hc]
    obtain ⟨label, a, settings, policy, rfl⟩ := hl.made
    exact ⟨rfl, rfl⟩
  | wrapped _ hc ih =>
    rw [Reckoned, hc]
    exact ih
  | used _ hj ih => exact hj.keeps (perform_reckoned hview) (accept_reckoned hview) ih

/-- The connections that a listener hands out have their whole lives before them. -/
theorem accept_lived (hview : Transparent view) {w : ω} {l : Listener (Logged α)}
    (hl : view j.channel = .listener l) :
    (ChannelOps.accept : Action ω ChannelError (Journaled χ) _).Ends j w
      (fun accepted _ _ => accepted.channel.Lived view) (fun _ _ _ => True) := by
  have haccept : (ChannelOps.accept : Action (Archive ω) ChannelError
      (Channel (Logged τ) (Logged α) β) _).Ends (view j.channel) { machine := w }
      (fun accepted _ _ => ∃ k, accepted.channel = .connection k ∧ k.Established)
      (fun _ _ _ => True) := by
    change (do Channel.acceptOf (← Action.subject)).Ends _ _ _ _
    rw [Action.ends_bind, Action.ends_subject, hl, Channel.acceptOf, Action.ends_bind,
      Channel.onListener_ends]
    exact (Listener.acceptConnection_establishes l _).mono (fun next _ _ hk => ⟨next.1, rfl, hk⟩)
      (fun _ _ _ h => h)
  refine Action.ends_bind.mpr (keeping_ends.mpr ((hview.accept.ends haccept).mono ?_ ?_))
  · rintro accepted c page ⟨k, hk, hmade⟩
    exact .connection hmade hk
  · exact fun _ _ _ h => h

omit [Machine ω] [ChannelOps (Archive ω) β] in
/-- A channel that a reactor takes over still has its whole life in its journal. -/
theorem enroll_lived {side : Side} (hj : j.Lived view)
    {known : Side → List (Entry (Journaled χ))} :
    Action.Keeps (fun r _ => ∀ side, ∀ e ∈ r.entries side, e ∈ known side ∨ e.channel.Lived view)
      (Reactor.enroll side j : Action ω ReactorError (Reactor η (Journaled χ)) ChannelId) := by
  intro r w hr
  refine Reactor.enroll_ends.mono (fun id r' w' henrolled => ?_) (fun _ r' _ hrefused => ?_)
  · obtain ⟨-, j', hattach, rfl⟩ := henrolled
    have hj' : j'.Lived view :=
      .used hj (ChannelOps.used_of_leaves (.attach r.token) rfl (.inl ⟨(), hattach⟩))
    intro side' e he
    obtain hold | ⟨-, rfl⟩ := Reactor.mem_entries_enrolled he
    · exact hr side' e hold
    · exact .inr hj'
  · rw [hrefused.1]
    exact hr

end Journaled

/-- An operation of the owner is a use of the channel. -/
theorem Command.operate_used [ChannelOps ω χ] {id : ChannelId} {op : ChannelOp} :
    (operate id op : Command ω η χ).Within ChannelOps.Used :=
  operate_within.mono (Relation.ReflTransGen.mono (fun _ _ => ChannelOps.Use.operate) _ _)

/-- The channel that the application is told of under this id, let go for this reason. -/
def HookCall.departed? (id : ChannelId) (reason : CloseReason) : HookCall χ → Option χ
  | closed id' c reason' => if id' = id ∧ reason' = reason then some c else none
  | _ => none

theorem HookCall.departed?_eq_some {id : ChannelId} {reason : CloseReason} {call : HookCall χ}
    {c : χ} (h : call.departed? id reason = some c) : call = .closed id c reason := by
  unfold departed? at h
  split at h
  · split at h
    · obtain ⟨rfl, rfl⟩ := ‹_ ∧ _›
      rw [Option.some_inj.mp h]
    · cases h
  · cases h

namespace Reactor

variable [Machine ω] [ChannelOps ω χ]

/-- What makes a reactor close a channel for good: a fault, a poll that failed, or the end of a
run. The second channel and machine are those that it is closed on. -/
inductive Ending (side : Side) (c : χ) (w : ω) : CloseReason → χ → ω → Prop
  | fault {reason : CloseReason} {c' : χ} {w' : ω} (h : Fault side c w reason c' w') :
    Ending side c w reason c' w'
  | blame {w' : ω} (h : Unpollable c w w') : Ending side c w .pollFailure c w'
  | shutdown (h : side = .client) : Ending side c w .shutdown c w

/-- The channel that a reactor has under an id comes to its end here: it is `c` when it is closed for
good, and `j` after that. -/
def Departs {η : Type} (r : Reactor η χ) (w : ω) (side : Side) (id : ChannelId)
    (reason : CloseReason) (c j : χ) : Prop :=
  ∃ e ∈ r.entries side, e.id = id ∧ ∃ w₁ w₂, Ending side e.channel w reason c w₁ ∧
    ChannelOps.close (ChannelOps.mapCore ChannelCore.unregister c) w₁ = .done () j w₂

variable [Hooks ω η χ] {r r' : Reactor (Watched η χ) χ} {w w' : ω} {id : ChannelId} {j : χ}
variable {reason : CloseReason}

/-- The application is told of an end in a move only if a channel comes to it there. -/
theorem Move.departs (hm : Move (r, w) (r', w'))
    (htold : HookCall.closed id j reason ∈ r'.hooks.calls) :
    HookCall.closed id j reason ∈ r.hooks.calls ∨ ∃ side c, r.Departs w side id reason c j := by
  have hlast {desk : Desk (Watched η χ) χ} {call : HookCall χ}
      (hcalls : desk.hooks.calls = r.hooks.calls ++ [call])
      (h : HookCall.closed id j reason ∈ desk.hooks.calls) :
      HookCall.closed id j reason ∈ r.hooks.calls ∨ HookCall.closed id j reason = call := by
    rwa [hcalls, List.mem_append, List.mem_singleton] at h
  cases hm with
  | elapse _ | reject _ | discard | pollFailed | fetch _ => exact .inl htold
  | enroll side _ =>
    cases side <;> exact .inl htold
  | defer he hd =>
    rw [hooks_put] at htold
    exact .inl htold
  | tick hh | write _ _ hh | read _ _ hh | accept _ _ hh =>
    refine (hlast (Watched.noting_done hh) htold).imp_right fun heq => ?_
    cases heq
  | @blame _ _ w₁ w₂ _ side index e c desk he hu hc hh =>
    refine (hlast (Watched.noting_done hh) htold).imp_right fun heq => ?_
    cases heq
    exact ⟨side, e.channel, e, List.mem_of_getElem? he, rfl, w₁, w₂, .blame hu, hc⟩
  | @evict _ _ w₁ w₂ _ side index e _ c₁ c₂ desk he hf hc hh =>
    refine (hlast (Watched.noting_done hh) htold).imp_right fun heq => ?_
    cases heq
    exact ⟨side, c₁, e, List.mem_of_getElem? he, rfl, w₁, w₂, .fault hf, hc⟩

variable {V : χ → χ → Prop}

/-- So in any turn. -/
theorem Turn.departs (ht : Turn V (r, w) (r', w'))
    (htold : HookCall.closed id j reason ∈ r'.hooks.calls) :
    HookCall.closed id j reason ∈ r.hooks.calls ∨ ∃ side c, r.Departs w side id reason c j := by
  cases ht with
  | move hm => exact hm.departs htold
  | mailbox _ | adjust _ | takeListeners => exact .inl htold
  | visit he _ =>
    rw [hooks_put] at htold
    exact .inl htold
  | unregister side index =>
    cases side <;> exact .inl htold
  | @dismiss _ _ w₁ _ e rest c desk he hc hh =>
    have hcalls : desk.hooks.calls = r.hooks.calls ++ [.closed e.id c .shutdown] :=
      Watched.noting_done hh
    change HookCall.closed id j reason ∈ desk.hooks.calls at htold
    rw [hcalls, List.mem_append, List.mem_singleton] at htold
    refine htold.imp_right fun heq => ?_
    cases heq
    have hmem : e ∈ r.entries .client := by
      rw [entries, he]
      exact List.mem_cons_self
    exact ⟨.client, e.channel, e, hmem, rfl, w, w₁, .shutdown rfl, hc⟩
  | @greet _ _ _ call desk hcall hh =>
    change HookCall.closed id j reason ∈ desk.hooks.calls at htold
    rw [hh, List.mem_append, List.mem_singleton] at htold
    refine htold.imp_right fun heq => ?_
    obtain rfl | rfl := hcall <;> cases heq

/-- An end that the application was told of came at some point of the turns, if it was not told of
before them. -/
theorem Turns.departs (ht : Turns V (r, w) (r', w'))
    (hnew : HookCall.closed id j reason ∉ r.hooks.calls)
    (htold : HookCall.closed id j reason ∈ r'.hooks.calls) :
    ∃ r₁ w₁ side c, Turns V (r, w) (r₁, w₁) ∧ Turns V (r₁, w₁) (r', w') ∧
      r₁.Departs w₁ side id reason c j := by
  generalize hq : (r', w') = q at ht
  induction ht generalizing r' w' with
  | refl =>
    cases hq
    exact absurd htold hnew
  | @tail p _ hturns hturn ih =>
    subst hq
    obtain hbefore | ⟨side, c, hdeparts⟩ := hturn.departs htold
    · obtain ⟨r₁, w₁, side, c, hto, hfrom, hdeparts⟩ := ih hbefore rfl
      exact ⟨r₁, w₁, side, c, hto, hfrom.tail hturn, hdeparts⟩
    · exact ⟨p.1, p.2, side, c, hturns, .single hturn, hdeparts⟩

/-- What makes a reactor close a channel for good keeps what its callbacks keep. -/
theorem Ending.keeps {P : χ → Prop} (hcallbacks : Conducts η V)
    (hV : ∀ {c c' : χ}, V c c' → P c → P c') {side : Side} {c c' : χ}
    (h : Ending side c w reason c' w') (hc : P c) : P c' := by
  cases h with
  | blame _ | shutdown _ => exact hc
  | fault hf =>
    cases hf with
    | expired _ | lost _ => exact hc
    | write hx =>
      obtain ⟨e, -, hx⟩ := hx
      exact hV (hcallbacks.write (.inr ⟨e, hx⟩)) hc
    | read hx =>
      obtain ⟨e, -, hx⟩ := hx
      exact hV (hcallbacks.read (.inr ⟨e, hx⟩)) hc
    | accept hx =>
      obtain ⟨e, -, hx⟩ := hx
      exact hV (hcallbacks.accept (.inr ⟨e, hx⟩)) hc

end Reactor

namespace Estate

variable [Machine ω] [Transport ω τ] [Acceptor ω α τ] [ChannelOps (Archive ω) β]
variable [ChannelOps (Archive ω) χ] [Hooks ω η (Journaled χ)]
variable {view : χ → Channel (Logged τ) (Logged α) β}

omit [ChannelOps (Archive ω) β] in
theorem register_lived {s s' : Estate ω η (Journaled χ)} {j : Journaled χ} (hj : j.Lived view)
    (h : s.step (.register j) = some s') :
    ∀ side, ∀ e ∈ s'.reactor.entries side, e ∈ s.reactor.entries side ∨ e.channel.Lived view := by
  have hkeeps : Action.Keeps
      (fun r _ => ∀ side, ∀ e ∈ r.entries side,
        e ∈ s.reactor.entries side ∨ e.channel.Lived view)
      (Command.register (η := η) j).perform :=
    (Journaled.enroll_lived hj).bind fun _ => Action.keeps_pure
  exact step_ends h (hkeeps s.reactor s.machine fun side e he => .inl he)

/-- Whenever the application is told that the reactor let a channel go, of whatever kind, in whatever
wrappings and for whatever reason, the channel was closed for good before: it is inactive, no reactor
has it, it has nothing to send and does not linger, and its device is gone, a transport by the only
close in its life. What it had received and not been read of when it was closed can still be read. -/
theorem evictions_final (hview : Transparent view) (hhooks : Hooks.Uses ω η (Journaled χ))
    {serial : Nat} {settings : ReactorSettings} {hooks : η} {machine : ω}
    {s₀ s : Estate ω η (Journaled χ)} (hfounded : founded serial settings hooks machine = some s₀)
    (commands : List (Command ω η (Journaled χ))) (hplay : s₀.play commands = some s)
    {r r' : Reactor (Watched η (Journaled χ)) (Journaled χ)} {w w' : ω}
    (hmoves : Reactor.Moves (s.reactor, s.machine) (r, w)) {side : Side}
    {e : Entry (Journaled χ)} (he : e ∈ r.entries side) (hlived : e.channel.Lived view)
    (hturns : Reactor.Turns ChannelOps.Used (r, w) (r', w')) {j : Journaled χ}
    {reason : CloseReason} (htold : HookCall.closed e.id j reason ∈ r'.hooks.calls) :
    ∃ r₁ w₁ c, Reactor.Turns ChannelOps.Used (r, w) (r₁, w₁) ∧
      Reactor.Turns ChannelOps.Used (r₁, w₁) (r', w') ∧ r₁.Departs w₁ side e.id reason c j ∧
      ChannelOps.Over (ChannelOps.core c).input.toList j ∧
      (view j.channel).Parted j.notes := by
  have hordered : r.Ordered := (play_ordered hfounded commands hplay).moves hmoves
  have haccounted := (play_accounted commands (founded_accounted hfounded) hplay).moves hmoves
  have hused {c c' : Journaled χ} (hu : ChannelOps.Used c c') (hc : c.Reckoned view) :
      c'.Reckoned view :=
    hu.keeps (Journaled.perform_reckoned hview) (Journaled.accept_reckoned hview) hc
  have htracked : Reactor.Tracked (fun side' c => side' = side ∧ c.Reckoned view) e.id r := by
    refine ⟨hordered.below side _ (List.mem_map_of_mem he), fun side' e' he' hid => ?_⟩
    obtain ⟨rfl, rfl⟩ := hordered.unique he he' hid
    exact ⟨rfl, hlived.reckoned hview⟩
  obtain ⟨r₁, w₁, side', c, hto, hfrom, hdeparts⟩ := hturns.departs (haccounted.untold he) htold
  obtain ⟨e₁, he₁, hid, w₂, w₃, hending, hclose⟩ := hdeparts
  obtain ⟨rfl, hreckoned⟩ := (htracked.turns (fun _ _ _ hu hc => ⟨hc.1, hused hu hc.2⟩)
    hhooks.conducts hto).kept side' e₁ he₁ hid
  have hc : c.Reckoned view := hending.keeps hhooks.conducts hused hreckoned
  obtain ⟨hover, hparted⟩ := Journaled.dismissed_over hview hc hclose
  exact ⟨r₁, w₁, c, hto, hfrom, ⟨e₁, he₁, hid, w₂, w₃, hending, hclose⟩, hover, hparted⟩

/-- A channel on the bench, in its wrappings. -/
abbrev Parcel : Type :=
  Wrapped (Channel (Logged Scenario.Wire) (Logged Scenario.Gate) (NoKind (Archive Scenario.Bench)))

/-- What is inside all wrappings and layers. -/
def Parcel.kernel : Parcel → Channel (Logged Scenario.Wire) (Logged Scenario.Gate)
    (NoKind (Archive Scenario.Bench)) :=
  Channel.bare ∘ Wrapped.content

theorem Parcel.kernel_transparent : Transparent Parcel.kernel :=
  Wrapped.content_transparent.trans Channel.bare_transparent

/-- A wire that brings two bytes and takes none. -/
def cloggedWire : Scenario.Wire where
  name := "clogged"
  label := some "clogged"
  script.recv := [{ act := .data [1, 2] }]
  script.sendBlock := true

/-- A connection in a layer and a box. -/
def cloggedClient : Journaled Parcel where
  channel := .boxed (.expiring (.plain (.connection
    { core := .new .forever "clogged", transport := some ⟨cloggedWire⟩, chunk := 4,
      policy := .plain })) .start ⟨10⟩)

theorem cloggedClient_lived : cloggedClient.Lived Parcel.kernel :=
  .connection ⟨.plain, { readChunk := 4 }, ⟨cloggedWire⟩, { machine := ({} : Scenario.Bench) }, _,
    rfl⟩ rfl

theorem noHooks_use : Hooks.Uses Scenario.Bench NoHooks (Journaled Parcel) where
  readable h := by
    cases h
    exact .refl
  writable h := by
    cases h
    exact .refl

/-- A connection that lingers with output that its wire does not take is let go when the reactor
ends: the output is lost, and what it had received is still there. -/
theorem evictions_final_cloggedClient :
    ∃ (s₀ s s' : Estate Scenario.Bench NoHooks (Journaled Parcel)) (e : Entry (Journaled Parcel))
      (j : Journaled Parcel),
      (Transparent Parcel.kernel ∧ Hooks.Uses Scenario.Bench NoHooks (Journaled Parcel) ∧
        founded 1 {} {} {} = some s₀ ∧ s₀.play [.register cloggedClient] = some s ∧
        e ∈ s.reactor.entries .client ∧ e.channel.Lived Parcel.kernel) ∧
      (s.play [.operate 1 .onRead, .operate 1 (.write [9]), .operate 1 .close, .shutdown] =
          some s' ∧
        HookCall.closed e.id j .shutdown ∈ s'.reactor.hooks.calls) ∧
      ∃ r₁ w₁ c, Reactor.Turns ChannelOps.Used (s.reactor, s.machine) (r₁, w₁) ∧
        Reactor.Turns ChannelOps.Used (r₁, w₁) (s'.reactor, s'.machine) ∧
        r₁.Departs w₁ .client e.id .shutdown c j ∧ ChannelOps.Over [1, 2] j ∧
        (Parcel.kernel j.channel).Parted j.notes := by
  have hrun : (founded 1 {} {} {} : Option (Estate _ NoHooks (Journaled Parcel))).any (fun s₀ =>
      s₀.reactor.clients.isEmpty &&
      (s₀.play [.register cloggedClient]).any fun s =>
        s.reactor.clients.map (·.id) == [1] &&
        (s.play [.operate 1 .onRead, .operate 1 (.write [9]), .operate 1 .close, .shutdown]).any
          fun s' => s'.reactor.hooks.calls.any fun call =>
            (call.departed? 1 .shutdown).any fun j =>
              (ChannelOps.core j).input.toList == [1, 2]) = true := by
    decide +kernel
  obtain ⟨s₀, hfounded, hp⟩ := (Option.any_eq_true _ _).mp hrun
  rw [Bool.and_eq_true, List.isEmpty_iff] at hp
  obtain ⟨hnone, hp⟩ := hp
  obtain ⟨s, hplay, hp⟩ := (Option.any_eq_true _ _).mp hp
  rw [Bool.and_eq_true, beq_iff_eq, List.map_eq_singleton_iff] at hp
  obtain ⟨⟨e, hclients, hid⟩, hp⟩ := hp
  obtain ⟨s', hending, hp⟩ := (Option.any_eq_true _ _).mp hp
  obtain ⟨call, hcall, hclosed⟩ := List.any_eq_true.mp hp
  obtain ⟨j, hj, hinput⟩ := (Option.any_eq_true _ _).mp hclosed
  rw [beq_iff_eq] at hinput
  have he : e ∈ s.reactor.entries .client := by
    change e ∈ s.reactor.clients
    rw [hclients]
    exact List.mem_singleton_self e
  have hlived : e.channel.Lived Parcel.kernel := by
    have hstep := (play_singleton (.register cloggedClient) s₀).symm.trans hplay
    obtain hold | hnew := register_lived cloggedClient_lived hstep .client e he
    · rw [Reactor.entries, hnone] at hold
      cases hold
    · exact hnew
  have hturns := play_turns (V := ChannelOps.Used) _ (by
    intro command hc
    simp only [List.mem_cons, List.not_mem_nil, or_false] at hc
    obtain rfl | rfl | rfl | rfl := hc
    · exact Command.operate_used
    · exact Command.operate_used
    · exact Command.operate_used
    · trivial) hending
  have htold : HookCall.closed e.id j .shutdown ∈ s'.reactor.hooks.calls := by
    rw [hid]
    exact HookCall.departed?_eq_some hj ▸ hcall
  obtain ⟨r₁, w₁, c, hto, hfrom, hdeparts, hover, hparted⟩ :=
    evictions_final Parcel.kernel_transparent noHooks_use hfounded _ hplay .refl he hlived hturns
      htold
  rw [← hover.input, hinput] at hover
  exact ⟨s₀, s, s', e, j,
    ⟨Parcel.kernel_transparent, noHooks_use, hfounded, hplay, he, hlived⟩, ⟨hending, htold⟩,
    r₁, w₁, c, hto, hfrom, hdeparts, hover, hparted⟩

end Estate

end ChannelReactor
