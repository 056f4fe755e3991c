import ChannelReactor.Proofs.Expiry
import ChannelReactor.Proofs.Handling

/-! # The activity of channels

A dated channel is a channel with the instants of its activity: the ends of the reads that a reactor
asked it to make and that succeeded, the touches, and the making of each layer that lets it expire.
The instants were noted as the operations went on, so such a channel cannot be made with a history
that it never had. What the outermost layer remembers is the last of them, and an iteration of a
reactor goes by that. -/
namespace ChannelReactor

variable {ω ε η τ α β γ : Type}

namespace Channel

/-- What the outermost layer that lets a channel expire remembers: the last activity, and the
interval. -/
def age? : Channel τ α β → Option (Instant × Span)
  | expiring _ last interval => some (last, interval)
  | _ => none

section

variable {s : Channel τ α β} {w : ω}

theorem onConnection_age {k : Connection τ} {x : Action ω ε (Connection τ) γ} :
    (onConnection k x : Action ω ε (Channel τ α β) γ).Ends s w (fun _ c' _ => c'.age? = none)
      (fun _ c' _ => c'.age? = none) := by
  rw [onConnection_ends]
  exact (Action.ends_self _ _ _).mono (fun _ _ _ _ => rfl) (fun _ _ _ _ => rfl)

theorem onListener_age {l : Listener α} {x : Action ω ε (Listener α) γ} :
    (onListener l x : Action ω ε (Channel τ α β) γ).Ends s w (fun _ c' _ => c'.age? = none)
      (fun _ c' _ => c'.age? = none) := by
  rw [onListener_ends]
  exact (Action.ends_self _ _ _).mono (fun _ _ _ _ => rfl) (fun _ _ _ _ => rfl)

theorem onCustom_age {b : β} {x : Action ω ε β γ} :
    (onCustom b x : Action ω ε (Channel τ α β) γ).Ends s w (fun _ c' _ => c'.age? = none)
      (fun _ c' _ => c'.age? = none) := by
  unfold Action.Ends onCustom
  cases x b w <;> trivial

theorem onInner_age {inner : Channel τ α β} {last : Instant} {interval : Span}
    {x : Action ω ε (Channel τ α β) γ} :
    (onInner inner last interval x).Ends s w (fun _ c' _ => c'.age? = some (last, interval))
      (fun _ c' _ => c'.age? = some (last, interval)) := by
  rw [onInner_ends]
  exact (Action.ends_self _ _ _).mono (fun _ _ _ _ => rfl) (fun _ _ _ _ => rfl)

end

/-- What an operation leaves, of which it is known how it ends on each kind. -/
theorem age_of_leaves {f : Channel τ α β → Action ω ε (Channel τ α β) γ} {c c' : Channel τ α β}
    {w w' : ω}
    (hf : (f c).Ends c w (fun _ c' _ => c'.age? = c.age?) (fun _ c' _ => c'.age? = c.age?))
    (h : (do f (← Action.subject)).Leaves c w c' w') : c'.age? = c.age? :=
  Action.Ends.leaves (P := fun c' _ => c'.age? = c.age?)
    (Action.ends_bind.mpr (Action.ends_subject.mpr hf)) h

variable [Machine ω]

theorem touch_age (c : Channel τ α β) (w : ω) :
    (touch : Action ω ε (Channel τ α β) Unit).Ends c w
      (fun _ c' w' => ∀ last interval, c'.age? = some (last, interval) → last = Machine.now w')
      (fun _ _ _ => False) := by
  rw [touch, Action.ends_bind, Action.now, Action.ends_ask, Action.ends_update]
  cases c with
  | expiring inner last interval =>
    intro last' interval' hage
    cases hage
    rfl
  | connection _ | listener _ | custom _ =>
    intro _ _ hage
    cases hage

variable [Transport ω τ] [ChannelOps ω β]

/-- A read for the reactor that succeeds is remembered by the outermost layer. -/
theorem onReadOf_age (c : Channel τ α β) (w : ω) :
    (onReadOf c).Ends c w
      (fun _ c' w' => ∀ last interval, c'.age? = some (last, interval) → last = Machine.now w')
      (fun _ c' _ => c'.age? = c.age?) := by
  cases c with
  | connection k =>
    exact onConnection_age.mono (fun _ _ _ h _ _ hage => by rw [h] at hage; cases hage)
      (fun _ _ _ h => h)
  | listener l => exact rfl
  | custom b =>
    exact onCustom_age.mono (fun _ _ _ h _ _ hage => by rw [h] at hage; cases hage)
      (fun _ _ _ h => h)
  | expiring inner last interval =>
    rw [onReadOf, Action.ends_bind]
    exact onInner_age.mono
      (fun _ c' w' _ => (touch_age c' w').mono (fun _ _ _ h => h) (fun _ _ _ h => h.elim))
      (fun _ _ _ h => h)

variable [Acceptor ω α τ]

/-- What makes the second channel of the first is not an activity: any operation but a read for the
reactor, and such a read when it fails. -/
inductive Idles : Channel τ α β → Channel τ α β → Prop
  | core {c : Channel τ α β} (f : ChannelCore → ChannelCore) : Idles c (ChannelOps.mapCore f c)
  | applyMode {c c' : Channel τ α β} {w w' : ω} {mode : WaitMode}
    (h : (ChannelOps.applyMode mode).Leaves c w c' w') : Idles c c'
  | read {c c' : Channel τ α β} {w w' : ω} {count : Nat} {opts : ReadOptions}
    (h : (ChannelOps.read count opts).Leaves c w c' w') : Idles c c'
  | write {c c' : Channel τ α β} {w w' : ω} {data : Bytes}
    (h : (ChannelOps.write data).Leaves c w c' w') : Idles c c'
  | onRead {c c' : Channel τ α β} {w w' : ω} {e : ChannelError}
    (h : ChannelOps.onRead c w = .refused e c' w') : Idles c c'
  | onWrite {c c' : Channel τ α β} {w w' : ω} (h : ChannelOps.onWrite.Leaves c w c' w') :
    Idles c c'
  | close {c c' : Channel τ α β} {w w' : ω} (h : ChannelOps.close.Leaves c w c' w') : Idles c c'
  | accept {c c' : Channel τ α β} {w w' : ω} (h : ChannelOps.accept.Leaves c w c' w') :
    Idles c c'

theorem Idles.age {c c' : Channel τ α β} (h : c.Idles c') : c'.age? = c.age? := by
  cases h with
  | core f => cases c <;> rfl
  | applyMode h =>
    refine age_of_leaves (f := applyModeOf _) ?_ h
    cases c
    exacts [onConnection_age, onListener_age, onCustom_age, onInner_age]
  | read h =>
    refine age_of_leaves (f := readOf _ _) ?_ h
    cases c
    exacts [onConnection_age, rfl, onCustom_age, onInner_age]
  | write h =>
    refine age_of_leaves (f := writeOf _) ?_ h
    cases c
    exacts [onConnection_age, rfl, onCustom_age, onInner_age]
  | onRead h => exact (onReadOf_age c _).refused h
  | onWrite h =>
    refine age_of_leaves (f := onWriteOf) ?_ h
    cases c
    exacts [onConnection_age, rfl, onCustom_age, onInner_age]
  | close h =>
    refine age_of_leaves (f := closeOf) ?_ h
    cases c
    exacts [onConnection_age, onListener_age, onCustom_age, onInner_age]
  | accept h =>
    refine age_of_leaves (f := acceptOf) ?_ h
    cases c
    exacts [rfl, Action.ends_bind.mpr onListener_age, Action.ends_bind.mpr onCustom_age,
      onInner_age]

omit [Machine ω] in
theorem acceptOf_age (c : Channel τ α β) (s : Channel τ α β) (w : ω) :
    (acceptOf c).Ends s w (fun accepted _ _ => accepted.channel.age? = none)
      (fun _ _ _ => True) := by
  induction c generalizing s w with
  | connection k => trivial
  | listener l =>
    rw [acceptOf, Action.ends_bind, onListener_ends]
    exact (Action.ends_self _ _ _).mono (fun _ _ _ _ => rfl) (fun _ _ _ _ => trivial)
  | custom b =>
    rw [acceptOf, Action.ends_bind]
    exact onCustom_age.mono (fun _ _ _ _ => rfl) (fun _ _ _ _ => trivial)
  | expiring inner last interval ih =>
    rw [acceptOf, onInner_ends]
    exact (ih inner w).mono (fun _ _ _ h => h) (fun _ _ _ _ => trivial)

/-- A channel that was accepted is under no layer. -/
theorem accepted_age {c c' : Channel τ α β} {accepted : Accepted (Channel τ α β)} {w w' : ω}
    (h : ChannelOps.accept c w = .done accepted c' w') : accepted.channel.age? = none :=
  (acceptOf_age c c w).done h

/-- The instants of a channel's activity, the oldest first. -/
inductive Chronicle : Channel τ α β → List Instant → Prop
  /-- A channel under no layer has everything before it. -/
  | bare {c : Channel τ α β} (h : c.age? = none) : Chronicle c []
  /-- A layer is put around the channel. -/
  | wrapped {c c' : Channel τ α β} {activity : List Instant} {w w' : ω} {interval : Span}
    (h : Chronicle c activity)
    (hwrap : (expireAfter c interval : Action ω Empty Unit _) () w = .done c' () w') :
    Chronicle c' (activity ++ [Machine.now w'])
  | idle {c c' : Channel τ α β} {activity : List Instant} (h : Chronicle c activity)
    (hidle : c.Idles c') : Chronicle c' activity
  | received {c c' : Channel τ α β} {activity : List Instant} {w w' : ω}
    (h : Chronicle c activity) (hread : ChannelOps.onRead c w = .done () c' w') :
    Chronicle c' (activity ++ [Machine.now w'])
  | touched {c c' : Channel τ α β} {activity : List Instant} {w w' : ω}
    (h : Chronicle c activity)
    (htouch : (touch : Action ω Empty (Channel τ α β) Unit) c w = .done () c' w') :
    Chronicle c' (activity ++ [Machine.now w'])

/-- The outermost layer remembers the last activity. -/
theorem Chronicle.last {c : Channel τ α β} {activity : List Instant} (h : c.Chronicle activity)
    {last : Instant} {interval : Span} (hage : c.age? = some (last, interval)) :
    activity.getLast? = some last := by
  induction h generalizing last interval with
  | bare hnone => rw [hnone] at hage; cases hage
  | wrapped _ hwrap _ =>
    cases hwrap
    cases hage
    exact List.getLast?_concat
  | idle _ hidle ih => exact ih (hidle.age ▸ hage)
  | @received c c' activity w w' _ hread _ =>
    rw [(onReadOf_age c w).done hread last interval hage]
    exact List.getLast?_concat
  | @touched c c' activity w w' _ htouch _ =>
    rw [(touch_age c w).done htouch last interval hage]
    exact List.getLast?_concat

end Channel

/-- A channel with the instants of its activity. -/
structure Dated (τ α β : Type) [Machine ω] [Transport ω τ] [Acceptor ω α τ] [ChannelOps ω β] where
  channel : Channel τ α β
  activity : List Instant
  chronicle : channel.Chronicle activity

namespace Dated

variable [Machine ω] [Transport ω τ] [Acceptor ω α τ] [ChannelOps ω β]

/-- An operation that is no activity. -/
def idling (x : Action ω ε (Channel τ α β) γ)
    (hx : ∀ {c c' : Channel τ α β} {w w' : ω}, x.Leaves c w c' w' → c.Idles c') :
    Action ω ε (Dated τ α β) γ := fun d w =>
  match h : x d.channel w with
  | .done a c w' => .done a ⟨c, d.activity, d.chronicle.idle (hx (.inl ⟨a, h⟩))⟩ w'
  | .refused e c w' => .refused e ⟨c, d.activity, d.chronicle.idle (hx (.inr ⟨e, h⟩))⟩ w'
  | .halted halt w' => .halted halt w'

/-- A read for the reactor, which is an activity when it succeeds. -/
def onRead : Action ω ChannelError (Dated τ α β) Unit := fun d w =>
  match h : (ChannelOps.onRead : Action ω ChannelError (Channel τ α β) Unit) d.channel w with
  | .done () c w' => .done () ⟨c, d.activity ++ [Machine.now w'], d.chronicle.received h⟩ w'
  | .refused e c w' => .refused e ⟨c, d.activity, d.chronicle.idle (.onRead h)⟩ w'
  | .halted halt w' => .halted halt w'

/-- A connection that was accepted has everything before it. -/
def accept : Action ω ChannelError (Dated τ α β) (Accepted (Dated τ α β)) := fun d w =>
  match h : (ChannelOps.accept : Action ω ChannelError (Channel τ α β) _) d.channel w with
  | .done accepted c w' =>
    .done ⟨⟨accepted.channel, [], .bare (Channel.accepted_age h)⟩, accepted.peer⟩
      ⟨c, d.activity, d.chronicle.idle (.accept (.inl ⟨_, h⟩))⟩ w'
  | .refused e c w' =>
    .refused e ⟨c, d.activity, d.chronicle.idle (.accept (.inr ⟨e, h⟩))⟩ w'
  | .halted halt w' => .halted halt w'

instance : ChannelOps ω (Dated τ α β) where
  core d := ChannelOps.core d.channel
  mapCore f d := ⟨ChannelOps.mapCore f d.channel, d.activity, d.chronicle.idle (.core f)⟩
  applyMode mode := idling (ChannelOps.applyMode mode) .applyMode
  descriptor d := ChannelOps.descriptor d.channel
  read count opts := idling (ChannelOps.read count opts) .read
  write data := idling (ChannelOps.write data) .write
  onRead := onRead
  onWrite := idling ChannelOps.onWrite .onWrite
  close := idling ChannelOps.close .close
  isWritePending d := ChannelOps.isWritePending d.channel
  accept := accept
  isListening d := ChannelOps.isListening d.channel
  hasExpired now d := ChannelOps.hasExpired now d.channel
  patience d := ChannelOps.patience d.channel

/-- A layer is put around a dated channel. -/
def expireAfter {σ : Type} (d : Dated τ α β) (interval : Span) : Action ω ε σ (Dated τ α β) :=
  fun s w =>
    match h : (Channel.expireAfter d.channel interval : Action ω Empty Unit _) () w with
    | .done c () w' =>
      .done ⟨c, d.activity ++ [Machine.now w'], d.chronicle.wrapped h⟩ s w'
    | .refused e _ _ => e.elim
    | .halted halt w' => .halted halt w'

def touch : Action ω ε (Dated τ α β) Unit := fun d w =>
  match h : (Channel.touch : Action ω Empty (Channel τ α β) Unit) d.channel w with
  | .done () c w' => .done () ⟨c, d.activity ++ [Machine.now w'], d.chronicle.touched h⟩ w'
  | .refused e _ _ => e.elim
  | .halted halt w' => .halted halt w'

theorem onRead_done {d d' : Dated τ α β} {w w' : ω}
    (h : ChannelOps.onRead d w = .done () d' w') :
    d'.activity = d.activity ++ [Machine.now w'] := by
  change onRead d w = _ at h
  unfold onRead at h
  split at h
  · cases h
    rfl
  · cases h
  · cases h

theorem touch_done {d d' : Dated τ α β} {w w' : ω}
    (h : (touch : Action ω Empty _ _) d w = .done () d' w') :
    d'.activity = d.activity ++ [Machine.now w'] := by
  unfold touch at h
  split at h
  · cases h
    rfl
  · rename_i e _ _ _
    exact e.elim
  · cases h

theorem expireAfter_done {σ : Type} {d d' : Dated τ α β} {interval : Span} {s s' : σ} {w w' : ω}
    (h : (expireAfter d interval : Action ω Empty σ _) s w = .done d' s' w') :
    d'.activity = d.activity ++ [Machine.now w'] := by
  unfold expireAfter at h
  split at h
  · cases h
    rfl
  · rename_i e _ _ _
    exact e.elim
  · cases h

/-- The second channel has seen no activity since the first, and remembers none. -/
structure Rests (d d' : Dated τ α β) : Prop where
  activity : d'.activity = d.activity
  age : d'.channel.age? = d.channel.age?

theorem Rests.idle {d d' d'' : Dated τ α β} (h : d.Rests d')
    (hactivity : d''.activity = d'.activity) (hidle : d'.channel.Idles d''.channel) : d.Rests d'' :=
  ⟨hactivity.trans h.activity, hidle.age.trans h.age⟩

theorem onRead_refused {d d' : Dated τ α β} {w w' : ω} {e : ChannelError}
    (h : ChannelOps.onRead d w = .refused e d' w') : d.Rests d' := by
  change onRead d w = _ at h
  unfold onRead at h
  split at h
  · cases h
  · rename_i hread
    cases h
    exact ⟨rfl, Channel.Idles.age (.onRead hread)⟩
  · cases h

theorem idling_keeps {d : Dated τ α β} {x : Action ω ε (Channel τ α β) γ}
    (hx : ∀ {c c' : Channel τ α β} {w w' : ω}, x.Leaves c w c' w' → c.Idles c') :
    Action.Keeps (fun d' _ => d.Rests d') (idling x hx) := by
  intro d' w h
  unfold Action.Ends idling
  split
  · rename_i hrun
    split at hrun
    · rename_i hx'
      cases hrun
      exact h.idle rfl (hx (.inl ⟨_, hx'⟩))
    · cases hrun
    · cases hrun
  · rename_i hrun
    split at hrun
    · cases hrun
    · rename_i hx'
      cases hrun
      exact h.idle rfl (hx (.inr ⟨_, hx'⟩))
    · cases hrun
  · trivial

/-- No operation but a read for the reactor is an activity. -/
theorem perform_rests {d d' : Dated τ α β} {w w' : ω} {op : ChannelOp} (hop : op ≠ .onRead)
    (h : op.perform.Leaves d w d' w') : d.Rests d' := by
  have hcore (f : ChannelCore → ChannelCore) (d' : Dated τ α β) (_ : ω)
      (_ : ChannelCore.Retunes f) (h : d.Rests d') : d.Rests (ChannelOps.mapCore f d') :=
    h.idle rfl (.core f)
  have happly (mode : WaitMode) : Action.Keeps (fun d' _ => d.Rests d')
      (ChannelOps.applyMode mode : Action ω ChannelError (Dated τ α β) Unit) :=
    idling_keeps .applyMode
  have hkeeps : Action.Keeps (fun d' _ => d.Rests d') (op.perform (χ := Dated τ α β)) := by
    cases op with
    | write data => exact (idling_keeps .write).bind fun _ => Action.keeps_pure
    | read count opts => exact idling_keeps .read
    | onRead => exact absurd rfl hop
    | onWrite => exact (idling_keeps .onWrite).bind fun _ => Action.keeps_pure
    | setMode mode => exact (ChannelOps.setMode_keeps happly hcore).bind fun _ => Action.keeps_pure
    | attach token => exact (ChannelOps.attach_keeps happly hcore).bind fun _ => Action.keeps_pure
    | detach => exact (ChannelOps.detach_keeps happly hcore).bind fun _ => Action.keeps_pure
    | close => exact (idling_keeps .close).sure.bind fun _ => Action.keeps_pure
  exact (hkeeps d w ⟨rfl, rfl⟩).leaves h

/-- A kind that has no expiry of its own. -/
abbrev Lasting (β : Type) [ChannelOps ω β] : Prop :=
  ∀ now (b : β), ChannelOps.hasExpired now b = false

theorem hasExpired_eq (hβ : Lasting β) (now : Instant) (d : Dated τ α β) :
    ChannelOps.hasExpired now d =
      d.channel.age?.any fun (last, interval) => decide (interval < now.since last) := by
  change Channel.hasExpired now d.channel = _
  cases d.channel with
  | custom b => exact hβ now b
  | connection _ | listener _ | expiring _ _ _ => rfl

/-- A dated channel is expired when the time since its last activity is longer than its outermost
layer's interval. -/
theorem hasExpired_iff (hβ : Lasting β) {now : Instant} {d : Dated τ α β} :
    ChannelOps.hasExpired now d = true ↔
      ∃ inner last interval, d.channel = .expiring inner last interval ∧
        d.activity.getLast? = some last ∧ interval < now.since last := by
  rw [hasExpired_eq hβ]
  constructor
  · intro h
    obtain ⟨⟨last, interval⟩, hage, hlong⟩ := (Option.any_eq_true _ _).mp h
    have hlast := d.chronicle.last hage
    cases hchannel : d.channel with
    | expiring inner last' interval' =>
      rw [hchannel] at hage
      cases hage
      exact ⟨inner, last, interval, rfl, hlast, of_decide_eq_true hlong⟩
    | connection _ | listener _ | custom _ => rw [hchannel] at hage; cases hage
  · rintro ⟨inner, last, interval, hchannel, -, hlong⟩
    rw [hchannel]
    exact decide_eq_true hlong

end Dated

namespace Reactor

variable [Machine ω] [Transport ω τ] [Acceptor ω α τ] [ChannelOps ω β] [Hooks ω η (Dated τ α β)]

/-- An iteration reads the clock and closes, before it polls, the clients whose outermost layer's
interval is shorter than the time since their last activity: all of them and no others, each once
and in the order of the list, in which all others stay as they are. The activities of a channel are
the ends of the reads for its reactor that succeed, the touches and the layers put around it; no
other operation is one, and no read that fails, so none of these puts the expiry off. -/
theorem expiry_exact (hβ : Dated.Lasting β) (r : Reactor (Watched η (Dated τ α β)) (Dated τ α β))
    (w : ω) :
    (∀ now, (expire now : Action ω ReactorError _ Unit) r w =
      expelAll (r.expired now) (r.spared now) w) ∧
    (∀ r' w', runOnce.Leaves r w r' w' →
      ∃ r₁ w₁ r₂ w₂, (tick : Action ω ReactorError _ Unit) r w = .done () r₁ w₁ ∧
        (expire (Machine.now w₁) : Action ω ReactorError _ Unit) r₁ w₁ = .done () r₂ w₂ ∧
        (do drainMailbox (← Action.subject).settings.injectBatch; serve :
          Action ω ReactorError _ Nat).Leaves r₂ w₂ r' w' ∧
        r.Expires (Machine.now w₁) r₂ ∧
        ∃ later, r'.closures = r₂.closures ++ later ∧
          ∀ closure ∈ later, closure.2 ≠ .expired) ∧
    (∀ now e, e ∈ r.expired now ↔ e ∈ r.clients ∧
      ∃ inner last interval, e.channel.channel = .expiring inner last interval ∧
        e.channel.activity.getLast? = some last ∧ interval < now.since last) ∧
    ∀ (d d' : Dated τ α β) (v v' : ω),
      (ChannelOps.onRead d v = .done () d' v' ∨
          (Dated.touch : Action ω Empty _ _) d v = .done () d' v' ∨
          (∃ interval, (d.expireAfter interval : Action ω Empty Unit _) () v = .done d' () v') →
        d'.activity = d.activity ++ [Machine.now v']) ∧
      ((∃ e, ChannelOps.onRead d v = .refused e d' v') ∨
          (∃ op : ChannelOp, op ≠ .onRead ∧ op.perform.Leaves d v d' v') →
        d'.activity = d.activity ∧
          ∀ now, ChannelOps.hasExpired now d' = ChannelOps.hasExpired now d) := by
  refine ⟨fun now => expire_eq now r w, fun r' w' h => runOnce_expires h, fun now e => ?_,
    fun d d' v v' => ⟨?_, fun h => ?_⟩⟩
  · rw [expired, List.mem_filter, Dated.hasExpired_iff hβ]
  · rintro (hread | htouch | ⟨interval, hwrap⟩)
    · exact Dated.onRead_done hread
    · exact Dated.touch_done htouch
    · exact Dated.expireAfter_done hwrap
  · have hrests : d.Rests d' := by
      rcases h with ⟨e, hread⟩ | ⟨op, hop, hperform⟩
      · exact Dated.onRead_refused hread
      · exact Dated.perform_rests hop hperform
    exact ⟨hrests.activity, fun now => by
      rw [Dated.hasExpired_eq hβ, Dated.hasExpired_eq hβ, hrests.age]⟩

/-- A connection that expires after ten nanoseconds. -/
def quietClient : Dated Scenario.Wire Scenario.Gate (NoKind Scenario.Bench) where
  channel := .expiring (.connection Estate.quietConnection) .start ⟨10⟩
  activity := [.start]
  chronicle := .wrapped (.bare rfl) (w := ({} : Scenario.Bench)) rfl

/-- A connection that never expires. -/
def lastingClient : Dated Scenario.Wire Scenario.Gate (NoKind Scenario.Bench) where
  channel := .connection Estate.quietConnection
  activity := []
  chronicle := .bare rfl

/-- Of four clients the first two were idle for the time of a poll, the third was touched after it,
and the last is under no layer. -/
theorem expiry_exact_quietClients :
    ∃ (s : Estate Scenario.Bench NoHooks (Dated Scenario.Wire Scenario.Gate (NoKind _)))
      (r' : Reactor _ _) (w' : Scenario.Bench),
      (s.reactor.ids .client = [1, 2, 3, 4] ∧ r'.ids .client = [3, 4] ∧
        r'.closures = [(1, .expired), (2, .expired)]) ∧
      runOnce.Leaves s.reactor s.machine r' w' ∧
      (∃ now r₂, s.reactor.Expires now r₂ ∧
        (∀ e, e ∈ s.reactor.expired now ↔ e ∈ s.reactor.clients ∧
          ∃ inner last interval, e.channel.channel = .expiring inner last interval ∧
            e.channel.activity.getLast? = some last ∧ interval < now.since last) ∧
        ∃ later, r'.closures = r₂.closures ++ later ∧
          ∀ closure ∈ later, closure.2 ≠ .expired) := by
  have hrun : ((Estate.founded 1 {} {} {} :
        Option (Estate Scenario.Bench NoHooks (Dated Scenario.Wire Scenario.Gate (NoKind _)))).bind
      (Estate.play [.register quietClient, .register quietClient, .register quietClient,
        .register lastingClient, .runOnce, .visit 3 Dated.touch])).any (fun s =>
          s.reactor.ids .client == [1, 2, 3, 4] && (s.step .runOnce).any fun s' =>
            s'.reactor.ids .client == [3, 4] &&
              s'.reactor.closures == [(1, .expired), (2, .expired)]) = true := by
    decide +kernel
  obtain ⟨s, -, hp⟩ := (Option.any_eq_true _ _).mp hrun
  rw [Bool.and_eq_true, beq_iff_eq] at hp
  obtain ⟨s', hstep, hp'⟩ := (Option.any_eq_true _ _).mp hp.2
  rw [Bool.and_eq_true, beq_iff_eq, beq_iff_eq] at hp'
  have hleaves := Estate.step_runOnce hstep
  obtain ⟨-, hiteration, hexpired, -⟩ := expiry_exact (fun _ b => b.absurd) s.reactor s.machine
  obtain ⟨_, w₁, r₂, _, -, -, -, hexpires, hlater⟩ := hiteration _ _ hleaves
  exact ⟨s, s'.reactor, s'.machine, ⟨hp.1, hp'.1, hp'.2⟩, hleaves,
    Machine.now w₁, r₂, hexpires, hexpired _, hlater⟩

end Reactor

end ChannelReactor
