import ChannelReactor.Proofs.Accepting
import ChannelReactor.Proofs.Operations
import ChannelReactor.Proofs.Transparency

/-! # Connections and listeners under layers

A channel may be a connection under layers that make it expire, or a listener. An operation on such
a channel ends as the operation on the connection or the listener does, and leaves a channel with
that connection or listener in it. -/
namespace ChannelReactor.Channel

variable {ω ε τ α β γ : Type}

/-- The connection that a channel is, under any layers that make it expire. -/
def connection? : Channel τ α β → Option (Connection τ)
  | connection c => some c
  | expiring inner _ _ => inner.connection?
  | _ => none

/-- The channel is a connection, under any layers, and this is true of the connection. -/
def Bears (P : Connection τ → Prop) (c : Channel τ α β) : Prop :=
  ∃ k, c.connection? = some k ∧ P k

theorem Bears.of_connection {P : Connection τ → Prop} {c : Channel τ α β} {k : Connection τ}
    (h : c.Bears P) (hk : c.connection? = some k) : P k := by
  obtain ⟨k', hk', hp⟩ := h
  cases hk.symm.trans hk'
  exact hp

/-- The channel is a listener, under any layers, and this is true of the listener. -/
def Guards (P : Listener α → Prop) (c : Channel τ α β) : Prop :=
  ∃ l, c.listener? = some l ∧ P l

variable {k : Connection τ} {l : Listener α} {c : Channel τ α β} {w : ω}

theorem onConnection_ends {s : Channel τ α β} {x : Action ω ε (Connection τ) γ}
    {Q : γ → Channel τ α β → ω → Prop} {R : ε → Channel τ α β → ω → Prop} :
    (onConnection k x : Action ω ε (Channel τ α β) γ).Ends s w Q R ↔
      x.Ends k w (fun a k' w' => Q a (.connection k') w')
        (fun e k' w' => R e (.connection k') w') := by
  unfold Action.Ends onConnection
  cases x k w <;> rfl

theorem bare_eq : c.bare = .connection k ↔ c.connection? = some k := by
  induction c with
  | connection k' => simp [bare, connection?]
  | expiring inner last interval ih => exact ih
  | listener l => simp [bare, connection?]
  | custom b => simp [bare, connection?]

/-- What an action that looks through layers answers on a connection, it answers on a channel that
is that connection under layers. -/
theorem answers_of_connection {x : Action ω ε (Connection τ) γ}
    {y : Action ω ε (Channel τ α β) γ} {k' : Connection τ} {w' : ω} {answer : Except ε γ}
    (hx : x.Mirrors id connection y) (hy : y.Mirrors id bare y) (hk : c.connection? = some k)
    (h : x.Answers k w answer k' w') :
    ∃ c', y.Answers c w answer c' w' ∧ c'.connection? = some k' := by
  have hbare : y.Answers c.bare w answer (.connection k') w' := by
    have hmirrors := hx k w
    rw [bare_eq.mpr hk]
    cases answer with
    | ok a =>
      rw [show x k w = .done a k' w' from h] at hmirrors
      exact hmirrors.symm
    | error e =>
      rw [show x k w = .refused e k' w' from h] at hmirrors
      exact hmirrors.symm
  obtain ⟨c', hc', hk'⟩ := hy.answers hbare
  exact ⟨c', hc', bare_eq.mp hk'⟩

/-- What ends on a connection as said, and on a layer as on what is inside, ends so under any
layers. -/
theorem ends_of_layers {f : Channel τ α β → Action ω ε (Channel τ α β) γ}
    {x : Action ω ε (Connection τ) γ} {Q : γ → Connection τ → ω → Prop}
    {R : ε → Connection τ → ω → Prop} (hbase : ∀ k, f (.connection k) = onConnection k x)
    (hlayer : ∀ inner last interval s,
      (onInner inner last interval (f inner)).Ends s w
        (fun a c' w' => c'.Bears (Q a · w')) (fun e c' w' => c'.Bears (R e · w')) →
      (f (.expiring inner last interval)).Ends s w
        (fun a c' w' => c'.Bears (Q a · w')) (fun e c' w' => c'.Bears (R e · w')))
    (hx : x.Ends k w Q R) :
    ∀ {c : Channel τ α β}, c.connection? = some k → ∀ s, (f c).Ends s w
      (fun a c' w' => c'.Bears (Q a · w')) (fun e c' w' => c'.Bears (R e · w'))
  | .connection k', hk, s => by
    cases hk
    rw [hbase, onConnection_ends]
    exact hx.mono (fun a k' w' h => ⟨k', rfl, h⟩) (fun e k' w' h => ⟨k', rfl, h⟩)
  | .expiring inner last interval, hk, s => by
    refine hlayer inner last interval s ?_
    rw [onInner_ends]
    exact ends_of_layers hbase hlayer hx (c := inner) hk inner
  | .listener _, hk, _ | .custom _, hk, _ => by cases hk

/-- The same of a listener. -/
theorem ends_of_listener {f : Channel τ α β → Action ω ε (Channel τ α β) γ}
    {x : Action ω ε (Listener α) γ} {Q : γ → Listener α → ω → Prop} {R : ε → Listener α → ω → Prop}
    (hbase : ∀ l, f (.listener l) = onListener l x)
    (hlayer : ∀ inner last interval,
      f (.expiring inner last interval) = onInner inner last interval (f inner))
    (hx : x.Ends l w Q R) :
    ∀ {c : Channel τ α β}, c.listener? = some l → ∀ s, (f c).Ends s w
      (fun a c' w' => c'.Guards (Q a · w')) (fun e c' w' => c'.Guards (R e · w'))
  | .listener l', hl, s => by
    cases hl
    rw [hbase, onListener_ends]
    exact hx.mono (fun a l' w' h => ⟨l', rfl, h⟩) (fun e l' w' h => ⟨l', rfl, h⟩)
  | .expiring inner last interval, hl, s => by
    rw [hlayer, onInner_ends]
    exact ends_of_listener hbase hlayer hx (c := inner) hl inner
  | .connection _, hl, _ | .custom _, hl, _ => by cases hl

/-- What a connection does without a change, the channel does without a change. -/
theorem refused_unchanged {f : Channel τ α β → Action ω ε (Channel τ α β) γ}
    {x : Action ω ε (Connection τ) γ} {e : ε} (hbase : ∀ k, f (.connection k) = onConnection k x)
    (hlayer : ∀ inner last interval, (f inner inner w = .refused e inner w) →
      f (.expiring inner last interval) (.expiring inner last interval) w =
        .refused e (.expiring inner last interval) w)
    (hk : c.connection? = some k) (hx : x k w = .refused e k w) : f c c w = .refused e c w := by
  induction c with
  | connection k' =>
    cases hk
    rw [hbase, onConnection, hx]
  | expiring inner last interval ih => exact hlayer inner last interval (ih hk)
  | listener l => cases hk
  | custom b => cases hk

section

variable [Machine ω] [Transport ω τ] [Acceptor ω α τ] [ChannelOps ω β]

theorem core_eq (hk : c.connection? = some k) : ChannelOps.core c = k.core := by
  change c.core = k.core
  induction c with
  | connection k' =>
    cases hk
    rfl
  | expiring inner last interval ih => exact ih hk
  | listener l => cases hk
  | custom b => cases hk

theorem mapCore_connection (f : ChannelCore → ChannelCore) (hk : c.connection? = some k) :
    (ChannelOps.mapCore f c).connection? = some (k.mapCore f) := by
  change (c.mapCore f).connection? = _
  induction c with
  | connection k' =>
    cases hk
    rfl
  | expiring inner last interval ih => exact ih hk
  | listener l => cases hk
  | custom b => cases hk

theorem mapCore_listener (f : ChannelCore → ChannelCore) (hl : c.listener? = some l) :
    (ChannelOps.mapCore f c).listener? = some (l.mapCore f) := by
  change (c.mapCore f).listener? = _
  induction c with
  | listener l' =>
    cases hl
    rfl
  | expiring inner last interval ih => exact ih hl
  | connection k' => cases hl
  | custom b => cases hl

theorem connection_listens (hk : c.connection? = some k) : ChannelOps.isListening c = false := by
  change c.isListening = false
  induction c with
  | connection k' => rfl
  | expiring inner last interval ih => exact ih hk
  | listener l => cases hk
  | custom b => cases hk

theorem listener_listens (hl : c.listener? = some l) : ChannelOps.isListening c = true := by
  change c.isListening = true
  induction c with
  | listener l' => rfl
  | expiring inner last interval ih => exact ih hl
  | connection k' => cases hl
  | custom b => cases hl

theorem isWritePending_eq (hk : c.connection? = some k) :
    ChannelOps.isWritePending c = k.isWritePending := by
  change c.isWritePending = _
  induction c with
  | connection k' =>
    cases hk
    rfl
  | expiring inner last interval ih => exact ih hk
  | listener l => cases hk
  | custom b => cases hk

theorem connection_descriptor (hk : c.connection? = some k) :
    ChannelOps.descriptor c = k.descriptor := by
  change c.descriptor = _
  induction c with
  | connection k' =>
    cases hk
    rfl
  | expiring inner last interval ih => exact ih hk
  | listener l => cases hk
  | custom b => cases hk

section

variable {Q : Unit → Connection τ → ω → Prop} {R : ChannelError → Connection τ → ω → Prop}

theorem applyMode_bears {mode : WaitMode} (hk : c.connection? = some k)
    (hx : (Connection.applyMode mode).Ends k w Q R) :
    (ChannelOps.applyMode mode : Action ω ChannelError (Channel τ α β) Unit).Ends c w
      (fun a c' w' => c'.Bears (Q a · w')) (fun e c' w' => c'.Bears (R e · w')) :=
  Action.ends_bind.mpr
    (ends_of_layers (f := applyModeOf mode) (fun _ => rfl) (fun _ _ _ _ h => h) hx hk c)

theorem applyMode_guards {mode : WaitMode} {Q : Unit → Listener α → ω → Prop}
    {R : ChannelError → Listener α → ω → Prop} (hl : c.listener? = some l)
    (hx : (Listener.applyMode mode).Ends l w Q R) :
    (ChannelOps.applyMode mode : Action ω ChannelError (Channel τ α β) Unit).Ends c w
      (fun a c' w' => c'.Guards (Q a · w')) (fun e c' w' => c'.Guards (R e · w')) :=
  Action.ends_bind.mpr
    (ends_of_listener (f := applyModeOf mode) (fun _ => rfl) (fun _ _ _ => rfl) hx hl c)

theorem close_guards {Q : Unit → Listener α → ω → Prop} {R : Empty → Listener α → ω → Prop}
    (hl : c.listener? = some l) (hx : Listener.close.Ends l w Q R) :
    (ChannelOps.close : Action ω Empty (Channel τ α β) Unit).Ends c w
      (fun a c' w' => c'.Guards (Q a · w')) (fun e c' w' => c'.Guards (R e · w')) :=
  Action.ends_bind.mpr
    (ends_of_listener (f := closeOf) (fun _ => rfl) (fun _ _ _ => rfl) hx hl c)

theorem write_bears {data : Bytes} (hk : c.connection? = some k)
    (hx : (Connection.write data).Ends k w Q R) :
    (ChannelOps.write data : Action ω ChannelError (Channel τ α β) Unit).Ends c w
      (fun a c' w' => c'.Bears (Q a · w')) (fun e c' w' => c'.Bears (R e · w')) :=
  Action.ends_bind.mpr
    (ends_of_layers (f := writeOf data) (fun _ => rfl) (fun _ _ _ _ h => h) hx hk c)

/-- The layers note the time of a read. -/
theorem onRead_bears (hk : c.connection? = some k) (hx : Connection.onRead.Ends k w Q R) :
    (ChannelOps.onRead : Action ω ChannelError (Channel τ α β) Unit).Ends c w
      (fun a c' w' => c'.Bears (Q a · w')) (fun e c' w' => c'.Bears (R e · w')) := by
  refine Action.ends_bind.mpr
    (ends_of_layers (f := onReadOf) (fun _ => rfl) (fun inner last interval s h => ?_) hx hk c)
  rw [onReadOf, Action.ends_bind]
  refine h.mono (fun _ c' w' hc' => ?_) (fun _ _ _ hr => hr)
  rw [touch, Action.ends_bind, Action.now, Action.ends_ask, Action.ends_update]
  cases c' <;> exact hc'

theorem onWrite_bears (hk : c.connection? = some k) (hx : Connection.onWrite.Ends k w Q R) :
    (ChannelOps.onWrite : Action ω ChannelError (Channel τ α β) Unit).Ends c w
      (fun a c' w' => c'.Bears (Q a · w')) (fun e c' w' => c'.Bears (R e · w')) :=
  Action.ends_bind.mpr (ends_of_layers (f := onWriteOf) (fun _ => rfl) (fun _ _ _ _ h => h) hx hk c)

end

theorem read_bears {count : Nat} {opts : ReadOptions} {Q : Bytes → Connection τ → ω → Prop}
    {R : ChannelError → Connection τ → ω → Prop} (hk : c.connection? = some k)
    (hx : (Connection.read count opts).Ends k w Q R) :
    (ChannelOps.read count opts : Action ω ChannelError (Channel τ α β) Bytes).Ends c w
      (fun a c' w' => c'.Bears (Q a · w')) (fun e c' w' => c'.Bears (R e · w')) :=
  Action.ends_bind.mpr
    (ends_of_layers (f := readOf count opts) (fun _ => rfl) (fun _ _ _ _ h => h) hx hk c)

theorem close_bears {Q : Unit → Connection τ → ω → Prop} {R : Empty → Connection τ → ω → Prop}
    (hk : c.connection? = some k) (hx : Connection.close.Ends k w Q R) :
    (ChannelOps.close : Action ω Empty (Channel τ α β) Unit).Ends c w
      (fun a c' w' => c'.Bears (Q a · w')) (fun e c' w' => c'.Bears (R e · w')) :=
  Action.ends_bind.mpr (ends_of_layers (f := closeOf) (fun _ => rfl) (fun _ _ _ _ h => h) hx hk c)

theorem onRead_refused {e : ChannelError} (hk : c.connection? = some k)
    (hx : Connection.onRead k w = .refused e k w) :
    (ChannelOps.onRead : Action ω ChannelError (Channel τ α β) Unit) c w = .refused e c w := by
  refine refused_unchanged (f := onReadOf) (fun _ => rfl) (fun inner last interval h => ?_) hk hx
  rw [onReadOf, Action.bind_apply, onInner, h]

theorem write_refused {data : Bytes} {e : ChannelError} (hk : c.connection? = some k)
    (hx : Connection.write data k w = .refused e k w) :
    (ChannelOps.write data : Action ω ChannelError (Channel τ α β) Unit) c w = .refused e c w := by
  refine refused_unchanged (f := writeOf data) (fun _ => rfl) (fun inner last interval h => ?_) hk
    hx
  rw [writeOf, onInner, h]

/-- What operations on a connection keep, operations on a channel keep of the connection in it. -/
theorem perform_bears {I : Connection τ → Prop}
    (hcore : ∀ f k, ChannelCore.Retunes f → I k → I (k.mapCore f))
    (happly : ∀ mode, Action.Keeps (fun k _ => I k) (Connection.applyMode (ω := ω) mode))
    (hread : ∀ count opts, Action.Keeps (fun k _ => I k) (Connection.read (ω := ω) count opts))
    (hwrite : ∀ data, Action.Keeps (fun k _ => I k) (Connection.write (ω := ω) data))
    (honRead : Action.Keeps (fun k _ => I k) (Connection.onRead (ω := ω)))
    (honWrite : Action.Keeps (fun k _ => I k) (Connection.onWrite (ω := ω)))
    (hclose : Action.Keeps (fun k _ => I k) (Connection.close (ω := ω))) (op : ChannelOp) :
    Action.Keeps (fun c _ => c.Bears I) (op.perform (χ := Channel τ α β)) := by
  refine ChannelOps.perform_keeps ?_ ?_ ?_ ?_ ?_ ?_ ?_ op
  · rintro mode c w ⟨k, hk, hi⟩
    exact applyMode_bears hk (happly mode k w hi)
  · rintro f c w hf ⟨k, hk, hi⟩
    exact ⟨_, mapCore_connection f hk, hcore f k hf hi⟩
  · rintro count opts c w ⟨k, hk, hi⟩
    exact read_bears hk (hread count opts k w hi)
  · rintro data c w ⟨k, hk, hi⟩
    exact write_bears hk (hwrite data k w hi)
  · rintro c w ⟨k, hk, hi⟩
    exact onRead_bears hk (honRead k w hi)
  · rintro c w ⟨k, hk, hi⟩
    exact onWrite_bears hk (honWrite k w hi)
  · rintro c w ⟨k, hk, hi⟩
    exact close_bears hk (hclose k w hi)

end

end ChannelReactor.Channel
