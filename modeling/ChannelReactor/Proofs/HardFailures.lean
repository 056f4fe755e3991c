import ChannelReactor.Proofs.Inactivity

/-! # Hard failures

A connection ends with the call that ends it: the end of the input, output of which nothing is
accepted, or an error that is fatal. An error that will pass never ends it (`Exchange.active_iff`).
The failure of an operation is told from such a call, with one exception: a bounded read sets the
mode of its transport on the way, and when that is refused it fails although the connection goes on
(`Session.failures_told`). -/
namespace ChannelReactor

variable {ω τ α β : Type}

/-- The call ends a connection: nothing was left to receive or could be sent, or an error was
fatal. -/
def Call.Finishes (policy : Policy) : Call → Prop
  | .recv _ (.ok data) => data = []
  | .recv _ (.error e) => policy.judge .recv e = .fatal
  | call => call.Breaks policy

namespace Connection

theorem afterError_active {policy : Policy} {call : TransportCall} {e : IoError}
    {core : ChannelCore} : (afterError policy call e core).active = true ↔
      core.active = true ∧ policy.judge call e ≠ .fatal := by
  unfold afterError
  split
  · simp [ChannelCore.deactivate, *]
  · simp [*]

theorem afterCall_active {policy : Policy} {core : ChannelCore} {call : Call} :
    (afterCall policy core call).active = true ↔
      core.active = true ∧ ¬ call.Finishes policy := by
  match call with
  | .recv _ (.ok []) | .send _ (.ok 0) =>
    simp [afterCall, Call.Finishes, Call.Breaks, ChannelCore.deactivate]
  | .recv _ (.ok (b :: data)) => simp [afterCall, Call.Finishes, ChannelCore.receive]
  | .send _ (.ok (n + 1)) => simp [afterCall, Call.Finishes, Call.Breaks, ChannelCore.sent]
  | .recv _ (.error e) | .send _ (.error e) | .flush (.error e) => exact afterError_active
  | .flush (.ok _) | .setMode .. | .close _ | .setNodelay .. | .accept _ =>
    simp [afterCall, Call.Finishes, Call.Breaks]

section

variable [Transport ω τ] {p q r : Connection τ × ω} {calls more : List Call}

/-- A connection is active after an exchange if it was before and no call ended it. -/
theorem Exchange.active_iff (h : Exchange p calls q) :
    q.1.core.active = true ↔
      p.1.core.active = true ∧ ∀ call ∈ calls, ¬ call.Finishes p.1.policy := by
  induction h with
  | none => simp
  | call h _ _ _ ih =>
    change (afterCall _ _ _).active = true ↔ _
    rw [afterCall_active, ih, h.kept.policy]
    simp [or_imp, forall_and, and_assoc]

theorem Exchange.trans (h : Exchange p calls q) (h' : Exchange q more r) :
    Exchange p (calls ++ more) r := by
  induction h' with
  | none => rwa [List.append_nil]
  | call _ ht hm hc ih => exact List.append_assoc calls _ _ ▸ ih.call ht hm hc

end

variable {cause : IoError}

/-- Whatever fails in the action leaves the connection inactive. -/
def Conclusive (x : Action ω ChannelError (Connection τ) α) : Prop :=
  ∀ c w, x.Ends c w (fun _ _ _ => True)
    (fun e c' _ => ∀ cause, e = .failed cause → c'.core.active = false)

theorem Conclusive.bind {x : Action ω ChannelError (Connection τ) α}
    {f : α → Action ω ChannelError (Connection τ) β} (hx : Conclusive x)
    (hf : ∀ a, Conclusive (f a)) : Conclusive (x >>= f) := by
  intro c w
  rw [Action.ends_bind]
  exact (hx c w).mono (fun a c' w' _ => hf a c' w') (fun _ _ _ h => h)

theorem Conclusive.repeatUntil {step : Action ω ChannelError (Connection τ) (Option α)}
    (h : Conclusive step) (bound : Nat) :
    Conclusive (Action.repeatUntil bound step) := fun c w => by
  refine Action.Ends.repeatUntil (I := fun _ _ => True) (fun c w _ => ?_) bound c w trivial
  refine (h c w).mono (fun r _ _ _ => ?_) (fun _ _ _ h => h)
  cases r <;> trivial

theorem conclusive_pure {a : α} :
    Conclusive (pure a : Action ω ChannelError (Connection τ) α) := fun _ _ => trivial

theorem conclusive_subject :
    Conclusive (Action.subject : Action ω ChannelError (Connection τ) _) := fun _ _ => trivial

theorem conclusive_update {f : Connection τ → Connection τ} :
    Conclusive (Action.update f : Action ω ChannelError (Connection τ) Unit) := fun _ _ => trivial

theorem conclusive_fail : Conclusive (fail cause : Action ω ChannelError (Connection τ) α) :=
  fun _ _ => fail_ends.mpr fun _ _ => rfl

theorem onTransport_conclusive {call : Action ω IoError τ β} : Conclusive (onTransport call) :=
  fun _ _ => onTransport_answers (fun _ _ _ _ _ _ => trivial) fun _ _ h => by cases h

theorem ensureActive_conclusive : Conclusive (ensureActive (ω := ω) (τ := τ)) := fun _ _ =>
  ensureActive_ends.mpr ⟨fun _ => trivial, fun hi _ _ => hi⟩

section

variable [Transport ω τ] {o p q r : Connection τ × ω} {c : Connection τ} {w : ω}
variable {e : ChannelError}

theorem receive_conclusive : Conclusive (receive (τ := τ)) := by
  refine conclusive_subject.bind fun c => Conclusive.repeatUntil ?_ _
  refine conclusive_subject.bind fun c => onTransport_conclusive.bind fun answer => ?_
  split
  · exact conclusive_update.bind fun _ => conclusive_pure
  · exact conclusive_update.bind fun _ => conclusive_pure
  · split
    · exact conclusive_pure
    · exact conclusive_pure
    · exact conclusive_fail

theorem drainInput_conclusive (drain : Bool) : ∀ (rounds : Nat) (received : Bool),
    Conclusive (drainInput (τ := τ) drain rounds received)
  | 0, _ => fun _ _ => trivial
  | rounds + 1, received => by
    refine receive_conclusive.bind fun r => ?_
    cases r with
    | data =>
      refine conclusive_subject.bind fun c => ?_
      split
      · exact drainInput_conclusive drain rounds true
      · exact conclusive_pure
    | wouldBlock => exact conclusive_pure
    | ended =>
      cases received with
      | true => exact conclusive_pure
      | false => exact fun _ _ _ h => by cases h

theorem onRead_conclusive : Conclusive (onRead (τ := τ)) := by
  refine conclusive_subject.bind fun c => ?_
  split
  · exact fun _ _ _ h => by cases h
  · exact ensureActive_conclusive.bind fun _ => drainInput_conclusive _ _ _

/-- A flush that fails for good had a call that ended the connection. -/
theorem flush_conclusive : Conclusive (flush (τ := τ)) := fun c w =>
  (flush_exchanged .refl).mono (fun _ _ _ _ => trivial) fun e c' w' hf cause he => by
    obtain ⟨-, rfl, -⟩ | ⟨⟨calls, hx, call, hmem, hbreaks⟩, -⟩ := hf
    · cases he
    · refine Bool.eq_false_iff.mpr fun ha => (hx.active_iff.mp ha).2 call hmem ?_
      rw [← hx.kept.policy]
      match call with
      | .send .. | .flush .. => exact hbreaks

theorem write_conclusive {data : Bytes} : Conclusive (write (τ := τ) data) := by
  refine ensureActive_conclusive.bind fun _ => conclusive_update.bind fun _ =>
    conclusive_subject.bind fun c => ?_
  split
  · refine flush_conclusive.bind fun flushed => ?_
    cases flushed with
    | drained => exact conclusive_pure
    | blocked => exact fun _ _ _ h => by cases h
  · exact conclusive_pure

theorem onWrite_conclusive : Conclusive (onWrite (τ := τ)) := by
  intro c w
  rw [onWrite, Action.ends_bind, Action.ends_attempt]
  refine (flush_conclusive c w).mono (fun flushed c' w' _ => ?_) (fun e c' w' hf => ?_)
  · rw [Action.ends_bind, Action.ends_subject]
    split
    · cases flushed with
      | blocked => trivial
      | drained =>
        rw [Action.ends_bind, Action.ends_sure]
        exact release_ends fun _ _ _ h => by cases h
    · trivial
  · rw [Action.ends_bind, Action.ends_subject]
    split
    · rw [Action.ends_bind, Action.ends_sure]
      exact release_ends fun _ _ => hf
    · exact hf

/-- An exchange leads from the first to the second in which a mode was refused for this cause. -/
def Untuned (cause : IoError) (p q : Connection τ × ω) : Prop :=
  ∃ calls, Exchange p calls q ∧ ∃ mode, .setMode mode (.error cause) ∈ calls

/-- An exchange that ended with this error left the connection inactive, unless the error tells of
a mode that was refused. Only a bounded wait sets one. -/
structure Fell (bounded : Prop) (p : Connection τ × ω) (e : ChannelError)
    (q : Connection τ × ω) : Prop where
  exchanged : Exchanged p q
  told : ∀ cause, e = .failed cause →
    q.1.core.active = false ∨ bounded ∧ Untuned cause p q

variable {bounded : Prop}

theorem Fell.trans (h : Fell bounded p e q) (h' : Exchanged q r) : Fell bounded p e r := by
  obtain ⟨more, hmore⟩ := h'
  obtain ⟨calls, hx⟩ := h.exchanged
  refine ⟨⟨_, hx.trans hmore⟩, fun cause he => (h.told cause he).imp (fun hi => ?_) fun hu => ?_⟩
  · exact hmore.kept.inactive hi
  · obtain ⟨hb, calls, hx, mode, hmem⟩ := hu
    exact ⟨hb, _, hx.trans hmore, mode, List.mem_append_left _ hmem⟩

theorem applyMode_fell {mode : WaitMode} (ho : Exchanged o (c, w)) (hb : bounded) :
    (applyMode mode).Ends c w (fun _ c' w' => Exchanged o (c', w'))
      (fun e c' w' => Fell bounded o e (c', w')) := by
  rw [applyMode, callTransport, Action.ends_bind]
  refine onTransport_answers (fun t t' w' answer ht hx => ?_) (fun _ => ⟨ho, fun _ h => by cases h⟩)
  obtain ⟨calls, ho⟩ := ho
  have hm := ho.call ht (show c.Makes (.setMode mode answer) from trivial) hx
  cases answer with
  | ok _ => exact ⟨_, hm⟩
  | error e =>
    refine ⟨⟨_, hm⟩, fun cause he => .inr ⟨hb, _, hm, mode, ?_⟩⟩
    cases he
    exact List.mem_append_right _ (List.mem_singleton_self _)

end

section

variable [Machine ω] [Transport ω τ] {o : Connection τ × ω} {c : Connection τ} {w : ω}
variable {count : Nat} {deadline : Option Instant}

theorem allowRest_fell (ho : Exchanged o (c, w)) :
    (allowRest deadline).Ends c w (fun _ _ _ => True)
      (fun e c' w' => Fell (deadline.isSome = true) o e (c', w')) := by
  cases deadline with
  | none => trivial
  | some deadline =>
    rw [allowRest, Action.ends_bind, Action.now, Action.ends_ask]
    split
    · trivial
    · rw [Action.ends_bind]
      exact (applyMode_fell ho rfl).mono (fun _ _ _ _ => trivial) (fun _ _ _ hf => hf)

theorem fillRound_fell (ho : Exchanged o (c, w)) :
    (fillRound count deadline).Ends c w (fun _ c' w' => Exchanged o (c', w'))
      (fun e c' w' => Fell (deadline.isSome = true) o e (c', w')) := by
  rw [fillRound, Action.ends_bind, Action.ends_subject]
  split
  · exact ho
  · rename_i hwait
    have ha : c.core.active = true := by
      simp only [Bool.or_eq_true, Bool.not_eq_true', not_or, Bool.not_eq_false] at hwait
      exact hwait.2
    rw [Action.ends_bind]
    refine ((allowRest_exchanged ho).and (allowRest_fell ho)).mono
      (fun rest c' w' h => ?_) (fun _ _ _ h => h.2)
    obtain ⟨⟨hm, hc⟩, -⟩ := h
    split
    · rw [Action.ends_bind]
      refine ((receive_exchanged hm (hc ▸ ha)).and (receive_conclusive c' w')).mono
        (fun r c' w' h => ?_) (fun e c' w' h => ⟨h.1, fun cause he => .inl (h.2 cause he)⟩)
      cases r <;> exact h.1.1
    · exact hm

theorem fillUntil_fell (ho : Exchanged o (c, w)) :
    (fillUntil count deadline).Ends c w (fun _ c' w' => Exchanged o (c', w'))
      (fun e c' w' => Fell (deadline.isSome = true) o e (c', w')) := by
  refine Action.Ends.repeatUntil (I := fun c w => Exchanged o (c, w)) (fun c w ho => ?_) _ c w ho
  rw [Action.ends_bind, fillSome, Action.ends_bind, Action.ends_subject]
  refine (Action.Ends.repeatUntil (I := fun c w => Exchanged o (c, w))
    (Q := fun _ c w => Exchanged o (c, w)) (fun c w ho => ?_) _ c w ho).mono
    (fun progress _ _ h => ?_) (fun _ _ _ h => h)
  · refine (fillRound_fell ho).mono (fun r _ _ h => ?_) (fun _ _ _ h => h)
    cases r <;> exact h
  · cases progress <;> exact h

theorem fill_fell : (fill count).Ends c w (fun _ c' w' => Exchanged (c, w) (c', w'))
    (fun e c' w' => Fell (∃ d, c.core.mode = .upTo d) (c, w) e (c', w')) := by
  have hbounded {mode : WaitMode} {now : Instant} {deadline : Option Instant}
      (h : mode.deadline? now = some deadline) (hs : deadline.isSome = true) :
      ∃ d, mode = .upTo d := by
    cases mode with
    | upTo d => exact ⟨d, rfl⟩
    | nonblocking | forever => cases h; cases hs
  rw [fill, Action.ends_bind, Action.ends_subject, Action.ends_bind, Action.deadline,
    Action.ends_bind, Action.now, Action.ends_ask]
  split
  · rename_i deadline hdeadline
    rw [Action.ends_pure, Action.ends_bind, Action.ends_attempt]
    -- The mode is put back after a wait that failed, too, and what failed first is told again.
    have hback {c' : Connection τ} {w' : ω} {result : Except ChannelError Unit}
        (hx : Exchanged (c, w) (c', w'))
        (hf : ∀ e, result = .error e →
          Fell (∃ d, c.core.mode = .upTo d) (c, w) e (c', w')) :
        (do
          if deadline.isSome && (← Action.subject).transport.isSome then applyMode c.core.mode
          Action.ofExcept result : Action ω ChannelError (Connection τ) Unit).Ends c' w'
          (fun _ c' w' => Exchanged (c, w) (c', w'))
          (fun e c' w' => Fell (∃ d, c.core.mode = .upTo d) (c, w) e (c', w')) := by
      rw [Action.ends_bind, Action.ends_subject]
      split
      · rename_i hset
        have hb := hbounded hdeadline (Bool.and_eq_true_iff.mp hset).1
        rw [Action.ends_bind]
        refine ((applyMode_exchanged .refl).and (applyMode_fell hx hb)).mono
          (fun _ c₁ w₁ h => ?_) (fun _ _ _ h => h.2)
        obtain ⟨⟨hback, -⟩, hx₁⟩ := h
        exact Action.ends_ofExcept.mpr ⟨fun _ _ => hx₁, fun e he => (hf e he).trans hback⟩
      · exact Action.ends_ofExcept.mpr ⟨fun _ _ => hx, hf⟩
    refine (fillUntil_fell .refl).mono (fun _ c' w' hx => hback hx (fun _ h => by cases h))
      (fun e c' w' hf => hback hf.exchanged fun e' he => ?_)
    cases he
    exact ⟨hf.exchanged, fun cause he =>
      (hf.told cause he).imp id (And.imp (hbounded hdeadline) id)⟩
  · trivial

theorem takeInput_unfailed {opts : ReadOptions} {cause : IoError} :
    c.core.takeInput count opts ≠ .error (.failed cause) := by
  unfold ChannelCore.takeInput
  repeat' split
  all_goals nofun

theorem read_fell {opts : ReadOptions} :
    (read count opts).Ends c w (fun _ _ _ => True)
      (fun e c' w' => Fell (∃ d, c.core.mode = .upTo d) (c, w) e (c', w')) := by
  have htake {c₁ : Connection τ} {w₁ : ω} (hx : Exchanged (c, w) (c₁, w₁)) :
      (takeInput count opts).Ends c₁ w₁ (fun _ _ _ => True)
        (fun e c' w' => Fell (∃ d, c.core.mode = .upTo d) (c, w) e (c', w')) :=
    takeInput_ends (fun _ _ _ => trivial) fun e he =>
      ⟨hx, fun cause hf => absurd (hf ▸ he) takeInput_unfailed⟩
  rw [read, Action.ends_bind, Action.ends_subject]
  split
  · rw [Action.ends_bind]
    exact fill_fell.mono (fun _ _ _ hx => htake hx) (fun _ _ _ hf => hf)
  · exact htake .refl

end

section

variable [Transport ω τ] {p q : Connection (Recorded τ) × Recorder ω}
variable {c c' : Connection (Recorded τ)} {w w' : Recorder ω} {calls : List Call}

/-- The record between the two is this one, and it tells whether the connection is active. -/
structure Accounted (p : Connection (Recorded τ) × Recorder ω) (records : List Record)
    (q : Connection (Recorded τ) × Recorder ω) : Prop where
  calls : q.2.calls = p.2.calls ++ records
  active : q.1.core.active = true ↔
    p.1.core.active = true ∧ ∀ r ∈ records, ¬ r.call.Finishes p.1.policy

/-- An exchange is in the record, call by call. -/
theorem Exchange.recorded (h : Exchange p calls q) : ∃ records,
    q.2.calls = p.2.calls ++ records ∧ records.map (·.call) = calls := by
  induction h with
  | none => exact ⟨[], by simp, rfl⟩
  | @call calls c w w' t t' call _ _ _ hc ih =>
    obtain ⟨records, hrecords, rfl⟩ := ih
    exact ⟨records ++ [⟨t.device, call⟩], by rw [hc.recorded.2, hrecords, List.append_assoc],
      by simp⟩

theorem Exchanged.accounted (h : Exchanged p q) : ∃ records, Accounted p records q := by
  obtain ⟨calls, hx⟩ := h
  obtain ⟨records, hrecords, rfl⟩ := hx.recorded
  exact ⟨records, hrecords, hx.active_iff.trans (by simp)⟩

theorem Untuned.recorded (h : Untuned cause p q) {records : List Record}
    (hrecords : q.2.calls = p.2.calls ++ records) :
    ∃ r ∈ records, ∃ mode, r.call = .setMode mode (.error cause) := by
  obtain ⟨calls, hx, mode, hmem⟩ := h
  obtain ⟨records', hrecords', rfl⟩ := hx.recorded
  obtain ⟨r, hr, hcall⟩ := List.mem_map.mp hmem
  rw [hrecords, List.append_cancel_left_eq] at hrecords'
  exact ⟨r, hrecords' ▸ hr, mode, hcall⟩

/-- The close of a transport ends nothing that was not at its end. -/
theorem Parts.accounted {P : Connection (Recorded τ) × Recorder ω → Prop} (h : Parts p P q) :
    ∃ records, Accounted p records q := by
  obtain ⟨c₁, w₁, w', hx, -, hparts, rfl⟩ := h
  obtain ⟨records, hrecords, hactive⟩ := hx.accounted
  unfold PartsWith at hparts
  split at hparts
  · subst hparts
    exact ⟨records, hrecords, hactive⟩
  · rename_i t ht
    obtain ⟨answer, t', hclose⟩ := hparts
    refine ⟨records ++ [⟨t.device, .close answer⟩], ?_, hactive.trans ?_⟩
    · rw [hclose.recorded.2, hrecords, List.append_assoc]
    · simp [or_imp, forall_and, Call.Finishes, Call.Breaks]

end

end Connection

namespace ChannelOp

open Connection

/-- The operation is one that moves bytes. -/
def Transfers : ChannelOp → Prop
  | write _ | read .. | onRead | onWrite => True
  | setMode _ | attach _ | detach | close => False

variable [Machine ω] [Transport ω τ] {c : Connection (Recorded τ)} {w : Recorder ω}
variable {op : ChannelOp}

theorem perform_accounted (hop : op.Transfers) : op.perform.Ends c w
    (fun _ c' w' => ∃ records, Accounted (c, w) records (c', w'))
    (fun _ c' w' => ∃ records, Accounted (c, w) records (c', w')) := by
  cases op with
  | write data =>
    change (do Connection.write data; pure []).Ends c w _ _
    rw [Action.ends_bind]
    -- What is queued changes nothing of the activity.
    refine write_exchanged.mono (fun _ c' w' ⟨_, hx⟩ => ?_) (fun e c' w' hx => ?_)
    · obtain ⟨records, hrecords, hactive⟩ := hx.accounted
      exact ⟨records, hrecords, hactive⟩
    · obtain ⟨-, hx⟩ | ⟨-, -, rfl, rfl⟩ := hx
      · obtain ⟨records, hrecords, hactive⟩ := hx.accounted
        exact ⟨records, hrecords, hactive⟩
      · exact Exchanged.refl.accounted
  | read count opts =>
    change (Connection.read count opts).Ends c w _ _
    refine read_exchanged.mono (fun data c' w' hx => ?_) (fun e c' w' hx => hx.1.accounted)
    obtain ⟨c₁, core, hx, hcore, rfl⟩ := hx
    obtain ⟨input, rfl, -⟩ := ChannelCore.takeInput_ok hcore
    obtain ⟨records, hrecords, hactive⟩ := hx.1.accounted
    exact ⟨records, hrecords, hactive⟩
  | onRead =>
    change (do Connection.onRead; pure []).Ends c w _ _
    rw [Action.ends_bind]
    refine onRead_exchanged.mono (fun _ c' w' hx => hx.2.1.accounted) (fun e c' w' hx => ?_)
    obtain ⟨-, hx, -⟩ | ⟨-, -, rfl, rfl⟩ := hx
    · exact hx.accounted
    · exact Exchanged.refl.accounted
  | onWrite =>
    change (do Connection.onWrite; pure []).Ends c w _ _
    rw [Action.ends_bind]
    refine onWrite_exchanged.mono (fun _ c' w' hx => hx.1.accounted) (fun e c' w' hx => ?_)
    obtain ⟨-, hx⟩ | ⟨-, hparts⟩ := hx
    · exact hx.accounted
    · exact hparts.accounted
  | setMode _ | attach _ | detach | close => exact hop.elim

/-- The operation is a read of a connection in a bounded mode. -/
def Bounded (c : Connection (Recorded τ)) (op : ChannelOp) : Prop :=
  ∃ count opts d, op = read count opts ∧ c.core.mode = .upTo d

theorem perform_fails (hop : op.Transfers) : op.perform.Ends c w (fun _ _ _ => True)
    (fun e c' w' => ∀ cause, e = .failed cause →
      c'.core.active = false ∨ op.Bounded c ∧ Untuned cause (c, w) (c', w')) := by
  have hconclusive {x : Action (Recorder ω) ChannelError (Connection (Recorded τ)) Unit}
      (hx : Conclusive x) : (do x; pure []).Ends c w (fun (_ : Bytes) _ _ => True)
        (fun e c' w' => ∀ cause, e = ChannelError.failed cause →
          c'.core.active = false ∨ op.Bounded c ∧ Untuned cause (c, w) (c', w')) := by
    rw [Action.ends_bind]
    exact (hx c w).mono (fun _ _ _ _ => trivial) (fun _ _ _ hf cause he => .inl (hf cause he))
  cases op with
  | write data => exact hconclusive write_conclusive
  | onRead => exact hconclusive onRead_conclusive
  | onWrite => exact hconclusive onWrite_conclusive
  | read count opts =>
    change (Connection.read count opts).Ends c w _ _
    refine read_fell.mono (fun _ _ _ _ => trivial) (fun e c' w' hf cause he => ?_)
    refine (hf.told cause he).imp id fun ⟨⟨d, hd⟩, hu⟩ => ⟨⟨count, opts, d, rfl, hd⟩, hu⟩
  | setMode _ | attach _ | detach | close => exact hop.elim

end ChannelOp

namespace Session

open Connection

variable [Machine ω] [Transport ω τ] {s s' : Session τ ω}

/-- Whatever is done to the session, its connection stays inactive, every write is refused, and
reads share out the input that it has now. -/
def Over (s : Session τ ω) : Prop :=
  ∀ ops s', s.play ops = some s' →
    s'.connection.core.active = false ∧
    s'.connection.core.input.toList <:+ s.connection.core.input.toList ∧
    (∀ data, s'.step (.write data) = some (.error .closed, s')) ∧
    ∀ count opts, (s'.step (.read count opts)).map Prod.fst =
      some (opts.serve count s'.connection.core.input.toList)

theorem write_refused (hinactive : s.connection.core.active = false) (data : Bytes) :
    s.step (.write data) = some (.error .closed, s) := by
  have hwrite : (ChannelOp.write data).perform.Answers s.connection s.machine (.error .closed)
      s.connection s.machine := by
    change (do Connection.write data; pure []) s.connection s.machine = _
    rw [Action.bind_apply, write_inactive hinactive]
  rw [step_of_answers hwrite]
  simp [ChannelOp.queued, ChannelOp.taken, hinactive]

theorem read_served (hinactive : s.connection.core.active = false) (count : Nat)
    (opts : ReadOptions) : (s.step (.read count opts)).map Prod.fst =
      some (opts.serve count s.connection.core.input.toList) := by
  have hread : (ChannelOp.read count opts).perform.Answers s.connection s.machine
      (opts.serve count s.connection.core.input.toList)
      (s.connection.withInput (opts.leave count s.connection.core.input.toList)) s.machine :=
    (takeInput_serves (.inr hinactive)).of_eq (read_eq_takeInput (.inr (.inl hinactive)))
  rw [step_of_answers hread]
  rfl

theorem over_of_inactive (hinactive : s.connection.core.active = false) : s.Over := by
  intro ops s' hplay
  have hended : s.Ended s' := by
    refine play_keeps (P := s.Ended) (fun op s₁ result s₂ he hstep => he.step hstep) ops s s' ?_
      hplay
    exact ⟨hinactive, ⟨[], by simp, by simp⟩, [], by simp, by simp⟩
  obtain ⟨taken, -, htaken⟩ := hended.taken
  exact ⟨hended.inactive, ⟨taken, htaken⟩, write_refused hended.inactive,
    read_served hended.inactive⟩

/-- Over any transport, under either policy and in any state: after a read, a write or an
operation on readiness the connection is active just if it was before and none of the calls
finished it, so an error that will pass never does. When the operation failed the connection is
over, unless the transport refused a mode for the same cause during a bounded read. -/
theorem failures_told {op : ChannelOp} (hop : op.Transfers) {result : Except ChannelError Bytes}
    (hstep : s.step op = some (result, s')) :
    ∃ calls, s'.machine.calls = s.machine.calls ++ calls ∧
      (s'.connection.core.active = true ↔ s.connection.core.active = true ∧
        ∀ r ∈ calls, ¬ r.call.Finishes s.connection.policy) ∧
      ∀ cause, result = .error (.failed cause) →
        s'.Over ∨
        (∃ count opts d, op = .read count opts ∧ s.connection.core.mode = .upTo d) ∧
          ∃ r ∈ calls, ∃ mode, r.call = .setMode mode (.error cause) := by
  have hanswers := answers_of_step hstep
  obtain ⟨calls, hcalls, hactive⟩ := (ChannelOp.perform_accounted hop).leaves hanswers.leaves
  refine ⟨calls, hcalls, hactive, fun cause hresult => ?_⟩
  subst hresult
  have hfails := (ChannelOp.perform_fails hop).refused hanswers cause rfl
  exact hfails.imp over_of_inactive fun ⟨hbounded, huntuned⟩ =>
    ⟨hbounded, huntuned.recorded hcalls⟩

/-- The cause of which an operation with this result failed. -/
def failure? : Except ChannelError Bytes → Option IoError
  | .ok _ => none
  | .error e => e.cause?

theorem failure?_eq_some {result : Except ChannelError Bytes} {cause : IoError} :
    failure? result = some cause ↔ result = .error (.failed cause) := by
  cases result with
  | ok data => simp [failure?]
  | error e => cases e <;> simp [failure?, ChannelError.cause?]

/-- A transport that refuses the third mode that it is set to. -/
def stubbornWire : Scenario.Wire where
  name := "stubborn"
  script := { modeResults := [none, none, some (.failure "no timer")] }

/-- A bounded read fails on a mode that the transport refuses, and the connection is active after
it. -/
theorem failures_told_stubbornWire : ∃ s s' : Session Scenario.Wire Scenario.Bench,
    ((ChannelOp.read 1 {}).Transfers ∧
      s.step (.read 1 {}) = some (.error (.failed (.failure "no timer")), s') ∧
      s'.connection.core.active = true) ∧
    ∃ calls, s'.machine.calls = s.machine.calls ++ calls ∧
      (s'.connection.core.active = true ↔ s.connection.core.active = true ∧
        ∀ r ∈ calls, ¬ r.call.Finishes s.connection.policy) ∧
      ∀ cause, (.error (.failed (.failure "no timer")) : Except ChannelError Bytes) =
          .error (.failed cause) →
        s'.Over ∨
        (∃ count opts d, ChannelOp.read 1 {} = .read count opts ∧
            s.connection.core.mode = .upTo d) ∧
          ∃ r ∈ calls, ∃ mode, r.call = .setMode mode (.error cause) := by
  have hrun : ((opened .plain {} stubbornWire {}).bind
      (play [.setMode (.upTo (.ofMillis 100))])).any
      (fun s => (s.step (.read 1 {})).any fun next =>
        failure? next.1 == some (.failure "no timer") && next.2.connection.core.active) = true := by
    decide +kernel
  obtain ⟨s, -, hs⟩ := (Option.any_eq_true _ _).mp hrun
  obtain ⟨⟨result, s'⟩, hstep, hs'⟩ := (Option.any_eq_true _ _).mp hs
  obtain ⟨hresult, hactive⟩ := Bool.and_eq_true_iff.mp hs'
  cases failure?_eq_some.mp (eq_of_beq hresult)
  have htransfers : (ChannelOp.read 1 {}).Transfers := trivial
  exact ⟨s, s', ⟨htransfers, hstep, hactive⟩, failures_told htransfers hstep⟩

end Session

end ChannelReactor
