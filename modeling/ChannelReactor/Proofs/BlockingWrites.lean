import ChannelReactor.Proofs.Completion
import ChannelReactor.Proofs.Gathering
import ChannelReactor.Proofs.HardFailures
import ChannelReactor.Proofs.Possession

/-! # Writes that wait

A write in a waiting mode sends the backlog and its data until nothing is left, then has the
transport send on what it still holds. It comes to an end over every transport that is interrupted
only so often in a row, for every byte that is accepted brings the end nearer. Its answer tells what
has become of the connection, and what was not accepted is what is left in the output
(`Session.blocking_write_told`). -/
namespace ChannelReactor

variable {ω σ τ α : Type}

/-- The call is interrupted at most so many times in a row before it has another answer. -/
inductive Tried (policy : Policy) (x : Action ω IoError τ α) : Nat → τ → ω → Prop
  | answered {n : Nat} {t t' : τ} {w w' : ω} {answer : Except IoError α}
    (h : x.Answers t w answer t' w')
    (hn : ∀ e, answer = .error e → policy.judge .send e ≠ .interrupted) : Tried policy x n t w
  | again {n : Nat} {t t' : τ} {w w' : ω} {e : IoError} (h : x t w = .refused e t' w')
    (hj : policy.judge .send e = .interrupted) (hrest : Tried policy x n t' w') :
    Tried policy x (n + 1) t w

/-- A call that fails with an interruption is tried once more than from there on. -/
theorem Tried.of_completes {policy : Policy} {x : Action ω IoError τ α} {n : Nat} {t : τ} {w : ω}
    (h : x.Completes t w (fun _ _ _ => True)
      (fun e t' w' => policy.judge .send e = .interrupted → ∃ m, n = m + 1 ∧
        Tried policy x m t' w')) : Tried policy x n t w := by
  obtain ⟨answer, t', w', hx, ha⟩ := h.answers
  cases answer with
  | ok a => exact .answered hx nofun
  | error e =>
    by_cases hj : policy.judge .send e = .interrupted
    · obtain ⟨m, rfl, hrest⟩ := ha hj
      exact .again hx hj hrest
    · exact .answered hx fun e' he => Except.error.inj he ▸ hj

/-- The patience of a transport is a bound on the interruptions that its sends and flushes meet in
a row. -/
structure Transport.Relents (policy : Policy) (τ : Type) [Transport ω τ] : Prop where
  send : ∀ (data : Bytes) (t : τ) (w : ω),
    Tried policy (Transport.send data) (Transport.patience t) t w
  flush : ∀ (t : τ) (w : ω), Tried policy Transport.flush (Transport.patience t) t w

/-- A record of the calls interrupts nothing. -/
theorem Tried.recorded {policy : Policy} {toCall : Except IoError α → Call}
    {x : Action ω IoError τ α} {n device : Nat} {body : τ} {w : Recorder ω}
    (h : Tried policy x n body w.machine) :
    Tried policy (Recorded.call toCall x) n ⟨device, body⟩ w := by
  generalize hm : w.machine = m at h
  induction h generalizing w with
  | @answered n body body' m m' answer h hn =>
    subst hm
    exact .answered (Recorded.call_answers_iff.mpr ⟨_, _, h, rfl, rfl⟩) hn
  | @again n body body' m m' e h hj _ ih =>
    subst hm
    have hcall : (Recorded.call toCall x).Answers ⟨device, body⟩ w (.error e) ⟨device, body'⟩
        (w.note device (toCall (.error e)) m') :=
      Recorded.call_answers_iff.mpr ⟨_, _, h, rfl, rfl⟩
    exact .again hcall hj (ih rfl)

theorem Transport.Relents.recorded {policy : Policy} [Transport ω τ]
    (h : Transport.Relents policy τ) : Transport.Relents policy (Recorded τ) :=
  ⟨fun data t w => (h.send data t.body w.machine).recorded,
    fun t w => (h.flush t.body w.machine).recorded⟩

namespace Connection

variable [Transport ω τ] {c c' : Connection τ} {w w' : ω} {o : Connection τ × ω} {t : τ} {n : Nat}

theorem patience_eq (ht : c.transport = some t) : c.patience = Transport.patience t := by
  rw [patience, ht]

theorem sendOnce_completes (hne : c.core.output.toList ≠ []) (ht : c.transport = some t)
    (htried : Tried c.policy (Transport.send c.core.output.run) n t w) :
    sendOnce.Completes c w (fun r c' w' => match r with
      | some true => True
      | some false => c'.core.output.size < c.core.output.size
      | none => ∃ m < n, ∃ t', c' = { c with transport := some t' } ∧
          Tried c.policy (Transport.send c.core.output.run) m t' w') (fun _ _ _ => True) := by
  rw [sendOnce, Action.completes_bind, Action.completes_subject, Action.completes_bind]
  cases htried with
  | @answered n t t' w w' answer h hn =>
    refine onTransport_completes ht h ?_
    cases answer with
    | ok accepted =>
      cases accepted with
      | zero => trivial
      | succ rest =>
        have hpos : 0 < c.core.output.toList.length := List.length_pos_iff.mpr hne
        change (c.core.output.drop (rest + 1)).toList.length < c.core.output.toList.length
        rw [ByteRing.toList_drop, List.length_drop]
        omega
    | error e =>
      dsimp only
      cases hj : c.policy.judge .send e with
      | retry => trivial
      | interrupted => exact absurd hj (hn e rfl)
      | fatal => trivial
  | @again n t t' w w' e h hj hrest =>
    refine onTransport_completes ht (show (Transport.send _).Answers t w (.error e) t' w' from h) ?_
    dsimp only
    rw [hj]
    exact ⟨n, Nat.lt_succ_self n, t', rfl, hrest⟩

theorem sendSome_completes (hrelents : Transport.Relents c.policy τ)
    (hne : c.core.output.toList ≠ []) (ht : c.transport.isSome = true) :
    sendSome.Completes c w
      (fun blocked c' _ => blocked = false → c'.core.output.size < c.core.output.size)
      (fun _ _ _ => True) := by
  obtain ⟨t, ht⟩ := Option.isSome_iff_exists.mp ht
  rw [sendSome, Action.completes_bind, Action.completes_subject]
  refine Action.Completes.repeatUntil
    (I := fun n c' w' => ∃ t', c' = { c with transport := some t' } ∧
      Tried c.policy (Transport.send c.core.output.run) n t' w') (fun n c' w' hi => ?_)
    _ (Transport.patience t) c w ?_ ⟨t, by rw [← ht], hrelents.send _ t w⟩
  · obtain ⟨t', rfl, htried⟩ := hi
    refine (sendOnce_completes (c := { c with transport := some t' }) hne rfl htried).mono
      (fun r c' w' h => ?_) (fun _ _ _ h => h)
    cases r with
    | none => exact h
    | some blocked =>
      cases blocked with
      | true => exact fun hb => by cases hb
      | false => exact fun _ => h
  · rw [patience_eq ht]
    exact Nat.lt_succ_self _

/-- Every round of sends that is not blocked leaves less to send. -/
theorem sendAll_completes (hrelents : Transport.Relents c.policy τ)
    (ht : c.transport.isSome = true) :
    sendAll.Completes c w (fun _ _ _ => True) (fun _ _ _ => True) := by
  rw [sendAll, Action.completes_bind, Action.completes_subject]
  refine Action.Completes.repeatUntil
    (I := fun n c' w' => c'.core.output.size = n ∧ Exchanged (c, w) (c', w')) (fun n c' w' hi => ?_)
    _ _ c w (Nat.lt_succ_self _) ⟨rfl, .refl⟩
  obtain ⟨rfl, hx⟩ := hi
  rw [Action.completes_bind, Action.completes_subject]
  by_cases he : c'.core.output.toList = []
  · rw [if_pos (ByteRing.isEmpty_iff.mpr he)]
    trivial
  · rw [if_neg (fun h => he (ByteRing.isEmpty_iff.mp h)), Action.completes_bind]
    have hsome := sendSome_completes (w := w') (hx.kept.policy ▸ hrelents) he
      (hx.kept.transport.trans ht)
    refine (hsome.and_ends (sendSome_exchanged hx he)).mono (fun blocked c₁ w₁ h => ?_)
      (fun _ _ _ _ => trivial)
    cases blocked with
    | true => trivial
    | false => exact ⟨_, h.1 rfl, rfl, h.2.1⟩

theorem settleOnce_completes (ht : c.transport = some t)
    (htried : Tried c.policy Transport.flush n t w) :
    settleOnce.Completes c w (fun r c' w' => r = none → ∃ m < n, ∃ t',
        c' = { c with transport := some t' } ∧ Tried c.policy Transport.flush m t' w')
      (fun _ _ _ => True) := by
  rw [settleOnce, Action.completes_bind, Action.completes_subject, Action.completes_bind]
  cases htried with
  | @answered n t t' w w' answer h hn =>
    refine onTransport_completes ht h ?_
    cases answer with
    | ok _ =>
      rw [Action.completes_bind, Action.completes_subject]
      split <;> exact fun hr => by cases hr
    | error e =>
      dsimp only
      cases hj : c.policy.judge .send e with
      | retry => exact fun hr => by cases hr
      | interrupted => exact absurd hj (hn e rfl)
      | fatal => trivial
  | @again n t t' w w' e h hj hrest =>
    refine onTransport_completes ht (show Transport.flush.Answers t w (.error e) t' w' from h) ?_
    dsimp only
    rw [hj]
    exact fun _ => ⟨n, Nat.lt_succ_self n, t', rfl, hrest⟩

theorem flush_completes (hrelents : Transport.Relents c.policy τ)
    (ht : c.transport.isSome = true) :
    flush.Completes c w (fun _ _ _ => True) (fun _ _ _ => True) := by
  rw [flush, Action.completes_bind]
  refine ((sendAll_completes hrelents ht).and_ends (sendAll_exchanged .refl)).mono
    (fun r c' w' h => ?_) (fun _ _ _ _ => trivial)
  cases r with
  | blocked => trivial
  | drained =>
    obtain ⟨t, ht⟩ := Option.isSome_iff_exists.mp (h.2.1.kept.transport.trans ht)
    have hrelents : Transport.Relents c'.policy τ := h.2.1.kept.policy ▸ hrelents
    rw [Action.completes_bind, Action.completes_subject]
    refine Action.Completes.repeatUntil
      (I := fun n c'' w'' => ∃ t', c'' = { c' with transport := some t' } ∧
        Tried c'.policy Transport.flush n t' w'') (fun n c'' w'' hi => ?_)
      _ (Transport.patience t) c' w' ?_ ⟨t, by rw [← ht], hrelents.flush t w'⟩
    · obtain ⟨t', rfl, htried⟩ := hi
      refine (settleOnce_completes (c := { c' with transport := some t' }) rfl htried).mono
        (fun r _ _ h => ?_) (fun _ _ _ h => h)
      cases r with
      | none => exact h rfl
      | some _ => trivial
    · rw [patience_eq ht]
      exact Nat.lt_succ_self _

theorem write_completes (data : Bytes) (hrelents : Transport.Relents c.policy τ)
    (hactive : c.core.active = true) (ht : c.transport.isSome = true) :
    (write data).Completes c w (fun _ _ _ => True) (fun _ _ _ => True) := by
  have hready : ensureActive.Answers c w (.ok ()) c w := ensureActive_active hactive
  rw [write, Action.completes_bind]
  refine hready.completes ?_
  dsimp only
  rw [Action.completes_bind, Action.completes_update, Action.completes_bind,
    Action.completes_subject]
  split
  · rw [Action.completes_bind]
    refine (flush_completes (c := c.mapCore (·.enqueue data)) hrelents ht).mono
      (fun flushed _ _ _ => ?_) (fun _ _ _ h => h)
    cases flushed <;> trivial
  · trivial

/-- When the action is done, the connection is as active as it was. -/
def Lasting (x : Action ω ChannelError (Connection τ) α) : Prop :=
  ∀ c w, x.Ends c w (fun _ c' _ => c'.core.active = c.core.active) (fun _ _ _ => True)

section

variable {β : Type}

omit [Transport ω τ]

theorem Lasting.bind {x : Action ω ChannelError (Connection τ) α}
    {f : α → Action ω ChannelError (Connection τ) β} (hx : Lasting x) (hf : ∀ a, Lasting (f a)) :
    Lasting (x >>= f) := by
  intro c w
  rw [Action.ends_bind]
  refine (hx c w).mono (fun a c' w' h => ?_) (fun _ _ _ _ => trivial)
  exact (hf a c' w').mono (fun _ _ _ h' => h'.trans h) (fun _ _ _ _ => trivial)

theorem Lasting.repeatUntil {step : Action ω ChannelError (Connection τ) (Option α)}
    (h : Lasting step) (bound : Nat) : Lasting (Action.repeatUntil bound step) := by
  intro c w
  refine Action.Ends.repeatUntil (I := fun c' _ => c'.core.active = c.core.active)
    (fun c' w' hi => ?_) bound c w rfl
  refine (h c' w').mono (fun r _ _ h' => ?_) (fun _ _ _ _ => trivial)
  cases r <;> exact h'.trans hi

theorem lasting_pure {a : α} : Lasting (pure a : Action ω ChannelError (Connection τ) α) :=
  fun _ _ => rfl

theorem lasting_subject : Lasting (Action.subject : Action ω ChannelError (Connection τ) _) :=
  fun _ _ => rfl

theorem lasting_fail {e : IoError} : Lasting (fail e : Action ω ChannelError (Connection τ) α) :=
  fun _ _ => trivial

theorem onTransport_lasting {call : Action ω IoError τ α} : Lasting (onTransport call) :=
  fun _ _ => onTransport_answers (fun _ _ _ _ _ _ => rfl) fun _ => trivial

end

/-- A flush that does not fail leaves the connection active. -/
theorem flush_lasting : Lasting (flush (τ := τ)) := by
  have hsend : Lasting (sendOnce (τ := τ)) := by
    refine lasting_subject.bind fun c => onTransport_lasting.bind fun answer => ?_
    split
    · exact lasting_fail
    · exact fun _ _ => rfl
    · cases c.policy.judge .send _ with
      | retry => exact lasting_pure
      | interrupted => exact lasting_pure
      | fatal => exact lasting_fail
  have hsettle : Lasting (settleOnce (τ := τ)) := by
    refine lasting_subject.bind fun c => onTransport_lasting.bind fun answer => ?_
    split
    · refine lasting_subject.bind fun c => ?_
      split <;> exact lasting_pure
    · cases c.policy.judge .send _ with
      | retry => exact lasting_pure
      | interrupted => exact lasting_pure
      | fatal => exact lasting_fail
  have hsome : Lasting (sendSome (τ := τ)) := lasting_subject.bind fun _ => hsend.repeatUntil _
  have hall : Lasting (sendAll (τ := τ)) := by
    refine lasting_subject.bind fun _ => Lasting.repeatUntil (lasting_subject.bind fun c => ?_) _
    split
    · exact lasting_pure
    · refine hsome.bind fun blocked => ?_
      split <;> exact lasting_pure
  refine hall.bind fun flushed => ?_
  cases flushed with
  | drained => exact lasting_subject.bind fun _ => hsettle.repeatUntil _
  | blocked => exact lasting_pure

/-- What the result of a waiting write tells of the connection. -/
def Concludes (c : Connection τ) : Except ChannelError Bytes → Prop
  | .ok _ => c.Settled
  | .error .dataNotAvailable => c.core.active = true
  | .error (.failed _) => c.core.active = false
  | .error .closed | .error (.misuse _) => False

theorem write_concludes {data : Bytes} (hactive : c.core.active = true)
    (hblocking : c.core.mode.isBlocking = true) (ht : c.transport.isSome = true) :
    (write data).Ends c w
      (fun _ c' w' => Exchanged (c.mapCore (·.enqueue data), w) (c', w') ∧ c'.Concludes (.ok []))
      (fun e c' w' => Exchanged (c.mapCore (·.enqueue data), w) (c', w') ∧
        c'.Concludes (.error e)) := by
  rw [write, Action.ends_bind, ensureActive_ends]
  refine ⟨fun _ => ?_, fun hi => by rw [hactive] at hi; cases hi⟩
  rw [Action.ends_bind, Action.ends_update, Action.ends_bind, Action.ends_subject,
    if_pos (show (c.mapCore (·.enqueue data)).core.mode.isBlocking = true from hblocking),
    Action.ends_bind]
  refine ((flush_exchanged .refl).and ((flush_conclusive _ _).and (flush_lasting _ _))).mono
    (fun flushed c' w' h => ?_) (fun e c' w' h => ?_)
  · obtain ⟨⟨hx, hflushed⟩, -, hlasts⟩ := h
    cases flushed with
    | drained => exact ⟨hx, hflushed⟩
    | blocked => exact ⟨hx, hlasts.trans hactive⟩
  · obtain ⟨⟨hx, rfl, hn⟩ | ⟨hbroken, cause, rfl⟩, hfails, -⟩ := h
    · -- A transport that there was before is still there.
      have hstill := hx.kept.transport.trans ht
      rw [show c'.transport = none from hn] at hstill
      cases hstill
    · exact ⟨hbroken.exchanged, hfails cause rfl⟩

variable {p q : Connection τ × ω} {calls : List Call}

/-- What was accepted and what is left are what there was to send. -/
theorem Exchange.accepts (h : Exchange p calls q) (hw : ∀ call ∈ calls, call.WithinOffer) :
    calls.flatMap Call.accepted ++ q.1.core.output.toList = p.1.core.output.toList := by
  induction h with
  | none => rfl
  | @call calls c w w' t t' call _ _ hm _ ih =>
    rw [List.flatMap_append, List.append_assoc, List.flatMap_singleton,
      afterCall_output hm (hw call (by simp))]
    exact ih fun call' hmem => hw call' (List.mem_append_left _ hmem)

/-- Nothing is sent only when there is nothing to send. -/
theorem Exchange.offers (h : Exchange p calls q) {offered : Bytes}
    {answer : Except IoError Nat} (hmem : .send offered answer ∈ calls) : offered ≠ [] := by
  induction h with
  | none => cases hmem
  | call _ _ hm _ ih =>
    obtain hmem | hmem := List.mem_append.mp hmem
    · exact ih hmem
    · cases List.mem_singleton.mp hmem
      exact hm.2 ▸ ByteRing.run_ne_nil hm.1

end Connection

namespace Session

open Connection

variable [Machine ω] [Transport ω τ]

variable {c₀ : Connection (Recorded τ)} {s : Session τ ω}

/-- Whatever became of a connection and of the machine, while it is active and in a waiting mode,
and whatever backlog it has: over a transport that is interrupted only so often in a row a write
comes to an end, and

* it is done only when all that there was to send is accepted and the transport holds no output;
* it says that nothing is available only while the connection is active;
* it fails only with the connection inactive, and is refused for no other reason.

What is left in the output is what was not accepted of the backlog and the data, over a transport
that accepts no more than it is offered, and it is always offered something. -/
theorem blocking_write_told (hmade : c₀.Established)
    (hops : ChannelOps.Operated c₀ s.connection)
    (hrelents : Transport.Relents s.connection.policy τ)
    (hactive : s.connection.core.active = true)
    (hblocking : s.connection.core.mode.isBlocking = true) (data : Bytes) :
    ∃ result s' calls, s.step (.write data) = some (result, s') ∧
      s'.machine.calls = s.machine.calls ++ calls ∧
      s'.connection.Concludes result ∧
      ((∀ r ∈ calls, r.call.WithinOffer) →
        (calls.flatMap fun r => r.call.accepted) ++ s'.connection.core.output.toList =
          s.connection.core.output.toList ++ data) ∧
      ∀ r ∈ calls, ∀ answer, r.call ≠ .send [] answer := by
  have ht := (operated_possesses hmade hops).active hactive
  have hwrite := (write_completes (w := s.machine) data hrelents.recorded hactive ht).and_ends
    (write_concludes hactive hblocking ht)
  have hperform : (ChannelOp.write data).perform.Completes s.connection s.machine
      (fun a c' w' => Exchanged (s.connection.mapCore (·.enqueue data), s.machine) (c', w') ∧
        c'.Concludes (.ok a))
      (fun e c' w' => Exchanged (s.connection.mapCore (·.enqueue data), s.machine) (c', w') ∧
        c'.Concludes (.error e)) := by
    change (do Connection.write data; pure []).Completes s.connection s.machine _ _
    rw [Action.completes_bind]
    exact hwrite.mono (fun _ _ _ h => h.2) (fun _ _ _ h => h.2)
  obtain ⟨result, c', w', hanswers, hresult⟩ := hperform.answers
  obtain ⟨⟨calls, hx⟩, hconcludes⟩ :
      Exchanged (s.connection.mapCore (·.enqueue data), s.machine) (c', w') ∧
        c'.Concludes result := by
    cases result <;> exact hresult
  obtain ⟨records, hrecords, rfl⟩ := hx.recorded
  refine ⟨result, _, records, step_of_answers hanswers, hrecords, hconcludes, fun hw => ?_,
    fun r hr answer hcall => ?_⟩
  · have haccepts := hx.accepts fun call hmem => by
      obtain ⟨r, hr, rfl⟩ := List.mem_map.mp hmem
      exact hw r hr
    rw [List.flatMap_map] at haccepts
    exact haccepts
  · exact hx.offers (List.mem_map.mpr ⟨r, hr, hcall⟩) rfl

end Session

namespace Scenario.Wire

open ChannelReactor.Action

theorem accepts_completes {data : Bytes} {w : Wire} {b : Bench}
    {R : IoError → Wire → Bench → Prop} :
    (accepts data).Completes w b (fun _ _ _ => True) R := by
  rw [accepts, completes_bind, completes_subject, completes_bind, record, completes_onMachine]
  split <;> trivial

theorem judge_wouldBlock {policy : Policy} {call : TransportCall} :
    policy.judge call (.bare .wouldBlock) ≠ .interrupted := by
  cases policy <;> cases call <;> decide

/-- What is left of a wire's script of sends bounds the interruptions that it brings. -/
theorem send_tried {policy : Policy} {data : Bytes} {acts : List SendAct} {n : Nat}
    (hn : acts.length ≤ n) {w : Wire} {b : Bench} (hw : w.script.send = acts) :
    Tried policy (send data) n w b := by
  induction acts generalizing n w b with
  | nil =>
    refine .of_completes ?_
    rw [send, completes_bind, completes_subject, hw]
    dsimp only
    split
    · exact fun hj => absurd hj judge_wouldBlock
    · exact accepts_completes
  | cons act rest ih =>
    refine .of_completes ?_
    rw [send, completes_bind, completes_subject, hw]
    cases act with
    | accepts m => exact accepts_completes
    | nothing => exact accepts_completes
    | fails e =>
      obtain ⟨m, rfl⟩ : ∃ m, n = m + 1 := ⟨n - 1, by simp only [List.length_cons] at hn; omega⟩
      exact fun _ => ⟨m, rfl, ih (Nat.le_of_succ_le_succ hn) rfl⟩

theorem flush_tried {policy : Policy} {acts : List FlushAct} {n : Nat} (hn : acts.length ≤ n)
    {w : Wire} {b : Bench} (hw : w.script.flush = acts) : Tried policy flush n w b := by
  induction acts generalizing n w b with
  | nil =>
    refine .of_completes ?_
    rw [flush, completes_bind, completes_subject, hw]
    split <;> trivial
  | cons act rest ih =>
    refine .of_completes ?_
    rw [flush, completes_bind, completes_subject, hw]
    split
    · trivial
    · cases act with
      | drains m => trivial
      | idle => trivial
      | fails e =>
        obtain ⟨m, rfl⟩ : ∃ m, n = m + 1 := ⟨n - 1, by simp only [List.length_cons] at hn; omega⟩
        exact fun _ => ⟨m, rfl, ih (Nat.le_of_succ_le_succ hn) rfl⟩

/-- A wire is interrupted no more often than its script says. -/
theorem relents (policy : Policy) : Transport.Relents policy Wire where
  send _ _ _ := send_tried (Nat.le_trans (Nat.le_add_left _ _) (Nat.le_add_right _ _)) rfl
  flush _ _ := flush_tried (Nat.le_add_left _ _) rfl

end Scenario.Wire

namespace Session

open Connection

/-- A wire that takes three of four bytes, with an interruption on the way, and is then blocked. -/
theorem blocking_write_told_haltingWire :
    ∃ (c₀ : Connection (Recorded Scenario.Wire)) (s s' : Session Scenario.Wire Scenario.Bench)
      (result : Except ChannelError Bytes) (calls : List Record),
      (c₀.Established ∧ ChannelOps.Operated c₀ s.connection ∧
        Transport.Relents s.connection.policy Scenario.Wire ∧
        s.connection.core.active = true ∧ s.connection.core.mode.isBlocking = true) ∧
      s.connection.core.output.toList = [10, 11, 12] ∧
      s.step (.write [13]) = some (result, s') ∧
      s'.machine.calls = s.machine.calls ++ calls ∧
      s'.connection.core.output.toList = [13] ∧ s'.connection.Concludes result ∧
      ((∀ r ∈ calls, r.call.WithinOffer) →
        (calls.flatMap fun r => r.call.accepted) ++ s'.connection.core.output.toList =
          s.connection.core.output.toList ++ [13]) ∧
      ∀ r ∈ calls, ∀ answer, r.call ≠ .send [] answer := by
  have hrun : ((establish .plain {} ⟨0, haltingWire⟩ :
      Action _ _ Unit (Connection (Recorded Scenario.Wire))) () (Recorder.start {})).any
      (fun c₀ _ w₀ =>
        (ChannelOps.operate [.setMode .nonblocking, .write [10, 11, 12], .setMode .forever] c₀
          w₀).any fun p =>
          p.1.core.active && p.1.core.mode.isBlocking &&
            p.1.core.output.toList == [10, 11, 12] &&
            ((({ connection := p.1, machine := p.2 } : Session _ _).step (.write [13])).any
              fun next => next.2.connection.core.output.toList == [13])) = true := by
    decide +kernel
  obtain ⟨c₀, _, w₀, hmade, hfacts⟩ := Outcome.any_eq_true.mp hrun
  obtain ⟨⟨c, w⟩, hoperate, hfacts⟩ := (Option.any_eq_true _ _).mp hfacts
  simp only [Bool.and_eq_true, beq_iff_eq] at hfacts
  obtain ⟨⟨⟨hactive, hblocking⟩, hbacklog⟩, hwrite⟩ := hfacts
  obtain ⟨⟨result, s'⟩, hstep, hleft⟩ := (Option.any_eq_true _ _).mp hwrite
  have hestablished : c₀.Established := ⟨_, _, _, _, _, hmade⟩
  have hoperated : ChannelOps.Operated c₀ c := ChannelOps.operated_of_operate hoperate
  have hrelents : Transport.Relents c.policy Scenario.Wire := Scenario.Wire.relents _
  obtain ⟨result', s'', calls, hstep', htold⟩ := blocking_write_told
    (s := { connection := c, machine := w }) hestablished hoperated hrelents hactive hblocking [13]
  cases hstep.symm.trans hstep'
  exact ⟨c₀, _, s', result, calls, ⟨hestablished, hoperated, hrelents, hactive, hblocking⟩,
    hbacklog, hstep, htold.1, eq_of_beq hleft, htold.2⟩

end Session

end ChannelReactor
