import ChannelReactor.Proofs.Conservation
import ChannelReactor.Proofs.Operations

/-! # A connection and its transport

An active connection has its transport, a lingering one is inactive and has it too, and one that
gave it back has nothing left to send. A transport is given back once, by a close that is the last
call on it, and to close a connection once more changes nothing (`transport_released_once`). -/
namespace ChannelReactor

variable {ω τ : Type}

namespace Connection

/-- What is true of a connection and its transport between any two operations. -/
structure Possesses (c : Connection τ) : Prop where
  active : c.core.active = true → c.transport.isSome = true
  lingering : c.lingering = true → c.core.active = false ∧ c.transport.isSome = true
  output : c.transport = none → c.core.output.toList = []

/-- Another core with no more activity and no other output will do. -/
theorem Possesses.recore {c : Connection τ} {core : ChannelCore} (h : c.Possesses)
    (hactive : c.core.active = false → core.active = false)
    (houtput : core.output = c.core.output) : Possesses { c with core } where
  active ha := h.active (by
    cases hc : c.core.active with
    | true => rfl
    | false => exact absurd ((hactive hc).symm.trans ha) (by decide))
  lingering hl := ⟨hactive (h.lingering hl).1, (h.lingering hl).2⟩
  output ht := (congrArg ByteRing.toList houtput).trans (h.output ht)

theorem Possesses.released {c : Connection τ} (hinactive : c.core.active = false) :
    c.released.Possesses where
  active ha := absurd (hinactive.symm.trans ha) (by decide)
  lingering hl := by cases hl
  output _ := rfl

theorem Possesses.not_lingering {c : Connection τ} (h : c.Possesses)
    (ha : c.core.active = true) : c.lingering = false := by
  cases hl : c.lingering with
  | false => rfl
  | true => exact absurd ((h.lingering hl).1.symm.trans ha) (by decide)

variable [Transport ω τ] {c c' : Connection τ} {w w' : ω}

/-- Without a transport there is no call. -/
theorem Exchanged.idle {p q : Connection τ × ω} (h : Exchanged p q)
    (hn : p.1.transport = none) : q = p := by
  obtain ⟨calls, h⟩ := h
  induction h with
  | none => rfl
  | call _ ht _ _ ih =>
    rw [← ih, ht] at hn
    cases hn

theorem Possesses.exchanged (h : c.Possesses) (hx : Exchanged (c, w) (c', w')) :
    c'.Possesses where
  active ha := by
    rw [hx.kept.transport]
    refine h.active ?_
    cases hc : c.core.active with
    | true => rfl
    | false => exact absurd ((hx.kept.inactive hc).symm.trans ha) (by decide)
  lingering hl := by
    obtain ⟨hi, ht⟩ := h.lingering (hx.kept.lingering.symm.trans hl)
    exact ⟨hx.kept.inactive hi, hx.kept.transport.trans ht⟩
  output ht := by
    have hn : c.transport = none := by
      rw [← Option.not_isSome_iff_eq_none, ← hx.kept.transport, ht]
      exact Bool.false_ne_true
    cases hx.idle hn
    exact h.output hn

/-- Only a connection that is inactive parts with its transport. -/
theorem Parts.possesses {p q : Connection τ × ω} {P : Connection τ × ω → Prop} (h : Parts p P q)
    (hi : p.1.core.active = false) : q.1.Possesses := by
  obtain ⟨k, w, w', hx, -, -, rfl⟩ := h
  exact .released (hx.kept.inactive hi)

theorem retune_possesses (f : ChannelCore → ChannelCore) (c : Connection τ)
    (hf : ChannelCore.Retunes f) (h : c.Possesses) : (c.mapCore f).Possesses := by
  obtain ⟨mode, registration, hcore⟩ := hf c.core
  rw [mapCore, hcore]
  exact h.recore id rfl

theorem applyMode_possesses {mode : WaitMode} :
    Action.Keeps (fun c _ => c.Possesses) (applyMode (ω := ω) (τ := τ) mode) := fun _ _ h =>
  (applyMode_exchanged .refl).mono (fun _ _ _ hx => h.exchanged hx.1)
    (fun _ _ _ hx => h.exchanged hx)

theorem read_possesses [Machine ω] {count : Nat} {opts : ReadOptions} :
    Action.Keeps (fun c _ => c.Possesses) (read (ω := ω) (τ := τ) count opts) := by
  intro c w h
  refine read_exchanged.mono (fun data c' w' hx => ?_) (fun _ _ _ hx => h.exchanged hx.1)
  obtain ⟨c₁, core, hx, hcore, rfl⟩ := hx
  obtain ⟨input, rfl, -⟩ := ChannelCore.takeInput_ok hcore
  exact (h.exchanged hx.1).recore id rfl

/-- What an active connection queues, it has a transport for. -/
theorem write_possesses {data : Bytes} :
    Action.Keeps (fun c _ => c.Possesses) (write (ω := ω) (τ := τ) data) := by
  intro c w h
  have hqueued (ha : c.core.active = true) : (c.mapCore (·.enqueue data)).Possesses :=
    ⟨h.active, h.lingering, fun hn => by
      have ht := h.active ha
      rw [show c.transport = none from hn] at ht
      cases ht⟩
  refine write_exchanged.mono (fun _ c' w' ⟨ha, hx⟩ => (hqueued ha).exchanged hx)
    (fun e c' w' hx => ?_)
  obtain ⟨ha, hx⟩ | ⟨-, -, rfl, -⟩ := hx
  · exact (hqueued ha).exchanged hx
  · exact h

theorem onRead_possesses :
    Action.Keeps (fun c _ => c.Possesses) (onRead (ω := ω) (τ := τ)) := by
  intro c w h
  refine onRead_exchanged.mono (fun _ c' w' hx => h.exchanged hx.2.1) (fun e c' w' hx => ?_)
  obtain ⟨-, hx⟩ | ⟨-, -, rfl, -⟩ := hx
  · exact h.exchanged hx.1
  · exact h

theorem onWrite_possesses :
    Action.Keeps (fun c _ => c.Possesses) (onWrite (ω := ω) (τ := τ)) := by
  intro c w h
  refine onWrite_exchanged.mono (fun _ c' w' hx => h.exchanged hx.1) (fun e c' w' hx => ?_)
  obtain ⟨-, hx⟩ | ⟨hl, hparts⟩ := hx
  · exact h.exchanged hx
  · exact hparts.possesses (h.lingering hl).1

theorem close_possesses :
    Action.Keeps (fun c _ => c.Possesses) (close (ω := ω) (τ := τ)) := by
  intro c w h
  have hclosed : (c.mapCore ChannelCore.deactivate).Possesses := h.recore (fun _ => rfl) rfl
  refine close_exchanged.mono (fun _ c' w' hc => ?_) (fun e _ _ _ => e.elim)
  cases hc with
  | idle _ => exact hclosed
  | @lingers c₁ _ hx _ _ hheld =>
    have h₁ : c₁.Possesses := hclosed.exchanged hx
    obtain ⟨t, ht, -⟩ := hheld
    exact ⟨h₁.active, fun _ => ⟨hx.kept.inactive rfl, ht ▸ rfl⟩, h₁.output⟩
  | parts _ hparts => exact hparts.possesses rfl

theorem perform_possesses [Machine ω] (op : ChannelOp) :
    Action.Keeps (fun c _ => c.Possesses) (op.perform (ω := ω) (χ := Connection τ)) :=
  ChannelOps.perform_keeps (fun _ => applyMode_possesses)
    (fun f c _ hf h => retune_possesses f c hf h) (fun _ _ => read_possesses)
    (fun _ => write_possesses) onRead_possesses onWrite_possesses close_possesses op

theorem Established.possesses (h : c.Established) : c.Possesses where
  active _ := h.fresh.2.1
  lingering hl := absurd (h.fresh.2.2.symm.trans hl) (by decide)
  output _ := h.fresh.1

theorem operated_possesses [Machine ω] {c₀ : Connection τ} (hmade : c₀.Established)
    (hops : ChannelOps.Operated c₀ c) : c.Possesses :=
  hops.keeps perform_possesses hmade.possesses

/-- A connection that was closed has given its transport back, or is left to its reactor: another
close does not change anything. -/
theorem close_again (h : (close (τ := τ) : Action ω Empty _ _) c w = .done () c' w') :
    close c' w' = .done () c' w' := by
  have hidle : c'.core.active = false ∧
      (c'.transport = none ∨ c'.lingering = true ∧ c'.core.isRegistered = true) := by
    have hcloses := close_exchanged.done h
    generalize hc : c.mapCore ChannelCore.deactivate = closed at hcloses
    have hinactive : closed.core.active = false := hc ▸ rfl
    cases hcloses with
    | idle hend => exact ⟨hinactive, hend⟩
    | lingers hx _ hr _ =>
      refine ⟨hx.kept.inactive hinactive, .inr ⟨rfl, ?_⟩⟩
      rw [ChannelCore.isRegistered, hx.kept.registration]
      exact hr
    | parts _ hparts =>
      obtain ⟨k, w₁, w₂, hx, -, -, hq⟩ := hparts
      cases hq
      exact ⟨hx.kept.inactive hinactive, .inl rfl⟩
  have hsame : c'.mapCore ChannelCore.deactivate = c' := by
    rw [mapCore, ChannelCore.deactivate, ← hidle.1]
  rw [close, Action.bind_apply, Action.update_apply]
  dsimp only
  rw [hsame, Action.bind_apply, Action.subject_apply]
  dsimp only
  rw [if_pos (by simpa [Option.isNone_iff_eq_none] using hidle.2), Action.pure_apply]

end Connection

/-- The call is a close. -/
def Call.Closes : Call → Prop
  | close _ => True
  | _ => False

namespace Connection

/-- Nothing was closed while the connection has its transport, device 0; since it has given it back,
the only close is the last call. -/
structure ClosedLast (p : Connection (Recorded τ) × Recorder ω) : Prop where
  held : ∀ t, p.1.transport = some t →
    t.device = 0 ∧ ∀ call ∈ callsOf 0 p.2.calls, ¬ call.Closes
  gone : p.1.transport = none → ∃ before answer,
    callsOf 0 p.2.calls = before ++ [.close answer] ∧ ∀ call ∈ before, ¬ call.Closes

variable {p q : Connection (Recorded τ) × Recorder ω}

theorem ClosedLast.move (hp : ClosedLast p) (h : Move p q) : ClosedLast q := by
  cases h with
  | @call c w w' t t' call ht hmakes hd hw =>
    obtain ⟨hdevice, hnone⟩ := hp.held t ht
    refine ⟨fun u hu => ?_, fun hn => by cases hn⟩
    cases hu
    refine ⟨hd.trans hdevice, ?_⟩
    have hother : ¬ call.Closes := by
      cases call with
      | close answer => exact hmakes.elim
      | _ => exact id
    rw [hw, callsOf_append, hdevice, callsOf_single]
    simpa [or_imp, forall_and] using ⟨hnone, hother⟩
  | @release c w w' answer hw =>
    refine ⟨fun u hu => (by cases hu), fun _ => ?_⟩
    change ∃ before answer, callsOf 0 w'.calls = before ++ [.close answer] ∧ _
    rw [hw, callsOf_append]
    cases ht : c.transport with
    | none => simpa [callsOf] using hp.gone ht
    | some t =>
      obtain ⟨hdevice, hnone⟩ := hp.held t ht
      exact ⟨callsOf 0 w.calls, answer, by simp [hdevice], hnone⟩
  -- The other moves change neither the transport nor the record.
  | _ => exact ⟨hp.held, hp.gone⟩

theorem ClosedLast.moves (hp : ClosedLast p) (h : Moves p q) : ClosedLast q := by
  induction h with
  | refl => exact hp
  | tail _ hmove ih => exact ih.move hmove

theorem ClosedLast.last (hp : ClosedLast p) {before after : List Call}
    {answer : Except IoError Unit}
    (h : callsOf 0 p.2.calls = before ++ .close answer :: after) : after = [] := by
  cases ht : p.1.transport with
  | some t =>
    have hopen := (hp.held t ht).2 (.close answer) (by simp [h])
    exact absurd trivial hopen
  | none =>
    obtain ⟨before', answer', hlast, hopen⟩ := hp.gone ht
    refine List.eq_nil_iff_forall_not_mem.mpr fun call hcall => ?_
    -- Were there a call after it, the close would be among those before the last call.
    have hne : after ≠ [] := List.ne_nil_of_mem hcall
    have hfront : before ++ .close answer :: after.dropLast = before' := by
      have := congrArg List.dropLast (h.symm.trans hlast)
      rwa [List.dropLast_append_of_ne_nil (by simp), List.dropLast_cons_of_ne_nil hne,
        List.dropLast_concat] at this
    exact absurd trivial (hopen (.close answer) (by simp [← hfront]))

end Connection

namespace Session

open Connection

variable [Transport ω τ]

/-- To make a connection is one call on its transport. -/
theorem opened_calls {policy : Policy} {settings : ChannelSettings} {transport : τ} {machine : ω}
    {s : Session τ ω} (h : opened policy settings transport machine = some s) :
    s.connection.Established ∧ s.machine.calls = [⟨0, .setMode .forever (.ok ())⟩] := by
  unfold opened at h
  split at h
  · rename_i c u w hx
    cases h
    refine ⟨⟨policy, settings, ⟨0, transport⟩, Recorder.start machine, w, hx⟩, ?_⟩
    have he : (Connection.establish policy settings (⟨0, transport⟩ : Recorded τ) :
          Action (Recorder ω) ChannelError Unit _).Ends ()
        (Recorder.start machine) (fun _ _ w => w.calls = [⟨0, .setMode .forever (.ok ())⟩])
        (fun _ _ _ => True) := by
      exact Connection.establish_ends (fun _ _ => trivial) fun _ =>
        Recorded.call_ends (fun _ _ _ _ hw => hw) (fun _ _ _ _ _ => trivial)
    exact he.done hx
  · cases h

variable [Machine ω]

/-- A close always succeeds, and neither writes nor reads. -/
theorem step_close (s : Session τ ω) :
    s.step .close = match close s.connection s.machine with
      | .done _ c w => some (.ok [], { s with connection := c, machine := w })
      | .refused e _ _ => e.elim
      | .halted _ _ => none := by
  have hperform : (ChannelOp.close.perform : Action (Recorder ω) ChannelError _ Bytes)
      s.connection s.machine = match close s.connection s.machine with
        | .done _ c w => .done [] c w
        | .refused e _ _ => e.elim
        | .halted h w => .halted h w := by
    change (do close.sure; pure []) s.connection s.machine = _
    rw [Action.bind_apply, Action.sure, Action.mapReason]
    cases close s.connection s.machine with
    | done _ c w => rfl
    | refused e _ _ => exact e.elim
    | halted h w => rfl
  simp only [step, hperform]
  cases close s.connection s.machine with
  | done _ c w => simp [ChannelOp.queued, ChannelOp.taken]
  | refused e _ _ => exact e.elim
  | halted h w => rfl

theorem step_closedLast {op : ChannelOp} {s s' : Session τ ω}
    {result : Except ChannelError Bytes} (h : ClosedLast (s.connection, s.machine))
    (hstep : s.step op = some (result, s')) : ClosedLast (s'.connection, s'.machine) := by
  obtain ⟨⟨moved, input, hm, hc, -⟩, -⟩ := step_performs hstep
  have hentered : ClosedLast (op.entered s.connection, s.machine) :=
    ⟨fun t ht => h.held t (op.entered_transport _ ▸ ht),
      fun hn => h.gone (op.entered_transport _ ▸ hn)⟩
  have hmoved := hentered.moves hm
  rw [hc]
  exact ⟨hmoved.held, hmoved.gone⟩

/-- Over any transport, after any operations: an active connection has its transport, a lingering
one is inactive and has it, one without it neither lingers nor has anything to send, and the
descriptor is there just as long as the transport. A close of the transport is the last call on it,
made when the connection gives it back. Whenever the connection is closed, to close it again has the
same result, changes nothing and makes no call. -/
theorem transport_released_once {policy : Policy} {settings : ChannelSettings} {transport : τ}
    {machine : ω} {s₀ s : Session τ ω} (hopen : opened policy settings transport machine = some s₀)
    (ops : List ChannelOp) (hplay : s₀.play ops = some s) :
    (s.connection.core.active = true → s.connection.transport.isSome = true) ∧
    (s.connection.lingering = true →
      s.connection.core.active = false ∧ s.connection.transport.isSome = true) ∧
    (s.connection.transport = none → s.connection.lingering = false ∧
      s.connection.core.output.toList = [] ∧ s.connection.isWritePending = false) ∧
    ((∃ descriptor, s.connection.descriptor = .ok descriptor) ↔
      s.connection.transport.isSome = true) ∧
    (∀ before answer after,
      callsOf 0 s.machine.calls = before ++ .close answer :: after → after = []) ∧
    (s.connection.transport = none ↔ ∃ answer, .close answer ∈ callsOf 0 s.machine.calls) ∧
    ∀ result s', s.step .close = some (result, s') → s'.step .close = some (result, s') := by
  obtain ⟨hmade, hcalls⟩ := opened_calls hopen
  have hpossesses : s.connection.Possesses := by
    refine play_keeps (P := fun s => s.connection.Possesses) (fun op s result s' h hstep => ?_) ops
      s₀ s hmade.possesses hplay
    exact (perform_possesses op _ _ h).leaves (answers_of_step hstep).leaves
  have hlast : ClosedLast (s.connection, s.machine) := by
    refine play_keeps (P := fun s => ClosedLast (s.connection, s.machine))
      (fun op s result s' h hstep => step_closedLast h hstep) ops s₀ s ⟨fun t ht => ?_, fun hn => ?_⟩
      hplay
    · obtain ⟨t', ht', hd⟩ := (opened_fresh hopen).transport
      cases ht.symm.trans ht'
      exact ⟨hd, by simp [hcalls, Call.Closes]⟩
    · have ht := hmade.fresh.2.1
      rw [show s₀.connection.transport = none from hn] at ht
      cases ht
  refine ⟨hpossesses.active, hpossesses.lingering, fun hn => ⟨?_, hpossesses.output hn, ?_⟩, ?_,
    fun _ _ _ => hlast.last, ⟨fun hn => ?_, fun ⟨answer, hclose⟩ => ?_⟩,
    fun result s' hstep => ?_⟩
  · cases hl : s.connection.lingering with
    | false => rfl
    | true =>
      have ht := (hpossesses.lingering hl).2
      rw [hn] at ht
      cases ht
  · simp [isWritePending, ByteRing.isEmpty_iff.mpr (hpossesses.output hn), hn]
  · cases ht : s.connection.transport <;> simp [descriptor, ht]
  · obtain ⟨before, answer, hcalls, -⟩ := hlast.gone hn
    exact ⟨answer, by simp [hcalls]⟩
  · cases ht : s.connection.transport with
    | none => rfl
    | some t => exact absurd trivial ((hlast.held t ht).2 _ hclose)
  · rw [step_close] at hstep
    split at hstep
    · rename_i c w hclose
      cases hstep
      rw [step_close, close_again hclose]
    · rename_i e _ _ _
      exact e.elim
    · cases hstep

/-- A registered connection lingers when it is closed, twice, with output that is blocked; once the
output is sent, its transport is closed. -/
theorem transport_released_once_haltingWire :
    ∃ s₀ s : Session Scenario.Wire Scenario.Bench,
      (opened .plain {} haltingWire {} = some s₀ ∧
        s₀.play [.attach ⟨1, none⟩, .write [10, 11, 12, 13], .close, .close, .onWrite] = some s ∧
        acceptedBy 0 s.machine.calls = [10, 11, 12, 13] ∧ s.connection.transport.isNone = true) ∧
      (s.connection.core.active = true → s.connection.transport.isSome = true) ∧
      (s.connection.lingering = true →
        s.connection.core.active = false ∧ s.connection.transport.isSome = true) ∧
      (s.connection.transport = none → s.connection.lingering = false ∧
        s.connection.core.output.toList = [] ∧ s.connection.isWritePending = false) ∧
      ((∃ descriptor, s.connection.descriptor = .ok descriptor) ↔
        s.connection.transport.isSome = true) ∧
      (∀ before answer after,
        callsOf 0 s.machine.calls = before ++ .close answer :: after → after = []) ∧
      (s.connection.transport = none ↔ ∃ answer, .close answer ∈ callsOf 0 s.machine.calls) ∧
      ∀ result s', s.step .close = some (result, s') → s'.step .close = some (result, s') := by
  have hrun : ((opened .plain {} haltingWire {}).bind
      (play [.attach ⟨1, none⟩, .write [10, 11, 12, 13], .close, .close, .onWrite])).any
      (fun s => acceptedBy 0 s.machine.calls == [10, 11, 12, 13] &&
        s.connection.transport.isNone) = true := by
    decide +kernel
  obtain ⟨s, hs, hp⟩ := (Option.any_eq_true _ _).mp hrun
  obtain ⟨s₀, hopen, hplay⟩ := Option.bind_eq_some_iff.mp hs
  obtain ⟨hsent, hgone⟩ := Bool.and_eq_true_iff.mp hp
  exact ⟨s₀, s, ⟨hopen, hplay, eq_of_beq hsent, hgone⟩, transport_released_once hopen _ hplay⟩

end Session

end ChannelReactor
