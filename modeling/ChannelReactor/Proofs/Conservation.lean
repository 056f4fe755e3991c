import ChannelReactor.Proofs.Sessions
import ChannelReactor.Scenario.Wire

/-! # Conservation of bytes

What was written is what the transport accepted followed by what waits in the output, and what the
transport delivered is what was read followed by what waits in the input. Both are proved for one
move and then for all operations in any order. -/
namespace ChannelReactor

/-- The front of a ring and the rest behind it, for any part of the first run. -/
theorem ByteRing.take_run_append {r : ByteRing} {n : Nat} (h : n ≤ r.run.length) :
    r.run.take n ++ (r.drop n).toList = r.toList := by
  have hn : n ≤ r.places - r.start := by
    rw [ByteRing.run, List.length_take] at h
    omega
  rw [ByteRing.run, List.take_take, Nat.min_eq_left hn, ByteRing.toList_drop,
    List.take_append_drop]

namespace Connection

variable {ω τ : Type}

theorem afterError_output {policy : Policy} {call : TransportCall} {e : IoError}
    {core : ChannelCore} : (afterError policy call e core).output = core.output := by
  unfold afterError
  split <;> rfl

theorem afterError_input {policy : Policy} {call : TransportCall} {e : IoError}
    {core : ChannelCore} : (afterError policy call e core).input = core.input := by
  unfold afterError
  split <;> rfl

/-- A call moves bytes from the front of the output to the transport. -/
theorem afterCall_output {c : Connection τ} {call : Call} (hm : c.Makes call)
    (hw : call.WithinOffer) :
    call.accepted ++ (afterCall c.policy c.core call).output.toList = c.core.output.toList := by
  cases call with
  | send offered answer =>
    obtain ⟨_, rfl⟩ := hm
    match answer with
    | .ok 0 => rfl
    | .ok (n + 1) => exact ByteRing.take_run_append hw
    | .error e => exact congrArg ByteRing.toList afterError_output
  | recv room answer =>
    match answer with
    | .ok [] => rfl
    | .ok (b :: data) => rfl
    | .error e => exact congrArg ByteRing.toList afterError_output
  | flush answer =>
    cases answer with
    | ok _ => rfl
    | error e => exact congrArg ByteRing.toList afterError_output
  | _ => rfl

/-- A call adds the delivered bytes at the back of the input. -/
theorem afterCall_input (policy : Policy) (core : ChannelCore) (call : Call) :
    (afterCall policy core call).input.toList = core.input.toList ++ call.delivered := by
  cases call with
  | send offered answer =>
    cases answer with
    | ok n => cases n <;> exact (List.append_nil _).symm
    | error e => simp [afterCall, afterError_input, Call.delivered]
  | recv room answer =>
    cases answer with
    | ok data =>
      cases data with
      | nil => exact (List.append_nil _).symm
      | cons b data => rfl
    | error e => simp [afterCall, afterError_input, Call.delivered]
  | flush answer =>
    cases answer with
    | ok _ => exact (List.append_nil _).symm
    | error e => simp [afterCall, afterError_input, Call.delivered]
  | _ => exact (List.append_nil _).symm

theorem Move.calls_grow {p q : Connection (Recorded τ) × Recorder ω} (h : Move p q) :
    p.2.calls <+: q.2.calls := by
  cases h with
  | call _ _ _ hw => exact ⟨_, hw.symm⟩
  | release _ hw => exact ⟨_, hw.symm⟩
  | _ => exact List.prefix_rfl

/-- A connection over device 0 that accounts for all that was written to it. -/
structure OutputBalance (written : Bytes) (p : Connection (Recorded τ) × Recorder ω) : Prop where
  device : ∀ t, p.1.transport = some t → t.device = 0
  held : p.1.transport.isSome = true →
    acceptedBy 0 p.2.calls ++ p.1.core.output.toList = written
  accepted : acceptedBy 0 p.2.calls <+: written

theorem OutputBalance.move {written : Bytes} {p q : Connection (Recorded τ) × Recorder ω}
    (hb : OutputBalance written p) (h : Move p q)
    (hw : ∀ r ∈ q.2.calls, r.call.WithinOffer) : OutputBalance written q := by
  cases h with
  | @call c w w' t t' call ht hmakes hd hcalls =>
    have hdevice : t.device = 0 := hb.device t ht
    have hacc : acceptedBy 0 w'.calls = acceptedBy 0 w.calls ++ call.accepted := by
      rw [hcalls, acceptedBy_append, hdevice, acceptedBy_single]
    have hbal : acceptedBy 0 w'.calls ++ (afterCall c.policy c.core call).output.toList =
        written := by
      have hwithin : call.WithinOffer := hw ⟨t.device, call⟩ (by simp [hcalls])
      rw [hacc, List.append_assoc, afterCall_output hmakes hwithin]
      exact hb.held (by simp [ht])
    refine ⟨fun u hu => ?_, fun _ => hbal, ⟨_, hbal⟩⟩
    cases hu
    exact hd.trans hdevice
  | @release c w w' answer hcalls =>
    have hacc : acceptedBy 0 w'.calls = acceptedBy 0 w.calls := by
      rw [hcalls, acceptedBy_append]
      cases ht : c.transport with
      | none => simp [acceptedBy, callsOf]
      | some t =>
        have hdevice : t.device = 0 := hb.device t ht
        simp [hdevice, Call.accepted]
    refine ⟨fun u hu => (by cases hu), fun h => (by cases h), ?_⟩
    rw [hacc]
    exact hb.accepted
  -- The other moves change neither the transport, nor the output, nor the record.
  | _ => exact ⟨hb.device, hb.held, hb.accepted⟩

theorem Moves.calls_grow {p q : Connection (Recorded τ) × Recorder ω} (h : Moves p q) :
    p.2.calls <+: q.2.calls := by
  induction h with
  | refl => exact List.prefix_rfl
  | tail _ hmove ih => exact ih.trans hmove.calls_grow

theorem OutputBalance.moves {written : Bytes} {p q : Connection (Recorded τ) × Recorder ω}
    (hb : OutputBalance written p) (h : Moves p q)
    (hw : ∀ r ∈ q.2.calls, r.call.WithinOffer) : OutputBalance written q := by
  induction h with
  | refl => exact hb
  | tail _ hmove ih =>
    refine (ih fun r hr => hw r ?_).move hmove hw
    exact hmove.calls_grow.subset hr

/-- A connection over device 0 that accounts for all that the device delivered. -/
structure InputBalance (consumed : Bytes) (p : Connection (Recorded τ) × Recorder ω) : Prop where
  device : ∀ t, p.1.transport = some t → t.device = 0
  kept : consumed ++ p.1.core.input.toList = deliveredBy 0 p.2.calls

theorem InputBalance.move {consumed : Bytes} {p q : Connection (Recorded τ) × Recorder ω}
    (hb : InputBalance consumed p) (h : Move p q) : InputBalance consumed q := by
  cases h with
  | @call c w w' t t' call ht _ hd hcalls =>
    have hdevice : t.device = 0 := hb.device t ht
    refine ⟨fun u hu => ?_, ?_⟩
    · cases hu
      exact hd.trans hdevice
    · rw [hcalls, deliveredBy_append, hdevice, deliveredBy_single, ← hb.kept, List.append_assoc,
        afterCall_input]
  | @release c w w' answer hcalls =>
    refine ⟨fun u hu => (by cases hu), ?_⟩
    change consumed ++ c.core.input.toList = _
    rw [hcalls, deliveredBy_append, hb.kept]
    cases ht : c.transport with
    | none => simp [deliveredBy, callsOf]
    | some t => simp [hb.device t ht, Call.delivered]
  | _ => exact ⟨hb.device, hb.kept⟩

theorem InputBalance.moves {consumed : Bytes} {p q : Connection (Recorded τ) × Recorder ω}
    (hb : InputBalance consumed p) (h : Moves p q) : InputBalance consumed q := by
  induction h with
  | refl => exact hb
  | tail _ hmove ih => exact ih.move hmove

end Connection

namespace Session

variable {ω τ : Type} [Machine ω] [Transport ω τ]

open Connection

theorem step_calls_grow {op : ChannelOp} {s s' : Session τ ω}
    {result : Except ChannelError Bytes} (h : s.step op = some (result, s')) :
    s.machine.calls <+: s'.machine.calls := by
  obtain ⟨⟨moved, input, hm, _⟩, _⟩ := step_performs h
  exact hm.calls_grow

theorem step_output {op : ChannelOp} {s s' : Session τ ω} {result : Except ChannelError Bytes}
    (hb : OutputBalance s.written (s.connection, s.machine)) (h : s.step op = some (result, s'))
    (hw : ∀ r ∈ s'.machine.calls, r.call.WithinOffer) :
    OutputBalance s'.written (s'.connection, s'.machine) := by
  obtain ⟨⟨moved, input, hm, hc, _⟩, hwritten, _⟩ := step_performs h
  have hent : OutputBalance s'.written (op.entered s.connection, s.machine) := by
    have ht := op.entered_transport s.connection
    rw [hwritten]
    refine ⟨fun t h => hb.device t (ht ▸ h), fun h => ?_, ?_⟩
    · rw [ChannelOp.entered_output, ← List.append_assoc]
      exact congrArg (· ++ _) (hb.held (ht ▸ h))
    · exact hb.accepted.trans (List.prefix_append _ _)
  have hmoved := hent.moves hm hw
  rw [hc]
  exact ⟨hmoved.device, hmoved.held, hmoved.accepted⟩

/-- Over any transport that accepts no more than it is offered, after any operations: while the
connection has its transport, what the transport accepted and then the output is what was written;
once the transport is released, what it accepted is the front of that. -/
theorem output_conserved {policy : Policy} {settings : ChannelSettings} {transport : τ}
    {machine : ω} {s₀ s : Session τ ω} (hopen : opened policy settings transport machine = some s₀)
    (ops : List ChannelOp) (hplay : s₀.play ops = some s)
    (hw : ∀ r ∈ s.machine.calls, r.call.WithinOffer) :
    (s.connection.transport.isSome = true →
      acceptedBy 0 s.machine.calls ++ s.connection.core.output.toList = s.written) ∧
    (s.connection.transport = none → acceptedBy 0 s.machine.calls <+: s.written) := by
  have hf := opened_fresh hopen
  have hstart : OutputBalance s₀.written (s₀.connection, s₀.machine) := by
    obtain ⟨t, ht, hd⟩ := hf.transport
    refine ⟨fun u hu => ?_, fun _ => ?_, ?_⟩
    · cases ht.symm.trans hu
      exact hd
    · rw [hf.written, hf.accepted, hf.output, List.nil_append]
    · rw [hf.accepted]
      exact List.nil_prefix
  have hall := play_keeps
    (P := fun s => (∀ r ∈ s.machine.calls, r.call.WithinOffer) →
      OutputBalance s.written (s.connection, s.machine))
    (fun op s result s' hb hstep hw' =>
      step_output (hb fun r hr => hw' r ((step_calls_grow hstep).subset hr)) hstep hw')
    ops s₀ s (fun _ => hstart) hplay hw
  exact ⟨hall.held, fun _ => hall.accepted⟩

/-- A wire that takes two bytes, is interrupted, takes one more and is full for once; what it
delivers comes in two parts with an interruption between them. -/
def haltingWire : Scenario.Wire where
  name := "halting"
  script.send := [.accepts 2, .fails (.bare .interrupted), .accepts 1, .fails (.bare .wouldBlock)]
  script.recv := [{ act := .data [1, 2, 3] }, { act := .fails (.bare .interrupted) },
    { act := .data [4] }, { act := .ended }]

/-- The output of a write that a wire takes in part stays where it is. -/
theorem output_conserved_haltingWire :
    ∃ s₀ s : Session Scenario.Wire Scenario.Bench,
      opened .plain { readChunk := 2 } haltingWire {} = some s₀ ∧
      s₀.play [.setMode .nonblocking, .write [10, 11], .write [12, 13], .onWrite] = some s ∧
      s.connection.core.output.toList = [13] ∧
      (s.connection.transport.isSome = true →
        acceptedBy 0 s.machine.calls ++ s.connection.core.output.toList = s.written) ∧
      (s.connection.transport = none → acceptedBy 0 s.machine.calls <+: s.written) := by
  have hrun : ((opened .plain { readChunk := 2 } haltingWire {}).bind
      (play [.setMode .nonblocking, .write [10, 11], .write [12, 13], .onWrite])).any
      (fun s => s.connection.core.output.toList == [13] &&
        s.machine.calls.all fun r => decide r.call.WithinOffer) = true := by
    decide +kernel
  obtain ⟨s, hs, hp⟩ := (Option.any_eq_true _ _).mp hrun
  obtain ⟨s₀, hopen, hplay⟩ := Option.bind_eq_some_iff.mp hs
  obtain ⟨hout, hall⟩ := Bool.and_eq_true_iff.mp hp
  exact ⟨s₀, s, hopen, hplay, eq_of_beq hout,
    output_conserved hopen _ hplay (by simpa [List.all_eq_true] using hall)⟩

theorem step_input {op : ChannelOp} {s s' : Session τ ω} {result : Except ChannelError Bytes}
    (hb : InputBalance s.consumed (s.connection, s.machine)) (h : s.step op = some (result, s')) :
    InputBalance s'.consumed (s'.connection, s'.machine) := by
  obtain ⟨⟨moved, input, hm, hc, htaken, _⟩, _, hconsumed⟩ := step_performs h
  have hent : InputBalance s.consumed (op.entered s.connection, s.machine) := by
    cases op with
    | write data =>
      simp only [ChannelOp.entered]
      split <;> exact ⟨hb.device, hb.kept⟩
    | _ => exact hb
  have hmoved := hent.moves hm
  rw [hc, hconsumed]
  refine ⟨hmoved.device, ?_⟩
  change s.consumed ++ op.taken result ++ input.toList = _
  rw [List.append_assoc, htaken]
  exact hmoved.kept

theorem play_input {policy : Policy} {settings : ChannelSettings} {transport : τ} {machine : ω}
    {s₀ s : Session τ ω} (hopen : opened policy settings transport machine = some s₀)
    (ops : List ChannelOp) (hplay : s₀.play ops = some s) :
    InputBalance s.consumed (s.connection, s.machine) := by
  have hf := opened_fresh hopen
  refine play_keeps (P := fun s => InputBalance s.consumed (s.connection, s.machine))
    (fun op s result s' hb hstep => step_input hb hstep) ops s₀ s ?_ hplay
  obtain ⟨t, ht, hd⟩ := hf.transport
  refine ⟨fun u hu => ?_, ?_⟩
  · cases ht.symm.trans hu
    exact hd
  · rw [hf.consumed, hf.input, hf.delivered]
    rfl

/-- Over any transport, after any operations, what was read and then the input is what the
transport delivered. The next operation, however it ends, leaves in the input what was there and
what was delivered meanwhile, without what it took out: nothing unless it is a read that succeeds
and does not peek. What a peek shows is the front of the input. -/
theorem input_conserved {policy : Policy} {settings : ChannelSettings} {transport : τ} {machine : ω}
    {s₀ s : Session τ ω} (hopen : opened policy settings transport machine = some s₀)
    (ops : List ChannelOp) (hplay : s₀.play ops = some s) :
    s.consumed ++ s.connection.core.input.toList = deliveredBy 0 s.machine.calls ∧
    ∀ op result s', s.step op = some (result, s') →
      (∃ calls, s'.machine.calls = s.machine.calls ++ calls ∧
        op.taken result ++ s'.connection.core.input.toList =
          s.connection.core.input.toList ++ deliveredBy 0 calls) ∧
      op.Shows result s'.connection.core.input.toList := by
  have hb := play_input hopen ops hplay
  refine ⟨hb.kept, fun op result s' hstep => ?_⟩
  obtain ⟨⟨moved, input, _, hc, _, hshows⟩, _, hconsumed⟩ := step_performs hstep
  obtain ⟨calls, hcalls⟩ := step_calls_grow hstep
  have hkept := (step_input hb hstep).kept
  refine ⟨⟨calls, hcalls.symm, ?_⟩, by rw [hc]; exact hshows⟩
  change s'.consumed ++ s'.connection.core.input.toList = deliveredBy 0 s'.machine.calls at hkept
  rw [hconsumed, ← hcalls, deliveredBy_append, ← hb.kept, List.append_assoc,
    List.append_assoc] at hkept
  exact List.append_cancel_left hkept

/-- A peek and a read that the end of the input cuts short both leave what they do not take. -/
theorem input_conserved_haltingWire :
    ∃ s₀ s : Session Scenario.Wire Scenario.Bench,
      opened .secure { readChunk := 2 } haltingWire {} = some s₀ ∧
      s₀.play [.read 1 { peek := true }, .read 2 {}, .read 3 {}, .close] = some s ∧
      s.connection.core.input.toList = [3, 4] ∧
      (s.consumed ++ s.connection.core.input.toList = deliveredBy 0 s.machine.calls ∧
        ∀ op result s', s.step op = some (result, s') →
          (∃ calls, s'.machine.calls = s.machine.calls ++ calls ∧
            op.taken result ++ s'.connection.core.input.toList =
              s.connection.core.input.toList ++ deliveredBy 0 calls) ∧
          op.Shows result s'.connection.core.input.toList) := by
  have hrun : ((opened .secure { readChunk := 2 } haltingWire {}).bind
      (play [.read 1 { peek := true }, .read 2 {}, .read 3 {}, .close])).any
      (fun s => s.connection.core.input.toList == [3, 4]) = true := by
    decide +kernel
  obtain ⟨s, hs, hp⟩ := (Option.any_eq_true _ _).mp hrun
  obtain ⟨s₀, hopen, hplay⟩ := Option.bind_eq_some_iff.mp hs
  exact ⟨s₀, s, hopen, hplay, eq_of_beq hp, input_conserved hopen _ hplay⟩

end Session

end ChannelReactor
