import ChannelReactor.Proofs.Conservation

/-! # Inactive connections

A connection that came to its end stays there, whatever is done to it: nothing is received any more,
nothing is queued, and reads share out the input that was left (`inactive_final`). What such a read
gives is a matter of the bytes that are left and of nothing else (`ReadOptions.serve`). -/
namespace ChannelReactor

variable {ω τ : Type}

namespace ReadOptions

/-- The result of a read of `count` bytes when no more bytes will come than these. -/
def serve (opts : ReadOptions) (count : Nat) (rest : Bytes) : Except ChannelError Bytes :=
  if count ≤ rest.length then .ok (rest.take count)
  else if opts.lessAllowed && !rest.isEmpty then .ok rest
  else .error .closed

/-- What is left of the bytes after such a read: a read that succeeds and does not peek takes away
what it returns. -/
def leave (opts : ReadOptions) (count : Nat) (rest : Bytes) : Bytes :=
  rest.drop ((ChannelOp.read count opts).taken (opts.serve count rest)).length

theorem serve_error {opts : ReadOptions} {count : Nat} {rest : Bytes} {e : ChannelError}
    (h : opts.serve count rest = .error e) : e = .closed := by
  unfold serve at h
  split at h
  · cases h
  · split at h
    · cases h
    · exact (Except.error.inj h).symm

end ReadOptions

/-- With enough input, or when no more will come, the input alone decides what a read takes. -/
theorem ChannelCore.takeInput_eq_serve {c : ChannelCore} {count : Nat} {opts : ReadOptions}
    (h : count ≤ c.input.size ∨ c.active = false) :
    c.takeInput count opts = (opts.serve count c.input.toList).map fun data =>
      (data, { c with input := ⟨opts.leave count c.input.toList⟩ }) := by
  have hdrain {n : Nat} (hserve : opts.serve count c.input.toList = .ok (c.input.toList.take n)) :
      Except.ok (c.drainInput n opts.peek) = (opts.serve count c.input.toList).map fun data =>
        (data, { c with input := ⟨opts.leave count c.input.toList⟩ }) := by
    unfold drainInput ReadOptions.leave
    rw [hserve, ByteQueue.peek_eq]
    cases hp : opts.peek with
    | true => simp [Except.map, ChannelOp.taken, hp]
    | false => simp [Except.map, ChannelOp.taken, hp, ByteQueue.drop]
  unfold takeInput
  by_cases hcount : count ≤ c.input.size
  · rw [if_pos hcount]
    exact hdrain (if_pos hcount)
  · have hinactive : c.active = false := h.resolve_left hcount
    have hserve : opts.serve count c.input.toList =
        if opts.lessAllowed && !c.input.isEmpty then .ok c.input.toList else .error .closed :=
      if_neg hcount
    rw [if_neg hcount, if_neg (by simp [hinactive])]
    split
    · rename_i hless
      exact hdrain (by rw [hserve, if_pos hless, ByteQueue.size, List.take_length])
    · rename_i hless
      rw [hserve, if_neg hless]
      rfl

namespace Connection

/-- The connection with these bytes as its input. -/
def withInput (input : Bytes) (c : Connection τ) : Connection τ :=
  c.mapCore fun core => { core with input := ⟨input⟩ }

theorem takeInput_serves {c : Connection τ} {w : ω} {count : Nat} {opts : ReadOptions}
    (h : count ≤ c.core.input.size ∨ c.core.active = false) :
    (takeInput count opts).Answers c w (opts.serve count c.core.input.toList)
      (c.withInput (opts.leave count c.core.input.toList)) w := by
  unfold Action.Answers
  rw [takeInput, Action.bind_apply, Action.subject_apply]
  dsimp only
  rw [ChannelCore.takeInput_eq_serve h]
  cases hserve : opts.serve count c.core.input.toList with
  | ok data => rfl
  | error e =>
    have hleave : opts.leave count c.core.input.toList = c.core.input.toList := by
      rw [ReadOptions.leave, hserve]
      rfl
    rw [hleave]
    rfl

/-- A read waits only for bytes that it does not have, in a blocking mode, while they may come. -/
theorem read_eq_takeInput [Machine ω] [Transport ω τ] {c : Connection τ} {w : ω} {count : Nat}
    {opts : ReadOptions} (h : c.core.mode.isBlocking = false ∨ c.core.active = false ∨
      count ≤ c.core.input.size) : read count opts c w = takeInput count opts c w := by
  have hready : (c.core.mode.isBlocking && c.core.active &&
      decide (c.core.input.size < count)) = false := by
    rcases h with h | h | h <;> simp [h]
  rw [read, Action.bind_apply, Action.subject_apply]
  dsimp only
  rw [if_neg (by simp [hready])]

end Connection

/-- The call is one for input. -/
def Call.Receives : Call → Prop
  | recv .. => True
  | _ => False

namespace Connection

/-- The connection is inactive, has this input, and received nothing since these calls. -/
structure Quiet (input : Bytes) (since : List Record) (p : Connection (Recorded τ) × Recorder ω) :
    Prop where
  inactive : p.1.core.active = false
  input : p.1.core.input.toList = input
  calls : ∃ calls, p.2.calls = since ++ calls ∧ ∀ r ∈ calls, ¬ r.call.Receives

variable {input : Bytes} {since : List Record} {p q : Connection (Recorded τ) × Recorder ω}

theorem Quiet.move (hq : Quiet input since p) (h : Move p q) : Quiet input since q := by
  obtain ⟨hinactive, hinput, calls, hcalls, hnone⟩ := hq
  cases h with
  | @call c w w' t t' call _ hmakes _ hw =>
    have hother : ¬ call.Receives := by
      cases call with
      | recv room answer => exact absurd (hinactive.symm.trans hmakes.1) (by decide)
      | _ => exact id
    refine ⟨afterCall_inactive hinactive, ?_, calls ++ [⟨t.device, call⟩], ?_, ?_⟩
    · have hdelivered : call.delivered = [] := by
        cases call with
        | recv room answer => exact absurd trivial hother
        | _ => rfl
      rw [afterCall_input, hdelivered, List.append_nil, hinput]
    · rw [hw, hcalls, List.append_assoc]
    · simpa [or_imp, forall_and] using ⟨hnone, hother⟩
  | @release c w w' answer hw =>
    refine ⟨hinactive, hinput, calls ++ _, by rw [hw, hcalls, List.append_assoc], ?_⟩
    intro r hr
    obtain hr | hr := List.mem_append.mp hr
    · exact hnone r hr
    · obtain ⟨t, -, rfl⟩ := by simpa using hr
      exact id
  | deactivate => exact ⟨rfl, hinput, calls, hcalls, hnone⟩
  | linger _ _ => exact ⟨hinactive, hinput, calls, hcalls, hnone⟩
  | retune _ _ => exact ⟨hinactive, hinput, calls, hcalls, hnone⟩

theorem Quiet.moves (hq : Quiet input since p) (h : Moves p q) : Quiet input since q := by
  induction h with
  | refl => exact hq
  | tail _ hmove ih => exact ih.move hmove

end Connection

namespace Session

open Connection

variable [Machine ω] [Transport ω τ] {s s' : Session τ ω}

/-- A session whose connection is inactive is here after some operations: what was taken out in
between is what is missing from the input, and nothing was received. -/
structure Ended (s s' : Session τ ω) : Prop where
  inactive : s'.connection.core.active = false
  calls : ∃ calls, s'.machine.calls = s.machine.calls ++ calls ∧ ∀ r ∈ calls, ¬ r.call.Receives
  taken : ∃ taken, s'.consumed = s.consumed ++ taken ∧
    taken ++ s'.connection.core.input.toList = s.connection.core.input.toList

theorem Ended.step {s₀ : Session τ ω} {op : ChannelOp} {result : Except ChannelError Bytes}
    (he : s₀.Ended s) (h : s.step op = some (result, s')) : s₀.Ended s' := by
  obtain ⟨hinactive, ⟨calls, hcalls, hnone⟩, taken, hconsumed, htaken⟩ := he
  obtain ⟨⟨moved, input, hm, hc, hinput, -⟩, -, hconsumed'⟩ := step_performs h
  have hentered : op.entered s.connection = s.connection := by
    cases op with
    | write data => exact if_neg (by simp [hinactive])
    | _ => rfl
  rw [hentered] at hm
  have hq : Quiet s.connection.core.input.toList s₀.machine.calls (s.connection, s.machine) :=
    ⟨hinactive, rfl, calls, hcalls, hnone⟩
  have hmoved := hq.moves hm
  refine ⟨by rw [hc]; exact hmoved.inactive, hmoved.calls, taken ++ op.taken result, ?_, ?_⟩
  · rw [hconsumed', hconsumed, List.append_assoc]
  · have hleft : op.taken result ++ s'.connection.core.input.toList =
        s.connection.core.input.toList := by
      rw [hc]
      exact hinput.trans hmoved.input
    rw [List.append_assoc, hleft, htaken]

/-- After its end a connection never becomes active again, nothing is received on it, what is read
from it and then its input is the input that it ended with, and every write is refused without a
change. A read goes by the input alone: it has the first `count` bytes, or all of them when fewer
will do and there are any, or is told that the connection is closed; what it does not take stays. -/
theorem inactive_final (hinactive : s.connection.core.active = false) (ops : List ChannelOp)
    (hplay : s.play ops = some s') :
    s'.connection.core.active = false ∧
    (∃ calls, s'.machine.calls = s.machine.calls ++ calls ∧ ∀ r ∈ calls, ¬ r.call.Receives) ∧
    (∃ taken, s'.consumed = s.consumed ++ taken ∧
      taken ++ s'.connection.core.input.toList = s.connection.core.input.toList) ∧
    (∀ data, s'.step (.write data) = some (.error .closed, s')) ∧
    ∀ count opts,
      let rest := s'.connection.core.input.toList
      s'.step (.read count opts) = some (opts.serve count rest,
        { s' with
          connection := s'.connection.withInput (opts.leave count rest)
          consumed :=
            s'.consumed ++ (ChannelOp.read count opts).taken (opts.serve count rest) }) ∧
      opts.serve count rest ≠ .error .dataNotAvailable := by
  have he : s.Ended s' := by
    refine play_keeps (P := s.Ended) (fun op s₁ result s₂ he hstep => he.step hstep) ops s s' ?_
      hplay
    exact ⟨hinactive, ⟨[], by simp, by simp⟩, [], by simp, by simp⟩
  refine ⟨he.inactive, he.calls, he.taken, fun data => ?_, fun count opts => ⟨?_, fun h => ?_⟩⟩
  · have hwrite : (ChannelOp.write data).perform.Answers s'.connection s'.machine (.error .closed)
        s'.connection s'.machine := by
      change (do Connection.write data; pure []) s'.connection s'.machine = _
      rw [Action.bind_apply, Connection.write_inactive he.inactive]
    rw [step_of_answers hwrite]
    simp [ChannelOp.queued, ChannelOp.taken, he.inactive]
  · have hread : (ChannelOp.read count opts).perform.Answers s'.connection s'.machine
        (opts.serve count s'.connection.core.input.toList)
        (s'.connection.withInput (opts.leave count s'.connection.core.input.toList))
        s'.machine :=
      (takeInput_serves (.inr he.inactive)).of_eq (read_eq_takeInput (.inr (.inl he.inactive)))
    rw [step_of_answers hread]
    simp [ChannelOp.queued]
  · cases ReadOptions.serve_error h

/-- The end comes while a read waits for more bytes than there are. A part of them is read
afterwards, and the rest is what the last conjunct shares out. -/
theorem inactive_final_haltingWire :
    ∃ s s' : Session Scenario.Wire Scenario.Bench,
      (s.connection.core.active = false ∧
        s.play [.read 1 {}, .write [9], .onRead, .read 2 { peek := true }, .close] = some s' ∧
        s'.connection.core.input.toList = [2, 3, 4]) ∧
      s'.connection.core.active = false ∧
      (∃ calls, s'.machine.calls = s.machine.calls ++ calls ∧ ∀ r ∈ calls, ¬ r.call.Receives) ∧
      (∃ taken, s'.consumed = s.consumed ++ taken ∧
        taken ++ s'.connection.core.input.toList = s.connection.core.input.toList) ∧
      (∀ data, s'.step (.write data) = some (.error .closed, s')) ∧
      ∀ count opts,
        let rest := s'.connection.core.input.toList
        s'.step (.read count opts) = some (opts.serve count rest,
          { s' with
            connection := s'.connection.withInput (opts.leave count rest)
            consumed :=
              s'.consumed ++ (ChannelOp.read count opts).taken (opts.serve count rest) }) ∧
        opts.serve count rest ≠ .error .dataNotAvailable := by
  have hrun : ((opened .secure { readChunk := 2 } haltingWire {}).bind (play [.read 5 {}])).any
      (fun s => !s.connection.core.active &&
        (s.play [.read 1 {}, .write [9], .onRead, .read 2 { peek := true }, .close]).any
          fun s' => s'.connection.core.input.toList == [2, 3, 4]) = true := by
    decide +kernel
  obtain ⟨s, -, hs⟩ := (Option.any_eq_true _ _).mp hrun
  obtain ⟨hinactive, hplayed⟩ := Bool.and_eq_true_iff.mp hs
  obtain ⟨s', hplay, hrest⟩ := (Option.any_eq_true _ _).mp hplayed
  have hended : s.connection.core.active = false := by simpa using hinactive
  exact ⟨s, s', ⟨hended, hplay, eq_of_beq hrest⟩, inactive_final hended _ hplay⟩

end Session

end ChannelReactor
