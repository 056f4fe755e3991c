import ChannelReactor.Proofs.ConnectionMoves
import ChannelReactor.Proofs.Retuning

/-! # Sessions

A session is the life of one connection from its making on: the operations on it in any order, over
any transport. What was written to it and read from it is kept beside it, what its transport did is
in the record. -/
namespace ChannelReactor

inductive ChannelOp where
  | write (data : Bytes)
  | read (count : Nat) (opts : ReadOptions)
  | onRead
  | onWrite
  | setMode (mode : WaitMode)
  | attach (token : Token)
  | detach
  | close

namespace ChannelOp

variable {ω χ : Type} [ChannelOps ω χ]

/-- The operation itself; only a read has a result. -/
def perform : ChannelOp → Action ω ChannelError χ Bytes
  | write data => do
    ChannelOps.write data
    pure []
  | read count opts => ChannelOps.read count opts
  | onRead => do
    ChannelOps.onRead
    pure []
  | onWrite => do
    ChannelOps.onWrite
    pure []
  | setMode mode => do
    ChannelOps.setMode mode
    pure []
  | attach token => do
    ChannelOps.attach token
    pure []
  | detach => do
    ChannelOps.detach
    pure []
  | close => do
    ChannelOps.close.sure
    pure []

/-- What an operation on a channel with this core has to send: the data of a write, if the channel
is active. -/
def queued (core : ChannelCore) : ChannelOp → Bytes
  | write data => if core.active then data else []
  | _ => []

/-- What an operation with this result takes out for good: the result of a read that does not
peek. -/
def taken (result : Except ChannelError Bytes) : ChannelOp → Bytes
  | read _ opts =>
    match result with
    | .ok data => if opts.peek then [] else data
    | .error _ => []
  | _ => []

/-- A result of a peek is the front of what is there. -/
def Shows (result : Except ChannelError Bytes) (input : Bytes) : ChannelOp → Prop
  | read _ opts => ∀ data, result = .ok data → opts.peek = true → data <+: input
  | _ => True

end ChannelOp

structure Session (τ ω : Type) where
  connection : Connection (Recorded τ)
  machine : Recorder ω
  /-- The data of all writes to the active channel. -/
  written : Bytes := []
  /-- The results of all reads that did not peek. -/
  consumed : Bytes := []

namespace ChannelCore

/-- What a read of the input takes, and what it leaves. -/
theorem takeInput_ok {c core : ChannelCore} {count : Nat} {opts : ReadOptions} {data : Bytes}
    (h : c.takeInput count opts = .ok (data, core)) :
    ∃ input, core = { c with input } ∧
      (if opts.peek then [] else data) ++ input.toList = c.input.toList ∧
      (opts.peek = true → data <+: input.toList) := by
  have hdrain : ∀ n, c.drainInput n opts.peek = (data, core) → ∃ input, core = { c with input } ∧
      (if opts.peek then [] else data) ++ input.toList = c.input.toList ∧
      (opts.peek = true → data <+: input.toList) := by
    intro n hn
    simp only [drainInput, Prod.mk.injEq] at hn
    obtain ⟨rfl, rfl⟩ := hn
    cases hp : opts.peek with
    | true => exact ⟨c.input, by simp, by simp, fun _ => List.take_prefix n _⟩
    | false => exact ⟨c.input.drop n, by simp, List.take_append_drop n _, fun hf => by cases hf⟩
  unfold takeInput at h
  split at h
  · exact hdrain _ (Except.ok.inj h)
  · split at h
    · split at h
      · exact hdrain _ (Except.ok.inj h)
      · cases h
    · split at h
      · exact hdrain _ (Except.ok.inj h)
      · cases h

end ChannelCore

namespace ChannelOp

variable {ω τ : Type}

/-- The connection with what the operation has to send in its output. -/
def entered (c : Connection (Recorded τ)) : ChannelOp → Connection (Recorded τ)
  | write data => if c.core.active then c.mapCore (·.enqueue data) else c
  | _ => c

/-- How an operation with this result brings a connection and its machine to others: it queues what
it has to send, moves, and takes out what it reads. -/
def Performs (op : ChannelOp) (result : Except ChannelError Bytes) (c : Connection (Recorded τ))
    (w : Recorder ω) (c' : Connection (Recorded τ)) (w' : Recorder ω) : Prop :=
  ∃ (moved : Connection (Recorded τ)) (input : ByteQueue),
    Connection.Moves (op.entered c, w) (moved, w') ∧
    c' = moved.mapCore (fun core => { core with input }) ∧
    op.taken result ++ input.toList = moved.core.input.toList ∧
    op.Shows result input.toList

theorem entered_transport (op : ChannelOp) (c : Connection (Recorded τ)) :
    (op.entered c).transport = c.transport := by
  cases op with
  | write data =>
    simp only [entered]
    split <;> rfl
  | _ => rfl

theorem entered_output (op : ChannelOp) (c : Connection (Recorded τ)) :
    (op.entered c).core.output.toList = c.core.output.toList ++ op.queued c.core := by
  cases op with
  | write data =>
    simp only [entered, queued]
    split <;> simp [Connection.mapCore, ChannelCore.enqueue]
  | _ => simp [entered, queued]

variable {c c' : Connection (Recorded τ)} {w w' : Recorder ω}

theorem Performs.of_moves {op : ChannelOp} {result : Except ChannelError Bytes}
    (hm : Connection.Moves (op.entered c, w) (c', w')) (ht : op.taken result = [])
    (hs : op.Shows result c'.core.input.toList) : op.Performs result c w c' w' :=
  ⟨c', c'.core.input, hm, rfl, by rw [ht, List.nil_append], hs⟩

/-- An operation without a result that only moves. -/
theorem ends_of_keeps {op : ChannelOp}
    {x : Action (Recorder ω) ChannelError (Connection (Recorded τ)) Unit}
    (hx : Action.Keeps (fun c' w' => Connection.Moves (c, w) (c', w')) x)
    (he : op.entered c = c) (ht : ∀ result, op.taken result = [])
    (hs : ∀ result input, op.Shows result input) :
    (do x; pure []).Ends c w (fun data c' w' => op.Performs (.ok data) c w c' w')
      (fun e c' w' => op.Performs (.error e) c w c' w') := by
  rw [Action.ends_bind]
  exact (hx c w .refl).mono
    (fun _ _ _ hm => .of_moves (he.symm ▸ hm) (ht _) (hs _ _))
    (fun _ _ _ hm => .of_moves (he.symm ▸ hm) (ht _) (hs _ _))

variable [Machine ω] [Transport ω τ]

theorem retune_moves {o : Connection (Recorded τ) × Recorder ω} (f : ChannelCore → ChannelCore)
    (c : Connection (Recorded τ)) (w : Recorder ω) (hf : ChannelCore.Retunes f)
    (ho : Connection.Moves o (c, w)) : Connection.Moves o (ChannelOps.mapCore f c, w) := by
  obtain ⟨mode, registration, hcore⟩ := hf c.core
  have hm := ho.tail (.retune mode registration)
  rwa [Connection.mapCore, ← hcore] at hm

theorem write_ends {data : Bytes} :
    (perform (write data)).Ends c w (fun r c' w' => (write data).Performs (.ok r) c w c' w')
      (fun e c' w' => (write data).Performs (.error e) c w c' w') := by
  have henqueued (ha : c.core.active = true) :
      (write data).entered c = c.mapCore (·.enqueue data) := if_pos ha
  change (do Connection.write data; pure []).Ends c w _ _
  rw [Action.ends_bind]
  refine Connection.write_exchanged.mono (fun _ c' w' ⟨ha, hx⟩ => ?_) (fun e c' w' hx => ?_)
  · exact .of_moves (henqueued ha ▸ hx.moves) rfl trivial
  · obtain ⟨ha, hx⟩ | ⟨hi, -, rfl, rfl⟩ := hx
    · exact .of_moves (henqueued ha ▸ hx.moves) rfl trivial
    · have he : (write data).entered c' = c' := if_neg (by simp [hi])
      exact .of_moves (he.symm ▸ .refl) rfl trivial

theorem read_ends {count : Nat} {opts : ReadOptions} :
    (perform (read count opts)).Ends c w
      (fun data c' w' => (read count opts).Performs (.ok data) c w c' w')
      (fun e c' w' => (read count opts).Performs (.error e) c w c' w') := by
  change (Connection.read count opts).Ends c w _ _
  refine Connection.read_exchanged.mono (fun data c' w' hx => ?_) (fun e c' w' hx => ?_)
  · obtain ⟨c₁, core, hx, hcore, rfl⟩ := hx
    obtain ⟨input, rfl, htaken, hshown⟩ := ChannelCore.takeInput_ok hcore
    refine ⟨c₁, input, hx.1.moves, rfl, htaken, fun shown hs hp => ?_⟩
    cases hs
    exact hshown hp
  · exact .of_moves hx.1.moves rfl (fun shown hs => by cases hs)

theorem perform_ends (op : ChannelOp) :
    op.perform.Ends c w (fun data c' w' => op.Performs (.ok data) c w c' w')
      (fun e c' w' => op.Performs (.error e) c w c' w') := by
  cases op with
  | write data => exact write_ends
  | read count opts => exact read_ends
  | onRead => exact ends_of_keeps Connection.onRead_keeps rfl (fun _ => rfl) fun _ _ => trivial
  | onWrite => exact ends_of_keeps Connection.onWrite_keeps rfl (fun _ => rfl) fun _ _ => trivial
  | setMode mode =>
    exact ends_of_keeps
      (ChannelOps.setMode_keeps (fun _ => Connection.applyMode_keeps) retune_moves)
      rfl (fun _ => rfl) fun _ _ => trivial
  | attach token =>
    exact ends_of_keeps (ChannelOps.attach_keeps (fun _ => Connection.applyMode_keeps) retune_moves)
      rfl (fun _ => rfl) fun _ _ => trivial
  | detach =>
    exact ends_of_keeps (ChannelOps.detach_keeps (fun _ => Connection.applyMode_keeps) retune_moves)
      rfl (fun _ => rfl) fun _ _ => trivial
  | close =>
    exact ends_of_keeps Connection.close_keeps.sure rfl (fun _ => rfl) fun _ _ => trivial

end ChannelOp

namespace Session

variable {ω τ : Type} [Transport ω τ]

/-- The session that begins when a connection is made over a transport. -/
def opened (policy : Policy) (settings : ChannelSettings) (transport : τ) (machine : ω) :
    Option (Session τ ω) :=
  match (Connection.establish policy settings ⟨0, transport⟩ : Action _ _ Unit _) ()
      (Recorder.start machine) with
  | .done connection _ machine => some { connection, machine }
  | _ => none

/-- What a session has at its beginning. -/
structure Fresh (s : Session τ ω) : Prop where
  written : s.written = []
  consumed : s.consumed = []
  input : s.connection.core.input.toList = []
  output : s.connection.core.output.toList = []
  transport : ∃ t, s.connection.transport = some t ∧ t.device = 0
  accepted : acceptedBy 0 s.machine.calls = []
  delivered : deliveredBy 0 s.machine.calls = []

theorem opened_fresh {policy : Policy} {settings : ChannelSettings} {transport : τ} {machine : ω}
    {s : Session τ ω} (h : opened policy settings transport machine = some s) : s.Fresh := by
  have he : (Connection.establish policy settings ⟨0, transport⟩ : Action _ _ Unit _).Ends ()
      (Recorder.start machine) (fun c _ w => Fresh { connection := c, machine := w })
      (fun _ _ _ => True) := by
    refine Connection.establish_ends (fun _ _ => trivial) fun _ => ?_
    refine Recorded.call_ends (fun _ t' w' hd hw => ?_) (fun _ _ _ _ _ => trivial)
    refine ⟨rfl, rfl, rfl, rfl, ⟨t', rfl, hd⟩, ?_, ?_⟩
    all_goals rw [hw]; rfl
  unfold opened at h
  split at h
  · rename_i c u w hx
    cases h
    exact he.done hx
  · cases h

variable [Machine ω]

/-- The session after an operation, with its result; none when the operation halts. -/
def step (op : ChannelOp) (s : Session τ ω) : Option (Except ChannelError Bytes × Session τ ω) :=
  let after (result : Except ChannelError Bytes) (connection : Connection (Recorded τ))
      (machine : Recorder ω) : Session τ ω :=
    { connection, machine, written := s.written ++ op.queued s.connection.core
      consumed := s.consumed ++ op.taken result }
  match op.perform s.connection s.machine with
  | .done data c w => some (.ok data, after (.ok data) c w)
  | .refused e c w => some (.error e, after (.error e) c w)
  | .halted _ _ => none

theorem step_performs {op : ChannelOp} {s s' : Session τ ω} {result : Except ChannelError Bytes}
    (h : s.step op = some (result, s')) :
    op.Performs result s.connection s.machine s'.connection s'.machine ∧
      s'.written = s.written ++ op.queued s.connection.core ∧
      s'.consumed = s.consumed ++ op.taken result := by
  have hp := op.perform_ends (c := s.connection) (w := s.machine)
  simp only [step] at h
  split at h
  · rename_i data c w hx
    cases h
    exact ⟨hp.done hx, rfl, rfl⟩
  · rename_i e c w hx
    cases h
    exact ⟨hp.refused hx, rfl, rfl⟩
  · cases h

/-- A session after an operation that ends so. -/
theorem step_of_answers {op : ChannelOp} {s : Session τ ω} {result : Except ChannelError Bytes}
    {c : Connection (Recorded τ)} {w : Recorder ω}
    (h : op.perform.Answers s.connection s.machine result c w) :
    s.step op = some (result,
      { connection := c
        machine := w
        written := s.written ++ op.queued s.connection.core
        consumed := s.consumed ++ op.taken result }) := by
  cases result with
  | ok data => simp only [step, show op.perform s.connection s.machine = .done data c w from h]
  | error e => simp only [step, show op.perform s.connection s.machine = .refused e c w from h]

theorem answers_of_step {op : ChannelOp} {s s' : Session τ ω} {result : Except ChannelError Bytes}
    (h : s.step op = some (result, s')) :
    op.perform.Answers s.connection s.machine result s'.connection s'.machine := by
  simp only [step] at h
  split at h
  · cases h
    assumption
  · cases h
    assumption
  · cases h

def play : List ChannelOp → Session τ ω → Option (Session τ ω)
  | [], s => some s
  | op :: rest, s => (s.step op).bind fun next => next.2.play rest

theorem play_keeps {P : Session τ ω → Prop}
    (hstep : ∀ op s result s', P s → s.step op = some (result, s') → P s') :
    ∀ ops s s', P s → s.play ops = some s' → P s'
  | [], s, s', hs, h => by
    cases h
    exact hs
  | op :: ops, s, s', hs, h => by
    rw [play, Option.bind_eq_some_iff] at h
    obtain ⟨⟨result, next⟩, hnext, hrest⟩ := h
    exact play_keeps hstep ops next s' (hstep op s result next hs hnext) hrest

end Session

end ChannelReactor
