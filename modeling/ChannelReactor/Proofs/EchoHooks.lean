import ChannelReactor.Echo
import ChannelReactor.Proofs.Inactivity
import ChannelReactor.Proofs.Layers

/-! # What an echo does

What its hooks make of a connection that is accepted and of a client that has received something. -/
namespace ChannelReactor

variable {ω ε τ α β : Type} [Machine ω]

/-- Whether or not more can come, as much of the input as there is will do when fewer bytes than
those asked for are allowed. -/
theorem ChannelCore.takeInput_lessAllowed {core : ChannelCore} {count : Nat}
    (hinput : core.input.toList ≠ []) :
    core.takeInput count { lessAllowed := true } = .ok (core.input.toList.take count,
      { core with input := ⟨core.input.toList.drop count⟩ }) := by
  unfold takeInput
  split
  · rfl
  · rename_i hmore
    have hlength : core.input.toList.length ≤ count := Nat.le_of_not_le hmore
    have hall : core.drainInput core.input.size false = (core.input.toList.take count,
        { core with input := ⟨core.input.toList.drop count⟩ }) := by
      rw [drainInput, ByteQueue.peek_eq, ByteQueue.drop, ByteQueue.size, List.take_length,
        List.drop_length, List.take_of_length_le hlength, List.drop_of_length_le hlength]
      rfl
    simp [hall, ByteQueue.isEmpty, hinput]

namespace Connection

/-- All input of the first connection is output of the second one, behind the output it had. -/
structure Returns (c c' : Connection τ) : Prop where
  input : c'.core.input.toList = []
  output : c'.core.output.toList = c.core.output.toList ++ c.core.input.toList
  same : c' = { c with core := { c.core with
    input := c'.core.input, output := c'.core.output } }

/-- A connection without input has returned it. -/
theorem Returns.refl {c : Connection τ} (h : c.core.input.toList = []) : Returns c c where
  input := h
  output := by rw [h, List.append_nil]
  same := rfl

/-- The connection with the front of its input at the end of its output. -/
def turned (n : Nat) (c : Connection τ) : Connection τ :=
  (c.withInput (c.core.input.toList.drop n)).mapCore (·.enqueue (c.core.input.toList.take n))

/-- The front of the input becomes output, and then the rest. -/
theorem Returns.of_turned {c c' : Connection τ} {n : Nat} (h : (c.turned n).Returns c') :
    Returns c c' where
  input := h.input
  output := by
    rw [h.output]
    change (c.core.output.push (c.core.input.toList.take n)).toList ++
      c.core.input.toList.drop n = _
    rw [ByteRing.toList_push, List.append_assoc, List.take_append_drop]
  same := h.same

variable [Transport ω τ] {c : Connection τ} {w : ω}

/-- A connection that does not wait, or came to its end, gives as much of its input as is asked for,
and what there is if that is less. -/
theorem read_lessAllowed {count : Nat} (hinput : c.core.input.toList ≠ [])
    (hready : c.core.mode.isBlocking = false ∨ c.core.active = false) :
    read count { lessAllowed := true } c w =
      .done (c.core.input.toList.take count) (c.withInput (c.core.input.toList.drop count)) w := by
  rw [read_eq_takeInput (hready.imp_right .inl), takeInput, Action.bind_apply, Action.subject_apply]
  dsimp only
  rw [ChannelCore.takeInput_lessAllowed hinput]
  rfl

omit [Machine ω] in
/-- A connection that does not wait queues what is written. -/
theorem write_queues {data : Bytes} (hactive : c.core.active = true)
    (hmode : c.core.mode.isBlocking = false) :
    write data c w = .done () (c.mapCore (·.enqueue data)) w := by
  rw [write, Action.bind_done (ensureActive_active hactive)]
  change (if c.core.mode.isBlocking = true then _ else _ : Action ω ChannelError _ Unit) _ w = _
  rw [if_neg (ne_true_of_eq_false hmode)]
  rfl

end Connection

namespace Echo

/-- How a connection is let in: as it is, or as one that expires. -/
inductive LetsIn (accepted : Channel τ α β) : Channel τ α β → Prop
  | plain : LetsIn accepted accepted
  | expiring (last : Instant) (interval : Span) : LetsIn accepted (.expiring accepted last interval)

/-- What is answered to a connection that was accepted: it is let in as long as there is room, and
then it is counted. -/
inductive Admission (echo : Echo) (accepted : Channel τ α β) :
    Option (Channel τ α β) → Echo → Prop
  | letIn {c : Channel τ α β} (hroom : echo.live < echo.capacity) (h : LetsIn accepted c) :
    Admission echo accepted (some c) { echo with live := echo.live + 1 }
  | turnedAway (hfull : echo.capacity ≤ echo.live) : Admission echo accepted none echo

namespace Admission

variable {echo echo' : Echo} {accepted : Channel τ α β} {answer : Option (Channel τ α β)}

theorem echoed (h : Admission echo accepted answer echo') : echo'.echoed = echo.echoed := by
  cases h <;> rfl

theorem letsIn (h : Admission echo accepted answer echo') : ∀ c ∈ answer, LetsIn accepted c := by
  cases h with
  | letIn _ hlets =>
    rintro _ ⟨⟩
    exact hlets
  | turnedAway _ => exact nofun

end Admission

theorem letIn_ends {accepted : Accepted (Channel τ α β)} {echo : Echo} {w : ω}
    {R : ε → Echo → ω → Prop} :
    (letIn accepted).Ends echo w
      (fun answer echo' w' => w' = w ∧ Admission echo accepted.channel answer echo') R := by
  rw [letIn, Action.ends_bind, Action.ends_subject]
  split
  · rename_i hfull
    exact ⟨rfl, .turnedAway hfull⟩
  · rename_i hroom
    rw [Action.ends_bind, Action.ends_update]
    obtain ⟨_ | idle, _, _, _⟩ := echo
    · exact ⟨rfl, .letIn (Nat.lt_of_not_le hroom) .plain⟩
    · exact ⟨rfl, .letIn (Nat.lt_of_not_le hroom) (.expiring _ _)⟩

variable [Transport ω τ] [Acceptor ω α τ] [ChannelOps ω β]
variable {desk : Desk Echo (Channel τ α β)} {w : ω}

theorem onAccept_ends {id : ChannelId} {accepted : Accepted (Channel τ α β)}
    {R : Empty → Desk Echo (Channel τ α β) → ω → Prop} :
    (Hooks.onAccept id accepted : Action ω Empty (Desk Echo (Channel τ α β)) _).Ends desk w
      (fun answer desk' w' => w' = w ∧ desk'.mailbox = desk.mailbox ∧
        Admission desk.hooks accepted.channel answer desk'.hooks) R := by
  refine (Action.ends_focus (x := letIn accepted)).mpr ?_
  exact (letIn_ends (R := fun _ _ _ => False)).mono (fun _ _ _ h => ⟨h.1, rfl, h.2⟩)
    (fun e _ _ _ => e.elim)

/-- What a client received is sent back, and counted. -/
theorem onReadable_ends {id : ChannelId} {c : Channel τ α β}
    {R : Empty → Desk Echo (Channel τ α β) → ω → Prop} :
    (Hooks.onReadable id c : Action ω Empty (Desk Echo (Channel τ α β)) _).Ends desk w
      (fun c' desk' w' => ∃ moved,
        (sendBack : Action ω Empty (Channel τ α β) Nat) c w = .done moved c' w' ∧
        desk' = { desk with hooks := desk.hooks.tally moved }) R := by
  have hhook : (Hooks.onReadable id c : Action ω Empty (Desk Echo (Channel τ α β)) _) = (do
      let answer ← Action.runOn c sendBack
      Action.update fun desk => { desk with hooks := desk.hooks.tally answer.1 }
      pure answer.2) := rfl
  rw [hhook, Action.ends_bind, Action.ends_runOn]
  exact (Action.ends_self _ _ _).mono (fun moved _ _ hx => ⟨moved, hx, rfl⟩)
    (fun e _ _ _ => e.elim)

omit [Machine ω] in
/-- Channels that are used alike send back alike. -/
theorem pump_mirrors {χ ρ : Type} [ChannelOps ω χ] [ChannelOps ω ρ] {view : χ → ρ}
    (hview : Transparent view) : ∀ rounds moved, Action.Mirrors id view
      (pump rounds moved : Action ω ε χ Nat) (pump rounds moved)
  | 0, _ => fun _ _ => rfl
  | rounds + 1, moved => by
    refine Action.mirrors_subject.bind fun c => ?_
    have hbuffered : ChannelOps.buffered (view c) = ChannelOps.buffered c := by
      rw [ChannelOps.buffered, hview.core, ChannelOps.buffered]
    rw [hbuffered]
    split
    · exact Action.mirrors_pure _
    · refine (hview.read _ _).attempt.bind fun answer => ?_
      cases answer with
      | error e => exact Action.mirrors_pure _
      | ok data =>
        refine (hview.write data).attempt.bind fun written => ?_
        cases written with
        | error e => exact Action.mirrors_pure _
        | ok _ => exact pump_mirrors hview rounds _

section

variable {k : Connection τ} {rounds moved : Nat}

omit [Acceptor ω α τ] [ChannelOps ω β] in
theorem pump_empty (h : k.core.input.toList = []) :
    (pump (rounds + 1) moved : Action ω ε (Connection τ) Nat) k w = .done moved k w := by
  have hempty : ChannelOps.buffered k = 0 := congrArg List.length h
  rw [pump, Action.bind_apply, Action.subject_apply]
  dsimp only
  rw [if_pos hempty, Action.pure_apply]

omit [Acceptor ω α τ] [ChannelOps ω β] in
/-- The front of the input is read, and then written. -/
theorem pump_front (hinput : k.core.input.toList ≠ [])
    (hready : k.core.mode.isBlocking = false ∨ k.core.active = false) :
    (pump (rounds + 1) moved : Action ω ε (Connection τ) Nat) k w =
      (Action.attempt (ChannelOps.write (k.core.input.toList.take chunk)) >>= fun
        | .error _ => pure moved
        | .ok () => pump rounds (moved + (k.core.input.toList.take chunk).length) :
        Action ω ε (Connection τ) Nat) (k.withInput (k.core.input.toList.drop chunk)) w := by
  have hsome : ChannelOps.buffered k ≠ 0 := fun h => hinput (List.eq_nil_of_length_eq_zero h)
  have hread : (ChannelOps.read chunk { lessAllowed := true }).Answers k w
      (.ok (k.core.input.toList.take chunk)) _ w := Connection.read_lessAllowed hinput hready
  rw [pump, Action.bind_apply, Action.subject_apply]
  dsimp only
  rw [if_neg hsome]
  exact Action.bind_done hread.attempt

omit [Acceptor ω α τ] [ChannelOps ω β] in
/-- A connection that does not wait returns its input, in no more rounds than that has bytes. -/
theorem pump_returns : ∀ (rounds moved : Nat) (k : Connection τ),
    k.core.active = true → k.core.mode.isBlocking = false → k.core.input.toList.length < rounds →
      ∃ k', (pump rounds moved : Action ω ε (Connection τ) Nat) k w =
        .done (moved + k.core.input.toList.length) k' w ∧ k.Returns k'
  | 0, _, _, _, _, h => absurd h (Nat.not_lt_zero _)
  | rounds + 1, moved, k, hactive, hmode, h => by
    by_cases hinput : k.core.input.toList = []
    · exact ⟨k, by rw [pump_empty hinput, hinput]; rfl, .refl hinput⟩
    · have hpos := List.length_pos_iff.mpr hinput
      have hfewer : (k.core.input.toList.drop chunk).length < rounds := by
        rw [List.length_drop, chunk]
        omega
      obtain ⟨k', hpump, hreturns⟩ := pump_returns rounds
        (moved + (k.core.input.toList.take chunk).length) (k.turned chunk) hactive hmode hfewer
      have hwrite : (ChannelOps.write (k.core.input.toList.take chunk)).Answers
          (k.withInput (k.core.input.toList.drop chunk)) w (.ok ()) (k.turned chunk) w :=
        Connection.write_queues hactive hmode
      have hall : (k.core.input.toList.take chunk).length +
          (k.core.input.toList.drop chunk).length = k.core.input.toList.length := by
        rw [← List.length_append, List.take_append_drop]
      refine ⟨k', ?_, hreturns.of_turned⟩
      rw [pump_front hinput (.inl hmode), Action.bind_done hwrite.attempt, ← hall, ← Nat.add_assoc]
      exact hpump

end

/-- So does a channel that is such a connection, under any layers. -/
theorem sendBack_returns {c : Channel τ α β} {k : Connection τ} (hk : c.connection? = some k)
    (hactive : k.core.active = true) (hmode : k.core.mode.isBlocking = false) :
    ∃ c', (sendBack : Action ω ε (Channel τ α β) Nat) c w =
      .done k.core.input.toList.length c' w ∧ c'.Bears k.Returns := by
  have henough : k.core.input.toList.length <
      ChannelOps.buffered c + ChannelOps.patience c + chunk + 1 := by
    have hbuffered : ChannelOps.buffered c = k.core.input.toList.length := by
      rw [ChannelOps.buffered, Channel.core_eq hk]
      rfl
    omega
  obtain ⟨k', hpump, hreturns⟩ := pump_returns (ε := ε) (w := w) _ 0 k hactive hmode henough
  have hpump : (pump _ 0 : Action ω ε (Connection τ) Nat).Answers k w (.ok _) k' w := hpump
  obtain ⟨c', hsend, hk'⟩ := Channel.answers_of_connection
    (pump_mirrors Channel.connection_transparent _ _) (pump_mirrors Channel.bare_transparent _ _) hk
    hpump
  rw [Nat.zero_add] at hsend
  exact ⟨c', hsend, k', hk', hreturns⟩

end Echo

end ChannelReactor
