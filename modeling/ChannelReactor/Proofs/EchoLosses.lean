import ChannelReactor.Proofs.EchoHooks
import ChannelReactor.Proofs.Promptness
import ChannelReactor.Scenario.Wire

/-! # What an echo loses

An echo sends back whatever an active client received. But under the secure policy one read may
both receive something and come to the end of the input; the client is inactive by then, and what
the echo reads of its input it cannot write any more (`Estate.readable_echoed`). -/
namespace ChannelReactor

variable {ω ε τ α β χ : Type} [Machine ω]

namespace Connection

section

variable [Transport ω τ] {c : Connection τ} {w : ω} {input : Bytes}

omit [Machine ω] in
/-- A receive adds to the input, and what it calls data is not nothing. -/
theorem receive_brings (h : c.core.input.toList = input) :
    receive.Ends c w
      (fun r c' _ => ∃ data, c'.core.input.toList = input ++ data ∧ (r = .data → data ≠ []))
      (fun _ _ _ => True) := by
  rw [receive, Action.ends_bind, Action.ends_subject]
  refine Action.Ends.repeatUntil (I := fun c _ => c.core.input.toList = input) (fun c w h => ?_)
    _ c w h
  rw [receiveOnce, Action.ends_bind, Action.ends_subject, Action.ends_bind]
  refine onTransport_answers (fun t t' w' answer _ _ => ?_) (fun _ => trivial)
  cases answer with
  | ok data =>
    cases data with
    | nil => exact ⟨[], by rw [List.append_nil]; exact h, fun hr => by cases hr⟩
    | cons b data =>
      exact ⟨b :: data, congrArg (· ++ b :: data) h, fun _ => List.cons_ne_nil b data⟩
  | error e =>
    dsimp only
    split
    · exact ⟨[], by rw [List.append_nil]; exact h, fun hr => by cases hr⟩
    · exact h
    · trivial

omit [Machine ω] in
/-- Receives that are done leave the connection inactive only if they go on after a first one that
brought something. -/
theorem drainInput_ended {drain : Bool} : ∀ (rounds : Nat) (received : Bool) {c : Connection τ}
    {w : ω}, c.core.active = true →
    (∃ data, c.core.input.toList = input ++ data ∧ (received = true → drain = true ∧ data ≠ [])) →
      (drainInput drain rounds received).Ends c w
        (fun _ c' _ => c'.core.active = false →
          drain = true ∧ ∃ data, data ≠ [] ∧ c'.core.input.toList = input ++ data)
        (fun _ _ _ => True)
  | 0, _, _, _, _, _ => trivial
  | rounds + 1, received, c, w, ha, ⟨before, hbefore, hreceived⟩ => by
    rw [drainInput, Action.ends_bind]
    refine ((receive_brings hbefore).and (receive_exchanged (o := (c, w)) .refl ha)).mono
      (fun r c₁ w₁ h => ?_) (fun _ _ _ _ => trivial)
    obtain ⟨⟨data, hdata, hsome⟩, -, hactive⟩ := h
    rw [List.append_assoc] at hdata
    cases r with
    | data =>
      have ha₁ := hactive (by decide)
      rw [Action.ends_bind, Action.ends_subject]
      split
      · rename_i hmore
        have hdrain : drain = true := (Bool.and_eq_true_iff.mp hmore).1
        refine drainInput_ended rounds true ha₁ ⟨before ++ data, hdata, fun _ => ⟨hdrain, ?_⟩⟩
        exact List.append_ne_nil_of_right_ne_nil _ (hsome rfl)
      · exact fun hi => absurd (ha₁.symm.trans hi) Bool.noConfusion
    | wouldBlock => exact fun hi => absurd ((hactive (by decide)).symm.trans hi) Bool.noConfusion
    | ended =>
      cases received with
      | false => trivial
      | true =>
        obtain ⟨hdrain, hnonempty⟩ := hreceived rfl
        exact fun _ =>
          ⟨hdrain, before ++ data, List.append_ne_nil_of_left_ne_nil hnonempty _, hdata⟩

omit [Machine ω] in
/-- A read that is done and leaves the connection inactive received something before the end, which
only the secure policy lets it reach. -/
theorem onRead_ended :
    onRead.Ends c w
      (fun _ c' _ => c'.core.active = false → c.policy = .secure ∧
        ∃ data, data ≠ [] ∧ c'.core.input.toList = c.core.input.toList ++ data)
      (fun _ _ _ => True) := by
  rw [onRead, Action.ends_bind, Action.ends_subject]
  split
  · trivial
  · rw [Action.ends_bind, ensureActive_ends]
    refine ⟨fun ha => ?_, fun _ => trivial⟩
    refine (drainInput_ended _ false ha ⟨[], (List.append_nil _).symm, fun h => by cases h⟩).mono
      (fun _ c' _ h hi => ?_) (fun _ _ _ _ => trivial)
    obtain ⟨hdrain, hdata⟩ := h hi
    have hdrains : c.policy.drainsReads = true := (Bool.and_eq_true_iff.mp hdrain).1
    refine ⟨?_, hdata⟩
    cases hp : c.policy with
    | secure => rfl
    | plain =>
      rw [hp] at hdrains
      cases hdrains

end

end Connection

namespace Echo

section

variable [Transport ω τ] {k : Connection τ} {w : ω} {rounds moved : Nat}

/-- An inactive connection is read once, and nothing of that is written. -/
theorem pump_inactive (hinactive : k.core.active = false) :
    (pump (rounds + 1) moved : Action ω ε (Connection τ) Nat) k w =
      .done moved (k.withInput (k.core.input.toList.drop chunk)) w := by
  by_cases hinput : k.core.input.toList = []
  · have hsame : k.withInput (k.core.input.toList.drop chunk) = k := by
      rw [hinput, List.drop_nil, ← hinput]
      rfl
    rw [pump_empty hinput, hsame]
  · have hwrite : (ChannelOps.write (k.core.input.toList.take chunk)).Answers
        (k.withInput (k.core.input.toList.drop chunk)) w (.error .closed) _ w :=
      Connection.write_inactive hinactive
    exact (pump_front hinput (.inr hinactive)).trans (Action.bind_done hwrite.attempt)

variable [Acceptor ω α τ] [ChannelOps ω β] {c : Channel τ α β}

theorem sendBack_inactive (hk : c.connection? = some k) (hinactive : k.core.active = false) :
    ∃ c', (sendBack : Action ω ε (Channel τ α β) Nat) c w = .done 0 c' w ∧
      c'.connection? = some (k.withInput (k.core.input.toList.drop chunk)) := by
  have hpump (rounds : Nat) : (pump (rounds + 1) 0 : Action ω ε (Connection τ) Nat).Answers k w
      (.ok 0) (k.withInput (k.core.input.toList.drop chunk)) w := pump_inactive hinactive
  exact Channel.answers_of_connection (pump_mirrors Channel.connection_transparent _ _)
    (pump_mirrors Channel.bare_transparent _ _) hk (hpump _)

end

section

variable [ChannelOps ω χ] {c c' : χ}

omit [Machine ω] in
/-- To send back is to read and to write. -/
theorem pump_used : ∀ rounds moved, Action.Keeps (fun c' _ => ChannelOps.Used c c')
    (pump rounds moved : Action ω ε χ Nat)
  | 0, _ => Action.keeps_halt
  | rounds + 1, moved => by
    have hread : Action.Keeps (fun c' _ => ChannelOps.Used c c')
        (ChannelOps.read chunk { lessAllowed := true } : Action ω ChannelError χ Bytes) :=
      fun c w h => .of_outcome
        (fun data _ w' hx => h.tail (.operate ⟨.read _ _, w, w', .inl ⟨data, hx⟩⟩))
        (fun e _ w' hx => h.tail (.operate ⟨.read _ _, w, w', .inr ⟨e, hx⟩⟩))
    have hwrite (data : Bytes) : Action.Keeps (fun c' _ => ChannelOps.Used c c')
        (ChannelOps.write data : Action ω ChannelError χ Unit) := fun c w h =>
      .of_outcome
        (fun _ _ _ hx => h.trans (ChannelOps.used_of_leaves (.write data) rfl (.inl ⟨_, hx⟩)))
        (fun _ _ _ hx => h.trans (ChannelOps.used_of_leaves (.write data) rfl (.inr ⟨_, hx⟩)))
    refine Action.keeps_subject.bind fun _ => ?_
    split
    · exact Action.keeps_pure
    · refine hread.attempt.bind fun answer => ?_
      split
      · exact Action.keeps_pure
      · refine (hwrite _).attempt.bind fun written => ?_
        split
        · exact Action.keeps_pure
        · exact pump_used rounds _

end

variable [Transport ω τ] [Acceptor ω α τ] [ChannelOps ω β]

theorem uses : Hooks.Uses ω Echo (Channel τ α β) where
  readable h := by
    obtain ⟨moved, hsend, -⟩ := (onReadable_ends (R := fun _ _ _ => True)).done h
    exact (pump_used _ _ _ _ .refl).done hsend
  writable h := by
    cases h
    exact .refl

/-- What is sent back is counted. -/
theorem onReadable_done (id : ChannelId) {c c' : Channel τ α β} {w w' : ω} {moved : Nat}
    (desk : Desk (Watched Echo (Channel τ α β)) (Channel τ α β))
    (h : (sendBack : Action ω Empty (Channel τ α β) Nat) c w = .done moved c' w') :
    ∃ desk', Hooks.onReadable id c desk w = .done c' desk' w' ∧
      desk'.hooks.hooks.echoed = desk.hooks.hooks.echoed + moved := by
  refine ⟨{ desk with
    hooks := ⟨desk.hooks.hooks.tally moved, desk.hooks.calls ++ [.readable id c]⟩ }, ?_, rfl⟩
  change Watched.noting _ (do
    let answer ← Action.runOn c sendBack
    Action.update fun desk => { desk with hooks := desk.hooks.tally answer.1 }
    pure answer.2) desk w = _
  unfold Watched.noting
  rw [Action.bind_apply, Action.runOn, h]
  rfl

end Echo

namespace Estate

open Echo

/-- Whenever an echo hears of a client that received something, wherever its reactor is in an
iteration and as long as the client is registered, the hook comes to an end and leaves the machine
alone. If the client is active, all that it can read becomes output, in order, and is counted. If it
is not, it came to the end of its input in the read before, under the secure policy and after it had
received something; then the front of its input is taken out, and neither written nor counted. -/
theorem readable_echoed [Transport ω τ] [Acceptor ω α τ] [ChannelOps ω β]
    {s₀ s : Estate ω Echo (Channel τ α β)} (hβ : ChannelOps.Steady ω β) {serial : Nat}
    {settings : ReactorSettings} {echo : Echo} {machine : ω}
    (hfounded : founded serial settings echo machine = some s₀)
    (commands : List (Command ω Echo (Channel τ α β)))
    (hcommands : ∀ command ∈ commands, command.Within ChannelOps.Used)
    (hplay : s₀.play commands = some s)
    {p : Reactor (Watched Echo (Channel τ α β)) (Channel τ α β) × ω}
    (hiterates : Reactor.Iterates (s.reactor, s.machine) p) {e : Entry (Channel τ α β)}
    (he : e ∈ p.1.entries .client) {k : Connection τ} (hk : e.channel.connection? = some k)
    (hregistered : ChannelOps.isRegistered e.channel = true) {c : Channel τ α β} {w : ω}
    (hread : ChannelOps.onRead e.channel p.2 = .done () c w) :
    ∃ k₁ c' k₂ desk, c.connection? = some k₁ ∧ c'.connection? = some k₂ ∧
      Hooks.onReadable e.id c p.1.desk w = .done c' desk w ∧
      if k₁.core.active then
        k₁.Returns k₂ ∧ desk.hooks.hooks.echoed =
          p.1.hooks.hooks.echoed + k₁.core.input.toList.length
      else
        k.policy = .secure ∧
        (∃ data, data ≠ [] ∧ k₁.core.input.toList = k.core.input.toList ++ data) ∧
        k₂ = k₁.withInput (k₁.core.input.toList.drop chunk) ∧
        desk.hooks.hooks.echoed = p.1.hooks.hooks.echoed := by
  have hs := Channel.steady (τ := τ) (α := α) hβ
  have hprompt := channels_prompt hs uses hfounded commands hcommands hplay hiterates he
  obtain ⟨k₁, hk₁, hended⟩ := (Channel.onRead_bears hk Connection.onRead_ended).done hread
  have hmode : k₁.core.mode.isBlocking = false := by
    have halike := (hs.onRead _ _).done hread
    have hcore : k₁.core.mode = .nonblocking := by
      rw [← Channel.core_eq hk₁]
      exact halike.core.mode.trans (hprompt hregistered)
    rw [hcore]
    rfl
  by_cases hactive : k₁.core.active = true
  · obtain ⟨c', hsend, k₂, hk₂, hreturns⟩ :=
      sendBack_returns (ε := Empty) (w := w) hk₁ hactive hmode
    obtain ⟨desk, hhook, hechoed⟩ := onReadable_done e.id p.1.desk hsend
    refine ⟨k₁, c', k₂, desk, hk₁, hk₂, hhook, ?_⟩
    rw [if_pos hactive]
    exact ⟨hreturns, hechoed⟩
  · have hinactive := Bool.eq_false_iff.mpr hactive
    obtain ⟨c', hsend, hk₂⟩ := sendBack_inactive (ε := Empty) (w := w) hk₁ hinactive
    obtain ⟨desk, hhook, hechoed⟩ := onReadable_done e.id p.1.desk hsend
    obtain ⟨hpolicy, hdata⟩ := hended hinactive
    refine ⟨k₁, c', _, desk, hk₁, hk₂, hhook, ?_⟩
    rw [if_neg hactive]
    exact ⟨hpolicy, hdata, rfl, hechoed⟩

/-- A wire that brings two bytes and the end of the input in one go. -/
def partingWire : Scenario.Wire where
  name := "parting"
  descriptor := 5
  script.recv := [{ act := .data [1, 2] }, { act := .ended }]

def partingClient : Channel Scenario.Wire Scenario.Gate (NoKind Scenario.Bench) :=
  .connection
    { core := .new .forever "parting", transport := some partingWire, chunk := 16,
      policy := .secure }

/-- The reactor polls the wire as readable, and the read of its client brings the two bytes and the
end. -/
theorem partingWire_read :
    ∃ (s₀ s : Estate Scenario.Bench Echo (Channel Scenario.Wire Scenario.Gate (NoKind _)))
      (p : _ × _) (e : Entry _) (k k₁ : Connection Scenario.Wire) (c : _) (w : _),
      founded 1 {} { idleTimeout := none, capacity := 4 }
        { polls.ready := [(5, { input := true })] } = some s₀ ∧
      s₀.play [.register partingClient] = some s ∧
      Reactor.Iterates (s.reactor, s.machine) p ∧ e ∈ p.1.entries .client ∧
      p.1.hooks.hooks.echoed = 0 ∧ e.channel.connection? = some k ∧
      ChannelOps.isRegistered e.channel = true ∧
      ChannelOps.onRead e.channel p.2 = .done () c w ∧ c.connection? = some k₁ ∧
      k₁.core.active = false ∧ k₁.core.input.toList = [1, 2] ∧ k₁.core.output.toList = [] := by
  have hrun : ((founded 1 {} { idleTimeout := none, capacity := 4 }
        { polls.ready := [(5, { input := true })] } : Option (Estate Scenario.Bench Echo _)).bind
      (play [.register partingClient])).any (fun s =>
        (Reactor.polling s.reactor s.machine : Outcome _ ReactorError _ _).any fun _ r w =>
          r.hooks.hooks.echoed == 0 && r.clients.any fun e =>
            ChannelOps.isRegistered e.channel &&
            e.channel.connection?.isSome &&
            (ChannelOps.onRead e.channel w).any fun _ c _ => c.connection?.any fun k₁ =>
              !k₁.core.active && k₁.core.input.toList == [1, 2] &&
                k₁.core.output.toList == []) = true := by
    decide +kernel
  obtain ⟨s, hs, hpolled⟩ := (Option.any_eq_true _ _).mp hrun
  obtain ⟨s₀, hfounded, hplay⟩ := Option.bind_eq_some_iff.mp hs
  obtain ⟨answer, r, w, hpolling, hclients⟩ := Outcome.any_eq_true.mp hpolled
  rw [Bool.and_eq_true, beq_iff_eq, List.any_eq_true] at hclients
  obtain ⟨hechoed, e, he, hclient⟩ := hclients
  simp only [Bool.and_eq_true] at hclient
  obtain ⟨⟨hregistered, hsome⟩, hreads⟩ := hclient
  obtain ⟨k, hk⟩ := Option.isSome_iff_exists.mp hsome
  obtain ⟨_, c, w₁, hread, hends⟩ := Outcome.any_eq_true.mp hreads
  obtain ⟨k₁, hk₁, hended⟩ := (Option.any_eq_true _ _).mp hends
  simp only [Bool.and_eq_true, Bool.not_eq_true', beq_iff_eq] at hended
  obtain ⟨⟨hinactive, hinput⟩, houtput⟩ := hended
  exact ⟨s₀, s, (r, w), e, k, k₁, c, w₁, hfounded, hplay, Reactor.polling_iterates.done hpolling,
    he, hechoed, hk, hregistered, hread, hk₁, hinactive, hinput, houtput⟩

/-- The two bytes are gone: they are neither in the input nor in the output, and not counted. -/
theorem readable_echoed_partingWire :
    ∃ (s₀ s : Estate Scenario.Bench Echo (Channel Scenario.Wire Scenario.Gate (NoKind _)))
      (p : _ × _) (e : Entry _) (k : Connection Scenario.Wire) (c : _) (w : _),
      (ChannelOps.Steady Scenario.Bench (NoKind Scenario.Bench) ∧
        founded 1 {} { idleTimeout := none, capacity := 4 }
          { polls.ready := [(5, { input := true })] } = some s₀ ∧
        s₀.play [.register partingClient] = some s ∧
        Reactor.Iterates (s.reactor, s.machine) p ∧ e ∈ p.1.entries .client ∧
        e.channel.connection? = some k ∧ ChannelOps.isRegistered e.channel = true ∧
        ChannelOps.onRead e.channel p.2 = .done () c w) ∧
      ∃ k₁ c' k₂ desk, c.connection? = some k₁ ∧ c'.connection? = some k₂ ∧
        Hooks.onReadable e.id c p.1.desk w = .done c' desk w ∧
        k₁.core.input.toList = [1, 2] ∧ k₂.core.input.toList = [] ∧
        k₂.core.output.toList = [] ∧ desk.hooks.hooks.echoed = 0 := by
  obtain ⟨s₀, s, p, e, k, k₁, c, w, hfounded, hplay, hiterates, he, hechoed, hk, hregistered,
    hread, hk₁, hinactive, hinput, houtput⟩ := partingWire_read
  have hcommands : ∀ command ∈ ([.register partingClient] :
      List (Command Scenario.Bench Echo _)), command.Within ChannelOps.Used :=
    List.forall_mem_singleton.mpr trivial
  obtain ⟨k₁', c', k₂, desk, hk₁', hk₂, hhook, hloss⟩ := readable_echoed (NoKind.steady _) hfounded
    _ hcommands hplay hiterates he hk hregistered hread
  cases hk₁.symm.trans hk₁'
  rw [hinactive, if_neg Bool.false_ne_true] at hloss
  obtain ⟨-, -, rfl, hcount⟩ := hloss
  have hleft : k₁.core.input.toList.drop chunk = [] := by
    rw [hinput]
    rfl
  exact ⟨s₀, s, p, e, k, c, w,
    ⟨NoKind.steady _, hfounded, hplay, hiterates, he, hk, hregistered, hread⟩,
    k₁, c', _, desk, hk₁, hk₂, hhook, hinput, hleft, houtput, hcount.trans hechoed⟩

end Estate

end ChannelReactor
