import Mathlib.Logic.Function.Iterate
import ChannelReactor.Proofs.Bystanders
import ChannelReactor.Proofs.PollTables

/-! # The blame for a failed poll

After a failed poll a reactor looks for one channel to blame, along the clients and then along the
listeners, and closes it; nothing is dispatched (`recovery_blames_one`). That a channel cannot be
polled is what the machine says of its descriptor when it is asked about that one alone, and it is
asked again as long as it is interrupted. -/
namespace ChannelReactor

variable {ω ε σ η χ : Type}

/-- The machine that has interrupted some probes of a descriptor. -/
def Machine.pestered [Machine ω] (descriptor : Int) (n : Nat) (w : ω) : ω :=
  (fun w => (Machine.probe descriptor w).2)^[n] w

/-- The machine keeps to what it says of its patience: of that many probes in a row and one more
it lets one pass. -/
def Machine.Relents (ω : Type) [Machine ω] : Prop :=
  ∀ (descriptor : Int) (w : ω), ∃ n ≤ Machine.patience w,
    (Machine.probe descriptor (Machine.pestered descriptor n w)).1 ≠ .error .interrupted

/-- The call is about neither input nor output, and about no connection that comes in. -/
def HookCall.Undispatched : HookCall χ → Prop
  | tick _ | closed _ _ _ => True
  | startup | cleanup | accept _ _ | readable _ _ | writable _ _ => False

namespace Reactor

section

/-- On the way from the first reactor to the second no poll failed, and the application was told of
nothing that came of one. -/
structure Unpolled (r r' : Reactor (Watched η χ) χ) : Prop where
  failures : r'.stats.pollFailures = r.stats.pollFailures
  calls : ∃ more, r'.hooks.calls = r.hooks.calls ++ more ∧ ∀ call ∈ more, call.Undispatched

variable {r₀ r : Reactor (Watched η χ) χ} {w : ω}

theorem Unpolled.informed {r' : Reactor (Watched η χ) χ} {desk : Desk (Watched η χ) χ}
    {call : HookCall χ} (h : Unpolled r₀ r)
    (hfailures : r'.stats.pollFailures = r.stats.pollFailures)
    (hcalls : desk.hooks.calls = r.hooks.calls ++ [call]) (hcall : call.Undispatched) :
    Unpolled r₀ (r'.withDesk desk) := by
  obtain ⟨more, hmore, hall⟩ := h.calls
  refine ⟨hfailures.trans h.failures, more ++ [call], ?_, ?_⟩
  · rw [← List.append_assoc, ← hmore]
    exact hcalls
  · intro c hc
    simp only [List.mem_append, List.mem_singleton] at hc
    rcases hc with hc | rfl
    · exact hall c hc
    · exact hcall

variable [ChannelOps ω χ]

theorem register_unpolled {c : χ} :
    Action.Keeps (fun r _ => Unpolled r₀ r)
      (register c : Action ω ReactorError (Reactor (Watched η χ) χ) ChannelId) := by
  intro r w h
  have henrolled (side : Side) (c : χ) : Unpolled r₀ (r.enrolled side c) := by
    cases side <;> exact ⟨h.failures, h.calls⟩
  refine enroll_ends.mono (fun _ r' _ hx => ?_) (fun _ r' _ hx => ?_)
  · obtain ⟨-, c', -, rfl⟩ := hx
    exact henrolled _ c'
  · rw [hx.1]
    exact h

theorem drainMailbox_unpolled :
    ∀ batch, Action.Keeps (fun r _ => Unpolled r₀ r)
      (drainMailbox batch : Action ω ε (Reactor (Watched η χ) χ) Unit)
  | 0 => Action.keeps_pure
  | batch + 1 => by
    refine Action.keeps_subject.bind fun r => ?_
    split
    · exact Action.keeps_pure
    · exact (Action.keeps_update fun _ _ h => ⟨h.failures, h.calls⟩).bind fun _ =>
        (Action.keeps_update fun _ _ h => ⟨h.failures, h.calls⟩).bind fun _ =>
          register_unpolled.attempt.bind fun _ => drainMailbox_unpolled batch

variable [Hooks ω η χ]

theorem evict_unpolled {side : Side} {index : Nat} {reason : CloseReason} :
    Action.Keeps (fun r _ => Unpolled r₀ r)
      (evict side index reason : Action ω ε (Reactor (Watched η χ) χ) Unit) := by
  intro r w h
  cases he : (r.entries side)[index]? with
  | none =>
    rw [evict, letGo, Action.ends_bind, Action.ends_bind, entryAt_ends]
    intro e he'
    cases he.symm.trans he'
  | some e =>
    refine (evict_spec he).mono (fun _ r' w₂ hspec => ?_) (fun _ _ _ h => h)
    obtain ⟨c, w₁, desk, -, hh, rfl⟩ := hspec
    refine h.informed ?_ (Watched.noting_done hh) trivial
    cases side <;> rfl

theorem expireFrom_unpolled (now : Instant) :
    ∀ rounds index, Action.Keeps (fun r _ => Unpolled r₀ r)
      (expireFrom now rounds index : Action ω ε (Reactor (Watched η χ) χ) Unit)
  | 0, _ => Action.keeps_pure
  | rounds + 1, index => by
    refine Action.keeps_subject.bind fun r => ?_
    split
    · exact Action.keeps_pure
    · split
      · exact evict_unpolled.bind fun _ => expireFrom_unpolled now rounds index
      · exact expireFrom_unpolled now rounds (index + 1)

theorem preparePoll_unpolled :
    Action.Keeps (fun r _ => Unpolled r₀ r)
      (preparePoll : Action ω ε (Reactor (Watched η χ) χ) PollTable) := by
  refine Action.keeps_subject.bind fun r => Action.Keeps.repeatUntil
    (Action.keeps_subject.bind fun r => ?_) _
  split
  · exact evict_unpolled.bind fun _ => Action.keeps_pure
  · exact Action.keeps_pure

end

variable [Machine ω]

/-- What the machine says of a descriptor: whether it can be polled. Probes that are interrupted are
repeated, and say nothing. -/
inductive Probed (descriptor : Int) : ω → Bool → ω → Prop
  | again {w w' : ω} {sound : Bool} (h : (Machine.probe descriptor w).1 = .error .interrupted)
    (rest : Probed descriptor (Machine.probe descriptor w).2 sound w') :
    Probed descriptor w sound w'
  | fails {w : ω} {e : PollError} (h : (Machine.probe descriptor w).1 = .error e)
    (he : e ≠ .interrupted) : Probed descriptor w false (Machine.probe descriptor w).2
  | answers {w : ω} {flags : PollFlags} (h : (Machine.probe descriptor w).1 = .ok flags) :
    Probed descriptor w (!flags.invalid) (Machine.probe descriptor w).2

/-- A probe that relents in time gives an answer, which is what the machine says. -/
theorem probe_completes (hrelents : Machine.Relents ω) {descriptor : Int} {s : σ} {w : ω} :
    (PollSet.probe descriptor : Action ω PollError σ Unit).Completes s w
      (fun _ s' w' => s' = s ∧ Probed descriptor w true w')
      (fun _ s' w' => s' = s ∧ Probed descriptor w false w') := by
  obtain ⟨n, hn, hanswers⟩ := hrelents descriptor w
  rw [PollSet.probe, Action.completes_bind]
  -- What is said after some interruptions is said from the start.
  refine Action.Completes.repeatUntil (I := fun n s' w₁ => s' = s ∧
      (Machine.probe descriptor (Machine.pestered descriptor n w₁)).1 ≠ .error .interrupted ∧
      ∀ sound w', Probed descriptor w₁ sound w' → Probed descriptor w sound w')
    (fun n s₁ w₁ hI => ?_) _ n s w (Nat.lt_succ_of_le hn) ⟨rfl, hanswers, fun _ _ h => h⟩
  obtain ⟨rfl, hanswers, hsame⟩ := hI
  rw [Action.completes_bind]
  change Action.Completes _ s₁ (Machine.probe descriptor w₁).2 _ _
  split
  · rename_i hinterrupted
    cases n with
    | zero => exact absurd hinterrupted hanswers
    | succ n =>
      exact ⟨n, Nat.lt_succ_self n, rfl, hanswers,
        fun sound w' h => hsame sound w' (.again hinterrupted h)⟩
  · rename_i e hne herror
    exact ⟨rfl, hsame _ _ (.fails herror fun he => hne (he ▸ rfl))⟩
  · rename_i flags hok
    have hsaid := hsame _ _ (.answers hok)
    split
    · rename_i hinvalid
      rw [hinvalid] at hsaid
      exact ⟨rfl, hsaid⟩
    · rename_i hvalid
      rw [Bool.not_eq_true] at hvalid
      rw [hvalid] at hsaid
      exact ⟨rfl, hsaid⟩

variable [ChannelOps ω χ]

/-- Whether a channel can be polled: one without a descriptor cannot, and of another the machine
says it. -/
inductive Inspected (c : χ) : ω → Bool → ω → Prop
  | lost {w : ω} {e : ChannelError} (h : ChannelOps.descriptor c = .error e) : Inspected c w false w
  | probed {w w' : ω} {descriptor : Int} {sound : Bool}
    (hd : ChannelOps.descriptor c = .ok descriptor) (h : Probed descriptor w sound w') :
    Inspected c w sound w'

/-- These entries were looked at, one after the other, and can all be polled. -/
inductive Passed : List (Entry χ) → ω → ω → Prop
  | nil {w : ω} : Passed [] w w
  | cons {e : Entry χ} {rest : List (Entry χ)} {w w₁ w' : ω} (h : Inspected e.channel w true w₁)
    (hrest : Passed rest w₁ w') : Passed (e :: rest) w w'

theorem Passed.append {entries more : List (Entry χ)} {w w₁ w' : ω} (h : Passed entries w w₁)
    (h' : Passed more w₁ w') : Passed (entries ++ more) w w' := by
  induction h with
  | nil => exact h'
  | cons hfirst _ ih => exact .cons hfirst (ih h')

/-- Along one list the search passes what can be polled, and stops at the first that cannot. -/
theorem findBroken_completes (hrelents : Machine.Relents ω) {s : σ} {R : ε → σ → ω → Prop} :
    ∀ {entries : List (Entry χ)} {index : Nat} {w : ω},
      (findBroken index entries : Action ω ε σ (Option Nat)).Completes s w
        (fun found s' w' => s' = s ∧ match found with
          | none => Passed entries w w'
          | some k => ∃ before e after w₁, entries = before ++ e :: after ∧
              k = index + before.length ∧ Passed before w w₁ ∧ Inspected e.channel w₁ false w') R
  | [], _, _ => ⟨rfl, .nil⟩
  | x :: rest, index, w => by
    rw [findBroken]
    split
    · rename_i err herr
      exact ⟨rfl, [], x, rest, w, rfl, rfl, .nil, .lost herr⟩
    · rename_i descriptor hd
      rw [Action.completes_bind, Action.completes_attempt]
      refine (probe_completes hrelents).mono (fun _ s' w₁ h => ?_) (fun e s' w₁ h => ?_)
      · obtain ⟨rfl, hprobed⟩ := h
        have hx : Inspected x.channel w true w₁ := .probed hd hprobed
        refine (findBroken_completes hrelents).mono (fun found s'' w' h => ?_) (fun _ _ _ h => h)
        obtain ⟨rfl, hfound⟩ := h
        cases found with
        | none => exact ⟨rfl, .cons hx hfound⟩
        | some k =>
          obtain ⟨before, e, after, w₂, rfl, rfl, hbefore, he⟩ := hfound
          refine ⟨rfl, x :: before, e, after, w₂, rfl, ?_, .cons hx hbefore, he⟩
          rw [List.length_cons]
          omega
      · obtain ⟨rfl, hprobed⟩ := h
        exact ⟨rfl, [], x, rest, w, rfl, rfl, .nil, .probed hd hprobed⟩

/-- What a search for the one to blame looks at before it comes to a place: the clients before it,
or all clients and the listeners before it. -/
def ahead (r : Reactor η χ) : (side : Side) → (index : Nat) → List (Entry χ)
  | .client, index => r.clients.take index
  | .listener, index => r.clients ++ r.listeners.take index

/-- The first entry that cannot be polled stands here, in the order in which a search looks at them;
the machines are those before and after the search. -/
def Culprit (r : Reactor η χ) (w : ω) (side : Side) (index : Nat) (e : Entry χ) (w' : ω) : Prop :=
  (r.entries side)[index]? = some e ∧
    ∃ w₁, Passed (r.ahead side index) w w₁ ∧ Inspected e.channel w₁ false w'

theorem findCulprit_completes (hrelents : Machine.Relents ω) {r : Reactor η χ} {w : ω}
    {R : ε → Reactor η χ → ω → Prop} :
    (findCulprit : Action ω ε (Reactor η χ) _).Completes r w
      (fun found r' w' => r' = r ∧ match found with
        | none => Passed (r.clients ++ r.listeners) w w'
        | some (side, index) => ∃ e, r.Culprit w side index e w') R := by
  rw [findCulprit, Action.completes_bind, Action.completes_subject, Action.completes_bind]
  refine (findBroken_completes hrelents).mono (fun found r₁ w₁ h => ?_) (fun _ _ _ h => h)
  obtain ⟨rfl, hfound⟩ := h
  cases found with
  | some index =>
    obtain ⟨before, e, after, w₂, hsplit, rfl, hbefore, he⟩ := hfound
    exact ⟨rfl, e, by simp [entries, hsplit], w₂, by simpa [ahead, hsplit] using hbefore, he⟩
  | none =>
    rw [Action.completes_bind]
    refine (findBroken_completes hrelents).mono (fun found r₂ w₂ h => ?_) (fun _ _ _ h => h)
    obtain ⟨rfl, hlistening⟩ := h
    cases found with
    | none => exact ⟨rfl, Passed.append hfound hlistening⟩
    | some index =>
      obtain ⟨before, e, after, w₃, hsplit, rfl, hbefore, he⟩ := hlistening
      refine ⟨rfl, e, by simp [entries, hsplit], w₃, ?_, he⟩
      simpa [ahead, hsplit] using Passed.append hfound hbefore

/-- The poll failed, with this error: its own, unless it was interrupted, or that of a descriptor
which was reported as not open. -/
inductive PollFails : Except PollError Nat → PollSet → PollError → Prop
  | error {e : PollError} {set : PollSet} (h : e ≠ .interrupted) : PollFails (.error e) set e
  | invalid {n : Nat} {set : PollSet} (hn : 0 < n) (h : set.anyInvalid = true) :
    PollFails (.ok n) set .badDescriptor

/-- The second reactor is the first after a failed poll that was blamed on the entry at a place,
whose channel was closed as `c`. -/
structure Blamed (r r' : Reactor (Watched η χ) χ) (side : Side) (index : Nat) (e : Entry χ) (c : χ) :
    Prop where
  entries : r'.entries side = (r.entries side).eraseIdx index
  others : ∀ side', side' ≠ side → r'.entries side' = r.entries side'
  stats : r'.stats =
    { r.stats with pollFailures := r.stats.pollFailures + 1, evicted := r.stats.evicted + 1 }
  /-- The application was told of this end, and of nothing else. -/
  calls : r'.hooks.calls = r.hooks.calls ++ [.closed e.id c .pollFailure]

variable [Hooks ω η χ]

theorem respond_fails {table : PollTable} {answer : Except PollError Nat} {set : PollSet}
    {error : PollError} (h : PollFails answer set error) :
    (respond table answer set : Action ω _ (Reactor η χ) _) = recover error := by
  cases h with
  | error hne => cases error <;> first | rfl | exact absurd rfl hne
  | @invalid n _ hn hi =>
    obtain ⟨m, rfl⟩ : ∃ m, n = m + 1 := ⟨n - 1, by omega⟩
    exact if_pos hi

/-- A recovery blames the first that cannot be polled, and otherwise gives the error back. -/
theorem recover_blames (hrelents : Machine.Relents ω) (error : PollError)
    (r : Reactor (Watched η χ) χ) (w : ω) :
    (∃ w', Passed (r.clients ++ r.listeners) w w' ∧
      (recover error : Action ω _ _ _) r w =
        .refused (.poll error) (r.count (·.addPollFailure)) w') ∨
    ∃ side index e w', r.Culprit w side index e w' ∧
      ∀ c w₁ desk w₂,
        ChannelOps.close (ChannelOps.mapCore ChannelCore.unregister e.channel) w' =
          .done () c w₁ →
        Hooks.onClosed e.id c .pollFailure r.desk w₁ = .done () desk w₂ →
        ∃ r', (recover error : Action ω _ _ _) r w = .done 0 r' w₂ ∧ r.Blamed r' side index e c := by
  obtain ⟨answer, r₁, w', hx, h⟩ := (findCulprit_completes (ε := ReactorError)
    (R := fun _ _ _ => False) hrelents (r := r.count (·.addPollFailure)) (w := w)).answers
  cases answer with
  | error e => exact h.elim
  | ok found =>
    obtain ⟨rfl, hfound⟩ := h
    cases found with
    | none =>
      refine .inl ⟨w', hfound, ?_⟩
      rw [recover_eq, Action.bind_apply, Action.update_apply]
      dsimp only
      rw [Action.bind_apply, show findCulprit _ w = _ from hx]
      rfl
    | some place =>
      obtain ⟨side, index⟩ := place
      obtain ⟨e, hculprit⟩ := hfound
      refine .inr ⟨side, index, e, w', hculprit, fun c w₁ desk w₂ hc hh => ?_⟩
      refine ⟨(((r.count (·.addPollFailure)).without side index).count
        (·.addEvicted false)).withDesk desk, ?_, ?_, fun side' hne => ?_, ?_,
        Watched.noting_done hh⟩
      · rw [recover_eq, Action.bind_apply, Action.update_apply]
        dsimp only
        rw [Action.bind_apply, show findCulprit _ w = _ from hx]
        dsimp only
        rw [Action.bind_apply, evict_done hculprit.1 hc hh]
        rfl
      · cases side <;> rfl
      · cases side <;> cases side' <;> first | rfl | exact absurd rfl hne
      · cases side <;> rfl

variable {r : Reactor (Watched η χ) χ} {w : ω}

/-- What leads to the poll of an iteration dispatches nothing, and counts no failure. -/
theorem polling_unpolled :
    (polling : Action ω ε (Reactor (Watched η χ) χ) _).Ends r w (fun _ r' _ => Unpolled r r')
      (fun _ r' _ => Unpolled r r') := by
  have hself : Unpolled r r := ⟨rfl, [], (List.append_nil _).symm, by simp⟩
  rw [polling, Action.ends_bind, Action.ends_update, Action.ends_bind, Action.ends_subject,
    Action.ends_bind]
  refine hook_ends fun _ desk w₁ hh => ?_
  have hticked : Unpolled r ((r.count (·.addIteration r.clients.length)).withDesk desk) :=
    hself.informed rfl (Watched.noting_done hh) trivial
  refine (Action.keeps_ask.bind fun now => Action.Keeps.bind ?_ fun _ =>
    Action.keeps_subject.bind fun r => (drainMailbox_unpolled _).bind fun _ =>
      preparePoll_unpolled.bind fun table => Action.keeps_subject.bind fun r =>
        Action.keeps_runOn.bind fun _ => Action.keeps_pure) _ w₁ hticked
  exact Action.keeps_subject.bind fun r => expireFrom_unpolled now r.clients.length 0

/-- For every reactor and every iteration whose poll fails, by an error of its own that is no
interruption or by a descriptor that it reports as not open. Nothing is dispatched. The first client
that cannot be polled, or if there is none the first such listener, is closed, told of as blamed for
the poll, and the iteration answers 0, as soon as that close and that hook come to their end; and if
all can be polled, the iteration is refused with the error of the poll, and nothing leaves its list.
All other entries stand as they stood, one failed poll is counted, and a probe that is interrupted
is repeated. -/
theorem recovery_blames_one (hrelents : Machine.Relents ω) {r r₁ : Reactor (Watched η χ) χ}
    {w w₁ : ω} {table : PollTable} {answer : Except PollError Nat} {set : PollSet}
    {error : PollError}
    (hpoll : (polling : Action ω ReactorError _ _) r w = .done (table, answer, set) r₁ w₁)
    (hfails : PollFails answer set error) :
    Unpolled r r₁ ∧
    ((∃ w₂, Passed (r₁.clients ++ r₁.listeners) w₁ w₂ ∧
      (runOnce : Action ω _ _ _) r w =
        .refused (.poll error) (r₁.count (·.addPollFailure)) w₂) ∨
    ∃ side index e w₂, r₁.Culprit w₁ side index e w₂ ∧
      ∀ c w₃ desk w₄,
        ChannelOps.close (ChannelOps.mapCore ChannelCore.unregister e.channel) w₂ =
          .done () c w₃ →
        Hooks.onClosed e.id c .pollFailure r₁.desk w₃ = .done () desk w₄ →
        ∃ r', (runOnce : Action ω _ _ _) r w = .done 0 r' w₄ ∧
          r₁.Blamed r' side index e c) := by
  have hrun : (runOnce : Action ω _ _ _) r w = (recover error : Action ω _ _ _) r₁ w₁ := by
    rw [runOnce_eq, Action.bind_apply, hpoll]
    exact congrFun (congrFun (respond_fails hfails) r₁) w₁
  refine ⟨polling_unpolled.done hpoll, ?_⟩
  rw [hrun]
  exact recover_blames hrelents error r₁ w₁

end Reactor

/-- The bench has no more patience than probes that its script can interrupt. -/
theorem Scenario.Bench.relents : Machine.Relents Scenario.Bench := by
  intro descriptor w
  change ∃ n ≤ w.polls.probes.length, _
  generalize hprobes : w.polls.probes = probes
  induction probes generalizing w with
  | nil =>
    refine ⟨0, Nat.le_refl 0, ?_⟩
    change (Scenario.Bench.probe descriptor w).1 ≠ _
    simp [Scenario.Bench.probe, Scenario.Bench.record, hprobes]
  | cons next rest ih =>
    have hprobed : (Scenario.Bench.probe descriptor w).2.polls.probes = rest := by
      cases next <;> simp [Scenario.Bench.probe, Scenario.Bench.record, hprobes]
    obtain ⟨n, hn, hlater⟩ := ih _ hprobed
    by_cases hnow : (Scenario.Bench.probe descriptor w).1 = .error .interrupted
    · exact ⟨n + 1, Nat.succ_le_succ hn, hlater⟩
    · exact ⟨0, Nat.zero_le _, hnow⟩

/-- The second of three descriptors is not open, and says so when it is asked about. The first
probe of each of the first two is interrupted. -/
def failingBench : Scenario.Bench where
  polls.ready := [(2, { invalid := true })]
  polls.probes := [some .interrupted, none, some .interrupted]

def stubReactor : Reactor (Watched NoHooks Scenario.Stub) Scenario.Stub where
  serial := 1
  settings := {}
  hooks := { hooks := {} }
  clients := [⟨1, Estate.busyStub 1 [] []⟩, ⟨2, Estate.busyStub 2 [] []⟩,
    ⟨3, Estate.busyStub 3 [] []⟩]
  nextId := 4

theorem recovery_blames_one_stubs :
    ∃ (table : PollTable) (answer : Except PollError Nat) (set : PollSet)
      (r₁ r' : Reactor (Watched NoHooks Scenario.Stub) Scenario.Stub)
      (w₁ w₂ w' : Scenario.Bench) (side : Side) (index : Nat) (e : Entry Scenario.Stub)
      (c : Scenario.Stub),
      Machine.Relents Scenario.Bench ∧
      (Reactor.polling : Action _ ReactorError _ _) stubReactor failingBench =
        .done (table, answer, set) r₁ w₁ ∧
      Reactor.PollFails answer set .badDescriptor ∧
      (Reactor.runOnce : Action _ ReactorError _ _) stubReactor failingBench = .done 0 r' w' ∧
      (r'.ids .client = [1, 3] ∧ r'.closures = [(2, .pollFailure)]) ∧
      Reactor.Unpolled stubReactor r₁ ∧ r₁.Culprit w₁ side index e w₂ ∧
      r₁.Blamed r' side index e c := by
  have hrun : ((Reactor.polling : Action _ ReactorError _ _) stubReactor failingBench).any
      (fun p _ _ => p.2.1.toOption == some 1 && p.2.2.anyInvalid) = true := by decide +kernel
  have hblamed : ((Reactor.runOnce : Action _ ReactorError _ _) stubReactor failingBench).any
      (fun _ r' _ => r'.ids .client == [1, 3] && r'.closures == [(2, .pollFailure)]) = true := by
    decide +kernel
  obtain ⟨⟨table, answer, set⟩, r₁, w₁, hpoll, hp⟩ := Outcome.any_eq_true.mp hrun
  obtain ⟨n, r', w', hdone, hfacts⟩ := Outcome.any_eq_true.mp hblamed
  simp only [Bool.and_eq_true, beq_iff_eq] at hp hfacts
  have hfails : Reactor.PollFails answer set .badDescriptor := by
    cases answer with
    | error e => cases hp.1
    | ok n =>
      cases hp.1
      exact .invalid (by decide) hp.2
  obtain ⟨hunpolled, ⟨w₂, -, hnone⟩ | ⟨side, index, e, w₂, hculprit, hends⟩⟩ :=
    Reactor.recovery_blames_one Scenario.Bench.relents hpoll hfails
  · cases hdone.symm.trans hnone
  · -- A stub notes that it is closed, and is inactive.
    obtain ⟨c, w₃, hc⟩ : ∃ c w₃, ChannelOps.close
        (ChannelOps.mapCore ChannelCore.unregister e.channel) w₂ = .done () c w₃ := ⟨_, _, rfl⟩
    have hhears : Hooks.Hears Scenario.Bench NoHooks Scenario.Stub .pollFailure := NoHooks.hears
    obtain ⟨desk, w₄, hh⟩ := hhears.watched e.id c r₁.desk w₃
    obtain ⟨r'', hblames, hblamed⟩ := hends c w₃ desk w₄ hc hh
    cases hdone.symm.trans hblames
    exact ⟨table, answer, set, r₁, r', w₁, w₂, w', side, index, e, c, Scenario.Bench.relents, hpoll,
      hfails, hdone, hfacts, hunpolled, hculprit, hblamed⟩

end ChannelReactor
