import ChannelReactor.Proofs.BlockingWrites
import ChannelReactor.Proofs.StreamReads

/-! # Reads on readiness

A read on readiness makes one receive that is not interrupted. Under the secure policy it makes
another as long as the last one brought something and its transport still holds decoded input, which
no readiness would tell of; so it stops neither too early nor too late, and an end of the input that
comes after something is left for the next read to tell of (`Session.readiness_drained`). -/
namespace ChannelReactor

variable {ω τ α : Type}

namespace Action

variable {ε σ : Type} {step : Action ω ε σ (Option α)} {s s₁ s' : σ} {w w₁ w' : ω}

/-- A loop ends with the first round that has an answer. -/
theorem repeatUntil_answered {answer : Except ε α} (bound : Nat)
    (h : step.Answers s w (answer.map some) s' w') :
    (repeatUntil (bound + 1) step).Answers s w answer s' w' := by
  cases answer with
  | ok a => exact h.bind (show (pure a : Action ω ε σ α).Answers s' w' (.ok a) s' w' from rfl)
  | error e => exact h.bind_error

theorem repeatUntil_again (bound : Nat) (h : step s w = .done none s₁ w₁) :
    repeatUntil (bound + 1) step s w = repeatUntil bound step s₁ w₁ :=
  bind_done h

end Action

/-- What came of a receive: the errors that interrupted it, the answer that it had then, and how
much decoded input the transport held after it. -/
structure Take where
  interruptions : List IoError
  answer : Except IoError Bytes
  pending : Nat

namespace Take

def data (take : Take) : Bytes :=
  match take.answer with
  | .ok data => data
  | .error _ => []

/-- The calls that it takes, each with this room for input. -/
def calls (room : Nat) (take : Take) : List Call :=
  take.interruptions.map (fun e => .recv room (.error e)) ++ [.recv room take.answer]

/-- It brought something, and left decoded input with the transport. -/
def Leads (take : Take) : Prop := take.data ≠ [] ∧ 0 < take.pending

end Take

/-- The take that a transport gives to a receive that is made again after every interruption. -/
inductive Takes [Transport ω τ] (policy : Policy) (room : Nat) : τ → ω → Take → τ → ω → Prop
  | answered {t t' : τ} {w w' : ω} {answer : Except IoError Bytes}
    (h : (Transport.recv room).Answers t w answer t' w')
    (hn : ∀ e, answer = .error e → policy.judge .recv e ≠ .interrupted) :
    Takes policy room t w ⟨[], answer, Transport.pendingInput t'⟩ t' w'
  | again {t t₁ t' : τ} {w w₁ w' : ω} {e : IoError} {take : Take}
    (h : Transport.recv room t w = .refused e t₁ w₁) (hj : policy.judge .recv e = .interrupted)
    (rest : Takes policy room t₁ w₁ take t' w') :
    Takes policy room t w { take with interruptions := e :: take.interruptions } t' w'

/-- Takes, one after another. -/
inductive Series [Transport ω τ] (policy : Policy) (room : Nat) :
    τ → ω → List Take → τ → ω → Prop
  | nil {t : τ} {w : ω} : Series policy room t w [] t w
  | cons {t t₁ t' : τ} {w w₁ w' : ω} {take : Take} {takes : List Take}
    (h : Takes policy room t w take t₁ w₁) (rest : Series policy room t₁ w₁ takes t' w') :
    Series policy room t w (take :: takes) t' w'

/-- The patience of a transport is a bound on the interruptions that its receives meet in a row. -/
def Transport.Obliges (policy : Policy) (τ : Type) [Transport ω τ] : Prop :=
  ∀ (room : Nat) (t : τ) (w : ω), ∃ take t' w',
    Takes policy room t w take t' w' ∧ take.interruptions.length ≤ Transport.patience t

section

variable [Transport ω τ] {policy : Policy} {room : Nat} {t t' : τ} {w w' : ω} {take : Take}

theorem Takes.pending_eq (h : Takes policy room t w take t' w') :
    take.pending = Transport.pendingInput t' := by
  induction h with
  | answered _ _ => rfl
  | again _ _ _ ih => exact ih

theorem Takes.not_interrupted (h : Takes policy room t w take t' w') {e : IoError}
    (he : take.answer = .error e) : policy.judge .recv e ≠ .interrupted := by
  induction h with
  | answered _ hn => exact hn e he
  | again _ _ _ ih => exact ih he

theorem Series.not_interrupted {takes : List Take} (h : Series policy room t w takes t' w') :
    ∀ take ∈ takes, ∀ e, take.answer = .error e → policy.judge .recv e ≠ .interrupted := by
  induction h with
  | nil => nofun
  | cons h _ ih => exact List.forall_mem_cons.mpr ⟨fun _ he => h.not_interrupted he, ih⟩

end

section

variable [Transport ω τ] {policy : Policy} {room : Nat} {t t' : Recorded τ} {w w' : Recorder ω}
variable {take : Take} {takes : List Take}

theorem Takes.recorded {body : τ} {m : ω} (h : Takes policy room t.body w.machine take body m) :
    ∃ t' w', Takes policy room t w take t' w' := by
  generalize hb : t.body = b, hm : w.machine = m₀ at h
  induction h generalizing t w with
  | answered h hn =>
    subst hb hm
    exact ⟨_, _, .answered (Recorded.call_answers_iff.mpr ⟨_, _, h, rfl, rfl⟩) hn⟩
  | @again b b₁ b' m₀ m₁ m' e take h hj _ ih =>
    subst hb hm
    have hcall : (Transport.recv room).Answers t w (.error e) ⟨t.device, b₁⟩
        (w.note t.device (.recv room (.error e)) m₁) :=
      Recorded.call_answers_iff.mpr ⟨_, _, h, rfl, rfl⟩
    obtain ⟨t', w', hrest⟩ := ih (t := ⟨t.device, b₁⟩)
      (w := w.note t.device (.recv room (.error e)) m₁) rfl rfl
    exact ⟨t', w', .again hcall hj hrest⟩

theorem Transport.Obliges.recorded (h : Transport.Obliges policy τ) :
    Transport.Obliges policy (Recorded τ) := fun room t w => by
  obtain ⟨take, body, m, htake, hbound⟩ := h room t.body w.machine
  obtain ⟨t', w', htake⟩ := htake.recorded
  exact ⟨take, t', w', htake, hbound⟩

/-- The record tells the calls of a take. -/
theorem Takes.told (h : Takes policy room t w take t' w') :
    t'.device = t.device ∧ w'.calls = w.calls ++ (take.calls room).map (⟨t.device, ·⟩) ∧
      Takes policy room t.body w.machine take t'.body w'.machine := by
  induction h with
  | answered h hn =>
    obtain ⟨body, m, hbody, rfl, rfl⟩ := Recorded.call_answers_iff.mp h
    exact ⟨rfl, rfl, .answered hbody hn⟩
  | @again t t₁ t' w w₁ w' e take h hj _ ih =>
    obtain ⟨body, m, hbody, rfl, rfl⟩ := Recorded.call_answers_iff.mp
      (show (Transport.recv room).Answers t w (.error e) t₁ w₁ from h)
    obtain ⟨hdevice, hcalls, hrest⟩ := ih
    refine ⟨hdevice, ?_, .again hbody hj hrest⟩
    rw [hcalls]
    exact List.append_assoc ..

theorem Series.told (h : Series policy room t w takes t' w') :
    t'.device = t.device ∧
      w'.calls = w.calls ++ (takes.flatMap (Take.calls room)).map (⟨t.device, ·⟩) ∧
      Series policy room t.body w.machine takes t'.body w'.machine := by
  induction h with
  | nil => exact ⟨rfl, (List.append_nil _).symm, .nil⟩
  | cons h _ ih =>
    obtain ⟨hdevice, hcalls, htake⟩ := h.told
    obtain ⟨hdevice', hcalls', hrest⟩ := ih
    refine ⟨hdevice'.trans hdevice, ?_, .cons htake hrest⟩
    rw [hcalls', hcalls, hdevice, List.flatMap_cons, List.map_append, List.append_assoc]

end

namespace Connection

/-- What a receive with this answer tells its caller. -/
def brought (policy : Policy) : Except IoError Bytes → Except ChannelError Received
  | .ok [] => .ok .ended
  | .ok _ => .ok .data
  | .error e => if policy.judge .recv e = .fatal then .error (.failed e) else .ok .wouldBlock

variable {c : Connection τ} {t t' : τ} {w w' : ω} {take : Take}
variable [Transport ω τ]

theorem receiveOnce_answered {answer : Except IoError Bytes} (ht : c.transport = some t)
    (hx : (Transport.recv c.chunk).Answers t w answer t' w')
    (hn : ∀ e, answer = .error e → c.policy.judge .recv e ≠ .interrupted) :
    receiveOnce.Answers c w ((brought c.policy answer).map some) (c.received answer t') w' := by
  have hrun : receiveOnce c w = _ :=
    (Action.bind_done (Action.subject_apply c w)).trans
      (Action.bind_done (onTransport_done ht hx))
  match answer with
  | .ok [] => exact hrun
  | .ok (b :: data) => exact hrun
  | .error e =>
    dsimp only at hrun
    cases hj : c.policy.judge .recv e with
    | retry =>
      rw [received_passing (by simp [hj]), brought, hj, if_neg (by decide)]
      rw [hj] at hrun
      exact hrun
    | interrupted => exact absurd hj (hn e rfl)
    | fatal =>
      have hcore : c.received (.error e) t' =
          { c with core := c.core.deactivate, transport := some t' } := by
        simp [received, heard, mapCore, afterCall, afterError, hj]
      rw [hcore, brought, if_pos hj]
      rw [hj] at hrun
      exact hrun

theorem receiveOnce_interrupted {e : IoError} (ht : c.transport = some t)
    (hx : Transport.recv c.chunk t w = .refused e t' w')
    (hj : c.policy.judge .recv e = .interrupted) :
    receiveOnce c w = .done none { c with transport := some t' } w' := by
  have hrun : receiveOnce c w = _ :=
    (Action.bind_done (Action.subject_apply c w)).trans
      (Action.bind_done (onTransport_done ht
        (show (Transport.recv c.chunk).Answers t w (.error e) t' w' from hx)))
  dsimp only at hrun
  rw [hj] at hrun
  exact hrun

theorem receiveOnce_takes (h : Takes c.policy c.chunk t w take t' w') (ht : c.transport = some t)
    {bound : Nat} (hbound : take.interruptions.length ≤ bound) :
    (Action.repeatUntil (bound + 1) receiveOnce).Answers c w (brought c.policy take.answer)
      (c.received take.answer t') w' := by
  generalize hp : c.policy = policy, hr : c.chunk = room at h
  induction h generalizing c bound with
  | answered h hn =>
    subst hp hr
    exact Action.repeatUntil_answered bound (receiveOnce_answered ht h hn)
  | @again t t₁ t' w w₁ w' e take h hj _ ih =>
    subst hp hr
    obtain ⟨rest, rfl⟩ := Nat.exists_eq_add_one.mpr (Nat.lt_of_lt_of_le (Nat.succ_pos _) hbound)
    exact (ih (c := { c with transport := some t₁ }) rfl (Nat.le_of_succ_le_succ hbound) rfl
      rfl).of_eq (Action.repeatUntil_again _ (receiveOnce_interrupted ht h hj))

/-- A receive is made again until it is not interrupted. -/
theorem receive_takes (h : Takes c.policy c.chunk t w take t' w') (ht : c.transport = some t)
    (hbound : take.interruptions.length ≤ Transport.patience t) :
    receive.Answers c w (brought c.policy take.answer) (c.received take.answer t') w' := by
  refine (receiveOnce_takes h ht hbound).of_eq ?_
  rw [receive, Action.bind_apply, Action.subject_apply, ← patience_eq ht]

/-! ## Receives until nothing is pending -/

/-- The connection after these takes, over this transport. -/
def drawn (c : Connection τ) (takes : List Take) (t : τ) : Connection τ :=
  { c with
    core := takes.foldl
      (fun core take => afterCall c.policy core (.recv c.chunk take.answer)) c.core
    transport := some t }

/-- What the receives of a read come to with this last answer, after earlier ones if it received. -/
def told (policy : Policy) (received : Bool) (answer : Except IoError Bytes) :
    Except ChannelError Unit :=
  match answer with
  | .ok [] => if received then .ok () else .error .closed
  | .ok _ => .ok ()
  | .error e => if policy.judge .recv e = .fatal then .error (.failed e) else .ok ()

theorem hasMoreInput_received (h : Takes c.policy c.chunk t w take t' w') (drain : Bool) :
    (c.received take.answer t').hasMoreInput drain = true ↔ drain = true ∧ 0 < take.pending := by
  rw [h.pending_eq]
  simp [hasMoreInput, received]

/-- Receives go on from a take that leads on. -/
theorem drainInput_leads {drain : Bool} (rounds : Nat) (received : Bool) (ht : c.transport = some t)
    (h : Takes c.policy c.chunk t w take t' w')
    (hbound : take.interruptions.length ≤ Transport.patience t)
    (hleads : drain = true ∧ take.Leads) :
    drainInput drain (rounds + 1) received c w =
      drainInput drain rounds true (c.received take.answer t') w' := by
  have hreceive := receive_takes h ht hbound
  obtain ⟨hdrain, hdata, hpending⟩ := hleads
  have hmore := (hasMoreInput_received h drain).mpr ⟨hdrain, hpending⟩
  obtain ⟨interruptions, answer, pending⟩ := take
  cases answer with
  | error e => exact absurd rfl hdata
  | ok data =>
    cases data with
    | nil => exact absurd rfl hdata
    | cons b data =>
      rw [drainInput, Action.bind_done hreceive]
      dsimp only
      rw [Action.bind_done (Action.subject_apply _ _), if_pos hmore]

/-- They end with a take that does not. -/
theorem drainInput_stops {drain received : Bool} (rounds : Nat) (ht : c.transport = some t)
    (h : Takes c.policy c.chunk t w take t' w')
    (hbound : take.interruptions.length ≤ Transport.patience t)
    (hlast : ¬ (drain = true ∧ take.Leads)) :
    (drainInput drain (rounds + 1) received).Answers c w (told c.policy received take.answer)
      (c.received take.answer t') w' := by
  have hreceive := receive_takes h ht hbound
  have hmore := hasMoreInput_received h drain
  obtain ⟨interruptions, answer, pending⟩ := take
  rw [drainInput]
  cases answer with
  | ok data =>
    cases data with
    | nil =>
      refine Action.Answers.bind hreceive ?_
      cases received <;> rfl
    | cons b data =>
      have hnone : ¬ (c.received (.ok (b :: data)) t').hasMoreInput drain = true := fun hm =>
        hlast ⟨(hmore.mp hm).1, List.cons_ne_nil b data, (hmore.mp hm).2⟩
      refine Action.Answers.bind hreceive ?_
      dsimp only
      refine Action.Answers.bind (a := c.received (.ok (b :: data)) t') rfl ?_
      rw [if_neg hnone]
      rfl
  | error e =>
    dsimp only [brought] at hreceive
    dsimp only [told]
    by_cases hj : c.policy.judge .recv e = .fatal
    · rw [if_pos hj] at hreceive ⊢
      exact hreceive.bind_error
    · rw [if_neg hj] at hreceive ⊢
      exact hreceive.bind rfl

/-- The receives of a read, from one that it begins with: all but the last lead on, and if the last
does not, the read ends with it. -/
theorem drainInput_takes (hobliges : Transport.Obliges c.policy τ) (ht : c.transport = some t)
    (drain : Bool) (rounds : Nat) (received : Bool) : ∃ earlier last t' w',
      Series c.policy c.chunk t w (earlier ++ [last]) t' w' ∧
      (∀ take ∈ earlier, drain = true ∧ take.Leads) ∧
      (drain = true ∧ last.Leads → earlier.length = rounds ∧
        drainInput drain (rounds + 1) received c w = .halted .spinning w') ∧
      (¬ (drain = true ∧ last.Leads) → (drainInput drain (rounds + 1) received).Answers c w
        (told c.policy (received || !earlier.isEmpty) last.answer)
        (c.drawn (earlier ++ [last]) t') w') := by
  induction rounds generalizing c t w received with
  | zero =>
    obtain ⟨take, t', w', h, hbound⟩ := hobliges c.chunk t w
    refine ⟨[], take, t', w', .cons h .nil, nofun, fun hleads => ⟨rfl, ?_⟩, fun hlast => ?_⟩
    · exact drainInput_leads 0 received ht h hbound hleads
    · rw [List.isEmpty_nil, Bool.not_true, Bool.or_false]
      exact drainInput_stops 0 ht h hbound hlast
  | succ rounds ih =>
    obtain ⟨take, t₁, w₁, h, hbound⟩ := hobliges c.chunk t w
    by_cases hleads : drain = true ∧ take.Leads
    · obtain ⟨earlier, last, t', w', hseries, hearlier, hhalts, hends⟩ :=
        ih (c := c.received take.answer t₁) (w := w₁) hobliges rfl true
      have hrest := drainInput_leads (rounds + 1) received ht h hbound hleads
      refine ⟨take :: earlier, last, t', w', .cons h hseries,
        List.forall_mem_cons.mpr ⟨hleads, hearlier⟩, fun hlast => ?_, fun hlast => ?_⟩
      · exact ⟨congrArg (· + 1) (hhalts hlast).1, hrest.trans (hhalts hlast).2⟩
      · rw [List.isEmpty_cons, Bool.not_false, Bool.or_true]
        exact (hends hlast).of_eq hrest
    · refine ⟨[], take, t₁, w₁, .cons h .nil, nofun, fun hlast => absurd hlast hleads, fun _ => ?_⟩
      rw [List.isEmpty_nil, Bool.not_true, Bool.or_false]
      exact drainInput_stops (rounds + 1) ht h hbound hleads

section

variable {takes : List Take}

omit [Transport ω τ]

theorem drawn_input : (c.drawn takes t).core.input.toList =
    c.core.input.toList ++ takes.flatMap Take.data := by
  have hinput (core : ChannelCore) : (takes.foldl (fun core take =>
      afterCall c.policy core (.recv c.chunk take.answer)) core).input.toList =
        core.input.toList ++ takes.flatMap Take.data := by
    induction takes generalizing core with
    | nil => exact (List.append_nil _).symm
    | cons take takes ih =>
      have hdata : (Call.recv c.chunk take.answer).delivered = take.data := by
        obtain ⟨_, answer, _⟩ := take
        cases answer <;> rfl
      rw [List.foldl_cons, ih, afterCall_input, hdata, List.flatMap_cons, List.append_assoc]
  exact hinput c.core

theorem drawn_active_iff : (c.drawn takes t).core.active = true ↔ c.core.active = true ∧
    ∀ take ∈ takes, ¬ (Call.recv c.chunk take.answer).Finishes c.policy := by
  have hactive (core : ChannelCore) : (takes.foldl (fun core take =>
      afterCall c.policy core (.recv c.chunk take.answer)) core).active = true ↔
        core.active = true ∧
          ∀ take ∈ takes, ¬ (Call.recv c.chunk take.answer).Finishes c.policy := by
    induction takes generalizing core with
    | nil => simp
    | cons take takes ih =>
      rw [List.foldl_cons, ih, afterCall_active, List.forall_mem_cons, and_assoc]
  exact hactive c.core

end

end Connection

/-! ## Reads on readiness -/

namespace Session

open Connection

variable [Machine ω] [Transport ω τ]

/-- Reads on readiness are refused and do not touch anything, now and whatever is done; all but a
lingering connection are told that it is closed. -/
def Deaf (s : Session τ ω) : Prop :=
  s.connection.core.active = false ∧ s.connection.lingering = false ∧
    ∀ ops s', s.play ops = some s' → s'.step .onRead =
      some (.error (if s'.connection.lingering then .dataNotAvailable else .closed), s')

/-- What a read on readiness came to whose last take is this one, after others or not. -/
def CameTo (s : Session τ ω) (again : Bool) (last : Take) (result : Except ChannelError Bytes) :
    Prop :=
  match last.answer with
  | .ok [] => s.Deaf ∧ result = if again then .ok [] else .error .closed
  | .ok _ => s.connection.core.active = true ∧ result = .ok [] ∧
    (s.connection.policy = .secure → last.pending = 0)
  | .error e =>
    match s.connection.policy.judge .recv e with
    | .retry => s.connection.core.active = true ∧ result = .ok []
    | .fatal => s.Deaf ∧ result = .error (.failed e)
    | .interrupted => False

variable {c₀ : Connection (Recorded τ)} {s : Session τ ω}

theorem CameTo.deaf_of_inactive {again : Bool} {last : Take} {result : Except ChannelError Bytes}
    (h : s.CameTo again last result) (hi : s.connection.core.active = false) : s.Deaf := by
  obtain ⟨interruptions, answer, pending⟩ := last
  unfold CameTo at h
  match answer with
  | .ok [] => exact h.1
  | .ok (b :: data) => cases hi.symm.trans h.1
  | .error e =>
    dsimp only at h
    cases hj : s.connection.policy.judge .recv e with
    | retry =>
      rw [hj] at h
      cases hi.symm.trans h.1
    | interrupted =>
      rw [hj] at h
      exact h.elim
    | fatal =>
      rw [hj] at h
      exact h.1

theorem onRead_refused (hi : s.connection.core.active = false) : s.step .onRead =
    some (.error (if s.connection.lingering then .dataNotAvailable else .closed), s) := by
  have hread : (ChannelOp.onRead).perform.Answers s.connection s.machine
      (.error (if s.connection.lingering then .dataNotAvailable else .closed)) s.connection
      s.machine := by
    change (do Connection.onRead; pure []) s.connection s.machine = _
    rw [Action.bind_apply, onRead_inactive hi]
  rw [step_of_answers hread]
  simp [ChannelOp.queued, ChannelOp.taken]

theorem deaf_of_inactive (hi : s.connection.core.active = false)
    (hl : s.connection.lingering = false) : s.Deaf :=
  ⟨hi, hl, fun ops s' hplay => onRead_refused (over_of_inactive hi ops s' hplay).1⟩

/-- What leads on ends nothing, so the last take alone tells what has become of the connection. -/
theorem cameTo_drawn {s' : Session τ ω} {earlier : List Take} {last : Take} {t : Recorded τ}
    (hdrawn : s'.connection = s.connection.drawn (earlier ++ [last]) t)
    (ha : s.connection.core.active = true) (hl : s.connection.lingering = false)
    (hearlier : ∀ take ∈ earlier, take.Leads)
    (hlast : ¬ (s.connection.policy = .secure ∧ last.Leads))
    (hn : ∀ e, last.answer = .error e → s.connection.policy.judge .recv e ≠ .interrupted) :
    s'.CameTo (!earlier.isEmpty) last
      ((told s.connection.policy (!earlier.isEmpty) last.answer).map fun _ => []) := by
  have hpolicy : s'.connection.policy = s.connection.policy := by rw [hdrawn]; rfl
  have hlingering : s'.connection.lingering = false := by rw [hdrawn]; exact hl
  have hactive : s'.connection.core.active = true ↔
      ¬ (Call.recv s.connection.chunk last.answer).Finishes s.connection.policy := by
    have hgoes : ∀ take ∈ earlier,
        ¬ (Call.recv s.connection.chunk take.answer).Finishes s.connection.policy := by
      intro take hmem hfinishes
      obtain ⟨hdata, -⟩ := hearlier take hmem
      obtain ⟨interruptions, answer, pending⟩ := take
      cases answer with
      | ok data => exact hdata hfinishes
      | error e => exact hdata rfl
    rw [hdrawn, drawn_active_iff, List.forall_mem_append, List.forall_mem_singleton]
    exact ⟨fun h => h.2.2, fun h => ⟨ha, hgoes, h⟩⟩
  have hdeaf (hfinishes : (Call.recv s.connection.chunk last.answer).Finishes
      s.connection.policy) : s'.Deaf :=
    deaf_of_inactive (Bool.eq_false_iff.mpr fun h => hactive.mp h hfinishes) hlingering
  obtain ⟨interruptions, answer, pending⟩ := last
  unfold CameTo
  rw [hpolicy]
  match answer with
  | .ok [] =>
    refine ⟨hdeaf rfl, ?_⟩
    cases earlier.isEmpty <;> rfl
  | .ok (b :: data) =>
    refine ⟨hactive.mpr (List.cons_ne_nil b data), rfl, fun hsecure => ?_⟩
    exact Nat.eq_zero_of_not_pos fun hpending =>
      hlast ⟨hsecure, List.cons_ne_nil b data, hpending⟩
  | .error e =>
    dsimp only [told]
    cases hj : s.connection.policy.judge .recv e with
    | retry =>
      refine ⟨hactive.mpr fun hfatal : _ = Verdict.fatal => ?_, rfl⟩
      cases hj.symm.trans hfatal
    | interrupted => exact hn e rfl hj
    | fatal => exact ⟨hdeaf hj, rfl⟩

/-- Whatever became of a connection and of the machine, while it is active and in the mode that does
not wait: over a transport whose receives are interrupted only so often in a row, a read on
readiness makes some receives, each of them again after every interruption.

* Under the plain policy there is one.
* Under the secure policy there is another after each that brought something and left decoded input
  with the transport, and after no other. That the transport has more of it than it has patience is
  the only way not to come to an end.

Nothing else is called, and all that was received is in the input. When the last receive is the end
of the input, the connection is closed and takes nothing in any more; the read says so if nothing
came before, and otherwise leaves it for the next one. When it brought something the connection goes
on, and under the secure policy no decoded input is left. When it has an error, the connection goes
on if that will pass, and is closed if it is fatal. -/
theorem readiness_drained (hmade : c₀.Established) (hops : ChannelOps.Operated c₀ s.connection)
    (hobliges : Transport.Obliges s.connection.policy τ)
    (hactive : s.connection.core.active = true)
    (hmode : s.connection.core.mode.isBlocking = false) :
    ∃ t earlier last body machine,
      s.connection.transport = some t ∧
      Series s.connection.policy s.connection.chunk t.body s.machine.machine (earlier ++ [last])
        body machine ∧
      (s.connection.policy = .plain → earlier = []) ∧
      (∀ take ∈ earlier, take.Leads) ∧
      (s.connection.policy = .secure ∧ last.Leads →
        earlier.length = Transport.patience t.body ∧ s.step .onRead = none) ∧
      (¬ (s.connection.policy = .secure ∧ last.Leads) → ∃ result s',
        s.step .onRead = some (result, s') ∧
        s'.connection.transport = some ⟨t.device, body⟩ ∧
        s'.machine.machine = machine ∧
        s'.machine.calls = s.machine.calls ++
          ((earlier ++ [last]).flatMap (Take.calls s.connection.chunk)).map (⟨t.device, ·⟩) ∧
        s'.connection.core.input.toList =
          s.connection.core.input.toList ++ (earlier ++ [last]).flatMap Take.data ∧
        s'.CameTo (!earlier.isEmpty) last result) := by
  have hpossesses := operated_possesses hmade hops
  have hl := hpossesses.not_lingering hactive
  obtain ⟨t, ht⟩ := Option.isSome_iff_exists.mp (hpossesses.active hactive)
  have hdrain : (s.connection.policy.drainsReads && !s.connection.core.mode.isBlocking) = true ↔
      s.connection.policy = .secure := by
    rw [hmode]
    cases s.connection.policy <;> decide
  obtain ⟨earlier, last, t', w', hseries, hearlier, hhalts, hends⟩ :=
    drainInput_takes (w := s.machine) hobliges.recorded ht
      (s.connection.policy.drainsReads && !s.connection.core.mode.isBlocking)
      (Transport.patience t) false
  have hread := onRead_active (w := s.machine) hactive hl
  rw [patience_eq ht] at hread
  rw [hdrain] at hhalts hends
  obtain ⟨hdevice, hcalls, hbodies⟩ := hseries.told
  refine ⟨t, earlier, last, t'.body, w'.machine, ht, hbodies, fun hplain => ?_,
    fun take hmem => (hearlier take hmem).2, fun hlast => ⟨(hhalts hlast).1, ?_⟩, fun hlast => ?_⟩
  · refine List.eq_nil_iff_forall_not_mem.mpr fun take hmem => ?_
    cases hplain.symm.trans (hdrain.mp (hearlier take hmem).1)
  · have hperform : (ChannelOp.onRead).perform s.connection s.machine =
        .halted .spinning w' := by
      change (do Connection.onRead; pure []) s.connection s.machine = _
      rw [Action.bind_apply, hread, (hhalts hlast).2]
    simp only [step, hperform]
  · have hperform : (ChannelOp.onRead).perform.Answers s.connection s.machine
        ((told s.connection.policy (!earlier.isEmpty) last.answer).map fun _ => [])
        (s.connection.drawn (earlier ++ [last]) t') w' := by
      have hanswers := (hends hlast).of_eq hread
      change (do Connection.onRead; pure []).Answers s.connection s.machine _ _ _
      cases htold : told s.connection.policy (!earlier.isEmpty) last.answer with
      | ok _ =>
        rw [Bool.false_or, htold] at hanswers
        exact hanswers.bind rfl
      | error e =>
        rw [Bool.false_or, htold] at hanswers
        exact hanswers.bind_error
    refine ⟨_, _, step_of_answers hperform, ?_, rfl, hcalls, drawn_input, ?_⟩
    · exact congrArg some (by rw [← hdevice])
    · exact cameTo_drawn rfl hactive hl (fun take hmem => (hearlier take hmem).2) hlast
        (hseries.not_interrupted last (by simp))

end Session

namespace Scenario.Wire

open ChannelReactor.Action

/-- No receive beyond the script is interrupted. -/
theorem recvBeyond_completes (policy : Policy) (room : Nat) (w : Wire) (b : Bench) :
    (recvBeyond room).Completes w b (fun _ _ _ => True)
      (fun e _ _ => policy.judge .recv e ≠ .interrupted) := by
  have hexhausted : policy.judge .recv (.failure "script exhausted") ≠ .interrupted := by
    cases policy <;> decide
  rw [recvBeyond, completes_bind, completes_subject]
  split
  · trivial
  · cases w.mode with
    | nonblocking => exact judge_wouldBlock
    | upTo d => exact judge_wouldBlock
    | forever => exact hexhausted

/-- What is left of a wire's script of receives bounds the interruptions that it brings. -/
theorem recv_takes (policy : Policy) (room : Nat) {entries : List RecvEntry} {w : Wire} (b : Bench)
    (hw : w.script.recv = entries) : ∃ take w' b',
      Takes policy room w b take w' b' ∧ take.interruptions.length ≤ entries.length := by
  induction entries generalizing w b with
  | nil =>
    have hbeyond : Transport.recv room w b = recvBeyond room w b := by
      change recv room w b = _
      rw [recv, bind_done (subject_apply w b), hw]
    obtain ⟨answer, w', b', hx, ha⟩ :=
      (recvBeyond_completes policy room w b).answers
    refine ⟨_, w', b', .answered (hx.of_eq hbeyond) fun e he => ?_, Nat.le_refl 0⟩
    subst he
    exact ha
  | cons entry rest ih =>
    obtain ⟨answer, w', b', hx, ha⟩ := (recv_scripted hw room (b := b)).answers
    cases answer with
    | ok data => exact ⟨_, w', b', .answered hx (fun _ he => by cases he), Nat.zero_le _⟩
    | error e =>
      by_cases hj : policy.judge .recv e = .interrupted
      · obtain ⟨take, w'', b'', htake, hbound⟩ := ih b' ha.2
        exact ⟨_, w'', b'', .again hx hj htake, Nat.succ_le_succ hbound⟩
      · refine ⟨_, w', b', .answered hx fun e' he => ?_, Nat.zero_le _⟩
        cases he
        exact hj

theorem obliges (policy : Policy) : Transport.Obliges policy Wire := fun room w b => by
  obtain ⟨take, w', b', htake, hbound⟩ := recv_takes policy room b (w := w) rfl
  exact ⟨take, w', b', htake, Nat.le_trans hbound (length_le_patience w)⟩

end Scenario.Wire

namespace Session

open Connection

/-- A read that is interrupted on the way takes all that a wire has, in three parts, and leaves the
end behind them for the next read. -/
theorem readiness_drained_haltingWire :
    ∃ (c₀ : Connection (Recorded Scenario.Wire)) (s s' : Session Scenario.Wire Scenario.Bench)
      (t : Recorded Scenario.Wire) (earlier : List Take) (last : Take) (body : Scenario.Wire)
      (machine : Scenario.Bench),
      (c₀.Established ∧ ChannelOps.Operated c₀ s.connection ∧
        Transport.Obliges s.connection.policy Scenario.Wire ∧
        s.connection.core.active = true ∧ s.connection.core.mode.isBlocking = false) ∧
      s.connection.transport = some t ∧
      Series s.connection.policy s.connection.chunk t.body s.machine.machine (earlier ++ [last])
        body machine ∧
      (∀ take ∈ earlier, take.Leads) ∧
      s.step .onRead = some (.ok [], s') ∧
      s'.machine.calls = s.machine.calls ++
        ((earlier ++ [last]).flatMap (Take.calls s.connection.chunk)).map (⟨t.device, ·⟩) ∧
      s'.connection.core.input.toList = [1, 2, 3, 4] ∧
      s'.CameTo (!earlier.isEmpty) last (.ok []) ∧
      s'.step .onRead = some (.error .closed, s') := by
  have hrun : ((establish .secure { readChunk := 2 } ⟨0, haltingWire⟩ :
      Action _ _ Unit (Connection (Recorded Scenario.Wire))) () (Recorder.start {})).any
      (fun c₀ _ w₀ => (ChannelOps.operate [.setMode .nonblocking] c₀ w₀).any fun p =>
        p.1.core.active && !p.1.core.mode.isBlocking &&
          ((({ connection := p.1, machine := p.2 } : Session _ _).step .onRead).any fun next =>
            next.1.toOption == some [] && !next.2.connection.core.active &&
              next.2.connection.core.input.toList == [1, 2, 3, 4])) = true := by
    decide +kernel
  obtain ⟨c₀, _, w₀, hmade, hfacts⟩ := Outcome.any_eq_true.mp hrun
  obtain ⟨⟨c, w⟩, hoperate, hfacts⟩ := (Option.any_eq_true _ _).mp hfacts
  simp only [Bool.and_eq_true, Bool.not_eq_true'] at hfacts
  obtain ⟨⟨hactive, hmode⟩, hread⟩ := hfacts
  obtain ⟨⟨result, s'⟩, hstep, hnext⟩ := (Option.any_eq_true _ _).mp hread
  simp only [Bool.and_eq_true, Bool.not_eq_true', beq_iff_eq] at hnext
  obtain ⟨⟨hok, hinactive⟩, hinput⟩ := hnext
  have hestablished : c₀.Established := ⟨_, _, _, _, _, hmade⟩
  have hoperated : ChannelOps.Operated c₀ c := ChannelOps.operated_of_operate hoperate
  have hobliges : Transport.Obliges c.policy Scenario.Wire := Scenario.Wire.obliges _
  obtain ⟨t, earlier, last, body, machine, ht, hseries, -, hearlier, hhalts, hends⟩ :=
    readiness_drained (s := { connection := c, machine := w }) hestablished hoperated hobliges
      hactive hmode
  have hlast : ¬ (c.policy = .secure ∧ last.Leads) := fun hleads => by
    cases hstep.symm.trans (hhalts hleads).2
  obtain ⟨result', s'', hstep', -, -, hcalls, -, hcame⟩ := hends hlast
  cases hstep.symm.trans hstep'
  obtain rfl : result = .ok [] := by
    cases result with
    | ok data => exact congrArg Except.ok (Option.some.inj hok)
    | error e => cases hok
  obtain ⟨-, hlingering, hnever⟩ := hcame.deaf_of_inactive hinactive
  have hnext := hnever [] s' rfl
  rw [hlingering] at hnext
  exact ⟨c₀, _, s', t, earlier, last, body, machine,
    ⟨hestablished, hoperated, hobliges, hactive, hmode⟩, ht, hseries, hearlier, hstep, hcalls,
    hinput, hcame, hnext⟩

end Session

end ChannelReactor
