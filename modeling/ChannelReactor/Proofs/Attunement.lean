import ChannelReactor.Proofs.Enduring
import ChannelReactor.Scenario.Wire

/-! # Connections attuned to their transports

Over a transport whose mode can always be set, the mode that a connection records is the one that
its transport was last set to, as long as the connection is active; and while a reactor has it, both
do not wait. A wait with a deadline sets the transport to shorter and shorter modes and puts the
recorded one back, however it ends. -/
namespace ChannelReactor

variable {ω τ : Type}

/-- The mode of the transport can always be set. -/
def Transport.AlwaysSets (ω τ : Type) [Transport ω τ] : Prop :=
  ∀ (mode : WaitMode) (t t' : τ) (w w' : ω) (e : IoError),
    (Transport.setMode mode : Action ω IoError τ Unit) t w ≠ .refused e t' w'

/-- The mode that a device was last set to. -/
def lastMode (device : Nat) (calls : List Record) : Option WaitMode :=
  ((callsOf device calls).filterMap Call.mode?).getLast?

theorem lastMode_append_single (device : Nat) (calls : List Record) (call : Call) :
    lastMode device (calls ++ [⟨device, call⟩]) = call.mode?.or (lastMode device calls) := by
  rw [lastMode, lastMode, callsOf_append, callsOf_single, List.filterMap_append]
  cases hmode : call.mode? with
  | none => rw [List.filterMap_cons_none hmode, List.filterMap_nil, List.append_nil, Option.none_or]
  | some mode =>
    rw [List.filterMap_cons_some hmode, List.filterMap_nil, List.getLast?_concat, Option.some_or]

namespace Connection

/-- The connection has its transport, this mode and this registration. -/
structure Holds (mode : WaitMode) (registration : Option Registration)
    (c : Connection (Recorded τ)) : Prop where
  transport : ∃ t, c.transport = some t ∧ t.device = 0
  mode : c.core.mode = mode
  registration : c.core.registration = registration
  lingering : c.lingering = true → c.core.active = false

/-- And the transport was last set to that mode. -/
def Tuned (mode : WaitMode) (registration : Option Registration) (c : Connection (Recorded τ))
    (w : Recorder ω) : Prop :=
  c.Holds mode registration ∧ lastMode 0 w.calls = some mode

/-- An active connection and its transport have one mode, and a registered one has not to wait. -/
structure Attuned (c : Connection (Recorded τ)) (w : Recorder ω) : Prop where
  device : ∀ t, c.transport = some t → t.device = 0
  normal : c.core.mode.normalized = c.core.mode
  prior : ∀ registration, c.core.registration = some registration →
    registration.prior.normalized = registration.prior
  lingering : c.lingering = true → c.core.active = false
  active : c.core.active = true → c.transport.isSome = true ∧
    lastMode 0 w.calls = some c.core.mode
  registered : c.core.isRegistered = true → c.core.mode = .nonblocking ∧
    lastMode 0 w.calls = some .nonblocking

section

variable {c : Connection (Recorded τ)} {w : Recorder ω}

theorem Attuned.tuned (h : c.Attuned w) (ha : c.core.active = true) :
    c.Tuned c.core.mode c.core.registration w := by
  obtain ⟨hheld, hlast⟩ := h.active ha
  obtain ⟨t, ht⟩ := Option.isSome_iff_exists.mp hheld
  exact ⟨⟨⟨t, ht, h.device t ht⟩, rfl, rfl, h.lingering⟩, hlast⟩

/-- A connection that is tuned as an attuned one is attuned too. -/
theorem Attuned.of_tuned {c' : Connection (Recorded τ)} {w' : Recorder ω} (h : c.Attuned w)
    (ht : c'.Tuned c.core.mode c.core.registration w') : c'.Attuned w' := by
  obtain ⟨⟨⟨t, ht, hdevice⟩, hmode, hregistration, hlingering⟩, hlast⟩ := ht
  refine ⟨fun t' ht' => ?_, by rw [hmode]; exact h.normal, fun registration hr => ?_, hlingering,
    fun _ => ⟨by rw [ht]; rfl, by rw [hmode]; exact hlast⟩, fun hr => ?_⟩
  · cases ht.symm.trans ht'
    exact hdevice
  · exact h.prior registration (hregistration ▸ hr)
  · have hnonblocking : c.core.mode = .nonblocking := by
      refine (h.registered ?_).1
      rw [ChannelCore.isRegistered, ← hregistration]
      exact hr
    rw [hmode, hlast, hnonblocking]
    exact ⟨rfl, rfl⟩

end

variable [Transport ω τ] {c : Connection (Recorded τ)} {w : Recorder ω}

/-- What was last set stands when a call sets no mode. -/
theorem lastMode_made {call : Call} {t t' : Recorded τ} {w' : Recorder ω} (hdevice : t.device = 0)
    (h : call.Made t w t' w') (hmode : call.mode? = none) :
    t'.device = 0 ∧ lastMode 0 w'.calls = lastMode 0 w.calls := by
  obtain ⟨hsame, hcalls⟩ := h.recorded
  rw [hdevice] at hsame hcalls
  rw [hcalls, lastMode_append_single, hmode]
  exact ⟨hsame, rfl⟩

theorem holds_endures (mode : WaitMode) (registration : Option Registration) :
    Endures fun (c : Connection (Recorded τ)) (_ : Recorder ω) => c.Holds mode registration where
  call h ht hm hmode := by
    obtain ⟨t, ht', hdevice⟩ := h.transport
    cases ht.symm.trans ht'
    exact ⟨⟨_, rfl, (lastMode_made hdevice hm hmode).1⟩, h.mode, h.registration, h.lingering⟩
  core hf h := ⟨h.transport, (hf.mode _).trans h.mode, (hf.registration _).trans h.registration,
    fun hl => hf.inactive _ (h.lingering hl)⟩

theorem tuned_endures (mode : WaitMode) (registration : Option Registration) :
    Endures fun (c : Connection (Recorded τ)) (w : Recorder ω) => c.Tuned mode registration w where
  call h ht hm hmode := by
    obtain ⟨t, ht', hdevice⟩ := h.1.transport
    cases ht.symm.trans ht'
    exact ⟨(holds_endures mode registration).call h.1 ht hm hmode,
      (lastMode_made hdevice hm hmode).2.trans h.2⟩
  core := by
    intro c w f hf h
    have hholds : Endures fun (c : Connection (Recorded τ)) (_ : Recorder ω) =>
        c.Holds mode registration := holds_endures mode registration
    exact ⟨hholds.core (w := w) hf h.1, h.2⟩

theorem attuned_outlasts :
    Outlasts fun (c : Connection (Recorded τ)) (w : Recorder ω) => c.Attuned w where
  call h ht hm hmode := by
    obtain ⟨hdevice, hlast⟩ := lastMode_made (h.device _ ht) hm hmode
    exact ⟨fun t ht => by cases ht; exact hdevice, h.normal, h.prior, h.lingering,
      fun ha => ⟨rfl, hlast.trans (h.active ha).2⟩,
      fun hr => ⟨(h.registered hr).1, hlast.trans (h.registered hr).2⟩⟩
  core := by
    intro c w f hf h
    have hmode : (c.mapCore f).core.mode = c.core.mode := hf.mode _
    have hregistration : (c.mapCore f).core.registration = c.core.registration :=
      hf.registration _
    refine ⟨h.device, by rw [hmode]; exact h.normal, by rw [hregistration]; exact h.prior,
      fun hl => hf.inactive _ (h.lingering hl), fun ha => ?_, fun hr => ?_⟩
    · have hactive : c.core.active = true := by
        cases hi : c.core.active with
        | true => rfl
        | false => exact (hf.inactive _ hi).symm.trans ha
      rw [hmode]
      exact h.active hactive
    · rw [hmode]
      refine h.registered ?_
      rw [ChannelCore.isRegistered, ← hregistration]
      exact hr
  linger h hi := ⟨h.device, h.normal, h.prior, fun _ => hi, h.active, h.registered⟩
  part := by
    intro c w h hover
    have hi : c.core.active = false := hover.elim h.lingering id
    refine ⟨fun t ht => (by cases ht), h.normal, h.prior, fun hl => (by cases hl), fun ha => ?_,
      h.registered⟩
    exact absurd (hi.symm.trans ha) (by decide)

/-- A mode that can be set is set, unless the transport is gone. -/
theorem applyMode_ends (hsets : Transport.AlwaysSets ω τ) (mode : WaitMode)
    (hdevice : ∀ t, c.transport = some t → t.device = 0) :
    (applyMode mode).Ends c w
      (fun _ c' w' => ∃ t, c.transport.isSome = true ∧ t.device = 0 ∧
        c' = { c with transport := some t } ∧ lastMode 0 w'.calls = some mode)
      (fun _ c' w' => c.transport = none ∧ c' = c ∧ w' = w) := by
  rw [applyMode, callTransport, Action.ends_bind]
  refine onTransport_answers (fun t t' w' answer ht hx => ?_) (fun hn => ⟨hn, rfl, rfl⟩)
  have hmade : (Call.setMode mode answer).Made t w t' w' := hx
  obtain ⟨hsame, hcalls⟩ := hmade.recorded
  cases answer with
  | ok u =>
    refine ⟨t', by rw [ht]; rfl, hsame.trans (hdevice t ht), rfl, ?_⟩
    rw [hcalls, hdevice t ht, lastMode_append_single]
    rfl
  | error e =>
    have hrefused : (Recorded.call (.setMode mode) (Transport.setMode mode)) t w =
        .refused e t' w' := hx
    unfold Recorded.call at hrefused
    split at hrefused
    · cases hrefused
    · rename_i e' body m hbody
      exact absurd hbody (hsets _ _ _ _ _ _)
    · cases hrefused

theorem applyMode_holds (hsets : Transport.AlwaysSets ω τ) {mode mode' : WaitMode}
    {registration : Option Registration} (h : c.Holds mode registration) :
    (applyMode mode').Ends c w
      (fun _ c' w' => c'.Holds mode registration ∧ lastMode 0 w'.calls = some mode')
      (fun _ _ _ => False) := by
  obtain ⟨t, ht, hdevice⟩ := h.transport
  have hdevices : ∀ t', c.transport = some t' → t'.device = 0 := by
    intro t' ht'
    cases ht.symm.trans ht'
    exact hdevice
  refine (applyMode_ends hsets _ hdevices).mono (fun _ c' w' h' => ?_) (fun _ _ _ h' => ?_)
  · obtain ⟨t', -, hdevice', rfl, hlast⟩ := h'
    exact ⟨⟨⟨t', rfl, hdevice'⟩, h.mode, h.registration, h.lingering⟩, hlast⟩
  · rw [ht] at h'
    cases h'.1

section

variable [Machine ω]

theorem setMode_attuned (hsets : Transport.AlwaysSets ω τ) {mode : WaitMode} :
    Action.Keeps (fun (c : Connection (Recorded τ)) (w : Recorder ω) => c.Attuned w)
      (ChannelOps.setMode mode) := by
  refine Action.Keeps.bindSubject fun c w h => ?_
  split
  · exact h
  · rename_i hr
    rw [Action.ends_bind]
    refine (applyMode_ends hsets _ h.device).mono (fun _ c' w' h' => ?_) (fun _ c' w' h' => ?_)
    · obtain ⟨t, -, hdevice, rfl, hlast⟩ := h'
      have hnormal : (mode.normalized.normalized).normalized = mode.normalized.normalized := by
        simp
      refine ⟨fun t ht => by cases ht; exact hdevice, hnormal, h.prior, h.lingering,
        fun _ => ⟨rfl, ?_⟩, fun hr' => absurd hr' hr⟩
      change lastMode 0 w'.calls = some mode.normalized.normalized
      rw [hlast, WaitMode.normalized_normalized]
    · obtain ⟨-, rfl, rfl⟩ := h'
      exact h

theorem attach_attuned (hsets : Transport.AlwaysSets ω τ) {token : Token} :
    Action.Keeps (fun (c : Connection (Recorded τ)) (w : Recorder ω) => c.Attuned w)
      (ChannelOps.attach token) := by
  refine Action.Keeps.bindSubject fun c w h => ?_
  split
  · exact h
  · rw [Action.ends_bind]
    refine (applyMode_ends hsets _ h.device).mono (fun _ c' w' h' => ?_) (fun _ c' w' h' => ?_)
    · obtain ⟨t, -, hdevice, rfl, hlast⟩ := h'
      refine ⟨fun t ht => by cases ht; exact hdevice, rfl, fun registration hr => ?_, h.lingering,
        fun _ => ⟨rfl, hlast⟩, fun _ => ⟨rfl, hlast⟩⟩
      cases hr
      exact h.normal
    · obtain ⟨-, rfl, rfl⟩ := h'
      exact h

/-- A connection that leaves its reactor goes back to the mode it had, which was a normal one. -/
theorem detach_attuned (hsets : Transport.AlwaysSets ω τ) :
    Action.Keeps (fun (c : Connection (Recorded τ)) (w : Recorder ω) => c.Attuned w)
      ChannelOps.detach := by
  refine Action.Keeps.bindSubject fun c w h => ?_
  split
  · exact h
  · rename_i registration hr
    have hprior : registration.prior.normalized = registration.prior := h.prior registration hr
    rw [Action.ends_bind, Action.ends_update, Action.ends_bind, Action.ends_subject]
    have hattuned {c' : Connection (Recorded τ)} {w' : Recorder ω}
        (hdevice : ∀ t, c'.transport = some t → t.device = 0)
        (hcore : c'.core = c.core.unregister.recordMode registration.prior)
        (hlingering : c'.lingering = c.lingering)
        (hactive : c.core.active = true → c'.transport.isSome = true ∧
          lastMode 0 w'.calls = some registration.prior) : c'.Attuned w' := by
      have hmode : c'.core.mode = registration.prior := by
        rw [hcore]
        exact hprior
      refine ⟨hdevice, by rw [hmode]; exact hprior, fun registration' hr' => ?_, fun hl => ?_,
        fun ha => ?_, fun hr' => ?_⟩
      · rw [hcore] at hr'
        cases hr'
      · rw [hcore]
        exact h.lingering (hlingering ▸ hl)
      · rw [hcore] at ha
        rw [hmode]
        exact hactive ha
      · rw [hcore] at hr'
        cases hr'
    split
    · rename_i ha
      have hactive : c.core.active = true := ha
      have hends := applyMode_ends (w := w) (c := c.mapCore fun core =>
        core.unregister.recordMode registration.prior) hsets registration.prior h.device
      refine hends.mono (fun _ c' w' h' => ?_) (fun _ c' w' h' => ?_)
      · obtain ⟨t, -, hdevice, rfl, hlast⟩ := h'
        exact hattuned (fun t ht => by cases ht; exact hdevice) rfl rfl fun _ => ⟨rfl, hlast⟩
      · have hheld := (h.active hactive).1
        rw [show c.transport = none from h'.1] at hheld
        cases hheld
    · rename_i hi
      exact hattuned h.device rfl rfl fun ha => absurd ha hi

/-- However a wait ends, the transport is in the recorded mode after it. -/
theorem fill_tuned (hsets : Transport.AlwaysSets ω τ) {mode : WaitMode}
    {registration : Option Registration} {count : Nat} :
    Action.Keeps (fun (c : Connection (Recorded τ)) (w : Recorder ω) =>
      c.Tuned mode registration w) (fill count) := by
  refine Action.Keeps.bindSubject fun c w h => ?_
  have hmode : c.core.mode = mode := h.1.mode
  rw [Action.ends_bind, Action.deadline, Action.ends_bind, Action.now, Action.ends_ask]
  split
  · rename_i deadline _
    rw [Action.ends_pure, Action.ends_bind, Action.ends_attempt]
    cases deadline with
    | none =>
      have hwait := (tuned_endures (ω := ω) (τ := τ) mode registration).fillUntil count none
        fun hn => absurd rfl hn
      exact (hwait c w h).mono (fun _ _ _ h' => h') (fun _ _ _ h' => h')
    | some deadline =>
      have hwait := (holds_endures (ω := ω) (τ := τ) mode registration).fillUntil count
        (some deadline) fun _ mode' c w h =>
          (applyMode_holds hsets h).mono (fun _ _ _ h' => h'.1) (fun _ _ _ h' => h'.elim)
      -- The wait has left the transport in some mode; the one of the channel is set after it.
      have hback {c' : Connection (Recorded τ)} {w' : Recorder ω}
          (result : Except ChannelError Unit)
          (h' : c'.Holds mode registration) :
          (do
            if (some deadline).isSome && (← Action.subject).transport.isSome then
              applyMode c.core.mode
            Action.ofExcept result : Action _ _ (Connection (Recorded τ)) Unit).Ends c' w'
            (fun _ c' w' => c'.Tuned mode registration w')
            (fun _ c' w' => c'.Tuned mode registration w') := by
        obtain ⟨t, ht, -⟩ := h'.transport
        rw [Action.ends_bind, Action.ends_subject, if_pos (by rw [ht]; rfl), Action.ends_bind,
          hmode]
        refine (applyMode_holds hsets h').mono (fun _ c'' w'' h'' => ?_) (fun _ _ _ hf => hf.elim)
        exact Action.keeps_ofExcept c'' w'' h''
      exact (hwait c w h.1).mono (fun _ c' w' h' => hback (.ok ()) h')
        (fun e c' w' h' => hback (.error e) h')
  · trivial

theorem read_tuned (hsets : Transport.AlwaysSets ω τ) {mode : WaitMode}
    {registration : Option Registration} {count : Nat} {opts : ReadOptions} :
    Action.Keeps (fun (c : Connection (Recorded τ)) (w : Recorder ω) =>
      c.Tuned mode registration w) (read count opts) := by
  have htake := (tuned_endures (ω := ω) (τ := τ) mode registration).takeInput count opts
  refine Action.keeps_subject.bind fun c => ?_
  split
  · exact (fill_tuned hsets).bind fun _ => htake
  · exact htake

/-- An inactive connection is read without a wait. -/
theorem read_attuned (hsets : Transport.AlwaysSets ω τ) {count : Nat} {opts : ReadOptions} :
    Action.Keeps (fun (c : Connection (Recorded τ)) (w : Recorder ω) => c.Attuned w)
      (read count opts) := by
  intro c w h
  cases ha : c.core.active with
  | true =>
    exact (read_tuned hsets c w (h.tuned ha)).mono (fun _ _ _ h' => h.of_tuned h')
      (fun _ _ _ h' => h.of_tuned h')
  | false =>
    rw [read, Action.ends_bind, Action.ends_subject, if_neg (by simp [ha])]
    exact attuned_outlasts.takeInput count opts c w h

end

end Connection

theorem ChannelOp.perform_attuned [Transport ω τ] [Machine ω] (hsets : Transport.AlwaysSets ω τ)
    (op : ChannelOp) :
    Action.Keeps (fun (c : Connection (Recorded τ)) (w : Recorder ω) => c.Attuned w)
      op.perform := by
  cases op with
  | write data => exact (Connection.attuned_outlasts.write data).bind fun _ => Action.keeps_pure
  | read count opts => exact Connection.read_attuned hsets
  | onRead => exact Connection.attuned_outlasts.onRead.bind fun _ => Action.keeps_pure
  | onWrite => exact Connection.attuned_outlasts.onWrite.bind fun _ => Action.keeps_pure
  | setMode mode => exact (Connection.setMode_attuned hsets).bind fun _ => Action.keeps_pure
  | attach token => exact (Connection.attach_attuned hsets).bind fun _ => Action.keeps_pure
  | detach => exact (Connection.detach_attuned hsets).bind fun _ => Action.keeps_pure
  | close => exact Connection.attuned_outlasts.close.sure.bind fun _ => Action.keeps_pure

namespace Session

variable [Transport ω τ] {s₀ s : Session τ ω}

/-- A connection is made in the mode that its transport is set to. -/
theorem opened_attuned {policy : Policy} {settings : ChannelSettings} {transport : τ} {machine : ω}
    (h : opened policy settings transport machine = some s) : s.connection.Attuned s.machine := by
  have he : (Connection.establish policy settings ⟨0, transport⟩ : Action _ _ Unit _).Ends ()
      (Recorder.start machine) (fun c _ w => c.Attuned w) (fun _ _ _ => True) := by
    refine Connection.establish_ends (fun _ _ => trivial) fun _ => ?_
    refine Recorded.call_ends (fun _ t' w' hdevice hcalls => ?_) (fun _ _ _ _ _ => trivial)
    have hlast : lastMode 0 w'.calls = some .forever := by
      rw [hcalls]
      rfl
    refine ⟨fun t ht => ?_, rfl, fun _ hr => (by cases hr), fun hl => (by cases hl),
      fun _ => ⟨rfl, hlast⟩, fun hr => (by cases hr)⟩
    cases ht
    exact hdevice
  unfold opened at h
  split at h
  · rename_i c u w hx
    cases h
    exact he.done hx
  · cases h

variable [Machine ω]

/-- After any operations on a connection whose transport can always be set, the transport of an
active connection was last set to the mode that the connection records, which is a normal one; with
a reactor neither waits. A read, in whatever it ends, leaves both in the mode they had. -/
theorem modes_agree (hsets : Transport.AlwaysSets ω τ) {policy : Policy}
    {settings : ChannelSettings} {transport : τ} {machine : ω}
    (hopen : opened policy settings transport machine = some s₀) (ops : List ChannelOp)
    (hplay : s₀.play ops = some s) :
    (s.connection.core.active = true → ∃ t, s.connection.transport = some t ∧
      lastMode t.device s.machine.calls = some s.connection.core.mode) ∧
    s.connection.core.mode.normalized = s.connection.core.mode ∧
    (s.connection.core.isRegistered = true → s.connection.core.mode = .nonblocking ∧
      ∀ t, s.connection.transport = some t →
        lastMode t.device s.machine.calls = some .nonblocking) ∧
    ∀ count opts result s', s.connection.core.active = true →
      s.step (.read count opts) = some (result, s') →
        s'.connection.core.mode = s.connection.core.mode ∧ ∃ t, s'.connection.transport = some t ∧
          lastMode t.device s'.machine.calls = some s.connection.core.mode := by
  have hstep : ∀ op (s : Session τ ω) result s', s.connection.Attuned s.machine →
      s.step op = some (result, s') → s'.connection.Attuned s'.machine :=
    fun op s result s' h hx =>
      (op.perform_attuned hsets _ _ h).leaves (answers_of_step hx).leaves
  have h : s.connection.Attuned s.machine :=
    play_keeps hstep ops s₀ s (opened_attuned hopen) hplay
  refine ⟨fun ha => ?_, h.normal, fun hr => ⟨(h.registered hr).1, fun t ht => ?_⟩,
    fun count opts result s' ha hx => ?_⟩
  · obtain ⟨⟨⟨t, ht, hdevice⟩, -, -, -⟩, hlast⟩ := h.tuned ha
    exact ⟨t, ht, hdevice ▸ hlast⟩
  · rw [h.device t ht]
    exact (h.registered hr).2
  · have htuned := (Connection.read_tuned hsets _ _ (h.tuned ha)).leaves (answers_of_step hx).leaves
    obtain ⟨⟨⟨t, ht, hdevice⟩, hmode, -, -⟩, hlast⟩ := htuned
    exact ⟨hmode, t, ht, hdevice ▸ hlast⟩

/-- A wire whose mode can always be set. -/
structure PliantWire where
  wire : Scenario.Wire

namespace PliantWire

variable {ε α : Type}

def onWire (x : Action Scenario.Bench ε Scenario.Wire α) : Action Scenario.Bench ε PliantWire α :=
  Action.focus wire (fun wire _ => ⟨wire⟩) x

instance : Transport Scenario.Bench PliantWire where
  send data := onWire (Transport.send data)
  recv room := onWire (Transport.recv room)
  setMode mode := onWire (Action.update fun wire => { wire with mode })
  close := onWire Transport.close
  descriptor t := t.wire.descriptor
  patience t := Transport.patience t.wire

end PliantWire

/-- A wire that has one byte after a while, and then nothing. -/
def slowWire : PliantWire where
  wire.name := "slow"
  wire.script.recv := [{ act := .data [7], tick := ⟨40⟩ }]

/-- A read of two bytes within a hundred nanoseconds waits for as long as is left, and in vain; the
whole hundred are set again after it. -/
theorem modes_agree_slowWire :
    ∃ s₀ s : Session PliantWire Scenario.Bench,
      opened .plain { readChunk := 4 } slowWire {} = some s₀ ∧
      s₀.play [.setMode (.upTo ⟨100⟩), .read 2 {}] = some s ∧
      (callsOf 0 s.machine.calls).filterMap Call.mode? =
        [.forever, .upTo ⟨100⟩, .upTo ⟨100⟩, .upTo ⟨60⟩, .upTo ⟨100⟩] ∧
      (s.connection.core.active = true → ∃ t, s.connection.transport = some t ∧
        lastMode t.device s.machine.calls = some s.connection.core.mode) ∧
      s.connection.core.mode.normalized = s.connection.core.mode ∧
      (s.connection.core.isRegistered = true → s.connection.core.mode = .nonblocking ∧
        ∀ t, s.connection.transport = some t →
          lastMode t.device s.machine.calls = some .nonblocking) ∧
      ∀ count opts result s', s.connection.core.active = true →
        s.step (.read count opts) = some (result, s') →
          s'.connection.core.mode = s.connection.core.mode ∧
          ∃ t, s'.connection.transport = some t ∧
            lastMode t.device s'.machine.calls = some s.connection.core.mode := by
  have hrun : ((opened .plain { readChunk := 4 } slowWire {}).bind
      (play [.setMode (.upTo ⟨100⟩), .read 2 {}])).any
      (fun s => (callsOf 0 s.machine.calls).filterMap Call.mode? ==
        [.forever, .upTo ⟨100⟩, .upTo ⟨100⟩, .upTo ⟨60⟩, .upTo ⟨100⟩]) = true := by
    decide +kernel
  obtain ⟨s, hs, hmodes⟩ := (Option.any_eq_true _ _).mp hrun
  obtain ⟨s₀, hopen, hplay⟩ := Option.bind_eq_some_iff.mp hs
  exact ⟨s₀, s, hopen, hplay, eq_of_beq hmodes,
    modes_agree (fun _ _ _ _ _ _ => nofun) hopen _ hplay⟩

end Session

end ChannelReactor
