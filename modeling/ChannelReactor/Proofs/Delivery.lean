import ChannelReactor.Proofs.ConnectionEnds
import ChannelReactor.Proofs.Conservation
import ChannelReactor.Proofs.Journal

/-! # The delivery of output

A connection that its application closes, however often, while it is registered, gives its transport
back only after the transport has taken all output, unless the transport itself brought the output
to a halt. What says so of a connection and its journal is kept by every operation. -/
namespace ChannelReactor

variable {ω τ : Type}

namespace Note

/-- No call accepted more than it was offered, and none brought the output to a halt. -/
def Intact (policy : Policy) (notes : List Note) : Prop :=
  ∀ n ∈ notes, n.call.WithinOffer ∧ ¬ n.call.Breaks policy

instance (policy : Policy) (notes : List Note) : Decidable (Intact policy notes) :=
  inferInstanceAs (Decidable (∀ n ∈ notes, n.call.WithinOffer ∧ ¬ n.call.Breaks policy))

/-- The last call is the first close; before it, all that was written was accepted, and the
transport said that it had no output of its own. -/
def Delivered (notes : List Note) (written : Bytes) : Prop :=
  ∃ before answer, notes = before ++ [⟨false, .close answer⟩] ∧ (∀ n ∈ before, ¬ n.Closes) ∧
    accepted before = written

theorem Delivered.accepted_eq {notes : List Note} {written : Bytes} (h : Delivered notes written) :
    accepted notes = written := by
  obtain ⟨before, answer, rfl, -, hw⟩ := h
  rw [accepted_append, accepted_single, hw]
  exact List.append_nil _

end Note

namespace Connection

/-- The transport was not closed, and what it accepted and then the output is what was written. -/
structure Balanced (notes : List Note) (written : Bytes) (k : Connection (Logged τ)) : Prop where
  unclosed : ∀ n ∈ notes, ¬ n.Closes
  kept : (∀ n ∈ notes, n.call.WithinOffer) →
    Note.accepted notes ++ k.core.output.toList = written

/-- A connection after these calls, writes and closes. -/
structure Upheld (notes : List Note) (written : Bytes) (closes : List Bool)
    (k : Connection (Logged τ)) : Prop where
  held : k.transport.isSome = true → Balanced notes written k
  /-- A closed connection lingers until its transport is gone. -/
  shut : closes ≠ [] → k.core.active = false ∧ (k.lingering = true ∨ k.transport = none)
  lingers : k.lingering = true → closes ≠ [] ∧ k.transport.isSome = true
  /-- The transport is gone after closes, and if all were made while the connection was registered,
  nothing was lost by them. -/
  parted : k.transport = none → closes ≠ [] ∧
    ((∀ registered ∈ closes, registered = true) → Note.Intact k.policy notes →
      Note.Delivered notes written)

variable {notes base : List Note} {written : Bytes} {closes : List Bool}
variable {k k' : Connection (Logged τ)} {w w' : Archive ω}

/-- A connection that is active, or has its transport and does not linger, was never closed. -/
theorem Upheld.closes_nil (h : Upheld notes written closes k)
    (hopen : k.core.active = true ∨ k.lingering = false ∧ k.transport.isSome = true) :
    closes = [] := by
  cases closes with
  | nil => rfl
  | cons registered rest =>
    obtain ⟨hinactive, hend⟩ := h.shut (by simp)
    obtain ha | ⟨hl, ht⟩ := hopen
    · rw [hinactive] at ha
      cases ha
    · obtain hl' | hn := hend
      · rw [hl'] at hl
        cases hl
      · rw [hn] at ht
        cases ht

theorem Upheld.transport_isSome (h : Upheld notes written [] k) : k.transport.isSome = true := by
  cases ht : k.transport with
  | none => exact absurd rfl (h.parted ht).1
  | some t => rfl

/-- A core with the same output, activity and transport. -/
theorem Upheld.recore {core : ChannelCore} (h : Upheld notes written closes k)
    (houtput : core.output = k.core.output) (hactive : core.active = k.core.active) :
    Upheld notes written closes { k with core := core } := by
  refine ⟨fun ht => ⟨(h.held ht).unclosed, fun hw => ?_⟩, fun hne => ?_, h.lingers, h.parted⟩
  · change Note.accepted notes ++ core.output.toList = written
    rw [houtput]
    exact (h.held ht).kept hw
  · rw [show ({ k with core := core } : Connection (Logged τ)).core.active = core.active from rfl,
      hactive]
    exact h.shut hne

theorem Upheld.retuned {f : ChannelCore → ChannelCore} (h : Upheld notes written closes k)
    (hf : ChannelCore.Retunes f) : Upheld notes written closes (k.mapCore f) := by
  obtain ⟨mode, registration, hcore⟩ := hf k.core
  rw [mapCore, hcore]
  exact h.recore rfl rfl

/-- What is written to an active connection joins its output. -/
theorem Upheld.enqueued (data : Bytes) (h : Upheld notes written closes k)
    (ha : k.core.active = true) :
    Upheld notes (written ++ data) closes (k.mapCore (·.enqueue data)) := by
  have hnil := h.closes_nil (.inl ha)
  refine ⟨fun ht => ⟨(h.held ht).unclosed, fun hw => ?_⟩, fun hne => absurd hnil hne, h.lingers,
    fun hn => absurd hnil (h.parted hn).1⟩
  rw [← (h.held ht).kept hw, List.append_assoc]
  simp [mapCore, ChannelCore.enqueue]

theorem Upheld.deactivated (h : Upheld notes written closes k) :
    Upheld notes written closes (k.mapCore ChannelCore.deactivate) :=
  ⟨fun ht => ⟨(h.held ht).unclosed, (h.held ht).kept⟩, fun hne => ⟨rfl, (h.shut hne).2⟩, h.lingers,
    h.parted⟩

/-- One more close, of a connection that lingers or has no transport, changes nothing. -/
theorem Upheld.again {registered : Bool} (h : Upheld notes written closes k)
    (hinactive : k.core.active = false) (hend : k.lingering = true ∨ k.transport = none) :
    Upheld notes written (closes ++ [registered]) k := by
  refine ⟨h.held, fun _ => ⟨hinactive, hend⟩, fun hl => ⟨by simp, (h.lingers hl).2⟩, fun hn => ?_⟩
  exact ⟨by simp, fun hall => (h.parted hn).2 fun b hb => hall b (List.mem_append_left _ hb)⟩

/-- The first close makes a connection linger whose flush was blocked. -/
theorem Upheld.lingering {registered : Bool} (h : Upheld notes written [] k)
    (hinactive : k.core.active = false) :
    Upheld notes written [registered] { k with lingering := true } :=
  ⟨fun ht => ⟨(h.held ht).unclosed, (h.held ht).kept⟩, fun _ => ⟨hinactive, .inl rfl⟩,
    fun _ => ⟨by simp, h.transport_isSome⟩, fun hn => absurd rfl (h.parted hn).1⟩

variable [Transport ω τ]

theorem Upheld.established (h : k.Established) : Upheld [] [] [] k := by
  obtain ⟨hempty, htransport, hlingering⟩ := h.fresh
  refine ⟨fun _ => ⟨fun _ hn => (by cases hn), fun _ => ?_⟩, fun hne => absurd rfl hne, fun hl => ?_,
    fun hn => ?_⟩
  · rw [hempty]
    rfl
  · rw [hlingering] at hl
    cases hl
  · rw [hn] at htransport
    cases htransport

theorem Balanced.call {t' : Logged τ} {call : Call} {wanted : Bool} (h : Balanced notes written k)
    (hm : k.Makes call) :
    Balanced (notes ++ [⟨wanted, call⟩]) written
      { k with core := afterCall k.policy k.core call, transport := some t' } := by
  refine ⟨fun n hn => ?_, fun hw => ?_⟩
  · rw [List.mem_append, List.mem_singleton] at hn
    obtain hn | rfl := hn
    · exact h.unclosed n hn
    · rintro ⟨answer, rfl⟩
      exact hm
  · have hwithin : call.WithinOffer := hw ⟨wanted, call⟩ (by simp)
    have hbefore := h.kept fun n hn => hw n (List.mem_append_left _ hn)
    rw [Note.accepted_append, Note.accepted_single, List.append_assoc]
    change Note.accepted notes ++ (call.accepted ++ (afterCall k.policy k.core call).output.toList) =
      written
    rw [afterCall_output hm hwithin]
    exact hbefore

theorem Upheld.call {t t' : Logged τ} {call : Call} {wanted : Bool}
    (h : Upheld notes written closes k) (ht : k.transport = some t) (hm : k.Makes call) :
    Upheld (notes ++ [⟨wanted, call⟩]) written closes
      { k with core := afterCall k.policy k.core call, transport := some t' } := by
  have hsome : k.transport.isSome = true := ht ▸ rfl
  refine ⟨fun _ => (h.held hsome).call hm, fun hne => ?_, fun hl => ⟨(h.lingers hl).1, rfl⟩,
    fun hn => (by cases hn)⟩
  obtain ⟨hinactive, hl | hn⟩ := h.shut hne
  · exact ⟨afterCall_inactive hinactive, .inl hl⟩
  · rw [hn] at ht
    cases ht

theorem Exchange.noted {p q : Connection (Logged τ) × Archive ω} {calls : List Call}
    (h : Exchange p calls q) :
    ∃ more, q.2.notes = p.2.notes ++ more ∧ more.map (·.call) = calls := by
  induction h with
  | none => exact ⟨[], by simp, rfl⟩
  | @call calls c w w' t t' call _ _ _ hc ih =>
    obtain ⟨more, hmore, rfl⟩ := ih
    refine ⟨more ++ [⟨Transport.wantsWrite t, call⟩], ?_, by simp⟩
    change w.notes = p.2.notes ++ more at hmore
    change w'.notes = _
    rw [hc.noted, hmore, List.append_assoc]

theorem Exchange.upheld {p q : Connection (Logged τ) × Archive ω} {calls : List Call}
    (hx : Exchange p calls q) (h : Upheld (base ++ p.2.notes) written closes p.1) :
    Upheld (base ++ q.2.notes) written closes q.1 := by
  induction hx with
  | none => exact h
  | @call calls c w w' t t' call _ ht hm hc ih =>
    change Upheld (base ++ w'.notes) written closes _
    rw [hc.noted, ← List.append_assoc]
    exact ih.call ht hm

theorem Exchanged.upheld (hx : Exchanged (k, w) (k', w'))
    (h : Upheld (base ++ w.notes) written closes k) :
    Upheld (base ++ w'.notes) written closes k' :=
  hx.choose_spec.upheld h

/-- The notes of an exchange that failed while there was a transport are not intact. -/
theorem Fails.not_intact {e : ChannelError} (hf : Fails (k, w) e (k', w'))
    (ht : k'.transport.isSome = true) : ¬ Note.Intact k'.policy (base ++ w'.notes) := by
  obtain ⟨-, -, hn⟩ | ⟨⟨calls, hx, call, hcall, hbreaks⟩, -⟩ := hf
  · change k'.transport = none at hn
    rw [hn] at ht
    cases ht
  · obtain ⟨more, hmore, rfl⟩ := hx.noted
    obtain ⟨n, hn, rfl⟩ := List.mem_map.mp hcall
    change w'.notes = w.notes ++ more at hmore
    intro hintact
    have hmem : n ∈ base ++ w'.notes := by
      rw [hmore]
      exact List.mem_append_right _ (List.mem_append_right _ hn)
    exact (hintact n hmem).2 hbreaks

/-- A transport that is closed after all output was sent, or after a halt, or by a close that is
not among those made while the connection was registered. -/
theorem Upheld.released {t : Logged τ} {answer : Except IoError Unit} {closes' : List Bool}
    (h : Upheld notes written closes k) (ht : k.transport = some t)
    (hinactive : k.core.active = false) (hne : closes' ≠ [])
    (hwhy : (∀ registered ∈ closes', registered = true) → Note.Intact k.policy notes →
      k.Settled) :
    Upheld (notes ++ [⟨Transport.wantsWrite t, .close answer⟩]) written closes' k.released := by
  refine ⟨fun hs => (by cases hs), fun _ => ⟨hinactive, .inr rfl⟩, fun hl => (by cases hl),
    fun _ => ⟨hne, fun hall hintact => ?_⟩⟩
  have hbefore : Note.Intact k.policy notes := fun n hn => hintact n (List.mem_append_left _ hn)
  obtain ⟨hempty, t', ht', hquiet⟩ := hwhy hall hbefore
  cases ht.symm.trans ht'
  have hbalanced := h.held (ht ▸ rfl)
  have hkept := hbalanced.kept fun n hn => (hbefore n hn).1
  rw [hempty, List.append_nil] at hkept
  exact ⟨notes, answer, by rw [hquiet], hbalanced.unclosed, hkept⟩

/-- A connection that parts with its transport was settled before, if nothing else can be the
reason. -/
theorem Parts.upheld {p q : Connection (Logged τ) × Archive ω} {closes' : List Bool}
    {P : Connection (Logged τ) × Archive ω → Prop} (hparts : Parts p P q)
    (h : Upheld (base ++ p.2.notes) written closes p.1) (ht : p.1.transport.isSome = true)
    (hinactive : p.1.core.active = false) (hne : closes' ≠ [])
    (hwhy : ∀ k w, k.transport.isSome = true → P (k, w) →
      (∀ registered ∈ closes', registered = true) → Note.Intact k.policy (base ++ w.notes) →
        k.Settled) :
    Upheld (base ++ q.2.notes) written closes' q.1 ∧ q.1.lingering = false := by
  obtain ⟨k, w, w', hx, hp, hparts, rfl⟩ := hparts
  have hsome : k.transport.isSome = true := hx.kept.transport.trans ht
  obtain ⟨t, ht'⟩ := Option.isSome_iff_exists.mp hsome
  rw [PartsWith, ht'] at hparts
  obtain ⟨answer, t', hclose⟩ := hparts
  refine ⟨?_, rfl⟩
  change Upheld (base ++ w'.notes) written closes' k.released
  rw [hclose.noted, ← List.append_assoc]
  exact (hx.upheld h).released ht' (hx.kept.inactive hinactive) hne (hwhy k w hsome hp)

-- Each operation is run on a fresh page: the notes that were made before stand in `base`, and those
-- of the operation are on the machine.

theorem Engaged.upheld (hx : Engaged (k, w) (k', w'))
    (h : Upheld (base ++ w.notes) written closes k) :
    Upheld (base ++ w'.notes) written closes k' :=
  hx.1.upheld h

theorem applyMode_upheld {mode : WaitMode} :
    Action.Keeps (fun k w => Upheld (base ++ w.notes) written closes k)
      (applyMode (ω := Archive ω) (τ := Logged τ) mode) := fun _ _ h =>
  (applyMode_exchanged .refl).mono (fun _ _ _ hx => hx.1.upheld h) (fun _ _ _ hx => hx.upheld h)

theorem read_upheld [Machine ω] {count : Nat} {opts : ReadOptions} :
    Action.Keeps (fun k w => Upheld (base ++ w.notes) written closes k)
      (read (ω := Archive ω) (τ := Logged τ) count opts) := by
  intro k w h
  refine read_exchanged.mono (fun data k' w' hx => ?_) (fun _ _ _ hx => hx.upheld h)
  obtain ⟨k₁, core, hx, hcore, rfl⟩ := hx
  obtain ⟨input, rfl, -⟩ := ChannelCore.takeInput_ok hcore
  exact (hx.upheld h).recore rfl rfl

theorem write_upheld {data : Bytes} (h : Upheld (base ++ w.notes) written closes k) :
    (write data).Ends k w
      (fun _ k' w' => Upheld (base ++ w'.notes)
        (written ++ if k.core.active then data else []) closes k')
      (fun _ k' w' => Upheld (base ++ w'.notes)
        (written ++ if k.core.active then data else []) closes k') := by
  have hqueued {k' : Connection (Logged τ)} {w' : Archive ω} (ha : k.core.active = true)
      (hx : Exchanged (k.mapCore (·.enqueue data), w) (k', w')) :
      Upheld (base ++ w'.notes) (written ++ if k.core.active then data else []) closes k' := by
    rw [if_pos ha]
    exact hx.upheld (h.enqueued data ha)
  refine write_exchanged.mono (fun _ k' w' ⟨ha, hx⟩ => hqueued ha hx) (fun e k' w' hx => ?_)
  obtain ⟨ha, hx⟩ | ⟨hi, -, rfl, rfl⟩ := hx
  · exact hqueued ha hx
  · rw [if_neg (by simp [hi]), List.append_nil]
    exact h

/-- A lingering connection is only told that there is nothing to read. -/
theorem onRead_upheld (h : Upheld (base ++ w.notes) written closes k) :
    onRead.Ends k w (fun _ k' w' => Upheld (base ++ w'.notes) written closes k')
      (fun e k' w' => Upheld (base ++ w'.notes) written closes k' ∧
        (k'.lingering = true → e = .dataNotAvailable)) := by
  refine onRead_exchanged.mono (fun _ k' w' hx => hx.2.upheld h) (fun e k' w' hx => ?_)
  obtain ⟨hl, hx⟩ | ⟨-, rfl, rfl, rfl⟩ := hx
  · refine ⟨hx.upheld h, fun hl' => ?_⟩
    rw [hx.1.kept.lingering, hl] at hl'
    cases hl'
  · exact ⟨h, fun _ => rfl⟩

/-- A connection of which this refuses to send does not linger any more. -/
theorem onWrite_upheld (h : Upheld (base ++ w.notes) written closes k) :
    onWrite.Ends k w (fun _ k' w' => Upheld (base ++ w'.notes) written closes k')
      (fun _ k' w' => Upheld (base ++ w'.notes) written closes k' ∧ k'.lingering = false) := by
  refine onWrite_exchanged.mono (fun _ k' w' hx => hx.1.upheld h) (fun e k' w' hx => ?_)
  obtain ⟨hl, hx⟩ | ⟨hl, hparts⟩ := hx
  · exact ⟨hx.upheld h, hx.kept.lingering.trans hl⟩
  · obtain ⟨hne, ht⟩ := h.lingers hl
    refine hparts.upheld h ht (h.shut hne).1 hne fun k₁ w₁ ht₁ hwhy _ hintact => ?_
    obtain hsettled | hf := hwhy
    · exact hsettled
    · exact absurd hintact (hf.not_intact ht₁)

/-- A close of a connection without a transport makes it inactive at most. -/
theorem close_parted (hn : k.transport = none) :
    close.Ends k w (fun _ k' w' => k' = k.mapCore ChannelCore.deactivate ∧ w' = w)
      (fun e _ _ => e.elim) := by
  refine close_exchanged.mono (fun _ k' w' hc => ?_) (fun e _ _ _ => e.elim)
  cases hc with
  | idle _ => exact ⟨rfl, rfl⟩
  | lingers hx _ _ hheld =>
    obtain ⟨t, ht, -⟩ := hheld
    have hsome := hx.kept.transport
    rw [ht, mapCore, hn] at hsome
    cases hsome
  | parts ht _ =>
    rw [mapCore, hn] at ht
    cases ht

/-- A close by which the transport is given back comes after all output was sent, unless the
connection was not registered or the output was brought to a halt. -/
theorem close_upheld (h : Upheld (base ++ w.notes) written closes k) :
    close.Ends k w
      (fun _ k' w' => Upheld (base ++ w'.notes) written (closes ++ [k.core.isRegistered]) k')
      (fun e _ _ => e.elim) := by
  have hclosed := h.deactivated
  refine close_exchanged.mono (fun _ k' w' hc => ?_) (fun e _ _ _ => e.elim)
  cases hc with
  | idle hend => exact hclosed.again rfl (hend.symm.imp_left And.left)
  | @lingers k₁ w₁ hx hl _ hheld =>
    obtain ⟨t, ht, -⟩ := hheld
    have hsome : k.transport.isSome = true := hx.kept.transport.symm.trans (ht ▸ rfl)
    obtain rfl := h.closes_nil (.inr ⟨hl, hsome⟩)
    exact (hx.upheld hclosed).lingering (hx.kept.inactive rfl)
  | parts ht hparts =>
    refine (hparts.upheld hclosed ht rfl (by simp) fun k₁ w₁ ht₁ hwhy hall hintact => ?_).1
    obtain hsettled | ⟨e, hf⟩ | hdetached := hwhy
    · exact hsettled
    · exact absurd hintact (hf.not_intact ht₁)
    · have hregistered : k.core.isRegistered = true := hall _ (by simp)
      exact absurd (hdetached.symm.trans hregistered) (by decide)

end Connection

end ChannelReactor
