import ChannelReactor.Proofs.Backing
import ChannelReactor.Proofs.Delivery
import ChannelReactor.Proofs.Inactivity
import ChannelReactor.Proofs.Possession
import ChannelReactor.Proofs.Transparency

/-! # Final closes

A channel that is closed when no reactor has it any more is closed for good, whatever it was before
and whatever its transport answers: it is inactive, its device is gone and its output dropped, and
what it had received stays to be read. A transport is closed once in the life of its channel, which
the channel's journal shows. -/
namespace ChannelReactor

variable {ω ε η τ α β χ γ δ : Type}

/-- The last call is a close, and there is no other. -/
def Note.ClosedOnce (notes : List Note) : Prop :=
  ∃ before last, notes = before ++ [last] ∧ last.Closes ∧ ∀ n ∈ before, ¬ n.Closes

namespace Connection

/-- What is true of a connection and of all calls on its transport between any two operations. -/
structure Reckoned (notes : List Note) (k : Connection (Logged τ)) : Prop extends Possesses k where
  unclosed : k.transport.isSome = true → ∀ n ∈ notes, ¬ n.Closes
  closed : k.transport = none → Note.ClosedOnce notes

variable {notes base : List Note} {k k' : Connection (Logged τ)} {w w' : Archive ω}

/-- Another core with no more activity and no other output will do. -/
theorem Reckoned.recore {core : ChannelCore} (h : k.Reckoned notes)
    (hactive : k.core.active = false → core.active = false)
    (houtput : core.output = k.core.output) : Reckoned notes { k with core } :=
  ⟨h.toPossesses.recore hactive houtput, h.unclosed, h.closed⟩

theorem Reckoned.retuned {f : ChannelCore → ChannelCore} (h : k.Reckoned notes)
    (hf : ChannelCore.Retunes f) : (k.mapCore f).Reckoned notes := by
  obtain ⟨mode, registration, hcore⟩ := hf k.core
  rw [mapCore, hcore]
  exact h.recore id rfl

variable [Transport ω τ]

theorem Reckoned.established (h : k.Established) : k.Reckoned [] where
  toPossesses := h.possesses
  unclosed _ _ hn := absurd hn List.not_mem_nil
  closed hn := by
    have ht := h.fresh.2.1
    rw [hn] at ht
    cases ht

/-- No call of an exchange is a close. -/
theorem Exchanged.unclosed (hx : Exchanged (k, w) (k', w'))
    (h : ∀ n ∈ base ++ w.notes, ¬ n.Closes) : ∀ n ∈ base ++ w'.notes, ¬ n.Closes := by
  obtain ⟨calls, hx⟩ := hx
  generalize hq : (k', w') = q at hx
  induction hx generalizing k' w' with
  | none =>
    cases hq
    exact h
  | @call calls c w₁ w₂ t t' call _ _ hm hc ih =>
    cases hq
    intro n hn
    rw [hc.noted, ← List.append_assoc, List.mem_append, List.mem_singleton] at hn
    obtain hn | rfl := hn
    · exact ih rfl n hn
    · rintro ⟨answer, rfl⟩
      exact hm

theorem Reckoned.exchanged (h : k.Reckoned (base ++ w.notes)) (hx : Exchanged (k, w) (k', w')) :
    k'.Reckoned (base ++ w'.notes) where
  toPossesses := h.toPossesses.exchanged hx
  unclosed ht := hx.unclosed (h.unclosed (hx.kept.transport.symm.trans ht))
  closed hn := by
    have hnone : k.transport = none := by
      rw [← Option.not_isSome_iff_eq_none, ← hx.kept.transport, hn]
      exact Bool.false_ne_true
    cases hx.idle hnone
    exact h.closed hnone

/-- The close by which an inactive connection parts with its transport is the only one. -/
theorem Parts.reckoned {P : Connection (Logged τ) × Archive ω → Prop}
    (hparts : Parts (k, w) P (k', w')) (h : k.Reckoned (base ++ w.notes))
    (hinactive : k.core.active = false) : k'.Reckoned (base ++ w'.notes) := by
  obtain ⟨k₁, w₁, w₂, hx, -, hclose, hq⟩ := hparts
  cases hq
  have h₁ := h.exchanged hx
  refine ⟨.released (hx.kept.inactive hinactive), fun ht => (by cases ht), fun _ => ?_⟩
  unfold PartsWith at hclose
  split at hclose
  · rw [hclose]
    exact h₁.closed ‹_›
  · rename_i t ht
    obtain ⟨answer, t', hmade⟩ := hclose
    rw [hmade.noted, ← List.append_assoc]
    exact ⟨_, _, rfl, ⟨answer, rfl⟩, h₁.unclosed (ht ▸ rfl)⟩

theorem applyMode_reckoned {mode : WaitMode} :
    Action.Keeps (fun k w => k.Reckoned (base ++ w.notes))
      (applyMode (ω := Archive ω) (τ := Logged τ) mode) := fun _ _ h =>
  (applyMode_exchanged .refl).mono (fun _ _ _ hx => h.exchanged hx.1)
    (fun _ _ _ hx => h.exchanged hx)

theorem read_reckoned [Machine ω] {count : Nat} {opts : ReadOptions} :
    Action.Keeps (fun k w => k.Reckoned (base ++ w.notes))
      (read (ω := Archive ω) (τ := Logged τ) count opts) := by
  intro k w h
  refine read_exchanged.mono (fun data k' w' hx => ?_) (fun _ _ _ hx => h.exchanged hx.1)
  obtain ⟨k₁, core, hx, hcore, rfl⟩ := hx
  obtain ⟨input, rfl, -⟩ := ChannelCore.takeInput_ok hcore
  exact (h.exchanged hx.1).recore id rfl

theorem write_reckoned {data : Bytes} :
    Action.Keeps (fun k w => k.Reckoned (base ++ w.notes))
      (write (ω := Archive ω) (τ := Logged τ) data) := by
  intro k w h
  have hqueued (ha : k.core.active = true) :
      (k.mapCore (·.enqueue data)).Reckoned (base ++ w.notes) := by
    refine ⟨⟨h.active, h.lingering, fun hn => ?_⟩, h.unclosed, h.closed⟩
    have ht := h.active ha
    rw [show k.transport = none from hn] at ht
    cases ht
  refine write_exchanged.mono (fun _ k' w' ⟨ha, hx⟩ => (hqueued ha).exchanged hx)
    (fun e k' w' hx => ?_)
  obtain ⟨ha, hx⟩ | ⟨-, -, rfl, rfl⟩ := hx
  · exact (hqueued ha).exchanged hx
  · exact h

theorem onRead_reckoned :
    Action.Keeps (fun k w => k.Reckoned (base ++ w.notes))
      (onRead (ω := Archive ω) (τ := Logged τ)) := by
  intro k w h
  refine onRead_exchanged.mono (fun _ k' w' hx => h.exchanged hx.2.1) (fun e k' w' hx => ?_)
  obtain ⟨-, hx⟩ | ⟨-, -, rfl, rfl⟩ := hx
  · exact h.exchanged hx.1
  · exact h

theorem onWrite_reckoned :
    Action.Keeps (fun k w => k.Reckoned (base ++ w.notes))
      (onWrite (ω := Archive ω) (τ := Logged τ)) := by
  intro k w h
  refine onWrite_exchanged.mono (fun _ k' w' hx => h.exchanged hx.1) (fun e k' w' hx => ?_)
  obtain ⟨-, hx⟩ | ⟨hl, hparts⟩ := hx
  · exact h.exchanged hx
  · exact hparts.reckoned h (h.lingering hl).1

theorem close_reckoned :
    Action.Keeps (fun k w => k.Reckoned (base ++ w.notes))
      (close (ω := Archive ω) (τ := Logged τ)) := by
  intro k w h
  have hclosed : (k.mapCore ChannelCore.deactivate).Reckoned (base ++ w.notes) :=
    h.recore (fun _ => rfl) rfl
  refine close_exchanged.mono (fun _ k' w' hc => ?_) (fun e _ _ _ => e.elim)
  cases hc with
  | idle _ => exact hclosed
  | @lingers k₁ _ hx _ _ hheld =>
    have h₁ := hclosed.exchanged hx
    obtain ⟨t, ht, -⟩ := hheld
    exact ⟨⟨h₁.active, fun _ => ⟨hx.kept.inactive rfl, ht ▸ rfl⟩, h₁.output⟩, h₁.unclosed,
      h₁.closed⟩
  | parts _ hparts => exact hparts.reckoned hclosed rfl

/-- A connection at its end, after these calls on its transport, with this input left. -/
structure Spent (notes : List Note) (rest : Bytes) (k : Connection (Logged τ)) : Prop where
  inactive : k.core.active = false
  unregistered : k.core.registration = none
  lingering : k.lingering = false
  transport : k.transport = none
  output : k.core.output.toList = []
  closed : Note.ClosedOnce notes
  input : k.core.input.toList = rest

/-- An inactive connection receives nothing. -/
theorem Exchanged.input {p q : Connection τ × ω} (hx : Exchanged p q)
    (hinactive : p.1.core.active = false) : q.1.core.input.toList = p.1.core.input.toList := by
  obtain ⟨calls, hx⟩ := hx
  induction hx with
  | none => rfl
  | @call calls c w w' t t' call hx _ hm _ ih =>
    have hdelivered : call.delivered = [] := by
      cases call with
      | recv room answer =>
        exact absurd ((hx.kept.inactive hinactive).symm.trans hm.1) (by decide)
      | _ => rfl
    rw [afterCall_input, hdelivered, List.append_nil]
    exact ih

/-- What a close leaves of an inactive connection that no reactor has. -/
theorem Closes.detached {p : Connection τ × ω} {c : Connection τ} {w : ω} (h : Closes c w p)
    (hinactive : c.core.active = false) (hdetached : c.core.registration = none) :
    p.1.transport = none ∧ p.1.core.active = false ∧ p.1.core.registration = none ∧
      p.1.core.input.toList = c.core.input.toList := by
  have hregistered : c.core.isRegistered = false := by rw [ChannelCore.isRegistered, hdetached]; rfl
  cases h with
  | idle hend =>
    obtain hn | ⟨-, hr⟩ := hend
    · exact ⟨hn, hinactive, hdetached, rfl⟩
    · exact absurd (hregistered.symm.trans hr) (by decide)
  | lingers _ _ hr _ => exact absurd (hregistered.symm.trans hr) (by decide)
  | parts _ hparts =>
    obtain ⟨k, w₁, w₂, hx, -, -, rfl⟩ := hparts
    exact ⟨rfl, hx.kept.inactive hinactive, hx.kept.registration.trans hdetached,
      hx.input hinactive⟩

/-- A close of a connection that no reactor has is its end. -/
theorem close_spent (h : k.Reckoned (base ++ w.notes)) (hdetached : k.core.registration = none) :
    close.Ends k w (fun _ k' w' => k'.Spent (base ++ w'.notes) k.core.input.toList)
      (fun e _ _ => e.elim) := by
  refine (close_exchanged.and (close_reckoned k w h)).mono (fun _ k' w' hx => ?_)
    (fun e _ _ _ => e.elim)
  obtain ⟨hcloses, h'⟩ := hx
  obtain ⟨hn, hinactive, hregistration, hinput⟩ := hcloses.detached rfl hdetached
  refine ⟨hinactive, hregistration, Bool.eq_false_iff.mpr fun hl => ?_, hn, h'.output hn,
    h'.closed hn, hinput⟩
  have ht := (h'.lingering hl).2
  rw [hn] at ht
  cases ht

end Connection

namespace ChannelOps

/-- The channel is closed for good, with this input left: it is inactive, no reactor has it, it has
nothing to send, and a read goes by what is left and by nothing else. -/
structure Over [ChannelOps ω χ] (rest : Bytes) (c : χ) : Prop where
  inactive : isActive c = false
  unregistered : isRegistered c = false
  settled : isWritePending c = false
  output : (core c).output.toList = []
  input : (core c).input.toList = rest
  readable : rest ≠ [] → ∀ count opts (w : ω), ∃ c',
    (read count opts).Answers c w (opts.serve count rest) c' w ∧
      (core c').input.toList = opts.leave count rest

end ChannelOps

/-- A listener carries no bytes. -/
structure Listener.Vacant (l : Listener α) : Prop where
  input : l.core.input.toList = []
  output : l.core.output.toList = []

namespace Channel

/-- A connection after these calls on its transport, or a listener, under no layers. -/
def Reckoned (notes : List Note) : Channel (Logged τ) (Logged α) β → Prop
  | connection k => k.Reckoned notes
  | listener l => l.Vacant
  | _ => False

/-- The transport of a connection, or the acceptor of a listener, is gone for good: the connection
does not linger, and its transport was closed once. -/
def Parted (notes : List Note) : Channel (Logged τ) (Logged α) β → Prop
  | connection k => k.transport = none ∧ k.lingering = false ∧ Note.ClosedOnce notes
  | listener l => l.acceptor = none
  | _ => False

variable {base : List Note}

/-- What connections and listeners keep, the channels under no layers keep. -/
theorem reckoned_of_kinds {f : Channel (Logged τ) (Logged α) β →
      Action (Archive ω) ε (Channel (Logged τ) (Logged α) β) γ}
    {x : Action (Archive ω) ε (Connection (Logged τ)) γ}
    (hconnection : ∀ k, f (.connection k) = onConnection k x)
    (hx : Action.Keeps (fun k w => k.Reckoned (base ++ w.notes)) x)
    (hlistener : ∀ l w, l.Vacant → (f (.listener l)).Ends (.listener l) w
      (fun _ c' w' => c'.Reckoned (base ++ w'.notes))
      (fun _ c' w' => c'.Reckoned (base ++ w'.notes))) :
    Action.Keeps (fun c w => c.Reckoned (base ++ w.notes)) (do f (← Action.subject)) :=
  Action.Keeps.bindSubject fun c w h => by
    cases c with
    | connection k =>
      rw [hconnection, onConnection_ends]
      exact hx k w h
    | listener l => exact hlistener l w h
    | custom _ | expiring _ _ _ => exact h.elim

section

variable [Machine ω] [Transport ω τ] [Acceptor ω α τ] [ChannelOps (Archive ω) β]

theorem Reckoned.core_mapCore {notes : List Note} (f : ChannelCore → ChannelCore)
    {c : Channel (Logged τ) (Logged α) β} (h : c.Reckoned notes) :
    ChannelOps.core (ChannelOps.mapCore f c) = f (ChannelOps.core c) := by
  cases c with
  | connection _ | listener _ => rfl
  | custom _ | expiring _ _ _ => exact h.elim

theorem Reckoned.retuned {notes : List Note} {f : ChannelCore → ChannelCore}
    (hf : ChannelCore.Retunes f) {c : Channel (Logged τ) (Logged α) β} (h : c.Reckoned notes) :
    (ChannelOps.mapCore f c).Reckoned notes := by
  cases c with
  | connection k => exact Connection.Reckoned.retuned h hf
  | listener l =>
    obtain ⟨mode, registration, hcore⟩ := hf l.core
    change (l.mapCore f).Vacant
    rw [Listener.mapCore, hcore]
    exact ⟨h.input, h.output⟩
  | custom _ | expiring _ _ _ => exact h.elim

/-- The channel stays a connection or a listener that is in keeping with the calls. -/
abbrev KeepsReckoned (base : List Note)
    (x : Action (Archive ω) ε (Channel (Logged τ) (Logged α) β) γ) : Prop :=
  Action.Keeps (fun c w => c.Reckoned (base ++ w.notes)) x

theorem applyMode_reckoned (mode : WaitMode) :
    KeepsReckoned (τ := τ) (α := α) (β := β) base (ChannelOps.applyMode mode) :=
  reckoned_of_kinds (f := applyModeOf mode) (fun _ => rfl) Connection.applyMode_reckoned
    fun l w h => onListener_ends.mpr
      (Listener.applyMode_retains (P := Listener.Vacant) (fun h => ⟨h.input, h.output⟩) l w h)

theorem read_reckoned (count : Nat) (opts : ReadOptions) :
    KeepsReckoned (τ := τ) (α := α) (β := β) base (ChannelOps.read count opts) :=
  reckoned_of_kinds (f := readOf count opts) (fun _ => rfl) Connection.read_reckoned
    fun _ _ h => h

theorem write_reckoned (data : Bytes) :
    KeepsReckoned (τ := τ) (α := α) (β := β) base (ChannelOps.write data) :=
  reckoned_of_kinds (f := writeOf data) (fun _ => rfl) Connection.write_reckoned fun _ _ h => h

theorem onRead_reckoned : KeepsReckoned (τ := τ) (α := α) (β := β) base ChannelOps.onRead :=
  reckoned_of_kinds (f := onReadOf) (fun _ => rfl) Connection.onRead_reckoned fun _ _ h => h

theorem onWrite_reckoned : KeepsReckoned (τ := τ) (α := α) (β := β) base ChannelOps.onWrite :=
  reckoned_of_kinds (f := onWriteOf) (fun _ => rfl) Connection.onWrite_reckoned fun _ _ h => h

theorem close_reckoned : KeepsReckoned (τ := τ) (α := α) (β := β) base ChannelOps.close :=
  reckoned_of_kinds (f := closeOf) (fun _ => rfl) Connection.close_reckoned
    fun _ _ h => ⟨h.input, h.output⟩

theorem accept_reckoned : KeepsReckoned (τ := τ) (α := α) (β := β) base ChannelOps.accept :=
  Action.Keeps.bindSubject fun c w h => by
    cases c with
    | connection k => exact h
    | listener l =>
      rw [acceptOf, Action.ends_bind, onListener_ends]
      exact Listener.acceptConnection_retains (P := Listener.Vacant)
        (fun h => ⟨h.input, h.output⟩) (fun h => ⟨h.input, h.output⟩) l w h
    | custom _ | expiring _ _ _ => exact h.elim

/-- An inactive connection is read of what is left. -/
theorem read_inactive {k : Connection (Logged τ)} (hinactive : k.core.active = false)
    (count : Nat) (opts : ReadOptions) (w : Archive ω) :
    ∃ c', (ChannelOps.read count opts).Answers (connection k : Channel (Logged τ) (Logged α) β) w
        (opts.serve count k.core.input.toList) c' w ∧
      (ChannelOps.core c').input.toList = opts.leave count k.core.input.toList := by
  have hread : (Connection.read count opts).Answers k w (opts.serve count k.core.input.toList)
      (k.withInput (opts.leave count k.core.input.toList)) w :=
    (Connection.takeInput_serves (.inr hinactive)).of_eq
      (Connection.read_eq_takeInput (.inr (.inl hinactive)))
  refine ⟨.connection (k.withInput (opts.leave count k.core.input.toList)), ?_, rfl⟩
  change (onConnection k (Connection.read count opts)).Answers (.connection k) w _ _ w
  unfold Action.Answers at hread ⊢
  unfold onConnection
  cases hserve : opts.serve count k.core.input.toList with
  | ok _ | error _ =>
    rw [hserve] at hread
    dsimp only at hread ⊢
    rw [hread]

/-- A close of a channel that no reactor has is its end. -/
theorem close_over {c : Channel (Logged τ) (Logged α) β} {w : Archive ω}
    (h : c.Reckoned (base ++ w.notes)) (hdetached : (ChannelOps.core c).registration = none) :
    (ChannelOps.close : Action (Archive ω) Empty _ Unit).Ends c w
      (fun _ c' w' => ChannelOps.Over (ChannelOps.core c).input.toList c' ∧
        c'.Parted (base ++ w'.notes))
      (fun e _ _ => e.elim) := by
  change (do closeOf (← Action.subject)).Ends c w _ _
  rw [Action.ends_bind, Action.ends_subject]
  cases c with
  | connection k =>
    rw [closeOf, onConnection_ends]
    refine (Connection.close_spent h hdetached).mono (fun _ k' w' hk => ?_) (fun e _ _ _ => e.elim)
    refine ⟨⟨hk.inactive, ?_, ?_, hk.output, hk.input, fun _ count opts w => ?_⟩, hk.transport,
      hk.lingering, hk.closed⟩
    · rw [ChannelOps.isRegistered, ChannelCore.isRegistered]
      exact congrArg Option.isSome hk.unregistered
    · change k'.isWritePending = false
      simp [Connection.isWritePending, ByteRing.isEmpty_iff.mpr hk.output, hk.transport]
    · rw [show (ChannelOps.core (connection k : Channel (Logged τ) (Logged α) β)).input.toList =
        k'.core.input.toList from hk.input.symm]
      exact read_inactive hk.inactive count opts w
  | listener l =>
    refine ⟨⟨rfl, ?_, rfl, h.output, rfl, fun hrest => absurd h.input hrest⟩, rfl⟩
    rw [ChannelOps.isRegistered, ChannelCore.isRegistered]
    exact congrArg Option.isSome hdetached
  | custom _ | expiring _ _ _ => exact h.elim

end

end Channel

namespace ChannelOps

open ChannelReactor.Action (Mirrors)

variable {ρ : Type} {rest : Bytes}

theorem Over.of_view [ChannelOps ω χ] [ChannelOps ω ρ] {view : χ → ρ} (hview : Transparent view)
    {c : χ} (h : Over rest (view c)) : Over rest c where
  inactive := (hview.isActive c).symm.trans h.inactive
  unregistered := (hview.isRegistered c).symm.trans h.unregistered
  settled := (hview.isWritePending c).symm.trans h.settled
  output := by
    rw [← hview.core]
    exact h.output
  input := by
    rw [← hview.core]
    exact h.input
  readable hrest count opts w := by
    obtain ⟨d, hread, hinput⟩ := h.readable hrest count opts w
    obtain ⟨c', hread', rfl⟩ := (hview.read count opts).answers hread
    exact ⟨c', hread', by rw [← hview.core]; exact hinput⟩

theorem Over.journaled [ChannelOps (Archive ω) χ] {j : Journaled χ} (h : Over rest j.channel) :
    Over rest j where
  inactive := h.inactive
  unregistered := h.unregistered
  settled := h.settled
  output := h.output
  input := h.input
  readable hrest count opts w := by
    obtain ⟨c', hread, hinput⟩ := h.readable hrest count opts { machine := w }
    refine ⟨{ j with channel := c', notes := j.notes ++ [] }, ?_, hinput⟩
    change (Journaled.keeping (read count opts)).Answers j w _ _ w
    unfold Action.Answers at hread ⊢
    unfold Journaled.keeping
    cases hserve : opts.serve count rest with
    | ok _ | error _ =>
      rw [hserve] at hread
      dsimp only at hread ⊢
      rw [hread]

end ChannelOps

namespace Journaled

open ChannelReactor.Action (Mirrors)

variable {view : χ → Channel (Logged τ) (Logged α) β}

/-- What `view` shows of the channel is in keeping with the journal. -/
def Reckoned (view : χ → Channel (Logged τ) (Logged α) β) (j : Journaled χ) : Prop :=
  (view j.channel).Reckoned j.notes

/-- An operation begins on a fresh page. -/
theorem keeping_reckoned {x : Action (Archive ω) ε χ γ} {value : γ → δ}
    {y : Action (Archive ω) ε (Channel (Logged τ) (Logged α) β) δ} (hview : Mirrors value view x y)
    (hy : ∀ base, Channel.KeepsReckoned base y) :
    Action.Keeps (fun j (_ : ω) => j.Reckoned view) (keeping x) := by
  intro j w h
  have hfresh : (view j.channel).Reckoned (j.notes ++ ({ machine := w } : Archive ω).notes) :=
    (List.append_nil j.notes).symm ▸ h
  exact keeping_ends.mpr (hview.ends (hy j.notes _ _ hfresh))

variable [Machine ω] [Transport ω τ] [Acceptor ω α τ] [ChannelOps (Archive ω) β]
variable [ChannelOps (Archive ω) χ]

/-- Whatever is done to a channel, it stays in keeping with its journal. -/
theorem perform_reckoned (hview : Transparent view) (op : ChannelOp) :
    Action.Keeps (fun j (_ : ω) => j.Reckoned view) (op.perform (χ := Journaled χ)) := by
  refine ChannelOps.perform_keeps
    (fun mode => keeping_reckoned (hview.applyMode mode) fun _ => Channel.applyMode_reckoned mode)
    (fun f j _ hf h => ?_)
    (fun count opts => keeping_reckoned (hview.read count opts)
      fun _ => Channel.read_reckoned count opts)
    (fun data => ?_) (keeping_reckoned hview.onRead fun _ => Channel.onRead_reckoned)
    (keeping_reckoned hview.onWrite fun _ => Channel.onWrite_reckoned) ?_ op
  · change (view (ChannelOps.mapCore f j.channel)).Reckoned j.notes
    rw [hview.mapCore]
    exact h.retuned hf
  · refine fun j w h => Action.ends_bind.mpr (Action.ends_update.mpr ?_)
    exact keeping_reckoned (hview.write data) (fun _ => Channel.write_reckoned data) _ w h
  · refine fun j w h => Action.ends_bind.mpr (Action.ends_update.mpr ?_)
    exact keeping_reckoned hview.close (fun _ => Channel.close_reckoned) _ w h

theorem accept_reckoned (hview : Transparent view) : Action.Keeps (fun j (_ : ω) => j.Reckoned view)
    (ChannelOps.accept : Action ω ChannelError (Journaled χ) _) :=
  (keeping_reckoned hview.accept fun _ => Channel.accept_reckoned).bind fun _ => Action.keeps_pure

/-- A close of a channel whose registration was taken away is its end. -/
theorem dismissed_over (hview : Transparent view) {j j' : Journaled χ} {w w' : ω}
    (h : j.Reckoned view)
    (hc : ChannelOps.close (ChannelOps.mapCore ChannelCore.unregister j) w = .done () j' w') :
    ChannelOps.Over (ChannelOps.core j).input.toList j' ∧ (view j'.channel).Parted j'.notes := by
  have hcore : ChannelOps.core (ChannelOps.mapCore ChannelCore.unregister (view j.channel)) =
      (ChannelOps.core j).unregister := by
    rw [Channel.Reckoned.core_mapCore _ h, hview.core]
    rfl
  have hdetached : (view (ChannelOps.mapCore ChannelCore.unregister j.channel)).Reckoned
      (j.notes ++ ({ machine := w } : Archive ω).notes) := by
    rw [List.append_nil, hview.mapCore]
    exact Channel.Reckoned.retuned (fun core => ⟨core.mode, none, rfl⟩) h
  have hends : (ChannelOps.close : Action ω Empty (Journaled χ) Unit).Ends
      (ChannelOps.mapCore ChannelCore.unregister j) w
      (fun _ j' _ => ChannelOps.Over (ChannelOps.core j).input.toList j' ∧
        (view j'.channel).Parted j'.notes) (fun e _ _ => e.elim) := by
    refine Action.ends_bind.mpr (Action.ends_update.mpr (keeping_ends.mpr ?_))
    refine (hview.close.ends (Channel.close_over hdetached ?_)).mono (fun _ c' page hx => ?_)
      (fun e _ _ _ => e.elim)
    · rw [hview.mapCore, hcore]
      rfl
    · rw [hview.mapCore, hcore] at hx
      exact ⟨(hx.1.of_view hview).journaled, hx.2⟩
  exact hends.done hc

end Journaled

end ChannelReactor
