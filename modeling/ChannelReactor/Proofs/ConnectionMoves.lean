import ChannelReactor.Proofs.ConnectionEnds
import Mathlib.Logic.Relation

/-! # The moves of a connection

All that an operation does to a connection, besides queueing what is written and taking out what is
read, is a sequence of moves: a call on the transport with what its answer makes of the core, or a
change of the connection's own marks. Each function has one lemma that says so. Invariants are then
proved once, over the moves. -/
namespace ChannelReactor

variable {ω ε τ α β : Type}

/-- A call on a recorded transport adds itself to the record. -/
theorem Call.Made.recorded [Transport ω τ] {call : Call} {t t' : Recorded τ} {w w' : Recorder ω}
    (h : call.Made t w t' w') :
    t'.device = t.device ∧ w'.calls = w.calls ++ [⟨t.device, call⟩] := by
  have hcall {β : Type} {toCall : Except IoError β → Call} {x : Action ω IoError τ β}
      {answer : Except IoError β}
      (h : (Recorded.call toCall x).Answers t w answer t' w') :
      t'.device = t.device ∧ w'.calls = w.calls ++ [⟨t.device, toCall answer⟩] := by
    obtain ⟨body, m, -, rfl, rfl⟩ := Recorded.call_answers_iff.mp h
    exact ⟨rfl, rfl⟩
  cases call with
  | accept _ => exact h.elim
  | _ => exact hcall h

namespace Connection

/-- One move of a connection and of what it stands on. -/
inductive Move : Connection (Recorded τ) × Recorder ω → Connection (Recorded τ) × Recorder ω → Prop
  | call {c : Connection (Recorded τ)} {w w' : Recorder ω} {t t' : Recorded τ} {call : Call} :
      c.transport = some t → c.Makes call → t'.device = t.device →
      w'.calls = w.calls ++ [⟨t.device, call⟩] →
      Move (c, w) ({ c with core := afterCall c.policy c.core call, transport := some t' }, w')
  | deactivate {c : Connection (Recorded τ)} {w : Recorder ω} :
      Move (c, w) (c.mapCore ChannelCore.deactivate, w)
  | linger {c : Connection (Recorded τ)} {w : Recorder ω} :
      c.transport.isSome = true → c.core.isRegistered = true →
      Move (c, w) ({ c with lingering := true }, w)
  | retune {c : Connection (Recorded τ)} {w : Recorder ω} (mode : WaitMode)
      (registration : Option Registration) :
      Move (c, w) (c.mapCore fun core => { core with mode, registration }, w)
  | release {c : Connection (Recorded τ)} {w w' : Recorder ω} (answer : Except IoError Unit) :
      w'.calls = w.calls ++ (c.transport.map fun t => ⟨t.device, .close answer⟩).toList →
      Move (c, w)
        ({ c with lingering := false, core := c.core.dropOutput, transport := none }, w')

abbrev Moves : Connection (Recorded τ) × Recorder ω → Connection (Recorded τ) × Recorder ω → Prop :=
  Relation.ReflTransGen Move

variable {o : Connection (Recorded τ) × Recorder ω} {c : Connection (Recorded τ)} {w : Recorder ω}
variable [Transport ω τ]

theorem Exchange.moves {p q : Connection (Recorded τ) × Recorder ω} {calls : List Call}
    (h : Exchange p calls q) : Moves p q := by
  induction h with
  | none => exact .refl
  | call _ ht hm hc ih => exact ih.tail (.call ht hm hc.recorded.1 hc.recorded.2)

theorem Exchanged.moves {p q : Connection (Recorded τ) × Recorder ω} (h : Exchanged p q) :
    Moves p q :=
  h.choose_spec.moves

theorem PartsWith.moves {w' : Recorder ω} (h : c.PartsWith w w') (ho : Moves o (c, w)) :
    Moves o (c.released, w') := by
  unfold PartsWith at h
  split at h
  · rename_i hn
    subst h
    exact ho.tail (.release (.ok ()) (by simp [hn]))
  · rename_i t ht
    obtain ⟨answer, t', hclose⟩ := h
    exact ho.tail (.release answer (by rw [ht]; exact hclose.recorded.2))

theorem Parts.moves {p q : Connection (Recorded τ) × Recorder ω}
    {P : Connection (Recorded τ) × Recorder ω → Prop} (h : Parts p P q) (ho : Moves o p) :
    Moves o q := by
  obtain ⟨c, w, w', hx, -, hparts, rfl⟩ := h
  exact hparts.moves (ho.trans hx.moves)

theorem applyMode_keeps {mode : WaitMode} :
    Action.Keeps (fun c w => Moves o (c, w)) (applyMode (τ := Recorded τ) mode) := fun _ _ ho =>
  (applyMode_exchanged .refl).mono (fun _ _ _ hx => ho.trans hx.1.moves)
    (fun _ _ _ hx => ho.trans hx.moves)

theorem onRead_keeps : Action.Keeps (fun c w => Moves o (c, w)) (onRead (τ := Recorded τ)) := by
  intro c w ho
  refine onRead_exchanged.mono (fun _ c' w' hx => ho.trans hx.2.1.moves) (fun e c' w' hx => ?_)
  obtain ⟨-, hx, -⟩ | ⟨-, -, rfl, rfl⟩ := hx
  · exact ho.trans hx.moves
  · exact ho

theorem onWrite_keeps : Action.Keeps (fun c w => Moves o (c, w)) (onWrite (τ := Recorded τ)) := by
  intro c w ho
  refine onWrite_exchanged.mono (fun _ c' w' hx => ho.trans hx.1.moves) (fun e c' w' hx => ?_)
  obtain ⟨-, hx⟩ | ⟨-, hparts⟩ := hx
  · exact ho.trans hx.moves
  · exact hparts.moves ho

theorem close_keeps : Action.Keeps (fun c w => Moves o (c, w)) (close (τ := Recorded τ)) := by
  intro c w ho
  have hinactive := ho.tail Move.deactivate
  refine close_exchanged.mono (fun _ c' w' h => ?_) (fun e _ _ _ => e.elim)
  cases h with
  | idle _ => exact hinactive
  | lingers hx _ hr hheld =>
    obtain ⟨t, ht, -⟩ := hheld
    refine (hinactive.trans hx.moves).tail (.linger (ht ▸ rfl) ?_)
    rw [ChannelCore.isRegistered, hx.kept.registration]
    exact hr
  | parts _ hparts => exact hparts.moves hinactive

end Connection

end ChannelReactor
