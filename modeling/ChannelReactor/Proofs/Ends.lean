import ChannelReactor.Action

/-! # What an action ends in

`Ends` states what is true when an action is done and when it refuses. Each combinator of actions
has an equation that moves the statement to its parts, so that a proof about a program follows the
program's text. An action that halts leaves nothing to speak of. -/
namespace ChannelReactor

variable {ω ε ε' σ ρ α β : Type}

/-- The outcome is done, and passes a test. -/
def Outcome.any (p : α → σ → ω → Bool) : Outcome ω ε σ α → Bool
  | done a s w => p a s w
  | refused .. => false
  | halted .. => false

theorem Outcome.any_eq_true {x : Outcome ω ε σ α} {p : α → σ → ω → Bool} :
    x.any p = true ↔ ∃ a s w, x = .done a s w ∧ p a s w = true := by
  constructor
  · cases x with
    | done a s w => exact fun h => ⟨a, s, w, rfl, h⟩
    | refused e s w => nofun
    | halted halt w => nofun
  · rintro ⟨a, s, w, rfl, h⟩
    exact h

namespace Action

/-- `Q` holds of the value, and `R` of the reason, with the subject and the machine that the action
leaves. -/
def Ends (x : Action ω ε σ α) (s : σ) (w : ω) (Q : α → σ → ω → Prop) (R : ε → σ → ω → Prop) :
    Prop :=
  match x s w with
  | .done a s w => Q a s w
  | .refused e s w => R e s w
  | .halted _ _ => True

variable {s s' : σ} {w w' : ω} {Q Q' : α → σ → ω → Prop} {R R' : ε → σ → ω → Prop}
variable {x : Action ω ε σ α}

theorem Ends.done {a : α} (h : x.Ends s w Q R) (hx : x s w = .done a s' w') : Q a s' w' := by
  simpa only [Ends, hx] using h

theorem Ends.refused {e : ε} (h : x.Ends s w Q R) (hx : x s w = .refused e s' w') :
    R e s' w' := by
  simpa only [Ends, hx] using h

theorem Ends.of_outcome (hq : ∀ a s' w', x s w = .done a s' w' → Q a s' w')
    (hr : ∀ e s' w', x s w = .refused e s' w' → R e s' w') : x.Ends s w Q R := by
  unfold Ends
  split
  · exact hq _ _ _ ‹_›
  · exact hr _ _ _ ‹_›
  · trivial

theorem Ends.mono (h : x.Ends s w Q R) (hq : ∀ a s' w', Q a s' w' → Q' a s' w')
    (hr : ∀ e s' w', R e s' w' → R' e s' w') : x.Ends s w Q' R' :=
  .of_outcome (fun _ _ _ hx => hq _ _ _ (h.done hx)) (fun _ _ _ hx => hr _ _ _ (h.refused hx))

theorem Ends.and (h : x.Ends s w Q R) (h' : x.Ends s w Q' R') :
    x.Ends s w (fun a s' w' => Q a s' w' ∧ Q' a s' w') (fun e s' w' => R e s' w' ∧ R' e s' w') :=
  .of_outcome (fun _ _ _ hx => ⟨h.done hx, h'.done hx⟩)
    (fun _ _ _ hx => ⟨h.refused hx, h'.refused hx⟩)

/-- What is run the same ends the same. -/
theorem Ends.of_run {y : Action ω ε σ α} (hrun : x s w = y s w) (h : y.Ends s w Q R) :
    x.Ends s w Q R := by
  unfold Ends
  rwa [hrun]

/-- All that can be said of an action is the equation of its run. -/
theorem ends_self (x : Action ω ε σ α) (s : σ) (w : ω) :
    x.Ends s w (fun a s' w' => x s w = .done a s' w') (fun e s' w' => x s w = .refused e s' w') :=
  .of_outcome (fun _ _ _ hx => hx) (fun _ _ _ hx => hx)

/-- The action leaves this subject and this machine, whether it is done or refuses. -/
def Leaves (x : Action ω ε σ α) (s : σ) (w : ω) (s' : σ) (w' : ω) : Prop :=
  (∃ a, x s w = .done a s' w') ∨ ∃ e, x s w = .refused e s' w'

theorem Ends.leaves {P : σ → ω → Prop} (h : x.Ends s w (fun _ => P) (fun _ => P))
    (hx : x.Leaves s w s' w') : P s' w' := by
  rcases hx with ⟨a, ha⟩ | ⟨e, he⟩
  · exact h.done ha
  · exact h.refused he

theorem Leaves.unique {s'' : σ} {w'' : ω} (h : x.Leaves s w s' w') (h' : x.Leaves s w s'' w'') :
    s' = s'' ∧ w' = w'' := by
  rcases h with ⟨a, ha⟩ | ⟨e, he⟩ <;> rcases h' with ⟨a', ha'⟩ | ⟨e', he'⟩
  · cases ha.symm.trans ha'
    exact ⟨rfl, rfl⟩
  · cases ha.symm.trans he'
  · cases he.symm.trans ha'
  · cases he.symm.trans he'
    exact ⟨rfl, rfl⟩

/-- What was done in two steps was done in each. -/
theorem done_of_bind {f : α → Action ω ε σ β} {b : β} (h : (x >>= f) s w = .done b s' w') :
    ∃ a s₁ w₁, x s w = .done a s₁ w₁ ∧ f a s₁ w₁ = .done b s' w' := by
  rw [bind_apply] at h
  cases hx : x s w with
  | done a s₁ w₁ =>
    rw [hx] at h
    exact ⟨a, s₁, w₁, rfl, h⟩
  | refused e s₁ w₁ => rw [hx] at h; cases h
  | halted h' w₁ => rw [hx] at h; cases h

/-- What two steps leave, the second leaves when the first is done, or else the first. -/
theorem leaves_of_bind {f : α → Action ω ε σ β} (h : (x >>= f).Leaves s w s' w') :
    (∃ a s₁ w₁, x s w = .done a s₁ w₁ ∧ (f a).Leaves s₁ w₁ s' w') ∨
      ∃ e, x s w = .refused e s' w' := by
  unfold Leaves at h
  rw [bind_apply] at h
  cases hx : x s w with
  | done a s₁ w₁ =>
    rw [hx] at h
    exact .inl ⟨a, s₁, w₁, rfl, h⟩
  | refused e s₁ w₁ =>
    rw [hx] at h
    obtain ⟨b, hb⟩ | ⟨e', he⟩ := h
    · cases hb
    · cases he
      exact .inr ⟨e, rfl⟩
  | halted h' w₁ =>
    rw [hx] at h
    obtain ⟨b, hb⟩ | ⟨e', he⟩ := h
    · cases hb
    · cases he

/-- A value that is put in the place of another changes nothing of what is left. -/
theorem Leaves.andThen {b : β} (h : x.Leaves s w s' w') :
    (x >>= fun _ => (pure b : Action ω ε σ β)).Leaves s w s' w' := by
  unfold Leaves
  rw [bind_apply]
  obtain ⟨a, hx⟩ | ⟨e, hx⟩ := h
  · rw [hx]
    exact .inl ⟨b, rfl⟩
  · rw [hx]
    exact .inr ⟨e, rfl⟩

@[simp] theorem ends_pure {a : α} : (pure a : Action ω ε σ α).Ends s w Q R ↔ Q a s w := Iff.rfl

@[simp] theorem ends_refuse {e : ε} : (refuse e : Action ω ε σ α).Ends s w Q R ↔ R e s w := Iff.rfl

@[simp] theorem ends_halt {h : Halt} : (halt h : Action ω ε σ α).Ends s w Q R ↔ True := Iff.rfl

@[simp] theorem ends_subject {Q : σ → σ → ω → Prop} :
    (subject : Action ω ε σ σ).Ends s w Q R ↔ Q s s w := Iff.rfl

@[simp] theorem ends_update {f : σ → σ} {Q : Unit → σ → ω → Prop} :
    (update f : Action ω ε σ Unit).Ends s w Q R ↔ Q () (f s) w := Iff.rfl

@[simp] theorem ends_ask {f : ω → α} :
    (ask f : Action ω ε σ α).Ends s w Q R ↔ Q (f w) s w := Iff.rfl

@[simp] theorem ends_onMachine {f : ω → α × ω} :
    (onMachine f : Action ω ε σ α).Ends s w Q R ↔ Q (f w).1 s (f w).2 := Iff.rfl

@[simp] theorem ends_bind {f : α → Action ω ε σ β} {Q : β → σ → ω → Prop} :
    (x >>= f).Ends s w Q R ↔ x.Ends s w (fun a s w => (f a).Ends s w Q R) R := by
  simp only [Ends, bind_apply]
  cases x s w <;> rfl

@[simp] theorem ends_map {g : α → β} {Q : β → σ → ω → Prop} :
    (g <$> x).Ends s w Q R ↔ x.Ends s w (fun a s w => Q (g a) s w) R := by
  simp only [Ends, map_apply]
  cases x s w <;> rfl

@[simp] theorem ends_attempt {Q : Except ε α → σ → ω → Prop} {R : ε' → σ → ω → Prop} :
    (attempt x : Action ω ε' σ (Except ε α)).Ends s w Q R ↔
      x.Ends s w (fun a s w => Q (.ok a) s w) (fun e s w => Q (.error e) s w) := by
  simp only [Ends, attempt]
  cases x s w <;> rfl

@[simp] theorem ends_mapReason {g : ε → ε'} {R : ε' → σ → ω → Prop} :
    (x.mapReason g).Ends s w Q R ↔ x.Ends s w Q (fun e s w => R (g e) s w) := by
  simp only [Ends, mapReason]
  cases x s w <;> rfl

@[simp] theorem ends_focus {part : σ → ρ} {put : ρ → σ → σ} {x : Action ω ε ρ α} :
    (focus part put x).Ends s w Q R ↔
      x.Ends (part s) w (fun a p w => Q a (put p s) w) (fun e p w => R e (put p s) w) := by
  simp only [Ends, focus]
  cases x (part s) w <;> rfl

@[simp] theorem ends_runOn {own : ρ} {x : Action ω ε ρ α} {Q : α × ρ → σ → ω → Prop} :
    (runOn own x : Action ω ε σ (α × ρ)).Ends s w Q R ↔
      x.Ends own w (fun a own w => Q (a, own) s w) (fun e _ w => R e s w) := by
  simp only [Ends, runOn]
  cases x own w <;> rfl

@[simp] theorem ends_ofExcept {r : Except ε α} :
    (ofExcept r : Action ω ε σ α).Ends s w Q R ↔
      (∀ a, r = .ok a → Q a s w) ∧ (∀ e, r = .error e → R e s w) := by
  cases r <;> simp

/-- An action that cannot refuse needs nothing said about refusals. -/
theorem ends_sure {x : Action ω Empty σ α} :
    (x.sure : Action ω ε σ α).Ends s w Q R ↔ x.Ends s w Q (fun e _ _ => e.elim) := by
  rw [sure, ends_mapReason]
  exact ⟨fun h => h.mono (fun _ _ _ hq => hq) (fun e _ _ _ => e.elim),
    fun h => h.mono (fun _ _ _ hq => hq) (fun e _ _ _ => e.elim)⟩

/-- Of an action that cannot refuse, on a subject of its own, what counts is how it is done. -/
theorem Ends.runOn_sure {own : ρ} {x : Action ω Empty ρ α} {Q : α × ρ → σ → ω → Prop}
    (hq : ∀ a own' w', x own w = .done a own' w' → Q (a, own') s w') :
    (runOn own x.sure : Action ω ε σ (α × ρ)).Ends s w Q R := by
  rw [ends_runOn, ends_sure]
  exact (ends_self x _ _).mono (fun a own' w' hx => hq a own' w' hx) (fun e _ _ _ => e.elim)

/-- The rule for the loop: an invariant that every round without an answer keeps. -/
theorem Ends.repeatUntil {step : Action ω ε σ (Option α)} {I : σ → ω → Prop}
    (hstep : ∀ s w, I s w → step.Ends s w (fun r s w => match r with
      | some a => Q a s w
      | none => I s w) R) :
    ∀ bound s w, I s w → (repeatUntil bound step).Ends s w Q R
  | 0, _, _, _ => trivial
  | bound + 1, s, w, hi => by
    rw [Action.repeatUntil, ends_bind]
    refine (hstep s w hi).mono (fun r s w h => ?_) (fun _ _ _ h => h)
    cases r with
    | some a => exact h
    | none => exact Ends.repeatUntil hstep bound s w h

/-- However the action ends, `I` is still true if it was true before. -/
def Keeps (I : σ → ω → Prop) (x : Action ω ε σ α) : Prop :=
  ∀ s w, I s w → x.Ends s w (fun _ s' w' => I s' w') (fun _ s' w' => I s' w')

variable {I : σ → ω → Prop}

theorem keeps_pure {a : α} : Keeps I (pure a : Action ω ε σ α) := fun _ _ h => h

theorem keeps_refuse {e : ε} : Keeps I (refuse e : Action ω ε σ α) := fun _ _ h => h

theorem keeps_halt {h : Halt} : Keeps I (halt h : Action ω ε σ α) := fun _ _ _ => trivial

theorem keeps_subject : Keeps I (subject : Action ω ε σ σ) := fun _ _ h => h

theorem keeps_ask {f : ω → α} : Keeps I (ask f : Action ω ε σ α) := fun _ _ h => h

theorem keeps_update {f : σ → σ} (h : ∀ s w, I s w → I (f s) w) :
    Keeps I (update f : Action ω ε σ Unit) := h

theorem keeps_ofExcept {r : Except ε α} : Keeps I (ofExcept r : Action ω ε σ α) := by
  cases r with
  | ok a => exact keeps_pure
  | error e => exact keeps_refuse

theorem Keeps.bind {f : α → Action ω ε σ β} (hx : Keeps I x) (hf : ∀ a, Keeps I (f a)) :
    Keeps I (x >>= f) := by
  intro s w h
  rw [ends_bind]
  exact (hx s w h).mono (fun a s' w' h' => hf a s' w' h') (fun _ _ _ h' => h')

/-- The continuation may depend on the subject that was seen. -/
theorem Keeps.bindSubject {f : σ → Action ω ε σ β}
    (hf : ∀ s w, I s w → (f s).Ends s w (fun _ s' w' => I s' w') (fun _ s' w' => I s' w')) :
    Keeps I (subject >>= f) := by
  intro s w h
  rw [ends_bind, ends_subject]
  exact hf s w h

theorem Keeps.attempt (hx : Keeps I x) : Keeps I (attempt x : Action ω ε' σ (Except ε α)) := by
  intro s w h
  rw [ends_attempt]
  exact hx s w h

theorem Keeps.mapReason {g : ε → ε'} (hx : Keeps I x) : Keeps I (x.mapReason g) := by
  intro s w h
  rw [ends_mapReason]
  exact hx s w h

theorem Keeps.sure {x : Action ω Empty σ α} (hx : Keeps I x) : Keeps I (x.sure : Action ω ε σ α) :=
  hx.mapReason

theorem Keeps.repeatUntil {step : Action ω ε σ (Option α)} (hstep : Keeps I step) (bound : Nat) :
    Keeps I (repeatUntil bound step) := by
  intro s w h
  refine Ends.repeatUntil (I := I) (fun s w h => ?_) bound s w h
  refine (hstep s w h).mono (fun r s' w' h' => ?_) (fun _ _ _ h' => h')
  cases r <;> exact h'

end Action

end ChannelReactor
