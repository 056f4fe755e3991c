import ChannelReactor.Proofs.Exchanges

/-! # Actions that come to an end

`Completes` says of an action what `Ends` says of it, and that it does not halt. A loop completes
when every round that has no answer brings down a number that was less than the bound on the rounds
(`Completes.repeatUntil`), or something well-founded, for all bounds that are large enough
(`Completes.repeatUntil_wf`). -/
namespace ChannelReactor.Action

variable {ω ε ε' σ α β : Type}

/-- The action does not halt; `Q` holds of the value, and `R` of the reason, with the subject and
the machine that it leaves. -/
def Completes (x : Action ω ε σ α) (s : σ) (w : ω) (Q : α → σ → ω → Prop)
    (R : ε → σ → ω → Prop) : Prop :=
  match x s w with
  | .done a s w => Q a s w
  | .refused e s w => R e s w
  | .halted _ _ => False

variable {x : Action ω ε σ α} {s s' : σ} {w w' : ω}
variable {Q Q' : α → σ → ω → Prop} {R R' : ε → σ → ω → Prop}

theorem Completes.mono (h : x.Completes s w Q R) (hq : ∀ a s' w', Q a s' w' → Q' a s' w')
    (hr : ∀ e s' w', R e s' w' → R' e s' w') : x.Completes s w Q' R' := by
  unfold Completes at h ⊢
  cases hx : x s w with
  | done a s' w' => exact hq a s' w' (by simpa only [hx] using h)
  | refused e s' w' => exact hr e s' w' (by simpa only [hx] using h)
  | halted _ _ => simp only [hx] at h

/-- An action that completes gives an answer. -/
theorem Completes.answers (h : x.Completes s w Q R) : ∃ answer s' w',
    x.Answers s w answer s' w' ∧ match answer with
      | .ok a => Q a s' w'
      | .error e => R e s' w' := by
  unfold Completes at h
  cases hx : x s w with
  | done a s' w' => exact ⟨.ok a, s', w', hx, by simpa only [hx] using h⟩
  | refused e s' w' => exact ⟨.error e, s', w', hx, by simpa only [hx] using h⟩
  | halted _ _ => simp only [hx] at h

/-- What is said of how it ends is true of an action that completes. -/
theorem Completes.and_ends (h : x.Completes s w Q R) (h' : x.Ends s w Q' R') :
    x.Completes s w (fun a s' w' => Q a s' w' ∧ Q' a s' w')
      (fun e s' w' => R e s' w' ∧ R' e s' w') := by
  unfold Completes at h ⊢
  unfold Ends at h'
  cases hx : x s w with
  | done a s' w' => simp only [hx] at h h'; exact ⟨h, h'⟩
  | refused e s' w' => simp only [hx] at h h'; exact ⟨h, h'⟩
  | halted _ _ => simp only [hx] at h

theorem Answers.completes {answer : Except ε α}
    (ha : match answer with
      | .ok a => Q a s' w'
      | .error e => R e s' w')
    (h : x.Answers s w answer s' w') : x.Completes s w Q R := by
  unfold Completes
  cases answer with
  | ok a => simpa only [show x s w = .done a s' w' from h] using ha
  | error e => simpa only [show x s w = .refused e s' w' from h] using ha

@[simp] theorem completes_pure {a : α} :
    (pure a : Action ω ε σ α).Completes s w Q R ↔ Q a s w := Iff.rfl

@[simp] theorem completes_refuse {e : ε} :
    (refuse e : Action ω ε σ α).Completes s w Q R ↔ R e s w := Iff.rfl

@[simp] theorem completes_update {f : σ → σ} {Q : Unit → σ → ω → Prop} :
    (update f : Action ω ε σ Unit).Completes s w Q R ↔ Q () (f s) w := Iff.rfl

@[simp] theorem completes_onMachine {f : ω → α × ω} :
    (onMachine f : Action ω ε σ α).Completes s w Q R ↔ Q (f w).1 s (f w).2 := Iff.rfl

@[simp] theorem completes_subject {Q : σ → σ → ω → Prop} :
    (subject : Action ω ε σ σ).Completes s w Q R ↔ Q s s w := Iff.rfl

@[simp] theorem completes_bind {f : α → Action ω ε σ β} {Q : β → σ → ω → Prop} :
    (x >>= f).Completes s w Q R ↔ x.Completes s w (fun a s w => (f a).Completes s w Q R) R := by
  simp only [Completes, bind_apply]
  cases x s w <;> rfl

@[simp] theorem completes_attempt {Q : Except ε α → σ → ω → Prop} {R : ε' → σ → ω → Prop} :
    (attempt x : Action ω ε' σ (Except ε α)).Completes s w Q R ↔
      x.Completes s w (fun a s w => Q (.ok a) s w) (fun e s w => Q (.error e) s w) := by
  simp only [Completes, attempt]
  cases x s w <;> rfl

theorem Completes.repeatUntil_succ {step : Action ω ε σ (Option α)} {bound : Nat}
    (h : step.Completes s w (fun r s w => match r with
      | some a => Q a s w
      | none => (Action.repeatUntil bound step).Completes s w Q R) R) :
    (Action.repeatUntil (bound + 1) step).Completes s w Q R := by
  rw [Action.repeatUntil, completes_bind]
  refine h.mono (fun r s w h => ?_) (fun _ _ _ h => h)
  cases r with
  | some a => exact h
  | none => exact h

/-- The rule for a loop that completes: every round without an answer brings the number down. -/
theorem Completes.repeatUntil {step : Action ω ε σ (Option α)} {I : Nat → σ → ω → Prop}
    (hstep : ∀ n s w, I n s w → step.Completes s w (fun r s w => match r with
      | some a => Q a s w
      | none => ∃ m < n, I m s w) R) (bound n : Nat) (s : σ) (w : ω) (hn : n < bound)
    (hi : I n s w) : (Action.repeatUntil bound step).Completes s w Q R := by
  induction bound generalizing n s w with
  | zero => exact absurd hn (Nat.not_lt_zero n)
  | succ bound ih =>
    refine Completes.repeatUntil_succ ((hstep n s w hi).mono (fun r s w h => ?_) fun _ _ _ h => h)
    cases r with
    | some a => exact h
    | none =>
      obtain ⟨m, hm, hi⟩ := h
      exact ih m s w (by omega) hi

/-- The same without a number: a loop completes for every bound that is large enough. -/
theorem Completes.repeatUntil_wf {ι : Type} {r : ι → ι → Prop} (hr : WellFounded r)
    {step : Action ω ε σ (Option α)} {I : ι → σ → ω → Prop}
    (hstep : ∀ i s w, I i s w → step.Completes s w (fun a s w => match a with
      | some a => Q a s w
      | none => ∃ j, r j i ∧ I j s w) R) (i : ι) (s : σ) (w : ω) (hi : I i s w) :
    ∃ enough, ∀ bound, enough ≤ bound → (Action.repeatUntil bound step).Completes s w Q R := by
  induction i using hr.induction generalizing s w with
  | _ i ih =>
    obtain ⟨answer, s', w', hx, ha⟩ := (hstep i s w hi).answers
    -- Only a round without an answer asks for more rounds after it.
    have hmore : ∃ enough, ∀ bound, enough ≤ bound →
        step.Completes s w (fun r s w => match r with
          | some a => Q a s w
          | none => (Action.repeatUntil bound step).Completes s w Q R) R := by
      cases answer with
      | error e => exact ⟨0, fun _ _ => hx.completes ha⟩
      | ok a =>
        cases a with
        | some a => exact ⟨0, fun _ _ => hx.completes ha⟩
        | none =>
          obtain ⟨j, hj, hi⟩ := ha
          obtain ⟨enough, hrest⟩ := ih j hj s' w' hi
          exact ⟨enough, fun bound hb => hx.completes (hrest bound hb)⟩
    obtain ⟨enough, hmore⟩ := hmore
    refine ⟨enough + 1, fun bound hb => ?_⟩
    obtain ⟨bound, rfl⟩ : ∃ rest, bound = rest + 1 := ⟨bound - 1, by omega⟩
    exact Completes.repeatUntil_succ (hmore bound (by omega))

end ChannelReactor.Action
