/-!
# Actions

An action works on a subject, such as a channel or a reactor, and on the machine around it. It
ends in one of three ways: it is done and has a value, it refuses with a reason, or it halts for
good. A refusal keeps what the action had changed before.

`repeatUntil` is the only loop: it repeats a step until the step has an answer, and halts as
spinning when a bound on the number of rounds is used up.
-/
namespace ChannelReactor

/-- Why a computation stopped for good. -/
inductive Halt where
  /-- The clock cannot show an instant that is asked for. -/
  | clockOverflow
  /-- A call was repeated more often than its partner can need it. -/
  | spinning
  /-- A list has no such place. -/
  | outOfRange
deriving DecidableEq, Repr

/-- What is said when a computation stops for good. -/
def Halt.message : Halt → String
  | clockOverflow => "overflow when adding duration to instant"
  | spinning => "no progress"
  | outOfRange => "index out of bounds"

/-- How an action ends: with a value or a reason, and with what it made of its subject and of the
machine. -/
inductive Outcome (ω ε σ α : Type) where
  | done (value : α) (subject : σ) (machine : ω)
  | refused (reason : ε) (subject : σ) (machine : ω)
  | halted (halt : Halt) (machine : ω)

/-- A computation on a subject `σ` and a machine `ω` that may refuse with a reason `ε`. -/
def Action (ω ε σ α : Type) : Type := σ → ω → Outcome ω ε σ α

namespace Action

variable {ω ε ε' σ ρ α β : Type}

protected def pure (a : α) : Action ω ε σ α := fun s w => .done a s w

/-- One action after another; the second is left out when the first refuses or halts. -/
protected def bind (x : Action ω ε σ α) (f : α → Action ω ε σ β) : Action ω ε σ β := fun s w =>
  match x s w with
  | .done a s w => f a s w
  | .refused e s w => .refused e s w
  | .halted h w => .halted h w

instance : Monad (Action ω ε σ) where
  pure := Action.pure
  bind := Action.bind

@[simp] theorem pure_apply (a : α) (s : σ) (w : ω) :
    (pure a : Action ω ε σ α) s w = .done a s w := rfl

theorem bind_apply (x : Action ω ε σ α) (f : α → Action ω ε σ β) (s : σ) (w : ω) :
    (x >>= f) s w = match x s w with
      | .done a s w => f a s w
      | .refused e s w => .refused e s w
      | .halted h w => .halted h w := rfl

theorem map_apply (g : α → β) (x : Action ω ε σ α) (s : σ) (w : ω) :
    (g <$> x) s w = match x s w with
      | .done a s w => .done (g a) s w
      | .refused e s w => .refused e s w
      | .halted h w => .halted h w := rfl

instance : LawfulMonad (Action ω ε σ) := LawfulMonad.mk' _
  (fun x => by funext s w; rw [map_apply]; cases x s w <;> rfl)
  (fun _ _ => rfl)
  (fun x f g => by
    funext s w
    simp only [bind_apply]
    cases x s w <;> rfl)

def subject : Action ω ε σ σ := fun s w => .done s s w

def update (f : σ → σ) : Action ω ε σ Unit := fun s w => .done () (f s) w

def ask (f : ω → α) : Action ω ε σ α := fun s w => .done (f w) s w

def onMachine (f : ω → α × ω) : Action ω ε σ α := fun s w => .done (f w).1 s (f w).2

def refuse (e : ε) : Action ω ε σ α := fun s w => .refused e s w

def halt (h : Halt) : Action ω ε σ α := fun _ w => .halted h w

/-- The value, or the refusal, that a result stands for. -/
def ofExcept : Except ε α → Action ω ε σ α
  | .ok a => pure a
  | .error e => refuse e

/-- An action whose refusal is an answer. -/
def attempt (x : Action ω ε σ α) : Action ω ε' σ (Except ε α) := fun s w =>
  match x s w with
  | .done a s w => .done (.ok a) s w
  | .refused e s w => .done (.error e) s w
  | .halted h w => .halted h w

/-- An action with its reasons renamed. -/
def mapReason (f : ε → ε') (x : Action ω ε σ α) : Action ω ε' σ α := fun s w =>
  match x s w with
  | .done a s w => .done a s w
  | .refused e s w => .refused (f e) s w
  | .halted h w => .halted h w

/-- An action that never refuses, among actions that may. -/
def sure (x : Action ω Empty σ α) : Action ω ε σ α := x.mapReason Empty.elim

/-- An action on a part of the subject. -/
def focus (part : σ → ρ) (put : ρ → σ → σ) (x : Action ω ε ρ α) : Action ω ε σ α := fun s w =>
  match x (part s) w with
  | .done a p w => .done a (put p s) w
  | .refused e p w => .refused e (put p s) w
  | .halted h w => .halted h w

/-- An action on a subject of its own, which comes back beside the value. -/
def runOn (own : ρ) (x : Action ω ε ρ α) : Action ω ε σ (α × ρ) := fun s w =>
  match x own w with
  | .done a own w => .done (a, own) s w
  | .refused e _ w => .refused e s w
  | .halted h w => .halted h w

/-- Repeats a step until it answers, for at most `bound` rounds. -/
def repeatUntil : (bound : Nat) → Action ω ε σ (Option α) → Action ω ε σ α
  | 0, _ => halt .spinning
  | bound + 1, step => do
    match ← step with
    | some a => pure a
    | none => repeatUntil bound step

section Equations

@[simp] theorem subject_apply (s : σ) (w : ω) :
    (subject : Action ω ε σ σ) s w = .done s s w := rfl

@[simp] theorem update_apply (f : σ → σ) (s : σ) (w : ω) :
    (update f : Action ω ε σ Unit) s w = .done () (f s) w := rfl

@[simp] theorem ask_apply (f : ω → α) (s : σ) (w : ω) :
    (ask f : Action ω ε σ α) s w = .done (f w) s w := rfl

@[simp] theorem refuse_apply (e : ε) (s : σ) (w : ω) :
    (refuse e : Action ω ε σ α) s w = .refused e s w := rfl

@[simp] theorem halt_apply (h : Halt) (s : σ) (w : ω) :
    (halt h : Action ω ε σ α) s w = .halted h w := rfl

@[simp] theorem onMachine_apply (f : ω → α × ω) (s : σ) (w : ω) :
    (onMachine f : Action ω ε σ α) s w = .done (f w).1 s (f w).2 := rfl

@[simp] theorem ofExcept_ok (a : α) : (ofExcept (.ok a) : Action ω ε σ α) = pure a := rfl

@[simp] theorem ofExcept_error (e : ε) : (ofExcept (.error e) : Action ω ε σ α) = refuse e := rfl

end Equations

end Action

end ChannelReactor
