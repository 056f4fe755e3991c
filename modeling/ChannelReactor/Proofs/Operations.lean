import ChannelReactor.Proofs.Sessions

/-! # Operated channels

What a channel can become under the operations that every kind offers, in any order. Between two
operations the machine may have come to anything, as it does when a reactor has other channels to
serve. -/
namespace ChannelReactor

variable {ω χ : Type} [ChannelOps ω χ]

namespace ChannelOps

/-- One operation makes the second channel of the first. -/
def Step (c c' : χ) : Prop :=
  ∃ (op : ChannelOp) (w w' : ω), op.perform.Leaves c w c' w'

/-- Operations make the second channel of the first. -/
abbrev Operated : χ → χ → Prop := Relation.ReflTransGen Step

/-- What every operation keeps is true of whatever operations make. -/
theorem Operated.keeps {I : χ → Prop} {c c' : χ}
    (hI : ∀ op : ChannelOp, Action.Keeps (fun c _ => I c) (op.perform (χ := χ)))
    (h : Operated c c') (hc : I c) : I c' := by
  induction h with
  | refl => exact hc
  | tail _ hstep ih =>
    obtain ⟨op, w, w', hx⟩ := hstep
    exact (hI op _ w ih).leaves hx

/-- What the operations that a kind decides keep, and a change of mode or registration, every
operation keeps. -/
theorem perform_keeps {I : χ → ω → Prop}
    (happly : ∀ mode, Action.Keeps I (applyMode mode : Action ω ChannelError χ Unit))
    (hcore : ∀ f c w, ChannelCore.Retunes f → I c w → I (mapCore f c) w)
    (hread : ∀ count opts, Action.Keeps I (read count opts : Action ω ChannelError χ Bytes))
    (hwrite : ∀ data, Action.Keeps I (write data : Action ω ChannelError χ Unit))
    (honRead : Action.Keeps I (onRead : Action ω ChannelError χ Unit))
    (honWrite : Action.Keeps I (onWrite : Action ω ChannelError χ Unit))
    (hclose : Action.Keeps I (close : Action ω Empty χ Unit)) (op : ChannelOp) :
    Action.Keeps I (op.perform (χ := χ)) := by
  cases op with
  | write data => exact (hwrite data).bind fun _ => Action.keeps_pure
  | read count opts => exact hread count opts
  | onRead => exact honRead.bind fun _ => Action.keeps_pure
  | onWrite => exact honWrite.bind fun _ => Action.keeps_pure
  | setMode mode => exact (setMode_keeps happly hcore).bind fun _ => Action.keeps_pure
  | attach token => exact (attach_keeps happly hcore).bind fun _ => Action.keeps_pure
  | detach => exact (detach_keeps happly hcore).bind fun _ => Action.keeps_pure
  | close => exact hclose.sure.bind fun _ => Action.keeps_pure

/-- Operations one after another, each on the machine that the one before left; none when one
halts. -/
def operate : List ChannelOp → χ → ω → Option (χ × ω)
  | [], c, w => some (c, w)
  | op :: rest, c, w =>
    match op.perform c w with
    | .done _ c w | .refused _ c w => operate rest c w
    | .halted _ _ => none

theorem operated_of_operate :
    ∀ {ops : List ChannelOp} {c c' : χ} {w w' : ω}, operate ops c w = some (c', w') →
      Operated c c'
  | [], c, c', w, w', h => by
    cases h
    exact .refl
  | op :: rest, c, c', w, w', h => by
    rw [operate] at h
    split at h
    · rename_i data c₁ w₁ hx
      exact .head ⟨op, w, w₁, .inl ⟨data, hx⟩⟩ (operated_of_operate h)
    · rename_i e c₁ w₁ hx
      exact .head ⟨op, w, w₁, .inr ⟨e, hx⟩⟩ (operated_of_operate h)
    · cases h

end ChannelOps

end ChannelReactor
