import ChannelReactor.Proofs.Exchanges

/-! # What the operations of a connection end in

Each operation is some exchange with the transport, before or after which the connection changes its
core, begins to linger or parts with the transport. What is kept of a connection is proved case by
case from what is said here; no proof after this opens an operation again. -/
namespace ChannelReactor.Connection

variable {ω τ : Type} [Transport ω τ] {c : Connection τ} {w : ω}

/-- An exchange that an inactive connection does not begin. -/
def Engaged (p q : Connection τ × ω) : Prop :=
  Exchanged p q ∧ (p.1.core.active = false → q = p)

theorem Engaged.refl {p : Connection τ × ω} : Engaged p p := ⟨.refl, fun _ => rfl⟩

theorem Exchanged.engaged {p q : Connection τ × ω} (h : Exchanged p q)
    (ha : p.1.core.active = true) : Engaged p q :=
  ⟨h, fun hi => by rw [ha] at hi; cases hi⟩

theorem read_exchanged [Machine ω] {count : Nat} {opts : ReadOptions} :
    (read count opts).Ends c w
      (fun data c' w' => ∃ c₁ core, Engaged (c, w) (c₁, w') ∧
        c₁.core.takeInput count opts = .ok (data, core) ∧ c' = { c₁ with core := core })
      (fun _ c' w' => Engaged (c, w) (c', w')) := by
  have htake {c₁ : Connection τ} {w₁ : ω} (h : Engaged (c, w) (c₁, w₁)) :
      (takeInput count opts).Ends c₁ w₁
        (fun data c' w' => ∃ c₁ core, Engaged (c, w) (c₁, w') ∧
          c₁.core.takeInput count opts = .ok (data, core) ∧ c' = { c₁ with core := core })
        (fun _ c' w' => Engaged (c, w) (c', w')) :=
    takeInput_ends (fun _ core hcore => ⟨c₁, core, h, hcore, rfl⟩) fun _ _ => h
  rw [read, Action.ends_bind, Action.ends_subject]
  split
  · rename_i hfill
    simp only [Bool.and_eq_true] at hfill
    have ha : c.core.active = true := hfill.1.2
    rw [Action.ends_bind]
    exact (fill_exchanged c w .refl).mono (fun _ _ _ hx => htake (hx.engaged ha))
      (fun _ _ _ hx => hx.engaged ha)
  · exact htake .refl

/-- Only an active connection queues what is written. -/
theorem write_exchanged {data : Bytes} :
    (write data).Ends c w
      (fun _ c' w' => c.core.active = true ∧
        Exchanged (c.mapCore (·.enqueue data), w) (c', w'))
      (fun e c' w' => c.core.active = true ∧
          Exchanged (c.mapCore (·.enqueue data), w) (c', w') ∨
        c.core.active = false ∧ e = .closed ∧ c' = c ∧ w' = w) := by
  rw [write, Action.ends_bind, ensureActive_ends]
  refine ⟨fun ha => ?_, fun hi => .inr ⟨hi, rfl, rfl, rfl⟩⟩
  rw [Action.ends_bind, Action.ends_update, Action.ends_bind, Action.ends_subject]
  split
  · rw [Action.ends_bind]
    refine (flush_exchanged .refl).mono (fun flushed c' w' hx => ?_)
      (fun _ _ _ hf => .inl ⟨ha, hf.exchanged⟩)
    cases flushed with
    | drained => exact ⟨ha, hx.1⟩
    | blocked => exact .inl ⟨ha, hx.1⟩
  · exact ⟨ha, .refl⟩

theorem write_inactive {data : Bytes} (hinactive : c.core.active = false) :
    write data c w = .refused .closed c w := by
  rw [write, Action.bind_apply, ensureActive_inactive hinactive]

theorem onRead_active (ha : c.core.active = true) (hl : c.lingering = false) :
    onRead c w = drainInput (c.policy.drainsReads && !c.core.mode.isBlocking) (c.patience + 1) false
      c w := by
  rw [onRead, Action.bind_done (Action.subject_apply c w), if_neg (by simp [hl]),
    Action.bind_done (ensureActive_active ha)]

theorem onRead_inactive (hi : c.core.active = false) :
    onRead c w = .refused (if c.lingering then .dataNotAvailable else .closed) c w := by
  rw [onRead, Action.bind_done (Action.subject_apply c w)]
  cases c.lingering with
  | true => rfl
  | false => rw [if_neg Bool.false_ne_true, Action.bind_apply, ensureActive_inactive hi]; rfl

/-- A lingering connection takes nothing in. -/
theorem onRead_exchanged :
    onRead.Ends c w (fun _ c' w' => c.lingering = false ∧ Engaged (c, w) (c', w'))
      (fun e c' w' => c.lingering = false ∧ Engaged (c, w) (c', w') ∨
        c.lingering = true ∧ e = .dataNotAvailable ∧ c' = c ∧ w' = w) := by
  rw [onRead, Action.ends_bind, Action.ends_subject]
  split
  · rename_i hl
    exact .inr ⟨hl, rfl, rfl, rfl⟩
  · rename_i hl
    have hl' : c.lingering = false := Bool.eq_false_iff.mpr hl
    rw [Action.ends_bind, ensureActive_ends]
    refine ⟨fun ha => ?_, fun _ => .inl ⟨hl', .refl⟩⟩
    exact (drainInput_exchanged _ _ _ c w .refl ha).mono (fun _ _ _ hx => ⟨hl', hx.engaged ha⟩)
      (fun _ _ _ hx => .inl ⟨hl', hx.engaged ha⟩)

/-- After an exchange of which `P` is true the connection parts with its transport. -/
def Parts (p : Connection τ × ω) (P : Connection τ × ω → Prop) (q : Connection τ × ω) : Prop :=
  ∃ c w w', Exchanged p (c, w) ∧ P (c, w) ∧ c.PartsWith w w' ∧ q = (c.released, w')

/-- A lingering connection goes on lingering when its output is blocked again, and parts with its
transport otherwise: when all output is sent, or when it failed. -/
theorem onWrite_exchanged :
    onWrite.Ends c w
      (fun _ c' w' => Exchanged (c, w) (c', w') ∧ (c.lingering = true → c'.Held))
      (fun e c' w' => c.lingering = false ∧ Exchanged (c, w) (c', w') ∨
        c.lingering = true ∧
          Parts (c, w) (fun q => q.1.Settled ∨ Fails (c, w) e q) (c', w')) := by
  have hrelease {c₁ : Connection τ} {w₁ : ω} {e : ChannelError} (hx : Exchanged (c, w) (c₁, w₁))
      (hl : c₁.lingering = true) (hwhy : c₁.Settled ∨ Fails (c, w) e (c₁, w₁)) :
      (do release.sure; Action.refuse e : Action ω ChannelError (Connection τ) Unit).Ends c₁ w₁
        (fun _ c' w' => Exchanged (c, w) (c', w') ∧ (c.lingering = true → c'.Held))
        (fun e c' w' => c.lingering = false ∧ Exchanged (c, w) (c', w') ∨
          c.lingering = true ∧
            Parts (c, w) (fun q => q.1.Settled ∨ Fails (c, w) e q) (c', w')) := by
    rw [Action.ends_bind, Action.ends_sure]
    exact release_ends fun w' hparts =>
      .inr ⟨hx.kept.lingering.symm.trans hl, c₁, w₁, w', hx, hwhy, hparts, rfl⟩
  rw [onWrite, Action.ends_bind, Action.ends_attempt]
  refine (flush_exchanged .refl).mono (fun flushed c' w' ⟨hx, hflushed⟩ => ?_)
    (fun e c' w' hf => ?_)
  · rw [Action.ends_bind, Action.ends_subject]
    split
    · rename_i hl
      cases flushed with
      | blocked => exact ⟨hx, fun _ => hflushed⟩
      | drained => exact hrelease hx hl (.inl hflushed)
    · rename_i hl
      exact ⟨hx, fun hl' => absurd (hx.kept.lingering.trans hl') hl⟩
  · rw [Action.ends_bind, Action.ends_subject]
    split
    · rename_i hl
      exact hrelease hf.exchanged hl (.inr hf)
    · rename_i hl
      exact .inl ⟨hf.exchanged.kept.lingering.symm.trans (Bool.eq_false_iff.mpr hl), hf.exchanged⟩

/-- What a close makes of a connection that it has made inactive. -/
inductive Closes (c : Connection τ) (w : ω) : Connection τ × ω → Prop
  /-- There is no transport, or the connection is left to its reactor. -/
  | idle (h : c.transport = none ∨ c.lingering = true ∧ c.core.isRegistered = true) :
    Closes c w (c, w)
  | lingers {c' : Connection τ} {w' : ω} (hx : Exchanged (c, w) (c', w'))
    (hl : c.lingering = false) (hr : c.core.isRegistered = true) (hheld : c'.Held) :
    Closes c w ({ c' with lingering := true }, w')
  | parts {q : Connection τ × ω} (ht : c.transport.isSome = true)
    (h : Parts (c, w) (fun q => q.1.Settled ∨ (∃ e, Fails (c, w) e q) ∨
      c.core.isRegistered = false) q) : Closes c w q

theorem close_exchanged :
    close.Ends c w (fun _ c' w' => Closes (c.mapCore ChannelCore.deactivate) w (c', w'))
      (fun e _ _ => e.elim) := by
  rw [close, Action.ends_bind, Action.ends_update]
  generalize c.mapCore ChannelCore.deactivate = c
  have hrelease {c₁ : Connection τ} {w₁ : ω} (ht : c.transport.isSome = true)
      (hx : Exchanged (c, w) (c₁, w₁))
      (hwhy : c₁.Settled ∨ (∃ e, Fails (c, w) e (c₁, w₁)) ∨ c.core.isRegistered = false) :
      release.Ends c₁ w₁ (fun _ c' w' => Closes c w (c', w')) (fun e _ _ => e.elim) :=
    release_ends fun w' hparts => .parts ht ⟨c₁, w₁, w', hx, hwhy, hparts, rfl⟩
  rw [Action.ends_bind, Action.ends_subject]
  split
  · rename_i hidle
    simp only [Bool.or_eq_true, Bool.and_eq_true, Option.isNone_iff_eq_none] at hidle
    exact .idle hidle
  · rename_i hopen
    simp only [Bool.or_eq_true, Bool.and_eq_true, not_or, not_and, Option.isNone_iff_eq_none,
      Bool.not_eq_true] at hopen
    obtain ⟨hne, hdetached⟩ := hopen
    have ht : c.transport.isSome = true := Option.isSome_iff_ne_none.mpr hne
    split
    · rename_i hpending
      simp only [Bool.and_eq_true, Bool.not_eq_true'] at hpending
      rw [Action.ends_bind, Action.ends_attempt]
      refine (flush_exchanged .refl).mono (fun flushed c' w' ⟨hx, hflushed⟩ => ?_)
        (fun e c' w' hf => ?_)
      · have hregistered : c'.core.isRegistered = c.core.isRegistered := by
          rw [ChannelCore.isRegistered, ChannelCore.isRegistered, hx.kept.registration]
        rw [Action.ends_bind, Action.ends_subject]
        split
        · rename_i hmust
          obtain ⟨hblocked, hr⟩ := mustLinger_iff.mp hmust
          cases Except.ok.inj hblocked
          exact .lingers hx hpending.1 (hregistered ▸ hr) hflushed
        · rename_i hmust
          cases flushed with
          | drained => exact hrelease ht hx (.inl hflushed)
          | blocked =>
            have hr : c.core.isRegistered = false := by
              rw [← hregistered]
              exact Bool.eq_false_iff.mpr fun hr => hmust (mustLinger_iff.mpr ⟨rfl, hr⟩)
            exact hrelease ht hx (.inr (.inr hr))
      · rw [Action.ends_bind, Action.ends_subject]
        exact hrelease ht hf.exchanged (.inr (.inl ⟨e, hf⟩))
    · rename_i hquiet
      simp only [Bool.and_eq_true, Bool.not_eq_true', not_and, Bool.not_eq_true] at hquiet
      cases hl : c.lingering with
      | true => exact hrelease ht .refl (.inr (.inr (hdetached hl)))
      | false => exact hrelease ht .refl (.inl (.of_not_pending ht (hquiet hl)))

end ChannelReactor.Connection
