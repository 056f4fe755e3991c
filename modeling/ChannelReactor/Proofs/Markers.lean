import Mathlib.Data.List.Forall2
import ChannelReactor.Proofs.HardFailures
import ChannelReactor.Proofs.Trading

/-! # Markers in the texts of errors

Under the secure policy an error is judged by its text: it will pass when one of a few markers
stands somewhere in the text, in letters of any case, and is fatal otherwise
(`judgeText_eq_retry_iff`). So the case of a text does not count, nor what stands before or after a
marker, and a channel goes on after an error just when its text is marked (`Policy.texts_decide`). -/
namespace ChannelReactor

variable {ω τ α : Type}

namespace Text

/-- The same character, or an ASCII letter in its two cases. -/
def SameLetter (a b : Char) : Prop :=
  a = b ∨
    (a.isAlpha = true ∧ b.isAlpha = true ∧
      (a.toNat + 32 = b.toNat ∨ b.toNat + 32 = a.toNat))

/-- The marker stands in the text from this place on, letter for letter in any case. -/
def StandsAt (marker text : String) (place : Nat) : Prop :=
  marker.toList.length + place ≤ text.toList.length ∧
    ∀ i (h : i < marker.toList.length),
      ∃ c, text.toList[i + place]? = some c ∧ SameLetter c marker.toList[i]

/-- The texts differ in nothing but the case of ASCII letters. -/
def Recased (text text' : String) : Prop := List.Forall₂ SameLetter text.toList text'.toList

theorem toNat_toLower (c : Char) :
    c.toLower.toNat = if c.isUpper then c.toNat + 32 else c.toNat := by
  unfold Char.toLower
  delta Char.isUpper
  split
  · rename_i h
    rw [if_pos (by simpa using h)]
    have hz : c.val.toNat ≤ 90 := UInt32.le_iff_toNat_le.mp h.2
    change (c.val + 32).toNat = c.val.toNat + 32
    rw [UInt32.toNat_add]
    change (c.val.toNat + 32) % 2 ^ 32 = _
    omega
  · rename_i h
    rw [if_neg (by simpa using h)]

theorem isUpper_iff {c : Char} : c.isUpper = true ↔ 65 ≤ c.toNat ∧ c.toNat ≤ 90 := by
  delta Char.isUpper
  simp [UInt32.le_iff_toNat_le, ← Char.toNat_val]

theorem isLower_iff {c : Char} : c.isLower = true ↔ 97 ≤ c.toNat ∧ c.toNat ≤ 122 := by
  delta Char.isLower
  simp [UInt32.le_iff_toNat_le, ← Char.toNat_val]

theorem toLower_eq_toLower_iff {a b : Char} : a.toLower = b.toLower ↔ SameLetter a b := by
  have halpha (c : Char) : c.isAlpha = (c.isUpper || c.isLower) := rfl
  rw [← Char.toNat_inj, toNat_toLower, toNat_toLower, SameLetter, ← Char.toNat_inj (c := a)]
  simp only [halpha, Bool.or_eq_true, isUpper_iff, isLower_iff]
  split <;> split <;> omega

/-- A marker in small letters is found just where it stands. -/
theorem occursCaseless_iff {marker text : String} (hsmall : ∀ c ∈ marker.toList, c.toLower = c) :
    occursCaseless marker text = true ↔ ∃ place, StandsAt marker text place := by
  have hletter {i : Nat} (place : Nat) (h : i < marker.toList.length) :
      (lowered text.toList)[i + place]? = some marker.toList[i] ↔
        ∃ c, text.toList[i + place]? = some c ∧ SameLetter c marker.toList[i] := by
    rw [lowered, List.getElem?_map, Option.map_eq_some_iff]
    simp only [← toLower_eq_toLower_iff, hsmall _ (List.getElem_mem h)]
  rw [occursCaseless, occurs_iff, List.infix_iff_getElem?]
  simp only [StandsAt, lowered, List.length_map] at hletter ⊢
  exact exists_congr fun place => and_congr_right fun _ =>
    forall₂_congr fun i h => hletter place h

theorem recased_iff {text text' : String} :
    Recased text text' ↔ lowered text.toList = lowered text'.toList := by
  rw [lowered, lowered, ← List.forall₂_eq_eq_eq, List.forall₂_map_left_iff,
    List.forall₂_map_right_iff, Recased]
  simp only [toLower_eq_toLower_iff]

theorem occursCaseless_recased {marker text text' : String} (h : Recased text text') :
    occursCaseless marker text' = occursCaseless marker text := by
  rw [occursCaseless, occursCaseless, recased_iff.mp h]

theorem StandsAt.padded {marker text : String} {place : Nat} (h : StandsAt marker text place)
    (before after : String) :
    StandsAt marker (before ++ text ++ after) (before.toList.length + place) := by
  obtain ⟨hfits, hletters⟩ := h
  refine ⟨by simp only [String.toList_append, List.length_append]; omega, fun i hi => ?_⟩
  obtain ⟨c, hc, hsame⟩ := hletters i hi
  refine ⟨c, ?_, hsame⟩
  have hinside : i + place < text.toList.length := by omega
  rw [String.toList_append, String.toList_append, List.append_assoc,
    List.getElem?_append_right (by omega), List.getElem?_append_left (by omega), ← hc]
  congr 1
  omega

end Text

namespace Policy

/-- The markers of the errors of a call that will pass. -/
inductive Marks : TransportCall → String → Prop
  | timedOut (call : TransportCall) : Marks call "timed out"
  | wouldBlock (call : TransportCall) : Marks call "would block"
  | unavailable (call : TransportCall) : Marks call "temporarily unavailable"
  /-- The other side gave the connection up before it was accepted. -/
  | givenUp : Marks .accept "connection reset by peer"

/-- A marker for the call stands somewhere in the text. -/
def Marked (call : TransportCall) (text : String) : Prop :=
  ∃ marker, Marks call marker ∧ ∃ place, Text.StandsAt marker text place

theorem Marks.small {call : TransportCall} {marker : String} (h : Marks call marker) :
    ∀ c ∈ marker.toList, c.toLower = c := by
  -- A test of the letters that are there, for there are too many characters to try them all.
  have hall : (marker.toList.all fun c => c.toLower == c) = true := by
    cases h <;> decide
  simpa only [List.all_eq_true, beq_iff_eq] using hall

theorem marks_iff {call : TransportCall} {marker : String} :
    Marks call marker ↔
      marker ∈ transientMarkers ∨ call = .accept ∧ marker = acceptResetMarker := by
  simp only [transientMarkers, acceptResetMarker, List.mem_cons, List.not_mem_nil, or_false]
  constructor
  · intro h
    cases h <;> simp
  · rintro ((rfl | rfl | rfl) | ⟨rfl, rfl⟩)
    · exact .timedOut call
    · exact .wouldBlock call
    · exact .unavailable call
    · exact .givenUp

variable {call : TransportCall} {text : String}

theorem judgeText_eq_retry_iff : judgeText call text = .retry ↔ Marked call text := by
  have hfound : Marked call text ↔
      ∃ marker, Marks call marker ∧ Text.occursCaseless marker text = true :=
    exists_congr fun marker => and_congr_right fun h => (Text.occursCaseless_iff h.small).symm
  have hjudged : judgeText call text = .retry ↔
      transientMarkers.any (Text.occursCaseless · text) = true ∨
        (call = .accept && Text.occursCaseless acceptResetMarker text) = true := by
    unfold judgeText
    split
    · simp [*]
    · split <;> simp [*]
  rw [hjudged, hfound, List.any_eq_true]
  simp [marks_iff, or_and_right, exists_or, and_assoc]

theorem judgeText_eq_fatal_iff : judgeText call text = .fatal ↔ ¬ Marked call text := by
  rw [← judgeText_eq_retry_iff]
  unfold judgeText
  split
  · simp
  · split <;> simp

theorem judgeText_recased {text' : String} (h : Text.Recased text text') :
    judgeText call text' = judgeText call text := by
  unfold judgeText
  simp only [Text.occursCaseless_recased h]

theorem Marked.padded (h : Marked call text) (before after : String) :
    Marked call (before ++ text ++ after) := by
  obtain ⟨marker, hmarks, place, hstands⟩ := h
  exact ⟨marker, hmarks, _, hstands.padded before after⟩

/-- Under the secure policy an error is fatal when it is no interruption and has no marker. -/
theorem judge_secure_fatal_iff {e : IoError} :
    secure.judge call e = .fatal ↔ e.kind ≠ .interrupted ∧ ¬ Marked call e.text := by
  rw [← judgeText_eq_fatal_iff, judge]
  split <;> simp [*]

end Policy

namespace Call

/-- There was nothing left to receive, or nothing was accepted of the output. -/
def Spent : Call → Prop
  | recv _ (.ok data) => data = []
  | send _ (.ok n) => n = 0
  | _ => False

/-- The error of a call on a transport that is judged, and as an error of what. -/
def error? : Call → Option (TransportCall × IoError)
  | recv _ (.error e) => some (.recv, e)
  | send _ (.error e) | flush (.error e) => some (.send, e)
  | _ => none

/-- Under the secure policy a call ends a connection by its error just when that is no interruption
and has no marker. -/
theorem finishes_secure_iff {call : Call} : call.Finishes .secure ↔
    call.Spent ∨ ∃ kind e, call.error? = some (kind, e) ∧ e.kind ≠ .interrupted ∧
      ¬ Policy.Marked kind e.text := by
  match call with
  | .recv _ (.ok _) | .send _ (.ok _) => simp [Finishes, Breaks, Spent, error?]
  | .recv _ (.error e) | .send _ (.error e) | .flush (.error e) =>
    simp [Finishes, Breaks, Spent, error?, Policy.judge_secure_fatal_iff, and_assoc]
  | .flush (.ok _) | .setMode .. | .close _ | .setNodelay .. | .accept _ =>
    simp [Finishes, Breaks, Spent, error?]

end Call

/-- An accept adds itself to the record. -/
theorem Recorded.accept_recorded [Acceptor ω α τ] {a : Recorded α} {w : Recorder ω} :
    (Acceptor.accept : Action (Recorder ω) IoError (Recorded α) (Recorded τ × String)).Ends a w
      (fun _ _ w' => ∃ next, w'.calls = w.calls ++ [⟨a.device, .accept (.ok next)⟩])
      (fun e _ w' => w'.calls = w.calls ++ [⟨a.device, .accept (.error e)⟩]) := by
  change (accept : Action (Recorder ω) IoError (Recorded α) (Recorded τ × String)).Ends a w _ _
  unfold Action.Ends accept
  cases Acceptor.accept a.body w.machine with
  | done next body m => exact ⟨_, rfl⟩
  | refused e body m => rfl
  | halted h m => trivial

namespace Listener

/-- The record between the two tells whether the listener is active: it is as active as it was,
unless an accept failed with an error that its policy calls fatal. -/
structure Judged (l : Listener (Recorded α)) (w : Recorder ω) (l' : Listener (Recorded α))
    (w' : Recorder ω) : Prop where
  policy : l'.policy = l.policy
  told : ∃ records, w'.calls = w.calls ++ records ∧
    (l'.core.active = true ↔ l.core.active = true ∧
      ∀ r ∈ records, ∀ e, r.call = .accept (.error e) → l.policy.judge .accept e ≠ .fatal)

variable {l l₁ l' : Listener (Recorded α)} {w w₁ w' : Recorder ω}

theorem Judged.refl : Judged l w l w := ⟨rfl, [], by simp, by simp⟩

theorem Judged.trans (h : Judged l w l₁ w₁) (h' : Judged l₁ w₁ l' w') : Judged l w l' w' := by
  obtain ⟨hpolicy, records, hcalls, hactive⟩ := h
  obtain ⟨hpolicy', records', hcalls', hactive'⟩ := h'
  refine ⟨hpolicy'.trans hpolicy, records ++ records', ?_, ?_⟩
  · rw [hcalls', hcalls, List.append_assoc]
  · rw [hactive', hactive, hpolicy]
    simp [or_imp, forall_and, and_assoc]

/-- A call that is no accept leaves the listener as active as it is. -/
theorem Judged.of_call {device : Nat} {call : Call} (hpolicy : l'.policy = l.policy)
    (hactive : l'.core.active = l.core.active)
    (hcalls : w'.calls = w.calls ++ [⟨device, call⟩])
    (hcall : ∀ e, call = .accept (.error e) → l.policy.judge .accept e ≠ .fatal) :
    Judged l w l' w' :=
  ⟨hpolicy, _, hcalls, by simpa [hactive] using fun _ => hcall⟩

variable [Acceptor ω α τ]

theorem acceptOnce_judged : (acceptOnce (τ := Recorded τ)).Ends l w
    (fun _ l' w' => Judged l w l' w') (fun _ l' w' => Judged l w l' w') := by
  rw [acceptOnce, Action.ends_bind, Action.ends_subject, Action.ends_bind]
  refine onAcceptor_ends (fun a => ?_) .refl
  refine Recorded.accept_recorded.mono (fun next a' w' h => ?_) (fun e a' w' h => ?_)
  · obtain ⟨answer, hcalls⟩ := h
    exact .of_call rfl rfl hcalls (by simp)
  · have hspared (hj : l.policy.judge .accept e ≠ .fatal) :
        Judged l w { l with acceptor := some a' } w' :=
      .of_call rfl rfl h fun e' he => by cases he; exact hj
    dsimp only
    cases hj : l.policy.judge .accept e with
    | retry => exact hspared (by simp [hj])
    | interrupted => exact hspared (by simp [hj])
    | fatal => exact ⟨rfl, _, h, by simp [mapCore, ChannelCore.deactivate, hj]⟩

variable [Transport ω τ]

/-- Of the calls that an accept of a connection makes, only the accepts of the acceptor decide
whether the listener is active after it. -/
theorem acceptConnection_judged : (acceptConnection (τ := Recorded τ)).Ends l w
    (fun _ l' w' => Judged l w l' w') (fun _ l' w' => Judged l w l' w') := by
  rw [acceptConnection, Action.ends_bind, acceptTransport, Action.ends_bind, Action.ends_subject,
    Action.ends_bind, Action.ends_ofExcept]
  refine ⟨fun _ _ => ?_, fun _ _ => .refl⟩
  rw [Action.ends_bind]
  refine (Action.Ends.repeatUntil (I := fun l' w' => Judged l w l' w')
    (Q := fun (_ : Recorded τ × String) l' w' => Judged l w l' w') (fun l₁ w₁ h => ?_) _ l w
    .refl).mono (fun next l₁ w₁ h => ?_) (fun _ _ _ h => h)
  · refine acceptOnce_judged.mono (fun next _ _ h' => ?_) (fun _ _ _ h' => h.trans h')
    cases next <;> exact h.trans h'
  have hestablish {t : Recorded τ} {w₂ : Recorder ω} (h : Judged l w l₁ w₂) : (do
        let l ← Action.subject
        let connection ← Connection.establish l.policy l.settings t
        pure (connection, next.2) : Action (Recorder ω) ChannelError _ _).Ends l₁ w₂
      (fun _ l' w' => Judged l w l' w') (fun _ l' w' => Judged l w l' w') := by
    rw [Action.ends_bind, Action.ends_subject, Action.ends_bind]
    refine Connection.establish_ends (fun _ _ => h) fun _ => ?_
    exact Recorded.call_ends (fun _ _ _ _ hw => h.trans (.of_call rfl rfl hw (by simp)))
      (fun _ _ _ _ hw => h.trans (.of_call rfl rfl hw (by simp)))
  rw [Action.ends_bind, Action.ends_runOn, Action.ends_attempt]
  exact Recorded.call_ends
    (fun _ _ _ _ hw => hestablish (h.trans (.of_call rfl rfl hw (by simp))))
    (fun _ _ _ _ hw => hestablish (h.trans (.of_call rfl rfl hw (by simp))))

end Listener

namespace Policy

/-- The text of an error decides by its markers alone: the error will pass when one of them stands
in it at some place, in letters of any case, and is fatal otherwise. So the case of its letters does
not count, and neither does what stands before or after a marker.

For a channel under the secure policy this is the whole difference between going on and being done.
A connection is active after a read, a write or an operation on readiness just if it was before, no
call was spent, and a marker for the call stood in every error that was no interruption; a listener
is active after an accept just if it was before and a marker stood in every such error of its
acceptor. -/
theorem texts_decide [Machine ω] [Transport ω τ] [Acceptor ω α τ] (call : TransportCall)
    (text : String) :
    (judgeText call text = .retry ↔ Marked call text) ∧
    (judgeText call text = .fatal ↔ ¬ Marked call text) ∧
    (∀ text', Text.Recased text text' → judgeText call text' = judgeText call text) ∧
    (∀ before after, judgeText call text = .retry →
      judgeText call (before ++ text ++ after) = .retry) ∧
    (∀ (s s' : Session τ ω) (op : ChannelOp) (result : Except ChannelError Bytes),
      s.connection.policy = .secure → op.Transfers → s.step op = some (result, s') →
      ∃ calls, s'.machine.calls = s.machine.calls ++ calls ∧
        (s'.connection.core.active = true ↔ s.connection.core.active = true ∧
          ∀ r ∈ calls, ¬ r.call.Spent ∧ ∀ kind e, r.call.error? = some (kind, e) →
            e.kind ≠ .interrupted → Marked kind e.text)) ∧
    (∀ (l l' : Listener (Recorded α)) (w w' : Recorder ω), l.policy = .secure →
      (Listener.acceptConnection (τ := Recorded τ)).Leaves l w l' w' →
      ∃ calls, w'.calls = w.calls ++ calls ∧
        (l'.core.active = true ↔ l.core.active = true ∧
          ∀ r ∈ calls, ∀ e, r.call = .accept (.error e) →
            e.kind ≠ .interrupted → Marked .accept e.text)) := by
  refine ⟨judgeText_eq_retry_iff, judgeText_eq_fatal_iff, fun _ => judgeText_recased,
    fun before after h => ?_, fun s s' op result hsecure hop hstep => ?_,
    fun l l' w w' hsecure hleaves => ?_⟩
  · exact judgeText_eq_retry_iff.mpr ((judgeText_eq_retry_iff.mp h).padded before after)
  · obtain ⟨calls, hcalls, hactive⟩ :=
      (ChannelOp.perform_accounted hop).leaves (Session.answers_of_step hstep).leaves
    refine ⟨calls, hcalls, hactive.trans (and_congr_right fun _ => forall₂_congr fun r _ => ?_)⟩
    rw [hsecure, Call.finishes_secure_iff, not_or]
    simp
  · obtain ⟨-, calls, hcalls, hactive⟩ := Listener.acceptConnection_judged.leaves hleaves
    refine ⟨calls, hcalls, hactive.trans (and_congr_right fun _ => forall₂_congr fun r _ => ?_)⟩
    rw [hsecure]
    simp [judge_secure_fatal_iff]

/-- Its first receive fails with an error that has a marker, its second with one that has none. -/
def grumblingWire : Scenario.Wire where
  name := "grumbling"
  script.recv :=
    [{ act := .fails (.described .other "read Timed OUT") },
     { act := .fails (.described .other "bad record mac") }]

theorem grumblingWire_read : ∃ s s' : Session Scenario.Wire Scenario.Bench,
    s.connection.policy = .secure ∧ s.connection.core.active = true ∧
    s.step (.read 1 {}) = some (.error (.failed (.described .other "bad record mac")), s') ∧
    s'.connection.core.active = false := by
  have hrun : (Session.opened .secure {} grumblingWire {}).any (fun s =>
      decide (s.connection.policy = .secure) && s.connection.core.active &&
      (s.step (.read 1 {})).any fun next =>
        Session.failure? next.1 == some (.described .other "bad record mac") &&
          !next.2.connection.core.active) = true := by
    decide +kernel
  obtain ⟨s, -, hs⟩ := (Option.any_eq_true _ _).mp hrun
  simp only [Bool.and_eq_true, decide_eq_true_eq] at hs
  obtain ⟨⟨hsecure, hactive⟩, hread⟩ := hs
  obtain ⟨⟨result, s'⟩, hstep, hs'⟩ := (Option.any_eq_true _ _).mp hread
  simp only [Bool.and_eq_true, beq_iff_eq, Bool.not_eq_true'] at hs'
  cases Session.failure?_eq_some.mp hs'.1
  exact ⟨s, s', hsecure, hactive, hstep, hs'.2⟩

/-- The only connection that comes to it was given up. -/
def desertedListener : Listener (Recorded Scenario.Gate) where
  core := .new .forever "deserted"
  acceptor := some ⟨0, { name := "deserted",
                         accepts := [.fails (.described .other "Connection RESET by peer")] }⟩
  settings := {}
  policy := .secure

/-- A read goes on after the first error and ends with the second; the listener goes on. -/
theorem texts_decide_grumblingWire :
    (judgeText .recv "Timed OUT" = .retry ∧ Text.Recased "Timed OUT" "timed out") ∧
    judgeText .recv "timed out" = .retry ∧ judgeText .recv ("read " ++ "Timed OUT" ++ "!") = .retry ∧
    (∃ s s' : Session Scenario.Wire Scenario.Bench,
      (s.connection.policy = .secure ∧ (ChannelOp.read 1 {}).Transfers ∧
        s.step (.read 1 {}) = some (.error (.failed (.described .other "bad record mac")), s')) ∧
      s.connection.core.active = true ∧ s'.connection.core.active = false ∧
      ∃ calls, s'.machine.calls = s.machine.calls ++ calls ∧
        (s'.connection.core.active = true ↔ s.connection.core.active = true ∧
          ∀ r ∈ calls, ¬ r.call.Spent ∧ ∀ kind e, r.call.error? = some (kind, e) →
            e.kind ≠ .interrupted → Marked kind e.text)) ∧
    ∃ (l' : Listener (Recorded Scenario.Gate)) (w w' : Recorder Scenario.Bench),
      (desertedListener.policy = .secure ∧
        (Listener.acceptConnection (τ := Recorded Scenario.Wire)).Leaves desertedListener w l' w') ∧
      l'.core.active = true ∧
      ∃ calls, w'.calls = w.calls ++ calls ∧
        (l'.core.active = true ↔ desertedListener.core.active = true ∧
          ∀ r ∈ calls, ∀ e, r.call = .accept (.error e) →
            e.kind ≠ .interrupted → Marked .accept e.text) := by
  obtain ⟨-, -, hcase, hpad, hconnections, hlisteners⟩ :=
    texts_decide (ω := Scenario.Bench) (τ := Scenario.Wire) (α := Scenario.Gate) .recv "Timed OUT"
  have hretry : judgeText .recv "Timed OUT" = .retry := by decide +kernel
  have hcases : Text.Recased "Timed OUT" "timed out" := Text.recased_iff.mpr (by decide +kernel)
  have hread : (ChannelOp.read 1 {}).Transfers := trivial
  obtain ⟨s, s', hsecure, hactive, hstep, hover⟩ := grumblingWire_read
  obtain ⟨l', w', hleaves, hgoesOn⟩ : ∃ l' w',
      (Listener.acceptConnection (τ := Recorded Scenario.Wire)).Leaves desertedListener
        (Recorder.start {}) l' w' ∧ l'.core.active = true :=
    ⟨_, _, .inr ⟨.dataNotAvailable, rfl⟩, rfl⟩
  exact ⟨⟨hretry, hcases⟩, (hcase _ hcases).trans hretry, hpad _ _ hretry,
    ⟨s, s', ⟨hsecure, hread, hstep⟩, hactive, hover,
      hconnections s s' _ _ hsecure hread hstep⟩,
    l', _, w', ⟨rfl, hleaves⟩, hgoesOn, hlisteners _ _ _ _ rfl hleaves⟩

end Policy

end ChannelReactor
