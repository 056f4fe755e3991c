import Mathlib.Data.List.Nodup
import ChannelReactor.Proofs.Lifecycle

/-! # The turns of a reactor's life

A turn is a move of an iteration, or one thing that the owner of a reactor does with it. Every
command is a chain of turns, so what every turn keeps is true after any commands, and at every point
of the iterations among them. -/
namespace ChannelReactor

variable {ω η χ : Type}

/-- What is done to a channel on a visit is among the changes that `V` allows. -/
def Command.Within (V : χ → χ → Prop) : Command ω η χ → Prop
  | visit _ x => ∀ c w c' w', x.Leaves c w c' w' → V c c'
  | _ => True

namespace Reactor

variable [Machine ω] [ChannelOps ω χ] [Hooks ω η χ]

/-- One turn of a reactor and its machine. On a visit the owner makes of a channel what `V`
allows. -/
inductive Turn (V : χ → χ → Prop) :
    Reactor (Watched η χ) χ × ω → Reactor (Watched η χ) χ × ω → Prop
  | move {p q : Reactor (Watched η χ) χ × ω} (h : Move p q) : Turn V p q
  | mailbox {r : Reactor (Watched η χ) χ} {w : ω} (m : Mailbox χ) :
    Turn V (r, w) ({ r with mailbox := m }, w)
  | adjust {r : Reactor (Watched η χ) χ} {w : ω} (hooks : η) :
    Turn V (r, w) ({ r with hooks := { r.hooks with hooks } }, w)
  | visit {r : Reactor (Watched η χ) χ} {w w' : ω} {side : Side} {index : Nat} {e : Entry χ} {c : χ}
    (he : (r.entries side)[index]? = some e) (hv : V e.channel c) :
    Turn V (r, w) (r.put side index c, w')
  /-- An entry is given back. -/
  | unregister {r : Reactor (Watched η χ) χ} {w w' : ω} (side : Side) (index : Nat) :
    Turn V (r, w) (r.without side index, w')
  | takeListeners {r : Reactor (Watched η χ) χ} {w w' : ω} :
    Turn V (r, w) ({ r with listeners := [] }, w')
  /-- The first client is closed at the end of a run. -/
  | dismiss {r : Reactor (Watched η χ) χ} {w w₁ w₂ : ω} {e : Entry χ} {rest : List (Entry χ)} {c : χ}
    {desk : Desk (Watched η χ) χ} (he : r.clients = e :: rest)
    (hc : ChannelOps.close (ChannelOps.mapCore ChannelCore.unregister e.channel) w = .done () c w₁)
    (hh : Hooks.onClosed e.id c .shutdown r.desk w₁ = .done () desk w₂) :
    Turn V (r, w) (({ r with clients := rest } : Reactor _ χ).withDesk desk, w₂)
  /-- The application hears of the start or the end of a run. -/
  | greet {r : Reactor (Watched η χ) χ} {w w' : ω} {call : HookCall χ} {desk : Desk (Watched η χ) χ}
    (hcall : call = .startup ∨ call = .cleanup)
    (hh : desk.hooks.calls = r.hooks.calls ++ [call]) : Turn V (r, w) (r.withDesk desk, w')

abbrev Turns (V : χ → χ → Prop) :
    Reactor (Watched η χ) χ × ω → Reactor (Watched η χ) χ × ω → Prop :=
  Relation.ReflTransGen (Turn V)

variable {V : χ → χ → Prop} {o : Reactor (Watched η χ) χ × ω} {r : Reactor (Watched η χ) χ} {w : ω}

/-- What every turn keeps is true at the end of any turns. -/
theorem Turns.keeps {I : Reactor (Watched η χ) χ → Prop}
    (hstep : ∀ {r r' : Reactor (Watched η χ) χ} {w w' : ω}, I r → Turn V (r, w) (r', w') → I r')
    {r r' : Reactor (Watched η χ) χ} {w w' : ω} (ht : Turns V (r, w) (r', w')) (h : I r) : I r' := by
  have hall (p : Reactor (Watched η χ) χ × ω) (hp : Turns V (r, w) p) : I p.1 := by
    induction hp with
    | refl => exact h
    | tail _ hturn ih => exact hstep ih hturn
  exact hall _ ht

theorem Moves.turns {p q : Reactor (Watched η χ) χ × ω} (h : Moves p q) : Turns V p q :=
  Relation.ReflTransGen.mono (fun _ _ hm => Turn.move hm) _ _ h

theorem enroll_turns {side : Side} {c : χ} :
    Action.Keeps (fun r w => Turns V o (r, w)) (enroll side c) := by
  intro r w ho
  exact (enroll_keeps r w .refl).mono (fun _ _ _ hm => ho.trans (Moves.turns hm))
    (fun _ _ _ hm => ho.trans (Moves.turns hm))

theorem unregister_turns {id : ChannelId} :
    Action.Keeps (fun r w => Turns V o (r, w)) (unregister id) := by
  intro r w ho
  exact unregister_ends ho fun side index _ _ _ _ _ _ => ho.tail (.unregister side index)

theorem takeListeners_turns {ε : Type} :
    Action.Keeps (fun r w => Turns V o (r, w))
      (takeListeners : Action ω ε (Reactor (Watched η χ) χ) (List χ)) := by
  refine Action.Keeps.bindSubject fun r w ho => ?_
  rw [Action.ends_bind, Action.ends_update]
  refine detachAll_ends.mono (fun _ r' w' hr => ?_) (fun _ _ _ hf => hf.elim)
  subst hr
  exact ho.tail .takeListeners

/-- The end of a run closes the clients one by one. -/
theorem closeAll_turns {ε : Type} :
    ∀ {entries : List (Entry χ)} {r : Reactor (Watched η χ) χ} {w : ω},
      Turns V o (({ r with clients := entries } : Reactor _ χ), w) →
        (closeAll entries : Action ω ε (Reactor (Watched η χ) χ) Unit).Ends
          { r with clients := [] } w (fun _ r' w' => Turns V o (r', w')) (fun _ _ _ => False)
  | [], _, _, ho => ho
  | e :: rest, r, w, ho => by
    refine closeAll_cons_ends fun c w₁ desk w₂ hc hh => ?_
    have hnext : Turns V o
        (({ r.withDesk desk with clients := rest } : Reactor (Watched η χ) χ), w₂) :=
      ho.tail (.dismiss (r := { r with clients := e :: rest }) rfl hc hh)
    exact closeAll_turns hnext

theorem shutdown_turns {ε : Type} :
    Action.Keeps (fun r w => Turns V o (r, w))
      (shutdown : Action ω ε (Reactor (Watched η χ) χ) Unit) := by
  refine Action.Keeps.bindSubject fun r w ho => ?_
  rw [Action.ends_bind, Action.ends_update]
  exact (closeAll_turns ho).mono (fun _ _ _ h => h) (fun _ _ _ h => h.elim)

theorem hook_turns {ε : Type} {x : Action ω Empty (Desk (Watched η χ) χ) Unit} {call : HookCall χ}
    (hcall : call = .startup ∨ call = .cleanup)
    (hx : ∀ desk w a desk' w', x desk w = .done a desk' w' →
      desk'.hooks.calls = desk.hooks.calls ++ [call]) :
    Action.Keeps (fun r w => Turns V o (r, w))
      (hook x : Action ω ε (Reactor (Watched η χ) χ) Unit) := fun r _ ho =>
  hook_ends fun a desk w' hd => ho.tail (.greet hcall (hx r.desk _ a desk w' hd))

theorem startup_turns {ε : Type} :
    Action.Keeps (fun r w => Turns V o (r, w))
      (hook Hooks.onStartup : Action ω ε (Reactor (Watched η χ) χ) Unit) :=
  hook_turns (.inl rfl) fun _ _ _ _ _ hd => Watched.noting_done hd

theorem cleanup_turns {ε : Type} :
    Action.Keeps (fun r w => Turns V o (r, w))
      (hook Hooks.onCleanup : Action ω ε (Reactor (Watched η χ) χ) Unit) :=
  hook_turns (.inr rfl) fun _ _ _ _ _ hd => Watched.noting_done hd

theorem runOnce_turns :
    Action.Keeps (fun r w => Turns V o (r, w))
      (runOnce : Action ω _ (Reactor (Watched η χ) χ) Nat) := fun r w ho =>
  (runOnce_keeps r w .refl).mono (fun _ _ _ hm => ho.trans (Moves.turns hm))
    (fun _ _ _ hm => ho.trans (Moves.turns hm))

theorem iteration_turns {ε : Type} :
    Action.Keeps (fun r w => Turns V o (r, w))
      (iteration : Action ω ε (Reactor (Watched η χ) χ) Unit) := fun r w ho =>
  (iteration_keeps r w .refl).mono (fun _ _ _ hm => ho.trans (Moves.turns hm))
    (fun _ _ _ hm => ho.trans (Moves.turns hm))

theorem iterate_turns {ε : Type} :
    ∀ limit, Action.Keeps (fun r w => Turns V o (r, w))
      (iterate limit : Action ω ε (Reactor (Watched η χ) χ) Unit)
  | 0 => by
    refine Action.keeps_subject.bind fun r => ?_
    split
    · exact Action.keeps_pure
    · exact Action.keeps_halt
  | limit + 1 => by
    refine Action.keeps_subject.bind fun r => ?_
    split
    · exact Action.keeps_pure
    · exact iteration_turns.bind fun _ => iterate_turns limit

/-- Every command is a chain of turns. -/
theorem perform_turns {command : Command ω η χ} (hv : command.Within V) :
    Action.Keeps (fun r w => Turns V o (r, w)) command.perform := by
  cases command with
  | register c => exact enroll_turns.bind fun _ => Action.keeps_pure
  | listen c =>
    refine Action.Keeps.bind ?_ fun _ => Action.keeps_pure
    unfold listen
    split
    · exact enroll_turns
    · exact Action.keeps_refuse
  | unregister id => exact unregister_turns.bind fun _ => Action.keeps_pure
  | takeListeners =>
    exact Action.keeps_subject.bind fun _ => takeListeners_turns.bind fun _ => Action.keeps_pure
  | inject c => exact (Action.keeps_update fun r w ho => ho.tail (.mailbox _)).bind fun _ =>
      Action.keeps_pure
  | stop => exact (Action.keeps_update fun r w ho => ho.tail (.mailbox _)).bind fun _ =>
      Action.keeps_pure
  | adjust f => exact (Action.keeps_update fun r w ho => ho.tail (.adjust _)).bind fun _ =>
      Action.keeps_pure
  | visit id x =>
    refine Action.Keeps.bindSubject fun r w ho => ?_
    split
    · exact ho
    · rw [Action.ends_bind, onChannel_ends]
      intro e he
      rw [Action.ends_mapReason]
      exact (Action.ends_self _ _ _).mono
        (fun a c w' hx => ho.tail (.visit he (hv _ _ _ _ (.inl ⟨a, hx⟩))))
        (fun err c w' hx => ho.tail (.visit he (hv _ _ _ _ (.inr ⟨err, hx⟩))))
  | runOnce => exact runOnce_turns.bind fun _ => Action.keeps_pure
  | run limit =>
    refine Action.Keeps.bind (Action.Keeps.sure ?_) fun _ => Action.keeps_pure
    exact startup_turns.bind fun _ => (iterate_turns limit).bind fun _ =>
      shutdown_turns.bind fun _ => cleanup_turns
  | startup => exact startup_turns.sure.bind fun _ => Action.keeps_pure
  | iteration => exact iteration_turns.sure.bind fun _ => Action.keeps_pure
  | shutdown => exact shutdown_turns.sure.bind fun _ => Action.keeps_pure
  | cleanup => exact cleanup_turns.sure.bind fun _ => Action.keeps_pure

end Reactor

namespace Estate

variable [Machine ω] [ChannelOps ω χ] [Hooks ω η χ] {V : χ → χ → Prop} {s s' : Estate ω η χ}

/-- What a command ends in, done or refused, is what the owner has after it. -/
theorem step_ends {command : Command ω η χ} {P : Reactor (Watched η χ) χ → ω → Prop}
    (h : s.step command = some s')
    (hp : command.perform.Ends s.reactor s.machine (fun _ => P) (fun _ => P)) :
    P s'.reactor s'.machine := by
  unfold step at h
  split at h
  · rename_i receipt r w hx
    cases h
    exact hp.done hx
  · rename_i e r w hx
    cases h
    exact hp.refused hx
  · cases h

theorem step_turns {command : Command ω η χ} (hv : command.Within V)
    (h : s.step command = some s') :
    Reactor.Turns V (s.reactor, s.machine) (s'.reactor, s'.machine) :=
  step_ends (P := fun r w => Reactor.Turns V (s.reactor, s.machine) (r, w)) h
    (Reactor.perform_turns hv s.reactor s.machine .refl)

theorem play_turns :
    ∀ (commands : List (Command ω η χ)) {s s' : Estate ω η χ}, (∀ c ∈ commands, c.Within V) →
      s.play commands = some s' →
        Reactor.Turns V (s.reactor, s.machine) (s'.reactor, s'.machine)
  | [], s, s', _, hplay => by
    cases hplay
    exact .refl
  | command :: rest, s, s', hv, hplay => by
    rw [play, Option.bind_eq_some_iff] at hplay
    obtain ⟨next, hnext, hrest⟩ := hplay
    exact (step_turns (hv command (by simp)) hnext).trans
      (play_turns rest (fun c hc => hv c (by simp [hc])) hrest)

end Estate

namespace Reactor

/-- Ids stand in the order in which they were given, on one side each, and new ones are greater. -/
structure Ordered {η : Type} (r : Reactor η χ) : Prop where
  increasing : ∀ side, (r.ids side).Pairwise (· < ·)
  apart : ∀ id ∈ r.ids .listener, id ∉ r.ids .client
  below : ∀ side, ∀ id ∈ r.ids side, id < r.nextId

/-- The second reactor has some of the first one's entries in their order, and no others. -/
structure Thins {η : Type} (r r' : Reactor η χ) : Prop where
  ids : ∀ side, (r'.ids side).Sublist (r.ids side)
  next : r'.nextId = r.nextId

section

variable {η : Type} {r r' : Reactor η χ}

theorem Ordered.nodup (h : r.Ordered) (side : Side) : ((r.entries side).map (·.id)).Nodup :=
  (h.increasing side).imp Nat.ne_of_lt

/-- An id stands on one side. -/
theorem Ordered.other_side {side side' : Side} {e : Entry χ} (h : r.Ordered)
    (he : e ∈ r.entries side) (hside : side' ≠ side) : e.id ∉ r.ids side' := by
  have hid : e.id ∈ r.ids side := List.mem_map_of_mem he
  cases side <;> cases side'
  · exact absurd rfl hside
  · exact h.apart _ hid
  · exact fun hl => h.apart _ hl hid
  · exact absurd rfl hside

/-- What stands under an id is one entry. -/
theorem Ordered.unique {side side' : Side} {e e' : Entry χ} (h : r.Ordered)
    (he : e ∈ r.entries side) (he' : e' ∈ r.entries side') (hid : e'.id = e.id) :
    side' = side ∧ e' = e := by
  have hside : side' = side := by
    by_contra hother
    exact h.other_side he hother (hid ▸ List.mem_map_of_mem he')
  subst hside
  exact ⟨rfl, List.inj_on_of_nodup_map (h.nodup side') he' he hid⟩

theorem Thins.of_entries (hids : ∀ side, r'.ids side = r.ids side) (hnext : r'.nextId = r.nextId) :
    Thins r r' :=
  ⟨fun side => by rw [hids], hnext⟩

theorem Thins.trans {r'' : Reactor η χ} (h : Thins r r') (h' : Thins r' r'') : Thins r r'' :=
  ⟨fun side => (h'.ids side).trans (h.ids side), h'.next.trans h.next⟩

theorem Thins.withDesk {desk : Desk η χ} (h : Thins r r') : Thins r (r'.withDesk desk) :=
  h.trans (.of_entries (fun side => by rw [Reactor.ids, entries_withDesk]; rfl) rfl)

theorem Thins.count {f : ReactorStats → ReactorStats} (h : Thins r r') : Thins r (r'.count f) :=
  h.trans (.of_entries (fun side => by rw [Reactor.ids, entries_count]; rfl) rfl)

theorem Thins.mailbox (m : Mailbox χ) : Thins r { r with mailbox := m } :=
  .of_entries (fun side => by cases side <;> rfl) rfl

theorem Thins.put {side : Side} {index : Nat} {c : χ} : Thins r (r.put side index c) :=
  .of_entries (ids_put c) (by cases side <;> rfl)

theorem Thins.without {side : Side} {index : Nat} : Thins r (r.without side index) := by
  refine ⟨fun side' => ?_, by cases side <;> rfl⟩
  rw [ids_without]
  split
  · exact List.eraseIdx_sublist ..
  · exact .refl _

theorem Ordered.thins (h : r.Ordered) (ht : Thins r r') : r'.Ordered := by
  refine ⟨fun side => (h.increasing side).sublist (ht.ids side), fun id hl hc => ?_,
    fun side id hid => ?_⟩
  · exact h.apart id ((ht.ids _).subset hl) ((ht.ids _).subset hc)
  · rw [ht.next]
    exact h.below side id ((ht.ids side).subset hid)

theorem ids_enrolled {side side' : Side} {c : χ} :
    (r.enrolled side c).ids side' =
      r.ids side' ++ if side' = side then [r.nextId] else [] := by
  cases side <;> cases side' <;> simp [ids, enrolled, mapEntries, entries]

theorem Ordered.enrolled {side : Side} {c : χ} (h : r.Ordered) : (r.enrolled side c).Ordered := by
  refine ⟨fun side' => ?_, fun id hl hc => ?_, fun side' id hid => ?_⟩
  · rw [ids_enrolled, List.pairwise_append]
    refine ⟨h.increasing side', by split <;> simp, fun a ha b hb => ?_⟩
    split at hb
    · rw [List.mem_singleton.mp hb]
      exact h.below side' a ha
    · cases hb
  · rw [ids_enrolled, List.mem_append] at hl hc
    cases side with
    | listener =>
      rw [if_pos rfl, List.mem_singleton] at hl
      rw [if_neg (by decide)] at hc
      obtain hl | rfl := hl
      · exact h.apart id hl (by simpa using hc)
      · exact Nat.lt_irrefl _ (h.below .client _ (by simpa using hc))
    | client =>
      rw [if_neg (by decide)] at hl
      rw [if_pos rfl, List.mem_singleton] at hc
      obtain hc | rfl := hc
      · exact h.apart id (by simpa using hl) hc
      · exact Nat.lt_irrefl _ (h.below .listener _ (by simpa using hl))
  · change id < r.nextId + 1
    rw [ids_enrolled, List.mem_append] at hid
    obtain hid | hid := hid
    · exact Nat.lt_succ_of_lt (h.below side' id hid)
    · split at hid
      · rw [List.mem_singleton.mp hid]
        exact Nat.lt_succ_self _
      · cases hid

variable [Machine ω] [ChannelOps ω χ] [Hooks ω η χ] {w w' : ω}

/-- A move keeps the entries or some of them, or adds one. -/
theorem Move.thins (h : Move (r, w) (r', w')) :
    Thins r r' ∨ ∃ side c, r' = r.enrolled side c := by
  have hself : Thins r r := .of_entries (fun _ => rfl) rfl
  cases h with
  | enroll side _ => exact .inr ⟨side, _, rfl⟩
  | elapse _ | reject _ => exact .inl hself
  | tick _ => exact .inl hself.count.withDesk
  | fetch _ => exact .inl (Thins.mailbox _).count
  | write _ _ _ | read _ _ _ => exact .inl Thins.put.withDesk
  | accept _ _ _ => exact .inl Thins.put.count.withDesk
  | defer _ _ => exact .inl .put
  | discard | pollFailed => exact .inl hself.count
  | evict _ _ _ _ => exact .inl Thins.without.count.withDesk
  | blame _ _ _ _ => exact .inl (hself.count.trans .without).count.withDesk

theorem Ordered.move (h : r.Ordered) (hm : Move (r, w) (r', w')) : r'.Ordered := by
  obtain ht | ⟨side, c, rfl⟩ := hm.thins
  · exact h.thins ht
  · exact h.enrolled

theorem Ordered.moves (h : r.Ordered) (hm : Moves (r, w) (r', w')) : r'.Ordered := by
  have hall (p : Reactor η χ × ω) (hp : Moves (r, w) p) : p.1.Ordered := by
    induction hp with
    | refl => exact h
    | tail _ hstep ih => exact ih.move hstep
  exact hall _ hm

end

section

variable [Machine ω] [ChannelOps ω χ] [Hooks ω η χ] {V : χ → χ → Prop}

/-- A turn keeps the entries or some of them, or adds one. -/
theorem Turn.thins {r r' : Reactor (Watched η χ) χ} {w w' : ω} (ht : Turn V (r, w) (r', w')) :
    Thins r r' ∨ ∃ side c, r' = r.enrolled side c := by
  cases ht with
  | move hm => exact hm.thins
  | mailbox m => exact .inl (.mailbox m)
  | adjust hooks => exact .inl (.of_entries (fun side => by cases side <;> rfl) rfl)
  | visit _ _ => exact .inl .put
  | unregister side index => exact .inl .without
  | takeListeners =>
    refine .inl ⟨fun side => ?_, rfl⟩
    cases side
    · exact List.nil_sublist _
    · exact .refl _
  | dismiss he _ _ =>
    refine .inl ⟨fun side => ?_, rfl⟩
    cases side
    · exact .refl _
    · rw [ids, ids, entries, entries, he]
      exact (List.sublist_cons_self ..).map _
  | greet _ _ => exact .inl (.of_entries (fun side => by cases side <;> rfl) rfl)

theorem Ordered.turn {r r' : Reactor (Watched η χ) χ} {w w' : ω} (h : r.Ordered)
    (ht : Turn V (r, w) (r', w')) : r'.Ordered := by
  obtain ht | ⟨side, c, rfl⟩ := ht.thins
  · exact h.thins ht
  · exact h.enrolled

theorem Ordered.turns {r r' : Reactor (Watched η χ) χ} {w w' : ω} (h : r.Ordered)
    (ht : Turns V (r, w) (r', w')) : r'.Ordered :=
  ht.keeps (fun h hturn => Ordered.turn h hturn) h

end

end Reactor

namespace Estate

theorem founded_ordered {s : Estate ω η χ} {serial : Nat} {settings : ReactorSettings} {hooks : η}
    {machine : ω} (h : founded serial settings hooks machine = some s) : s.reactor.Ordered := by
  unfold founded at h
  split at h
  · rename_i r hr
    unfold Reactor.new at hr
    split at hr
    · cases hr
    · cases hr
      cases h
      exact ⟨fun side => by cases side <;> exact .nil, fun _ hid => (by cases hid),
        fun side _ hid => (by cases side <;> cases hid)⟩
  · cases h

variable [Machine ω] [ChannelOps ω χ] [Hooks ω η χ]

/-- After any commands the ids stand in order. -/
theorem play_ordered {serial : Nat} {settings : ReactorSettings} {hooks : η} {machine : ω}
    {s₀ s : Estate ω η χ} (hfounded : founded serial settings hooks machine = some s₀)
    (commands : List (Command ω η χ)) (hplay : s₀.play commands = some s) : s.reactor.Ordered := by
  have hwithin : ∀ c ∈ commands, c.Within fun _ _ => True := by
    intro c _
    cases c with
    | visit _ _ => exact fun _ _ _ _ _ => trivial
    | _ => trivial
  exact (founded_ordered hfounded).turns (play_turns commands hwithin hplay)

end Estate

end ChannelReactor
