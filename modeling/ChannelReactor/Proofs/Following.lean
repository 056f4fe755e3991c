import ChannelReactor.Proofs.Turns

/-! # Following one client

What the callbacks, the hooks about a client and the owner's visits keep of a channel is kept of the
client under an id, turn after turn, as long as it is registered; and when the application is told
of its end, that is the end of a channel of which it was true. -/
namespace ChannelReactor

variable {ω η χ α : Type}

/-- A recorded hook does what the hook itself does. -/
theorem Watched.noting_inner {call : HookCall χ} {x : Action ω Empty (Desk η χ) α}
    {desk desk' : Desk (Watched η χ) χ} {w w' : ω} {a : α}
    (h : noting call x desk w = .done a desk' w') :
    ∃ inner inner' : Desk η χ, x inner w = .done a inner' w' := by
  unfold noting at h
  split at h
  · rename_i b d v hx
    cases h
    exact ⟨_, d, hx⟩
  · rename_i e _ _ _
    exact e.elim
  · cases h

namespace Reactor

variable [Machine ω] [ChannelOps ω χ] [Hooks ω η χ]

/-- What is done to a client keeps `P` of its channel, and the end of a client of which `P` is true
is as `F` says. -/
structure Upkeep (η : Type) [Hooks ω η χ] (V : χ → χ → Prop) (P : χ → Prop)
    (F : χ → CloseReason → Prop) : Prop where
  write : Action.Keeps (fun c _ => P c) (ChannelOps.onWrite : Action ω ChannelError χ Unit)
  read : Action.Keeps (fun c _ => P c) (ChannelOps.onRead : Action ω ChannelError χ Unit)
  writable : ∀ {id : ChannelId} {c c' : χ} {desk desk' : Desk η χ} {w w' : ω}, P c →
    Hooks.onWritable id c desk w = .done c' desk' w' → P c'
  readable : ∀ {id : ChannelId} {c c' : χ} {desk desk' : Desk η χ} {w w' : ω}, P c →
    Hooks.onReadable id c desk w = .done c' desk' w' → P c'
  visit : ∀ {c c' : χ}, V c c' → P c → P c'
  evict : ∀ {c c₁ c₂ : χ} {w w₁ w₂ : ω} {reason : CloseReason}, P c →
    Fault .client c w reason c₁ w₁ →
    ChannelOps.close (ChannelOps.mapCore ChannelCore.unregister c₁) w₁ = .done () c₂ w₂ →
    F c₂ reason
  /-- A client that is blamed for a failed poll, or closed at the end of a run. -/
  dismiss : ∀ {c c' : χ} {w w' : ω} {reason : CloseReason}, P c →
    reason = .pollFailure ∨ reason = .shutdown →
    ChannelOps.close (ChannelOps.mapCore ChannelCore.unregister c) w = .done () c' w' → F c' reason

/-- The channel under an id is at most a client, of which `P` is true, and its end, if the
application was told of it, is as `F` says. -/
structure Followed (P : χ → Prop) (F : χ → CloseReason → Prop) (id : ChannelId)
    (r : Reactor (Watched η χ) χ) : Prop where
  issued : id < r.nextId
  elsewhere : id ∉ r.ids .listener
  kept : ∀ e ∈ r.clients, e.id = id → P e.channel
  told : ∀ c reason, HookCall.closed id c reason ∈ r.hooks.calls → F c reason

variable {V : χ → χ → Prop} {P : χ → Prop} {F : χ → CloseReason → Prop} {id : ChannelId}
variable {r r' : Reactor (Watched η χ) χ} {w w' : ω}

theorem mem_put {η : Type} {r : Reactor η χ} {side : Side} {index : Nat} {c : χ} {x : Entry χ}
    (h : x ∈ (r.put side index c).clients) :
    x ∈ r.clients ∨
      side = .client ∧ ∃ e, (r.entries .client)[index]? = some e ∧ x = { e with channel := c } := by
  cases side with
  | listener => exact .inl h
  | client =>
    obtain ⟨k, hk⟩ := List.mem_iff_getElem?.mp h
    change (r.clients.modify index fun e => { e with channel := c })[k]? = some x at hk
    by_cases hki : index = k
    · subst hki
      rw [List.getElem?_modify_eq, Option.map_eq_map, Option.map_eq_some_iff] at hk
      obtain ⟨e, he, rfl⟩ := hk
      exact .inr ⟨rfl, e, he, rfl⟩
    · rw [List.getElem?_modify_ne _ _ hki] at hk
      exact .inl (List.mem_of_getElem? hk)

theorem mem_without {η : Type} {r : Reactor η χ} {side : Side} {index : Nat} {x : Entry χ}
    (h : x ∈ (r.without side index).clients) : x ∈ r.clients := by
  cases side with
  | listener => exact h
  | client => exact List.mem_of_mem_eraseIdx h

/-- A reactor with no more entries than before. -/
theorem Followed.thins (h : Followed P F id r) (ht : Thins r r')
    (hkept : ∀ e ∈ r'.clients, e.id = id → P e.channel)
    (htold : ∀ c reason, HookCall.closed id c reason ∈ r'.hooks.calls →
      HookCall.closed id c reason ∈ r.hooks.calls ∨ F c reason) : Followed P F id r' := by
  refine ⟨?_, fun hid => h.elsewhere ((ht.ids .listener).subset hid), hkept, fun c reason hc => ?_⟩
  · rw [ht.next]
    exact h.issued
  · obtain hc | hf := htold c reason hc
    · exact h.told c reason hc
    · exact hf

theorem Followed.enrolled {side : Side} {c : χ} (h : Followed P F id r) :
    Followed P F id (r.enrolled side c) := by
  have hnew : id ≠ r.nextId := Nat.ne_of_lt h.issued
  refine ⟨Nat.lt_succ_of_lt h.issued, fun hid => ?_, fun e he hid => ?_, ?_⟩
  · rw [ids_enrolled, List.mem_append] at hid
    obtain hid | hid := hid
    · exact h.elsewhere hid
    · split at hid
      · exact hnew (List.mem_singleton.mp hid)
      · cases hid
  · cases side with
    | listener => exact h.kept e he hid
    | client =>
      obtain he | he := List.mem_append.mp he
      · exact h.kept e he hid
      · rw [List.mem_singleton.mp he] at hid
        exact absurd hid.symm hnew
  · cases side <;> exact h.told

/-- The entry of an id that is followed is a client's. -/
theorem Followed.client (h : Followed P F id r) {side : Side} {index : Nat} {e : Entry χ}
    (he : (r.entries side)[index]? = some e) (hid : e.id = id) : side = .client ∧ P e.channel := by
  cases side with
  | listener => exact absurd (List.mem_map.mpr ⟨e, List.mem_of_getElem? he, hid⟩) h.elsewhere
  | client => exact ⟨rfl, h.kept e (List.mem_of_getElem? he) hid⟩

/-- A channel is changed at its place. -/
theorem Followed.put (h : Followed P F id r) {side : Side} {index : Nat} {e : Entry χ} {c : χ}
    (he : (r.entries side)[index]? = some e) (hc : side = .client → P e.channel → P c) :
    ∀ x ∈ (r.put side index c).clients, x.id = id → P x.channel := by
  intro x hx hid
  obtain hx | ⟨rfl, e', he', rfl⟩ := mem_put hx
  · exact h.kept x hx hid
  · cases he.symm.trans he'
    exact hc rfl (h.client he hid).2

theorem Followed.move (hu : Upkeep η V P F) (h : Followed P F id r)
    (hm : Move (r, w) (r', w')) : Followed P F id r' := by
  obtain ht | ⟨side, c, rfl⟩ := hm.thins
  · -- A call that does not tell of the end of this client.
    have hcall {calls calls' : List (HookCall χ)} {call : HookCall χ}
        (hcalls : calls' = calls ++ [call]) (hother : ∀ c reason, call = .closed id c reason →
          F c reason) : ∀ c reason, HookCall.closed id c reason ∈ calls' →
            HookCall.closed id c reason ∈ calls ∨ F c reason := by
      intro c reason hc
      rw [hcalls, List.mem_append, List.mem_singleton] at hc
      exact hc.imp_right fun heq => hother c reason heq.symm
    cases hm with
    | elapse _ | reject _ | discard | pollFailed => exact ⟨h.issued, h.elsewhere, h.kept, h.told⟩
    | fetch _ => exact h.thins ht h.kept fun c reason hc => .inl hc
    | enroll side _ => exact h.enrolled
    | tick hh =>
      exact h.thins ht h.kept
        (hcall (Watched.noting_done hh) fun _ _ heq => by cases heq)
    | write he hc hh =>
      refine h.thins ht (h.put he fun _ hp => ?_)
        (hcall (Watched.noting_done hh) fun _ _ heq => by cases heq)
      obtain ⟨_, _, hx⟩ := Watched.noting_inner hh
      exact hu.writable ((hu.write _ _ hp).done hc) hx
    | read he hc hh =>
      refine h.thins ht (h.put he fun _ hp => ?_)
        (hcall (Watched.noting_done hh) fun _ _ heq => by cases heq)
      obtain ⟨_, _, hx⟩ := Watched.noting_inner hh
      exact hu.readable ((hu.read _ _ hp).done hc) hx
    | accept he hc hh =>
      exact h.thins ht h.kept
        (hcall (Watched.noting_done hh) fun _ _ heq => by cases heq)
    | @defer _ _ _ side index e c he hd =>
      refine h.thins ht (h.put he fun hside hp => ?_) fun c reason hc => .inl ?_
      · cases hd with
        | write hs =>
          obtain ⟨a, hx⟩ | ⟨err, -, hx⟩ := hs
          · exact (hu.write _ _ hp).done hx
          · exact (hu.write _ _ hp).refused hx
        | read hs =>
          obtain ⟨a, hx⟩ | ⟨err, -, hx⟩ := hs
          · exact (hu.read _ _ hp).done hx
          · exact (hu.read _ _ hp).refused hx
        | accept _ => cases hside
      · rwa [hooks_put] at hc
    | blame he hp hc hh =>
      refine h.thins ht
        (fun x hx hid => h.kept x (mem_without (r := r.count (·.addPollFailure)) hx) hid)
        (hcall (Watched.noting_done hh) fun c' reason heq => ?_)
      cases heq
      exact hu.dismiss (h.client he rfl).2 (.inl rfl) hc
    | evict he hf hc hh =>
      refine h.thins ht (fun x hx hid => h.kept x (mem_without hx) hid)
        (hcall (Watched.noting_done hh) fun c' reason heq => ?_)
      cases heq
      obtain ⟨rfl, hp⟩ := h.client he rfl
      exact hu.evict hp hf hc
  · exact h.enrolled

theorem Followed.turn (hu : Upkeep η V P F) (h : Followed P F id r)
    (ht : Turn V (r, w) (r', w')) : Followed P F id r' := by
  obtain hthins | ⟨side, c, rfl⟩ := ht.thins
  · cases ht with
    | move hm => exact h.move hu hm
    | mailbox m => exact h.thins hthins h.kept fun _ _ hc => .inl hc
    | adjust hooks => exact h.thins hthins h.kept fun _ _ hc => .inl hc
    | visit he hv =>
      refine h.thins hthins (h.put he fun _ hp => hu.visit hv hp) fun _ _ hc => .inl ?_
      rwa [hooks_put] at hc
    | unregister side index =>
      refine h.thins hthins (fun x hx hid => h.kept x (mem_without hx) hid) fun _ _ hc => .inl ?_
      cases side <;> exact hc
    | takeListeners => exact h.thins hthins h.kept fun _ _ hc => .inl hc
    | @dismiss r w w₁ w₂ e rest c desk he hc hh =>
      have hfirst : (r.entries .client)[0]? = some e := by rw [entries, he]; rfl
      refine h.thins hthins
        (fun x hx hid => h.kept x (by rw [he]; exact List.mem_cons_of_mem _ hx) hid)
        fun c' reason hmem => ?_
      have hcalls : desk.hooks.calls = r.hooks.calls ++ [.closed e.id c .shutdown] :=
        Watched.noting_done hh
      change HookCall.closed id c' reason ∈ desk.hooks.calls at hmem
      rw [hcalls, List.mem_append, List.mem_singleton] at hmem
      refine hmem.imp_right fun heq => ?_
      cases heq
      exact hu.dismiss (h.client hfirst rfl).2 (.inr rfl) hc
    | @greet r w w' call desk hcall hh =>
      refine h.thins hthins h.kept fun c' reason hmem => .inl ?_
      change HookCall.closed id c' reason ∈ desk.hooks.calls at hmem
      rw [hh, List.mem_append, List.mem_singleton] at hmem
      obtain hmem | heq := hmem
      · exact hmem
      · obtain rfl | rfl := hcall <;> cases heq
  · exact h.enrolled

theorem Followed.turns (hu : Upkeep η V P F) (h : Followed P F id r)
    (ht : Turns V (r, w) (r', w')) : Followed P F id r' :=
  ht.keeps (fun h hturn => Followed.turn hu h hturn) h

/-- The end of a channel that a reactor has was not told of yet. -/
theorem Accounted.untold {issued returned : List ChannelId} {side : Side} {e : Entry χ}
    (ha : Accounted issued returned r) (he : e ∈ r.entries side) {c : χ} {reason : CloseReason} :
    HookCall.closed e.id c reason ∉ r.hooks.calls := by
  intro hc
  have hid : e.id ∈ r.ids side := List.mem_map_of_mem he
  have htold : e.id ∈ r.closures.map (·.1) :=
    List.mem_map.mpr ⟨(e.id, reason), List.mem_filterMap.mpr ⟨_, hc, rfl⟩, rfl⟩
  have hplaced := ha.placed_le e.id
  have h₁ := List.count_pos_iff.mpr hid
  have h₂ := List.count_pos_iff.mpr htold
  cases side <;> omega

/-- A client of an accounted reactor can be followed. -/
theorem Followed.start {issued returned : List ChannelId} {e : Entry χ} (ho : r.Ordered)
    (ha : Accounted issued returned r) (he : e ∈ r.clients) (hp : P e.channel) :
    Followed P F e.id r := by
  have hclient : e ∈ r.entries .client := he
  have hid : e.id ∈ r.ids .client := List.mem_map_of_mem hclient
  refine ⟨ho.below .client _ hid, fun hl => ho.apart _ hl hid, fun e' he' heq => ?_,
    fun c reason hc => absurd hc (ha.untold hclient)⟩
  have hclient' : e' ∈ r.entries .client := he'
  rwa [(ho.unique hclient hclient' heq).2]

end Reactor

end ChannelReactor
