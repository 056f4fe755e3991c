import ChannelReactor.Proofs.Registrations
import ChannelReactor.Proofs.Strides
import ChannelReactor.Proofs.Trading
import ChannelReactor.Scenario.Wire

/-! # The delivery of an echo

An echo whose clients come through its listeners sends every client what it received from that
client, in order, and nothing else. What it received and did not send yet is the client's output,
and its input is empty; so the books of the echo balance after every stride, whichever clients come,
fail or expire meanwhile. -/
namespace ChannelReactor

variable {ω ε η σ τ α β γ : Type}

/-- The command brings no channel to a reactor but listeners for plain connections, and leaves its
channels and its hooks alone. -/
def Command.OpensPlainGates : Command ω η (Channel τ α β) → Prop
  | register c | listen c => c.PlainGate
  | inject _ | adjust _ | visit _ _ => False
  | _ => True

namespace Echo

/-- The reactor of an echo over recorded transports and acceptors. -/
abbrev Runner (τ α β : Type) : Type :=
  Reactor (Watched Echo (Channel (Recorded τ) (Recorded α) β)) (Channel (Recorded τ) (Recorded α) β)

/-- What its hooks work on. -/
abbrev Office (τ α β : Type) : Type :=
  Desk (Watched Echo (Channel (Recorded τ) (Recorded α) β)) (Channel (Recorded τ) (Recorded α) β)

/-- The clients are served, and their books balance. -/
structure Booked (clients : List (Entry (Channel (Recorded τ) α β))) (echoed : Nat)
    (w : Recorder ω) : Prop where
  served : ∀ e ∈ clients, e.channel.Served
  books : Books (clients.map (·.channel.account)) echoed w

section

variable {clients clients' : List (Entry (Channel (Recorded τ) α β))} {echoed index : Nat}
variable {e : Entry (Channel (Recorded τ) α β)} {c : Channel (Recorded τ) α β}
variable {w w' : Recorder ω} {delivered rest : Bytes}

/-- The entry at a place comes first, but for the order. -/
theorem perm_eraseIdx (he : clients[index]? = some e) :
    clients.Perm (e :: clients.eraseIdx index) := by
  obtain ⟨hlt, rfl⟩ := List.getElem?_eq_some_iff.mp he
  exact (List.getElem_cons_eraseIdx_perm hlt).symm

theorem perm_modify (he : clients[index]? = some e) :
    (clients.modify index fun x => { x with channel := c }).Perm
      ({ e with channel := c } :: clients.eraseIdx index) := by
  have hplace : (clients.modify index fun x => { x with channel := c })[index]? =
      some { e with channel := c } := by
    rw [List.getElem?_modify_eq, he]
    rfl
  have hperm := perm_eraseIdx hplace
  rwa [List.eraseIdx_modify_of_eq] at hperm

theorem Booked.silent (h : Booked clients echoed w) (hsilent : w.Silent w')
    (hsub : clients'.Sublist clients) : Booked clients' echoed w' where
  served e he := h.served e (hsub.subset he)
  books := (h.books.sublist (hsub.map _)).silent hsilent

theorem Booked.traded (h : Booked clients echoed w) (he : clients[index]? = some e)
    (hserved : c.Served) (hdevice : c.account.1 = e.channel.account.1)
    (ht : Recorder.Trades e.channel.account.1 e.channel.account.2 delivered rest w w')
    (hrest : c.account.2 = rest ++ delivered) :
    Booked (clients.modify index fun x => { x with channel := c }) (echoed + delivered.length)
      w' where
  served x hx := by
    obtain rfl | hx := List.mem_cons.mp ((perm_modify he).mem_iff.mp hx)
    · exact hserved
    · exact h.served x (List.mem_of_mem_eraseIdx hx)
  books := by
    have hbooks : Books ((e.channel.account.1, rest ++ delivered) ::
        (clients.eraseIdx index).map (·.channel.account)) (echoed + delivered.length) w' :=
      (h.books.perm ((perm_eraseIdx he).map _)).trade ht
    have haccount : (e.channel.account.1, rest ++ delivered) = c.account :=
      Prod.ext hdevice.symm hrest.symm
    rw [haccount] at hbooks
    have hperm := (perm_modify (c := c) he).map fun x => x.channel.account
    exact hbooks.perm hperm.symm

theorem Booked.sent (h : Booked clients echoed w) (he : clients[index]? = some e)
    (hc : e.channel.Sends w c w') :
    Booked (clients.modify index fun x => { x with channel := c }) echoed w' :=
  h.traded he hc.served hc.device hc.trades (List.append_nil _).symm

/-- A client that is closed may send some of its output, and then has no account any more. -/
theorem Booked.dismissed (h : Booked clients echoed w) (he : clients[index]? = some e)
    (ht : Recorder.Trades e.channel.account.1 e.channel.account.2 [] rest w w') :
    Booked (clients.eraseIdx index) echoed w' where
  served x hx := h.served x (List.mem_of_mem_eraseIdx hx)
  books := ((h.books.perm ((perm_eraseIdx he).map _)).trade ht).sublist (List.sublist_cons_self _ _)

theorem Booked.enrolled {id : ChannelId} {device : Nat} (h : Booked clients echoed w)
    (hsilent : w.Silent w') (hnew : w.nextDevice ≤ device) (hknown : device < w'.nextDevice)
    (hserved : c.Served) (haccount : c.account = (device, [])) :
    Booked (clients ++ [{ id, channel := c }]) echoed w' where
  served := by
    rw [List.forall_mem_append]
    exact ⟨h.served, List.forall_mem_singleton.mpr hserved⟩
  books := by
    have hbooks := h.books.enrolled hsilent hnew hknown
    rw [← haccount] at hbooks
    rw [List.map_append]
    exact hbooks.perm (List.perm_append_singleton _ _).symm

end

/-- Nothing is in the mailbox, the listeners are for plain connections, and the clients' books
balance. -/
structure Echoing (r : Runner τ α β) (w : Recorder ω) : Prop where
  queue : r.mailbox.queue = []
  gates : ∀ e ∈ r.listeners, e.channel.PlainGate
  booked : Booked r.clients r.hooks.hooks.echoed w

section

variable [Machine ω] [Transport ω τ] [Acceptor ω α τ] [ChannelOps (Recorder ω) β]
variable {r r' : Runner τ α β} {w w' : Recorder ω}

omit [Machine ω] [Transport ω τ] [Acceptor ω α τ] [ChannelOps (Recorder ω) β] in
/-- What moves no byte and brings no client. -/
theorem Echoing.silent (h : Echoing r w) (hsilent : w.Silent w')
    (hqueue : r'.mailbox.queue = r.mailbox.queue)
    (hechoed : r'.hooks.hooks.echoed = r.hooks.hooks.echoed)
    (hgates : ∀ e ∈ r'.listeners, e.channel.PlainGate) (hclients : r'.clients.Sublist r.clients) :
    Echoing r' w' :=
  ⟨hqueue.trans h.queue, hgates, hechoed ▸ h.booked.silent hsilent hclients⟩

omit [Machine ω] [Transport ω τ] [Acceptor ω α τ] [ChannelOps (Recorder ω) β] in
theorem gates_put {side : Side} {index : Nat} {c : Channel (Recorded τ) (Recorded α) β}
    (h : Echoing r w) (hc : side = .listener → c.PlainGate) :
    ∀ e ∈ (r.put side index c).listeners, e.channel.PlainGate := by
  intro e he
  have hentry : e ∈ (r.put side index c).entries .listener := he
  obtain hold | ⟨hside, e', -, rfl⟩ := Reactor.mem_entries_put hentry
  · exact h.gates e hold
  · exact hc hside.symm

/-- The mailbox and the count of the bytes stay as they are. -/
def Undisturbed (desk desk' : Office τ α β) : Prop :=
  desk'.mailbox = desk.mailbox ∧ desk'.hooks.hooks.echoed = desk.hooks.hooks.echoed

section

variable {desk desk' : Office τ α β}
variable {id : ChannelId} {c c' : Channel (Recorded τ) (Recorded α) β}

omit [Machine ω] [Transport ω τ] [Acceptor ω α τ] [ChannelOps (Recorder ω) β] in
/-- A hook that the echo leaves as it is by default. -/
theorem default_undisturbed {call : HookCall (Channel (Recorded τ) (Recorded α) β)} {a b : γ}
    (h : Watched.noting call (pure a) desk w = .done b desk' w') :
    b = a ∧ w' = w ∧ Undisturbed desk desk' := by
  obtain ⟨d, hd, rfl⟩ := Watched.noting_eq h
  cases hd
  exact ⟨rfl, rfl, rfl, rfl⟩

theorem onTick_undisturbed {stats : ReactorStats}
    (h : Hooks.onTick stats desk w = .done () desk' w') : w' = w ∧ Undisturbed desk desk' := by
  obtain ⟨d, hd, rfl⟩ := Watched.noting_eq h
  cases hd
  exact ⟨rfl, rfl, rfl⟩

theorem onAccept_undisturbed {accepted : Accepted (Channel (Recorded τ) (Recorded α) β)}
    {answer : Option (Channel (Recorded τ) (Recorded α) β)}
    (h : Hooks.onAccept id accepted desk w = .done answer desk' w') :
    w' = w ∧ Undisturbed desk desk' ∧ ∀ c ∈ answer, LetsIn accepted.channel c := by
  obtain ⟨d, hd, rfl⟩ := Watched.noting_eq h
  obtain ⟨rfl, hmailbox, hadmission⟩ := (onAccept_ends (R := fun _ _ _ => True)).done hd
  exact ⟨rfl, ⟨hmailbox, hadmission.echoed⟩, hadmission.letsIn⟩

/-- What was received becomes output and is counted. -/
theorem onReadable_returns {k : Connection (Recorded τ)} (hk : c.connection? = some k)
    (hactive : k.core.active = true) (hmode : k.core.mode = .nonblocking)
    (h : Hooks.onReadable id c desk w = .done c' desk' w') :
    w' = w ∧ c'.Bears k.Returns ∧ desk'.mailbox = desk.mailbox ∧
      desk'.hooks.hooks.echoed = desk.hooks.hooks.echoed + k.core.input.toList.length := by
  obtain ⟨d, hd, rfl⟩ := Watched.noting_eq h
  obtain ⟨moved, hsend, rfl⟩ := (onReadable_ends (R := fun _ _ _ => True)).done hd
  obtain ⟨c₁, hreturned, hreturns⟩ :=
    sendBack_returns (ε := Empty) (w := w) hk hactive (by rw [hmode]; rfl)
  cases hsend.symm.trans hreturned
  exact ⟨rfl, hreturns, rfl, rfl⟩

end

omit [Machine ω] [Transport ω τ] [Acceptor ω α τ] [ChannelOps (Recorder ω) β] in
theorem LetsIn.bears {P : Connection (Recorded τ) → Prop}
    {accepted c : Channel (Recorded τ) (Recorded α) β} (h : LetsIn accepted c)
    (hp : accepted.Bears P) : c.Bears P := by
  cases h <;> exact hp

/-- A connection that is let in becomes a client, or is dropped. -/
theorem register_echoes {c : Channel (Recorded τ) (Recorded α) β} {w₁ : Recorder ω} {device : Nat}
    (h : Echoing r w) (hsilent : w.Silent w₁) (hnew : w.nextDevice ≤ device)
    (hknown : device < w₁.nextDevice) (hfresh : c.Bears (Connection.Fresh device))
    (hr : (Reactor.register c).Leaves r w₁ r' w') : Echoing r' w' := by
  have hclient : ChannelOps.isListening c = false := by
    obtain ⟨k, hk, -⟩ := hfresh
    exact Channel.connection_listens hk
  rw [Reactor.register, if_neg (by simp [hclient])] at hr
  refine (Reactor.enroll_ends.mono (fun _ r' w' h' => ?_) (fun _ r' w' h' => ?_)).leaves
    (P := Echoing) hr
  · obtain ⟨-, c', hattach, rfl⟩ := h'
    obtain ⟨hserved, haccount, hset⟩ := (Channel.attach_fresh hfresh).done hattach
    exact ⟨h.queue, h.gates, h.booked.enrolled (hsilent.trans hset) hnew
      (Nat.lt_of_lt_of_le hknown hset.next) hserved haccount⟩
  · obtain ⟨rfl, e, c', hattach⟩ := h'
    exact h.silent (hsilent.trans ((Channel.attach_fresh hfresh).refused hattach)) rfl rfl h.gates
      (List.Sublist.refl _)

theorem stride_echoes (h : Echoing r w) (hstride : Reactor.Stride (r, w) (r', w')) :
    Echoing r' w' := by
  cases hstride with
  | elapse hstep => exact h.silent (.of_step hstep) rfl rfl h.gates (List.Sublist.refl _)
  | fetch hq _ =>
    rw [h.queue] at hq
    cases hq
  | @write _ _ w₁ _ index e c₁ c₂ desk he hc hh =>
    obtain ⟨rfl, rfl, hmailbox, hechoed⟩ := default_undisturbed hh
    have hsends := (Channel.onWrite_sends (h.booked.served e (List.mem_of_getElem? he))).done hc
    have hbooked := h.booked.sent he hsends
    exact ⟨(congrArg Mailbox.queue hmailbox).trans h.queue, h.gates, hechoed ▸ hbooked⟩
  | @read _ _ w₁ _ index e c₁ c₂ desk he hc hh =>
    obtain ⟨delivered, rest, ⟨k, hk, hattended, hactive, rfl, haccount⟩, ht⟩ :=
      (Channel.onRead_trades (h.booked.served e (List.mem_of_getElem? he))).done hc
    obtain ⟨rfl, ⟨k', hk', hreturns⟩, hmailbox, hechoed⟩ :=
      onReadable_returns hk hactive hattended.mode hh
    have hdevice : c₂.account.1 = e.channel.account.1 := by
      rw [Channel.account_eq hk', ← congrArg Prod.fst haccount, Connection.account, hreturns.same]
      rfl
    have hrest : c₂.account.2 = rest ++ k.core.input.toList := by
      have hkept : k.core.output.toList = rest := congrArg Prod.snd haccount
      rw [Channel.account_eq hk', ← hkept]
      exact hreturns.output
    have hbooked := h.booked.traded he ⟨k', hk', hreturns.attended hattended, hreturns.input⟩
      hdevice ht hrest
    exact ⟨(congrArg Mailbox.queue hmailbox).trans h.queue, h.gates, hechoed ▸ hbooked⟩
  | @welcome _ _ _ w₁ w₂ _ index e accepted c c₁ desk he hc hh hr =>
    obtain ⟨rfl, ⟨hmailbox, hechoed⟩, hlets⟩ := onAccept_undisturbed hh
    obtain ⟨hgate, hsilent, device, hnew, hknown, hfresh⟩ :=
      (Channel.accept_gate (h.gates e (List.mem_of_getElem? he))).done hc
    refine register_echoes ?_ hsilent hnew hknown ((hlets c rfl).bears hfresh) hr
    exact h.silent (.refl w) (congrArg Mailbox.queue hmailbox) hechoed
      (gates_put h fun _ => hgate) (List.Sublist.refl _)
  | @decline _ _ w₁ _ index e accepted c₁ desk he hc hh =>
    obtain ⟨rfl, ⟨hmailbox, hechoed⟩, -⟩ := onAccept_undisturbed hh
    obtain ⟨hgate, hsilent, -⟩ :=
      (Channel.accept_gate (h.gates e (List.mem_of_getElem? he))).done hc
    exact h.silent hsilent (congrArg Mailbox.queue hmailbox) hechoed (gates_put h fun _ => hgate)
      (List.Sublist.refl _)
  | @refuse _ _ _ callback index e c he hrefuses =>
    cases hrefuses with
    | write hc =>
      have hserved := h.booked.served e (List.mem_of_getElem? he)
      exact ⟨h.queue, h.gates, h.booked.sent he ((Channel.onWrite_sends hserved).refused hc)⟩
    | read hc =>
      have hserved := h.booked.served e (List.mem_of_getElem? he)
      exact ⟨h.queue, h.gates, h.booked.sent he ((Channel.onRead_trades hserved).refused hc)⟩
    | accept hc =>
      obtain ⟨hgate, hsilent⟩ :=
        (Channel.accept_gate (h.gates e (List.mem_of_getElem? he))).refused hc
      exact h.silent hsilent rfl rfl (gates_put h fun _ => hgate) (List.Sublist.refl _)
  | pollFailed => exact h.silent (.refl w) rfl rfl h.gates (List.Sublist.refl _)
  | @evict _ _ w₁ _ side index e c reason desk he hc hh =>
    obtain ⟨-, rfl, hmailbox, hechoed⟩ := default_undisturbed hh
    have hqueue := congrArg Mailbox.queue hmailbox
    cases side with
    | listener =>
      have hgate := h.gates e (List.mem_of_getElem? he)
      obtain rfl := (Channel.close_gate (hgate.mapCore ChannelCore.unregister)).done hc
      exact h.silent (.refl _) hqueue hechoed
        (fun x hx => h.gates x (List.mem_of_mem_eraseIdx hx)) (List.Sublist.refl _)
    | client =>
      obtain ⟨rest, ht⟩ :=
        (Channel.close_trades (h.booked.served e (List.mem_of_getElem? he))).done hc
      exact ⟨hqueue.trans h.queue, h.gates, hechoed ▸ h.booked.dismissed he ht⟩

theorem iterates_echoes {p q : Runner τ α β × Recorder ω} (h : Echoing p.1 p.2)
    (hiterates : Reactor.Iterates p q) : Echoing q.1 q.2 := by
  obtain ⟨⟨begun, w₁⟩, ⟨desk, htick, rfl : begun = _⟩, hstrides⟩ := hiterates
  obtain ⟨rfl : w₁ = p.2, hmailbox, hechoed⟩ := onTick_undisturbed htick
  refine hstrides.keeps (I := Echoing) stride_echoes ?_
  exact h.silent (.refl _) (congrArg Mailbox.queue hmailbox) hechoed h.gates (List.Sublist.refl _)

theorem enroll_echoes {c : Channel (Recorded τ) (Recorded α) β} (h : Echoing r w)
    (hc : c.PlainGate) :
    (Reactor.enroll .listener c).Ends r w (fun _ r' w' => Echoing r' w')
      (fun _ r' w' => Echoing r' w') := by
  refine Reactor.enroll_ends.mono (fun _ r' w' h' => ?_) (fun _ r' w' h' => ?_)
  · obtain ⟨-, c', hattach, rfl⟩ := h'
    obtain ⟨hsilent, hgate⟩ := (Channel.attach_gate hc).done hattach
    refine h.silent hsilent rfl rfl ?_ (List.Sublist.refl _)
    exact List.forall_mem_append.mpr ⟨h.gates, List.forall_mem_singleton.mpr hgate⟩
  · obtain ⟨rfl, e, c', hattach⟩ := h'
    obtain ⟨hsilent, -⟩ := (Channel.attach_gate hc).refused hattach
    exact h.silent hsilent rfl rfl h.gates (List.Sublist.refl _)

theorem unregister_echoes {id : ChannelId} (h : Echoing r w) :
    (Reactor.unregister id).Ends r w (fun _ r' w' => Echoing r' w')
      (fun _ r' w' => Echoing r' w') := by
  refine Reactor.unregister_ends h fun side index e c w' _ he hdetach => ?_
  cases side with
  | listener =>
    have hgate : e.channel.PlainGate := h.gates e (List.mem_of_getElem? he)
    exact h.silent ((Channel.detach_silent (.inr hgate)).leaves hdetach) rfl rfl
      (fun x hx => h.gates x (List.mem_of_mem_eraseIdx hx)) (List.Sublist.refl _)
  | client =>
    have hserved : e.channel.Served := h.booked.served e (List.mem_of_getElem? he)
    exact h.silent ((Channel.detach_silent (.inl hserved)).leaves hdetach) rfl rfl h.gates
      (List.eraseIdx_sublist ..)

theorem detachAll_silent {R : ε → σ → Recorder ω → Prop} {s : σ} :
    ∀ {entries : List (Entry (Channel (Recorded τ) (Recorded α) β))} {w : Recorder ω},
      (∀ e ∈ entries, e.channel.PlainGate) →
        (Reactor.detachAll entries).Ends s w (fun _ s' w' => s' = s ∧ w.Silent w') R
  | [], w, _ => ⟨rfl, .refl w⟩
  | e :: rest, w, h => by
    rw [Reactor.detachAll, Action.ends_bind, Action.ends_runOn, Action.ends_attempt]
    have hrest {c : Channel (Recorded τ) (Recorded α) β} {w₁ : Recorder ω} (hs : w.Silent w₁) :
        (do return c :: (← Reactor.detachAll rest) : Action (Recorder ω) ε σ _).Ends s w₁
          (fun _ s' w' => s' = s ∧ w.Silent w') R := by
      rw [Action.ends_bind]
      exact (detachAll_silent fun x hx => h x (List.mem_cons_of_mem _ hx)).mono
        (fun _ _ _ h' => ⟨h'.1, hs.trans h'.2⟩) (fun _ _ _ h' => h')
    exact (Channel.detach_silent (.inr (h e (List.mem_cons_self ..)))).mono
      (fun _ _ _ hs => hrest hs) (fun _ _ _ hs => hrest hs)

/-- At the end of a run the clients are closed one after another. -/
theorem closeAll_echoes {R : ε → Runner τ α β → Recorder ω → Prop} :
    ∀ {entries : List (Entry (Channel (Recorded τ) (Recorded α) β))} {r : Runner τ α β}
      {w : Recorder ω}, r.clients = [] → Echoing { r with clients := entries } w →
        (Reactor.closeAll entries).Ends r w (fun _ r' w' => Echoing r' w') R
  | [], r, w, hnone, h => by
    have hsame : { r with clients := [] } = r := by rw [← hnone]
    exact hsame ▸ h
  | e :: rest, r, w, hnone, h => by
    refine Reactor.closeAll_cons_ends fun c w₁ desk w₂ hclose hh => ?_
    obtain ⟨kept, ht⟩ :=
      (Channel.close_trades (h.booked.served e (List.mem_cons_self ..))).done hclose
    obtain ⟨-, rfl, hmailbox, hechoed⟩ := default_undisturbed hh
    refine closeAll_echoes (r := r.withDesk desk) hnone ⟨?_, h.gates, ?_⟩
    · exact (congrArg Mailbox.queue hmailbox).trans h.queue
    · have hfirst : (e :: rest)[0]? = some e := rfl
      have hbooked : Booked rest _ _ := h.booked.dismissed hfirst ht
      exact hechoed ▸ hbooked

omit [Machine ω] [Transport ω τ] [Acceptor ω α τ] [ChannelOps (Recorder ω) β] in
theorem hook_echoes {x : Action (Recorder ω) Empty (Desk (Watched Echo _) _) Unit}
    (h : Echoing r w) (hx : ∀ {desk w'}, x r.desk w = .done () desk w' →
      w' = w ∧ Undisturbed r.desk desk) {R : ε → Runner τ α β → Recorder ω → Prop} :
    (Reactor.hook x).Ends r w (fun _ r' w' => Echoing r' w') R :=
  Reactor.hook_ends fun _ desk w' hh => by
    obtain ⟨rfl, hmailbox, hechoed⟩ := hx hh
    exact h.silent (.refl _) (congrArg Mailbox.queue hmailbox) hechoed h.gates
      (List.Sublist.refl _)

/-- What the owner does besides iterations keeps the books. -/
theorem perform_echoes {command : Command (Recorder ω) Echo (Channel (Recorded τ) (Recorded α) β)}
    (hcommand : command.OpensPlainGates) (hphase : command.IsPhase)
    (hidle : ¬ command.IsIteration) (h : Echoing r w) :
    command.perform.Ends r w (fun _ r' w' => Echoing r' w') (fun _ r' w' => Echoing r' w') := by
  cases command with
  | register c =>
    have hlistens : ChannelOps.isListening c = true := by
      obtain ⟨l, hl, -⟩ : c.PlainGate := hcommand
      exact Channel.listener_listens hl
    rw [Command.perform, Action.ends_bind, Reactor.register, if_pos hlistens]
    exact enroll_echoes h hcommand
  | listen c =>
    rw [Command.perform, Action.ends_bind, Reactor.listen]
    split
    · exact enroll_echoes h hcommand
    · exact h
  | unregister id =>
    rw [Command.perform, Action.ends_bind]
    exact unregister_echoes h
  | takeListeners =>
    rw [Command.perform, Action.ends_bind, Action.ends_subject, Action.ends_bind,
      Reactor.takeListeners, Action.ends_bind, Action.ends_subject, Action.ends_bind,
      Action.ends_update]
    refine (detachAll_silent h.gates).mono (fun _ r' w' h' => ?_) (fun _ _ _ h' => h')
    obtain ⟨rfl, hsilent⟩ := h'
    exact h.silent hsilent rfl rfl (List.forall_mem_nil _) (List.Sublist.refl _)
  | inject c | adjust f | visit id x => exact hcommand.elim
  | stop => exact h.silent (.refl w) rfl rfl h.gates (List.Sublist.refl _)
  | runOnce | iteration => exact (hidle trivial).elim
  | run limit => exact hphase.elim
  | startup =>
    rw [Command.perform, Action.ends_bind, Action.ends_sure]
    exact hook_echoes h fun hh => (default_undisturbed hh).2
  | cleanup =>
    rw [Command.perform, Action.ends_bind, Action.ends_sure]
    exact hook_echoes h fun hh => (default_undisturbed hh).2
  | shutdown =>
    rw [Command.perform, Action.ends_bind, Action.ends_sure, Reactor.shutdown, Action.ends_bind,
      Action.ends_subject, Action.ends_bind, Action.ends_update]
    exact (closeAll_echoes (r := { r with clients := [] }) rfl h (R := fun _ _ _ => False)).mono
      (fun _ _ _ h => h) (fun e _ _ _ => e.elim)

end

end Echo

namespace Estate

open Echo

variable [Machine ω] [Transport ω τ] [Acceptor ω α τ] [ChannelOps (Recorder ω) β]
variable {s₀ s s' : Estate (Recorder ω) Echo (Channel (Recorded τ) (Recorded α) β)}

theorem step_echoes {command : Command (Recorder ω) Echo (Channel (Recorded τ) (Recorded α) β)}
    (hcommand : command.OpensPlainGates) (hphase : command.IsPhase)
    (h : s.reactor.Ordered ∧ Echoing s.reactor s.machine) (hstep : s.step command = some s') :
    s'.reactor.Ordered ∧ Echoing s'.reactor s'.machine := by
  refine ⟨step_ordered h.1 hstep, ?_⟩
  by_cases hiteration : command.IsIteration
  · exact iterates_echoes (p := (s.reactor, s.machine)) (q := (s'.reactor, s'.machine)) h.2
      (step_iterates h.1 hiteration hstep)
  · exact step_ends (P := Echoing) hstep (perform_echoes hcommand hphase hiteration h.2)

omit [Machine ω] [Transport ω τ] [Acceptor ω α τ] [ChannelOps (Recorder ω) β] in
theorem founded_echoing {idleTimeout : Option Span} {capacity serial next : Nat}
    {settings : ReactorSettings} {machine : ω}
    (hfounded : founded serial settings { idleTimeout, capacity } ⟨machine, [], next⟩ = some s₀) :
    s₀.reactor.Ordered ∧ Echoing s₀.reactor s₀.machine := by
  refine ⟨founded_ordered hfounded, ?_⟩
  rw [founded_eq hfounded]
  exact ⟨rfl, List.forall_mem_nil _, List.forall_mem_nil _, List.nodup_nil, List.forall_mem_nil _,
    fun _ _ => ⟨rfl, rfl⟩, fun _ => List.forall_mem_nil _, fun _ _ => List.prefix_rfl, rfl⟩

/-- Over any transports that accept no more than they are offered, after any commands and after
every iteration of a run: each client has read all its input, and what its device accepted and then
its output is what the device delivered. No two clients share a device. What any device accepted,
also one whose client is gone, is the front of what it delivered, and the echo counted all bytes
that were delivered. -/
theorem echo_delivers {idleTimeout : Option Span} {capacity serial next : Nat}
    {settings : ReactorSettings} {machine : ω}
    (hfounded : founded serial settings { idleTimeout, capacity } ⟨machine, [], next⟩ = some s₀)
    (commands : List (Command (Recorder ω) Echo (Channel (Recorded τ) (Recorded α) β)))
    (hcommands : ∀ command ∈ commands, command.OpensPlainGates)
    (hplay : s₀.play commands = some s) (hfair : s.machine.Fair) :
    (∀ e ∈ s.reactor.clients, e.channel.Bears fun k => k.core.input.toList = [] ∧
      ∃ t, k.transport = some t ∧ acceptedBy t.device s.machine.calls ++ k.core.output.toList =
        deliveredBy t.device s.machine.calls) ∧
    (s.reactor.clients.map (·.channel.account.1)).Nodup ∧
    (∀ device, acceptedBy device s.machine.calls <+: deliveredBy device s.machine.calls) ∧
    s.reactor.hooks.hooks.echoed = (received s.machine.calls).length ∧
    ∀ limit s', s.step (.run limit) = some s' → ∃ n ≤ limit, s.play (phases n) = some s' := by
  have hphases : ∀ n, ∀ command ∈
      (phases n : List (Command (Recorder ω) Echo (Channel (Recorded τ) (Recorded α) β))),
      command.OpensPlainGates := by
    intro n command hmem
    obtain rfl | rfl | rfl | rfl := mem_phases hmem <;> trivial
  obtain ⟨-, -, -, hserved, hbooks⟩ := play_keeps
    (P := fun s => s.reactor.Ordered ∧ Echoing s.reactor s.machine) hphases
    (fun hcommand hphase h hstep => step_echoes hcommand hphase h hstep) commands hcommands
    (founded_echoing hfounded) hplay
  refine ⟨fun e he => ?_, ?_, hbooks.sent hfair, hbooks.echoed, fun limit s' => run_phases⟩
  · obtain ⟨k, hk, hattended, hinput⟩ := hserved e he
    obtain ⟨t, ht⟩ := Option.isSome_iff_exists.mp hattended.transport
    have hbalance := hbooks.balanced hfair _ (List.mem_map_of_mem he)
    rw [Channel.account_eq hk, Connection.account, Connection.device_eq ht] at hbalance
    exact ⟨k, hk, hinput, t, ht, hbalance⟩
  · have hdistinct := hbooks.distinct
    rwa [List.map_map] at hdistinct

/-- A wire that delivers three bytes and accepts two. -/
def slowTaker : Scenario.Wire where
  name := "slow"
  descriptor := 9
  script.recv := [{ act := .data [1, 2, 3] }]
  script.send := [.accepts 2]
  script.sendBlock := true

/-- A wire that delivers a byte, accepts nothing and then breaks. -/
def breakingWire : Scenario.Wire where
  name := "breaking"
  descriptor := 10
  script.recv := [{ act := .data [4] }, { act := .fails (.bare .connectionReset) }]
  script.sendBlock := true

/-- A listener that accepts both. -/
def twoWireGate : Channel (Recorded Scenario.Wire) (Recorded Scenario.Gate)
    (NoKind (Recorder Scenario.Bench)) :=
  .listener
    { core := .new .forever "gate"
      acceptor := some
        { device := 0
          body :=
            { name := "gate"
              descriptor := 8
              accepts := [.connects slowTaker "first", .connects breakingWire "second"] } }
      settings := {}
      policy := .plain }

/-- Of two connections one is let go with a byte that it never got back, and the other one waits for
its last byte. -/
theorem echo_delivers_twoWireGate :
    ∃ s₀ s : Estate (Recorder Scenario.Bench) Echo (Channel (Recorded Scenario.Wire)
        (Recorded Scenario.Gate) (NoKind (Recorder Scenario.Bench))),
      founded 1 {} { idleTimeout := some ⟨10⟩, capacity := 2 }
        ⟨{ polls.ready := [(8, { input := true }), (9, { input := true, output := true }),
          (10, { input := true, output := true })] }, [], 1⟩ = some s₀ ∧
      s₀.play [.listen twoWireGate, .runOnce, .runOnce, .runOnce, .runOnce] = some s ∧
      s.reactor.hooks.hooks.echoed = 4 ∧
      s.reactor.clients.map (·.channel.account) = [(1, [3])] ∧
      (∀ e ∈ s.reactor.clients, e.channel.Bears fun k => k.core.input.toList = [] ∧
        ∃ t, k.transport = some t ∧ acceptedBy t.device s.machine.calls ++ k.core.output.toList =
          deliveredBy t.device s.machine.calls) ∧
      ∀ device, acceptedBy device s.machine.calls <+: deliveredBy device s.machine.calls := by
  have hrun : ((founded 1 {} { idleTimeout := some ⟨10⟩, capacity := 2 }
        ⟨{ polls.ready := [(8, { input := true }), (9, { input := true, output := true }),
          (10, { input := true, output := true })] }, [], 1⟩ :
          Option (Estate (Recorder Scenario.Bench) Echo _)).any fun s₀ =>
      (s₀.play [.listen twoWireGate, .runOnce, .runOnce, .runOnce, .runOnce]).any fun s =>
        s.reactor.hooks.hooks.echoed == 4 &&
        s.reactor.clients.map (·.channel.account) == [(1, [3])] &&
        s.machine.calls.all fun r => decide r.call.WithinOffer) = true := by
    decide +kernel
  simp only [Option.any_eq_true, Bool.and_eq_true, beq_iff_eq, List.all_eq_true,
    decide_eq_true_eq] at hrun
  obtain ⟨s₀, hfounded, s, hplay, ⟨hechoed, haccounts⟩, hfair⟩ := hrun
  have hcommands : ∀ command ∈ ([.listen twoWireGate, .runOnce, .runOnce, .runOnce, .runOnce] :
      List (Command (Recorder Scenario.Bench) Echo _)), command.OpensPlainGates := by
    simp only [List.forall_mem_cons]
    exact ⟨⟨_, rfl, rfl⟩, trivial, trivial, trivial, trivial, List.forall_mem_nil _⟩
  obtain ⟨hclients, -, hsent, -⟩ := echo_delivers hfounded _ hcommands hplay hfair
  exact ⟨s₀, s, hfounded, hplay, hechoed, haccounts, hclients, hsent⟩

end Estate

end ChannelReactor
