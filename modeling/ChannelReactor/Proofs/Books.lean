import ChannelReactor.Proofs.Conservation
import ChannelReactor.Proofs.Layers

/-! # Books on a record of calls

The books of an echo hold an account for each of its connections: the device below and what is still
to be sent there. They balance when every device accepted, up to what is still to be sent, what it
delivered. Accounts change by trade alone: a device makes calls, and what it delivers is added to
what is still to be sent. All else is silent. -/
namespace ChannelReactor

variable {ω ε τ α β γ : Type}

/-- The call moves no byte. -/
structure Call.Silent (call : Call) : Prop where
  accepted : call.accepted = []
  delivered : call.delivered = []

/-- All bytes that were delivered, by any device. -/
def received (calls : List Record) : Bytes := calls.flatMap (·.call.delivered)

theorem received_append (calls more : List Record) :
    received (calls ++ more) = received calls ++ received more :=
  List.flatMap_append

section

variable {device other : Nat} {calls : List Call} {records : List Record}

theorem callsOf_same : callsOf device (calls.map (Record.mk device)) = calls := by
  simp [callsOf, List.filter_map, Function.comp_def]

theorem callsOf_other (h : other ≠ device) : callsOf other (calls.map (Record.mk device)) = [] := by
  simp [callsOf, List.filter_map, Function.comp_def, h.symm]

theorem received_same : received (calls.map (Record.mk device)) = calls.flatMap Call.delivered := by
  rw [received, List.flatMap_map]

theorem callsOf_silent (h : ∀ r ∈ records, r.call.Silent) :
    ∀ call ∈ callsOf device records, call.Silent := by
  intro call hcall
  obtain ⟨r, hr, rfl⟩ := List.mem_map.mp hcall
  exact h r (List.mem_filter.mp hr).1

theorem acceptedBy_silent (h : ∀ r ∈ records, r.call.Silent) : acceptedBy device records = [] :=
  List.flatMap_eq_nil_iff.mpr fun call hcall => (callsOf_silent h call hcall).accepted

theorem deliveredBy_silent (h : ∀ r ∈ records, r.call.Silent) : deliveredBy device records = [] :=
  List.flatMap_eq_nil_iff.mpr fun call hcall => (callsOf_silent h call hcall).delivered

end

namespace Recorder

/-- No device accepted more than it was offered. -/
def Fair (w : Recorder ω) : Prop := ∀ r ∈ w.calls, r.call.WithinOffer

/-- Between the two no byte was moved. Devices may have been put to work. -/
structure Silent (w w' : Recorder ω) : Prop where
  calls : ∃ more, w'.calls = w.calls ++ more ∧ ∀ r ∈ more, r.call.Silent
  next : w.nextDevice ≤ w'.nextDevice

/-- Between the two this device made calls, and no other one did: it delivered these bytes, and left
the rest of the output. -/
def Trades (device : Nat) (output delivered rest : Bytes) (w w' : Recorder ω) : Prop :=
  ∃ calls : List Call, w'.calls = w.calls ++ calls.map (Record.mk device) ∧
    w.nextDevice ≤ w'.nextDevice ∧ calls.flatMap Call.delivered = delivered ∧
    ((∀ call ∈ calls, call.WithinOffer) → calls.flatMap Call.accepted ++ rest = output)

variable {w w₁ w' : Recorder ω} {device : Nat} {output delivered rest : Bytes}

theorem Silent.refl (w : Recorder ω) : Silent w w :=
  ⟨⟨[], (List.append_nil _).symm, List.forall_mem_nil _⟩, Nat.le_refl _⟩

theorem Silent.trans (h : Silent w w₁) (h' : Silent w₁ w') : Silent w w' := by
  obtain ⟨⟨more, hmore, hsilent⟩, hnext⟩ := h
  obtain ⟨⟨more', hmore', hsilent'⟩, hnext'⟩ := h'
  refine ⟨⟨more ++ more', ?_, fun r hr => ?_⟩, Nat.le_trans hnext hnext'⟩
  · rw [hmore', hmore, List.append_assoc]
  · exact (List.mem_append.mp hr).elim (hsilent r) (hsilent' r)

/-- One silent call on a device. -/
theorem Silent.of_call {call : Call} (hcalls : w'.calls = w.calls ++ [⟨device, call⟩])
    (hnext : w.nextDevice ≤ w'.nextDevice) (hcall : call.Silent) : Silent w w' :=
  ⟨⟨_, hcalls, fun _ hr => List.mem_singleton.mp hr ▸ hcall⟩, hnext⟩

/-- What the machine does by itself is silent. -/
theorem Silent.of_step [Machine ω] (h : Machine.Step w w') : Silent w w' := by
  have hsame : w'.calls = w.calls ∧ w'.nextDevice = w.nextDevice := by
    cases h <;> exact ⟨rfl, rfl⟩
  exact ⟨⟨[], by rw [hsame.1, List.append_nil], List.forall_mem_nil _⟩, Nat.le_of_eq hsame.2.symm⟩

/-- A call more, which moves nothing, is none for the trade. -/
theorem Trades.call {call : Call} (h : Trades device output delivered rest w w₁)
    (hcalls : w'.calls = w₁.calls ++ [⟨device, call⟩]) (hnext : w₁.nextDevice ≤ w'.nextDevice)
    (hcall : call.Silent) : Trades device output delivered rest w w' := by
  obtain ⟨calls, hw, hn, hdelivered, haccepted⟩ := h
  refine ⟨calls ++ [call], ?_, Nat.le_trans hn hnext, ?_, fun hfair => ?_⟩
  · rw [hcalls, hw, List.map_append, List.append_assoc]
    rfl
  · simp [hdelivered, hcall.delivered]
  · simpa [hcall.accepted] using haccepted fun c hc => hfair c (List.mem_append_left _ hc)

end Recorder

/-- The books of an echo: the accounts of its connections, and how many bytes it echoed. -/
structure Books (accounts : List (Nat × Bytes)) (echoed : Nat) (w : Recorder ω) : Prop where
  distinct : (accounts.map Prod.fst).Nodup
  known : ∀ account ∈ accounts, account.1 < w.nextDevice
  fresh : ∀ device, w.nextDevice ≤ device →
    acceptedBy device w.calls = [] ∧ deliveredBy device w.calls = []
  balanced : w.Fair → ∀ account ∈ accounts,
    acceptedBy account.1 w.calls ++ account.2 = deliveredBy account.1 w.calls
  sent : w.Fair → ∀ device, acceptedBy device w.calls <+: deliveredBy device w.calls
  echoed : echoed = (received w.calls).length

namespace Books

variable {accounts accounts' : List (Nat × Bytes)} {echoed device : Nat} {w w' : Recorder ω}
variable {output delivered rest : Bytes}

theorem perm (h : Books accounts echoed w) (hperm : accounts.Perm accounts') :
    Books accounts' echoed w where
  distinct := (hperm.map Prod.fst).nodup_iff.mp h.distinct
  known account haccount := h.known account (hperm.mem_iff.mpr haccount)
  fresh := h.fresh
  balanced hfair account haccount := h.balanced hfair account (hperm.mem_iff.mpr haccount)
  sent := h.sent
  echoed := h.echoed

theorem sublist (h : Books accounts echoed w) (hsub : accounts'.Sublist accounts) :
    Books accounts' echoed w where
  distinct := h.distinct.sublist (hsub.map Prod.fst)
  known account haccount := h.known account (hsub.subset haccount)
  fresh := h.fresh
  balanced hfair account haccount := h.balanced hfair account (hsub.subset haccount)
  sent := h.sent
  echoed := h.echoed

theorem silent (h : Books accounts echoed w) (hsilent : w.Silent w') :
    Books accounts echoed w' := by
  obtain ⟨⟨more, hmore, hcalls⟩, hnext⟩ := hsilent
  have haccepted (device : Nat) : acceptedBy device w'.calls = acceptedBy device w.calls := by
    rw [hmore, acceptedBy_append, acceptedBy_silent hcalls, List.append_nil]
  have hdelivered (device : Nat) : deliveredBy device w'.calls = deliveredBy device w.calls := by
    rw [hmore, deliveredBy_append, deliveredBy_silent hcalls, List.append_nil]
  have hfair (h : w'.Fair) : w.Fair := fun r hr => h r (hmore ▸ List.mem_append_left _ hr)
  refine ⟨h.distinct, fun a ha => Nat.lt_of_lt_of_le (h.known a ha) hnext, fun device hd => ?_,
    fun hf a ha => ?_, fun hf device => ?_, ?_⟩
  · rw [haccepted, hdelivered]
    exact h.fresh device (Nat.le_trans hnext hd)
  · rw [haccepted, hdelivered]
    exact h.balanced (hfair hf) a ha
  · rw [haccepted, hdelivered]
    exact h.sent (hfair hf) device
  · have hnone : received more = [] :=
      List.flatMap_eq_nil_iff.mpr fun r hr => (hcalls r hr).delivered
    rw [hmore, received_append, hnone, List.append_nil]
    exact h.echoed

/-- A device that was put to work meanwhile gets an account. -/
theorem enrolled (h : Books accounts echoed w) (hsilent : w.Silent w')
    (hnew : w.nextDevice ≤ device) (hknown : device < w'.nextDevice) :
    Books ((device, []) :: accounts) echoed w' := by
  have h' := h.silent hsilent
  obtain ⟨⟨more, hmore, hcalls⟩, -⟩ := hsilent
  refine ⟨?_, ?_, h'.fresh, fun hfair => ?_, h'.sent, h'.echoed⟩
  · refine List.nodup_cons.mpr ⟨fun hmem => ?_, h'.distinct⟩
    obtain ⟨account, haccount, rfl⟩ := List.mem_map.mp hmem
    exact Nat.not_lt.mpr hnew (h.known account haccount)
  · exact List.forall_mem_cons.mpr ⟨hknown, h'.known⟩
  · refine List.forall_mem_cons.mpr ⟨?_, h'.balanced hfair⟩
    obtain ⟨haccepted, hdelivered⟩ := h.fresh device hnew
    rw [hmore, acceptedBy_append, deliveredBy_append, acceptedBy_silent hcalls,
      deliveredBy_silent hcalls, haccepted, hdelivered]
    rfl

/-- A device trades, and what it delivered is added to what is still to be sent to it. -/
theorem trade (h : Books ((device, output) :: accounts) echoed w)
    (ht : Recorder.Trades device output delivered rest w w') :
    Books ((device, rest ++ delivered) :: accounts) (echoed + delivered.length) w' := by
  obtain ⟨calls, hcalls, hnext, rfl, haccepts⟩ := ht
  obtain ⟨hnew, hdistinct⟩ := List.nodup_cons.mp h.distinct
  have hknown : device < w.nextDevice := h.known _ (List.mem_cons_self ..)
  have haccepted : acceptedBy device w'.calls =
      acceptedBy device w.calls ++ calls.flatMap Call.accepted := by
    rw [hcalls, acceptedBy_append, acceptedBy, acceptedBy, callsOf_same]
  have hdelivered : deliveredBy device w'.calls =
      deliveredBy device w.calls ++ calls.flatMap Call.delivered := by
    rw [hcalls, deliveredBy_append, deliveredBy, deliveredBy, callsOf_same]
  have hothers {other : Nat} (ho : other ≠ device) :
      acceptedBy other w'.calls = acceptedBy other w.calls ∧
        deliveredBy other w'.calls = deliveredBy other w.calls := by
    rw [hcalls, acceptedBy_append, deliveredBy_append, acceptedBy, acceptedBy, deliveredBy,
      deliveredBy, callsOf_other ho]
    exact ⟨List.append_nil _, List.append_nil _⟩
  have hfair (hf : w'.Fair) : w.Fair ∧ ∀ call ∈ calls, call.WithinOffer := by
    refine ⟨fun r hr => hf r (hcalls ▸ List.mem_append_left _ hr), fun call hcall => ?_⟩
    exact hf ⟨device, call⟩ (hcalls ▸ List.mem_append_right _ (List.mem_map_of_mem hcall))
  have hbalance (hf : w'.Fair) : acceptedBy device w'.calls ++
      (rest ++ calls.flatMap Call.delivered) = deliveredBy device w'.calls := by
    obtain ⟨hf, hwithin⟩ := hfair hf
    have hbefore : acceptedBy device w.calls ++ output = deliveredBy device w.calls :=
      h.balanced hf _ (List.mem_cons_self ..)
    rw [haccepted, hdelivered, ← hbefore, ← haccepts hwithin]
    simp only [List.append_assoc]
  refine ⟨List.nodup_cons.mpr ⟨hnew, hdistinct⟩, fun account haccount => ?_, fun other ho => ?_,
    fun hf => List.forall_mem_cons.mpr ⟨hbalance hf, fun account haccount => ?_⟩,
    fun hf other => ?_, ?_⟩
  · obtain rfl | haccount := List.mem_cons.mp haccount
    · exact Nat.lt_of_lt_of_le hknown hnext
    · exact Nat.lt_of_lt_of_le (h.known account (List.mem_cons_of_mem _ haccount)) hnext
  · have hlater : w.nextDevice ≤ other := Nat.le_trans hnext ho
    obtain ⟨ha, hd⟩ := hothers (Nat.ne_of_gt (Nat.lt_of_lt_of_le hknown hlater))
    rw [ha, hd]
    exact h.fresh other hlater
  · have hother : account.1 ≠ device := fun heq =>
      hnew (List.mem_map.mpr ⟨account, haccount, heq⟩)
    rw [(hothers hother).1, (hothers hother).2]
    exact h.balanced (hfair hf).1 account (List.mem_cons_of_mem _ haccount)
  · by_cases ho : other = device
    · exact ho ▸ ⟨_, hbalance hf⟩
    · rw [(hothers ho).1, (hothers ho).2]
      exact h.sent (hfair hf).1 other
  · rw [h.echoed, hcalls, received_append, received_same, List.length_append]

end Books

end ChannelReactor
