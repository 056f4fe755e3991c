import ChannelReactor.Proofs.Gathering

/-! # Reads of a stream

A connection that waits without end is a reader of plain bytes: however its transport cuts them into
blocks, and wherever errors that pass come in between, reads share out the bytes in order until they
are used up (`reads_share_stream`). What is behind this is `Unread`: the bytes that can still be
read, whether they were received already or not. -/
namespace ChannelReactor

variable {ω τ : Type}

namespace ReadOptions

/-- The results of reads, one after another, when no more bytes will come than these. -/
def serveAll : List (Nat × ReadOptions) → Bytes → List (Except ChannelError Bytes)
  | [], _ => []
  | (count, opts) :: reads, rest => opts.serve count rest :: serveAll reads (opts.leave count rest)

/-- What is left of the bytes after them. -/
def leaveAll : List (Nat × ReadOptions) → Bytes → Bytes
  | [], rest => rest
  | (count, opts) :: reads, rest => leaveAll reads (opts.leave count rest)

variable {opts : ReadOptions} {count : Nat} {front : Bytes}

/-- With enough bytes in front, what comes after them makes no difference to a read. -/
theorem serve_append (h : count ≤ front.length) (more : Bytes) :
    opts.serve count (front ++ more) = opts.serve count front := by
  have hmore : count ≤ (front ++ more).length := by
    rw [List.length_append]
    omega
  rw [serve, serve, if_pos h, if_pos hmore, List.take_append_of_le_length h]

theorem leave_append (h : count ≤ front.length) (more : Bytes) :
    opts.leave count (front ++ more) = opts.leave count front ++ more := by
  have hserve : opts.serve count front = .ok (front.take count) := if_pos h
  have htaken : ((ChannelOp.read count opts).taken (opts.serve count front)).length ≤
      front.length := by
    rw [hserve, ChannelOp.taken]
    split
    · exact Nat.zero_le _
    · exact List.length_take_le' count front
  rw [leave, leave, serve_append h, List.drop_append_of_le_length htaken]

end ReadOptions

section

variable [Transport ω τ]

/-- The transport delivers these bytes, in blocks of any size, and then the end. Errors in between
pass; the number is that of the errors before the next block, and the transport's patience allows
for them. -/
inductive Streams (policy : Policy) (room : Nat) : Nat → Bytes → τ → ω → Prop
  | ends {t t' : τ} {w w' : ω} (hx : (Transport.recv room).Answers t w (.ok []) t' w') :
    Streams policy room 0 [] t w
  | delivers {n : Nat} {block rest : Bytes} {t t' : τ} {w w' : ω}
    (hx : (Transport.recv room).Answers t w (.ok block) t' w') (hblock : block ≠ [])
    (next : Streams policy room n rest t' w') : Streams policy room 0 (block ++ rest) t w
  | passes {n : Nat} {rest : Bytes} {e : IoError} {t t' : τ} {w w' : ω}
    (hx : (Transport.recv room).Answers t w (.error e) t' w') (he : policy.judge .recv e ≠ .fatal)
    (hn : n < Transport.patience t) (next : Streams policy room n rest t' w') :
    Streams policy room (n + 1) rest t w

namespace Connection

/-- These bytes are what can still be read: what was received, and while the connection is active,
what its transport streams. -/
inductive Unread (c : Connection τ) (w : ω) (rest : Bytes) : Prop
  | streaming {n : Nat} {data : Bytes} {t : τ} (hactive : c.core.active = true)
    (hmode : c.core.mode = .forever) (ht : c.transport = some t)
    (hs : Streams c.policy c.chunk n data t w) (hrest : rest = c.core.input.toList ++ data)
  | ended (hactive : c.core.active = false) (hrest : rest = c.core.input.toList)

/-- An active connection that waits on this transport without end, under this policy and with this
room for what it receives. -/
structure Draws (policy : Policy) (room : Nat) (t : τ) (c : Connection τ) : Prop where
  active : c.core.active = true
  mode : c.core.mode = .forever
  transport : c.transport = some t
  policy : c.policy = policy
  chunk : c.chunk = room

variable {policy : Policy} {room n : Nat} {data : Bytes} {t : τ} {w : ω}

theorem Draws.unread {c : Connection τ} (hc : c.Draws policy room t)
    (hs : Streams policy room n data t w) : c.Unread w (c.core.input.toList ++ data) :=
  .streaming hc.active hc.mode hc.transport (hc.policy ▸ hc.chunk ▸ hs) rfl

/-- Over a stream, any number of bytes can be gathered, or all there are. -/
theorem gathers_of_streams (hs : Streams policy room n data t w) (count : Nat) :
    ∀ c : Connection τ, c.Draws policy room t → ∃ m ≤ n, ∃ c' w',
      Gathers count m (c, w) none (c', w') ∧ c'.Unread w' (c.core.input.toList ++ data) := by
  induction hs with
  | @ends t t' w w' hx =>
    intro c hc
    by_cases hshort : c.Short count
    · have hended : ¬ (c.received (.ok []) t').Short count := not_short_iff.mpr (.inr rfl)
      exact ⟨0, Nat.le_refl 0, _, w', .brings hshort hc.transport (hc.chunk ▸ hx) (.enough hended),
        .ended rfl (List.append_nil _)⟩
    · exact ⟨0, Nat.le_refl 0, c, w, .enough hshort, hc.unread (.ends hx)⟩
  | @delivers n block rest t t' w w' hx hblock next ih =>
    intro c hc
    by_cases hshort : c.Short count
    · have hnext : (c.received (.ok block) t').Draws policy room t' := by
        rw [received, heard_block hblock]
        exact ⟨hc.active, hc.mode, rfl, hc.policy, hc.chunk⟩
      obtain ⟨m, -, c', w'', hg, hu⟩ := ih _ hnext
      refine ⟨0, Nat.le_refl 0, c', w'', .brings hshort hc.transport (hc.chunk ▸ hx) hg, ?_⟩
      rw [received, heard_block hblock] at hu
      simpa [mapCore, ChannelCore.receive, List.append_assoc] using hu
    · exact ⟨0, Nat.le_refl 0, c, w, .enough hshort, hc.unread (.delivers hx hblock next)⟩
  | @passes n rest e t t' w w' hx he hn next ih =>
    intro c hc
    by_cases hshort : c.Short count
    · have hpasses : c.policy.judge .recv e ≠ .fatal := hc.policy ▸ he
      obtain ⟨m, hm, c', w'', hg, hu⟩ := ih { c with transport := some t' }
        ⟨hc.active, hc.mode, rfl, hc.policy, hc.chunk⟩
      rw [← received_passing hpasses] at hg
      exact ⟨m + 1, by omega, c', w'',
        .passes hshort hc.transport (hc.chunk ▸ hx) hpasses (by omega) hg, hu⟩
    · exact ⟨0, Nat.zero_le _, c, w, .enough hshort, hc.unread (.passes hx he hn next)⟩

end Connection

end

namespace Scenario

/-- What the entry delivers. -/
def RecvEntry.bytes (entry : RecvEntry) : Bytes :=
  match entry.act with
  | .data bytes => bytes
  | _ => []

/-- The stream goes on after the entry: it delivers something, or fails with an error that
passes. -/
def RecvEntry.Flows (policy : Policy) (entry : RecvEntry) : Prop :=
  match entry.act with
  | .data bytes => bytes ≠ []
  | .ended => False
  | .fails e => policy.judge .recv e ≠ .fatal

instance (policy : Policy) : DecidablePred (RecvEntry.Flows policy)
  | ⟨.data bytes, _, _⟩ => inferInstanceAs (Decidable (bytes ≠ []))
  | ⟨.ended, _, _⟩ => inferInstanceAs (Decidable False)
  | ⟨.fails e, _, _⟩ => inferInstanceAs (Decidable (policy.judge .recv e ≠ .fatal))

namespace Wire

variable {policy : Policy} {room : Nat} {rest : List RecvEntry} {entry : RecvEntry}

/-- A scripted receive leaves the rest of the script, behind what had no room. -/
theorem recv_scripted {w : Wire} {b : Bench} (hw : w.script.recv = entry :: rest) (room : Nat) :
    (Transport.recv room).Completes w b
      (fun data w' _ => match entry.act with
        | .data bytes => data = bytes.take room ∧ w'.script.recv =
          if (bytes.drop room).isEmpty then rest else { act := .data (bytes.drop room) } :: rest
        | .ended => data = []
        | .fails _ => False)
      (fun e w' _ => entry.act = .fails e ∧ w'.script.recv = rest) := by
  change (recv room).Completes w b _ _
  rw [recv, Action.completes_bind, Action.completes_subject, hw]
  dsimp only
  rw [Action.completes_bind]
  cases he : entry.act with
  | data bytes => exact ⟨rfl, rfl⟩
  | ended => exact rfl
  | fails e => exact ⟨rfl, rfl⟩

theorem length_le_patience (w : Wire) : w.script.recv.length ≤ Transport.patience w := by
  have hlength : ∀ entries : List RecvEntry, entries.length ≤ (entries.map fun entry =>
      match entry.act with
      | .data data => data.length + 1
      | _ => 1).foldr (· + ·) 0 := by
    intro entries
    induction entries with
    | nil => exact Nat.le_refl _
    | cons entry rest ih =>
      have : 1 ≤ (match entry.act with | .data data => data.length + 1 | _ => 1) := by
        split <;> omega
      rw [List.map_cons, List.foldr_cons, List.length_cons]
      omega
  have h := hlength w.script.recv
  change _ ≤ w.patience
  rw [patience]
  exact Nat.le_trans h (by rw [Nat.add_assoc]; exact Nat.le_add_right _ _)

theorem streams_data {data bytes : Bytes} (hroom : 0 < room) (hbytes : bytes ≠ [])
    (hrest : ∀ (w : Wire) (b : Bench), w.script.recv = rest →
      ∃ n, Streams policy room n data w b)
    (w : Wire) (b : Bench) (hw : w.script.recv = entry :: rest) (he : entry.act = .data bytes) :
    Streams policy room 0 (bytes ++ data) w b := by
  -- What has no room in a receive is an entry of its own, with fewer bytes.
  induction hk : bytes.length using Nat.strongRecOn generalizing bytes entry w b with
  | _ k ih =>
    obtain ⟨answer, w', b', hx, ha⟩ := (recv_scripted hw room (b := b)).answers
    rw [he] at ha
    cases answer with
    | error e => cases ha.1
    | ok block =>
      obtain ⟨rfl, hw'⟩ := ha
      have hblock : bytes.take room ≠ [] := by
        simpa [List.take_eq_nil_iff, hbytes] using Nat.ne_of_gt hroom
      have hnext : ∃ n, Streams policy room n (bytes.drop room ++ data) w' b' := by
        by_cases hleft : bytes.drop room = []
        · obtain ⟨n, hs⟩ := hrest w' b' (by simpa [hleft] using hw')
          exact ⟨n, by simpa [hleft] using hs⟩
        · rw [if_neg (by simpa using hleft)] at hw'
          have hless : (bytes.drop room).length < k := by
            have := List.length_pos_iff.mpr hbytes
            rw [List.length_drop]
            omega
          exact ⟨0, ih _ hless hleft w' b' hw' rfl rfl⟩
      obtain ⟨n, hnext⟩ := hnext
      have hs := Streams.delivers hx hblock hnext
      rwa [← List.append_assoc, List.take_append_drop] at hs

/-- Every script that ends streams what is in it, in receives of any size, and however many errors
there are in between. -/
theorem streams_script {entries tail : List RecvEntry} {last : RecvEntry} {w : Wire}
    (hw : w.script.recv = entries ++ last :: tail) (b : Bench) (hroom : 0 < room)
    (hall : ∀ entry ∈ entries, entry.Flows policy) (hlast : last.act = .ended) :
    ∃ n ≤ entries.length, Streams policy room n (entries.flatMap RecvEntry.bytes) w b := by
  induction entries generalizing w b with
  | nil =>
    obtain ⟨answer, w', b', hx, ha⟩ := (recv_scripted hw room (b := b)).answers
    rw [hlast] at ha
    cases answer with
    | error e => cases ha.1
    | ok block =>
      cases ha
      exact ⟨0, Nat.le_refl 0, .ends hx⟩
  | cons entry entries ih =>
    have hflows := hall entry List.mem_cons_self
    have hrest (w : Wire) (b : Bench) (hw : w.script.recv = entries ++ last :: tail) :=
      ih hw b fun e he => hall e (List.mem_cons_of_mem _ he)
    cases he : entry.act with
    | ended => simp [RecvEntry.Flows, he] at hflows
    | data bytes =>
      have hbytes : bytes ≠ [] := by simpa [RecvEntry.Flows, he] using hflows
      refine ⟨0, Nat.zero_le _, ?_⟩
      rw [List.flatMap_cons, show entry.bytes = bytes by rw [RecvEntry.bytes, he]]
      refine streams_data hroom hbytes (fun w b hw => ?_) w b hw he
      obtain ⟨n, -, hs⟩ := hrest w b hw
      exact ⟨n, hs⟩
    | fails e =>
      have hpasses : policy.judge .recv e ≠ .fatal := by simpa [RecvEntry.Flows, he] using hflows
      obtain ⟨answer, w', b', hx, ha⟩ := (recv_scripted hw room (b := b)).answers
      rw [he] at ha
      cases answer with
      | ok data => cases ha
      | error e' =>
        obtain ⟨he', hw'⟩ := ha
        cases he'
        obtain ⟨n, hn, hs⟩ := hrest w' b' hw'
        have hpatience : n < Transport.patience w := by
          have := length_le_patience w
          rw [hw] at this
          simp only [List.cons_append, List.length_cons, List.length_append] at this
          omega
        refine ⟨n + 1, Nat.succ_le_succ hn, ?_⟩
        rw [List.flatMap_cons, show entry.bytes = [] by rw [RecvEntry.bytes, he]]
        exact .passes hx hpasses hpatience hs

end Wire

end Scenario

namespace Connection

variable [Machine ω] [Transport ω τ] {c : Connection τ} {w : ω} {rest : Bytes}

/-- A read takes its share of what can still be read, and leaves the rest of it. -/
theorem Unread.read (hu : c.Unread w rest) (count : Nat) (opts : ReadOptions) :
    ∃ c' w', (read count opts).Answers c w (opts.serve count rest) c' w' ∧
      c'.Unread w' (opts.leave count rest) := by
  cases hu with
  | ended hactive hrest =>
    subst hrest
    exact ⟨_, w, (takeInput_serves (.inr hactive)).of_eq (read_eq_takeInput (.inr (.inl hactive))),
      .ended hactive rfl⟩
  | streaming hactive hmode ht hs hrest =>
    subst hrest
    obtain ⟨m, -, c', w', hg, hu⟩ :=
      gathers_of_streams hs count c ⟨hactive, hmode, ht, rfl, rfl⟩
    have hx : (Connection.read count opts).Answers c w (opts.serve count c'.core.input.toList)
        (c'.withInput (opts.leave count c'.core.input.toList)) w' := read_gathers hmode hg opts
    cases hu with
    | ended hactive' hrest =>
      rw [hrest]
      exact ⟨_, w', hx, .ended hactive' rfl⟩
    | @streaming n data t hactive' hmode' ht' hs' hrest =>
      have henough : count ≤ c'.core.input.toList.length :=
        (not_short_iff.mp hg.not_short).resolve_right (by simp [hactive'])
      rw [hrest, ReadOptions.serve_append henough, ReadOptions.leave_append henough]
      exact ⟨_, w', hx, .streaming hactive' hmode' ht' hs' rfl⟩

/-- Reads, one after another, each with its result. -/
def readEach (reads : List (Nat × ReadOptions)) :
    Action ω ChannelError (Connection τ) (List (Except ChannelError Bytes)) :=
  reads.mapM fun r => Action.attempt (read r.1 r.2)

theorem Unread.readEach (hu : c.Unread w rest) (reads : List (Nat × ReadOptions)) :
    ∃ c' w', readEach reads c w = .done (ReadOptions.serveAll reads rest) c' w' ∧
      c'.Unread w' (ReadOptions.leaveAll reads rest) := by
  induction reads generalizing c w rest with
  | nil => exact ⟨c, w, rfl, hu⟩
  | cons r reads ih =>
    obtain ⟨count, opts⟩ := r
    obtain ⟨c₁, w₁, hread, hu₁⟩ := hu.read count opts
    obtain ⟨c', w', hrest, hu'⟩ := ih hu₁
    refine ⟨c', w', ?_, hu'⟩
    have hfirst : (Action.attempt (Connection.read count opts) :
        Action ω ChannelError (Connection τ) _) c w = .done (opts.serve count rest) c₁ w₁ :=
      hread.attempt
    rw [Connection.readEach] at hrest ⊢
    rw [List.mapM_cons, Action.bind_apply, hfirst]
    dsimp only
    rw [Action.bind_apply, hrest]
    rfl

/-- Over a transport that streams bytes, whatever the sizes of its blocks and of the receives and
wherever errors that pass come in between, reads without end all come to an end and share out the
bytes in order: each has the first `count` of those that are left, or all of them when fewer will do
and there are any, or is told that the connection is closed, and what it has and does not peek is
gone. -/
theorem reads_share_stream {n : Nat} {data : Bytes} {t : τ} (hactive : c.core.active = true)
    (hmode : c.core.mode = .forever) (ht : c.transport = some t)
    (hs : Streams c.policy c.chunk n data t w) (reads : List (Nat × ReadOptions)) :
    ∃ c' w', readEach reads c w =
        .done (ReadOptions.serveAll reads (c.core.input.toList ++ data)) c' w' ∧
      c'.Unread w' (ReadOptions.leaveAll reads (c.core.input.toList ++ data)) :=
  (Unread.streaming hactive hmode ht hs rfl).readEach reads

/-- A peek, a read beyond the first block, one that the end cuts short and one after it. -/
theorem reads_share_stream_haltingWire :
    ∃ (n : Nat) (c c' : Connection Scenario.Wire) (w' : Scenario.Bench),
      (c.core.active = true ∧ c.core.mode = .forever ∧ c.transport = some Session.haltingWire ∧
        c.core.input.toList = [] ∧
        Streams c.policy c.chunk n [1, 2, 3, 4] Session.haltingWire ({} : Scenario.Bench)) ∧
      readEach [(2, { peek := true }), (3, {}), (2, { lessAllowed := true }), (1, {})] c {} =
        .done [.ok [1, 2], .ok [1, 2, 3], .ok [4], .error .closed] c' w' ∧
      c'.Unread w' [] := by
  let c : Connection Scenario.Wire :=
    { core := .new .forever "halting", transport := some Session.haltingWire, chunk := 2,
      policy := .plain }
  let reads : List (Nat × ReadOptions) :=
    [(2, { peek := true }), (3, {}), (2, { lessAllowed := true }), (1, {})]
  have hscript : Session.haltingWire.script.recv =
      Session.haltingWire.script.recv.dropLast ++ [{ act := .ended }] := rfl
  have hflows : ∀ entry ∈ Session.haltingWire.script.recv.dropLast, entry.Flows .plain := by
    decide
  have hdata : Session.haltingWire.script.recv.dropLast.flatMap Scenario.RecvEntry.bytes =
      [1, 2, 3, 4] := rfl
  have hserve : ReadOptions.serveAll reads [1, 2, 3, 4] =
      [.ok [1, 2], .ok [1, 2, 3], .ok [4], .error .closed] := rfl
  have hleave : ReadOptions.leaveAll reads [1, 2, 3, 4] = [] := rfl
  obtain ⟨n, -, hs⟩ := Scenario.Wire.streams_script hscript {} Nat.zero_lt_two hflows rfl
  rw [hdata] at hs
  obtain ⟨c', w', hread, hu⟩ := reads_share_stream (c := c) rfl rfl rfl hs reads
  rw [show c.core.input.toList ++ [1, 2, 3, 4] = [1, 2, 3, 4] from rfl] at hread hu
  rw [hserve] at hread
  rw [hleave] at hu
  exact ⟨n, c, c', w', ⟨rfl, rfl, rfl, rfl, hs⟩, hread, hu⟩

end Connection

end ChannelReactor
