import ChannelReactor.ByteQueue

/-!
# Packets

What a socket sends is kept in packets until the other end has received it. A packet takes up
memory until its last byte is received, and a socket can send while its packets take up less than
its allowance. So the last packet that is let through may go beyond the allowance, and small
packets exhaust it sooner than large ones.

Receiving takes bytes off the front, whatever packets they came in (`bytes_receive`), and
sending keeps the front of what is sent (`bytes_cut`).
-/
namespace ChannelReactor.Scenario

structure Packet where
  /-- The bytes that are not received yet. -/
  data : Bytes
  /-- The number of bytes that were sent in it. -/
  size : Nat
deriving DecidableEq, Repr

namespace Packet

/-- The memory that the packets of one socket may take up before it is blocked. -/
def allowance : Nat := 212992

def page : Nat := 4096

/-- The part of a packet's head that holds no bytes. -/
def trailer : Nat := 320

/-- The most bytes in a packet's head. -/
def headRoom : Nat := page - trailer

/-- The most bytes in a packet: a full head and eight pages. -/
def capacity : Nat := headRoom + 8 * page

theorem capacity_pos : 0 < capacity := by decide

/-- The least multiple of `unit` that is not below `n`. -/
def roundUp (n unit : Nat) : Nat := (n + unit - 1) / unit * unit

/-- How many of a packet's bytes are in pages: what the head has no room for, and as many more as
fill the last page. -/
def paged (size : Nat) : Nat := min size (roundUp (size - headRoom) page)

/-- The memory that a packet takes up: a record, a head in a block whose size is a power of two,
and whole pages. -/
def cost (size : Nat) : Nat :=
  256 + (max 512 (roundUp (size - paged size) 64 + trailer)).nextPowerOfTwo +
    roundUp (paged size) page

def charge (packets : List Packet) : Nat := (packets.map fun p => cost p.size).foldr (· + ·) 0

def bytes (packets : List Packet) : Bytes := packets.flatMap (·.data)

/-- Cuts the front of some bytes into packets, as far as the allowance goes of which so much is
used up. -/
def cut (used : Nat) (data : Bytes) : List Packet :=
  if data = [] ∨ allowance ≤ used then []
  else
    let piece := data.take capacity
    { data := piece, size := piece.length } ::
      cut (used + cost piece.length) (data.drop capacity)
termination_by data.length
decreasing_by
  rename_i h
  have : 0 < data.length := List.length_pos_iff.mpr fun e => h (.inl e)
  have := capacity_pos
  simp only [List.length_drop]
  omega

/-- Takes at most so many bytes off some packets; those that are left without any are gone. -/
def receive : (limit : Nat) → List Packet → Bytes × List Packet
  | _, [] => ([], [])
  | limit, p :: rest =>
    if limit < p.data.length then
      (p.data.take limit, { p with data := p.data.drop limit } :: rest)
    else
      let (more, left) := receive (limit - p.data.length) rest
      (p.data ++ more, left)

theorem bytes_receive (limit : Nat) (packets : List Packet) :
    (receive limit packets).1 = (bytes packets).take limit ∧
      bytes (receive limit packets).2 = (bytes packets).drop limit := by
  induction packets generalizing limit with
  | nil => simp [receive, bytes]
  | cons p rest ih =>
    have hp : bytes (p :: rest) = p.data ++ bytes rest := by simp [bytes]
    unfold receive
    split
    · rename_i h
      have hb (q : Packet) : bytes (q :: rest) = q.data ++ bytes rest := by simp [bytes]
      simp only [hp, hb, List.take_append, List.drop_append,
        Nat.sub_eq_zero_of_le (Nat.le_of_lt h)]
      simp
    · rename_i h
      have h := Nat.le_of_not_lt h
      simp only [hp, List.take_append, List.drop_append, List.take_of_length_le h,
        List.drop_of_length_le h, (ih (limit - p.data.length)).1,
        (ih (limit - p.data.length)).2]
      simp

theorem bytes_cut (used : Nat) (data : Bytes) :
    bytes (cut used data) = data.take (bytes (cut used data)).length := by
  fun_induction cut used data with
  | case1 => simp [bytes]
  | case2 used data h piece ih =>
    have hb (q : Packet) (qs : List Packet) : bytes (q :: qs) = q.data ++ bytes qs := by
      simp [bytes]
    rw [hb]
    by_cases hl : data.length ≤ capacity
    · have hd : data.drop capacity = [] := List.drop_of_length_le hl
      have hc (n : Nat) : cut n [] = [] := by unfold cut; simp
      simp [piece, hd, hc, bytes, List.take_of_length_le hl]
    · have hl := Nat.le_of_lt (Nat.lt_of_not_le hl)
      have hp : piece.length = capacity := List.length_take_of_le hl
      rw [hp] at ih
      rw [List.length_append, hp, List.take_add, ← ih]

end Packet

end ChannelReactor.Scenario
