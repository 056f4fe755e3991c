import ChannelReactor.ByteQueue

/-!
# Byte rings

A ring is a queue of bytes whose bytes lie in places around a circle. Its content is a list of
bytes, as that of any queue (`toList_push`, `toList_drop`); but it can be handed over in place, and
then only up to the last place, behind which it goes on at the first (`run`). A ring that is not
empty has something to hand over (`run_ne_nil`).

A ring gets more places when what is pushed does not fit: twice as many, or as many as it takes.
Content that goes past the last place is then moved with as little copying as possible: the part
at the beginning moves behind the other one if it is shorter and fits there, otherwise the other
one moves to the new end.
-/
namespace ChannelReactor

/-- A queue of bytes in places around a circle. -/
structure ByteRing where
  /-- The bytes, the oldest first. -/
  toList : Bytes
  places : Nat
  /-- The place of the oldest byte. -/
  start : Nat
  length_le : toList.length ≤ places
  start_le : start ≤ places - 1
deriving DecidableEq, Repr

namespace ByteRing

def empty : ByteRing where
  toList := []
  places := 0
  start := 0
  length_le := Nat.le_refl 0
  start_le := Nat.le_refl 0

def size (r : ByteRing) : Nat := r.toList.length

def isEmpty (r : ByteRing) : Bool := r.toList.isEmpty

/-- The oldest bytes, as far as they lie in one piece. -/
def run (r : ByteRing) : Bytes := r.toList.take (r.places - r.start)

/-- The fewest places of a ring that has any. -/
def fewest : Nat := 8

/-- The number of places of a ring that has room for so many bytes. -/
def grown (r : ByteRing) (needed : Nat) : Nat :=
  if needed ≤ r.places then r.places else max (max (2 * r.places) needed) fewest

/-- The place of the oldest byte once the ring has been given that many places. -/
def startIn (r : ByteRing) (places : Nat) : Nat :=
  let beforeEnd := r.places - r.start
  let pastEnd := r.size - beforeEnd
  if pastEnd = 0 || (decide (pastEnd < beforeEnd) && decide (pastEnd ≤ places - r.places)) then
    r.start
  else places - beforeEnd

theorem le_grown (r : ByteRing) (needed : Nat) : needed ≤ r.grown needed := by
  unfold grown
  split <;> omega

theorem places_le_grown (r : ByteRing) (needed : Nat) : r.places ≤ r.grown needed := by
  unfold grown
  split <;> omega

theorem startIn_le (r : ByteRing) {places : Nat} (h : r.places ≤ places) :
    r.startIn places ≤ places - 1 := by
  have := r.start_le
  have := r.length_le
  unfold startIn size
  simp only [Bool.or_eq_true, Bool.and_eq_true, decide_eq_true_eq]
  split <;> omega

def push (r : ByteRing) (data : Bytes) : ByteRing :=
  let places := r.grown (r.size + data.length)
  { toList := r.toList ++ data
    places
    start := if places = r.places then r.start else r.startIn places
    length_le := by
      rw [List.length_append]
      exact r.le_grown _
    start_le := by
      have hs := r.start_le
      have hp := r.places_le_grown (r.size + data.length)
      split
      · exact Nat.le_trans hs (Nat.sub_le_sub_right hp 1)
      · exact r.startIn_le hp }

/-- The ring without its first `n` bytes. An empty ring starts over at the first place. -/
def drop (r : ByteRing) (n : Nat) : ByteRing where
  toList := r.toList.drop n
  places := r.places
  start := if r.size ≤ n then 0 else (r.start + n) % r.places
  length_le := Nat.le_trans (by simp) r.length_le
  start_le := by
    split
    · exact Nat.zero_le _
    · rename_i h
      have hl := r.length_le
      have : r.size ≤ r.places := hl
      exact Nat.le_sub_one_of_lt (Nat.mod_lt _ (by omega))

@[simp] theorem toList_empty : empty.toList = [] := rfl

@[simp] theorem toList_push (r : ByteRing) (data : Bytes) :
    (r.push data).toList = r.toList ++ data := rfl

@[simp] theorem toList_drop (r : ByteRing) (n : Nat) : (r.drop n).toList = r.toList.drop n := rfl

theorem isEmpty_iff {r : ByteRing} : r.isEmpty = true ↔ r.toList = [] := List.isEmpty_iff

/-- The run is the front of the content. -/
theorem run_append (r : ByteRing) : r.run ++ (r.drop r.run.length).toList = r.toList := by
  simp only [run, toList_drop, List.length_take]
  rcases Nat.le_total (r.places - r.start) r.toList.length with h | h
  · rw [Nat.min_eq_left h, List.take_append_drop]
  · rw [Nat.min_eq_right h, List.take_of_length_le h, List.drop_length, List.append_nil]

theorem run_ne_nil {r : ByteRing} (h : r.toList ≠ []) : r.run ≠ [] := by
  have hs := r.start_le
  have hl := r.length_le
  have hp := List.length_pos_iff.mpr h
  intro e
  have := congrArg List.length e
  simp only [run, List.length_take, List.length_nil] at this
  omega

end ByteRing

end ChannelReactor
