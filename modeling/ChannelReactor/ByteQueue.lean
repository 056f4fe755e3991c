/-!
# Byte queues

A queue of bytes, first in first out. Bytes enter at the back in blocks of any size and leave at
the front in blocks of any size; a request for more bytes than the queue holds gets all of them.
-/
namespace ChannelReactor

abbrev Bytes := List UInt8

/-- A queue of bytes, the oldest first. -/
structure ByteQueue where
  toList : Bytes
deriving DecidableEq, Repr

namespace ByteQueue

def empty : ByteQueue := ⟨[]⟩

def size (q : ByteQueue) : Nat := q.toList.length

def isEmpty (q : ByteQueue) : Bool := q.toList.isEmpty

def push (q : ByteQueue) (data : Bytes) : ByteQueue := ⟨q.toList ++ data⟩

/-- The first `n` bytes, which stay in the queue. -/
def peek (q : ByteQueue) (n : Nat) : Bytes := q.toList.take n

/-- The queue without its first `n` bytes. -/
def drop (q : ByteQueue) (n : Nat) : ByteQueue := ⟨q.toList.drop n⟩

/-- The first `n` bytes and the queue without them. -/
def take (q : ByteQueue) (n : Nat) : Bytes × ByteQueue := (q.peek n, q.drop n)

def front? (q : ByteQueue) : Option UInt8 := q.toList.head?

/-- The blocks that leave a queue which is emptied `n` bytes at a time, at least one. -/
def blocks (n : Nat) (q : ByteQueue) : List Bytes :=
  if _h : q.toList = [] then []
  else q.peek (max n 1) :: blocks n (q.drop (max n 1))
termination_by q.toList.length
decreasing_by
  have := List.length_pos_iff.mpr _h
  simp only [drop, List.length_drop]
  omega

@[simp] theorem toList_empty : empty.toList = [] := rfl

@[simp] theorem toList_push (q : ByteQueue) (data : Bytes) :
    (q.push data).toList = q.toList ++ data := rfl

@[simp] theorem toList_drop (q : ByteQueue) (n : Nat) : (q.drop n).toList = q.toList.drop n := rfl

@[simp] theorem peek_eq (q : ByteQueue) (n : Nat) : q.peek n = q.toList.take n := rfl

theorem isEmpty_iff {q : ByteQueue} : q.isEmpty = true ↔ q.toList = [] := List.isEmpty_iff

/-- What is taken, followed by what stays, is what there was. -/
theorem take_append (q : ByteQueue) (n : Nat) : (q.take n).1 ++ (q.take n).2.toList = q.toList :=
  List.take_append_drop n q.toList

end ByteQueue

end ChannelReactor
