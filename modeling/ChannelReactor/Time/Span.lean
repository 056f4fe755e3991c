/-!
# Spans and instants

A span is a length of time and an instant is a reading of the monotonic clock, both counted in
nanoseconds. The clock has a last second; adding a span to an instant fails beyond it.
-/
namespace ChannelReactor

structure Span where
  nanos : Nat
deriving DecidableEq, Repr

namespace Span

/-- The nanoseconds of one second. -/
def nanosPerSecond : Nat := 1000000000

/-- The nanoseconds of one millisecond. -/
def nanosPerMilli : Nat := 1000000

def zero : Span := ⟨0⟩

def ofParts (seconds nanos : Nat) : Span := ⟨seconds * nanosPerSecond + nanos⟩

def ofMillis (millis : Nat) : Span := ⟨millis * nanosPerMilli⟩

def seconds (d : Span) : Nat := d.nanos / nanosPerSecond

/-- The nanoseconds beyond the whole seconds. -/
def subsecond (d : Span) : Nat := d.nanos % nanosPerSecond

def millis (d : Span) : Nat := d.nanos / nanosPerMilli

def isZero (d : Span) : Bool := d.nanos == 0

instance : LT Span := ⟨fun a b => a.nanos < b.nanos⟩
instance : LE Span := ⟨fun a b => a.nanos ≤ b.nanos⟩
instance (a b : Span) : Decidable (a < b) := inferInstanceAs (Decidable (a.nanos < b.nanos))
instance (a b : Span) : Decidable (a ≤ b) := inferInstanceAs (Decidable (a.nanos ≤ b.nanos))

theorem lt_iff {a b : Span} : a < b ↔ a.nanos < b.nanos := Iff.rfl

theorem le_iff {a b : Span} : a ≤ b ↔ a.nanos ≤ b.nanos := Iff.rfl

end Span

/-- A reading of the monotonic clock. -/
structure Instant where
  nanos : Nat
deriving DecidableEq, Repr

namespace Instant

/-- The clock's readings stay below this many nanoseconds: its seconds are signed 64-bit. -/
def limit : Nat := Nat.pow 2 63 * Span.nanosPerSecond

def start : Instant := ⟨0⟩

def ofParts (seconds nanos : Nat) : Instant := ⟨seconds * Span.nanosPerSecond + nanos⟩

/-- The span from the clock's start. -/
def sinceStart (t : Instant) : Span := ⟨t.nanos⟩

instance : LT Instant := ⟨fun a b => a.nanos < b.nanos⟩
instance : LE Instant := ⟨fun a b => a.nanos ≤ b.nanos⟩
instance (a b : Instant) : Decidable (a < b) := inferInstanceAs (Decidable (a.nanos < b.nanos))
instance (a b : Instant) : Decidable (a ≤ b) := inferInstanceAs (Decidable (a.nanos ≤ b.nanos))

theorem lt_iff {a b : Instant} : a < b ↔ a.nanos < b.nanos := Iff.rfl

theorem le_iff {a b : Instant} : a ≤ b ↔ a.nanos ≤ b.nanos := Iff.rfl

/-- The instant a span later, as long as the clock can show it. -/
def add? (t : Instant) (d : Span) : Option Instant :=
  if t.nanos + d.nanos < limit then some ⟨t.nanos + d.nanos⟩ else none

/-- The clock moved on by a span, whatever it can show. -/
def advance (t : Instant) (d : Span) : Instant := ⟨t.nanos + d.nanos⟩

/-- The span from an earlier instant to `t`, zero when it is not earlier. -/
def since (t earlier : Instant) : Span := ⟨t.nanos - earlier.nanos⟩

theorem add?_eq_none_iff {t : Instant} {d : Span} :
    t.add? d = none ↔ limit ≤ t.nanos + d.nanos := by
  unfold add?; split <;> simp_all

end Instant

end ChannelReactor
