import FleetScore.Time.Calendar

/-!
# Instants and spans

An *instant* is a second counted from 1970 and a fraction of it in nanoseconds.
The fraction of a leap second runs on: it lies between one and two thousand
million and belongs to the second before.  So every second has room for two
thousand million fractions, `key` enumerates instants in that way, and one
instant is earlier than another exactly when its key is smaller.

Instants are bounded.  The calendar they are written in ends in the years
-262143 and 262142, and the bounds are fields of the type: an instant that cannot
be written cannot be built.

A *span* is a length of time, never negative.  Going back by a span can leave the
calendar; `Instant.back` then answers the first instant of all.  Spans longer
than the largest number of milliseconds in 63 bits count as that number, which
is far more than the calendar holds, so that neither limit can be seen in a
comparison with an instant.
-/

namespace FleetScore

/-- A nanosecond is this part of a second. -/
def nanosPerSecond : Nat := 1000000000

/-- Seconds of a day. -/
def secondsPerDay : Int := 86400

/-- An instant of coordinated universal time: seconds from the start of 1970, and nanoseconds
into the second, or into it and its leap second together.  No instant lies outside the calendar. -/
structure Instant where
  second : Int
  nano : Nat
  first_le : -8334601228800 ≤ second := by decide
  le_last : second ≤ 8210266876799 := by decide
  nano_lt : nano < 2000000000 := by decide
  deriving DecidableEq, Repr

/-- A length of time: whole seconds, and the rest in nanoseconds, which is less than a second. -/
structure Span where
  seconds : Nat
  nanos : Nat
  nanos_lt : nanos < 1000000000 := by decide
  deriving DecidableEq, Repr

namespace Span

/-- A whole number of seconds. -/
def ofSeconds (seconds : Nat) : Span := ⟨seconds, 0, by decide⟩

/-- A span from seconds and any number of nanoseconds. -/
def ofParts (seconds nanos : Nat) : Span :=
  ⟨seconds + nanos / 1000000000, nanos % 1000000000, Nat.mod_lt _ (by decide)⟩

/-- A span in whole milliseconds. -/
def milliseconds (d : Span) : Nat := d.seconds * 1000 + d.nanos / 1000000

/-- The longest span that instants are moved by. -/
def greatest : Span := ⟨9223372036854775, 807000000, by decide⟩

/-- Whether a span is at most another. -/
def le (a b : Span) : Bool :=
  decide (a.seconds < b.seconds ∨ a.seconds = b.seconds ∧ a.nanos ≤ b.nanos)

/-- The span, or the longest one if it is longer. -/
def clamped (d : Span) : Span := if d.le greatest then d else greatest

end Span

namespace Instant

/-- The first instant. -/
def earliest : Instant := ⟨-8334601228800, 0, by decide, by decide, by decide⟩

/-- The position of an instant in time: two thousand million to a second. -/
def key (t : Instant) : Int := t.second * 2000000000 + t.nano

/-- Whether an instant is not later than another. -/
def le (a b : Instant) : Bool := decide (a.key ≤ b.key)

/-- Whether an instant is earlier than another. -/
def lt (a b : Instant) : Bool := decide (a.key < b.key)

/-- The instant at a second and a nanosecond, if the calendar holds it. -/
def at? (second : Int) (nano : Nat) : Option Instant :=
  if h : -8334601228800 ≤ second ∧ second ≤ 8210266876799 ∧ nano < 2000000000 then
    some ⟨second, nano, h.1, h.2.1, h.2.2⟩
  else none

/-- The second and fraction from which a span is taken off.  A leap second counts
as the start of the next second, except for a span of less than a second, which
stays within its second. -/
def unleaped (t : Instant) (d : Span) : Int × Nat :=
  if 1000000000 ≤ t.nano ∧ 0 < d.seconds then (t.second + 1, t.nano - 1000000000)
  else (t.second, t.nano)

/-- The instant a span before, if the calendar holds it. -/
def before? (t : Instant) (d : Span) : Option Instant :=
  let start := t.unleaped d
  if d.nanos ≤ start.2 then at? (start.1 - d.seconds) (start.2 - d.nanos)
  else at? (start.1 - d.seconds - 1) (start.2 + 1000000000 - d.nanos)

/-- The instant a span before, or the first of all. -/
def back (t : Instant) (d : Span) : Instant :=
  (t.before? d.clamped).getD earliest

theorem le_iff (a b : Instant) : a.le b = true ↔ a.key ≤ b.key := by
  simp [le]

theorem lt_iff (a b : Instant) : a.lt b = true ↔ a.key < b.key := by
  simp [lt]

theorem le_refl (a : Instant) : a.le a = true := by
  simp [le]

end Instant
end FleetScore
