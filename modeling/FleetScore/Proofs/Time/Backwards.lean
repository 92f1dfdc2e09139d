import FleetScore.Time.Instant
import Mathlib

/-!
# Going back in time, exactly

`Instant.back` goes back by a span.  It has two limits: a span longer than `Span.greatest`
counts as that span, and where the calendar ends it answers the first instant of all.  This
file proves that neither limit can be seen in a comparison.

The exact answer is a position and not an instant.  `Instant.keyBefore` is the position on the
scale of `Instant.key` that lies a span before an instant, an integer without bound.

* `key_back` --- the instant answered lies at that position, or is the first instant if the
  position lies before the calendar;
* `back_le_iff` --- so an instant is at or after the answer exactly when it is at or after the
  position, whatever the span.

## Instants without a leap second

The scale of `key` has room for leap seconds.  Among instants without one it can be traded for
the usual count of nanoseconds from 1970: order and distance are those of the integers
`Instant.nanoseconds` (`key_le_key_iff`, `keyBefore_le_key_iff`).
-/

namespace FleetScore

/-- The length of a span in nanoseconds. -/
def Span.nanoseconds (d : Span) : Int := d.seconds * 1000000000 + d.nanos

namespace Instant

/-- The nanoseconds from the start of 1970 to an instant. -/
def nanoseconds (t : Instant) : Int := t.second * 1000000000 + t.nano

/-- Whether an instant is outside of any leap second. -/
def IsPlain (t : Instant) : Prop := t.nano < nanosPerSecond

instance (t : Instant) : Decidable t.IsPlain := inferInstanceAs (Decidable (_ < _))

/-- The instant at a second and a nanosecond, or the first of all where the calendar holds none. -/
def orEarliest (second : Int) (nano : Nat) : Instant := (at? second nano).getD earliest

/-- The position a span before an instant, whether or not the calendar reaches that far.  A
second borrowed is a second of a thousand million nanoseconds, and so the other half of its
room is passed over. -/
def keyBefore (t : Instant) (d : Span) : Int :=
  (t.unleaped d).1 * 2000000000 + (t.unleaped d).2 - (d.seconds * 2000000000 + d.nanos)
    - if d.nanos ≤ (t.unleaped d).2 then 0 else 1000000000

theorem keyBefore_antitone (t : Instant) {d e : Span} (h : d.nanoseconds ≤ e.nanoseconds) :
    t.keyBefore e ≤ t.keyBefore d := by
  have hd := d.nanos_lt
  have he := e.nanos_lt
  have ht := t.nano_lt
  rw [Span.nanoseconds, Span.nanoseconds] at h
  rw [keyBefore, keyBefore, unleaped, unleaped]
  split_ifs <;> simp only at * <;> omega

/-! ## The calendar as a limit -/

theorem key_earliest : earliest.key = -16669202457600000000000 := by decide

theorem key_earliest_le (t : Instant) : earliest.key ≤ t.key := by
  have h := t.first_le
  rw [key_earliest, key]
  omega

/-- An instant that the calendar does not hold on its early side is replaced by the first. -/
theorem key_orEarliest {second : Int} {nano : Nat} (hlast : second ≤ 8210266876799)
    (hnano : nano < 2000000000) :
    (orEarliest second nano).key = max (second * 2000000000 + nano) earliest.key := by
  rw [key_earliest, orEarliest, at?]
  split
  · rename_i h
    rw [Option.getD_some, key]
    dsimp only
    omega
  · rename_i h
    rw [Option.getD_none, key_earliest]
    omega

/-- The second that is counted from is at most one later than that of the instant, and then the
span is at least a second. -/
theorem unleaped_bounds (t : Instant) (d : Span) :
    (t.unleaped d).2 < 2000000000 ∧ t.second ≤ (t.unleaped d).1 ∧
      (t.unleaped d).1 ≤ t.second + 1 ∧ (t.unleaped d).1 ≤ t.second + d.seconds := by
  have h := t.nano_lt
  rw [unleaped]
  split_ifs with hleap
  · dsimp only
    omega
  · omega

/-- A span short enough to be moved by goes back to its position, or to the first instant. -/
theorem key_before?_getD (t : Instant) (d : Span) :
    ((t.before? d).getD earliest).key = max (t.keyBefore d) earliest.key := by
  obtain ⟨hnano, -, -, hsecond⟩ := t.unleaped_bounds d
  have hlast := t.le_last
  have hd := d.nanos_lt
  rw [before?, keyBefore]
  split_ifs with hborrow
  · rw [← orEarliest, key_orEarliest (by omega) (by omega)]
    congr 1
    omega
  · rw [← orEarliest, key_orEarliest (by omega) (by omega)]
    congr 1
    omega

/-! ## The longest span as a limit -/

/-- A span that counts as a shorter one leaves the calendar either way. -/
theorem max_keyBefore_clamped (t : Instant) (d : Span) :
    max (t.keyBefore d.clamped) earliest.key = max (t.keyBefore d) earliest.key := by
  rw [Span.clamped]
  split_ifs with hle
  · rfl
  · -- going back by more than 292 million years passes the first instant
    have hfar : ∀ e : Span, 9223372036854775 ≤ e.seconds → t.keyBefore e ≤ earliest.key := by
      intro e he
      obtain ⟨hnano, -, hsecond, -⟩ := t.unleaped_bounds e
      have hlast := t.le_last
      rw [keyBefore, key_earliest]
      split_ifs <;> omega
    have hlong : 9223372036854775 ≤ d.seconds := by
      rw [Span.le, decide_eq_true_eq] at hle
      simp only [Span.greatest] at hle
      omega
    have h := hfar d hlong
    have hgreatest := hfar Span.greatest (Nat.le_refl _)
    omega

/-- **Going back arrives at the exact position**, or at the first instant where the calendar
does not reach that far. -/
theorem key_back (t : Instant) (d : Span) :
    (t.back d).key = max (t.keyBefore d) earliest.key := by
  rw [back, key_before?_getD, max_keyBefore_clamped]

/-- **Neither limit can be seen in a comparison.**  An instant is at or after the answer
exactly when it is at or after the exact position. -/
theorem back_le_iff (t m : Instant) (d : Span) :
    (t.back d).le m = true ↔ t.keyBefore d ≤ m.key := by
  have h := key_earliest_le m
  rw [le_iff, key_back]
  omega

theorem le_total (a b : Instant) : (a.le b || b.le a) = true := by
  rw [Bool.or_eq_true, le_iff, le_iff]
  omega

theorem le_trans (a b c : Instant) (hab : a.le b = true) (hbc : b.le c = true) :
    a.le c = true := by
  rw [le_iff] at hab hbc ⊢
  omega

/-! ## Nanoseconds -/

/-- Outside of leap seconds the order is that of the nanoseconds. -/
theorem key_le_key_iff {a b : Instant} (ha : a.IsPlain) (hb : b.IsPlain) :
    a.key ≤ b.key ↔ a.nanoseconds ≤ b.nanoseconds := by
  rw [IsPlain, nanosPerSecond] at ha hb
  rw [key, key, nanoseconds, nanoseconds]
  omega

/-- **Outside of leap seconds going back is subtraction.** -/
theorem keyBefore_le_key_iff {t m : Instant} (ht : t.IsPlain) (hm : m.IsPlain) (d : Span) :
    t.keyBefore d ≤ m.key ↔ t.nanoseconds - d.nanoseconds ≤ m.nanoseconds := by
  rw [IsPlain, nanosPerSecond] at ht hm
  have hd := d.nanos_lt
  have hunleaped : t.unleaped d = (t.second, t.nano) := by
    rw [unleaped, if_neg (by omega)]
  rw [keyBefore, hunleaped, key, nanoseconds, nanoseconds, Span.nanoseconds]
  dsimp only
  split_ifs <;> omega

end Instant
end FleetScore
