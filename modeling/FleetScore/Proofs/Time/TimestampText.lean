import FleetScore.Proofs.Decimal.NumeralText
import FleetScore.Proofs.Time.Dates
import FleetScore.Time.Timestamp
import Mathlib.Algebra.Group.Nat.Defs

/-!
# Timestamps that are written are read back

Every instant is written, and what was written is read (`read?_text`).  The parts of a timestamp
are numbers of a fixed width, or of any width behind a sign, and characters between them; so each
part is read off the front of the text, and what remains is the text of the parts after it.

## Leap seconds

A fraction of a thousand million nanoseconds or more stands for a leap second, and the text has no
room for it but second 60.  In the last second of a minute that is how it is written and read.  In
any other second the text gives the second after, and that is what is read back: the instant is
*settled* there.  An instant without a leap second is settled where it is.
-/

namespace FleetScore
namespace Timestamp

open Text (isBlank dropBlanks)
open Decimal (digits digitRun digitValue ofDigits)

/-! ## 1.  Numbers of a width -/

theorem isBlank_of_isDigit {c : Char} (h : c.isDigit = true) : isBlank c = false := by
  have hbounds : 48 ≤ c.toNat ∧ c.toNat ≤ 57 := by
    simpa [Char.isDigit, UInt32.le_iff_toNat_le] using h
  simp [isBlank, Text.isWithin, Text.blankRanges]
  omega

theorem dropBlanks_cons {c : Char} (h : isBlank c = false) (s : List Char) :
    dropBlanks (c :: s) = c :: s := by
  rw [dropBlanks, List.dropWhile_cons_of_neg (by simp [h])]

theorem isDigit_of_mem_padded {width n : Nat} {c : Char} (h : c ∈ Decimal.padded width n) :
    c.isDigit = true := by
  rcases List.mem_append.1 h with h | h
  · obtain rfl := List.eq_of_mem_replicate h
    rfl
  · exact Decimal.isDigit_of_mem_digits h

theorem length_padded_of_lt {width n : Nat} (hwidth : width ≠ 0) (h : n < 10 ^ width) :
    (Decimal.padded width n).length = width := by
  have hdigits : (digits n).length ≤ width := (Nat.length_toDigits_le_iff (by omega) (by omega)).2 h
  simp only [Decimal.padded, List.length_append, List.length_replicate]
  omega

theorem ofDigits_padded (width n : Nat) : ofDigits (Decimal.padded width n) = n := by
  rw [Decimal.padded, Decimal.ofDigits_replicate_append, Decimal.ofDigits_digits]

theorem padded_ne_nil (width n : Nat) : Decimal.padded width n ≠ [] := by
  simp [Decimal.padded, Decimal.digits_ne_nil]

theorem exists_padded_eq_cons (width n : Nat) :
    ∃ c ds, Decimal.padded width n = c :: ds ∧ c.isDigit = true := by
  obtain ⟨c, ds, h⟩ := List.exists_cons_of_ne_nil (padded_ne_nil width n)
  exact ⟨c, ds, h, isDigit_of_mem_padded (by rw [h]; exact List.mem_cons_self)⟩

theorem number?_padded {limit width n : Nat} {r : List Char}
    (hlimit : (Decimal.padded width n).length ≤ limit)
    (hrest : (Decimal.padded width n).length = limit ∨ ∀ c ∈ r.head?, c.isDigit = false) :
    number? limit (Decimal.padded width n ++ r) = some (n, r) := by
  have hrun : digitRun limit (Decimal.padded width n ++ r) = (Decimal.padded width n, r) :=
    Decimal.digitRun_append (fun c hc => isDigit_of_mem_padded hc) hlimit hrest
  unfold number?
  rw [hrun]
  split
  · rename_i h
    exact absurd (congrArg Prod.fst h) (padded_ne_nil width n)
  · rename_i ds rest' _ h
    obtain ⟨rfl, rfl⟩ := Prod.mk.inj h
    rw [ofDigits_padded]

/-- A field of the date or the clock is read off the front of a text. -/
theorem field?_padded {width low high n : Nat} (hwidth : width ≠ 0) (hn : n < 10 ^ width)
    (hlow : low ≤ n) (hhigh : n ≤ high) (rest : List Char) :
    field? width low high (Decimal.padded width n ++ rest) = some (n, rest) := by
  obtain ⟨c, ds, hpadded, hc⟩ := exists_padded_eq_cons width n
  have hlength := length_padded_of_lt hwidth hn
  have hblanks : dropBlanks (Decimal.padded width n ++ rest) = Decimal.padded width n ++ rest := by
    rw [hpadded]
    exact dropBlanks_cons (isBlank_of_isDigit hc) _
  rw [field?, hblanks, number?_padded (by omega) (.inl hlength)]
  simp only [Option.bind_eq_bind, Option.bind_some]
  rw [if_pos ⟨hlow, hhigh⟩]

theorem mark?_cons {c : Char} (h : isBlank c = false) (rest : List Char) :
    mark? c (c :: rest) = some rest := by
  rw [mark?, dropBlanks_cons h]
  simp

/-! ## 2.  Dates -/

theorem number?_signed (n : Nat) (rest : List Char) :
    number? (Decimal.padded 4 n ++ '-' :: rest).length (Decimal.padded 4 n ++ '-' :: rest) =
      some (n, '-' :: rest) := by
  refine number?_padded (by simp) (.inr ?_)
  intro c hc
  obtain rfl : '-' = c := by simpa using hc
  decide

theorem year?_minus (s : List Char) :
    year? ('-' :: s) = (number? s.length s).map fun r => (-(r.1 : Int), r.2) := rfl

theorem year?_plus (s : List Char) :
    year? ('+' :: s) = (number? s.length s).map fun r => ((r.1 : Int), r.2) := rfl

/-- **A year is read back**, if its separator follows. -/
theorem year?_text (year : Int) (rest : List Char) :
    year? ((yearText year).toList ++ '-' :: rest) = some (year, '-' :: rest) := by
  unfold yearText
  split
  · rename_i h
    have hyear : (year.toNat : Int) = year := by omega
    have hlength : (Decimal.padded 4 year.toNat).length = 4 :=
      length_padded_of_lt (by decide) (by omega)
    have hnumber := number?_padded (n := year.toNat) (by omega) (.inl hlength) (r := '-' :: rest)
    obtain ⟨c, ds, hpadded, hc⟩ := exists_padded_eq_cons 4 year.toNat
    rw [padded, String.toList_ofList]
    rw [hpadded, List.cons_append] at hnumber ⊢
    rw [year?, dropBlanks_cons (isBlank_of_isDigit hc)]
    split
    · rename_i h
      obtain ⟨rfl, -⟩ := List.cons.inj h
      exact absurd hc (by decide)
    · rename_i h
      obtain ⟨rfl, -⟩ := List.cons.inj h
      exact absurd hc (by decide)
    · rw [hnumber, Option.map_some, hyear]
  · rename_i h
    by_cases hneg : year < 0
    · have hyear : -(year.natAbs : Int) = year := by omega
      have htext : ((if year < 0 then "-" else "+") ++ padded 4 year.natAbs).toList =
          '-' :: Decimal.padded 4 year.natAbs := by
        rw [if_pos hneg]
        simp [padded]
      rw [htext, List.cons_append, year?_minus, number?_signed, Option.map_some, hyear]
    · have hyear : (year.natAbs : Int) = year := by omega
      have htext : ((if year < 0 then "-" else "+") ++ padded 4 year.natAbs).toList =
          '+' :: Decimal.padded 4 year.natAbs := by
        rw [if_neg hneg]
        simp [padded]
      rw [htext, List.cons_append, year?_plus, number?_signed, Option.map_some, hyear]

theorem toList_dateText (d : Date) :
    (dateText d).toList = (yearText d.year).toList
      ++ '-' :: (Decimal.padded 2 d.month ++ '-' :: Decimal.padded 2 d.day) := by
  simp [dateText, padded]

/-- **A date that exists is read back**, whatever follows. -/
theorem date?_text {d : Date} (hvalid : Calendar.isValid d = true) (hfirst : firstYear ≤ d.year)
    (hlast : d.year ≤ lastYear) (rest : List Char) :
    date? ((dateText d).toList ++ rest) = some (d, rest) := by
  obtain ⟨hmonth, hmonth', hday, hday'⟩ := of_decide_eq_true hvalid
  have hlength := Calendar.monthLength_le d.year d.month
  rw [toList_dateText]
  simp only [List.append_assoc, List.cons_append]
  rw [date?, year?_text]
  simp only [Option.bind_eq_bind, Option.bind_some]
  rw [mark?_cons (by decide)]
  simp only [Option.bind_some]
  rw [field?_padded (by decide) (by omega) hmonth hmonth']
  simp only [Option.bind_some]
  rw [mark?_cons (by decide)]
  simp only [Option.bind_some]
  rw [field?_padded (by decide) (by omega) hday (by omega)]
  simp only [Option.bind_some]
  rw [if_pos ⟨hfirst, hlast, hvalid⟩]

/-! ## 3.  The clock -/

theorem toList_clockText (t : Instant) :
    (clockText t).toList = Decimal.padded 2 (clockOf t / 3600)
      ++ ':' :: (Decimal.padded 2 (clockOf t / 60 % 60) ++ ':' :: Decimal.padded 2 (secondOf t)) := by
  simp [clockText, padded]

theorem clockOf_lt (t : Instant) : clockOf t < 86400 := by
  rw [clockOf, secondsPerDay]
  omega

/-- A fraction of up to nine digits is read back, if the mark of universal time follows. -/
theorem fraction?_padded {places v : Nat} (hne : places ≠ 0) (hnine : places ≤ 9)
    (hv : v < 10 ^ places) :
    fraction? ('.' :: (Decimal.padded places v ++ ['Z'])) =
      some (v * tenTo (9 - places), ['Z']) := by
  have hlength := length_padded_of_lt hne hv
  have hrun : digitRun 9 (Decimal.padded places v ++ ['Z']) = (Decimal.padded places v, ['Z']) := by
    refine Decimal.digitRun_append (fun c hc => isDigit_of_mem_padded hc) (by omega) (.inr ?_)
    intro c hc
    obtain rfl : 'Z' = c := by simpa using hc
    decide
  rw [fraction?, hrun]
  split
  · rename_i h
    exact absurd (congrArg Prod.fst h) (padded_ne_nil places v)
  · rename_i ds rest _ h
    obtain ⟨rfl, rfl⟩ := Prod.mk.inj h
    rw [ofDigits_padded, hlength]
    rfl

/-- **The fraction of a second is read back**, if the mark of universal time follows. -/
theorem fraction?_text {nano : Nat} (h : nano < 1000000000) :
    fraction? ((fractionText nano).toList ++ ['Z']) = some (nano, ['Z']) := by
  have hpadded : ∀ places v, ("." ++ padded places v).toList ++ ['Z'] =
      '.' :: (Decimal.padded places v ++ ['Z']) := by
    intro places v
    simp [padded]
  unfold fractionText
  split
  · rename_i hzero
    rw [hzero]
    rfl
  · split
    · have hv : nano / 1000000 * tenTo (9 - 3) = nano := by
        show nano / 1000000 * 1000000 = nano
        omega
      rw [hpadded, fraction?_padded (by decide) (by decide) (by omega), hv]
    · split
      · have hv : nano / 1000 * tenTo (9 - 6) = nano := by
          show nano / 1000 * 1000 = nano
          omega
        rw [hpadded, fraction?_padded (by decide) (by decide) (by omega), hv]
      · have hv : nano * tenTo (9 - 9) = nano := Nat.mul_one nano
        rw [hpadded, fraction?_padded (by decide) (by decide) (by omega), hv]

/-- What the clock of an instant is read as: second 60 gives the whole of the fraction. -/
theorem clock?_text (t : Instant) :
    clock? ((clockText t).toList ++ ((fractionText (t.nano % 1000000000)).toList ++ ['Z'])) =
      some (if secondOf t = 60 then
          (clockOf t / 60 * 60 + 59, t.nano % 1000000000 + 1000000000, ['Z'])
        else (clockOf t / 60 * 60 + secondOf t, t.nano % 1000000000, ['Z'])) := by
  have hclock := clockOf_lt t
  have hsecond : secondOf t ≤ 60 := by
    rw [secondOf]
    split <;> omega
  have hstart : (clockOf t / 3600 * 60 + clockOf t / 60 % 60) * 60 = clockOf t / 60 * 60 := by
    omega
  rw [toList_clockText]
  simp only [List.append_assoc, List.cons_append]
  rw [clock?, field?_padded (by decide) (by omega) (by omega) (by omega)]
  simp only [Option.bind_eq_bind, Option.bind_some]
  rw [mark?_cons (by decide)]
  simp only [Option.bind_some]
  rw [field?_padded (by decide) (by omega) (by omega) (by omega)]
  simp only [Option.bind_some]
  rw [mark?_cons (by decide)]
  simp only [Option.bind_some]
  rw [field?_padded (by decide) (by omega) (by omega) hsecond]
  simp only [Option.bind_some]
  rw [fraction?_text (by omega)]
  simp only [Option.bind_some, hstart]
  split <;> rfl

/-! ## 4.  Instants -/

end Timestamp

/-- The instant that is read back: the second after, in a leap second that does not end its
minute. -/
def Instant.settled (t : Instant) : Instant :=
  if h : 1000000000 ≤ t.nano ∧ t.second % 60 ≠ 59 then
    { second := t.second + 1
      nano := t.nano - 1000000000
      first_le := by have := t.first_le; omega
      le_last := by have := t.le_last; omega
      nano_lt := by have := t.nano_lt; omega }
  else t

namespace Timestamp

open Text (dropBlanks)

theorem settled_of_nano_lt {t : Instant} (h : t.nano < 1000000000) : t.settled = t := by
  rw [Instant.settled, dif_neg (by omega)]

/-- The date of an instant is one that dates are read in. -/
theorem dateOf_bounds (t : Instant) :
    firstYear ≤ (dateOf t).year ∧ (dateOf t).year ≤ lastYear := by
  have hfirst := t.first_le
  have hlast := t.le_last
  have hyear : (dateOf t).year = Calendar.yearOf (t.second / secondsPerDay + Calendar.epochDays) :=
    rfl
  have hbefore : Calendar.daysBeforeYear firstYear = -95745764 := by decide
  have hafter : Calendar.daysBeforeYear (lastYear + 1) = 95745765 := by decide
  have hlow := Calendar.yearOf_lt_iff (t.second / secondsPerDay + Calendar.epochDays) firstYear
  have hhigh :=
    Calendar.yearOf_lt_iff (t.second / secondsPerDay + Calendar.epochDays) (lastYear + 1)
  rw [secondsPerDay, Calendar.epochDays] at *
  omega

theorem at?_eq_some {t : Instant} {second : Int} {nano : Nat} (hsecond : second = t.second)
    (hnano : nano = t.nano) : Instant.at? second nano = some t := by
  subst hsecond hnano
  rw [Instant.at?, dif_pos ⟨t.first_le, t.le_last, t.nano_lt⟩]

/-- The second and the fraction that an instant's text names are those of the settled instant. -/
theorem at?_named (t : Instant) :
    Instant.at? (t.second / secondsPerDay * secondsPerDay + ((clockOf t / 60 * 60
        + if secondOf t = 60 then 59 else secondOf t : Nat) : Int) - 0)
      (t.nano % 1000000000 + if secondOf t = 60 then 1000000000 else 0) = some t.settled := by
  have hnano := t.nano_lt
  have hclock : (clockOf t : Int) = t.second % 86400 := by
    rw [clockOf, secondsPerDay]
    omega
  by_cases hleap : 1000000000 ≤ t.nano
  · have hsecond : secondOf t = clockOf t % 60 + 1 := by rw [secondOf, if_pos hleap]
    by_cases hlast : t.second % 60 = 59
    · have hsettled : t.settled = t := dif_neg (by omega)
      have hsixty : secondOf t = 60 := by omega
      rw [hsettled, if_pos hsixty, if_pos hsixty, secondsPerDay]
      exact at?_eq_some (by omega) (by omega)
    · have hnext : t.settled.second = t.second + 1 := by
        rw [Instant.settled, dif_pos ⟨hleap, hlast⟩]
      have hrest : t.settled.nano = t.nano - 1000000000 := by
        rw [Instant.settled, dif_pos ⟨hleap, hlast⟩]
      have hsixty : secondOf t ≠ 60 := by omega
      rw [if_neg hsixty, if_neg hsixty, secondsPerDay]
      exact at?_eq_some (by omega) (by omega)
  · have hsecond : secondOf t = clockOf t % 60 + 0 := by rw [secondOf, if_neg hleap]
    have hsettled : t.settled = t := settled_of_nano_lt (by omega)
    have hsixty : secondOf t ≠ 60 := by omega
    rw [hsettled, if_neg hsixty, if_neg hsixty, secondsPerDay]
    exact at?_eq_some (by omega) (by omega)

theorem toList_text (t : Instant) :
    (text t).toList = (dateText (dateOf t)).toList ++ 'T' :: ((clockText t).toList
      ++ ((fractionText (t.nano % 1000000000)).toList ++ ['Z'])) := by
  simp [text]

/-- **Every instant is read back from its text**, leap seconds settled. -/
theorem read?_text (t : Instant) : read? (text t) = some t.settled := by
  have hdate := date?_text (Calendar.isValid_ofDayNumber (t.second / secondsPerDay))
    (dateOf_bounds t).1 (dateOf_bounds t).2
  have hnumber : Calendar.dayNumber (dateOf t) = t.second / secondsPerDay :=
    Calendar.dayNumber_ofDayNumber _
  have hnamed := at?_named t
  rw [read?, toList_text]
  simp only [Option.bind_eq_bind]
  rw [show Calendar.ofDayNumber (t.second / secondsPerDay) = dateOf t from rfl] at hdate
  rw [hdate, Option.bind_some]
  simp only [separator?, true_or, if_true, Option.bind_some]
  rw [clock?_text, Option.bind_some]
  have hoffset : offset? (dropBlanks ['Z']) = some (0, []) := by decide
  have hend : (dropBlanks []).isEmpty = true := rfl
  by_cases hsixty : secondOf t = 60
  · simp only [hsixty, if_true] at hnamed ⊢
    simp only [hoffset, Option.bind_some, hend, if_true, hnumber]
    exact hnamed
  · simp only [hsixty, if_false] at hnamed ⊢
    simp only [hoffset, Option.bind_some, hend, if_true, hnumber]
    exact hnamed

end Timestamp
end FleetScore
