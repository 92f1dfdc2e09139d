import FleetScore.Time.Calendar

/-!
# Day numbers and dates determine each other

A day number is split into a year and a day of the year, and the day of the year into a month and a
day of the month.  Both splits are undone by adding up what was passed over: the days before the
year (`daysBeforeYear_yearOf`) and the lengths of the months before the day (`locate_spec`).

The year is guessed from the mean length of a year and corrected by at most one; that this is
enough is linear arithmetic over the three quotients in `daysBeforeYear`.
-/

namespace FleetScore
namespace Calendar

/-! ## 1.  Years -/

theorem daysBeforeYear_succ (year : Int) :
    daysBeforeYear (year + 1) = daysBeforeYear year + 365 + if isLeap year then 1 else 0 := by
  unfold daysBeforeYear isLeap
  by_cases h4 : year % 4 = 0 <;> by_cases h100 : year % 100 = 0 <;>
    by_cases h400 : year % 400 = 0 <;> simp [h4, h100, h400] <;> omega

theorem daysBeforeYear_mono {a b : Int} (h : a ≤ b) : daysBeforeYear a ≤ daysBeforeYear b := by
  unfold daysBeforeYear
  omega

theorem daysBeforeYear_yearOf (days : Int) :
    daysBeforeYear (yearOf days) ≤ days ∧ days < daysBeforeYear (yearOf days + 1) := by
  unfold yearOf
  simp only
  split
  · rename_i h
    constructor
    · unfold daysBeforeYear
      omega
    · rw [Int.sub_add_cancel]
      exact h
  · split
    · rename_i h
      refine ⟨h, ?_⟩
      unfold daysBeforeYear
      omega
    · rename_i hlow hhigh
      omega

/-- A year is known by any of its days. -/
theorem yearOf_lt_iff (days year : Int) : yearOf days < year ↔ days < daysBeforeYear year := by
  obtain ⟨hlow, hhigh⟩ := daysBeforeYear_yearOf days
  constructor
  · intro h
    have hmono := daysBeforeYear_mono (show yearOf days + 1 ≤ year by omega)
    omega
  · intro h
    by_cases hlt : yearOf days < year
    · exact hlt
    · have hmono := daysBeforeYear_mono (show year ≤ yearOf days by omega)
      omega

/-! ## 2.  Months -/

/-- The days of some months. -/
def total (lengths : List Nat) : Nat := lengths.foldr (fun length days => length + days) 0

/-- **A day is found in the month it lies in**, and the months passed over make up for the rest. -/
theorem locate_spec {lengths : List Nat} {day : Nat} (h : day < total lengths) :
    ∃ length, lengths[(locate lengths day).1]? = some length ∧ (locate lengths day).2 < length ∧
      total (lengths.take (locate lengths day).1) + (locate lengths day).2 = day := by
  induction lengths generalizing day with
  | nil => simp [total] at h
  | cons length rest ih =>
    rw [locate]
    split
    · rename_i hday
      exact ⟨length, rfl, hday, by simp [total]⟩
    · rename_i hday
      have hrest : day - length < total rest := by
        simp only [total, List.foldr_cons] at h ⊢
        omega
      obtain ⟨found, hfound, hlt, htotal⟩ := ih hrest
      refine ⟨found, by simpa using hfound, hlt, ?_⟩
      simp only [total, List.take_succ_cons, List.foldr_cons] at htotal ⊢
      omega

theorem total_monthLengths (leap : Bool) :
    total (monthLengths leap) = 365 + if leap then 1 else 0 := by
  cases leap <;> rfl

theorem length_monthLengths (leap : Bool) : (monthLengths leap).length = 12 := by
  cases leap <;> rfl

theorem monthLength_le (year : Int) (month : Nat) : monthLength year month ≤ 31 := by
  have hall : ∀ leap, ∀ length ∈ monthLengths leap, length ≤ 31 := by decide
  unfold monthLength
  split
  · omega
  · cases hlength : (monthLengths (isLeap year))[month - 1]? with
    | none => simp
    | some length => exact hall _ _ (List.mem_of_getElem? hlength)

/-! ## 3.  Dates -/

section

variable (number : Int)

/-- The day of the year, from zero. -/
def dayOfYear : Nat := (number + epochDays - daysBeforeYear (yearOf (number + epochDays))).toNat

theorem dayOfYear_lt :
    dayOfYear number < total (monthLengths (isLeap (yearOf (number + epochDays)))) := by
  obtain ⟨hlow, hhigh⟩ := daysBeforeYear_yearOf (number + epochDays)
  rw [daysBeforeYear_succ] at hhigh
  rw [total_monthLengths, dayOfYear]
  split at hhigh <;> rename_i hleap <;> simp only [hleap, if_true, Bool.false_eq_true, if_false] <;>
    omega

/-- **The date of a day number exists.** -/
theorem isValid_ofDayNumber : isValid (ofDayNumber number) = true := by
  obtain ⟨length, hlength, hlt, -⟩ := locate_spec (dayOfYear_lt number)
  obtain ⟨hmonth, hget⟩ := List.getElem?_eq_some_iff.1 hlength
  rw [length_monthLengths] at hmonth
  have hday : monthLength (ofDayNumber number).year (ofDayNumber number).month = length := by
    unfold monthLength
    rw [if_neg (by simp [ofDayNumber])]
    show (((monthLengths (isLeap (yearOf (number + epochDays))))[
      (locate (monthLengths (isLeap (yearOf (number + epochDays)))) (dayOfYear number)).1]?).getD 0)
        = length
    rw [hlength]
    rfl
  have hmonth' : (ofDayNumber number).month ≤ 12 := hmonth
  have hday' : (ofDayNumber number).day ≤ length := hlt
  have hone : 1 ≤ (ofDayNumber number).month := Nat.le_add_left 1 _
  have hone' : 1 ≤ (ofDayNumber number).day := Nat.le_add_left 1 _
  exact decide_eq_true ⟨hone, hmonth', hone', by rw [hday]; exact hday'⟩

/-- **The day number of the date of a day number is the day number.** -/
theorem dayNumber_ofDayNumber : dayNumber (ofDayNumber number) = number := by
  obtain ⟨hlow, -⟩ := daysBeforeYear_yearOf (number + epochDays)
  obtain ⟨length, -, -, htotal⟩ := locate_spec (dayOfYear_lt number)
  have hday : (dayOfYear number : Int) =
      number + epochDays - daysBeforeYear (yearOf (number + epochDays)) := by
    rw [dayOfYear]
    omega
  have hdate : dayNumber (ofDayNumber number) =
      daysBeforeYear (yearOf (number + epochDays))
        + total ((monthLengths (isLeap (yearOf (number + epochDays)))).take
          (locate (monthLengths (isLeap (yearOf (number + epochDays)))) (dayOfYear number)).1)
        + ((locate (monthLengths (isLeap (yearOf (number + epochDays))))
          (dayOfYear number)).2 + 1 - 1) - epochDays := rfl
  rw [hdate]
  omega

end

end Calendar
end FleetScore
