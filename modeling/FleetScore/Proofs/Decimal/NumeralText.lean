import FleetScore.Decimal.Numeral

/-!
# Numerals that are written are read back

The digits of a number spell it (`ofDigits_digits`) and never start with an idle zero
(`head?_digits_ne`).  A reader that takes digits as long as there are any takes exactly those that
were written, provided that what stands behind them is no digit (`digitRun_append`).

`Numeral.IsSpelled` says of a numeral what the grammar of numbers asks for, and
`read?_chars_append` that such a numeral is read back from its text, whatever follows, as long as
nothing follows that could belong to a number (`EndsNumber`).
-/

namespace FleetScore
namespace Decimal

/-! ## 1.  Digits -/

theorem digits_ne_nil (n : Nat) : digits n ≠ [] := Nat.toDigits_ne_nil

theorem isDigit_of_mem_digits {n : Nat} {c : Char} (h : c ∈ digits n) : c.isDigit = true :=
  Nat.isDigit_of_mem_toDigits (by omega) (by omega) h

theorem digits_of_lt_ten {n : Nat} (h : n < 10) : digits n = [n.digitChar] :=
  Nat.toDigits_of_lt_base h

theorem digits_of_ten_le {n : Nat} (h : 10 ≤ n) :
    digits n = digits (n / 10) ++ [(n % 10).digitChar] := by
  have hten : ¬ n < 10 := by omega
  rw [digits, Nat.toDigits_eq_if (by omega), if_neg hten]
  rfl

theorem digitValue_digitChar {d : Nat} (h : d < 10) : digitValue d.digitChar = d := by
  have hall : ∀ d < 10, digitValue d.digitChar = d := by decide
  exact hall d h

theorem ofDigits_concat (ds : List Char) (c : Char) :
    ofDigits (ds ++ [c]) = 10 * ofDigits ds + digitValue c := by
  rw [ofDigits, List.foldl_append]
  rfl

/-- **The digits of a number spell it.** -/
@[simp] theorem ofDigits_digits (n : Nat) : ofDigits (digits n) = n := by
  induction n using Nat.strongRecOn with
  | ind n ih =>
    by_cases hn : n < 10
    · rw [digits_of_lt_ten hn]
      show 10 * 0 + digitValue n.digitChar = n
      rw [digitValue_digitChar hn]
      omega
    · have hlast : n % 10 < 10 := Nat.mod_lt _ (by omega)
      rw [digits_of_ten_le (by omega), ofDigits_concat, ih (n / 10) (by omega),
        digitValue_digitChar hlast]
      omega

theorem ofDigits_replicate_append (k : Nat) (ds : List Char) :
    ofDigits (List.replicate k '0' ++ ds) = ofDigits ds := by
  induction k with
  | zero => rfl
  | succ k ih => exact ih

theorem head?_digits_ne {n : Nat} (h : n ≠ 0) : (digits n).head? ≠ some '0' := by
  induction n using Nat.strongRecOn with
  | ind n ih =>
    by_cases hn : n < 10
    · have hall : ∀ d < 10, d ≠ 0 → d.digitChar ≠ '0' := by decide
      rw [digits_of_lt_ten hn]
      simpa using hall n hn h
    · have hfirst := ih (n / 10) (by omega) (by omega)
      obtain ⟨c, ds, hds⟩ := List.exists_cons_of_ne_nil (digits_ne_nil (n / 10))
      rw [digits_of_ten_le (by omega), hds, List.cons_append, List.head?_cons]
      rwa [hds, List.head?_cons] at hfirst

/-- **Digits are read as far as they go**, up to a limit, and what follows is left. -/
theorem digitRun_append {limit : Nat} {ds rest : List Char} (hds : ∀ c ∈ ds, c.isDigit = true)
    (hlimit : ds.length ≤ limit)
    (hrest : ds.length = limit ∨ ∀ c ∈ rest.head?, c.isDigit = false) :
    digitRun limit (ds ++ rest) = (ds, rest) := by
  have htake : (ds ++ rest).take limit = ds ++ rest.take (limit - ds.length) := by
    rw [List.take_append, List.take_of_length_le hlimit]
  have hnone : (rest.take (limit - ds.length)).takeWhile Char.isDigit = [] := by
    rcases hrest with heq | hhead
    · rw [heq, Nat.sub_self, List.take_zero, List.takeWhile_nil]
    · cases rest with
      | nil => simp
      | cons c rest =>
        have hc : c.isDigit = false := hhead c rfl
        cases limit - ds.length with
        | zero => rfl
        | succ k => simp [hc]
  have hrun : ((ds ++ rest).take limit).takeWhile Char.isDigit = ds := by
    rw [htake, List.takeWhile_append_of_pos hds, hnone, List.append_nil]
  rw [digitRun, hrun, List.drop_left]

/-! ## 2.  Numerals -/

namespace Numeral

/-- Whether a numeral has digits where digits have to be, and no idle zero in front. -/
structure IsSpelled (n : Numeral) : Prop where
  whole_ne_nil : n.whole ≠ []
  whole_digits : ∀ c ∈ n.whole, c.isDigit = true
  noIdleZero : n.whole.head? = some '0' → n.whole = ['0']
  fraction_ne_nil : n.fraction ≠ some []
  fraction_digits : ∀ ds ∈ n.fraction, ∀ c ∈ ds, c.isDigit = true

/-- Whether a text does not go on with anything that could belong to a number. -/
def EndsNumber (rest : List Char) : Prop :=
  ∀ c ∈ rest.head?, c.isDigit = false ∧ c ≠ '.' ∧ c ≠ 'e' ∧ c ≠ 'E'

theorem EndsNumber.not_isDigit {rest : List Char} (h : EndsNumber rest) :
    ∀ c ∈ rest.head?, c.isDigit = false := fun c hc => (h c hc).1

/-- How the digits after the point are written. -/
def fractionChars : Option (List Char) → List Char
  | none => []
  | some ds => '.' :: ds

/-- How the exponent is written. -/
def powerChars : Option Int → List Char
  | none => []
  | some e => exponentChars e

theorem chars_eq (n : Numeral) :
    n.chars = (if n.negative then ['-'] else [])
      ++ (n.whole ++ (fractionChars n.fraction ++ powerChars n.exponent)) := by
  obtain ⟨negative, whole, _ | ds, _ | e⟩ := n <;>
    simp [chars, fractionChars, powerChars]

theorem whole?_append {ds rest : List Char} (hne : ds ≠ [])
    (hds : ∀ c ∈ ds, c.isDigit = true) (hzero : ds.head? = some '0' → ds = ['0'])
    (hrest : ∀ c ∈ rest.head?, c.isDigit = false) :
    whole? (ds ++ rest) = some (ds, rest) := by
  have hrun : digitRun (ds ++ rest).length (ds ++ rest) = (ds, rest) :=
    digitRun_append hds (by simp) (.inr hrest)
  unfold whole?
  rw [hrun]
  split
  · rename_i h
    exact absurd (congrArg Prod.fst h) hne
  · rename_i h
    have hlong : ds = '0' :: _ :: _ := congrArg Prod.fst h
    have hone := hzero (by rw [hlong]; rfl)
    rw [hlong] at hone
    simp at hone
  · rename_i h
    rw [h]

theorem fraction?_append {fraction : Option (List Char)} {rest : List Char}
    (hne : fraction ≠ some []) (hds : ∀ ds ∈ fraction, ∀ c ∈ ds, c.isDigit = true)
    (hrest : ∀ c ∈ rest.head?, c.isDigit = false ∧ c ≠ '.') :
    fraction? (fractionChars fraction ++ rest) = some (fraction, rest) := by
  cases fraction with
  | none =>
    show fraction? rest = _
    unfold fraction?
    split
    · exact absurd rfl (hrest '.' rfl).2
    · rfl
  | some ds =>
    have hrun : digitRun (ds ++ rest).length (ds ++ rest) = (ds, rest) :=
      digitRun_append (hds ds rfl) (by simp) (.inr fun c hc => (hrest c hc).1)
    rw [fractionChars, List.cons_append, fraction?.eq_1, hrun]
    split
    · rename_i h
      exact absurd (congrArg (some ∘ Prod.fst) h) hne
    · rename_i h
      obtain ⟨rfl, rfl⟩ := Prod.mk.inj h
      rfl

theorem magnitude?_append (n : Nat) {rest : List Char}
    (hrest : ∀ c ∈ rest.head?, c.isDigit = false) :
    exponent?.magnitude? (digits n ++ rest) = some ((n : Int), rest) := by
  have hrun : digitRun (digits n ++ rest).length (digits n ++ rest) = (digits n, rest) :=
    digitRun_append (fun c hc => isDigit_of_mem_digits hc) (by simp) (.inr hrest)
  unfold exponent?.magnitude?
  rw [hrun]
  split
  · rename_i h
    exact absurd (congrArg Prod.fst h) (digits_ne_nil n)
  · rename_i ds rest' _ h
    obtain ⟨rfl, rfl⟩ := Prod.mk.inj h
    rw [ofDigits_digits]

theorem exponent?_append (e : Int) {rest : List Char}
    (hrest : ∀ c ∈ rest.head?, c.isDigit = false) :
    exponent? ((if e < 0 then '-' else '+') :: (digits e.natAbs ++ rest)) = some (e, rest) := by
  by_cases he : e < 0
  · rw [if_pos he]
    have habs : -(e.natAbs : Int) = e := by omega
    show (exponent?.magnitude? _).map _ = _
    rw [magnitude?_append _ hrest, Option.map_some, habs]
  · rw [if_neg he]
    have habs : (e.natAbs : Int) = e := by omega
    show exponent?.magnitude? _ = _
    rw [magnitude?_append _ hrest, habs]

/-- An exponent starts with its mark, and nothing that follows a number starts with a digit or a
point. -/
theorem head?_powerChars_append (exponent : Option Int) {rest : List Char}
    (hrest : EndsNumber rest) :
    ∀ c ∈ (powerChars exponent ++ rest).head?, c.isDigit = false ∧ c ≠ '.' := by
  intro c hc
  cases exponent with
  | none => exact ⟨(hrest c hc).1, (hrest c hc).2.1⟩
  | some e =>
    obtain rfl : 'e' = c := by simpa [powerChars, exponentChars] using hc
    decide

theorem head?_fractionChars_append (fraction : Option (List Char)) {rest : List Char}
    (hrest : ∀ c ∈ rest.head?, c.isDigit = false ∧ c ≠ '.') :
    ∀ c ∈ (fractionChars fraction ++ rest).head?, c.isDigit = false := by
  intro c hc
  cases fraction with
  | none => exact (hrest c hc).1
  | some ds =>
    obtain rfl : '.' = c := by simpa [fractionChars] using hc
    rfl

theorem unsigned?_append {n : Numeral} (hn : n.IsSpelled) {rest : List Char}
    (hrest : EndsNumber rest) :
    read?.unsigned? n.negative
        (n.whole ++ (fractionChars n.fraction ++ (powerChars n.exponent ++ rest))) =
      some (n, rest) := by
  have hpower := head?_powerChars_append n.exponent hrest
  have hwhole := whole?_append hn.whole_ne_nil hn.whole_digits hn.noIdleZero
    (head?_fractionChars_append n.fraction hpower)
  have hfraction := fraction?_append hn.fraction_ne_nil hn.fraction_digits hpower
  rw [read?.unsigned?, hwhole]
  simp only [Option.bind_eq_bind, Option.bind_some, hfraction]
  obtain ⟨negative, whole, fraction, exponent⟩ := n
  cases exponent with
  | none =>
    simp only [powerChars, List.nil_append]
    split
    · exact absurd rfl (hrest 'e' rfl).2.2.1
    · exact absurd rfl (hrest 'E' rfl).2.2.2
    · rfl
  | some e =>
    simp only [powerChars, exponentChars, List.cons_append,
      exponent?_append e hrest.not_isDigit, Option.bind_some]

/-- **A numeral is read back from its text**, whatever follows that ends a number. -/
theorem read?_chars_append {n : Numeral} (hn : n.IsSpelled) {rest : List Char}
    (hrest : EndsNumber rest) : read? (n.chars ++ rest) = some (n, rest) := by
  have hunsigned := unsigned?_append hn hrest
  have hchars : n.chars ++ rest = (if n.negative then ['-'] else [])
      ++ (n.whole ++ (fractionChars n.fraction ++ (powerChars n.exponent ++ rest))) := by
    rw [chars_eq]
    simp only [List.append_assoc]
  rw [hchars]
  cases hnegative : n.negative with
  | true =>
    rw [hnegative] at hunsigned
    exact hunsigned
  | false =>
    rw [hnegative] at hunsigned
    obtain ⟨c, ds, hwhole⟩ := List.exists_cons_of_ne_nil hn.whole_ne_nil
    have hminus : c ≠ '-' := by
      rintro rfl
      have := hn.whole_digits '-' (by rw [hwhole]; exact List.mem_cons_self)
      simp at this
    rw [hwhole] at hunsigned ⊢
    simp only [Bool.false_eq_true, if_false, List.nil_append, List.cons_append] at hunsigned ⊢
    unfold read?
    split
    · rename_i h
      exact absurd (List.cons.inj h).1 hminus
    · exact hunsigned

theorem isSpelled_ofInt (n : Int) : (ofInt n).IsSpelled where
  whole_ne_nil := digits_ne_nil _
  whole_digits := fun _ hc => isDigit_of_mem_digits hc
  noIdleZero := by
    intro h
    by_cases hn : n.natAbs = 0
    · show digits n.natAbs = ['0']
      rw [hn]
      rfl
    · exact absurd h (head?_digits_ne hn)
  fraction_ne_nil := by simp [ofInt]
  fraction_digits := by simp [ofInt]

theorem toInt?_ofInt_natCast (n : Nat) : (ofInt n).toInt? = some (n : Int) := by
  have hpositive : decide ((n : Int) < 0) = false := decide_eq_false (by omega)
  have hspelled : ofDigits (digits (n : Int).natAbs) = n := by simp
  unfold toInt? ofInt
  dsimp only
  rw [hspelled, hpositive]
  rfl

end Numeral
end Decimal
end FleetScore
