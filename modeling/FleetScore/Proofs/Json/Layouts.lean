import FleetScore.Proofs.Decimal.NumeralText
import FleetScore.Proofs.Json.StringText

/-!
# Layouts of a tree, and that reading accepts them all

A *layout* of a tree is a text of it: its constants, numbers and strings are written in the one way
there is, and between the parts stand any blanks.  The two ways of printing differ in the blanks
only, so each of them prints layouts (`laysOut_prettyChars`); and the reader takes every layout
(`value?_of_laysOut`), so what was printed is read back (`read?_pretty`).

## Which trees can be written

A tree that was read may hold a string without content, and a tree that was put together may hold a
number that is no number, say with letters for digits.  Neither has a text.  `IsWritable` excludes
them, for all that stands in the tree.

## Fuel

Reading takes one unit of fuel a level and one an item.  A layout of `n` characters is read with
`2 · n + 1` units, its items with `2 · n + 2`: an item is at least a character, and what follows it
at least a comma shorter.  The induction is on how a text lays out a tree, so the fuel is a
hypothesis that each case splits among its parts by arithmetic.
-/

namespace FleetScore
namespace Json

open Decimal (Numeral)
open Decimal.Numeral (EndsNumber)

/-! ## 1.  Blanks -/

/-- Whether a text is nothing but blanks. -/
def AreBlank (b : List Char) : Prop := ∀ c ∈ b, isBlank c = true

theorem areBlank_nil : AreBlank [] := by simp [AreBlank]

theorem areBlank_newline (level : Nat) : AreBlank (newline level) := by
  intro c hc
  rcases List.mem_cons.1 hc with rfl | hc
  · decide
  · obtain rfl := List.eq_of_mem_replicate hc
    decide

theorem areBlank_space : AreBlank [' '] := by
  intro c hc
  obtain rfl := List.mem_singleton.1 hc
  decide

theorem skipBlanks_append {b : List Char} (hb : AreBlank b) {c : Char} (hc : isBlank c = false)
    (s : List Char) : skipBlanks (b ++ c :: s) = c :: s := by
  rw [skipBlanks, List.dropWhile_append_of_pos hb, List.dropWhile_cons_of_neg (by simp [hc])]

theorem not_number_of_isBlank {c : Char} (h : isBlank c = true) :
    c.isDigit = false ∧ c ≠ '.' ∧ c ≠ 'e' ∧ c ≠ 'E' := by
  simp only [isBlank, Bool.or_eq_true, beq_iff_eq] at h
  rcases h with ((rfl | rfl) | rfl) | rfl <;> decide

theorem endsNumber_append {b : List Char} (hb : AreBlank b) (c : Char)
    (hc : c.isDigit = false ∧ c ≠ '.' ∧ c ≠ 'e' ∧ c ≠ 'E') (s : List Char) :
    EndsNumber (b ++ c :: s) := by
  intro d hd
  cases b with
  | nil =>
    obtain rfl : c = d := by simpa using hd
    exact hc
  | cons e b =>
    obtain rfl : e = d := by simpa using hd
    exact not_number_of_isBlank (hb e List.mem_cons_self)

theorem endsNumber_of_areBlank {b : List Char} (hb : AreBlank b) : EndsNumber b :=
  fun c hc => not_number_of_isBlank (hb c (List.mem_of_mem_head? hc))

/-! ## 2.  Layouts -/

mutual

/-- Whether a text lays out a tree, without blanks around it. -/
inductive LaysOut : Json → List Char → Prop
  | null : LaysOut .null ['n', 'u', 'l', 'l']
  | verum : LaysOut (.bool true) ['t', 'r', 'u', 'e']
  | falsum : LaysOut (.bool false) ['f', 'a', 'l', 's', 'e']
  | number {n : Numeral} (hn : n.IsSpelled) : LaysOut (.number n) n.chars
  | string (content : String) : LaysOut (.string (some content)) (stringChars content)
  | emptyArray {b : List Char} (hb : AreBlank b) : LaysOut (.array []) ('[' :: (b ++ [']']))
  | array {items : List Json} {b s : List Char} (hb : AreBlank b) (h : ItemsLayOut items s) :
      LaysOut (.array items) ('[' :: (b ++ (s ++ [']'])))
  | emptyObject {b : List Char} (hb : AreBlank b) : LaysOut (.object []) ('{' :: (b ++ ['}']))
  | object {members : List (Option String × Json)} {b s : List Char} (hb : AreBlank b)
      (h : MembersLayOut members s) : LaysOut (.object members) ('{' :: (b ++ (s ++ ['}'])))

/-- Whether a text lays out the items of an array that is not empty, from the first item up to the
bracket. -/
inductive ItemsLayOut : List Json → List Char → Prop
  | last {s b : List Char} {j : Json} (h : LaysOut j s) (hb : AreBlank b) :
      ItemsLayOut [j] (s ++ b)
  | more {s b c t : List Char} {j : Json} {items : List Json} (h : LaysOut j s) (hb : AreBlank b)
      (hc : AreBlank c) (ht : ItemsLayOut items t) :
      ItemsLayOut (j :: items) (s ++ (b ++ ',' :: (c ++ t)))

/-- Whether a text lays out the members of an object that is not empty, from the first name up to
the brace. -/
inductive MembersLayOut : List (Option String × Json) → List Char → Prop
  | last {b c s d : List Char} {j : Json} (name : String) (hb : AreBlank b) (hc : AreBlank c)
      (h : LaysOut j s) (hd : AreBlank d) :
      MembersLayOut [(some name, j)] (stringChars name ++ (b ++ ':' :: (c ++ (s ++ d))))
  | more {b c s d e t : List Char} {j : Json} {members : List (Option String × Json)}
      (name : String) (hb : AreBlank b) (hc : AreBlank c)
      (h : LaysOut j s) (hd : AreBlank d) (he : AreBlank e) (ht : MembersLayOut members t) :
      MembersLayOut ((some name, j) :: members)
        (stringChars name ++ (b ++ ':' :: (c ++ (s ++ (d ++ ',' :: (e ++ t))))))

end

theorem exists_chars_eq_cons {n : Numeral} (hn : n.IsSpelled) :
    ∃ c s, n.chars = c :: s ∧ (c = '-' ∨ c.isDigit = true) := by
  obtain ⟨c, ds, hwhole⟩ := List.exists_cons_of_ne_nil hn.whole_ne_nil
  have hc : c.isDigit = true := hn.whole_digits c (by rw [hwhole]; exact List.mem_cons_self)
  rw [Numeral.chars_eq, hwhole]
  cases n.negative with
  | true => exact ⟨'-', _, rfl, .inl rfl⟩
  | false => exact ⟨c, _, rfl, .inr hc⟩

theorem not_isBlank_of_number {c : Char} (h : c = '-' ∨ c.isDigit = true) : isBlank c = false := by
  cases hblank : isBlank c with
  | false => rfl
  | true =>
    have hdigit := (not_number_of_isBlank hblank).1
    rcases h with rfl | h
    · exact absurd hblank (by decide)
    · simp [h] at hdigit

/-- A layout starts with a character that is neither blank nor a closing bracket. -/
theorem LaysOut.exists_eq_cons {j : Json} {s : List Char} (h : LaysOut j s) :
    ∃ c t, s = c :: t ∧ isBlank c = false ∧ c ≠ ']' := by
  cases h with
  | number hn =>
    obtain ⟨c, t, hs, hc⟩ := exists_chars_eq_cons hn
    refine ⟨c, t, hs, not_isBlank_of_number hc, ?_⟩
    rintro rfl
    revert hc
    decide
  | _ => exact ⟨_, _, rfl, by decide, by decide⟩

theorem ItemsLayOut.exists_eq_cons {items : List Json} {s : List Char} (h : ItemsLayOut items s) :
    ∃ c t, s = c :: t ∧ isBlank c = false ∧ c ≠ ']' := by
  cases h with
  | last h _ =>
    obtain ⟨c, t, rfl, hc⟩ := h.exists_eq_cons
    exact ⟨c, _, rfl, hc⟩
  | more h _ _ _ =>
    obtain ⟨c, t, rfl, hc⟩ := h.exists_eq_cons
    exact ⟨c, _, rfl, hc⟩

theorem MembersLayOut.exists_eq_cons {members : List (Option String × Json)} {s : List Char}
    (h : MembersLayOut members s) : ∃ t, s = '"' :: t := by
  cases h with
  | last => exact ⟨_, rfl⟩
  | more => exact ⟨_, rfl⟩

/-! ## 3.  Single steps of the reader -/

section Steps

variable {b : List Char} (hb : AreBlank b) (fuel : Nat) (s : List Char)

include hb

theorem value?_quote :
    value? (fuel + 1) (b ++ '"' :: s) = (stringBody? s).map fun r => (.string r.1, r.2) := by
  rw [value?, skipBlanks_append hb (by decide)]
  rfl

theorem value?_bracket :
    value? (fuel + 1) (b ++ '[' :: s) =
      match skipBlanks s with
      | ']' :: rest => some (.array [], rest)
      | rest => (items? fuel rest).map fun r => (.array r.1, r.2) := by
  rw [value?, skipBlanks_append hb (by decide)]
  rfl

theorem value?_brace :
    value? (fuel + 1) (b ++ '{' :: s) =
      match skipBlanks s with
      | '}' :: rest => some (.object [], rest)
      | rest => (members? fuel rest).map fun r => (.object r.1, r.2) := by
  rw [value?, skipBlanks_append hb (by decide)]
  rfl

/-- An array that goes on with anything but its end has items. -/
theorem value?_items {c : List Char} (hc : AreBlank c) {d : Char} (hd : isBlank d = false)
    (hne : d ≠ ']') :
    value? (fuel + 1) (b ++ '[' :: (c ++ d :: s)) =
      (items? fuel (d :: s)).map fun r => (.array r.1, r.2) := by
  rw [value?_bracket hb, skipBlanks_append hc hd]
  split
  · rename_i h
    exact absurd (List.cons.inj h).1 hne
  · rfl

theorem value?_members {c : List Char} (hc : AreBlank c) :
    value? (fuel + 1) (b ++ '{' :: (c ++ '"' :: s)) =
      (members? fuel ('"' :: s)).map fun r => (.object r.1, r.2) := by
  rw [value?_brace hb, skipBlanks_append hc (by decide)]
  rfl

theorem members?_name {c : List Char} (hc : AreBlank c) (name : String) :
    members? (fuel + 1) (b ++ (stringChars name ++ (c ++ ':' :: s))) =
      (value? fuel s).bind fun r =>
        match skipBlanks r.2 with
        | '}' :: rest => some ([(some name, r.1)], rest)
        | ',' :: rest => (members? fuel rest).map fun q => ((some name, r.1) :: q.1, q.2)
        | _ => none := by
  rw [members?, stringChars, List.cons_append, skipBlanks_append hb (by decide)]
  simp only [List.append_assoc, List.cons_append, List.nil_append, stringBody?_append,
    Option.bind_eq_bind, Option.bind_some]
  rw [skipBlanks_append hc (by decide)]
  rfl

theorem value?_numeral {c : Char} (hc : c = '-' ∨ c.isDigit = true) :
    value? (fuel + 1) (b ++ c :: s) =
      (Numeral.read? (c :: s)).map fun r => (.number r.1, r.2) := by
  rw [value?, skipBlanks_append hb (not_isBlank_of_number hc)]
  split
  case h_7 => rfl
  all_goals
    rename_i h
    obtain ⟨rfl, -⟩ := List.cons.inj h
    exact absurd hc (by decide)

end Steps

/-! ## 4.  The reader takes layouts -/

mutual

/-- **A value is read off each of its layouts**, whatever blanks stand before it, and whatever
follows that ends a number. -/
theorem value?_of_laysOut {j : Json} {s : List Char} (h : LaysOut j s) {b rest : List Char}
    (hb : AreBlank b) (hrest : EndsNumber rest) (fuel : Nat) (hfuel : 2 * s.length + 1 ≤ fuel) :
    value? fuel (b ++ (s ++ rest)) = some (j, rest) := by
  obtain ⟨fuel, rfl⟩ : ∃ f, fuel = f + 1 := ⟨fuel - 1, by omega⟩
  cases h with
  | null =>
    rw [value?]
    simp only [List.cons_append]
    rw [skipBlanks_append hb (by decide)]
    rfl
  | verum =>
    rw [value?]
    simp only [List.cons_append]
    rw [skipBlanks_append hb (by decide)]
    rfl
  | falsum =>
    rw [value?]
    simp only [List.cons_append]
    rw [skipBlanks_append hb (by decide)]
    rfl
  | number hn =>
    obtain ⟨c, t, hs, hc⟩ := exists_chars_eq_cons hn
    have hread := Numeral.read?_chars_append hn hrest
    rw [hs, List.cons_append] at hread ⊢
    rw [value?_numeral hb _ _ hc, hread]
    rfl
  | string content =>
    rw [stringChars, List.cons_append, List.append_assoc, value?_quote hb, List.cons_append,
      List.nil_append, stringBody?_append]
    rfl
  | emptyArray hc =>
    rw [List.cons_append, List.append_assoc, value?_bracket hb, List.cons_append,
      skipBlanks_append hc (by decide)]
    rfl
  | emptyObject hc =>
    rw [List.cons_append, List.append_assoc, value?_brace hb, List.cons_append,
      skipBlanks_append hc (by decide)]
    rfl
  | array hc hitems =>
    obtain ⟨d, t, hs, hd, hne⟩ := hitems.exists_eq_cons
    have hread := items?_of_itemsLayOut hitems areBlank_nil rest fuel
      (by simp at hfuel; omega)
    rw [hs, List.nil_append, List.cons_append] at hread
    rw [hs]
    simp only [List.cons_append, List.append_assoc, List.nil_append]
    rw [value?_items hb _ _ hc hd hne, hread]
    rfl
  | object hc hmembers =>
    obtain ⟨t, hs⟩ := hmembers.exists_eq_cons
    have hread := members?_of_membersLayOut hmembers areBlank_nil rest fuel
      (by simp at hfuel; omega)
    rw [hs, List.nil_append, List.cons_append] at hread
    rw [hs]
    simp only [List.cons_append, List.append_assoc, List.nil_append]
    rw [value?_members hb _ _ hc, hread]
    rfl

theorem items?_of_itemsLayOut {items : List Json} {s : List Char} (h : ItemsLayOut items s)
    {b : List Char} (hb : AreBlank b) (rest : List Char) (fuel : Nat)
    (hfuel : 2 * s.length + 2 ≤ fuel) :
    items? fuel (b ++ (s ++ ']' :: rest)) = some (items, rest) := by
  obtain ⟨fuel, rfl⟩ : ∃ f, fuel = f + 1 := ⟨fuel - 1, by omega⟩
  cases h with
  | last h hc =>
    have hvalue := value?_of_laysOut h hb (endsNumber_append hc ']' (by decide) rest) fuel
      (by simp at hfuel; omega)
    rw [items?, List.append_assoc, hvalue]
    simp only [Option.bind_eq_bind, Option.bind_some]
    rw [skipBlanks_append hc (by decide)]
    rfl
  | @more _ _ d t _ _ h hc hd ht =>
    have hvalue := value?_of_laysOut h hb
      (endsNumber_append hc ',' (by decide) (d ++ (t ++ ']' :: rest))) fuel (by simp at hfuel; omega)
    have hitems := items?_of_itemsLayOut ht hd rest fuel (by simp at hfuel; omega)
    simp only [List.append_assoc, List.cons_append]
    rw [items?, hvalue]
    simp only [Option.bind_eq_bind, Option.bind_some]
    rw [skipBlanks_append hc (by decide)]
    simp only [hitems, Option.map_some]

theorem members?_of_membersLayOut {members : List (Option String × Json)} {s : List Char}
    (h : MembersLayOut members s) {b : List Char} (hb : AreBlank b) (rest : List Char) (fuel : Nat)
    (hfuel : 2 * s.length + 2 ≤ fuel) :
    members? fuel (b ++ (s ++ '}' :: rest)) = some (members, rest) := by
  obtain ⟨fuel, rfl⟩ : ∃ f, fuel = f + 1 := ⟨fuel - 1, by omega⟩
  cases h with
  | last name hc hd h he =>
    have hvalue := value?_of_laysOut h hd (endsNumber_append he '}' (by decide) rest) fuel
      (by simp at hfuel; omega)
    simp only [List.append_assoc, List.cons_append]
    rw [members?_name hb _ _ hc, hvalue, Option.bind_some, skipBlanks_append he (by decide)]
    rfl
  | @more _ _ _ _ e t _ _ name hc hd h he hf ht =>
    have hvalue := value?_of_laysOut h hd
      (endsNumber_append he ',' (by decide) (e ++ (t ++ '}' :: rest))) fuel (by simp at hfuel; omega)
    have hmembers := members?_of_membersLayOut ht hf rest fuel (by simp at hfuel; omega)
    simp only [List.append_assoc, List.cons_append]
    rw [members?_name hb _ _ hc, hvalue, Option.bind_some, skipBlanks_append he (by decide)]
    simp only [hmembers, Option.map_some]

end

/-- What stands at the start of a text is read, if what follows ends a number. -/
theorem leading?_of_laysOut {j : Json} {s : List Char} (h : LaysOut j s) {rest : List Char}
    (hrest : EndsNumber rest) : leading? (String.ofList (s ++ rest)) = some (j, rest) := by
  have hvalue := value?_of_laysOut h areBlank_nil hrest (2 * (s ++ rest).length + 2)
    (by simp; omega)
  rw [leading?, String.toList_ofList]
  exact hvalue

/-- **A document is read off each of its layouts.** -/
theorem read?_of_laysOut {j : Json} {s : List Char} (h : LaysOut j s) :
    read? (String.ofList s) = some j := by
  have hleading := leading?_of_laysOut h (endsNumber_of_areBlank areBlank_nil)
  rw [List.append_nil] at hleading
  rw [read?, hleading]
  rfl

/-! ## 5.  What is printed is a layout -/

mutual

/-- Whether a tree has a text: every number in it is spelled as numbers are, and every string has
content. -/
def IsWritable : Json → Prop
  | .null => True
  | .bool _ => True
  | .number n => n.IsSpelled
  | .string content => content ≠ none
  | .array items => AreWritable items
  | .object members => MembersAreWritable members

/-- `IsWritable` for each item of a list. -/
def AreWritable : List Json → Prop
  | [] => True
  | j :: rest => IsWritable j ∧ AreWritable rest

/-- `IsWritable` for each value of a list of members, whose names must have content. -/
def MembersAreWritable : List (Option String × Json) → Prop
  | [] => True
  | (name, j) :: rest => name ≠ none ∧ IsWritable j ∧ MembersAreWritable rest

end

theorem areWritable_iff {items : List Json} :
    AreWritable items ↔ ∀ j ∈ items, IsWritable j := by
  induction items with
  | nil => simp [AreWritable]
  | cons j items ih => simp [AreWritable, ih]

theorem isWritable_record {members : List (String × Json)} (h : ∀ m ∈ members, IsWritable m.2) :
    IsWritable (record members) := by
  rw [record, IsWritable]
  induction members with
  | nil => trivial
  | cons m members ih =>
    have hm := h m List.mem_cons_self
    have hrest := ih fun m' hm' => h m' (List.mem_cons_of_mem _ hm')
    exact ⟨Option.some_ne_none _, hm, hrest⟩

theorem isWritable_text (s : String) : IsWritable (.text s) := by simp [text, IsWritable]

theorem isWritable_int (n : Int) : IsWritable (.int n) := Numeral.isSpelled_ofInt n

theorem isWritable_list {α : Type} {encode : α → Json} {items : List α}
    (h : ∀ a ∈ items, IsWritable (encode a)) : IsWritable (list encode items) := by
  rw [list, IsWritable, areWritable_iff]
  intro j hj
  obtain ⟨a, ha, rfl⟩ := List.mem_map.1 hj
  exact h a ha

mutual

/-- **The pretty text of a tree lays it out.** -/
theorem laysOut_prettyChars (level : Nat) :
    (j : Json) → IsWritable j → LaysOut j (prettyChars level j)
  | .null, _ => .null
  | .bool true, _ => .verum
  | .bool false, _ => .falsum
  | .number _, h => .number h
  | .string none, h => absurd rfl h
  | .string (some content), _ => .string content
  | .array [], _ => .emptyArray areBlank_nil
  | .array (j :: items), h => by
      have hitems := itemsLayOut_prettyItems (level + 1) (j :: items) (by simp) h
        (areBlank_newline level)
      have hlayout := LaysOut.array (areBlank_newline (level + 1)) hitems
      simpa [prettyChars] using hlayout
  | .object [], _ => .emptyObject areBlank_nil
  | .object (m :: members), h => by
      have hmembers := membersLayOut_prettyMembers (level + 1) (m :: members) (by simp) h
        (areBlank_newline level)
      have hlayout := LaysOut.object (areBlank_newline (level + 1)) hmembers
      simpa [prettyChars] using hlayout

theorem itemsLayOut_prettyItems (level : Nat) :
    (items : List Json) → items ≠ [] → AreWritable items → {b : List Char} → AreBlank b →
      ItemsLayOut items (prettyItems level items ++ b)
  | [], hne, _, _, _ => absurd rfl hne
  | [j], _, h, _, hb => .last (laysOut_prettyChars level j h.1) hb
  | j :: k :: items, _, h, b, hb => by
      have hrest := itemsLayOut_prettyItems level (k :: items) (by simp) h.2 hb
      have hlayout := ItemsLayOut.more (laysOut_prettyChars level j h.1) areBlank_nil
        (areBlank_newline level) hrest
      simpa [prettyItems] using hlayout

theorem membersLayOut_prettyMembers (level : Nat) :
    (members : List (Option String × Json)) → members ≠ [] → MembersAreWritable members →
      {b : List Char} → AreBlank b → MembersLayOut members (prettyMembers level members ++ b)
  | [], hne, _, _, _ => absurd rfl hne
  | (none, _) :: _, _, h, _, _ => absurd rfl h.1
  | [(some name, j)], _, h, b, hb => by
      have hlayout := MembersLayOut.last name areBlank_nil areBlank_space
        (laysOut_prettyChars level j h.2.1) hb
      simpa [prettyMembers] using hlayout
  | (some name, j) :: m :: members, _, h, b, hb => by
      have hrest := membersLayOut_prettyMembers level (m :: members) (by simp) h.2.2 hb
      have hlayout := MembersLayOut.more name areBlank_nil areBlank_space
        (laysOut_prettyChars level j h.2.1) areBlank_nil (areBlank_newline level) hrest
      simpa [prettyMembers] using hlayout

end

/-- **What is written prettily is read back.** -/
theorem read?_pretty {j : Json} (h : IsWritable j) : read? j.pretty = some j :=
  read?_of_laysOut (laysOut_prettyChars 0 j h)

theorem leadingStrict?_pretty {j : Json} (h : IsWritable j)
    (hstrict : j.isStrict depthLimit = true) : leadingStrict? j.pretty = some (j, []) := by
  have hleading := leading?_of_laysOut (laysOut_prettyChars 0 j h)
    (endsNumber_of_areBlank areBlank_nil)
  rw [List.append_nil] at hleading
  have hread : leading? j.pretty = some (j, []) := hleading
  simp [leadingStrict?, hread, hstrict]

end Json
end FleetScore
