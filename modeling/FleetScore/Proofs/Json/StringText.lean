import FleetScore.Json.Printer
import FleetScore.Json.Reader

/-!
# Strings that are written are read back

A string is read in two steps, and each of them undoes a part of what writing did.  The first step
turns every written character back into one *unit*: a control character without a letter of its own
comes back as the number it was written by, all others come back as themselves (`unitOf`).  The
second step joins units to characters.  No number that was written is half of a surrogate pair, so
joining never looks at two units at once (`joinUnits_code`).

What follows the closing quote is never looked at (`stringBody?_append`).
-/

namespace FleetScore
namespace Json

/-! ## 1.  Numbers in escapes -/

/-- The number spelled by the digits of an escape, if there are four of them. -/
def codeOf? : List Char → Option Nat
  | [a, b, c, d] => hexCode? a b c d
  | _ => none

/-- The control characters are written by a number that reads back. -/
theorem codeOf?_hexPadded {n : Nat} (h : n < 0x20) :
    codeOf? (Text.hexPadded 4 n).toList = some n := by
  have hall : ∀ n < 0x20, codeOf? (Text.hexPadded 4 n).toList = some n := by decide
  exact hall n h

theorem codeUnits?_code {ds : List Char} {n : Nat} (h : codeOf? ds = some n) (rest : List Char) :
    codeUnits? ('\\' :: 'u' :: (ds ++ rest)) =
      (codeUnits? rest).map fun r => (.code n :: r.1, r.2) := by
  unfold codeOf? at h
  split at h
  · rename_i a b c d
    simp only [List.cons_append, List.nil_append]
    rw [codeUnits?, h]
    cases codeUnits? rest <;> rfl
  · simp at h

/-! ## 2.  Characters -/

/-- The unit that a written character is read as. -/
def unitOf (c : Char) : CodeUnit :=
  if c.toNat < 0x20 ∧ c ∉ ['\x08', '\t', '\n', '\x0c', '\r'] then .code c.toNat else .char c

theorem codeUnits?_plain {c : Char} (hquote : c ≠ '"') (hslash : c ≠ '\\')
    (hprint : ¬ c.toNat < 0x20) (rest : List Char) :
    codeUnits? (c :: rest) = (codeUnits? rest).map fun r => (.char c :: r.1, r.2) := by
  have hplain : ¬ (c.toNat < 0x20 ∨ c = '\\') := by
    rintro (h | h)
    · exact hprint h
    · exact hslash h
  rw [codeUnits?, if_neg hplain]
  · cases codeUnits? rest <;> rfl
  · exact hquote
  · intro _ _ _ _ _ h
    exact absurd h hslash
  · intro _ _ h
    exact absurd h hslash

/-- **A written character is read as one unit.** -/
theorem codeUnits?_escapeChar (c : Char) (rest : List Char) :
    codeUnits? (escapeChar c ++ rest) =
      (codeUnits? rest).map fun r => (unitOf c :: r.1, r.2) := by
  unfold escapeChar
  split
  case h_8 =>
    rename_i hquote hslash h8 htab hline hfeed hreturn
    split
    · rename_i hcontrol
      have hunit : unitOf c = .code c.toNat := if_pos ⟨hcontrol, by simp_all⟩
      rw [hunit]
      exact codeUnits?_code (codeOf?_hexPadded hcontrol) rest
    · rename_i hcontrol
      have hunit : unitOf c = .char c := if_neg fun h => hcontrol h.1
      rw [hunit]
      exact codeUnits?_plain hquote hslash hcontrol rest
  -- the seven characters that are escaped by a letter
  all_goals
    simp only [List.cons_append, List.nil_append]
    rw [codeUnits?]
    · cases codeUnits? rest <;> rfl
    · simp

theorem codeUnits?_flatMap (cs rest : List Char) :
    codeUnits? (cs.flatMap escapeChar ++ '"' :: rest) = some (cs.map unitOf, rest) := by
  induction cs with
  | nil => rfl
  | cons c cs ih =>
    rw [List.flatMap_cons, List.append_assoc, codeUnits?_escapeChar, ih]
    rfl

/-! ## 3.  Joining -/

/-- A number below the surrogates is a character, whatever follows. -/
theorem joinUnits_code {n : Nat} (h : n < 0xd800) (units : List CodeUnit) :
    joinUnits (.code n :: units) = (joinUnits units).map (Char.ofNat n :: ·) := by
  have hleading : isLeading n = false := decide_eq_false (by omega)
  have htrailing : isTrailing n = false := decide_eq_false (by omega)
  rcases units with _ | ⟨c | m, units⟩ <;> simp [joinUnits, hleading, htrailing]

theorem joinUnits_map_unitOf (cs : List Char) : joinUnits (cs.map unitOf) = some cs := by
  induction cs with
  | nil => rfl
  | cons c cs ih =>
    rw [List.map_cons]
    by_cases hc : c.toNat < 0x20 ∧ c ∉ ['\x08', '\t', '\n', '\x0c', '\r']
    · have hunit : unitOf c = .code c.toNat := if_pos hc
      rw [hunit, joinUnits_code (by omega), ih, Option.map_some, Char.ofNat_toNat]
    · have hunit : unitOf c = .char c := if_neg hc
      rw [hunit, joinUnits, ih, Option.map_some]

/-- **A string is read back from its text**, whatever follows its closing quote. -/
theorem stringBody?_append (content : String) (rest : List Char) :
    stringBody? (content.toList.flatMap escapeChar ++ '"' :: rest) =
      some (some content, rest) := by
  rw [stringBody?, codeUnits?_flatMap, Option.map_some, joinUnits_map_unitOf, Option.map_some,
    String.ofList_toList]

end Json
end FleetScore
