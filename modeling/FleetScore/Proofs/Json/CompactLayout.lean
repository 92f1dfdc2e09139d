import FleetScore.Proofs.Json.Layouts

/-!
# Compact texts, and blanks around a document

`Layouts` says that the pretty text of a tree is a layout of it.  The compact text is another, the
one without blanks (`laysOut_chars`).  A document may also stand between blanks, and then it is read
all the same (`readStrict?_of_laysOut`).
-/

namespace FleetScore
namespace Json

/-! ## 1.  The compact text is a layout -/

mutual

/-- **The compact text of a tree lays it out.** -/
theorem laysOut_chars : (j : Json) → IsWritable j → LaysOut j (chars j)
  | .null, _ => .null
  | .bool true, _ => .verum
  | .bool false, _ => .falsum
  | .number _, h => .number h
  | .string none, h => absurd rfl h
  | .string (some content), _ => .string content
  | .array [], _ => .emptyArray areBlank_nil
  | .array (j :: items), h => .array areBlank_nil (itemsLayOut_chars (j :: items) (by simp) h)
  | .object [], _ => .emptyObject areBlank_nil
  | .object (m :: members), h =>
      .object areBlank_nil (membersLayOut_chars (m :: members) (by simp) h)

theorem itemsLayOut_chars :
    (items : List Json) → items ≠ [] → AreWritable items → ItemsLayOut items (itemsChars items)
  | [], hne, _ => absurd rfl hne
  | [j], _, h => by
      have hlayout := ItemsLayOut.last (laysOut_chars j h.1) areBlank_nil
      rwa [List.append_nil] at hlayout
  | j :: k :: items, _, h =>
      .more (laysOut_chars j h.1) areBlank_nil areBlank_nil
        (itemsLayOut_chars (k :: items) (by simp) h.2)

theorem membersLayOut_chars :
    (members : List (Option String × Json)) → members ≠ [] → MembersAreWritable members →
      MembersLayOut members (membersChars members)
  | [], hne, _ => absurd rfl hne
  | (none, _) :: _, _, h => absurd rfl h.1
  | [(some name, j)], _, h => by
      have hlayout := MembersLayOut.last name areBlank_nil areBlank_nil (laysOut_chars j h.2.1)
        areBlank_nil
      rwa [List.append_nil] at hlayout
  | (some name, j) :: m :: members, _, h =>
      .more name areBlank_nil areBlank_nil (laysOut_chars j h.2.1) areBlank_nil areBlank_nil
        (membersLayOut_chars (m :: members) (by simp) h.2.2)

end

/-! ## 2.  Strict documents -/

/-- A text is a strict document if a strict value stands at its start and nothing behind it. -/
theorem readStrict?_eq_some_iff {text : String} {j : Json} :
    readStrict? text = some j ↔
      ∃ rest, leadingStrict? text = some (j, rest) ∧ isEnd rest = true := by
  rw [readStrict?]
  constructor
  · intro h
    obtain ⟨⟨value, rest⟩, hleading, hvalue⟩ := Option.bind_eq_some_iff.mp h
    obtain ⟨hend, hsome⟩ := Option.ite_none_right_eq_some.mp hvalue
    obtain rfl := Option.some.inj hsome
    exact ⟨rest, hleading, hend⟩
  · rintro ⟨rest, hleading, hend⟩
    rw [hleading]
    exact if_pos hend

theorem skipBlanks_of_areBlank {b : List Char} (hb : AreBlank b) : skipBlanks b = [] := by
  rw [skipBlanks, ← List.append_nil b, List.dropWhile_append_of_pos hb, List.dropWhile_nil]

/-- **A strict document is read off each of its layouts**, blanks around it aside. -/
theorem readStrict?_of_laysOut {j : Json} {s : List Char} (h : LaysOut j s)
    (hstrict : j.isStrict depthLimit = true) {b c : List Char} (hb : AreBlank b)
    (hc : AreBlank c) : readStrict? (String.ofList (b ++ (s ++ c))) = some j := by
  refine readStrict?_eq_some_iff.mpr ⟨c, ?_, ?_⟩
  · have hvalue := value?_of_laysOut h hb (endsNumber_of_areBlank hc)
      (2 * (b ++ (s ++ c)).length + 2) (by simp; omega)
    have hleading : leading? (String.ofList (b ++ (s ++ c))) = some (j, c) := by
      rw [leading?, String.toList_ofList]
      exact hvalue
    rw [leadingStrict?, hleading]
    exact if_pos hstrict
  · have hnone := skipBlanks_of_areBlank hc
    rw [isEnd, hnone]
    rfl

/-- **What is written compactly or prettily is read back**, by a strict reader, too. -/
theorem readStrict?_written {j : Json} (h : IsWritable j) (hstrict : j.isStrict depthLimit = true) :
    readStrict? j.compact = some j ∧ readStrict? j.pretty = some j := by
  have hcompact := readStrict?_of_laysOut (laysOut_chars j h) hstrict areBlank_nil areBlank_nil
  have hpretty :=
    readStrict?_of_laysOut (laysOut_prettyChars 0 j h) hstrict areBlank_nil areBlank_nil
  rw [List.nil_append, List.append_nil] at hcompact hpretty
  exact ⟨hcompact, hpretty⟩

theorem readStrict?_line {j : Json} (h : IsWritable j) (hstrict : j.isStrict depthLimit = true) :
    readStrict? (j.pretty ++ "\n") = some j := by
  have hread :=
    readStrict?_of_laysOut (laysOut_prettyChars 0 j h) hstrict areBlank_nil (areBlank_newline 0)
  rw [List.nil_append, String.ofList_append] at hread
  exact hread

end Json
end FleetScore
