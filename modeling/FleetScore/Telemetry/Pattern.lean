/-!
# Texts that are patterns

The value of a field may be held against a pattern, a regular expression.  Nothing is
matched here.  All that is asked is whether a text is a pattern at all, that is, whether
its brackets match, whether every sign of repetition has something to repeat, and whether
no backslash stands at the end.

A pattern is scanned once, from left to right.
-/

namespace FleetScore
namespace Pattern

/-- What a scan remembers of the part it has read: how many groups and classes of characters are
open, whether something stands before that can be repeated, whether a group or a class has just
been opened, and whether the next character stands for itself.  Classes may stand in one
another. -/
structure Scan where
  groups : Nat
  classes : Nat
  repeatable : Bool
  fresh : Bool
  escaped : Bool
  deriving DecidableEq, Repr

/-- Before the first character. -/
def Scan.start : Scan := ⟨0, 0, false, false, false⟩

/-- After something that can be repeated. -/
def Scan.passed (s : Scan) : Scan := { s with repeatable := true, fresh := false, escaped := false }

/-- One character in a class; a bracket that closes right after one that opens stands for
itself. -/
def Scan.inClass (s : Scan) (c : Char) : Scan :=
  if c = '[' then { s with classes := s.classes + 1, fresh := true }
  else if c = '^' ∧ s.fresh then s
  else if c = ']' ∧ !s.fresh then { s with classes := s.classes - 1, repeatable := true }
  else { s with fresh := false }

/-- One character outside of classes; a question mark right after a bracket that opens a
group belongs to it. -/
def Scan.outside? (s : Scan) (c : Char) : Option Scan :=
  match c with
  | '(' => some { s with groups := s.groups + 1, repeatable := false, fresh := true }
  | ')' => if s.groups = 0 then none else some { s.passed with groups := s.groups - 1 }
  | '[' => some { s with classes := 1, fresh := true }
  | '|' => some { s with repeatable := false, fresh := false }
  | '?' => if s.repeatable || s.fresh then some { s with fresh := false } else none
  | '*' => if s.repeatable then some s else none
  | '+' => if s.repeatable then some s else none
  | '\x7b' => none
  | _ => some s.passed

/-- One character. -/
def Scan.step? (s : Scan) (c : Char) : Option Scan :=
  if s.escaped then some s.passed
  else if c = '\\' then some { s with escaped := true }
  else if s.classes = 0 then s.outside? c
  else some (s.inClass c)

/-- Whether nothing is left open. -/
def Scan.isComplete (s : Scan) : Bool := s.groups == 0 && s.classes == 0 && !s.escaped

/-- Whether a text is a pattern.  Counted repetition is not among the signs that are
understood. -/
def isPattern (s : String) : Bool :=
  match s.toList.foldlM Scan.step? Scan.start with
  | some s => s.isComplete
  | none => false

end Pattern
end FleetScore
