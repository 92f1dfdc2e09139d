/-!
# Ascending lists without repetition

A finite set that is shown to anybody is shown in one order.  Here such a set is a
list in strictly ascending order, built by inserting one member after the other;
what was inserted twice is there once.  `grouped` splits a list by a key and
answers the groups in ascending order of their keys, each group in the order of
the list.

The two main facts are that `ascending` keeps exactly the members of the list, and
that the keys of `grouped` are exactly the keys that occur.
-/

namespace FleetScore

variable {α κ : Type}

section

variable [DecidableEq κ] [LT κ] [DecidableLT κ]

/-- Inserts a member into an ascending list, unless it is there. -/
def insertAscending (a : κ) : List κ → List κ
  | [] => [a]
  | b :: rest =>
      if a < b then a :: b :: rest
      else if a = b then b :: rest
      else b :: insertAscending a rest

/-- The distinct members of a list in ascending order. -/
def ascending (xs : List κ) : List κ := xs.foldr insertAscending []

/-- The members that occur in a list more than once, in ascending order. -/
def repeated (xs : List κ) : List κ := ascending (xs.filter fun x => decide (1 < xs.count x))

/-- The groups of a list by a key, in ascending order of the keys; each group keeps
the order of the list. -/
def grouped (key : α → κ) (xs : List α) : List (κ × List α) :=
  (ascending (xs.map key)).map fun k => (k, xs.filter fun x => decide (key x = k))

@[simp] theorem mem_insertAscending {a x : κ} {xs : List κ} :
    x ∈ insertAscending a xs ↔ x = a ∨ x ∈ xs := by
  induction xs with
  | nil => simp [insertAscending]
  | cons b rest ih =>
    rw [insertAscending]
    split
    · simp
    · split
      · rename_i h
        subst h
        simp
      · rw [List.mem_cons, ih, List.mem_cons]
        constructor
        · rintro (h | h | h)
          · exact Or.inr (Or.inl h)
          · exact Or.inl h
          · exact Or.inr (Or.inr h)
        · rintro (h | h | h)
          · exact Or.inr (Or.inl h)
          · exact Or.inl h
          · exact Or.inr (Or.inr h)

/-- **An ascending list has exactly the members of the list it was built from.** -/
@[simp] theorem mem_ascending {x : κ} {xs : List κ} : x ∈ ascending xs ↔ x ∈ xs := by
  induction xs with
  | nil => simp [ascending]
  | cons a rest ih =>
    have step : ascending (a :: rest) = insertAscending a (ascending rest) := rfl
    rw [step, mem_insertAscending, ih, List.mem_cons]

/-- **The keys of the groups are the distinct keys of the list, ascending.** -/
theorem grouped_map_fst (key : α → κ) (xs : List α) :
    (grouped key xs).map Prod.fst = ascending (xs.map key) := by
  rw [grouped, List.map_map]
  exact List.map_id _

end

end FleetScore
