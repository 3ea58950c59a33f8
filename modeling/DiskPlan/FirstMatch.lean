/-!
# The First Match in a List

A disk is found by name and a partition by number, and in both cases the first
one of the list counts. `updateFirst` changes that one and keeps the others,
their order and their number.

## Main definitions

* `updateFirst`: A list with its first match changed.

## Theorems

* `length_updateFirst`: Nothing is added and nothing lost.
* `mem_updateFirst`: An element of the result is old, or the changed match.
-/

namespace DiskPlan

variable {α β : Type}

/-- A list with the first element that satisfies `p` changed by `f`. -/
def updateFirst (p : α → Bool) (f : α → α) : List α → List α
  | [] => []
  | a :: rest => if p a then f a :: rest else a :: updateFirst p f rest

@[simp]
theorem length_updateFirst (p : α → Bool) (f : α → α) (as : List α) :
    (updateFirst p f as).length = as.length := by
  induction as with
  | nil => rfl
  | cons a rest ih =>
    unfold updateFirst
    split <;> simp [ih]

theorem mem_updateFirst {p : α → Bool} {f : α → α} {b : α} {as : List α}
    (h : b ∈ updateFirst p f as) : b ∈ as ∨ ∃ a ∈ as, p a = true ∧ f a = b := by
  induction as with
  | nil => simp [updateFirst] at h
  | cons a rest ih =>
    unfold updateFirst at h
    split at h
    -- The first match: the changed element, or one of those after it.
    · rename_i hp
      rcases List.mem_cons.mp h with rfl | h
      · exact .inr ⟨a, List.mem_cons_self, hp, rfl⟩
      · exact .inl (List.mem_cons_of_mem _ h)
    · rcases List.mem_cons.mp h with rfl | h
      · exact .inl List.mem_cons_self
      · rcases ih h with h | ⟨c, hc, hp, rfl⟩
        · exact .inl (List.mem_cons_of_mem _ h)
        · exact .inr ⟨c, List.mem_cons_of_mem _ hc, hp, rfl⟩

end DiskPlan
