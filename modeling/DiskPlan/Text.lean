/-!
# Cutting Texts

The four cuts that every token of the partitioning language is read with.

A token is taken apart at fixed characters, never by a pattern, so the cuts are
stated on the characters of a text: `List.splitOn` and its lemmas then apply to
`fields` as they stand, and a cut is undone by appending what it returned.

## Main definitions

* `fields`: The pieces of a text between the occurrences of a separator.
* `cut`: The text before the first separator, and the text after it.
* `after?`: What follows a given beginning.
* `before?`: What precedes a given ending.

## Theorems

* `fields_ne_nil`: A text always has at least one piece.
* `after?_append`: A beginning that was put in front is found again.
* `after?_eq_some_iff`: What follows a given beginning.
-/

namespace DiskPlan

namespace Text

/-- The pieces of a text between the occurrences of `sep`. A text in which the
    separator does not occur is its own single piece, the empty text too. -/
def fields (sep : Char) (s : String) : List String :=
  (s.toList.splitOn sep).map String.ofList

/-- The text before the first `sep` and, if there is one, the text after it. -/
def cut (sep : Char) (s : String) : String × Option String :=
  (String.ofList (s.toList.takeWhile (· != sep)),
    match s.toList.dropWhile (· != sep) with
    | [] => none
    | _ :: rest => some (String.ofList rest))

/-- What follows `head`, if the text begins with it. -/
def after? (head s : String) : Option String :=
  if head.toList.isPrefixOf s.toList then
    some (String.ofList (s.toList.drop head.toList.length))
  else
    none

/-- What precedes `tail`, if the text ends with it. -/
def before? (tail s : String) : Option String :=
  if tail.toList.isSuffixOf s.toList then
    some (String.ofList (s.toList.take (s.toList.length - tail.toList.length)))
  else
    none

/-- The first `n` characters of a text, or all of them if there are fewer. -/
def first (n : Nat) (s : String) : String :=
  String.ofList (s.toList.take n)

theorem fields_ne_nil (sep : Char) (s : String) : fields sep s ≠ [] := by
  simp [fields, List.splitOn_ne_nil]

theorem after?_append (head s : String) : after? head (head ++ s) = some s := by
  have h : head.toList.isPrefixOf (head.toList ++ s.toList) = true := by
    rw [List.isPrefixOf_iff_prefix]
    exact List.prefix_append _ _
  simp [after?, h]

theorem after?_eq_some_iff {head s rest : String} :
    after? head s = some rest ↔ s = head ++ rest := by
  constructor
  · intro h
    unfold after? at h
    split at h
    · rename_i hprefix
      rcases List.isPrefixOf_iff_prefix.mp hprefix with ⟨cs, hcs⟩
      rw [← hcs, List.drop_left, Option.some.injEq] at h
      rw [← h, ← String.toList_inj, String.toList_append, String.toList_ofList, hcs]
    · exact absurd h (by simp only [reduceCtorEq, not_false_eq_true])
  · rintro rfl
    exact after?_append head rest

end Text

end DiskPlan
