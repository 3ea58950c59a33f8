import DiskPlan.Proofs.ModestTokens
import DiskPlan.Settings

/-!
# Resolved Paths

What resolving leaves of a path, and what it leaves alone.

A path is written in its normal form, and the normal form is read as the same path. So a
path can be kept in a file as a text. Whether it means the same when the file is read
depends on more, since a path is resolved whenever it is read. A resolved path begins at
the root and has no `..` in it, and such a path resolving leaves as it is, whatever the
home and the working directory are by then.

A null character is refused wherever it stands. It cannot come into a path by resolving it,
unless it has been in the name of a directory before.

## Main definitions

* `Path.IsNamed`: A path that a file can have.
* `Path.IsResolved`: A path that resolving leaves as it is.
* `Surroundings.IsSound`: Directories as a system has them.

## Theorems

* `Path.parse_text`: The normal form is read as the path.
* `Path.isResolved_absolute`, `Path.resolve?_of_isResolved`: Resolving once is enough.
* `Path.isNamed_parse`, `Path.holdsNull_text`: Neither reading nor writing a path brings a
  null character into it.
* `Path.isNamed_of_resolve?`: Resolving brings no null character into a path.
-/

namespace DiskPlan

/-! ### Normal forms -/

/-- A component is a piece of a path between slashes that names something: it is not empty and
    not a single dot. Two dots do name something. -/
theorem isComponent_iff {s : String} :
    isComponent s = true ↔ s ≠ "" ∧ s ≠ "." ∧ '/' ∉ s.toList := by
  unfold isComponent
  simp [and_assoc]

namespace Path

/-- A text begins with a root if it goes on with anything but a slash. -/
theorem rootOf_of_append {s : String} {root : Root} {rest : List Char}
    (hs : s.toList = (rootText root).toList ++ rest) (hrest : rest.head? ≠ some '/') :
    rootOf s = root := by
  -- The slashes in front end where the root does, since what follows them is no slash.
  have hstop : rest.takeWhile (· == '/') = [] := by
    cases rest with
    | nil => rfl
    | cons c _ =>
        rw [List.head?_cons, ne_eq, Option.some.injEq] at hrest
        exact List.takeWhile_cons_of_neg (by simpa using hrest)
  -- A root is spelled with slashes alone, and with two of them it is a root of its own.
  have hslashes : ∀ c ∈ (rootText root).toList, (c == '/') = true := by
    cases root <;> simp [rootText]
  unfold rootOf
  rw [hs, List.takeWhile_append_of_pos hslashes, hstop, List.append_nil]
  cases root <;> rfl

/-- The normal form of a path without components: the root, or a dot for a path that is not even
    a root, which would be no text at all. -/
theorem text_nil {root : Root} (proper : ∀ p ∈ [], isComponent p = true) :
    text ⟨root, [], proper⟩ = if root = .relative then "." else rootText root := by
  cases root <;> rfl

/-- The normal form of a path with components. -/
theorem toList_text {root : Root} {first : String} {others : List String}
    (proper : ∀ p ∈ first :: others, isComponent p = true) :
    (text ⟨root, first :: others, proper⟩).toList =
      (rootText root).toList ++ ['/'].intercalate ((first :: others).map String.toList) := by
  have htext : text ⟨root, first :: others, proper⟩ =
      rootText root ++ "/".intercalate (first :: others) := by
    cases root <;> rfl
  rw [htext, String.toList_append, String.toList_intercalate]
  rfl

/-- The empty fields in front of the first component, one for each slash of the root. -/
def lead : Root → List String
  | .relative => []
  | .slash => [""]
  | .twoSlashes => ["", ""]

/-- The normal form of a path is read as that path. The root and the components are found again
    one by one, so what is shown are two equations. -/
theorem parse_text (p : Path) : parse p.text = p := by
  obtain ⟨root, parts, proper⟩ := p
  unfold parse
  rw [mk.injEq]
  -- A path without components is one of three, and each of them is read by computing.
  cases parts with
  | nil =>
      rw [text_nil]
      cases root <;> decide +kernel
  | cons first others =>
      have htext := @toList_text root first others proper
      -- The proof that a component is one is carried by the path itself.
      have hcomponent : ∀ part ∈ first :: others, part ≠ "" ∧ '/' ∉ part.toList :=
        fun part hpart => ⟨(isComponent_iff.mp (proper part hpart)).1,
          (isComponent_iff.mp (proper part hpart)).2.2⟩
      constructor
      · -- The first component has a first character, which is no slash.
        rcases hcomponent first List.mem_cons_self with ⟨hne, hslash⟩
        refine rootOf_of_append htext fun hhead => hslash ?_
        have hbegins : ∃ tail, ['/'].intercalate ((first :: others).map String.toList) =
            first.toList ++ tail := by
          cases others with
          | nil => exact ⟨[], by simp⟩
          | cons second rest =>
              rw [List.map_cons, List.map_cons, List.intercalate_cons_cons, List.append_assoc]
              exact ⟨_, rfl⟩
        rcases hbegins with ⟨tail, htail⟩
        rw [htail, List.head?_append_of_ne_nil _
          (by rwa [ne_eq, String.toList_eq_nil_iff])] at hhead
        exact List.mem_of_head? hhead
      · -- What stands in front of the first component are empty fields, and no components.
        have hfields : Text.fields '/' (text ⟨root, first :: others, proper⟩) =
            lead root ++ first :: others := by
          refine Text.fields_of_intercalate ?_ ?_ (by simp)
          · rw [htext]
            cases root <;> simp [lead, rootText, List.intercalate_cons_cons]
          · refine List.forall_mem_append.mpr ⟨?_, fun part hpart => (hcomponent part hpart).2⟩
            cases root <;> decide
        rw [hfields, List.filter_append]
        have hlead : (lead root).filter isComponent = [] := by
          cases root <;> decide
        rw [hlead, List.nil_append, List.filter_eq_self.mpr proper]

/-! ### Resolving -/

/-- A path that resolving leaves as it is. -/
structure IsResolved (p : Path) : Prop where
  root : p.root = .slash
  parts : ".." ∉ p.parts

/-- A path without any `..` is resolved to itself, behind what has been resolved before. -/
theorem resolveParts_of_not_mem {parts : List String} (done : List String) (h : ".." ∉ parts) :
    resolveParts done parts = done.reverse ++ parts := by
  induction parts generalizing done with
  | nil => rw [resolveParts, List.append_nil]
  | cons part rest ih =>
      rw [List.mem_cons, not_or] at h
      rw [resolveParts, if_neg (Ne.symm h.1), ih (part :: done) h.2, List.reverse_cons,
        List.append_assoc, List.singleton_append]

/-- There is no `..` in what has been resolved. The induction takes any components that have been
    done already, since they are handed on in reverse. -/
theorem not_mem_resolveParts (parts : List String) {done : List String} (h : ".." ∉ done) :
    ".." ∉ resolveParts done parts := by
  induction parts generalizing done with
  | nil =>
      rw [resolveParts, List.mem_reverse]
      exact h
  | cons part rest ih =>
      rw [resolveParts]
      by_cases hpart : part = ".."
      · rw [if_pos hpart]
        exact ih fun hmem => h (List.mem_of_mem_tail hmem)
      · -- Only a component that is no `..` is passed on.
        rw [if_neg hpart]
        refine ih fun hmem => ?_
        rcases List.mem_cons.mp hmem with heq | hmem
        · exact hpart heq.symm
        · exact h hmem

/-- What is made absolute is resolved, since it is put together from the root on. -/
theorem isResolved_absolute (p workingDirectory : Path) :
    (p.absolute workingDirectory).IsResolved :=
  ⟨rfl, not_mem_resolveParts _ List.not_mem_nil⟩

variable {p q : Path} {homeOf? : String → Option Path} {workingDirectory : Path}

/-- A resolved path is absolute already, and it has nothing to take back. -/
theorem absolute_of_isResolved (h : p.IsResolved) : p.absolute workingDirectory = p := by
  have hroot : p.root ≠ .relative := by
    rw [h.root]
    -- Both halves of the path are looked at on their own. That its components are proper is a
    -- proof and is not compared.
    decide
  have hparts : resolveParts [] p.parts = p.parts := resolveParts_of_not_mem [] h.parts
  obtain ⟨root, parts, proper⟩ := p
  unfold absolute
  rw [mk.injEq]
  simp only [if_neg hroot]
  exact ⟨h.root.symm, hparts⟩

/-- A resolved path has no `~` to be expanded, because it begins at the root. -/
theorem expand?_of_isResolved (h : p.IsResolved) : p.expand? homeOf? = some p := by
  unfold expand?
  split
  · rw [if_neg]
    rintro ⟨hroot, _⟩
    rw [h.root] at hroot
    exact absurd hroot (by decide)
  · rfl

/-- A resolved path is left as it is, wherever it is read. -/
theorem resolve?_of_isResolved (h : p.IsResolved) :
    p.resolve? homeOf? workingDirectory = some p := by
  unfold resolve?
  rw [expand?_of_isResolved h, Option.map_some, absolute_of_isResolved h]

/-- What resolving answers is resolved. -/
theorem isResolved_of_resolve? (h : p.resolve? homeOf? workingDirectory = some q) :
    q.IsResolved := by
  rcases Option.map_eq_some_iff.mp h with ⟨full, _, rfl⟩
  exact isResolved_absolute full workingDirectory

/-! ### Null characters -/

/-- A path that a file can have. -/
def IsNamed (p : Path) : Prop :=
  ∀ part ∈ p.parts, holdsNull part = false

/-- Whether a text holds a null character, as a matter of its characters. -/
theorem holdsNull_eq_false_iff {s : String} : holdsNull s = false ↔ '\x00' ∉ s.toList := by
  unfold holdsNull
  simp

/-- A text without null characters is read as a path without them. -/
theorem isNamed_parse {s : String} (h : holdsNull s = false) : (parse s).IsNamed := by
  intro part hpart
  rw [holdsNull_eq_false_iff] at h ⊢
  have hfield : part ∈ Text.fields '/' s := (List.mem_filter.mp hpart).1
  exact fun hnull => h ((Text.infix_of_mem_fields hfield).mem hnull)

/-- The text of a path without null characters has none. -/
theorem holdsNull_text (h : p.IsNamed) : holdsNull p.text = false := by
  -- A slash between two texts is no null character, so it is enough that the texts have none.
  have hjoined : ∀ ls : List (List Char), (∀ l ∈ ls, '\x00' ∉ l) →
      '\x00' ∉ ['/'].intercalate ls := by
    intro ls hls
    induction ls with
    | nil => exact List.not_mem_nil
    | cons l rest ih =>
        rw [List.forall_mem_cons] at hls
        cases rest with
        | nil =>
            rw [List.intercalate_singleton]
            exact hls.1
        | cons second rest =>
            rw [List.intercalate_cons_cons, List.mem_append, List.mem_append]
            rintro ((hl | hslash) | hrest)
            · exact hls.1 hl
            · exact absurd hslash (by decide)
            · exact ih hls.2 hrest
  rw [holdsNull_eq_false_iff]
  obtain ⟨root, parts, proper⟩ := p
  cases parts with
  | nil =>
      rw [text_nil]
      cases root <;> decide
  | cons first others =>
      rw [toList_text, List.mem_append, not_or]
      refine ⟨by cases root <;> decide, hjoined _ (List.forall_mem_map.mpr fun part hpart => ?_)⟩
      exact holdsNull_eq_false_iff.mp (h part hpart)

/-- Resolving brings no null character into a path. -/
theorem isNamed_of_resolve? (hp : p.IsNamed)
    (hhome : ∀ user home, homeOf? user = some home → home.IsNamed)
    (hworking : workingDirectory.IsNamed)
    (h : p.resolve? homeOf? workingDirectory = some q) : q.IsNamed := by
  -- A home takes the place of the first component, and the others stay.
  have hexpand : ∀ full, p.expand? homeOf? = some full → full.IsNamed := by
    intro full hfull
    unfold expand? at hfull
    split at hfull
    · rename_i first rest hparts
      split at hfull
      · rcases Option.map_eq_some_iff.mp hfull with ⟨home, hfound, rfl⟩
        refine List.forall_mem_append.mpr ⟨hhome _ home hfound, fun part hpart => ?_⟩
        exact hp part (hparts ▸ List.mem_cons_of_mem first hpart)
      · obtain rfl := Option.some.inj hfull
        exact hp
    · obtain rfl := Option.some.inj hfull
      exact hp
  -- What has been expanded is made absolute with the components of the working directory in front
  -- of its own, unless it is absolute already.
  rcases Option.map_eq_some_iff.mp h with ⟨full, hfull, rfl⟩
  have hnamed := hexpand full hfull
  intro part hpart
  -- Taking components back invents none, so each comes from one of the three paths.
  have hmem := (mem_resolveParts _ [] hpart).resolve_left List.not_mem_nil
  by_cases hroot : full.root = .relative
  · rw [if_pos hroot] at hmem
    exact List.forall_mem_append.mpr ⟨hworking, hnamed⟩ part hmem
  · rw [if_neg hroot] at hmem
    exact hnamed part hmem

end Path

/-- Directories as a system has them: the home is resolved, and none has a null character in
    its name. -/
structure Surroundings.IsSound (env : Surroundings) : Prop where
  home_isResolved : env.home.IsResolved
  home_isNamed : env.home.IsNamed
  userHome : ∀ user home, env.userHome? user = some home → home.IsNamed
  workingDirectory : env.workingDirectory.IsNamed

/-- The home of any user is one that a file can have, the own one included. -/
theorem Surroundings.IsSound.homeOf? {env : Surroundings} (h : env.IsSound) :
    ∀ user home, env.homeOf? user = some home → home.IsNamed := by
  intro user home hfound
  unfold Surroundings.homeOf? at hfound
  by_cases huser : user = ""
  · rw [if_pos huser] at hfound
    obtain rfl := Option.some.inj hfound
    exact h.home_isNamed
  · rw [if_neg huser] at hfound
    exact h.userHome user home hfound

end DiskPlan
