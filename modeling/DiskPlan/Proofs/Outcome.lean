import DiskPlan.FirstMatch
import DiskPlan.Outcome
import Mathlib.Data.List.Forall2

/-!
# Chains of Outcomes

What is known of a chain of actions when it is known of its links.

A change is made of checks in a row, each of which can end it, and a plan is made
of actions in a row, each of which can end it. Both are chains, so the facts about
them come in pairs: a chain succeeds exactly if its links do, and where it ends is
where its last link that was done ends. The second fact needs no success, which is
what makes it fit for work that is not rolled back.

A chain fails the way one of its links does. `FailsWith` says of an answer in which
ways it can fail, and `Fails` that it does fail in a certain way. Both are put together
along the chain like the chain itself.

A first match is looked up, changed and left out of a list by three functions.
`FirstAt` says once where it stands, and all three are read off from there.

## Main definitions

* `FailsWith`: An answer that fails in certain ways only.
* `Fails`: An answer that fails in a certain way.
* `FirstAt`: The first match of a list, with what stands before and after it.

## Theorems

* `bind_eq_ok_iff`: A chain of answers succeeds exactly if its links do.
* `mapM_eq_ok_iff`: A list of answers, place by place.
* `mapM_eq_error_iff`: A list of answers fails with the first element that has none.
* `foldlM_eq_error_iff`: A fold fails with its first element that does.
* `mem_of_mapM_eq_ok`: What a list of answers holds comes from the list.
* `FailsWith.bind`, `Outcome.andThen_failsWith`: A chain fails the way its links do.
* `fails_bind_iff`, `Outcome.fails_andThen_iff`: A chain fails where one of its links does.
* `find?_eq_some_iff_firstAt`: What is found is the first match.
* `FirstAt.exchange`, `find?_exchange`: What is found after an exchange.
* `FirstAt.forall_mem_exchange`, `FirstAt.forall₂_exchange`: What survives an exchange
  of the first match.
* `FirstAt.findIdx?_eq`, `exchange_eq_set`: The place of the first match.
* `updateFirst_eq`: The list with its first match changed.
* `updateFirst_map`: A change of the first match, seen through a function.
* `Outcome.andThen_eq_ok_iff`: A chain of actions succeeds exactly if its links do.
* `Outcome.andThen_assoc`: A chain can be cut anywhere.
* `Outcome.andThen_state_of`: Where a chain of actions ends.
* `Outcome.andThen_error_cases`: Where a chain of actions fails.
-/

namespace DiskPlan

/-! ### Answers -/

section Answers

variable {ε α β : Type}

/-- A chain of two answers succeeds exactly if both links do, the second of them on what the
    first answered. All checks that are made in a row are taken apart by this equivalence. -/
theorem bind_eq_ok_iff {x : Except ε α} {f : α → Except ε β} {b : β} :
    (x >>= f) = .ok b ↔ ∃ a, x = .ok a ∧ f a = .ok b := by
  cases x with
  | error e =>
      constructor
      · intro h
        exact absurd h (by simp only [bind, Except.bind, reduceCtorEq, not_false_eq_true])
      · rintro ⟨a, ha, _⟩
        exact absurd ha (by simp only [reduceCtorEq, not_false_eq_true])
  | ok a =>
      constructor
      · exact fun h => ⟨a, rfl, h⟩
      · rintro ⟨a', ha, hb⟩
        rw [Except.ok.injEq] at ha
        rw [ha]
        exact hb

theorem map_eq_ok_iff {x : Except ε α} {f : α → β} {b : β} :
    x.map f = .ok b ↔ ∃ a, x = .ok a ∧ f a = b := by
  cases x <;> simp only [Except.map, reduceCtorEq, Except.ok.injEq, false_and, exists_false,
    exists_eq_left']

/-- What is made of the answer of a chain is made of that of its last link. -/
theorem map_bind {γ : Type} (x : Except ε α) (f : α → Except ε β) (g : β → γ) :
    (x >>= f).map g = x >>= fun a => (f a).map g := by
  cases x <;> rfl

theorem mapError_eq_ok_iff {ε' : Type} {x : Except ε α} {f : ε → ε'} {a : α} :
    x.mapError f = .ok a ↔ x = .ok a := by
  cases x with
  | error e =>
      change (Except.error (f e) : Except ε' α) = .ok a ↔ _
      simp only [reduceCtorEq]
  | ok b =>
      change (Except.ok b : Except ε' α) = .ok a ↔ _
      rw [Except.ok.injEq, Except.ok.injEq]

/-- What the partner of every element has, every element of the other list has. -/
theorem forall_mem_of_forall₂ {R : β → α → Prop} {P : α → Prop} {bs : List β} {as : List α}
    (h : List.Forall₂ R bs as) (hP : ∀ b ∈ bs, ∀ a, R b a → P a) : ∀ a ∈ as, P a := by
  induction h with
  | nil => exact fun _ ha => absurd ha List.not_mem_nil
  | cons hhead _ ih =>
      rw [List.forall_mem_cons] at hP ⊢
      exact ⟨hP.1 _ hhead, ih hP.2⟩

/-- A list of answers is one of what is answered, place by place. The equivalence trades a fact
    about a whole list for one about its elements, which is what inductions over the list want. -/
theorem mapM_eq_ok_iff {f : α → Except ε β} {as : List α} {bs : List β} :
    as.mapM f = .ok bs ↔ List.Forall₂ (fun a b => f a = .ok b) as bs := by
  induction as generalizing bs with
  | nil =>
      rw [List.mapM_nil, List.forall₂_nil_left_iff]
      constructor
      · exact fun h => (Except.ok.inj h).symm
      · rintro rfl
        rfl
  | cons a rest ih =>
      rw [List.mapM_cons, List.forall₂_cons_left_iff]
      constructor
      · intro h
        rcases bind_eq_ok_iff.mp h with ⟨b, hb, h⟩
        rcases bind_eq_ok_iff.mp h with ⟨bs', hbs', h⟩
        exact ⟨b, bs', hb, ih.mp hbs', (Except.ok.inj h).symm⟩
      · rintro ⟨b, bs', hb, hbs', rfl⟩
        exact bind_eq_ok_iff.mpr ⟨b, hb, bind_eq_ok_iff.mpr ⟨bs', ih.mpr hbs', rfl⟩⟩

/-- Lists of which the elements are answered alike have the same answers. -/
theorem mapM_eq_of_forall₂ {R : α → α → Prop} {f : α → Except ε β}
    {as bs : List α} (h : List.Forall₂ R as bs) (hf : ∀ a b, R a b → f b = f a) :
    bs.mapM f = as.mapM f := by
  induction h with
  | nil => rfl
  | cons hhead _ ih => rw [List.mapM_cons, List.mapM_cons, hf _ _ hhead, ih]

/-- A list of answers fails with the first element that has none. The elements before it have
    answers, and those after it are not asked at all, so nothing is said of them. -/
theorem mapM_eq_error_iff {f : α → Except ε β} {as : List α} {e : ε} :
    as.mapM f = .error e ↔ ∃ before a after, as = before ++ a :: after ∧
      (∀ b ∈ before, ∃ c, f b = .ok c) ∧ f a = .error e := by
  induction as with
  | nil =>
      rw [List.mapM_nil]
      constructor
      · intro h
        exact absurd h (by simp only [pure, Except.pure, reduceCtorEq, not_false_eq_true])
      · rintro ⟨before, a, after, hsplit, _⟩
        exact absurd hsplit.symm (List.append_ne_nil_of_right_ne_nil _ (List.cons_ne_nil _ _))
  | cons a rest ih =>
      rw [List.mapM_cons]
      -- Either the list ends here with a failure of its own, or the first one that fails is in the
      -- rest. In the second case the answer of the head only moves the place by one.
      cases ha : f a with
      | error e' =>
          constructor
          · intro h
            obtain rfl : e' = e := Except.error.inj h
            exact ⟨[], a, rest, rfl, fun _ hb => absurd hb List.not_mem_nil, ha⟩
          · rintro ⟨before, a', after, hsplit, hbefore, ha'⟩
            cases before with
            | nil =>
                obtain ⟨rfl, rfl⟩ := List.cons.inj hsplit
                exact congrArg Except.error (Except.error.inj (ha.symm.trans ha'))
            | cons a₀ before =>
                obtain ⟨rfl, rfl⟩ := List.cons.inj hsplit
                -- The first element would have an answer.
                rcases hbefore a List.mem_cons_self with ⟨c, hc⟩
                exact absurd (ha.symm.trans hc) (by simp only [reduceCtorEq, not_false_eq_true])
      | ok b =>
          -- A head that is answered hands the failure of the rest on.
          have hrest : (Except.ok b >>= fun b => rest.mapM f >>= fun bs => pure (b :: bs)) =
              .error e ↔ rest.mapM f = .error e := by
            cases rest.mapM f with
            | error e' => rfl
            | ok bs => exact iff_of_false (by simp [bind, Except.bind, pure, Except.pure]) (by simp)
          rw [hrest, ih]
          constructor
          · rintro ⟨before, a', after, rfl, hbefore, ha'⟩
            exact ⟨a :: before, a', after, rfl, List.forall_mem_cons.mpr ⟨⟨b, ha⟩, hbefore⟩, ha'⟩
          · rintro ⟨before, a', after, hsplit, hbefore, ha'⟩
            cases before with
            | nil =>
                obtain ⟨rfl, rfl⟩ := List.cons.inj hsplit
                exact absurd (ha.symm.trans ha') (by simp only [reduceCtorEq, not_false_eq_true])
            | cons a₀ before =>
                obtain ⟨rfl, rfl⟩ := List.cons.inj hsplit
                exact ⟨before, a', after, rfl, (List.forall_mem_cons.mp hbefore).2, ha'⟩

/-- A fold fails with the first of its elements that fails. Unlike the elements of a list of
    answers it depends on what came before it, so the value there is named as well. -/
theorem foldlM_eq_error_iff {f : β → α → Except ε β} {as : List α} {b : β} {e : ε} :
    as.foldlM f b = .error e ↔ ∃ before a after b', as = before ++ a :: after ∧
      before.foldlM f b = .ok b' ∧ f b' a = .error e := by
  induction as generalizing b with
  | nil =>
      constructor
      · intro h
        exact absurd h (by simp only [List.foldlM_nil, pure, Except.pure, reduceCtorEq,
          not_false_eq_true])
      · rintro ⟨before, a, after, _, hsplit, _⟩
        exact absurd hsplit.symm (List.append_ne_nil_of_right_ne_nil _ (List.cons_ne_nil _ _))
  | cons a rest ih =>
      rw [List.foldlM_cons]
      constructor
      · intro h
        cases ha : f b a with
        | error e' =>
            rw [ha] at h
            obtain rfl : e' = e := Except.error.inj h
            exact ⟨[], a, rest, b, rfl, rfl, ha⟩
        | ok b₁ =>
            rw [ha] at h
            rcases ih.mp h with ⟨before, a', after, b', rfl, hbefore, ha'⟩
            refine ⟨a :: before, a', after, b', rfl, ?_, ha'⟩
            rw [List.foldlM_cons, ha]
            exact hbefore
      · rintro ⟨before, a', after, b', hsplit, hbefore, ha'⟩
        -- The prefix either is empty, so that the head is the one that fails, or begins with the
        -- head.
        cases before with
        | nil =>
            obtain ⟨rfl, rfl⟩ := List.cons.inj hsplit
            obtain rfl : b = b' := Except.ok.inj hbefore
            rw [ha']
            rfl
        | cons a₀ before =>
            obtain ⟨rfl, rfl⟩ := List.cons.inj hsplit
            rw [List.foldlM_cons] at hbefore
            rcases bind_eq_ok_iff.mp hbefore with ⟨b₁, hb₁, hbefore⟩
            rw [hb₁]
            exact ih.mpr ⟨before, a', after, b', rfl, hbefore, ha'⟩

/-- What a list of answers holds comes from the list. -/
theorem mem_of_mapM_eq_ok {f : α → Except ε β} {as : List α} {bs : List β}
    (h : as.mapM f = .ok bs) : ∀ b ∈ bs, ∃ a ∈ as, f a = .ok b :=
  forall_mem_of_forall₂ (mapM_eq_ok_iff.mp h) fun a ha _ hb => ⟨a, ha, hb⟩

/-- An answer that, if it is a failure, is one of which something is true. It says nothing of
    whether there is a failure, so it holds of every success. -/
def FailsWith (P : ε → Prop) (x : Except ε α) : Prop :=
  ∀ e, x = .error e → P e

section FailsWith

variable {P Q : ε → Prop} {x : Except ε α}

theorem failsWith_ok (a : α) : FailsWith P (.ok a : Except ε α) :=
  fun _ h => absurd h (by simp only [reduceCtorEq, not_false_eq_true])

theorem failsWith_error {e : ε} (h : P e) : FailsWith P (.error e : Except ε α) := by
  intro e' he
  rw [Except.error.injEq] at he
  rw [← he]
  exact h

theorem FailsWith.mono (h : FailsWith P x) (hPQ : ∀ e, P e → Q e) : FailsWith Q x :=
  fun e he => hPQ e (h e he)

theorem FailsWith.bind {f : α → Except ε β} (hx : FailsWith P x)
    (hf : ∀ a, x = .ok a → FailsWith P (f a)) : FailsWith P (x >>= f) := by
  cases x with
  | error e => exact failsWith_error (hx e rfl)
  | ok a => exact hf a rfl

theorem FailsWith.map (hx : FailsWith P x) (f : α → β) : FailsWith P (x.map f) := by
  cases x with
  | error e => exact failsWith_error (hx e rfl)
  | ok a => exact failsWith_ok (f a)

theorem failsWith_mapError {ε' : Type} {P : ε' → Prop} {f : ε → ε'}
    (hx : FailsWith (fun e => P (f e)) x) : FailsWith P (x.mapError f) := by
  cases x with
  | error e => exact failsWith_error (hx e rfl)
  | ok a => exact failsWith_ok a

/-- Two changes of the failures are the same if they agree on those that there can be. This is
    how it can be seen that a failure is handed on unchanged by work that cannot cause others. -/
theorem mapError_congr {ε' : Type} {f g : ε → ε'} (hx : FailsWith P x)
    (h : ∀ e, P e → f e = g e) : x.mapError f = x.mapError g := by
  cases x with
  | error e => exact congrArg Except.error (h e (hx e rfl))
  | ok a => rfl

theorem failsWith_mapM {f : α → Except ε β} (hf : ∀ a, FailsWith P (f a)) (as : List α) :
    FailsWith P (as.mapM f) := by
  induction as with
  | nil =>
      rw [List.mapM_nil]
      exact failsWith_ok []
  | cons a rest ih =>
      rw [List.mapM_cons]
      refine (hf a).bind fun b _ => ?_
      exact ih.bind fun bs _ => failsWith_ok (b :: bs)

end FailsWith

/-- An answer that is a failure of which something is true. Unlike `FailsWith` it says that there
    is one. -/
def Fails (P : ε → Prop) (x : Except ε α) : Prop :=
  ∃ e, x = .error e ∧ P e

section Fails

variable {P : ε → Prop}

theorem not_fails_ok (a : α) : ¬ Fails P (.ok a : Except ε α) := by
  rintro ⟨e, he, _⟩
  exact absurd he (by simp only [reduceCtorEq, not_false_eq_true])

theorem fails_error_iff {e : ε} : Fails P (.error e : Except ε α) ↔ P e := by
  constructor
  · rintro ⟨e', he', hP⟩
    rwa [Except.error.inj he']
  · exact fun hP => ⟨e, rfl, hP⟩

/-- A chain fails in its first link, or behind it. The second case needs the answer of the first
    link, since what is behind it depends on that. -/
theorem fails_bind_iff {x : Except ε α} {f : α → Except ε β} :
    Fails P (x >>= f) ↔ Fails P x ∨ ∃ a, x = .ok a ∧ Fails P (f a) := by
  cases x with
  | error e =>
      change Fails P (.error e) ↔ _
      simp only [fails_error_iff, reduceCtorEq, false_and, exists_false, or_false]
  | ok a =>
      change Fails P (f a) ↔ _
      simp only [not_fails_ok, Except.ok.injEq, exists_eq_left', false_or]

end Fails

end Answers

/-! ### First matches -/

section FirstMatch

variable {α : Type} {p : α → Bool} {as before after : List α} {a : α}

/-- The first match of a list, with what stands before and after it. Looking up, changing and
    leaving out a first match are all read off from this, so they agree on which one it is. -/
structure FirstAt (p : α → Bool) (as before : List α) (a : α) (after : List α) : Prop where
  split : as = before ++ a :: after
  holds : p a = true
  first : ∀ b ∈ before, p b = false

/-- What is found in a list is its first match. -/
theorem find?_eq_some_iff_firstAt :
    as.find? p = some a ↔ ∃ before after, FirstAt p as before a after := by
  rw [List.find?_eq_some_iff_append]
  constructor
  · rintro ⟨ha, before, after, hsplit, hfirst⟩
    exact ⟨before, after, hsplit, ha, fun b hb => by simpa using hfirst b hb⟩
  · rintro ⟨before, after, h⟩
    exact ⟨h.holds, before, after, h.split, fun b hb => by rw [h.first b hb]; rfl⟩

theorem FirstAt.mem (h : FirstAt p as before a after) : a ∈ as := by
  rw [h.split]
  exact List.mem_append_right _ List.mem_cons_self

/-- What takes the place of the first match is the first match if it is one. -/
theorem FirstAt.exchange {b : α} (h : FirstAt p as before a after) (hb : p b = true) :
    FirstAt p (before ++ b :: after) before b after :=
  ⟨rfl, hb, h.first⟩

/-- Looking for something else finds the same before and after an exchange. Neither the old
    element nor the new one is what is looked for, so the place of the exchange is passed over. -/
theorem find?_exchange {q : α → Bool} {b : α} (ha : q a = false) (hb : q b = false) :
    (before ++ b :: after).find? q = (before ++ a :: after).find? q := by
  rw [List.find?_append, List.find?_append, List.find?_cons_of_neg (by simp [hb]),
    List.find?_cons_of_neg (by simp [ha])]

/-- What is true of all of a list is true of all of it with the first match
    exchanged for something of which it is true. -/
theorem FirstAt.forall_mem_exchange {P : α → Prop} {b : α} (h : FirstAt p as before a after)
    (hb : P a → P b) (has : ∀ x ∈ as, P x) : ∀ x ∈ before ++ b :: after, P x := by
  rw [h.split] at has
  rw [List.forall_mem_append, List.forall_mem_cons] at has ⊢
  exact ⟨has.1, hb has.2.1, has.2.2⟩

/-- Two lists whose elements agree place by place under two functions are the same to them. -/
theorem map_eq_of_forall₂ {β γ : Type} {f : β → γ} {g : α → γ} {bs : List β}
    (h : List.Forall₂ (fun b a => f b = g a) bs as) : bs.map f = as.map g := by
  rw [← List.forall₂_eq_eq_eq, List.forall₂_map_left_iff, List.forall₂_map_right_iff]
  exact h

/-- Two lists that go together place by place still do after an exchange of the first
    match of one of them, if what takes its place goes with the same. -/
theorem FirstAt.forall₂_exchange {β : Type} {R : β → α → Prop} {bs : List β} {b : α}
    (h : FirstAt p as before a after) (hb : ∀ x, R x a → R x b) (hbs : List.Forall₂ R bs as) :
    List.Forall₂ R bs (before ++ b :: after) := by
  -- The place of the exchange moves towards the head with each step, and `h` names it for the
  -- whole list only.
  rw [h.split] at hbs
  clear h
  induction before generalizing bs with
  | nil =>
      cases hbs with
      | cons hhead hrest => exact .cons (hb _ hhead) hrest
  | cons c rest ih =>
      cases hbs with
      | cons hhead hrest => exact .cons hhead (ih hrest)

/-- The list with its first match changed differs in that place alone. The induction goes through
    what stands before the match, and each of these elements is passed over because it is none. -/
theorem updateFirst_eq (h : FirstAt p as before a after) (f : α → α) :
    updateFirst p f as = before ++ f a :: after := by
  rcases h with ⟨rfl, ha, hfirst⟩
  induction before with
  | nil => simp only [List.nil_append, updateFirst, ha, if_true]
  | cons b rest ih =>
      have hb : p b = false := hfirst b List.mem_cons_self
      have hrest := ih fun c hc => hfirst c (List.mem_cons_of_mem _ hc)
      simp only [List.cons_append, updateFirst, hb, Bool.false_eq_true, if_false, hrest]

/-- A list with a first match is not empty. -/
theorem FirstAt.ne_nil (h : FirstAt p as before a after) : as ≠ [] := by
  rw [h.split]
  exact List.append_ne_nil_of_right_ne_nil _ (List.cons_ne_nil _ _)

/-- The place of the first match is behind what stands before it. -/
theorem FirstAt.findIdx?_eq (h : FirstAt p as before a after) :
    as.findIdx? p = some before.length := by
  rw [h.split, List.findIdx?_append, List.findIdx?_eq_none_iff.mpr h.first, List.findIdx?_cons,
    h.holds, if_pos rfl, Option.none_or, Option.map_some, Nat.zero_add]

theorem FirstAt.getElem?_eq (h : FirstAt p as before a after) : as[before.length]? = some a := by
  rw [h.split, List.getElem?_append_right (Nat.le_refl _), Nat.sub_self, List.getElem?_cons_zero]

/-- An exchange sets one place of a list. -/
theorem exchange_eq_set (before after : List α) (a b : α) :
    before ++ b :: after = (before ++ a :: after).set before.length b := by
  rw [List.set_append_right _ _ (Nat.le_refl _), Nat.sub_self, List.set_cons_zero]

theorem eraseP_eq (h : FirstAt p as before a after) : as.eraseP p = before ++ after := by
  rcases h with ⟨rfl, ha, hfirst⟩
  rw [List.eraseP_append_right _ fun b hb => by rw [hfirst b hb]; exact Bool.false_ne_true,
    List.eraseP_cons_of_pos ha]

end FirstMatch

/-- A change of the first match can be seen through a function that keeps the matches and is
    compatible with the change. The two lists are searched side by side, and the hypotheses say
    that both searches stop at the same place and leave the same there. -/
theorem updateFirst_map {α β : Type} {p : α → Bool} {q : β → Bool} {f : α → α} {f' : β → β}
    {g : α → β} (hp : ∀ a, q (g a) = p a) (hf : ∀ a, f' (g a) = g (f a)) (as : List α) :
    updateFirst q f' (as.map g) = (updateFirst p f as).map g := by
  induction as with
  | nil => rfl
  | cons a rest ih =>
      rw [List.map_cons, updateFirst, updateFirst, hp, ih]
      cases p a with
      | false => rfl
      | true =>
          rw [if_pos rfl, if_pos rfl, hf]
          rfl

/-! ### Actions -/

namespace Outcome

variable {σ α β : Type} {o : Outcome σ α} {next : σ → α → Outcome σ β}

/-- Actions in a row succeed exactly if each of them does, from where the one before has ended. -/
theorem andThen_eq_ok_iff {b : β} :
    (o.andThen next).answer = .ok b ↔
      ∃ a, o.answer = .ok a ∧ (next o.state a).answer = .ok b := by
  unfold andThen
  cases o.answer <;> simp only [reduceCtorEq, Except.ok.injEq, false_and, exists_false,
    exists_eq_left']

theorem andThen_unit_eq_ok_iff {o : Outcome σ Unit} {next : σ → Unit → Outcome σ β} {b : β} :
    (o.andThen next).answer = .ok b ↔
      o.answer = .ok () ∧ (next o.state ()).answer = .ok b := by
  rw [andThen_eq_ok_iff]
  constructor
  · rintro ⟨⟨⟩, h, hnext⟩
    exact ⟨h, hnext⟩
  · rintro ⟨h, hnext⟩
    exact ⟨(), h, hnext⟩

/-- Of three actions in a row it does not matter which two are taken together. -/
theorem andThen_assoc {γ : Type} (o : Outcome σ α) (next : σ → α → Outcome σ β)
    (last : σ → β → Outcome σ γ) :
    (o.andThen next).andThen last = o.andThen fun s a => (next s a).andThen last := by
  unfold andThen
  cases o.answer with
  | error f => rfl
  | ok a =>
      dsimp only
      -- The second action is only reached if the first succeeds, and the third if both do.
      cases (next o.state a).answer with
      | error f => rfl
      | ok b =>
          dsimp only
          rw [List.append_assoc]

theorem andThen_state_of_ok {a : α} (h : o.answer = .ok a) :
    (o.andThen next).state = (next o.state a).state := by
  rw [andThen_state, h]

theorem andThen_state_of_error {f : Failure} (h : o.answer = .error f) :
    (o.andThen next).state = o.state := by
  rw [andThen_state, h]

/-- Two actions in a row end where the second does or, if the first fails, where the first does.
    Nothing is rolled back, so what is to hold at the end has to hold after the first already. -/
theorem andThen_state_of {P : σ → Prop} (ho : P o.state)
    (hnext : ∀ a, o.answer = .ok a → P (next o.state a).state) :
    P (o.andThen next).state := by
  cases h : o.answer with
  | error f =>
      rw [andThen_state_of_error h]
      exact ho
  | ok a =>
      rw [andThen_state_of_ok h]
      exact hnext a h

/-- Actions in a row fail the way one of them does. -/
theorem andThen_failsWith {P : Failure → Prop} (ho : FailsWith P o.answer)
    (hnext : ∀ a, o.answer = .ok a → FailsWith P (next o.state a).answer) :
    FailsWith P (o.andThen next).answer := by
  unfold andThen
  cases h : o.answer with
  | error f => exact failsWith_error (ho f h)
  | ok a => exact hnext a h

theorem telling_failsWith {P : Failure → Prop} (h : P (.numeral .writing)) {s : σ} {e : Event}
    {a : α} : FailsWith P (telling s e a).answer := by
  unfold telling
  split
  · exact failsWith_ok a
  · exact failsWith_error h

theorem fails_andThen_iff {P : Failure → Prop} :
    Fails P (o.andThen next).answer ↔
      Fails P o.answer ∨ ∃ a, o.answer = .ok a ∧ Fails P (next o.state a).answer := by
  unfold andThen
  cases o.answer with
  | error f => simp only [fails_error_iff, reduceCtorEq, false_and, exists_false, or_false]
  | ok a => simp only [not_fails_ok, Except.ok.injEq, exists_eq_left', false_or]

end Outcome

end DiskPlan
