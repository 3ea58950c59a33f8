import DiskPlan.Proofs.FieldGrammar

/-!
# What Suffix Fields Are Answered

The answer to any list of suffix fields, and what it does not depend on.

The fields are read from the left, and the first one that a grammar does not take is the one
told of. `SuffixGrammar.Refused` says what is wrong with it. A list without such a field is
accepted, so whether a list is accepted does not depend on its order.

What an accepted list says is looked up by key, and only the last field of a key is found.
`Suffix.parse_congr` is this fact for two lists of any lengths. That fields of different keys
can change places, and that a field which a later one overrides can be left out, are two cases
of it: neither touches the last field of a key.

## Main definitions

* `SuffixGrammar.Takes`: The fields that a grammar takes.
* `SuffixGrammar.Refused`: What is wrong with a field that it does not take.
* `Suffix.lastPayload?`: The payload of the last field of a key.
* `Suffix.Rearranges`: Fields in another order, those of one key in the same.

## Theorems

* `SuffixGrammar.field_eq_error_iff`: Single fields that are refused.
* `Suffix.parse_congr`: The last fields of the keys decide.
* `Suffix.parse_ofLasts`: Which lists are accepted, what is wrong with the others, and what
  the answer depends on.
-/

namespace DiskPlan

/-! ### Single fields -/

namespace SuffixGrammar

variable {g : SuffixGrammar} {value : String} {p : SyntaxProblem}

/-- A field that a grammar takes: an allowed key, an equals sign and a payload, which is empty
    only where that is allowed. -/
def Takes (g : SuffixGrammar) (value : String) : Prop :=
  ∃ key payload, value = SuffixKey.name key ++ "=" ++ payload ∧ key ∈ g.keys ∧
    (g.allowsEmpty = false → payload ≠ "")

/-- What is wrong with a field that a grammar does not take: its payload is missing, or it has
    no allowed key. -/
inductive Refused (g : SuffixGrammar) : String → SyntaxProblem → Prop
  | emptyValue {key : SuffixKey} (hkey : key ∈ g.keys) (hempty : g.allowsEmpty = false) :
      Refused g (key.name ++ "=") (.emptyValue key.name)
  | noKey {value : String}
      (hvalue : ∀ key ∈ g.keys, ∀ payload, value ≠ SuffixKey.name key ++ "=" ++ payload) :
      Refused g value (.invalidArgument value)

/-- A grammar takes the fields that it has an answer for. -/
theorem takes_iff : g.Takes value ↔ ∃ f, g.field value = .ok f := by
  unfold Takes
  simp only [field_eq_ok_iff, Allows, Suffix.spelling, Prod.exists]

/-- A field without an answer is refused for the reason that the answer gives. -/
theorem refused_of_field (h : g.field value = .error p) : g.Refused value p := by
  unfold field at h
  split at h
  · rename_i key payload hkey hpayload
    rcases Option.filter_eq_some_iff.mp hkey with ⟨hname, hkeys⟩
    split at h
    · rename_i hempty
      -- An empty payload is refused only where it is not allowed, and then the field ends with its
      -- equals sign.
      obtain ⟨rfl, hallows⟩ : payload = "" ∧ g.allowsEmpty = false := by simpa using hempty
      obtain rfl := Except.error.inj h
      have hhead := (ofNameIn?_eq_some_iff SuffixKey.ofName?_name).mp hname
      have hvalue : value = key.name ++ "=" ++ "" :=
        Suffix.cut_eq_iff.mp (Prod.ext hhead hpayload)
      rw [String.append_empty] at hvalue
      rw [hvalue]
      exact .emptyValue (by simpa using hkeys) hallows
    · exact absurd h (by simp)
  · rename_i hnone
    obtain rfl := Except.error.inj h
    refine .noKey fun key hkey payload hvalue => ?_
    -- A field with an allowed key would have been cut behind it.
    have hcut : Text.cut '=' value = (key.name, some payload) := Suffix.cut_eq_iff.mpr hvalue
    refine hnone key payload ?_ (congrArg Prod.snd hcut)
    rw [hcut]
    exact filter_ofName?_name hkey

/-- A field is refused for one reason only, and then it is not taken. -/
theorem Refused.field_eq (h : g.Refused value p) : g.field value = .error p := by
  cases h with
  | @emptyValue key hkey hempty =>
      have hcut : Text.cut '=' (key.name ++ "=") = (key.name, some "") := by
        rw [Suffix.cut_eq_iff, Suffix.spelling, String.append_empty]
      unfold field
      rw [hcut]
      simp only [filter_ofName?_name hkey, hempty]
      rfl
  -- An answer would be that of a spelled field, and the other reason would need an allowed key.
  | noKey hvalue =>
      cases hfield : g.field value with
      | ok f =>
          rcases field_eq_ok_iff.mp hfield with ⟨hspelled, hkey, _⟩
          exact absurd hspelled (hvalue f.1 hkey f.2)
      | error p' =>
          cases refused_of_field hfield with
          | @emptyValue key hkey =>
              exact absurd String.append_empty.symm (hvalue key hkey "")
          | noKey => rfl

/-- The two ways of saying what is wrong with a field come to the same. -/
theorem field_eq_error_iff : g.field value = .error p ↔ g.Refused value p :=
  ⟨refused_of_field, Refused.field_eq⟩

end SuffixGrammar

/-! ### Lists of fields -/

/-- No two keys have the same name. -/
theorem SuffixKey.name_inj {key key' : SuffixKey} : key.name = key'.name ↔ key = key' := by
  cases key <;> cases key' <;> decide

namespace Suffix

variable {g : SuffixGrammar} {values values' : List String} {s : Suffix}

/-- A field has a key in front of its first equals sign. -/
def hasKey (key : SuffixKey) (value : String) : Bool :=
  (Text.cut '=' value).1 == key.name

/-- The payload of the last field of a key. -/
def lastPayload? (key : SuffixKey) (values : List String) : Option String :=
  (values.filter (hasKey key)).getLast?.bind fun value => (Text.cut '=' value).2

/-- Fields in another order, with those of one key among themselves in the same. -/
structure Rearranges (values values' : List String) : Prop where
  perm : values'.Perm values
  order : ∀ key, values'.filter (hasKey key) = values.filter (hasKey key)

/-- A field that is spelled out has the key that it was spelled with. -/
theorem hasKey_spelling (key : SuffixKey) (f : SuffixKey × String) :
    hasKey key (spelling f) = (f.1 == key) := by
  rw [hasKey, cut_spelling, Bool.eq_iff_iff, beq_iff_eq, beq_iff_eq, SuffixKey.name_inj]

/-- The payload of the last field of a key is the value that is looked up for it. -/
theorem lastPayload?_map_spelling (key : SuffixKey) (found : List (SuffixKey × String)) :
    lastPayload? key (found.map spelling) = lastValue? key found := by
  -- Only the keys are looked at, so the payloads can be left out of this.
  have hfilter : (found.map spelling).filter (hasKey key) =
      (found.filter fun f => f.1 == key).map spelling := by
    rw [List.filter_map]
    exact congrArg (List.map spelling) (List.filter_congr fun f _ => hasKey_spelling key f)
  -- The value that is looked up is searched from the end of the list.
  have hlast : found.findRev? (fun f => f.1 == key) =
      (found.filter fun f => f.1 == key).getLast? := by
    rw [List.findRev?_eq_find?_reverse, ← List.head?_filter, List.filter_reverse,
      List.head?_reverse]
  unfold lastPayload? lastValue?
  rw [hfilter, hlast, List.getLast?_map]
  cases (found.filter fun f => f.1 == key).getLast? with
  | none => rfl
  | some f =>
      rw [Option.map_some, Option.map_some, Option.bind_some, cut_spelling]

/-- A list is refused for the first field that is not taken. -/
theorem parse_eq_error_iff {p : SyntaxProblem} :
    parse g values = .error p ↔ ∃ before v after, values = before ++ v :: after ∧
      (∀ w ∈ before, g.Takes w) ∧ g.Refused v p := by
  have hmap : parse g values = .error p ↔ values.mapM g.field = .error p := by
    unfold parse parseFields
    cases values.mapM g.field <;> simp [Except.map]
  rw [hmap, mapM_eq_error_iff]
  simp only [SuffixGrammar.takes_iff, SuffixGrammar.field_eq_error_iff]

/-- A list is accepted exactly if each of its fields is taken. -/
-- One direction reads the fields back from what was found, and the other one finds a field that is
-- refused if the list is.
theorem exists_parse_eq_ok_iff : (∃ s, parse g values = .ok s) ↔ ∀ v ∈ values, g.Takes v := by
  constructor
  · rintro ⟨s, h⟩ v hv
    rcases map_eq_ok_iff.mp h with ⟨found, hfound, _⟩
    obtain ⟨rfl, hallows⟩ := parseFields_eq_ok_iff.mp hfound
    rcases List.mem_map.mp hv with ⟨f, hf, rfl⟩
    have hfield := SuffixGrammar.field_eq_ok_iff.mpr ⟨rfl, hallows f hf⟩
    exact SuffixGrammar.takes_iff.mpr ⟨f, hfield⟩
  · intro h
    cases hparse : parse g values with
    | ok s => exact ⟨s, rfl⟩
    | error p =>
        rcases parse_eq_error_iff.mp hparse with ⟨before, v, after, rfl, _, hrefused⟩
        rcases SuffixGrammar.takes_iff.mp (h v (by simp)) with ⟨f, hf⟩
        exact absurd (hf.symm.trans hrefused.field_eq) (by simp)

/-- The last payloads of the keys say what an accepted list says. The second list need not be
    made of the first one: it may have other fields and more or fewer of them. -/
theorem parse_congr (hvalues : ∀ v ∈ values', g.Takes v)
    (hlast : ∀ key, lastPayload? key values' = lastPayload? key values)
    (h : parse g values = .ok s) : parse g values' = .ok s := by
  rcases exists_parse_eq_ok_iff.mpr hvalues with ⟨s', hs'⟩
  rcases map_eq_ok_iff.mp h with ⟨found, hfound, rfl⟩
  rcases map_eq_ok_iff.mp hs' with ⟨found', hfound', rfl⟩
  obtain ⟨rfl, -⟩ := parseFields_eq_ok_iff.mp hfound
  obtain ⟨rfl, -⟩ := parseFields_eq_ok_iff.mp hfound'
  -- Both lists are spelled out of what was found in them, so the last payloads are the values that
  -- are looked up.
  simp only [lastPayload?_map_spelling] at hlast
  rw [hs', ofFields, ofFields, hlast, hlast, hlast]

/-- Fields that are rearranged are read as what they were read as before. -/
theorem Rearranges.parse_eq (h : Rearranges values values') (hparse : parse g values = .ok s) :
    parse g values' = .ok s := by
  have htaken := exists_parse_eq_ok_iff.mp ⟨s, hparse⟩
  refine parse_congr (fun v hv => htaken v (h.perm.subset hv)) (fun key => ?_) hparse
  rw [lastPayload?, h.order key, lastPayload?]

/-- A field of a key is not looked at if the key is given again after it. -/
theorem lastPayload?_append_of_overridden {before after : List String} {v w : String}
    {key : SuffixKey} (hv : hasKey key v = true) (hw : w ∈ after) (hkey : hasKey key w = true)
    (key' : SuffixKey) :
    lastPayload? key' (before ++ after) = lastPayload? key' (before ++ v :: after) := by
  unfold lastPayload?
  rw [List.filter_append, List.filter_append, List.filter_cons]
  by_cases hv' : hasKey key' v = true
  · -- The key that is asked for is the one that is given again.
    obtain rfl : key = key' := by
      rw [hasKey, beq_iff_eq] at hv hv'
      exact SuffixKey.name_inj.mp (hv.symm.trans hv')
    have hne : after.filter (hasKey key) ≠ [] :=
      List.ne_nil_of_mem (List.mem_filter.mpr ⟨hw, hkey⟩)
    rw [if_pos hv', List.getLast?_append_of_ne_nil _ hne,
      List.getLast?_append_of_ne_nil _ (List.cons_ne_nil _ _), List.getLast?_cons_of_ne_nil hne]
  · -- Another key does not see the field at all.
    rw [if_neg hv']

/-- A list without a field that is overridden is read as the list with it. -/
theorem parse_eq_of_overridden {before after : List String} {v w : String} {key : SuffixKey}
    (hv : hasKey key v = true) (hw : w ∈ after) (hkey : hasKey key w = true)
    (h : parse g (before ++ v :: after) = .ok s) : parse g (before ++ after) = .ok s := by
  have htaken := exists_parse_eq_ok_iff.mp ⟨s, h⟩
  refine parse_congr (fun u hu => htaken u ?_) (lastPayload?_append_of_overridden hv hw hkey) h
  rw [List.mem_append] at hu ⊢
  exact hu.imp_right (List.mem_cons_of_mem v)

/-- A list of suffix fields is accepted exactly if each of them has an allowed key and a payload
    that is allowed to be what it is, and otherwise the first one that has not is told of. What
    an accepted list says depends on nothing but the last payload of each key: it is said in
    every order that keeps the order of the fields of each key, and without a field whose key is
    given again. -/
theorem parse_ofLasts (g : SuffixGrammar) :
    (∀ values, (∃ s, parse g values = .ok s) ↔ ∀ v ∈ values, g.Takes v) ∧
    (∀ values p, parse g values = .error p ↔ ∃ before v after, values = before ++ v :: after ∧
      (∀ w ∈ before, g.Takes w) ∧ g.Refused v p) ∧
    ∀ values s, parse g values = .ok s →
      (∀ values', (∀ v ∈ values', g.Takes v) →
        (∀ key, lastPayload? key values' = lastPayload? key values) →
          parse g values' = .ok s) ∧
      (∀ values', Rearranges values values' → parse g values' = .ok s) ∧
      ∀ before v after, values = before ++ v :: after →
        (∃ key, hasKey key v = true ∧ ∃ w ∈ after, hasKey key w = true) →
          parse g (before ++ after) = .ok s := by
  refine ⟨fun values => exists_parse_eq_ok_iff, fun values p => parse_eq_error_iff,
    fun values s h => ⟨?_, ?_, ?_⟩⟩
  · intro values' htaken hlast
    exact parse_congr htaken hlast h
  · intro values' hrearranges
    exact hrearranges.parse_eq h
  · rintro before v after rfl ⟨key, hv, w, hw, hkey⟩
    exact parse_eq_of_overridden hv hw hkey h

/-- The fields of a volume that is given two mount points: in another order, without the first
    of the mount points, and with a field that is told of before one that is no better. -/
theorem parse_ofLasts_volume :
    Rearranges ["mount=/a", "flags=esp", "mount=/b=c"] ["flags=esp", "mount=/a", "mount=/b=c"] ∧
      parse .volume ["mount=/a", "flags=esp", "mount=/b=c"] =
        .ok ⟨some (Path.parse "/b=c"), some (Flag.parse "esp"), none⟩ ∧
      parse .volume ["flags=esp", "mount=/a", "mount=/b=c"] =
        .ok ⟨some (Path.parse "/b=c"), some (Flag.parse "esp"), none⟩ ∧
      parse .volume ["flags=esp", "mount=/b=c"] =
        .ok ⟨some (Path.parse "/b=c"), some (Flag.parse "esp"), none⟩ ∧
      parse .volume ["mount=/a", "flags=", "keyid=k"] = .error (.emptyValue "flags") := by
  have hrearranges : Rearranges ["mount=/a", "flags=esp", "mount=/b=c"]
      ["flags=esp", "mount=/a", "mount=/b=c"] :=
    ⟨by decide, fun key => by cases key <;> decide⟩
  have hparse : parse .volume ["mount=/a", "flags=esp", "mount=/b=c"] =
      .ok ⟨some (Path.parse "/b=c"), some (Flag.parse "esp"), none⟩ := by
    decide
  rcases parse_ofLasts .volume with ⟨_, herror, hsame⟩
  rcases hsame _ _ hparse with ⟨_, horder, hwithout⟩
  refine ⟨hrearranges, hparse, horder _ hrearranges, ?_, (herror _ _).mpr ?_⟩
  · exact hwithout [] "mount=/a" ["flags=esp", "mount=/b=c"] rfl
      ⟨.mount, by decide, "mount=/b=c", by decide, by decide⟩
  · have hflags : SuffixGrammar.Refused .volume "flags=" (.emptyValue "flags") :=
      @SuffixGrammar.Refused.emptyValue .volume .flags (by decide) rfl
    refine ⟨["mount=/a"], "flags=", ["keyid=k"], rfl, ?_, hflags⟩
    exact List.forall_mem_singleton.mpr ⟨.mount, "/a", rfl, by decide, fun _ => by decide⟩

end Suffix

end DiskPlan
