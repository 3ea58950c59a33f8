import DiskPlan.Proofs.JsonTokens

/-!
# JSON Texts

What is written as JSON is read again as what it was.

A value is written over several lines, each item of a list and each field of an object on
a line of its own. Reading is given an amount of fuel and the text to the end, so each part
of a value has to be read with something behind it and with fuel left over. `Reads` says
what is read for every such rest and every amount that is enough, and a list or an object
of parts that are read so is read so itself. Three calls for a character are enough, since
a bracket takes three and the start of a line none.

Not every value is read back. The names of the fields of an object have to differ, since a
name that comes again replaces what it named. Numbers have to be within the limit. A
number with a fraction is not written digit by digit, and is left out here.

Reading stops at the first fault, so a number beyond the limit that comes first is told of
whatever stands behind it.

## Main definitions

* `IsSpelled`: A value that can be read from a text, at a depth.
* `Reads`: A text that is read as a value, whatever follows it.

## Theorems

* `reads_int`, `reads_label`, `reads_list`, `reads_object`: What is written of a value is
  read, by kinds of values.
* `scanValue_overlong`, `scanValue_item_of_error`, `scanValue_field_of_error`: A fault in
  the first part of a value is one of the value.
* `parse_indented`: What is written over several lines is read again.
-/

namespace DiskPlan

namespace Json

/-! ### Values -/

/-- A value that can be read from a text at a depth: with the names of the fields of every
    object different, and with all numbers within the limit and all labels as they can be
    spelled. Numbers with a fraction may be in it or not, and their whole parts are within the
    limit, too. -/
inductive IsSpelled (reals : Prop) : Nat → Json → Prop
  | null {depth : Nat} : IsSpelled reals depth .null
  | bool {depth : Nat} (b : Bool) : IsSpelled reals depth (.bool b)
  | int {depth : Nat} {n : Int} (h : Decimal.isWritable n = true) : IsSpelled reals depth (.int n)
  | real {depth : Nat} (x : Binary64) (h : reals)
      (hwhole : ∀ n ∈ x.truncate?, Decimal.isWritable n = true) : IsSpelled reals depth (.real x)
  | text {depth : Nat} (s : String) : IsSpelled reals depth (.text s)
  | label {depth : Nat} {l : Label} (h : l.IsSpelled) (hhalf : l.text? = none) :
      IsSpelled reals depth (.label l)
  | list {depth : Nat} {items : List Json} (h : ∀ v ∈ items, IsSpelled reals depth v) :
      IsSpelled reals (depth + 1) (.list items)
  | object {depth : Nat} {fields : Fields} (h : ∀ f ∈ fields, IsSpelled reals depth f.2)
      (hnames : (fields.map Prod.fst).Nodup) : IsSpelled reals (depth + 1) (.object fields)

/-- A text that is read as a value, whatever follows it in an indented text. Fuel is counted by
    characters, three for each, since a character is read by three calls at most. -/
structure Reads (depth : Nat) (cs : List Char) (v : Json) : Prop where
  begins : ∃ c tail, cs = c :: tail ∧ isSpace c = false ∧ c ≠ ']'
  scans : ∀ rest, Stops rest → ∀ fuel, 3 * cs.length ≤ fuel →
    scanValue depth fuel (cs ++ rest) = .ok (v, rest)

theorem skipSpace_of_begins {c : Char} (h : isSpace c = false) (cs : List Char) :
    skipSpace (c :: cs) = c :: cs :=
  List.dropWhile_cons_of_neg (by rw [h]; exact Bool.false_ne_true)

theorem Reads.skipSpace_append {depth : Nat} {cs : List Char} {v : Json} (h : Reads depth cs v)
    (rest : List Char) : skipSpace (cs ++ rest) = cs ++ rest := by
  rcases h.begins with ⟨c, tail, rfl, hspace, _⟩
  exact skipSpace_of_begins hspace (tail ++ rest)

/-- The start of a line is nothing but space, so it does not matter how far a line is indented. -/
theorem skipSpace_newline (depth : Nat) (cs : List Char) :
    skipSpace ((newline depth).toList ++ cs) = skipSpace cs := by
  unfold newline skipSpace
  rw [String.toList_ofList]
  refine List.dropWhile_append_of_pos fun c hc => ?_
  rcases List.mem_cons.mp hc with rfl | hc
  · rfl
  · rw [(List.mem_replicate.mp hc).2]
    rfl

theorem stops_newline (depth : Nat) (rest : List Char) :
    Stops ((newline depth).toList ++ rest) := by
  unfold newline
  rw [String.toList_ofList]
  exact stops_cons (Or.inr rfl) _

theorem length_newline (depth : Nat) : 0 < (newline depth).toList.length := by
  unfold newline
  rw [String.toList_ofList]
  exact Nat.succ_pos _

/-- No word begins with another letter, so a text that begins otherwise is no word. -/
theorem scanWord?_eq_none {c : Char} (h : c ∉ ['n', 't', 'f', 'N', 'I', '-'])
    (rest : List Char) : scanWord? (c :: rest) = none := by
  have hnone : ∀ w ∈ words, w.1.toList.isPrefixOf (c :: rest) = false := by
    intro w hw
    -- A list of words that is fixed, so their first letters are read off.
    have hfirst : ∃ first tail, w.1.toList = first :: tail ∧
        first ∈ ['n', 't', 'f', 'N', 'I', '-'] := by
      simp only [words, List.mem_cons, List.not_mem_nil, or_false] at hw
      rcases hw with rfl | rfl | rfl | rfl | rfl | rfl <;> exact ⟨_, _, rfl, by decide⟩
    rcases hfirst with ⟨first, tail, hfirst, hmem⟩
    have hne : (first == c) = false := by
      rw [beq_eq_false_iff_ne]
      rintro rfl
      exact h hmem
    rw [hfirst, List.isPrefixOf, hne, Bool.false_and]
  unfold scanWord?
  rw [List.find?_eq_none.mpr fun w hw => by rw [hnone w hw]; exact Bool.false_ne_true]
  rfl

theorem scanWord?_minus {c : Char} (h : c ≠ 'I') (rest : List Char) :
    scanWord? ('-' :: c :: rest) = none := by
  have hne : ('I' == c) = false := beq_eq_false_iff_ne.mpr (Ne.symm h)
  unfold scanWord? words
  rw [Option.map_eq_none_iff, List.find?_eq_none]
  simp only [List.mem_cons, List.not_mem_nil, or_false]
  -- A minus sign begins one word only, of which the second letter settles it.
  rintro w (rfl | rfl | rfl | rfl | rfl | rfl) hprefix
  iterate 5 exact absurd hprefix (by simp [List.isPrefixOf])
  exact absurd hprefix (by simp [List.isPrefixOf, hne])

/-- A word is read as what it stands for. It is asked of the text alone, so nothing has to be
    known of what follows. -/
theorem reads_word (depth : Nat) {cs : List Char} {v : Json}
    (h : ∀ rest, scanWord? (cs ++ rest) = some (v, rest))
    (hbegins : ∃ c tail, cs = c :: tail ∧ isSpace c = false ∧ c ≠ ']') : Reads depth cs v := by
  refine ⟨hbegins, fun rest _ fuel hfuel => ?_⟩
  cases fuel with
  | zero =>
      rcases hbegins with ⟨c, tail, rfl, _⟩
      exact absurd hfuel (Nat.not_succ_le_zero _)
  | succ fuel =>
      unfold scanValue
      rw [h rest]

/-- A digit is none of the characters that are not digits. -/
theorem ne_of_isDigit {c : Char} (h : c.isDigit = true) (c' : Char) (h' : c'.isDigit = false) :
    c ≠ c' := by
  rintro rfl
  exact absurd (h'.symm.trans h) Bool.false_ne_true

theorem isSpace_of_isDigit {c : Char} (h : c.isDigit = true) : isSpace c = false := by
  have hne := ne_of_isDigit h
  simp [isSpace, hne ' ' rfl, hne '\t' rfl, hne '\n' rfl, hne '\r' rfl]

theorem exists_digit_of_repr (n : Nat) :
    ∃ c tail, n.repr.toList = c :: tail ∧ c.isDigit = true := by
  cases hdigits : n.repr.toList with
  | nil => exact absurd hdigits (Decimal.toList_repr_ne_nil n)
  | cons c tail => exact ⟨c, tail, rfl, isDigit_of_mem_repr (hdigits ▸ List.mem_cons_self)⟩

/-- What begins with a digit is read as a number: the first character decides, and a digit is
    none of those that decide otherwise. -/
theorem scanValue_digit (depth fuel : Nat) {c : Char} (h : c.isDigit = true) (rest : List Char) :
    scanValue depth (fuel + 1) (c :: rest) = scanNumber false (c :: rest) := by
  have hne := ne_of_isDigit h
  -- None of the words begins with a digit.
  have hword : c ∉ ['n', 't', 'f', 'N', 'I', '-'] := by
    intro hmem
    have hother : ['n', 't', 'f', 'N', 'I', '-'].all (fun c => !c.isDigit) = true := by decide
    have hc := List.all_eq_true.mp hother c hmem
    rw [h] at hc
    exact absurd hc Bool.false_ne_true
  unfold scanValue
  rw [scanWord?_eq_none hword]
  dsimp only
  split
  · rename_i heq
    exact absurd (List.cons.inj heq).1 (hne '"' rfl)
  · rename_i heq
    exact absurd (List.cons.inj heq).1 (hne '[' rfl)
  · rename_i heq
    exact absurd (List.cons.inj heq).1 (hne '\x7b' rfl)
  · rename_i heq
    exact absurd (List.cons.inj heq).1 (hne '-' rfl)
  · rfl

/-- What begins with a minus sign and a digit is read as a number below zero. -/
theorem scanValue_minus (depth fuel : Nat) {c : Char} (h : c.isDigit = true) (rest : List Char) :
    scanValue depth (fuel + 1) ('-' :: c :: rest) = scanNumber true (c :: rest) := by
  unfold scanValue
  rw [scanWord?_minus (ne_of_isDigit h 'I' rfl)]
  rfl

theorem reads_int (depth : Nat) {n : Int} (h : Decimal.isWritable n = true) :
    Reads depth (Decimal.text n).toList (.int n) := by
  have hlength := (length_repr_le_iff n).mpr h
  -- With or without a minus sign, a number begins with the first of its digits.
  cases n with
  | ofNat n =>
      rcases exists_digit_of_repr n with ⟨c, tail, hdigits, hc⟩
      have htext : (Decimal.text (.ofNat n)).toList = c :: tail := hdigits
      rw [htext]
      refine ⟨⟨c, tail, rfl, isSpace_of_isDigit hc, ne_of_isDigit hc ']' rfl⟩, ?_⟩
      intro rest hrest fuel hfuel
      cases fuel with
      | zero => exact absurd hfuel (Nat.not_succ_le_zero _)
      | succ fuel =>
          rw [List.cons_append, scanValue_digit depth fuel hc, ← List.cons_append, ← hdigits]
          exact scanNumber_repr hlength false hrest
  | negSucc n =>
      rcases exists_digit_of_repr (n + 1) with ⟨c, tail, hdigits, hc⟩
      have htext : (Decimal.text (.negSucc n)).toList = '-' :: c :: tail := by
        rw [Decimal.text, String.toList_append, hdigits]
        rfl
      rw [htext]
      refine ⟨⟨'-', c :: tail, rfl, by decide, by decide⟩, fun rest hrest fuel hfuel => ?_⟩
      cases fuel with
      | zero => exact absurd hfuel (Nat.not_succ_le_zero _)
      | succ fuel =>
          rw [List.cons_append, List.cons_append, scanValue_minus depth fuel hc,
            ← List.cons_append, ← hdigits]
          exact scanNumber_repr hlength true hrest

/-- What begins with a quote is read as a label. The glyphs up to the closing quote are read
    first, and whether the label is a text is decided afterwards. -/
theorem scanValue_quote (depth fuel : Nat) {cs rest : List Char} {gs : List Glyph}
    (h : scanString (cs.length + 1) cs = .ok (gs, rest)) :
    scanValue depth (fuel + 1) ('"' :: cs) = .ok (ofLabel ⟨gs⟩, rest) := by
  unfold scanValue
  rw [scanWord?_eq_none (by decide)]
  dsimp only
  split
  · rename_i heq
    obtain rfl := (List.cons.inj heq).2
    rw [h]
  · rename_i heq
    exact absurd (List.cons.inj heq).1 (by decide)
  · rename_i heq
    exact absurd (List.cons.inj heq).1 (by decide)
  · rename_i heq
    exact absurd (List.cons.inj heq).1 (by decide)
  · rename_i hother _ _ _
    exact absurd rfl (hother cs)

theorem reads_label (depth : Nat) {l : Label} (h : l.IsSpelled) :
    Reads depth (quotedLabel l).toList (ofLabel l) := by
  refine ⟨⟨'"', _, toList_quotedLabel l, by decide, by decide⟩, fun rest _ fuel hfuel => ?_⟩
  cases fuel with
  | zero =>
      rw [toList_quotedLabel] at hfuel
      exact absurd hfuel (Nat.not_succ_le_zero _)
  | succ fuel =>
      rcases scanString_quotedLabel h rest with ⟨tail, htail, hscan⟩
      rw [htail]
      exact scanValue_quote depth fuel hscan

/-! ### Lists and objects -/

section Scanning

variable {depth fuel : Nat} {cs tail more rest : List Char} {item : Json} {items : List Json}
  {fields : Fields} {name : List Glyph}

/-- An item is the last one if the bracket follows it. -/
theorem scanItems_last (hitem : scanValue depth fuel cs = .ok (item, tail))
    (hclose : skipSpace tail = ']' :: rest) :
    scanItems depth (fuel + 1) cs = .ok ([item], rest) := by
  unfold scanItems
  rw [hitem]
  dsimp only
  rw [hclose]
  rfl

/-- An item is followed by others if a comma follows it. -/
theorem scanItems_comma (hitem : scanValue depth fuel cs = .ok (item, tail))
    (hcomma : skipSpace tail = ',' :: more)
    (hothers : scanItems depth fuel (skipSpace more) = .ok (items, rest)) :
    scanItems depth (fuel + 1) cs = .ok (item :: items, rest) := by
  unfold scanItems
  rw [hitem]
  dsimp only
  split
  · rename_i heq
    exact absurd (List.cons.inj (hcomma.symm.trans heq)).1 (by decide)
  · rename_i heq
    obtain rfl := (List.cons.inj (hcomma.symm.trans heq)).2
    rw [hothers]
  · rename_i hother
    exact absurd hcomma (hother more)

/-- A field is its name, a colon, and its value. Its last branch is the one for a text that goes
    on with neither a comma nor a brace. -/
theorem scanFields_name (hname : scanString (cs.length + 1) cs = .ok (name, tail))
    (hcolon : skipSpace tail = ':' :: more) :
    scanFields depth (fuel + 1) fields ('"' :: cs) =
      match scanValue depth fuel (skipSpace more) with
      | .error f => .error f
      | .ok (value, rest) =>
        match skipSpace rest with
        | '\x7d' :: rest => .ok (put (Label.repaired ⟨name⟩) value fields, rest)
        | ',' :: rest =>
          scanFields depth fuel (put (Label.repaired ⟨name⟩) value fields) (skipSpace rest)
        | rest => .error (.malformed (.delimiter ',') rest.length) := by
  conv_lhs => unfold scanFields
  split
  · rename_i heq
    obtain rfl := (List.cons.inj heq).2
    rw [hname]
    dsimp only
    rw [hcolon]
    rfl
  · rename_i hother
    exact absurd rfl (hother cs)

theorem scanValue_bracket : scanValue depth (fuel + 1) ('[' :: cs) =
    scanList depth fuel (skipSpace cs) := by
  unfold scanValue
  rw [scanWord?_eq_none (by decide)]
  rfl

theorem scanValue_brace : scanValue depth (fuel + 1) ('\x7b' :: cs) =
    scanObject depth fuel (skipSpace cs) := by
  unfold scanValue
  rw [scanWord?_eq_none (by decide)]
  rfl

/-- A list that is not closed at once is made of its items, at a depth that is one less. -/
theorem scanList_eq {c : Char} (hc : c ≠ ']') :
    scanList (depth + 1) (fuel + 1) (c :: cs) =
      (scanItems depth fuel (c :: cs)).map fun x => (.list x.1, x.2) := by
  unfold scanList
  split
  · rename_i hzero
    exact absurd hzero (Nat.succ_ne_zero depth)
  · rename_i heq
    exact absurd (List.cons.inj heq).1 hc
  · rename_i hdepth _
    obtain rfl := Nat.succ.inj hdepth
    cases scanItems depth fuel (c :: cs) <;> rfl

/-- An object that is not closed at once is made of its fields. -/
theorem scanObject_eq :
    scanObject (depth + 1) (fuel + 1) ('"' :: cs) =
      (scanFields depth fuel [] ('"' :: cs)).map fun x => (.object x.1, x.2) := by
  unfold scanObject
  split
  · rename_i hzero
    exact absurd hzero (Nat.succ_ne_zero depth)
  · rename_i heq
    exact absurd (List.cons.inj heq).1 (by decide)
  · rename_i hdepth _
    obtain rfl := Nat.succ.inj hdepth
    cases scanFields depth fuel [] ('"' :: cs) <;> rfl

end Scanning

/-- Between the lines of a list or an object there is a comma and the start of the next. The
    start of a line is indented by the depth of the lines. -/
def separator (depth : Nat) : List Char :=
  ',' :: (newline depth).toList

theorem skipSpace_separator (depth : Nat) (cs : List Char) :
    skipSpace (separator depth ++ cs) = ',' :: ((newline depth).toList ++ cs) :=
  skipSpace_of_begins (by decide) _

theorem skipSpace_close {c : Char} (h : isSpace c = false) (depth : Nat) (cs : List Char) :
    skipSpace ((newline depth).toList ++ c :: cs) = c :: cs := by
  rw [skipSpace_newline, skipSpace_of_begins h]

theorem stops_separator (depth : Nat) (rest : List Char) : Stops (separator depth ++ rest) :=
  stops_cons (Or.inl rfl) _

/-- Lines begin with the first of them, so what is read first is known without the others. -/
theorem lines_begin {c : Char} {line : List Char} (h : ∃ tail, line = c :: tail) (depth : Nat)
    (lines : List (List Char)) (rest : List Char) :
    ∃ tail, (separator depth).intercalate (line :: lines) ++ rest = c :: tail := by
  rcases h with ⟨tail, rfl⟩
  cases lines with
  | nil => exact ⟨_, by rw [List.intercalate_singleton, List.cons_append]⟩
  | cons line' lines =>
      exact ⟨_, by rw [List.intercalate_cons_cons, List.cons_append, List.cons_append,
        List.cons_append]⟩

theorem skipSpace_lines {c : Char} {line : List Char} (h : ∃ tail, line = c :: tail)
    (hspace : isSpace c = false) (depth : Nat) (lines : List (List Char)) (rest : List Char) :
    skipSpace ((separator depth).intercalate (line :: lines) ++ rest) =
      (separator depth).intercalate (line :: lines) ++ rest := by
  rcases lines_begin h depth lines rest with ⟨tail, htail⟩
  rw [htail, skipSpace_of_begins hspace]

/-- Lines that are read as items, with separators between them and a bracket at the end. -/
theorem scanItems_lines {depth : Nat} {lines : List (List Char)} {items : List Json}
    (h : List.Forall₂ (Reads depth) lines items) (hne : lines ≠ []) (inner outer : Nat)
    (rest : List Char) (fuel : Nat)
    (hfuel : 3 * ((separator inner).intercalate lines).length < fuel) :
    scanItems depth fuel ((separator inner).intercalate lines ++
      ((newline outer).toList ++ ']' :: rest)) = .ok (items, rest) := by
  -- Over the lines, for whatever fuel is left. Each line costs at least the call that reads it.
  induction h generalizing fuel with
  | nil => exact absurd rfl hne
  | @cons line item lines items hline hlines ih =>
      cases fuel with
      | zero => exact absurd hfuel (Nat.not_lt_zero _)
      | succ fuel =>
          -- The last line is followed by the bracket, any other one by a comma.
          cases hlines with
          | nil =>
              rw [List.intercalate_singleton] at hfuel ⊢
              have hitem := hline.scans _ (stops_newline outer (']' :: rest)) fuel (by omega)
              exact scanItems_last hitem (skipSpace_close (by decide) outer rest)
          | @cons line' item' lines items hline' hlines =>
              rw [List.intercalate_cons_cons] at hfuel ⊢
              rw [List.length_append, List.length_append] at hfuel
              rw [List.append_assoc, List.append_assoc]
              have hseparator : 0 < (separator inner).length := Nat.succ_pos _
              -- The comma pays for the call that reads the next item.
              refine scanItems_comma (hline.scans _ (stops_separator inner _) fuel (by omega))
                (skipSpace_separator inner _) ?_
              rcases hline'.begins with ⟨c, tail, hbegins, hspace, _⟩
              rw [skipSpace_newline, skipSpace_lines ⟨tail, hbegins⟩ hspace]
              exact ih (List.cons_ne_nil _ _) fuel (by omega)

/-- A line that is read as a field: its name in quotes, and its value after a colon. The space
    behind the colon is skipped before the value. -/
def ReadsField (depth : Nat) (line : List Char) (f : String × Json) : Prop :=
  ∃ cs, line = (quoted f.1).toList ++ ':' :: ' ' :: cs ∧ Reads depth cs f.2

/-- A name that is not there yet is added behind the others. -/
theorem put_of_not_mem {name : String} {fields : Fields} (h : name ∉ fields.map Prod.fst)
    (value : Json) : put name value fields = fields ++ [(name, value)] := by
  -- Along the fields that are there, none of which has the name.
  induction fields with
  | nil => rfl
  | cons f rest ih =>
      rw [List.map_cons, List.mem_cons, not_or] at h
      rw [put, if_neg (Ne.symm h.1), ih h.2, List.cons_append]

theorem ReadsField.begins {depth : Nat} {line : List Char} {f : String × Json}
    (h : ReadsField depth line f) : ∃ tail, line = '"' :: tail := by
  rcases h with ⟨cs, rfl, _⟩
  rw [quoted_eq, toList_quotedLabel]
  exact ⟨_, rfl⟩

/-- A line that is read as a field is added to those that were read before it, behind them, since
    its name is new. -/
theorem ReadsField.scanFields {depth : Nat} {line : List Char} {f : String × Json}
    (h : ReadsField depth line f) {fields : Fields} (hnew : f.1 ∉ fields.map Prod.fst)
    {rest : List Char} (hrest : Stops rest) {fuel : Nat} (hfuel : 3 * line.length ≤ fuel) :
    scanFields depth (fuel + 1) fields (line ++ rest) =
      match skipSpace rest with
      | '\x7d' :: rest => .ok (fields ++ [f], rest)
      | ',' :: rest => Json.scanFields depth fuel (fields ++ [f]) (skipSpace rest)
      | rest => .error (.malformed (.delimiter ',') rest.length) := by
  rcases h with ⟨cs, rfl, hvalue⟩
  rw [quoted_eq, List.length_append, List.length_cons, List.length_cons] at hfuel
  rw [quoted_eq, List.append_assoc, List.cons_append, List.cons_append]
  -- The name is read up to its closing quote, with everything behind it left.
  rcases scanString_quotedLabel (isSpelled_ofString f.1) (':' :: ' ' :: (cs ++ rest)) with
    ⟨tail, htail, hname⟩
  have hskip : skipSpace (' ' :: (cs ++ rest)) = cs ++ rest := by
    refine Eq.trans ?_ (hvalue.skipSpace_append rest)
    exact List.dropWhile_cons_of_pos rfl
  have hscan : scanValue depth fuel (skipSpace (' ' :: (cs ++ rest))) = .ok (f.2, rest) := by
    rw [hskip]
    exact hvalue.scans rest hrest fuel (by omega)
  rw [htail, scanFields_name hname (skipSpace_of_begins (by decide) _), hscan]
  -- A name is a text, so nothing in it is replaced.
  have hput : put (Label.repaired ⟨(Label.ofString f.1).glyphs⟩) f.2 fields = fields ++ [f] := by
    rw [show Label.repaired ⟨(Label.ofString f.1).glyphs⟩ = f.1 from repaired_ofString f.1,
      put_of_not_mem hnew]
  dsimp only
  rw [hput]

/-- Lines that are read as fields, with separators between them and a brace at the end. -/
theorem scanFields_lines {depth : Nat} {lines : List (List Char)} {fields : Fields}
    (h : List.Forall₂ (ReadsField depth) lines fields) (hne : lines ≠ []) (inner outer : Nat)
    (rest : List Char) (found : Fields) (hnames : ((found ++ fields).map Prod.fst).Nodup)
    (fuel : Nat) (hfuel : 3 * ((separator inner).intercalate lines).length < fuel) :
    scanFields depth fuel found ((separator inner).intercalate lines ++
      ((newline outer).toList ++ '\x7d' :: rest)) = .ok (found ++ fields, rest) := by
  -- As for items, with the fields that were found before growing by one at each line.
  induction h generalizing fuel found with
  | nil => exact absurd rfl hne
  | @cons line f lines fields hline hlines ih =>
      cases fuel with
      | zero => exact absurd hfuel (Nat.not_lt_zero _)
      | succ fuel =>
          -- The names differ, so the name of this line is none of those that were found.
          have hnew : f.1 ∉ found.map Prod.fst := by
            rw [List.map_append, List.map_cons, List.nodup_append] at hnames
            exact fun hmem => hnames.2.2 _ hmem _ List.mem_cons_self rfl
          cases hlines with
          | nil =>
              rw [List.intercalate_singleton] at hfuel ⊢
              rw [hline.scanFields hnew (stops_newline outer _) (by omega),
                skipSpace_close (by decide)]
              rfl
          | @cons line' f' lines fields hline' hlines =>
              rw [List.intercalate_cons_cons] at hfuel ⊢
              rw [List.length_append, List.length_append] at hfuel
              rw [List.append_assoc, List.append_assoc]
              have hseparator : 0 < (separator inner).length := Nat.succ_pos _
              rw [hline.scanFields hnew (stops_separator inner _) (by omega), skipSpace_separator]
              change Json.scanFields depth fuel _ (skipSpace ((newline inner).toList ++ _)) = _
              rw [skipSpace_newline, skipSpace_lines hline'.begins (by decide),
                ih (List.cons_ne_nil _ _) _ (by rw [List.append_assoc]; exact hnames) fuel
                  (by omega),
                List.append_assoc, List.singleton_append]

/-! ### Faults -/

section Faults

variable {depth fuel : Nat} {cs : List Char} {f : Fault}

/-- A number beyond the limit stops the reading, wherever in a value it stands. -/
theorem scanValue_overlong (depth fuel : Nat) {n : Nat} (h : Decimal.isWritable n = false)
    {rest : List Char} (hrest : Stops rest) :
    scanValue depth (fuel + 1) (n.repr.toList ++ rest) =
      .error (.numeral (.reading n.repr.toList.length)) := by
  have hlength : ¬ n.repr.toList.length ≤ Decimal.digitLimit := by
    intro hle
    have hwritable := (length_repr_le_iff n).mp hle
    exact absurd (h.symm.trans hwritable) Bool.false_ne_true
  have hread : Decimal.read n.repr.toList = .error (.reading n.repr.toList.length) :=
    if_neg hlength
  -- The number begins with a digit, so it is read as a number.
  rcases exists_digit_of_repr n with ⟨c, tail, hdigits, hc⟩
  have hscan : scanValue depth (fuel + 1) (n.repr.toList ++ rest) =
      scanNumber false (n.repr.toList ++ rest) := by
    rw [hdigits, List.cons_append]
    exact scanValue_digit depth fuel hc _
  rw [hscan, scanNumber_repr_eq n false hrest, hread]

/-- A fault in the first item of a list is one of the list, since nothing else is read before it. -/
theorem scanValue_item_of_error {c : Char} (hspace : isSpace c = false) (hc : c ≠ ']')
    (h : scanValue depth fuel (c :: cs) = .error f) :
    scanValue (depth + 1) (fuel + 3) ('[' :: c :: cs) = .error f := by
  have hitems : scanItems depth (fuel + 1) (c :: cs) = .error f := by
    unfold scanItems
    rw [h]
  rw [scanValue_bracket, skipSpace_of_begins hspace, scanList_eq hc, hitems]
  rfl

/-- A fault in the first field of an object is one of the object. -/
theorem scanValue_field_of_error (name : String) {c : Char} (hspace : isSpace c = false)
    (h : scanValue depth fuel (c :: cs) = .error f) :
    scanValue (depth + 1) (fuel + 3) ('\x7b' :: ((quoted name).toList ++ ':' :: c :: cs)) =
      .error f := by
  rcases scanString_quotedLabel (isSpelled_ofString name) (':' :: c :: cs) with
    ⟨tail, htail, hname⟩
  have hfields : scanFields depth (fuel + 1) [] ('"' :: tail) = .error f := by
    rw [scanFields_name hname (skipSpace_of_begins (by decide) _), skipSpace_of_begins hspace, h]
  rw [quoted_eq, htail, scanValue_brace, skipSpace_of_begins (by decide), scanObject_eq, hfields]
  rfl

end Faults

/-! ### Indented texts -/

theorem indentedItems_eq (depth : Nat) (items : List Json) :
    indentedItems depth items = items.map (indentedAt depth) := by
  induction items with
  | nil => rw [indentedItems, List.map_nil]
  | cons item rest ih => rw [indentedItems, ih, List.map_cons]

theorem indentedFields_eq (depth : Nat) (fields : Fields) :
    indentedFields depth fields =
      fields.map fun f => quoted f.1 ++ ": " ++ indentedAt depth f.2 := by
  induction fields with
  | nil => rw [indentedFields, List.map_nil]
  | cons f rest ih => rw [indentedFields, ih, List.map_cons]

section Brackets

variable {opening closing : String} {a b : Char} {lines : List String}

/-- Lines between two brackets, and what follows them. -/
theorem toList_bracketed (hopening : opening.toList = [a]) (hclosing : closing.toList = [b])
    (hne : lines ≠ []) (depth : Nat) (rest : List Char) :
    (bracketed opening closing depth lines).toList ++ rest =
      a :: ((newline (depth + 1)).toList ++
        ((separator (depth + 1)).intercalate (lines.map String.toList) ++
          ((newline depth).toList ++ b :: rest))) := by
  unfold bracketed separator
  rw [if_neg (by rw [List.isEmpty_iff]; exact hne)]
  simp only [String.toList_append, String.toList_intercalate, List.append_assoc, hopening,
    hclosing, List.singleton_append]
  rfl

theorem toList_bracketed_nil (hopening : opening.toList = [a]) (hclosing : closing.toList = [b])
    (depth : Nat) : (bracketed opening closing depth []).toList = [a, b] := by
  change (opening ++ closing).toList = _
  rw [String.toList_append, hopening, hclosing, List.singleton_append]

/-- Brackets with or without lines between them begin with the first. -/
theorem bracketed_begins (hopening : opening.toList = [a]) (closing : String) (depth : Nat)
    (lines : List String) : ∃ tail, (bracketed opening closing depth lines).toList = a :: tail := by
  unfold bracketed
  split
  · exact ⟨_, by rw [String.toList_append, hopening, List.singleton_append]⟩
  · simp only [String.toList_append, hopening, List.append_assoc]
    exact ⟨_, rfl⟩

/-- The lines between two brackets are shorter than the whole by both of them and by two starts
    of lines. This is what pays for the calls that read the brackets. -/
theorem length_lines_le (hopening : opening.toList = [a]) (hclosing : closing.toList = [b])
    (hne : lines ≠ []) (depth : Nat) :
    ((separator (depth + 1)).intercalate (lines.map String.toList)).length + 4 ≤
      (bracketed opening closing depth lines).toList.length := by
  have htext := congrArg List.length (toList_bracketed hopening hclosing hne depth [])
  have hinner := length_newline (depth + 1)
  have houter := length_newline depth
  simp only [List.append_nil, List.length_append, List.length_cons, List.length_nil] at htext
  omega

end Brackets

/-- A list whose items are read from lines is read from the lines between brackets. -/
theorem reads_list {depth : Nat} {lines : List String} {items : List Json}
    (h : List.Forall₂ (fun line => Reads depth line.toList) lines items) (outer : Nat) :
    Reads (depth + 1) (bracketed "[" "]" outer lines).toList (.list items) := by
  rcases bracketed_begins (show "[".toList = ['['] from rfl) "]" outer lines with ⟨tail, hbegins⟩
  refine ⟨⟨'[', tail, hbegins, by decide, by decide⟩, fun rest _ fuel hfuel => ?_⟩
  cases h with
  | nil =>
      rw [toList_bracketed_nil rfl rfl] at hfuel ⊢
      obtain ⟨fuel, rfl⟩ : ∃ k, fuel = k + 2 := ⟨fuel - 2, by simp at hfuel; omega⟩
      exact scanValue_bracket
  | @cons line item lines items hline hlines =>
      have hall : List.Forall₂ (Reads depth) ((line :: lines).map String.toList) (item :: items) :=
        List.forall₂_map_left_iff.mpr (.cons hline hlines)
      have hne : line :: lines ≠ [] := List.cons_ne_nil _ _
      have hopen : "[".toList = ['['] := rfl
      have hclose : "]".toList = [']'] := rfl
      have hlength := length_lines_le hopen hclose hne outer
      -- Two calls are spent on the bracket and the list, the others are for the items.
      obtain ⟨fuel, rfl⟩ : ∃ k, fuel = k + 2 := ⟨fuel - 2, by omega⟩
      have hitems := scanItems_lines hall (List.cons_ne_nil _ _) (outer + 1) outer rest fuel
        (by omega)
      rcases hline.begins with ⟨c, tail, hbegins, hspace, hc⟩
      rcases lines_begin ⟨tail, hbegins⟩ (outer + 1) (lines.map String.toList)
        ((newline outer).toList ++ ']' :: rest) with ⟨tail', htail'⟩
      rw [List.map_cons, htail'] at hitems
      rw [toList_bracketed hopen hclose hne, scanValue_bracket, skipSpace_newline, List.map_cons,
        htail', skipSpace_of_begins hspace, scanList_eq hc, hitems]
      rfl

/-- An object whose fields are read from lines is read from the lines between braces. -/
theorem reads_object {depth : Nat} {lines : List String} {fields : Fields}
    (h : List.Forall₂ (fun line => ReadsField depth line.toList) lines fields)
    (hnames : (fields.map Prod.fst).Nodup) (outer : Nat) :
    Reads (depth + 1) (bracketed "\x7b" "\x7d" outer lines).toList (.object fields) := by
  rcases bracketed_begins (show "\x7b".toList = ['\x7b'] from rfl) "\x7d" outer
    lines with ⟨tail, hbegins⟩
  refine ⟨⟨'\x7b', tail, hbegins, by decide, by decide⟩, fun rest _ fuel hfuel => ?_⟩
  cases h with
  | nil =>
      rw [toList_bracketed_nil rfl rfl] at hfuel ⊢
      obtain ⟨fuel, rfl⟩ : ∃ k, fuel = k + 2 := ⟨fuel - 2, by simp at hfuel; omega⟩
      exact scanValue_brace
  | @cons line f lines fields hline hlines =>
      -- All lines are read as fields, the first of them included.
      have hall : List.Forall₂ (ReadsField depth) ((line :: lines).map String.toList)
          (f :: fields) := List.forall₂_map_left_iff.mpr (.cons hline hlines)
      have hne : line :: lines ≠ [] := List.cons_ne_nil _ _
      have hopen : "\x7b".toList = ['\x7b'] := rfl
      have hclose : "\x7d".toList = ['\x7d'] := rfl
      have hlength := length_lines_le hopen hclose hne outer
      obtain ⟨fuel, rfl⟩ : ∃ k, fuel = k + 2 := ⟨fuel - 2, by omega⟩
      have hfields := scanFields_lines hall (List.cons_ne_nil _ _) (outer + 1) outer rest
        [] hnames fuel (by omega)
      rcases lines_begin hline.begins (outer + 1) (lines.map String.toList)
        ((newline outer).toList ++ '\x7d' :: rest) with ⟨tail, htail⟩
      rw [List.map_cons, htail] at hfields
      rw [toList_bracketed hopen hclose hne, scanValue_brace, skipSpace_newline, List.map_cons,
        htail, skipSpace_of_begins (by decide), scanObject_eq, hfields]
      rfl

/-- A value without fractions that is written over several lines is read from them. Fractions are
    left out, since none of the documents that are read again has any. -/
theorem reads_indentedAt {depth : Nat} {v : Json} (h : IsSpelled False depth v) (outer : Nat) :
    Reads depth (indentedAt outer v).toList v := by
  -- Over the value, for any depth at which it stands in the text.
  induction h generalizing outer with
  | null =>
      rw [indentedAt]
      exact reads_word _ (fun _ => rfl) ⟨'n', _, rfl, by decide, by decide⟩
  | bool b =>
      rw [indentedAt]
      cases b with
      | false => exact reads_word _ (fun _ => rfl) ⟨'f', _, rfl, by decide, by decide⟩
      | true => exact reads_word _ (fun _ => rfl) ⟨'t', _, rfl, by decide, by decide⟩
  | int h =>
      rw [indentedAt]
      exact reads_int _ h
  | real _ h _ => exact h.elim
  | text s =>
      rw [indentedAt, quoted_eq, ← ofLabel_ofString]
      exact reads_label _ (isSpelled_ofString s)
  | @label _ l h hhalf =>
      -- The label is no text, so it is read as a label again.
      have hsame : ofLabel l = .label l := by
        unfold ofLabel
        rw [hhalf]
      rw [indentedAt, ← hsame]
      exact reads_label _ h
  | @list depth items _ ih =>
      rw [indentedAt, indentedItems_eq]
      refine reads_list ?_ outer
      rw [List.forall₂_map_left_iff, List.forall₂_same]
      exact fun v hv => ih v hv (outer + 1)
  | @object depth fields _ hnames ih =>
      rw [indentedAt, indentedFields_eq]
      refine reads_object ?_ hnames outer
      rw [List.forall₂_map_left_iff, List.forall₂_same]
      refine fun f hf => ⟨(indentedAt (outer + 1) f.2).toList, ?_, ih f hf (outer + 1)⟩
      rw [String.toList_append, String.toList_append, List.append_assoc]
      rfl

/-- No value begins with a byte order mark. -/
theorem scanValue_byteOrderMark (depth fuel : Nat) (cs : List Char) :
    scanValue depth fuel (byteOrderMark :: cs) = .error (.malformed .value (cs.length + 1)) := by
  cases fuel with
  -- A byte order mark is no word, no digit, and none of the other first characters.
  | zero => rfl
  | succ fuel =>
      unfold scanValue
      rw [scanWord?_eq_none (by decide)]
      rfl

/-- A text that begins with neither white space nor a byte order mark is read from its front. -/
theorem parse_of_begins {s : String} {c : Char} {tail : List Char} (hs : s.toList = c :: tail)
    (hspace : isSpace c = false) (hmark : c ≠ byteOrderMark) :
    parse s =
      match scanValue depthLimit (3 * s.toList.length + 3) s.toList with
      | .error f => .error f
      | .ok (value, rest) =>
        let rest := skipSpace rest
        if rest.isEmpty then .ok value else .error (.malformed .extraData rest.length) := by
  have hhead : ¬ s.toList.head? = some byteOrderMark := by
    rw [hs]
    exact fun hc => hmark (Option.some.inj hc)
  have hskip : skipSpace s.toList = s.toList := by rw [hs, skipSpace_of_begins hspace]
  cases hscan : scanValue depthLimit (3 * s.toList.length + 3) s.toList with
  | error f => simp only [parse, if_neg hhead, hskip, hscan]
  | ok r => simp only [parse, if_neg hhead, hskip, hscan]

/-- What is written over several lines is read again as what it was. So nothing is lost between
    the writing of a plan and its reading. -/
theorem parse_indented {v : Json} (h : IsSpelled False depthLimit v) :
    parse v.indented = .ok v := by
  have hreads : Reads depthLimit v.indented.toList v := reads_indentedAt h 0
  have hscan := hreads.scans [] stops_nil (3 * v.indented.toList.length + 3) (Nat.le_add_right _ _)
  rw [List.append_nil] at hscan
  rcases hreads.begins with ⟨c, tail, hbegins, hspace, _⟩
  -- The mark would be read as no value, but this text is read as one.
  have hmark : c ≠ byteOrderMark := by
    rintro rfl
    rw [hbegins, scanValue_byteOrderMark] at hscan
    exact absurd hscan (by simp only [reduceCtorEq, not_false_eq_true])
  rw [parse_of_begins hbegins hspace hmark, hscan]
  rfl

end Json

end DiskPlan
