import Checkup.Proofs.Json.Literal

/-!
# Reading undoes writing

A value is read back from the text that is written for it, compact or indented, if its strings have texts and
its numerals can be read (`IsPlain`): `IsPlain.parse?_print_append`.

The proof is by induction on the value, for the text of the value within a longer one (`IsReadBack`). The items
of an array and the members of an object are read one after the other, by induction on their list
(`readItems_printItems_append`, `readMembers_printMembers_append`). Two steps of the readers pass a character at
least, so twice the length of the text is fuel enough; the comma before each further item pays for its step.
-/

namespace Checkup.Json

/-! ### Blanks -/

theorem skipSpace_append {blanks : List Char} (h : ∀ c ∈ blanks, isSpace c = true) (cs : List Char) :
    skipSpace (blanks ++ cs) = skipSpace cs :=
  List.dropWhile_append_of_pos h

theorem skipSpace_cons {c : Char} (h : isSpace c = false) (cs : List Char) : skipSpace (c :: cs) = c :: cs :=
  List.dropWhile_cons_of_neg (by simp [h])

/-! ### Values -/

/-- A value all of whose strings have texts and all of whose numerals can be read. -/
inductive IsPlain : Json → Prop where
  | null : IsPlain null
  | bool (value : Bool) : IsPlain (.bool value)
  | number {x : Numeral} (hdigits : HasDigits x) (hwhole : isWhole x.whole = true) : IsPlain (.number x)
  | string (text : String) : IsPlain (.string text)
  | array {items : List Json} (h : ∀ v ∈ items, IsPlain v) : IsPlain (.array items)
  | object {members : List (String × Json)} (h : ∀ m ∈ members, IsPlain m.2) : IsPlain (.object members)

attribute [simp] IsPlain.bool IsPlain.string

@[simp]
theorem isPlain_array_iff {items : List Json} : IsPlain (.array items) ↔ ∀ v ∈ items, IsPlain v :=
  ⟨fun h => by cases h; assumption, .array⟩

@[simp]
theorem isPlain_object_iff {members : List (String × Json)} :
    IsPlain (.object members) ↔ ∀ m ∈ members, IsPlain m.2 :=
  ⟨fun h => by cases h; assumption, .object⟩

/-- A value is read back from what is written for it, if the fuel is enough and what follows is no part of a
numeral. -/
def IsReadBack (pretty : Bool) (v : Json) : Prop :=
  ∀ depth fuel rest, 2 * (print pretty depth v).length ≤ fuel → EndsNumeral rest →
    readValue fuel (print pretty depth v ++ rest) = some (v, rest)

section Values

variable {pretty : Bool} {blanks rest : List Char}

theorem isSpace_of_mem_gap {depth : Nat} :
    ∀ c ∈ (if pretty then newLine depth else []), isSpace c = true := by
  intro c hc
  split at hc
  · rcases List.mem_cons.mp hc with rfl | hc
    · rfl
    · rw [List.eq_of_mem_replicate hc]
      rfl
  · contradiction

theorem endsNumeral_nil : EndsNumeral [] :=
  nofun

theorem endsNumeral_cons {c : Char} (h : IsOutside c) : EndsNumeral (c :: rest) := by
  intro d hd
  obtain rfl : c = d := Option.some.inj hd
  exact h

theorem isOutside_of_isSpace {c : Char} (h : isSpace c = true) : IsOutside c := by
  simp only [isSpace, Bool.or_eq_true, decide_eq_true_eq] at h
  rcases h with ((rfl | rfl) | rfl) | rfl <;> decide

theorem endsNumeral_append (hblanks : ∀ c ∈ blanks, isSpace c = true) (hrest : EndsNumeral rest) :
    EndsNumeral (blanks ++ rest) := by
  cases blanks with
  | nil => exact hrest
  | cons c blanks => exact endsNumeral_cons (isOutside_of_isSpace (hblanks c List.mem_cons_self))

theorem endsNumeral_printItems_append (items : List Json) {depth : Nat} (hrest : EndsNumeral rest) :
    EndsNumeral (printItems pretty depth items ++ rest) := by
  cases items with
  | nil => exact hrest
  | cons item items =>
    rw [printItems]
    exact endsNumeral_cons (by decide)

theorem endsNumeral_printMembers_append (members : List (String × Json)) {depth : Nat}
    (hrest : EndsNumeral rest) : EndsNumeral (printMembers pretty depth members ++ rest) := by
  cases members with
  | nil => exact hrest
  | cons m members =>
    rw [printMembers]
    exact endsNumeral_cons (by decide)

theorem readValue_append (hblanks : ∀ c ∈ blanks, isSpace c = true) (fuel : Nat) (cs : List Char) :
    readValue fuel (blanks ++ cs) = readValue fuel cs := by
  cases fuel with
  | zero => rfl
  | succ fuel => rw [readValue.eq_2, readValue.eq_2, skipSpace_append hblanks]

theorem readItems_append (hblanks : ∀ c ∈ blanks, isSpace c = true) (fuel : Nat) (cs : List Char) :
    readItems fuel (blanks ++ cs) = readItems fuel cs := by
  cases fuel with
  | zero => rfl
  | succ fuel => rw [readItems, readItems, readValue_append hblanks]

theorem readMembers_append (hblanks : ∀ c ∈ blanks, isSpace c = true) (fuel : Nat) (cs : List Char) :
    readMembers fuel (blanks ++ cs) = readMembers fuel cs := by
  cases fuel with
  | zero => rfl
  | succ fuel => rw [readMembers, readMembers, skipSpace_append hblanks]

/-- A sign or a digit starts a numeral and nothing else. -/
theorem readValue_numeral {c : Char} (hc : c = '-' ∨ c.isDigit = true) (fuel : Nat) (cs : List Char) :
    readValue (fuel + 1) (c :: cs) =
      (readNumeral (c :: cs)).map fun (literal, rest) => (number literal, rest) := by
  have hstart : isSpace c = false ∧ c ≠ 'n' ∧ c ≠ 't' ∧ c ≠ 'f' ∧ c ≠ '"' ∧ c ≠ '[' ∧
      c ≠ '\x7b' := by
    rcases hc with rfl | hc
    · decide
    · -- all of these characters are no digits
      refine ⟨?_, ?_, ?_, ?_, ?_, ?_, ?_⟩
      · exact Bool.eq_false_iff.mpr fun h => by simp [(isOutside_of_isSpace h).1] at hc
      all_goals rintro rfl; contradiction
  obtain ⟨hspace, hn, ht, hf, hquote, hbracket, hbrace⟩ := hstart
  rw [readValue.eq_2, skipSpace_cons hspace]
  split
  case h_7 =>
    rw [Option.map_eq_bind]
    rfl
  all_goals simp_all

theorem exists_text_eq_cons {x : Numeral} (hx : HasDigits x) :
    ∃ c cs, x.text = c :: cs ∧ (c = '-' ∨ c.isDigit = true) := by
  have htext := text_append x []
  rw [List.append_nil] at htext
  cases hnegative : x.negative with
  | true =>
    rw [hnegative] at htext
    exact ⟨'-', _, htext, Or.inl rfl⟩
  | false =>
    obtain ⟨d, digits, hwhole⟩ := List.exists_cons_of_ne_nil hx.whole_ne_nil
    rw [hnegative, hwhole] at htext
    exact ⟨d, _, htext, Or.inr (hx.isDigit_whole d (by simp [hwhole]))⟩

/-- What is written for a plain value starts with a character that is no blank and closes no array. -/
theorem exists_print_eq_cons {v : Json} (hv : IsPlain v) (depth : Nat) :
    ∃ c cs, print pretty depth v = c :: cs ∧ isSpace c = false ∧ c ≠ ']' := by
  cases hv with
  | null => exact ⟨'n', _, by rw [print], by decide⟩
  | bool value => cases value <;> exact ⟨_, _, by rw [print], by decide⟩
  | number hx =>
    obtain ⟨c, cs, htext, hc⟩ := exists_text_eq_cons hx
    refine ⟨c, cs, by rw [print, htext], ?_⟩
    rcases hc with rfl | hc
    · decide
    · refine ⟨Bool.eq_false_iff.mpr fun h => by simp [(isOutside_of_isSpace h).1] at hc, ?_⟩
      rintro rfl
      contradiction
  | string text => exact ⟨'"', _, by rw [print, printString, List.cons_append], by decide⟩
  | @array items h =>
    cases items with
    | nil => exact ⟨'[', _, by rw [print], by decide⟩
    | cons item items => exact ⟨'[', _, by rw [print]; rfl, by decide⟩
  | @object members h =>
    cases members with
    | nil => exact ⟨'\x7b', _, by rw [print], by decide⟩
    | cons m members => exact ⟨'\x7b', _, by rw [print]; rfl, by decide⟩

theorem endsNumeral_close (hblanks : ∀ c ∈ blanks, isSpace c = true) {c : Char} (hc : c = ']' ∨ c = '\x7d') :
    EndsNumeral (blanks ++ c :: rest) :=
  endsNumeral_append hblanks (endsNumeral_cons (by rcases hc with rfl | rfl <;> decide))

/-- The items of an array are read back up to the closing bracket, if each of them is. -/
theorem readItems_printItems_append {item : Json} {items : List Json}
    (h : ∀ v ∈ item :: items, IsReadBack pretty v) (hblanks : ∀ c ∈ blanks, isSpace c = true)
    {depth fuel : Nat}
    (hfuel : 2 * ((print pretty depth item).length + (printItems pretty depth items).length) < fuel) :
    readItems fuel (print pretty depth item ++ (printItems pretty depth items ++ (blanks ++ ']' :: rest))) =
      some (item :: items, rest) := by
  induction items generalizing item fuel with
  | nil =>
    obtain ⟨fuel, rfl⟩ := Nat.exists_eq_succ_of_ne_zero (Nat.ne_zero_of_lt hfuel)
    have hitem := h item List.mem_cons_self depth fuel (blanks ++ ']' :: rest) (by omega)
      (endsNumeral_close hblanks (Or.inl rfl))
    rw [printItems, List.nil_append, readItems, hitem]
    simp only [Option.bind_eq_bind, Option.bind_some, skipSpace_append hblanks]
    rfl
  | cons next items ih =>
    obtain ⟨fuel, rfl⟩ := Nat.exists_eq_succ_of_ne_zero (Nat.ne_zero_of_lt hfuel)
    -- the comma before the next item is what makes the text long enough for one more step
    have hlength : (print pretty depth next).length + (printItems pretty depth items).length <
        (printItems pretty depth (next :: items)).length := by
      simp only [printItems, List.length_append, List.length_cons]
      omega
    have hitem := h item List.mem_cons_self depth fuel
      (printItems pretty depth (next :: items) ++ (blanks ++ ']' :: rest)) (by omega)
      (endsNumeral_printItems_append _ (endsNumeral_close hblanks (Or.inl rfl)))
    have hnext : readItems fuel (print pretty depth next ++
        (printItems pretty depth items ++ (blanks ++ ']' :: rest))) = some (next :: items, rest) :=
      ih (fun v hv => h v (List.mem_cons_of_mem item hv)) (by omega)
    -- the reader sees the line break after the comma as a part of the next item
    have htext : printItems pretty depth (next :: items) ++ (blanks ++ ']' :: rest) =
        ',' :: ((if pretty then newLine depth else []) ++ (print pretty depth next ++
          (printItems pretty depth items ++ (blanks ++ ']' :: rest)))) := by simp [printItems]
    rw [← readItems_append isSpace_of_mem_gap] at hnext
    rw [readItems, hitem, htext]
    simp only [Option.bind_eq_bind, Option.bind_some]
    change (readItems fuel _).bind _ = _
    rw [hnext]
    rfl

/-- A member is read by its name and its value. -/
theorem readMembers_printString_append (name : String) {value : Json} {cs after : List Char} {fuel : Nat}
    (hvalue : readValue fuel cs = some (value, after)) :
    readMembers (fuel + 1) (printString name ++ ((if pretty then [':', ' '] else [':']) ++ cs)) =
      match skipSpace after with
      | '\x7d' :: rest => some ([(name, value)], rest)
      | ',' :: rest => do
        let (members, rest) ← readMembers fuel rest
        return ((name, value) :: members, rest)
      | _ => none := by
  have hname : printString name ++ ((if pretty then [':', ' '] else [':']) ++ cs) =
      '"' :: (name.toList.flatMap escapeChar ++ '"' :: ':' :: ((if pretty then [' '] else []) ++ cs)) := by
    cases pretty <;> simp [printString]
  have hblank : ∀ c ∈ (if pretty then [' '] else []), isSpace c = true := by
    cases pretty <;> simp [isSpace]
  rw [← readValue_append hblank] at hvalue
  rw [hname, readMembers, skipSpace_cons (by decide)]
  simp only [readString_flatMap_escapeChar, Option.bind_eq_bind, Option.bind_some]
  rw [skipSpace_cons (by decide)]
  simp only [hvalue, Option.bind_some]
  rfl

/-- The members of an object are read back up to the closing brace, if the value of each of them is. -/
theorem readMembers_printMembers_append {name : String} {value : Json} {members : List (String × Json)}
    (h : ∀ m ∈ (name, value) :: members, IsReadBack pretty m.2) (hblanks : ∀ c ∈ blanks, isSpace c = true)
    {depth fuel : Nat}
    (hfuel : 2 * ((print pretty depth value).length + (printMembers pretty depth members).length) < fuel) :
    readMembers fuel (printString name ++ ((if pretty then [':', ' '] else [':']) ++ (print pretty depth value ++
      (printMembers pretty depth members ++ (blanks ++ '\x7d' :: rest))))) =
        some ((name, value) :: members, rest) := by
  induction members generalizing name value fuel with
  | nil =>
    obtain ⟨fuel, rfl⟩ := Nat.exists_eq_succ_of_ne_zero (Nat.ne_zero_of_lt hfuel)
    have hvalue : readValue fuel (print pretty depth value ++ (blanks ++ '\x7d' :: rest)) = _ :=
      h _ List.mem_cons_self depth fuel _ (by dsimp only; omega) (endsNumeral_close hblanks (Or.inr rfl))
    rw [printMembers, List.nil_append, readMembers_printString_append name hvalue, skipSpace_append hblanks]
    rfl
  | cons next members ih =>
    obtain ⟨fuel, rfl⟩ := Nat.exists_eq_succ_of_ne_zero (Nat.ne_zero_of_lt hfuel)
    obtain ⟨nextName, nextValue⟩ := next
    have hlength : (print pretty depth nextValue).length + (printMembers pretty depth members).length <
        (printMembers pretty depth ((nextName, nextValue) :: members)).length := by
      simp only [printMembers, List.length_append, List.length_cons]
      omega
    have hvalue : readValue fuel (print pretty depth value ++
        (printMembers pretty depth ((nextName, nextValue) :: members) ++ (blanks ++ '\x7d' :: rest))) = _ :=
      h _ List.mem_cons_self depth fuel _ (by dsimp only; omega)
        (endsNumeral_printMembers_append _ (endsNumeral_close hblanks (Or.inr rfl)))
    have hnext : readMembers fuel (printString nextName ++ ((if pretty then [':', ' '] else [':']) ++
        (print pretty depth nextValue ++ (printMembers pretty depth members ++ (blanks ++ '\x7d' :: rest))))) =
          some ((nextName, nextValue) :: members, rest) :=
      ih (fun m hm => h m (List.mem_cons_of_mem _ hm)) (by omega)
    have htext : printMembers pretty depth ((nextName, nextValue) :: members) ++ (blanks ++ '\x7d' :: rest) =
        ',' :: ((if pretty then newLine depth else []) ++ (printString nextName ++
          ((if pretty then [':', ' '] else [':']) ++ (print pretty depth nextValue ++
            (printMembers pretty depth members ++ (blanks ++ '\x7d' :: rest)))))) := by simp [printMembers]
    rw [← readMembers_append isSpace_of_mem_gap] at hnext
    rw [readMembers_printString_append name hvalue, htext]
    change (readMembers fuel _).bind _ = _
    rw [hnext]
    rfl

/-- A bracket that is not closed at once opens items. -/
theorem readValue_bracket (hblanks : ∀ c ∈ blanks, isSpace c = true) {c : Char} (hspace : isSpace c = false)
    (hclose : c ≠ ']') {fuel : Nat} {cs : List Char} {items : List Json}
    (h : readItems fuel (c :: cs) = some (items, rest)) :
    readValue (fuel + 1) ('[' :: (blanks ++ c :: cs)) = some (.array items, rest) := by
  rw [readValue.eq_2, skipSpace_cons (by decide)]
  simp only [skipSpace_append hblanks, skipSpace_cons hspace]
  split
  case h_1 heq => exact absurd (List.cons.inj heq).1 hclose
  case h_2 =>
    rw [h]
    rfl

/-- A brace with a name after it opens members. -/
theorem readValue_brace (hblanks : ∀ c ∈ blanks, isSpace c = true) {fuel : Nat} {cs : List Char}
    {members : List (String × Json)} (h : readMembers fuel ('"' :: cs) = some (members, rest)) :
    readValue (fuel + 1) ('\x7b' :: (blanks ++ '"' :: cs)) = some (.object members, rest) := by
  rw [readValue.eq_2, skipSpace_cons (by decide)]
  simp only [skipSpace_append hblanks, skipSpace_cons (by decide : isSpace '"' = false)]
  split
  case h_1 heq => exact absurd (List.cons.inj heq).1 (by decide)
  case h_2 =>
    rw [h]
    rfl

theorem isReadBack_null : IsReadBack pretty null := by
  intro depth fuel rest hfuel hrest
  rw [print] at hfuel ⊢
  obtain ⟨fuel, rfl⟩ := Nat.exists_eq_succ_of_ne_zero (Nat.ne_zero_of_lt hfuel)
  rfl

theorem isReadBack_bool (value : Bool) : IsReadBack pretty (.bool value) := by
  intro depth fuel rest hfuel hrest
  cases value <;>
  · rw [print] at hfuel ⊢
    obtain ⟨fuel, rfl⟩ := Nat.exists_eq_succ_of_ne_zero (Nat.ne_zero_of_lt hfuel)
    rfl

theorem isReadBack_number {x : Numeral} (hdigits : HasDigits x) (hwhole : isWhole x.whole = true) :
    IsReadBack pretty (.number x) := by
  intro depth fuel rest hfuel hrest
  obtain ⟨c, cs, htext, hc⟩ := exists_text_eq_cons hdigits
  rw [print] at hfuel ⊢
  have hread := readNumeral_text_append hdigits hrest
  rw [htext, List.cons_append] at hread ⊢
  rw [htext, List.length_cons] at hfuel
  obtain ⟨fuel, rfl⟩ := Nat.exists_eq_succ_of_ne_zero (by omega : fuel ≠ 0)
  rw [readValue_numeral hc, hread, if_pos hwhole]
  rfl

theorem isReadBack_string (text : String) : IsReadBack pretty (.string text) := by
  intro depth fuel rest hfuel hrest
  have htext : print pretty depth (.string text) ++ rest =
      '"' :: (text.toList.flatMap escapeChar ++ '"' :: rest) := by simp [print, printString]
  rw [print, printString, List.length_append] at hfuel
  obtain ⟨fuel, rfl⟩ := Nat.exists_eq_succ_of_ne_zero (by simp at hfuel; omega : fuel ≠ 0)
  rw [htext, readValue.eq_2, skipSpace_cons (by decide)]
  simp only [readString_flatMap_escapeChar, Option.bind_eq_bind, Option.bind_some]
  rfl

/-- An array is read back if its items are. That they are plain says that none of them starts with a closing
bracket. -/
theorem isReadBack_array {items : List Json} (hplain : ∀ v ∈ items, IsPlain v)
    (h : ∀ v ∈ items, IsReadBack pretty v) : IsReadBack pretty (.array items) := by
  intro depth fuel rest hfuel hrest
  cases items with
  | nil =>
    rw [print] at hfuel ⊢
    obtain ⟨fuel, rfl⟩ := Nat.exists_eq_succ_of_ne_zero (Nat.ne_zero_of_lt hfuel)
    rfl
  | cons item items =>
    have htext : print pretty depth (.array (item :: items)) ++ rest =
        '[' :: ((if pretty then newLine (depth + 1) else []) ++ (print pretty (depth + 1) item ++
          (printItems pretty (depth + 1) items ++
            ((if pretty then newLine depth else []) ++ ']' :: rest)))) := by simp [print]
    -- the brackets are two characters, and the fuel is twice the length: enough for the step to the items
    have hlength : (print pretty (depth + 1) item).length + (printItems pretty (depth + 1) items).length + 1 <
        (print pretty depth (.array (item :: items))).length := by
      simp only [print, List.length_append, List.length_cons]
      omega
    obtain ⟨fuel, rfl⟩ := Nat.exists_eq_succ_of_ne_zero (by omega : fuel ≠ 0)
    have hitems : readItems fuel (print pretty (depth + 1) item ++ (printItems pretty (depth + 1) items ++
        ((if pretty then newLine depth else []) ++ ']' :: rest))) = some (item :: items, rest) :=
      readItems_printItems_append h isSpace_of_mem_gap (by omega)
    obtain ⟨c, cs, hstart, hspace, hclose⟩ : ∃ c cs, print pretty (depth + 1) item = c :: cs ∧ _ :=
      exists_print_eq_cons (hplain item List.mem_cons_self) (depth + 1)
    rw [hstart, List.cons_append] at hitems
    rw [htext, hstart, List.cons_append]
    exact readValue_bracket isSpace_of_mem_gap hspace hclose hitems

/-- An object is read back if the values of its members are. -/
theorem isReadBack_object {members : List (String × Json)} (h : ∀ m ∈ members, IsReadBack pretty m.2) :
    IsReadBack pretty (.object members) := by
  intro depth fuel rest hfuel hrest
  cases members with
  | nil =>
    rw [print] at hfuel ⊢
    obtain ⟨fuel, rfl⟩ := Nat.exists_eq_succ_of_ne_zero (Nat.ne_zero_of_lt hfuel)
    rfl
  | cons m members =>
    obtain ⟨name, value⟩ := m
    have htext : print pretty depth (.object ((name, value) :: members)) ++ rest =
        '\x7b' :: ((if pretty then newLine (depth + 1) else []) ++ (printString name ++
          ((if pretty then [':', ' '] else [':']) ++ (print pretty (depth + 1) value ++
            (printMembers pretty (depth + 1) members ++
              ((if pretty then newLine depth else []) ++ '\x7d' :: rest)))))) := by simp [print]
    have hlength : (print pretty (depth + 1) value).length +
        (printMembers pretty (depth + 1) members).length + 1 <
          (print pretty depth (.object ((name, value) :: members))).length := by
      simp only [print, List.length_append, List.length_cons]
      omega
    obtain ⟨fuel, rfl⟩ := Nat.exists_eq_succ_of_ne_zero (by omega : fuel ≠ 0)
    have hmembers : readMembers fuel (printString name ++ ((if pretty then [':', ' '] else [':']) ++
        (print pretty (depth + 1) value ++ (printMembers pretty (depth + 1) members ++
          ((if pretty then newLine depth else []) ++ '\x7d' :: rest))))) =
            some ((name, value) :: members, rest) :=
      readMembers_printMembers_append h isSpace_of_mem_gap (by omega)
    rw [htext]
    exact readValue_brace isSpace_of_mem_gap hmembers

/-- **Reading undoes writing**, for a plain value within a text. -/
theorem IsPlain.isReadBack {v : Json} (hv : IsPlain v) : IsReadBack pretty v := by
  induction hv with
  | null => exact isReadBack_null
  | bool value => exact isReadBack_bool value
  | number hdigits hwhole => exact isReadBack_number hdigits hwhole
  | string text => exact isReadBack_string text
  | array h ih => exact isReadBack_array h ih
  | object h ih => exact isReadBack_object ih

end Values

/-- **Reading undoes writing**, for the text of a plain value with blanks after it. -/
theorem IsPlain.parse?_print_append {v : Json} (hv : IsPlain v) (pretty : Bool) {blanks : List Char}
    (hblanks : ∀ c ∈ blanks, isSpace c = true) : parse? (print pretty 0 v ++ blanks) = some v := by
  have hends := endsNumeral_append hblanks endsNumeral_nil
  rw [List.append_nil] at hends
  have hread : readValue (2 * (print pretty 0 v ++ blanks).length + 2) (print pretty 0 v ++ blanks) = _ :=
    hv.isReadBack 0 _ blanks (by rw [List.length_append]; omega) hends
  have hskip := skipSpace_append hblanks []
  rw [List.append_nil] at hskip
  rw [parse?, hread]
  simp only [hskip]
  rfl

/-- A numeral by itself is read back unless its whole part starts with an idle zero. -/
theorem parse?_text {x : Numeral} (hx : HasDigits x) :
    parse? x.text = if isWhole x.whole then some (.number x) else none := by
  obtain ⟨c, cs, htext, hc⟩ := exists_text_eq_cons hx
  have hread : readNumeral (x.text ++ []) = _ := readNumeral_text_append hx endsNumeral_nil
  rw [List.append_nil, htext] at hread
  rw [parse?, htext, readValue_numeral hc, hread]
  cases isWhole x.whole <;> rfl

end Checkup.Json
