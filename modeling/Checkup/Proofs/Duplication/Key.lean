import Checkup.Duplication.Key
import Checkup.Proofs.Text.LetterCase

/-!
# The comparison key, line by line

No pass of the comparison key carries anything from one line to the next. The passes are local in two ways.

* Replacing literals comes apart at every blank that ends the line or the text
  (`replaceLiterals_append_blank`), because no recogniser of a literal looks beyond such a blank: it finds the
  same literal with and without what follows (`Overlooks`). So the pass is *linewise* (`IsLinewise`): the
  lines may be treated apart.
* Replacing numerals and taking the lower case are wordwise, so they commute with collapsing blanks
  (`key_eq_collapseBlanks`).

Together they give the key of two texts on separate lines from the two keys (`key_append_lineFeed`).
-/

namespace Checkup.Duplication

open Checkup.Text

/-! ### Recognisers of literals -/

/-- A recogniser answers what follows a literal at the start of a text. It overlooks a tail when the tail
neither makes a literal nor unmakes one. -/
def Overlooks (after : List Char → Option (List Char)) (tail : List Char) : Prop :=
  ∀ cs, after (cs ++ tail) = (after cs).map (· ++ tail)

/-- A blank before `ds` ends every literal under way if it ends the line or the text. -/
def EndsLiterals (c : Char) (ds : List Char) : Prop :=
  isBlank c = true ∧ (c = '\n' ∨ ds = [])

theorem endsLiterals_lineFeed (ds : List Char) : EndsLiterals '\n' ds :=
  ⟨by decide, Or.inl rfl⟩

theorem endsLiterals_last {c : Char} (hc : isBlank c = true) : EndsLiterals c [] :=
  ⟨hc, Or.inr rfl⟩

theorem overlooks_none (tail : List Char) : Overlooks (fun _ => none) tail :=
  fun _ => rfl

theorem Overlooks.ite {after after' : List Char → Option (List Char)} {tail : List Char}
    (h : Overlooks after tail) (h' : Overlooks after' tail) (p : Prop) [Decidable p] :
    Overlooks (fun cs => if p then after cs else after' cs) tail := by
  intro cs
  by_cases hp : p
  · simp only [if_pos hp]
    exact h cs
  · simp only [if_neg hp]
    exact h' cs

theorem afterLiteral_close (quote : Char) (rest : List Char) :
    afterLiteral quote (quote :: rest) = some rest := by
  rw [afterLiteral.eq_def]
  exact if_pos rfl

theorem afterLiteral_lineFeed {quote : Char} (hquote : '\n' ≠ quote) (rest : List Char) :
    afterLiteral quote ('\n' :: rest) = none := by
  rw [afterLiteral.eq_def]
  exact (if_neg hquote).trans (if_pos rfl)

theorem afterLiteral_of_plain {quote c : Char} (hquote : c ≠ quote) (hfeed : c ≠ '\n')
    (hslash : c ≠ '\\') (rest : List Char) :
    afterLiteral quote (c :: rest) = afterLiteral quote rest := by
  rw [afterLiteral.eq_def]
  exact (if_neg hquote).trans ((if_neg hfeed).trans (if_neg hslash))

theorem afterLiteral_escaped {quote c : Char} (hquote : '\\' ≠ quote) (hfeed : c ≠ '\n')
    (rest : List Char) : afterLiteral quote ('\\' :: c :: rest) = afterLiteral quote rest := by
  rw [afterLiteral.eq_def]
  exact (if_neg hquote).trans ((if_neg (by decide)).trans ((if_pos rfl).trans (if_neg hfeed)))

theorem EndsLiterals.afterLiteral_eq_none {c : Char} {ds : List Char} (h : EndsLiterals c ds)
    {quote : Char} (hquote : c ≠ quote) : afterLiteral quote (c :: ds) = none := by
  by_cases hfeed : c = '\n'
  · rw [hfeed] at hquote ⊢
    exact afterLiteral_lineFeed hquote ds
  · rw [afterLiteral_of_plain hquote hfeed (ne_of_isBlank h.1 (by decide)),
      h.2.resolve_left hfeed, afterLiteral]

theorem EndsLiterals.afterLiteral_backslash_eq_none {c : Char} {ds : List Char}
    (h : EndsLiterals c ds) {quote : Char} (hquote : '\\' ≠ quote) :
    afterLiteral quote ('\\' :: c :: ds) = none := by
  by_cases hfeed : c = '\n'
  · simp [afterLiteral, hquote, hfeed]
  · rw [afterLiteral_escaped hquote hfeed, h.2.resolve_left hfeed, afterLiteral]

theorem overlooks_afterLiteral {c : Char} {ds : List Char} (h : EndsLiterals c ds) {quote : Char}
    (hquote : isBlank quote = false) : Overlooks (afterLiteral quote) (c :: ds) := by
  have hend : afterLiteral quote (c :: ds) = none := h.afterLiteral_eq_none (ne_of_isBlank h.1 hquote)
  intro cs
  fun_induction afterLiteral quote cs with
  | case1 => exact hend
  | case2 rest => exact afterLiteral_close quote _
  | case3 rest hfeed => exact afterLiteral_lineFeed hfeed _
  | case4 hslash => exact h.afterLiteral_backslash_eq_none hslash
  | case5 rest hslash => simp [afterLiteral, hslash]
  | case6 escaped rest hescaped hslash hfeed ih => simp [afterLiteral, hslash, hescaped, ih]
  | case7 c rest hc hfeed hslash ih =>
    rw [List.cons_append, afterLiteral_of_plain hc hfeed hslash, ih]

theorem afterSingleQuoted_of_ne {c : Char} (hc : c ≠ '\'') (rest : List Char) :
    afterSingleQuoted (c :: rest) = none := by
  simp [afterSingleQuoted, hc]

theorem overlooks_afterSingleQuoted {c : Char} {ds : List Char} (h : EndsLiterals c ds) :
    Overlooks afterSingleQuoted (c :: ds) := by
  intro cs
  cases cs with
  | nil => exact afterSingleQuoted_of_ne (ne_of_isBlank h.1 (by decide)) ds
  | cons d cs =>
    by_cases hd : d = '\''
    · rw [hd]
      exact overlooks_afterLiteral h (by decide) cs
    · rw [List.cons_append, afterSingleQuoted_of_ne hd, afterSingleQuoted_of_ne hd, Option.map_none]

theorem isHexDigit_of_isBlank {c : Char} (hc : isBlank c = true) : isHexDigit c = false := by
  have htable : ∀ n ∈ blankCodePoints, isHexDigit (Char.ofNat n) = false := by decide
  have h := htable c.toNat (isBlank_iff.mp hc)
  rwa [Char.ofNat_toNat] at h

/-- A blank is no hexadecimal digit, so it ends the digits of a code point. -/
theorem takeWhile_isHexDigit_append {c : Char} (hc : isBlank c = true) (cs ds : List Char) :
    (cs ++ c :: ds).takeWhile isHexDigit = cs.takeWhile isHexDigit := by
  induction cs with
  | nil => rw [List.nil_append, List.takeWhile_cons, isHexDigit_of_isBlank hc]; rfl
  | cons d cs ih => rw [List.cons_append, List.takeWhile_cons, List.takeWhile_cons, ih]

theorem dropWhile_isHexDigit_append {c : Char} (hc : isBlank c = true) (cs ds : List Char) :
    (cs ++ c :: ds).dropWhile isHexDigit = cs.dropWhile isHexDigit ++ c :: ds := by
  induction cs with
  | nil => rw [List.nil_append, List.dropWhile_cons, isHexDigit_of_isBlank hc]; rfl
  | cons d cs ih =>
    rw [List.cons_append, List.dropWhile_cons, List.dropWhile_cons, ih]
    split <;> rfl

theorem overlooks_afterCodePoint {c : Char} {ds : List Char} (h : EndsLiterals c ds) :
    Overlooks afterCodePoint (c :: ds) := by
  have hmark : ∀ {d : Char}, isBlank d = false → c ≠ d := fun hd => ne_of_isBlank h.1 hd
  intro cs
  fun_cases afterCodePoint cs with
  | case1 rest digits hdigits after hrest =>
    simp only [List.cons_append, afterCodePoint, takeWhile_isHexDigit_append h.1,
      dropWhile_isHexDigit_append h.1, hrest, Option.map_some]
    exact if_pos hdigits
  | case2 rest digits hdigits hrest =>
    simp only [List.cons_append, afterCodePoint, takeWhile_isHexDigit_append h.1,
      dropWhile_isHexDigit_append h.1, Option.map_none]
    rw [if_pos hdigits]
    generalize rest.dropWhile isHexDigit = tail at hrest
    rcases tail with _ | ⟨d, _ | ⟨e, tail⟩⟩
    · simp [hmark (d := '\x7d') (by decide)]
    · simp [hmark (d := '\'') (by decide)]
    · simp_all
  | case3 rest digits hdigits =>
    simp only [List.cons_append, afterCodePoint, takeWhile_isHexDigit_append h.1, Option.map_none]
    exact if_neg hdigits
  | case4 hcs =>
    rcases cs with _ | ⟨d, _ | ⟨e, cs⟩⟩
    · simp [afterCodePoint, hmark (d := 'u') (by decide)]
    · simp [afterCodePoint, hmark (d := '\x7b') (by decide)]
    · simp_all [afterCodePoint]

/-- What follows one character and a quote. -/
def afterOne : List Char → Option (List Char)
  | c :: '\'' :: after => if c = '\n' then none else some after
  | _ => none

theorem overlooks_afterOne {c : Char} {ds : List Char} (h : EndsLiterals c ds) :
    Overlooks afterOne (c :: ds) := by
  intro cs
  rcases cs with _ | ⟨d, _ | ⟨e, cs⟩⟩
  · rcases h.2 with hfeed | hlast
    · rcases ds with _ | ⟨d, ds⟩
      · rfl
      · by_cases hd : d = '\''
        · rw [hfeed, hd]
          rfl
        · simp [afterOne, hd]
    · rw [hlast]
      rfl
  · simp [afterOne, ne_of_isBlank h.1 (d := '\'') (by decide)]
  · by_cases he : e = '\''
    · rw [he, List.cons_append, List.cons_append, afterOne, afterOne]
      split <;> rfl
    · simp [afterOne, he]

/-- After a backslash a character literal goes on with a code point or with one character. -/
theorem afterCharacter_backslash (cs : List Char) :
    afterCharacter ('\\' :: cs) = (afterCodePoint cs).or (afterOne cs) := by
  rw [afterCharacter.eq_def]
  cases hcode : afterCodePoint cs with
  | some after => simp [hcode]
  | none =>
    simp only [hcode, Option.none_or]
    rfl

theorem afterCharacter_of_ne_backslash {c : Char} (hc : c ≠ '\\') (cs : List Char) :
    afterCharacter (c :: cs) = if c = '\'' then none else afterOne (c :: cs) := by
  rcases cs with _ | ⟨d, cs⟩
  · simp [afterCharacter, afterOne, hc]
  · by_cases hd : d = '\''
    · rw [hd, afterCharacter.eq_def, afterOne]
      by_cases hquote : c = '\'' <;> simp [hquote]
    · simp [afterCharacter, afterOne, hc, hd]

theorem overlooks_afterCharacter {c : Char} {ds : List Char} (h : EndsLiterals c ds) :
    Overlooks afterCharacter (c :: ds) := by
  intro cs
  rcases cs with _ | ⟨d, cs⟩
  · have hc : c ≠ '\\' := ne_of_isBlank h.1 (by decide)
    have hquote : c ≠ '\'' := ne_of_isBlank h.1 (by decide)
    rw [List.nil_append, afterCharacter_of_ne_backslash hc, if_neg hquote]
    exact overlooks_afterOne h []
  · by_cases hd : d = '\\'
    · rw [hd, List.cons_append, afterCharacter_backslash, afterCharacter_backslash,
        overlooks_afterCodePoint h cs, overlooks_afterOne h cs, Option.map_or]
    · rw [List.cons_append, afterCharacter_of_ne_backslash hd, afterCharacter_of_ne_backslash hd]
      split
      · rfl
      · exact overlooks_afterOne h (d :: cs)

/-! ### Literals -/

/-- A pass over a text is linewise when it treats what a line feed separates apart. -/
def IsLinewise (pass : List Char → List Char) : Prop :=
  ∀ cs ds, pass (cs ++ '\n' :: ds) = pass cs ++ '\n' :: pass ds

/-- A pass that goes through a text and puts a fixed literal in place of every literal that `quote` opens;
`after` recognises what stands after the quote. -/
structure ReplacesQuoted (quote : Char) (after : List Char → Option (List Char))
    (placeholder : List Char) (pass : List Char → List Char) : Prop where
  nil : pass [] = []
  cons_of_some : ∀ {rest tail : List Char}, after rest = some tail →
    pass (quote :: rest) = placeholder ++ pass tail
  cons_of_none : ∀ {c : Char} {rest : List Char}, (c = quote → after rest = none) →
    pass (c :: rest) = c :: pass rest
  length_lt : ∀ {rest tail : List Char}, after rest = some tail → tail.length < rest.length

theorem ReplacesQuoted.cons_of_ne {quote : Char} {after : List Char → Option (List Char)}
    {placeholder : List Char} {pass : List Char → List Char}
    (h : ReplacesQuoted quote after placeholder pass) {c : Char} (hc : c ≠ quote) (rest : List Char) :
    pass (c :: rest) = c :: pass rest :=
  h.cons_of_none fun heq => absurd heq hc

theorem ReplacesQuoted.pass_append {quote : Char} {after : List Char → Option (List Char)}
    {placeholder : List Char} {pass : List Char → List Char}
    (h : ReplacesQuoted quote after placeholder pass) {tail : List Char}
    (hafter : Overlooks after tail) (cs : List Char) : pass (cs ++ tail) = pass cs ++ pass tail := by
  -- a literal is skipped as a whole, so the induction is over the length
  induction hlen : cs.length using Nat.strongRecOn generalizing cs with
  | ind n ih =>
    cases cs with
    | nil => rw [h.nil, List.nil_append, List.nil_append]
    | cons c rest =>
      rw [List.length_cons] at hlen
      have hrest := ih rest.length (by omega) rest rfl
      rw [List.cons_append]
      by_cases hc : c = quote
      · rw [hc]
        cases hfound : after rest with
        | none =>
          have hmore : after (rest ++ tail) = none := by rw [hafter, hfound, Option.map_none]
          rw [h.cons_of_none fun _ => hmore, h.cons_of_none fun _ => hfound, hrest, List.cons_append]
        | some next =>
          have hmore : after (rest ++ tail) = some (next ++ tail) := by
            rw [hafter, hfound, Option.map_some]
          have hlt := h.length_lt hfound
          rw [h.cons_of_some hmore, h.cons_of_some hfound, ih next.length (by omega) next rfl,
            List.append_assoc]
      · rw [h.cons_of_ne hc, h.cons_of_ne hc, hrest, List.cons_append]

theorem ReplacesQuoted.unquoted_append {quote : Char} {after : List Char → Option (List Char)}
    {placeholder : List Char} {pass : List Char → List Char}
    (h : ReplacesQuoted quote after placeholder pass) {cs : List Char} (hcs : quote ∉ cs)
    (rest : List Char) : pass (cs ++ rest) = cs ++ pass rest := by
  induction cs with
  | nil => rfl
  | cons c cs ih =>
    obtain ⟨hc, hcs⟩ := not_or.mp (fun hmem => hcs (List.mem_cons.mpr hmem))
    rw [List.cons_append, h.cons_of_ne (Ne.symm hc), ih hcs, List.cons_append]

theorem replacesQuoted_replaceStrings :
    ReplacesQuoted '"' (afterLiteral '"') stringPlaceholder replaceStrings where
  nil := by rw [replaceStrings]
  cons_of_some {rest tail} h := by
    rw [replaceStrings]
    split
    · next after heq => rw [Option.some.inj (h.symm.trans heq)]
    · next heq => rw [if_pos rfl, h] at heq; simp at heq
  cons_of_none {c rest} h := by
    rw [replaceStrings]
    split
    · next after heq =>
      split at heq
      · next hc => simp [h hc] at heq
      · simp at heq
    · rfl
  length_lt := length_lt_of_afterLiteral

theorem replacesQuoted_replaceCharacters :
    ReplacesQuoted '\'' afterCharacter charPlaceholder replaceCharacters where
  nil := by rw [replaceCharacters]
  cons_of_some {rest tail} h := by
    rw [replaceCharacters]
    split
    · next after heq => rw [Option.some.inj (h.symm.trans heq)]
    · next heq => simp [h] at heq
  cons_of_none {c rest} h := by
    rw [replaceCharacters]
    split
    · next after heq =>
      split at heq
      · next hc => simp [h hc] at heq
      · simp at heq
    · rfl
  length_lt := length_lt_of_afterCharacter

theorem replaceStandard_cons (atLineStart : Bool) (c : Char) (rest : List Char) :
    replaceStandard atLineStart (c :: rest) =
      match if atLineStart then afterSingleQuoted (c :: rest) else none with
      | some tail => stringPlaceholder ++ replaceStandard false tail
      | none =>
        match if isWord c then none else afterSingleQuoted rest with
        | some tail => c :: stringPlaceholder ++ replaceStandard false tail
        | none =>
          match if c = '"' || c = '`' then afterLiteral c rest else none with
          | some tail => stringPlaceholder ++ replaceStandard false tail
          | none => c :: replaceStandard (c = '\n') rest := by
  rw [replaceStandard]
  split
  · next heq => rw [heq]
  · next heq =>
    rw [heq]
    split
    · next heq => rw [heq]
    · next heq =>
      rw [heq]
      split
      · next heq => rw [heq]
      · next heq => rw [heq]

/-- After a blank the pass goes on as at the start of a line: a single quote opens a literal there, as at
the start of a line. -/
theorem replaceStandard_cons_blank {c : Char} (hc : isBlank c = true) (atLineStart : Bool)
    (ds : List Char) : replaceStandard atLineStart (c :: ds) = c :: replaceStandard true ds := by
  have hmark : ∀ {d : Char}, isBlank d = false → c ≠ d := fun hd => ne_of_isBlank hc hd
  have hhere : (if atLineStart then afterSingleQuoted (c :: ds) else none) = none := by
    split
    · exact afterSingleQuoted_of_ne (hmark (by decide)) ds
    · rfl
  have hopen : (if c = '"' || c = '`' then afterLiteral c ds else none) = none := by
    simp [hmark (d := '"') (by decide), hmark (d := '`') (by decide)]
  rw [replaceStandard_cons, hhere, isWord_of_isBlank hc, hopen]
  cases ds with
  | nil => simp [afterSingleQuoted, replaceStandard]
  | cons d ds =>
    -- a literal that the blank would lead in is found at the start of a line as well
    cases hquoted : afterSingleQuoted (d :: ds) with
    | some tail => simp [hquoted, replaceStandard_cons true]
    | none => simp [hquoted, replaceStandard_cons]

/-- A blank that ends every literal under way parts the pass. -/
theorem replaceStandard_append_blank {c : Char} {ds : List Char} (h : EndsLiterals c ds)
    (atLineStart : Bool) (cs : List Char) :
    replaceStandard atLineStart (cs ++ c :: ds) =
      replaceStandard atLineStart cs ++ c :: replaceStandard true ds := by
  -- each of the three recognisers finds the same literal in the line and in the whole text
  have hhere (b : Bool) (d : Char) (rest : List Char) :
      (if b then afterSingleQuoted (d :: (rest ++ c :: ds)) else none) =
        (if b then afterSingleQuoted (d :: rest) else none).map (· ++ c :: ds) :=
    (overlooks_afterSingleQuoted h).ite (overlooks_none _) (b = true) (d :: rest)
  have hnext (d : Char) (rest : List Char) :
      (if isWord d then none else afterSingleQuoted (rest ++ c :: ds)) =
        (if isWord d then none else afterSingleQuoted rest).map (· ++ c :: ds) :=
    (overlooks_none _).ite (overlooks_afterSingleQuoted h) (isWord d = true) rest
  have hopen (d : Char) (rest : List Char) :
      (if d = '"' || d = '`' then afterLiteral d (rest ++ c :: ds) else none) =
        (if d = '"' || d = '`' then afterLiteral d rest else none).map (· ++ c :: ds) := by
    split
    · next hd =>
      have hquote : isBlank d = false := by
        rcases (by simpa using hd) with rfl | rfl <;> decide
      exact overlooks_afterLiteral h hquote rest
    · rfl
  fun_induction replaceStandard atLineStart cs with
  | case1 atLineStart => exact replaceStandard_cons_blank h.1 atLineStart ds
  | case2 atLineStart d rest tail h₁ ih =>
    rw [dite_eq_ite] at h₁
    rw [List.cons_append, replaceStandard_cons, hhere, h₁, Option.map_some]
    simp only [ih, List.append_assoc]
  | case3 atLineStart d rest h₁ tail h₂ ih =>
    rw [dite_eq_ite] at h₁ h₂
    rw [List.cons_append, replaceStandard_cons, hhere, h₁, Option.map_none, hnext, h₂,
      Option.map_some]
    simp only [ih, List.append_assoc, List.cons_append]
  | case4 atLineStart d rest h₁ h₂ tail h₃ ih =>
    rw [dite_eq_ite] at h₁ h₂ h₃
    rw [List.cons_append, replaceStandard_cons, hhere, h₁, Option.map_none, hnext, h₂,
      Option.map_none, hopen, h₃, Option.map_some]
    simp only [ih, List.append_assoc]
  | case5 atLineStart d rest h₁ h₂ h₃ ih =>
    rw [dite_eq_ite] at h₁ h₂ h₃
    rw [List.cons_append, replaceStandard_cons, hhere, h₁, Option.map_none, hnext, h₂,
      Option.map_none, hopen, h₃, Option.map_none]
    simp only [ih, List.cons_append]

/-- A blank at the start of a text takes no part in its literals. -/
theorem replaceLiterals_cons_blank {c : Char} (hc : isBlank c = true) (style : QuoteStyle)
    (ds : List Char) : replaceLiterals style (c :: ds) = c :: replaceLiterals style ds := by
  cases style with
  | standard => exact replaceStandard_cons_blank hc true ds
  | rust =>
    rw [replaceLiterals, replaceLiterals,
      replacesQuoted_replaceStrings.cons_of_ne (ne_of_isBlank hc (by decide)),
      replacesQuoted_replaceCharacters.cons_of_ne (ne_of_isBlank hc (by decide))]

/-- A blank that ends every literal under way parts the replacing of literals. -/
theorem replaceLiterals_append_blank {c : Char} {ds : List Char} (h : EndsLiterals c ds)
    (style : QuoteStyle) (cs : List Char) :
    replaceLiterals style (cs ++ c :: ds) =
      replaceLiterals style cs ++ c :: replaceLiterals style ds := by
  cases style with
  | standard => exact replaceStandard_append_blank h true cs
  | rust =>
    have hstrings := replacesQuoted_replaceStrings
    have hcharacters := replacesQuoted_replaceCharacters
    have hds : EndsLiterals c (replaceStrings ds) :=
      ⟨h.1, h.2.imp_right fun hnil => by rw [hnil, hstrings.nil]⟩
    rw [replaceLiterals, replaceLiterals, replaceLiterals,
      hstrings.pass_append (overlooks_afterLiteral h (by decide)),
      hstrings.cons_of_ne (ne_of_isBlank h.1 (by decide)),
      hcharacters.pass_append (overlooks_afterCharacter hds),
      hcharacters.cons_of_ne (ne_of_isBlank h.1 (by decide))]

/-- **Replacing literals is linewise, whichever the quotes.** -/
theorem isLinewise_replaceLiterals (style : QuoteStyle) : IsLinewise (replaceLiterals style) :=
  fun cs ds => replaceLiterals_append_blank (endsLiterals_lineFeed ds) style cs

/-! ### Numerals -/

/-- The table of digits, looked up at each blank. -/
theorem isDigit_blankCodePoints : ∀ n ∈ blankCodePoints, isDigit (Char.ofNat n) = false := by
  decide +kernel

theorem isDigit_of_isBlank {c : Char} (hc : isBlank c = true) : isDigit c = false := by
  have h := isDigit_blankCodePoints c.toNat (isBlank_iff.mp hc)
  rwa [Char.ofNat_toNat] at h

theorem startsFraction_append_cons {c : Char} (hc : isDigit c = false) (a : Char)
    (cs ds : List Char) : startsFraction (a :: (cs ++ c :: ds)) = startsFraction (a :: cs) := by
  by_cases ha : a = '.'
  · cases cs with
    | nil => simp [ha, startsFraction, hc]
    | cons b cs => simp [ha, startsFraction]
  · simp [startsFraction, ha]

/-- A character that numerals have no part in parts the pass. -/
theorem replaceNumeralsFrom_append_cons {c : Char} (hc : isDigit c = false) (hpoint : c ≠ '.')
    (state : NumeralState) (cs ds : List Char) :
    replaceNumeralsFrom state (cs ++ c :: ds) =
      replaceNumeralsFrom state cs ++ c :: replaceNumeralsFrom .outside ds := by
  induction cs generalizing state with
  | nil => simp [replaceNumeralsFrom, hc, startsFraction, hpoint]
  | cons a cs ih =>
    have hstart := startsFraction_append_cons hc a cs ds
    cases state with
    | outside =>
      simp only [List.cons_append, replaceNumeralsFrom, ih]
      split <;> rfl
    | whole =>
      simp only [List.cons_append, replaceNumeralsFrom, hstart, ih]
      split
      · rfl
      · split <;> rfl
    | fraction =>
      simp only [List.cons_append, replaceNumeralsFrom, ih]
      split <;> rfl

theorem mem_replaceNumeralsFrom {state : NumeralState} {cs : List Char} {d : Char}
    (hd : d ∈ replaceNumeralsFrom state cs) : d = '0' ∨ d ∈ cs := by
  induction cs generalizing state with
  | nil => simp [replaceNumeralsFrom] at hd
  | cons c cs ih => cases state <;> grind [replaceNumeralsFrom]

/-- **Replacing numerals is a wordwise pass.** -/
theorem isWordwise_replaceNumerals : IsWordwise replaceNumerals where
  nil := rfl
  append_blank cs _ ds hc :=
    replaceNumeralsFrom_append_cons (isDigit_of_isBlank hc) (ne_of_isBlank hc (by decide)) .outside cs ds
  not_blank hword d hd := by
    rcases mem_replaceNumeralsFrom hd with rfl | hd
    · decide
    · exact hword d hd
  ne_nil {word} hne _ := by
    cases word with
    | nil => exact absurd rfl hne
    | cons c cs =>
      rw [replaceNumerals, replaceNumeralsFrom]
      split
      · exact List.cons_ne_nil _ _
      · exact List.cons_ne_nil _ _

/-! ### The key -/

/-- What the key makes of a text whose literals are replaced, before blanks are collapsed. -/
def afterLiterals (cs : List Char) : List Char :=
  lowercase (replaceNumerals cs)

theorem isWordwise_afterLiterals : IsWordwise afterLiterals :=
  isWordwise_lowercase.comp isWordwise_replaceNumerals

/-- The two wordwise passes may as well come before the blanks are collapsed. -/
theorem key_eq_collapseBlanks (style : QuoteStyle) (cs : List Char) :
    key style cs = collapseBlanks (afterLiterals (replaceLiterals style cs)) :=
  isWordwise_afterLiterals.collapseBlanks_comm _

/-- **The key of two texts on separate lines** is that of the lines, side by side: no literal, numeral or
rule of letter case reaches over the line feed. -/
theorem key_append_lineFeed (style : QuoteStyle) (cs ds : List Char) :
    key style (cs ++ '\n' :: ds) = collapseBlanks (key style cs ++ ' ' :: key style ds) := by
  rw [key_eq_collapseBlanks, isLinewise_replaceLiterals,
    isWordwise_afterLiterals.append_blank _ _ (by decide), collapseBlanks_append_blank (by decide),
    ← key_eq_collapseBlanks, ← key_eq_collapseBlanks]

/-- **Normalization is line-local**, whatever quotes or backslashes the lines leave open. -/
theorem normalize_append_lineFeed (style : QuoteStyle) (a b : String) :
    normalize style (a ++ "\n" ++ b) =
      String.ofList (collapseBlanks (normalize style a ++ " " ++ normalize style b).toList) := by
  have hline : (a ++ "\n" ++ b).toList = a.toList ++ '\n' :: b.toList := by
    rw [String.toList_append, String.toList_append, List.append_assoc]
    rfl
  have hspace : (normalize style a ++ " " ++ normalize style b).toList =
      key style a.toList ++ ' ' :: key style b.toList := by
    simp only [normalize, String.toList_append, String.toList_ofList, List.append_assoc]
    rfl
  rw [normalize, hline, key_append_lineFeed, hspace]

-- the quote that stands alone leaves the literal on the next line whole
example : normalize .standard "it is '\n'a' + 12" = "it is ' \"str\" + 0" := by
  decide +kernel

end Checkup.Duplication
