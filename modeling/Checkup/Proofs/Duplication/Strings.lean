import Checkup.Proofs.Duplication.Reading

/-!
# The comparison key and the contents of strings

In the standard style a text is code and strings between double quotes or back quotes
(`StandardPiece`). The comparison key forgets what stands between the quotes, with one exception: a string is
*misread* when its body begins with a single quote that opens a literal of its own. The quote in front of it
then counts as the character after which a single-quoted literal may begin, and that literal is preferred to
the string, so code after the string may be swallowed and the string's own end may open another.

* `replaceStandard_code_append`, `replaceStandard_string` — code stays, and a string that is not misread is
  replaced, whatever single quotes stand in it.
* `replaceStandard_misread` — of a string that is misread the opening quote stays.
* `normalize_strings_eq_iff` — strings that are not misread may be exchanged for others exactly when none of
  those is misread.
-/

namespace Checkup.Duplication

open Checkup.Text

/-! ### Pieces -/

/-- A piece of a text in the standard style: a stretch of code, or a string in which nothing needs an
escape. -/
inductive StandardPiece where
  | code (code : Code ['\'', '"', '`'])
  | string (quote : Char) (hquote : quote = '"' ∨ quote = '`') (body : PlainBody quote)

namespace StandardPiece

/-- The piece as it stands in the text. -/
def source : StandardPiece → List Char
  | code c => c.chars
  | string quote _ body => quote :: (body.chars ++ [quote])

/-- What should be written for the piece. -/
def written : StandardPiece → List Char
  | code c => c.chars
  | string _ _ _ => stringPlaceholder

/-- Whether the body of a string begins with a single quote that opens a literal, in the string or beyond. -/
def Misread : StandardPiece → List Char → Prop
  | code _, _ => False
  | string quote _ body, rest =>
    ∃ cs, body.chars = '\'' :: cs ∧ Opens '\'' (cs ++ quote :: rest)

/-- The piece without the body of its string. -/
def emptied : StandardPiece → StandardPiece
  | code c => code c
  | string quote hquote _ => string quote hquote (.mk [])

/-- A quote of a string is no single quote, no character of a word, and nothing that a recogniser stops at. -/
theorem quote_facts {quote : Char} (hquote : quote = '"' ∨ quote = '`') :
    quote ≠ '\'' ∧ '\\' ≠ quote ∧ isWord quote = false := by
  rcases hquote with rfl | rfl <;> decide +kernel

theorem written_emptied (p : StandardPiece) : p.emptied.written = p.written := by
  cases p <;> rfl

theorem misread_string_iff {quote : Char} (hquote : quote = '"' ∨ quote = '`')
    {body : PlainBody quote} {rest : List Char} :
    Misread (string quote hquote body) rest ↔
      (afterSingleQuoted (body.chars ++ quote :: rest)).isSome := by
  constructor
  · rintro ⟨cs, hbody, hopens⟩
    obtain ⟨tail, htail⟩ := hopens.exists_afterLiteral (by decide)
    rw [hbody, Option.isSome_iff_exists]
    exact ⟨tail, htail⟩
  · intro hsome
    obtain ⟨tail, htail⟩ := Option.isSome_iff_exists.mp hsome
    cases hbody : body.chars with
    | nil =>
      rw [hbody, List.nil_append, afterSingleQuoted_of_ne (quote_facts hquote).1] at htail
      contradiction
    | cons c cs =>
      rw [hbody, List.cons_append] at htail
      by_cases hc : c = '\''
      · rw [hc] at htail hbody
        obtain ⟨inner, hinner⟩ := exists_body_of_afterLiteral htail
        exact ⟨cs, hbody, inner, tail, hinner⟩
      · rw [afterSingleQuoted_of_ne hc] at htail
        contradiction

instance : (p : StandardPiece) → (rest : List Char) → Decidable (p.Misread rest)
  | code _, _ => .isFalse id
  | string _ _ _, _ => decidable_of_iff _ (misread_string_iff _).symm

end StandardPiece

/-- How texts in the standard style are put together and read. -/
def standardReading : Reading StandardPiece :=
  ⟨StandardPiece.source, StandardPiece.written, StandardPiece.Misread⟩

instance (p : StandardPiece) (rest : List Char) : Decidable (standardReading.Misreads p rest) :=
  inferInstanceAs (Decidable (p.Misread rest))

/-! ### Reading the pieces -/

theorem afterSingleQuoted_of_head? {cs : List Char} (h : cs.head? ≠ some '\'') :
    afterSingleQuoted cs = none := by
  cases cs with
  | nil => rfl
  | cons c cs => exact afterSingleQuoted_of_ne (fun hc => h (congrArg some hc)) cs

/-- Only a single quote tells the start of a line from its middle. -/
theorem replaceStandard_of_head? {cs : List Char} (h : cs.head? ≠ some '\'') (b b' : Bool) :
    replaceStandard b cs = replaceStandard b' cs := by
  cases cs with
  | nil => rw [replaceStandard, replaceStandard]
  | cons c cs =>
    have hnone : afterSingleQuoted (c :: cs) = none := afterSingleQuoted_of_head? h
    rw [replaceStandard_cons, replaceStandard_cons, hnone, ite_self, ite_self]

/-- No piece begins with a single quote. -/
theorem head?_text_ne_singleQuote (ps : List StandardPiece) :
    (standardReading.text ps).head? ≠ some '\'' := by
  induction ps with
  | nil => exact nofun
  | cons p ps ih =>
    rcases p with ⟨cs, hcs⟩ | ⟨quote, hquote, body⟩
    · cases cs with
      | nil => exact ih
      | cons c cs =>
        intro hhead
        obtain rfl : c = '\'' := Option.some.inj hhead
        exact hcs '\'' List.mem_cons_self (by decide)
    · exact fun hhead => (StandardPiece.quote_facts hquote).1 (Option.some.inj hhead)

theorem replaceStandard_code_append {code rest : List Char}
    (hcode : ∀ c ∈ code, c ∉ ['\'', '"', '`']) (hrest : rest.head? ≠ some '\'') (b b' : Bool) :
    replaceStandard b (code ++ rest) = code ++ replaceStandard b' rest := by
  induction code generalizing b with
  | nil => exact replaceStandard_of_head? hrest b b'
  | cons c code ih =>
    obtain ⟨hc, hcode⟩ := List.forall_mem_cons.mp hcode
    have hhead : (code ++ rest).head? ≠ some '\'' := by
      cases code with
      | nil => exact hrest
      | cons d code =>
        intro heq
        exact hcode d List.mem_cons_self (by rw [Option.some.inj heq]; decide)
    have hsingle : c ≠ '\'' := fun heq => hc (by rw [heq]; decide)
    have hopen : ¬((c = '"' || c = '`') = true) := by
      simp only [List.mem_cons, not_or] at hc
      simp [hc.2.1, hc.2.2.1]
    -- neither at the character nor after it does a literal open
    rw [List.cons_append, replaceStandard_cons, afterSingleQuoted_of_ne hsingle,
      afterSingleQuoted_of_head? hhead, ite_self, ite_self, if_neg hopen]
    simp only [ih hcode, List.cons_append]

section String

variable {quote : Char} {body rest : List Char}

theorem replaceStandard_string (hquote : quote = '"' ∨ quote = '`') (hbody : IsBody quote body)
    (hread : afterSingleQuoted (body ++ quote :: rest) = none) (b : Bool) :
    replaceStandard b (quote :: (body ++ quote :: rest)) =
      stringPlaceholder ++ replaceStandard false rest := by
  obtain ⟨hsingle, hslash, hword⟩ := StandardPiece.quote_facts hquote
  have hopen : (quote = '"' || quote = '`') = true := by simpa using hquote
  rw [replaceStandard_cons, afterSingleQuoted_of_ne hsingle, ite_self, hword,
    if_neg Bool.false_ne_true, hread, if_pos hopen, afterLiteral_body_append hslash hbody]

theorem replaceStandard_misread (hquote : quote = '"' ∨ quote = '`') {tail : List Char}
    (hmisread : afterSingleQuoted body = some tail) (b : Bool) :
    replaceStandard b (quote :: body) = quote :: stringPlaceholder ++ replaceStandard false tail := by
  obtain ⟨hsingle, -, hword⟩ := StandardPiece.quote_facts hquote
  rw [replaceStandard_cons, afterSingleQuoted_of_ne hsingle, ite_self, hword,
    if_neg Bool.false_ne_true, hmisread]

end String

theorem standardReading_isReadBy : standardReading.IsReadBy (replaceLiterals .standard) where
  nil := by rw [replaceLiterals, replaceStandard]
  cons_of_not {p ps} hp := by
    have hhead := head?_text_ne_singleQuote ps
    cases p with
    | code c => exact replaceStandard_code_append c.unquoted hhead true true
    | string quote hquote body =>
      have hread : afterSingleQuoted (body.chars ++ quote :: standardReading.text ps) = none :=
        Option.not_isSome_iff_eq_none.mp fun hsome =>
          hp ((StandardPiece.misread_string_iff hquote).mpr hsome)
      have hsource : standardReading.text (.string quote hquote body :: ps) =
          quote :: (body.chars ++ quote :: standardReading.text ps) := by
        simp [Reading.text, standardReading, StandardPiece.source]
      rw [replaceLiterals, hsource, replaceStandard_string hquote body.isBody hread,
        replaceStandard_of_head? hhead false true]
      rfl
  parts {p ps} rest hp := by
    cases p with
    | code c => exact hp.elim
    | string quote hquote body =>
      obtain ⟨tail, htail⟩ := Option.isSome_iff_exists.mp
        ((StandardPiece.misread_string_iff hquote).mp hp)
      have hsource : standardReading.text (.string quote hquote body :: ps) =
          quote :: (body.chars ++ quote :: standardReading.text ps) := by
        simp [Reading.text, standardReading, StandardPiece.source]
      rw [replaceLiterals, hsource, replaceStandard_misread hquote htail]
      -- a double quote stands in the text twice, and a back quote is written where a double quote should be
      rcases hquote with rfl | rfl
      · exact ⟨['"'], '"', 's', _, _, by decide, by decide, by decide, rfl, rfl⟩
      · exact ⟨[], '`', '"', _, _, by decide, by decide, by decide, rfl, rfl⟩

/-! ### The contents of strings -/

/-- **The contents of strings do not change the key**, unless a string is misread. When none of a text is, its
strings may be exchanged for others with the same quotes exactly when none of those is misread. -/
theorem normalize_strings_eq_iff {ps qs : List StandardPiece} (hps : ¬standardReading.SomeMisread ps)
    (hpieces : ps.map StandardPiece.emptied = qs.map StandardPiece.emptied) :
    normalize .standard (String.ofList (standardReading.text ps)) =
        normalize .standard (String.ofList (standardReading.text qs)) ↔
      ¬standardReading.SomeMisread qs := by
  have hwritten (rs : List StandardPiece) :
      standardReading.result rs = (rs.map StandardPiece.emptied).flatMap StandardPiece.written := by
    simp only [Reading.result, standardReading, List.flatMap_map, StandardPiece.written_emptied]
  have hresult : standardReading.result ps = standardReading.result qs := by
    rw [hwritten, hwritten, hpieces]
  rw [normalize_ofList_eq_iff]
  exact standardReading_isReadBy.key_eq_iff hps hresult

/-- A call with apostrophes in the middle of its strings. -/
def midApostrophes : List StandardPiece :=
  [.code (.mk "f(".toList), .string '"' (Or.inl rfl) (.mk "it's 'so'".toList),
    .string '`' (Or.inr rfl) (.mk []), .code (.mk ")\n".toList),
    .string '"' (Or.inl rfl) (.mk "x' `y`".toList)]

/-- The call with another quote in its string between back quotes, and with an apostrophe at the start of a
string that only a single quote on the next line could close. -/
def frontApostrophe : List StandardPiece :=
  [.code (.mk "f(".toList), .string '"' (Or.inl rfl) (.mk "'tis".toList),
    .string '`' (Or.inr rfl) (.mk ['"']), .code (.mk ")\n".toList),
    .string '"' (Or.inl rfl) (.mk "it's".toList)]

/-- The two calls have one key. -/
theorem normalize_frontApostrophe :
    ¬standardReading.SomeMisread midApostrophes ∧
      midApostrophes.map StandardPiece.emptied = frontApostrophe.map StandardPiece.emptied ∧
      normalize .standard (String.ofList (standardReading.text midApostrophes)) =
        normalize .standard (String.ofList (standardReading.text frontApostrophe)) := by
  have hmid : ¬standardReading.SomeMisread midApostrophes := by decide +kernel
  have hfront : ¬standardReading.SomeMisread frontApostrophe := by decide +kernel
  have hpieces : midApostrophes.map StandardPiece.emptied = frontApostrophe.map StandardPiece.emptied := rfl
  exact ⟨hmid, hpieces, (normalize_strings_eq_iff hmid hpieces).mpr hfront⟩

/-- A string whose body is a single-quoted literal does not have the key of another string. -/
theorem normalize_string_of_singleQuoted :
    let quoted : StandardPiece := .string '"' (Or.inl rfl) (.mk "'x'".toList)
    let plain : StandardPiece := .string '"' (Or.inl rfl) (.mk "x".toList)
    [quoted].map StandardPiece.emptied = [plain].map StandardPiece.emptied ∧
      normalize .standard (String.ofList (standardReading.text [plain])) = "\"str\"" ∧
      normalize .standard (String.ofList (standardReading.text [quoted])) = "\"\"str\"\"" := by
  intro quoted plain
  exact ⟨rfl, by decide +kernel, by decide +kernel⟩

end Checkup.Duplication
