import Checkup.Proofs.Duplication.Reading

/-!
# The comparison key and character literals

In the style in which single quotes delimit characters a text is code, character literals and strings
(`CharacterPiece`). The comparison key has a fixed literal for each character literal and for each string, and
keeps the code in its place, with one exception: a character literal is *misread* when its character is a
double quote that opens a string from there on. Strings are replaced before characters, so the string takes
the end of the character literal and the code after it away.

* `afterCharacter_plain`, `afterCharacter_escaped` — the two forms of a character literal are recognised,
  whatever follows.
* `replaceLiterals_code_append`, `replaceLiterals_string`, `replaceLiterals_character`,
  `replaceLiterals_escape` — each piece is read for itself, although the two kinds of literals are replaced in
  two passes over the whole text. `replaceLiterals_character_misread` and `replaceLiterals_escape_misread` say
  what is left of a character literal that is misread.
* `normalize_generic_iff` — the key is that of the text with the fixed literals exactly when no character
  literal is misread.
-/

namespace Checkup.Duplication

open Checkup.Text

/-! ### Pieces -/

/-- A piece of a text with character literals: a stretch of code, a character between single quotes, a
character with a backslash before it, or a string in which nothing needs an escape. -/
inductive CharacterPiece where
  | code (code : Code ['\'', '"'])
  | character (c : Char) (hc : c ≠ '\'' ∧ c ≠ '\\' ∧ c ≠ '\n')
  | escape (c : Char) (hc : c ≠ '\n')
  | string (body : PlainBody '"')

namespace CharacterPiece

/-- The piece as it stands in the text. -/
def source : CharacterPiece → List Char
  | code c => c.chars
  | character c _ => ['\'', c, '\'']
  | escape c _ => ['\'', '\\', c, '\'']
  | string body => '"' :: (body.chars ++ ['"'])

/-- What should be written for the piece. -/
def written : CharacterPiece → List Char
  | code c => c.chars
  | character _ _ => charPlaceholder
  | escape _ _ => charPlaceholder
  | string _ => stringPlaceholder

/-- Whether the piece is a character literal whose character is a double quote that opens a string. -/
def Misread : CharacterPiece → List Char → Prop
  | code _, _ => False
  | character c _, rest => c = '"' ∧ Opens '"' ('\'' :: rest)
  | escape c _, rest => c = '"' ∧ Opens '"' ('\'' :: rest)
  | string _, _ => False

/-- The piece with the fixed contents that the key has for literals. -/
def generic : CharacterPiece → CharacterPiece
  | code c => code c
  | character _ _ => character 'c' (by decide)
  | escape _ _ => character 'c' (by decide)
  | string _ => string (.mk ['s', 't', 'r'])

theorem written_generic (p : CharacterPiece) : p.generic.written = p.written := by
  cases p <;> rfl

theorem not_misread_generic (p : CharacterPiece) (rest : List Char) : ¬p.generic.Misread rest := by
  cases p with
  | code => exact id
  | character => exact fun h => absurd h.1 (by decide)
  | escape => exact fun h => absurd h.1 (by decide)
  | string => exact id

end CharacterPiece

/-- How texts with character literals are put together and read. -/
def characterReading : Reading CharacterPiece :=
  ⟨CharacterPiece.source, CharacterPiece.written, CharacterPiece.Misread⟩

/-! ### Reading the pieces -/

theorem afterCharacter_plain {c : Char} (hc : c ≠ '\'' ∧ c ≠ '\\' ∧ c ≠ '\n') (rest : List Char) :
    afterCharacter (c :: '\'' :: rest) = some rest := by
  obtain ⟨hquote, hslash, hfeed⟩ := hc
  rw [afterCharacter_of_ne_backslash hslash, if_neg hquote, afterOne, if_neg hfeed]

theorem afterCharacter_escaped {c : Char} (hc : c ≠ '\n') (rest : List Char) :
    afterCharacter ('\\' :: c :: '\'' :: rest) = some rest := by
  -- the quote stands where a code point would have its brace
  have hcode : afterCodePoint (c :: '\'' :: rest) = none := by simp [afterCodePoint]
  rw [afterCharacter_backslash, hcode, Option.none_or, afterOne, if_neg hc]

/-- A character that opens no string stays when strings are replaced. -/
theorem replaceStrings_cons {c : Char} {rest : List Char} (h : ¬(c = '"' ∧ Opens '"' rest)) :
    replaceStrings (c :: rest) = c :: replaceStrings rest :=
  replacesQuoted_replaceStrings.cons_of_none fun hc =>
    (afterLiteral_eq_none_iff (by decide)).mpr fun hopens => h ⟨hc, hopens⟩

theorem replaceStrings_singleQuote (rest : List Char) :
    replaceStrings ('\'' :: rest) = '\'' :: replaceStrings rest :=
  replacesQuoted_replaceStrings.cons_of_ne (by decide) rest

theorem replaceStrings_backslash (rest : List Char) :
    replaceStrings ('\\' :: rest) = '\\' :: replaceStrings rest :=
  replacesQuoted_replaceStrings.cons_of_ne (by decide) rest

theorem replaceStrings_doubleQuote {rest tail : List Char} (h : afterLiteral '"' rest = some tail) :
    replaceStrings ('"' :: rest) = '"' :: 's' :: 't' :: 'r' :: '"' :: replaceStrings tail :=
  replacesQuoted_replaceStrings.cons_of_some h

section Characters

variable {rest : List Char}

theorem replaceCharacters_quote {tail : List Char} (h : afterCharacter rest = some tail) :
    replaceCharacters ('\'' :: rest) = charPlaceholder ++ replaceCharacters tail :=
  replacesQuoted_replaceCharacters.cons_of_some h

theorem replaceCharacters_quote_of_none (h : afterCharacter rest = none) :
    replaceCharacters ('\'' :: rest) = '\'' :: replaceCharacters rest :=
  replacesQuoted_replaceCharacters.cons_of_none fun _ => h

theorem replaceCharacters_cons {c : Char} (hc : c ≠ '\'') :
    replaceCharacters (c :: rest) = c :: replaceCharacters rest :=
  replacesQuoted_replaceCharacters.cons_of_ne hc rest

end Characters

section Pieces

variable {rest : List Char}

theorem replaceLiterals_code_append {code : List Char} (hcode : ∀ c ∈ code, c ∉ ['\'', '"']) :
    replaceLiterals .rust (code ++ rest) = code ++ replaceLiterals .rust rest := by
  have hdouble : '"' ∉ code := fun hmem => hcode _ hmem (by decide)
  have hsingle : '\'' ∉ code := fun hmem => hcode _ hmem (by decide)
  rw [replaceLiterals, replacesQuoted_replaceStrings.unquoted_append hdouble,
    replacesQuoted_replaceCharacters.unquoted_append hsingle]
  rfl

theorem replaceLiterals_string {body : List Char} (hbody : IsBody '"' body) :
    replaceLiterals .rust ('"' :: (body ++ '"' :: rest)) =
      stringPlaceholder ++ replaceLiterals .rust rest := by
  have hread : afterLiteral '"' (body ++ '"' :: rest) = some rest :=
    afterLiteral_body_append (by decide) hbody rest
  -- what is written for the string is nothing to the pass over characters
  have hplaceholder : '\'' ∉ stringPlaceholder := by decide
  rw [replaceLiterals, replacesQuoted_replaceStrings.cons_of_some hread,
    replacesQuoted_replaceCharacters.unquoted_append hplaceholder]
  rfl

theorem replaceLiterals_character {c : Char} (hc : c ≠ '\'' ∧ c ≠ '\\' ∧ c ≠ '\n')
    (hread : ¬(c = '"' ∧ Opens '"' ('\'' :: rest))) :
    replaceLiterals .rust ('\'' :: c :: '\'' :: rest) = charPlaceholder ++ replaceLiterals .rust rest := by
  rw [replaceLiterals, replaceStrings_singleQuote, replaceStrings_cons hread, replaceStrings_singleQuote,
    replaceCharacters_quote (afterCharacter_plain hc _)]
  rfl

theorem replaceLiterals_escape {c : Char} (hc : c ≠ '\n')
    (hread : ¬(c = '"' ∧ Opens '"' ('\'' :: rest))) :
    replaceLiterals .rust ('\'' :: '\\' :: c :: '\'' :: rest) =
      charPlaceholder ++ replaceLiterals .rust rest := by
  rw [replaceLiterals, replaceStrings_singleQuote, replaceStrings_backslash, replaceStrings_cons hread,
    replaceStrings_singleQuote, replaceCharacters_quote (afterCharacter_escaped hc _)]
  rfl

/-- The string that opens at a double quote leaves what is written for it after the first single quote. -/
theorem replaceLiterals_character_misread (hopens : Opens '"' ('\'' :: rest)) :
    ∃ tail, replaceLiterals .rust ('\'' :: '"' :: '\'' :: rest) = '\'' :: '"' :: tail := by
  obtain ⟨tail, htail⟩ := hopens.exists_afterLiteral (by decide)
  have hnone (cs : List Char) : afterCharacter ('"' :: 's' :: cs) = none := by simp [afterCharacter]
  rw [replaceLiterals, replaceStrings_singleQuote, replaceStrings_doubleQuote htail,
    replaceCharacters_quote_of_none (hnone _), replaceCharacters_cons (by decide)]
  exact ⟨_, rfl⟩

theorem replaceLiterals_escape_misread (hopens : Opens '"' ('\'' :: rest)) :
    ∃ tail, replaceLiterals .rust ('\'' :: '\\' :: '"' :: '\'' :: rest) = '\'' :: '\\' :: tail := by
  obtain ⟨tail, htail⟩ := hopens.exists_afterLiteral (by decide)
  have hnone (cs : List Char) : afterCharacter ('\\' :: '"' :: 's' :: cs) = none := by
    simp [afterCharacter, afterCodePoint]
  rw [replaceLiterals, replaceStrings_singleQuote, replaceStrings_backslash,
    replaceStrings_doubleQuote htail, replaceCharacters_quote_of_none (hnone _),
    replaceCharacters_cons (by decide)]
  exact ⟨_, rfl⟩

end Pieces

theorem characterReading_isReadBy : characterReading.IsReadBy (replaceLiterals .rust) where
  nil := by rw [replaceLiterals, replaceStrings, replaceCharacters]
  cons_of_not {p ps} hp := by
    cases p with
    | code c => exact replaceLiterals_code_append c.unquoted
    | character c hc => exact replaceLiterals_character hc hp
    | escape c hc => exact replaceLiterals_escape hc hp
    | string body =>
      have hsource : characterReading.text (.string body :: ps) =
          '"' :: (body.chars ++ '"' :: characterReading.text ps) := by
        simp [Reading.text, characterReading, CharacterPiece.source]
      rw [hsource]
      exact replaceLiterals_string body.isBody
  parts {p ps} rest hp := by
    cases p with
    | code => exact hp.elim
    | character c hc =>
      obtain ⟨rfl, hopens⟩ := hp
      obtain ⟨tail, htail⟩ := replaceLiterals_character_misread hopens
      exact ⟨['\''], '"', 'c', tail, _, by decide, by decide, by decide, htail, rfl⟩
    | escape c hc =>
      obtain ⟨rfl, hopens⟩ := hp
      obtain ⟨tail, htail⟩ := replaceLiterals_escape_misread hopens
      exact ⟨['\''], '\\', 'c', tail, _, by decide, by decide, by decide, htail, rfl⟩
    | string => exact hp.elim

/-! ### Fixed literals -/

/-- **The key keeps the code and forgets the literals**, unless a character literal is misread: it is the key
of the text with fixed literals exactly when no double quote between single quotes opens a string. -/
theorem normalize_generic_iff (ps : List CharacterPiece) :
    normalize .rust (String.ofList (characterReading.text ps)) =
        normalize .rust (String.ofList (characterReading.text (ps.map CharacterPiece.generic))) ↔
      ¬characterReading.SomeMisread ps := by
  have hgeneric : ¬characterReading.SomeMisread (ps.map CharacterPiece.generic) := by
    refine Reading.not_someMisread fun q hq rest => ?_
    obtain ⟨p, -, rfl⟩ := List.mem_map.mp hq
    exact p.not_misread_generic rest
  have hresult : characterReading.result (ps.map CharacterPiece.generic) = characterReading.result ps := by
    simp only [Reading.result, characterReading, List.flatMap_map, CharacterPiece.written_generic]
  rw [normalize_ofList_eq_iff, eq_comm]
  exact characterReading_isReadBy.key_eq_iff hgeneric hresult

/-- Two double quotes between single quotes swallow the code between them. -/
theorem normalize_doubleQuote_characters :
    let quote : CharacterPiece := .character '"' (by decide)
    let ps := [quote, .code (.mk " + x + ".toList), quote]
    normalize .rust (String.ofList (characterReading.text ps)) = "'\"str\"'" ∧
      normalize .rust (String.ofList (characterReading.text (ps.map CharacterPiece.generic))) =
        "'c' + x + 'c'" := by
  intro quote ps
  exact ⟨by decide +kernel, by decide +kernel⟩

end Checkup.Duplication
