import Checkup.Text.Blank
import Checkup.Text.LetterCase
import Checkup.Text.Word

/-!
# The comparison key of a block of code

Two blocks of code count as the same text when they differ only in the contents of literals, in numerals,
in blanks and in letter case. The comparison key forgets these four things, one pass each:

1. `replaceLiterals` — every literal becomes a fixed literal. Which quotes delimit one is the `QuoteStyle`
   of the file. A literal never reaches over a line feed, so a quote that stands alone changes nothing after
   its line.
2. `Text.collapseBlanks` — every run of blanks becomes one space.
3. `replaceNumerals` — every numeral, with an optional fraction, becomes `0`.
4. `Text.lowercase`.

The passes run in this order: a literal is recognised before blanks in it could be touched, and the
numerals inside literals are gone before numerals are looked for.
-/

namespace Checkup.Duplication

open Checkup.Text

/-- Which quotes delimit literals in a file. -/
inductive QuoteStyle where
  /-- Single, double and back quotes delimit strings. -/
  | standard
  /-- Double quotes delimit strings, and single quotes one character; a single quote may also open the name
  of a lifetime. -/
  | rust
  deriving DecidableEq, Repr

/-- The quote style of the file with this path. -/
def QuoteStyle.ofPath (path : String) : QuoteStyle :=
  if path.endsWith ".rs" then .rust else .standard

/-- What follows the closing delimiter of a literal whose opening delimiter `quote` stands right before the
text. A backslash takes the character after it into the literal; there is no literal when the line or the
text ends first. -/
def afterLiteral (quote : Char) : List Char → Option (List Char)
  | [] => none
  | c :: rest =>
    if c = quote then some rest
    else if c = '\n' then none
    else if c = '\\' then
      match rest with
      | [] => none
      | escaped :: rest => if escaped = '\n' then none else afterLiteral quote rest
    else afterLiteral quote rest

theorem length_lt_of_afterLiteral {quote : Char} {cs rest : List Char}
    (h : afterLiteral quote cs = some rest) : rest.length < cs.length := by
  fun_induction afterLiteral quote cs <;> grind

/-- What follows a single-quoted literal whose opening quote stands at the start of the text. -/
def afterSingleQuoted : List Char → Option (List Char)
  | '\'' :: rest => afterLiteral '\'' rest
  | _ => none

theorem length_lt_of_afterSingleQuoted {cs rest : List Char}
    (h : afterSingleQuoted cs = some rest) : rest.length < cs.length := by
  unfold afterSingleQuoted at h
  split at h
  · have := length_lt_of_afterLiteral h
    simp only [List.length_cons]
    omega
  · simp at h

/-- The literal that replaces every string. -/
def stringPlaceholder : List Char := ['"', 's', 't', 'r', '"']

/-- The literal that replaces every character literal. -/
def charPlaceholder : List Char := ['\'', 'c', '\'']

/-- Replaces the literals of the standard style in a text that starts a line or not.

A single quote opens a literal at the start of a line or after a character that is no word character, so an
apostrophe inside a word stays text. That character may itself be a quote: at each place a single-quoted
literal is preferred to one that the character would open. -/
def replaceStandard (atLineStart : Bool) (cs : List Char) : List Char :=
  match cs with
  | [] => []
  | c :: rest =>
    match _h₁ : if atLineStart then afterSingleQuoted (c :: rest) else none with
    | some after => stringPlaceholder ++ replaceStandard false after
    | none =>
      match _h₂ : if isWord c then none else afterSingleQuoted rest with
      | some after => c :: stringPlaceholder ++ replaceStandard false after
      | none =>
        match _h₃ : if c = '"' || c = '`' then afterLiteral c rest else none with
        | some after => stringPlaceholder ++ replaceStandard false after
        | none => c :: replaceStandard (c = '\n') rest
termination_by cs.length
decreasing_by
  · split at _h₁
    · exact length_lt_of_afterSingleQuoted _h₁
    · simp at _h₁
  · split at _h₂
    · simp at _h₂
    · have := length_lt_of_afterSingleQuoted _h₂
      simp only [List.length_cons]
      omega
  · split at _h₃
    · have := length_lt_of_afterLiteral _h₃
      simp only [List.length_cons]
      omega
    · simp at _h₃
  · simp

/-- Replaces the double-quoted strings of a text. -/
def replaceStrings (cs : List Char) : List Char :=
  match cs with
  | [] => []
  | c :: rest =>
    match _h : if c = '"' then afterLiteral '"' rest else none with
    | some after => stringPlaceholder ++ replaceStrings after
    | none => c :: replaceStrings rest
termination_by cs.length
decreasing_by
  · split at _h
    · have := length_lt_of_afterLiteral _h
      simp only [List.length_cons]
      omega
    · simp at _h
  · simp

/-- Whether `c` is a hexadecimal digit. -/
def isHexDigit (c : Char) : Bool :=
  ('0' ≤ c && c ≤ '9') || ('a' ≤ c && c ≤ 'f') || ('A' ≤ c && c ≤ 'F')

/-- What follows the closing quote of a character literal written by its code point: the text starts with
the letter `u`, one to six hexadecimal digits between braces, and a quote. -/
def afterCodePoint : List Char → Option (List Char)
  | 'u' :: '\x7b' :: rest =>
    let digits := rest.takeWhile isHexDigit
    if 1 ≤ digits.length && digits.length ≤ 6 then
      match rest.dropWhile isHexDigit with
      | '\x7d' :: '\'' :: after => some after
      | _ => none
    else none
  | _ => none

theorem length_lt_of_afterCodePoint {cs rest : List Char}
    (h : afterCodePoint cs = some rest) : rest.length < cs.length := by
  unfold afterCodePoint at h
  split at h
  · rename_i digits
    simp only at h
    split at h
    · split at h
      · rename_i after heq
        have hsuffix := (List.dropWhile_suffix isHexDigit (l := digits)).length_le
        rw [heq] at hsuffix
        simp only [List.length_cons] at hsuffix ⊢
        grind
      · simp at h
    · simp at h
  · simp at h

/-- What follows the closing quote of a character literal whose opening quote stands right before the text:
one character, a backslash and a code point, or a backslash and one character. -/
def afterCharacter (cs : List Char) : Option (List Char) :=
  match cs with
  | '\\' :: rest =>
    match afterCodePoint rest with
    | some after => some after
    | none =>
      match rest with
      | c :: '\'' :: after => if c = '\n' then none else some after
      | _ => none
  | c :: '\'' :: after => if c = '\'' || c = '\n' then none else some after
  | _ => none

theorem length_lt_of_afterCharacter {cs rest : List Char}
    (h : afterCharacter cs = some rest) : rest.length < cs.length := by
  unfold afterCharacter at h
  split at h
  · split at h
    · rename_i heq
      have := length_lt_of_afterCodePoint heq
      simp only [List.length_cons]
      grind
    · split at h
      · grind
      · simp at h
  · grind
  · simp at h

/-- Replaces the character literals of a text. -/
def replaceCharacters (cs : List Char) : List Char :=
  match cs with
  | [] => []
  | c :: rest =>
    match _h : if c = '\'' then afterCharacter rest else none with
    | some after => charPlaceholder ++ replaceCharacters after
    | none => c :: replaceCharacters rest
termination_by cs.length
decreasing_by
  · split at _h
    · have := length_lt_of_afterCharacter _h
      simp only [List.length_cons]
      omega
    · simp at _h
  · simp

/-- Replaces the literals of a text. -/
def replaceLiterals (style : QuoteStyle) (cs : List Char) : List Char :=
  match style with
  | .standard => replaceStandard true cs
  | .rust => replaceCharacters (replaceStrings cs)

/-- Where a text stands relative to a numeral. -/
inductive NumeralState where
  /-- Outside a numeral. -/
  | outside
  /-- In the digits before a point. -/
  | whole
  /-- In the digits after the point. -/
  | fraction
  deriving DecidableEq, Repr

/-- Whether a text starts with a point and a digit. -/
def startsFraction : List Char → Bool
  | '.' :: c :: _ => isDigit c
  | _ => false

/-- Replaces the numerals of a text by `0`, where the numeral that the text may begin inside of is already
written. -/
def replaceNumeralsFrom (state : NumeralState) : List Char → List Char
  | [] => []
  | c :: rest =>
    if isDigit c then
      match state with
      | .outside => '0' :: replaceNumeralsFrom .whole rest
      | .whole => replaceNumeralsFrom .whole rest
      | .fraction => replaceNumeralsFrom .fraction rest
    else if state = .whole && startsFraction (c :: rest) then replaceNumeralsFrom .fraction rest
    else c :: replaceNumeralsFrom .outside rest

/-- Replaces every numeral of a text by `0`: a run of digits, with a point and a run of digits after it if
there is one. -/
def replaceNumerals (cs : List Char) : List Char :=
  replaceNumeralsFrom .outside cs

/-- The comparison key of a text. -/
def key (style : QuoteStyle) (cs : List Char) : List Char :=
  lowercase (replaceNumerals (collapseBlanks (replaceLiterals style cs)))

/-- The comparison key of a text. -/
def normalize (style : QuoteStyle) (text : String) : String :=
  String.ofList (key style text.toList)

end Checkup.Duplication
