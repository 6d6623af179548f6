import Checkup.Proofs.Duplication.Key

/-!
# The comparison key and the spelling of a text

The spelling of a text is which digits its numbers are written with and in which case its ASCII letters are. A text
is spelled anew (`Respells`) by exchanging each run of decimal digits for another, of any length and in any script,
and by changing the case of letters. The comparison key in the standard style forgets the spelling, whatever quotes
and backslashes stand in the text.

* **Literals** — no digit or letter delimits a literal, ends a line, or lets a single quote behind it open one, and
  a backslash takes one digit with it, whichever. So each recogniser finds corresponding literals in texts that
  differ in spelling alone (`Respells.rel_afterLiteral`), and with the literals replaced they still differ in
  nothing else (`Respells.replaceStandard`).
* **Numerals** — a run of digits is a numeral, or goes on with one, by what stands around it. With the numerals
  replaced only the case of letters is left (`Respells.replaceNumerals`), and that is forgotten last.
-/

namespace Checkup.Duplication

open Checkup.Text

/-! ### Spelling -/

/-- A run of decimal digits. -/
structure IsDigitRun (run : List Char) : Prop where
  ne_nil : run ≠ []
  digits : ∀ c ∈ run, isDigit c = true

instance (run : List Char) : Decidable (IsDigitRun run) :=
  decidable_of_iff (run ≠ [] ∧ run.all isDigit = true)
    ⟨fun h => ⟨h.1, List.all_eq_true.mp h.2⟩, fun h => ⟨h.1, List.all_eq_true.mpr h.2⟩⟩

/-- A text is spelled anew. A run of digits gives way to another one; that it is as long as can be is not asked for,
so all maximal runs may be exchanged. Any other character stays, but for the case of an ASCII letter. -/
inductive Respells : List Char → List Char → Prop
  | nil : Respells [] []
  | other {c d : Char} {cs ds : List Char} (hdigit : isDigit c = false) (hcase : c.toLower = d.toLower)
    (h : Respells cs ds) : Respells (c :: cs) (d :: ds)
  | run {run run' cs ds : List Char} (hrun : IsDigitRun run) (hrun' : IsDigitRun run') (h : Respells cs ds) :
    Respells (run ++ cs) (run' ++ ds)

/-- Code without digits stays code when the case of its letters changes. -/
theorem Respells.code_append {code code' cs ds : List Char} (hcode : code.any isDigit = false)
    (hcase : SameButCase code code') (h : Respells cs ds) : Respells (code ++ cs) (code' ++ ds) := by
  induction hcase with
  | nil => exact h
  | cons hcd _ ih =>
    rw [List.any_cons, Bool.or_eq_false_iff] at hcode
    exact .other hcode.1 hcd (ih hcode.2)

/-! ### Characters -/

/-- The quotes of the standard style. -/
def standardQuotes : List Char :=
  ['\'', '"', '`']

/-- The characters that delimit literals and numerals. -/
def delimiters : List Char :=
  standardQuotes ++ ['\\', '\n', '.']

/-- The tables of digits and word characters, looked up at each capital letter. -/
theorem delimits_capitals : ∀ n < 26, isDigit (capital n).toLower = isDigit (capital n) ∧
    isWord (capital n).toLower = isWord (capital n) ∧
      delimiters.map ((capital n).toLower == ·) = delimiters.map (capital n == ·) := by
  decide +kernel

theorem isDigit_delimiters : ∀ mark ∈ delimiters, isDigit mark = false := by
  simp only [delimiters, standardQuotes, List.cons_append, List.nil_append, List.forall_mem_cons]
  refine ⟨?_, ?_, ?_, ?_, ?_, ?_, List.forall_mem_nil _⟩ <;> decide +kernel

theorem standardQuote_facts : ∀ quote ∈ standardQuotes, quote ∈ delimiters ∧ '\\' ≠ quote ∧ '\n' ≠ quote := by
  simp only [standardQuotes, List.forall_mem_cons]
  refine ⟨?_, ?_, ?_, List.forall_mem_nil _⟩ <;> decide

section Characters

variable {c d mark : Char}

theorem isDigit_congr (h : c.toLower = d.toLower) : isDigit c = isDigit d :=
  congr_of_toLower_eq isDigit (fun n hn => (delimits_capitals n hn).1) h

theorem isWord_congr (h : c.toLower = d.toLower) : isWord c = isWord d :=
  congr_of_toLower_eq isWord (fun n hn => (delimits_capitals n hn).2.1) h

theorem eq_delimiter_congr (h : c.toLower = d.toLower) (hmark : mark ∈ delimiters) : c = mark ↔ d = mark := by
  have hmap := congr_of_toLower_eq (fun c => delimiters.map (c == ·))
    (fun n hn => (delimits_capitals n hn).2.2) h
  have heq : (c == mark) = (d == mark) := List.map_inj_left.mp hmap mark hmark
  rw [← beq_iff_eq, heq, beq_iff_eq]

theorem ne_delimiter_of_isDigit (hc : isDigit c = true) (hmark : mark ∈ delimiters) : c ≠ mark := by
  rintro rfl
  rw [isDigit_delimiters c hmark] at hc
  contradiction

end Characters

/-! ### Recognisers of literals -/

section Option

variable {α β : Type} {r : α → β → Prop}

theorem rel_cases {o : Option α} {o' : Option β} (h : Option.Rel r o o') :
    (∃ a b, o = some a ∧ o' = some b ∧ r a b) ∨ o = none ∧ o' = none := by
  cases h with
  | some hab => exact .inl ⟨_, _, rfl, rfl, hab⟩
  | none => exact .inr ⟨rfl, rfl⟩

theorem rel_ite {p q : Prop} [Decidable p] [Decidable q] (hpq : p ↔ q) {o₁ o₂ : Option α} {o₁' o₂' : Option β}
    (h₁ : Option.Rel r o₁ o₁') (h₂ : Option.Rel r o₂ o₂') :
    Option.Rel r (if p then o₁ else o₂) (if q then o₁' else o₂') := by
  by_cases hp : p
  · rwa [if_pos hp, if_pos (hpq.mp hp)]
  · rwa [if_neg hp, if_neg (hpq.not.mp hp)]

end Option

theorem afterLiteral_digits_append {quote : Char} (hquote : quote ∈ standardQuotes) {run : List Char}
    (hrun : ∀ c ∈ run, isDigit c = true) (cs : List Char) :
    afterLiteral quote (run ++ cs) = afterLiteral quote cs := by
  induction run with
  | nil => rfl
  | cons c run ih =>
    obtain ⟨hc, hrun⟩ := List.forall_mem_cons.mp hrun
    have hclose : c ≠ quote := ne_delimiter_of_isDigit hc (standardQuote_facts quote hquote).1
    have hfeed : c ≠ '\n' := ne_delimiter_of_isDigit hc (by decide)
    have hslash : c ≠ '\\' := ne_delimiter_of_isDigit hc (by decide)
    rw [List.cons_append, afterLiteral_of_plain hclose hfeed hslash, ih hrun]

/-- A backslash takes the first digit of a run with it, and the others are plain. -/
theorem afterLiteral_backslash_run_append {quote : Char} (hquote : quote ∈ standardQuotes) {run : List Char}
    (hrun : IsDigitRun run) (cs : List Char) :
    afterLiteral quote ('\\' :: (run ++ cs)) = afterLiteral quote cs := by
  obtain ⟨c, run, rfl⟩ := List.exists_cons_of_ne_nil hrun.ne_nil
  obtain ⟨hc, hdigits⟩ := List.forall_mem_cons.mp hrun.digits
  have hslash : '\\' ≠ quote := (standardQuote_facts quote hquote).2.1
  rw [List.cons_append, afterLiteral_escaped hslash (ne_delimiter_of_isDigit hc (by decide)),
    afterLiteral_digits_append hquote hdigits]

theorem afterSingleQuoted_run_append {run : List Char} (hrun : IsDigitRun run) (cs : List Char) :
    afterSingleQuoted (run ++ cs) = none := by
  obtain ⟨c, run, rfl⟩ := List.exists_cons_of_ne_nil hrun.ne_nil
  have hc : isDigit c = true := hrun.digits c List.mem_cons_self
  exact afterSingleQuoted_of_ne (ne_delimiter_of_isDigit hc (by decide)) _

namespace Respells

variable {cs ds : List Char}

/-- A literal ends at corresponding places. The second part is about the texts with a backslash before them. -/
theorem rel_afterLiteral {quote : Char} (hquote : quote ∈ standardQuotes) (h : Respells cs ds) :
    Option.Rel Respells (afterLiteral quote cs) (afterLiteral quote ds) ∧
      Option.Rel Respells (afterLiteral quote ('\\' :: cs)) (afterLiteral quote ('\\' :: ds)) := by
  obtain ⟨hmark, hslash, hfeed⟩ := standardQuote_facts quote hquote
  induction h with
  | nil => simp [afterLiteral, hslash]
  | @other c d cs ds hdigit hcase h ih =>
    have hsame {m : Char} (hm : m ∈ delimiters) : c = m ↔ d = m := eq_delimiter_congr hcase hm
    constructor
    · by_cases hclose : c = quote
      · rw [hclose, (hsame hmark).mp hclose, afterLiteral_close, afterLiteral_close]
        exact .some h
      by_cases hend : c = '\n'
      · rw [hend, (hsame (by decide)).mp hend, afterLiteral_lineFeed hfeed, afterLiteral_lineFeed hfeed]
        exact .none
      by_cases hescape : c = '\\'
      · rw [hescape, (hsame (by decide)).mp hescape]
        exact ih.2
      · have hclose' : d ≠ quote := (hsame hmark).not.mp hclose
        have hend' : d ≠ '\n' := (hsame (by decide)).not.mp hend
        have hescape' : d ≠ '\\' := (hsame (by decide)).not.mp hescape
        rw [afterLiteral_of_plain hclose hend hescape, afterLiteral_of_plain hclose' hend' hescape']
        exact ih.1
    · by_cases hend : c = '\n'
      · rw [hend, (hsame (by decide)).mp hend,
          (endsLiterals_lineFeed cs).afterLiteral_backslash_eq_none hslash,
          (endsLiterals_lineFeed ds).afterLiteral_backslash_eq_none hslash]
        exact .none
      · have hend' : d ≠ '\n' := (hsame (by decide)).not.mp hend
        rw [afterLiteral_escaped hslash hend, afterLiteral_escaped hslash hend']
        exact ih.1
  | @run run run' cs ds hrun hrun' h ih =>
    rw [afterLiteral_digits_append hquote hrun.digits, afterLiteral_digits_append hquote hrun'.digits,
      afterLiteral_backslash_run_append hquote hrun, afterLiteral_backslash_run_append hquote hrun']
    exact ⟨ih.1, ih.1⟩

theorem rel_afterSingleQuoted (h : Respells cs ds) :
    Option.Rel Respells (afterSingleQuoted cs) (afterSingleQuoted ds) := by
  cases h with
  | nil => exact .none
  | @other c d cs ds hdigit hcase h =>
    have hquote : c = '\'' ↔ d = '\'' := eq_delimiter_congr hcase (by decide)
    by_cases hc : c = '\''
    · rw [hc, hquote.mp hc]
      exact (h.rel_afterLiteral (by decide)).1
    · rw [afterSingleQuoted_of_ne hc, afterSingleQuoted_of_ne (hquote.not.mp hc)]
      exact .none
  | @run run run' cs ds hrun hrun' h =>
    rw [afterSingleQuoted_run_append hrun, afterSingleQuoted_run_append hrun']
    exact .none

/-- A string that a character opens ends at corresponding places. -/
theorem rel_afterOpening {c d : Char} (hcase : c.toLower = d.toLower) (h : Respells cs ds) :
    Option.Rel Respells (if c = '"' || c = '`' then afterLiteral c cs else none)
      (if d = '"' || d = '`' then afterLiteral d ds else none) := by
  have hdouble : c = '"' ↔ d = '"' := eq_delimiter_congr hcase (by decide)
  have hback : c = '`' ↔ d = '`' := eq_delimiter_congr hcase (by decide)
  by_cases hc : c = '"'
  · rw [hc, hdouble.mp hc]
    exact (h.rel_afterLiteral (by decide)).1
  by_cases hc' : c = '`'
  · rw [hc', hback.mp hc']
    exact (h.rel_afterLiteral (by decide)).1
  · simp [hc, hc', hdouble.not.mp hc, hback.not.mp hc']

end Respells

/-! ### Literals -/

theorem replaceStandard_cons_digit {c : Char} (hc : isDigit c = true) (atLineStart : Bool) (cs : List Char) :
    replaceStandard atLineStart (c :: cs) = c :: replaceStandard false cs := by
  have hsingle : c ≠ '\'' := ne_delimiter_of_isDigit hc (by decide)
  have hdouble : c ≠ '"' := ne_delimiter_of_isDigit hc (by decide)
  have hback : c ≠ '`' := ne_delimiter_of_isDigit hc (by decide)
  have hfeed : c ≠ '\n' := ne_delimiter_of_isDigit hc (by decide)
  rw [replaceStandard_cons, afterSingleQuoted_of_ne hsingle, isWord_of_isDigit hc]
  simp [hdouble, hback, hfeed]

theorem replaceStandard_run_append {run : List Char} (hrun : IsDigitRun run) (atLineStart : Bool) (cs : List Char) :
    replaceStandard atLineStart (run ++ cs) = run ++ replaceStandard false cs := by
  obtain ⟨hne, hdigits⟩ := hrun
  induction run generalizing atLineStart with
  | nil => contradiction
  | cons c run ih =>
    obtain ⟨hc, hdigits⟩ := List.forall_mem_cons.mp hdigits
    rw [List.cons_append, replaceStandard_cons_digit hc, List.cons_append]
    by_cases hlast : run = []
    · rw [hlast, List.nil_append, List.nil_append]
    · rw [ih false hlast hdigits]

/-- **Replacing literals leaves nothing but the spelling apart.** -/
theorem Respells.replaceStandard {cs ds : List Char} (h : Respells cs ds) (atLineStart : Bool) :
    Respells (replaceStandard atLineStart cs) (replaceStandard atLineStart ds) := by
  have hplaceholder {tail tail' : List Char} (h : Respells tail tail') :
      Respells (stringPlaceholder ++ tail) (stringPlaceholder ++ tail') :=
    .code_append (by decide +kernel) (List.forall₂_same.mpr fun _ _ => rfl) h
  -- a literal is skipped as a whole, so the induction is over the length
  induction hlen : cs.length using Nat.strongRecOn generalizing cs ds atLineStart with
  | ind n ih =>
    cases h with
    | nil =>
      rw [Duplication.replaceStandard]
      exact .nil
    | @run run run' cs ds hrun hrun' h =>
      have hpos : 0 < run.length := List.length_pos_iff.mpr hrun.ne_nil
      rw [List.length_append] at hlen
      rw [replaceStandard_run_append hrun, replaceStandard_run_append hrun']
      exact .run hrun hrun' (ih _ (by omega) h false rfl)
    | @other c d cs ds hdigit hcase h =>
      rw [List.length_cons] at hlen
      -- each of the three recognisers finds corresponding literals, or none in either text
      have hhere : Option.Rel Respells (if atLineStart then afterSingleQuoted (c :: cs) else none)
          (if atLineStart then afterSingleQuoted (d :: ds) else none) :=
        rel_ite Iff.rfl (Respells.other hdigit hcase h).rel_afterSingleQuoted .none
      have hnext : Option.Rel Respells (if isWord c then none else afterSingleQuoted cs)
          (if isWord d then none else afterSingleQuoted ds) :=
        rel_ite (by rw [isWord_congr hcase]) .none h.rel_afterSingleQuoted
      have hfeed : decide (c = '\n') = decide (d = '\n') :=
        decide_eq_decide.mpr (eq_delimiter_congr hcase (by decide))
      rw [replaceStandard_cons, replaceStandard_cons]
      rcases rel_cases hhere with ⟨tail, tail', h₁, h₁', htail⟩ | ⟨h₁, h₁'⟩
      · have hlt := length_lt_of_afterSingleQuoted (Option.ite_none_right_eq_some.mp h₁).2
        rw [List.length_cons] at hlt
        rw [h₁, h₁']
        exact hplaceholder (ih _ (by omega) htail false rfl)
      rw [h₁, h₁']
      rcases rel_cases hnext with ⟨tail, tail', h₂, h₂', htail⟩ | ⟨h₂, h₂'⟩
      · have hlt := length_lt_of_afterSingleQuoted (Option.ite_none_left_eq_some.mp h₂).2
        rw [h₂, h₂']
        exact .other hdigit hcase (hplaceholder (ih _ (by omega) htail false rfl))
      rw [h₂, h₂']
      rcases rel_cases (h.rel_afterOpening hcase) with ⟨tail, tail', h₃, h₃', htail⟩ | ⟨h₃, h₃'⟩
      · have hlt := length_lt_of_afterLiteral (Option.ite_none_right_eq_some.mp h₃).2
        rw [h₃, h₃']
        exact hplaceholder (ih _ (by omega) htail false rfl)
      rw [h₃, h₃', hfeed]
      exact .other hdigit hcase (ih _ (by omega) h _ rfl)

/-! ### Numerals -/

/-- Inside a numeral the digits that follow are passed over. -/
theorem replaceNumeralsFrom_digits_append {run : List Char} (hrun : ∀ c ∈ run, isDigit c = true)
    {state : NumeralState} (hstate : state ≠ .outside) (cs : List Char) :
    replaceNumeralsFrom state (run ++ cs) = replaceNumeralsFrom state cs := by
  induction run with
  | nil => rfl
  | cons c run ih =>
    obtain ⟨hc, hrun⟩ := List.forall_mem_cons.mp hrun
    have hskip : replaceNumeralsFrom state (c :: (run ++ cs)) = replaceNumeralsFrom state (run ++ cs) := by
      cases state with
      | outside => contradiction
      | whole => rw [replaceNumeralsFrom, if_pos hc]
      | fraction => rw [replaceNumeralsFrom, if_pos hc]
    rw [List.cons_append, hskip, ih hrun]

theorem replaceNumeralsFrom_run_append {run : List Char} (hrun : IsDigitRun run) (cs : List Char) :
    replaceNumeralsFrom .outside (run ++ cs) = '0' :: replaceNumeralsFrom .whole cs := by
  obtain ⟨c, run, rfl⟩ := List.exists_cons_of_ne_nil hrun.ne_nil
  obtain ⟨hc, hdigits⟩ := List.forall_mem_cons.mp hrun.digits
  rw [List.cons_append, replaceNumeralsFrom, if_pos hc, replaceNumeralsFrom_digits_append hdigits (by decide)]

theorem startsFraction_run_append {run : List Char} (hrun : IsDigitRun run) (cs : List Char) :
    startsFraction ('.' :: (run ++ cs)) = true := by
  obtain ⟨c, run, rfl⟩ := List.exists_cons_of_ne_nil hrun.ne_nil
  exact hrun.digits c List.mem_cons_self

/-- Whether a point starts a fraction is no matter of spelling. -/
theorem Respells.startsFraction_cons {c d : Char} {cs ds : List Char} (hcase : c.toLower = d.toLower)
    (h : Respells cs ds) : startsFraction (c :: cs) = startsFraction (d :: ds) := by
  have hpoint : c = '.' ↔ d = '.' := eq_delimiter_congr hcase (by decide)
  by_cases hc : c = '.'
  · rw [hc, hpoint.mp hc]
    cases h with
    | nil => rfl
    | other hdigit hcase h => exact isDigit_congr hcase
    | run hrun hrun' h => rw [startsFraction_run_append hrun, startsFraction_run_append hrun']
  · simp [startsFraction, hc, hpoint.not.mp hc]

/-- **Replacing numerals leaves nothing but letter case apart.** -/
theorem Respells.replaceNumerals {cs ds : List Char} (h : Respells cs ds) (state : NumeralState) :
    SameButCase (replaceNumeralsFrom state cs) (replaceNumeralsFrom state ds) := by
  induction h generalizing state with
  | nil => exact .nil
  | @other c d cs ds hdigit hcase h ih =>
    have hdigit' : isDigit d = false := (isDigit_congr hcase).symm.trans hdigit
    rw [replaceNumeralsFrom.eq_def, replaceNumeralsFrom.eq_def state]
    simp only [hdigit, hdigit', h.startsFraction_cons hcase, Bool.false_eq_true, if_false]
    split
    · exact ih .fraction
    · exact .cons hcase (ih .outside)
  | @run run run' cs ds hrun hrun' h ih =>
    by_cases hstate : state = .outside
    · rw [hstate, replaceNumeralsFrom_run_append hrun, replaceNumeralsFrom_run_append hrun']
      exact .cons rfl (ih .whole)
    · rw [replaceNumeralsFrom_digits_append hrun.digits hstate,
        replaceNumeralsFrom_digits_append hrun'.digits hstate]
      exact ih state

/-! ### The key -/

/-- **Numbers and letter case never change the key** of a text in the standard style. -/
theorem normalize_eq_of_respells {a b : String} (h : Respells a.toList b.toList) :
    normalize .standard a = normalize .standard b := by
  have hliterals : Respells (replaceLiterals .standard a.toList) (replaceLiterals .standard b.toList) :=
    h.replaceStandard true
  have hnumerals : SameButCase (replaceNumerals (replaceLiterals .standard a.toList))
      (replaceNumerals (replaceLiterals .standard b.toList)) := hliterals.replaceNumerals .outside
  have hkey : key .standard a.toList = key .standard b.toList := by
    rw [key_eq_collapseBlanks, key_eq_collapseBlanks, afterLiterals, afterLiterals, lowercase_congr hnumerals]
  rw [normalize, normalize, hkey]

/-- A run of digits behind a backslash, two around a point, and one before a quote, which opens nothing there. -/
theorem normalize_respelled :
    let a := "Px = '\\12' + 3.14 - 5'b"
    let b := "pX = '\\7' + 26.5 - ٣٤'B"
    Respells a.toList b.toList ∧ normalize .standard a = normalize .standard b := by
  intro a b
  have ha : a.toList = "Px = '\\".toList ++ ("12".toList ++ ("' + ".toList ++ ("3".toList ++ (".".toList ++
      ("14".toList ++ (" - ".toList ++ ("5".toList ++ ("'b".toList ++ [])))))))) := by decide +kernel
  have hb : b.toList = "pX = '\\".toList ++ ("7".toList ++ ("' + ".toList ++ ("26".toList ++ (".".toList ++
      ("5".toList ++ (" - ".toList ++ ("٣٤".toList ++ ("'B".toList ++ [])))))))) := by decide +kernel
  have h : Respells a.toList b.toList := by
    rw [ha, hb]
    refine .code_append ?_ ?_ (.run ?_ ?_ (.code_append ?_ ?_ (.run ?_ ?_ (.code_append ?_ ?_
      (.run ?_ ?_ (.code_append ?_ ?_ (.run ?_ ?_ (.code_append ?_ ?_ .nil))))))))
    all_goals decide +kernel
  exact ⟨h, normalize_eq_of_respells h⟩

end Checkup.Duplication
