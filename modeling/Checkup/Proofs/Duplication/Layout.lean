import Checkup.Proofs.Duplication.Key
import Mathlib.Logic.Relation

/-!
# The comparison key and the layout of a text

The layout of a text is how its lines are indented, what blanks end them, and how many blank lines stand
between them. The comparison key forgets it: a line break with all the blanks around it (`IsBreak`) counts as
one space, whichever blanks they are and however many line feeds are among them.

* Literals do not get in the way. Blanks before a literal leave it a literal, also a single-quoted one, which
  may open at the start of a line or after a blank (`replaceLiterals_blanks_append`); and blanks at the end of
  a text close no literal, whatever quotes and backslashes stand open (`replaceLiterals_append_blanks`).
* So one break may stand in for another (`normalize_break_congr`).
* Each way of reformatting a text exchanges one break for another (`Reformats.exists_breaks`), and
  reformatting it in any number of ways leaves the key as it is (`normalize_eq_of_reformats`).
-/

namespace Checkup.Duplication

open Checkup.Text

/-! ### Literals and blanks around them -/

theorem replaceLiterals_blanks_append {blanks : List Char}
    (hblanks : ∀ c ∈ blanks, isBlank c = true) (style : QuoteStyle) (ds : List Char) :
    replaceLiterals style (blanks ++ ds) = blanks ++ replaceLiterals style ds := by
  induction blanks with
  | nil => rfl
  | cons c blanks ih =>
    obtain ⟨hc, hblanks⟩ := List.forall_mem_cons.mp hblanks
    rw [List.cons_append, replaceLiterals_cons_blank hc, ih hblanks, List.cons_append]

theorem replaceLiterals_append_blanks {blanks : List Char}
    (hblanks : ∀ c ∈ blanks, isBlank c = true) (style : QuoteStyle) (cs : List Char) :
    replaceLiterals style (cs ++ blanks) = replaceLiterals style cs ++ blanks := by
  -- the blanks join the text one by one, each as its last character
  induction blanks generalizing cs with
  | nil => rw [List.append_nil, List.append_nil]
  | cons c blanks ih =>
    obtain ⟨hc, hblanks⟩ := List.forall_mem_cons.mp hblanks
    have hlast : replaceLiterals style (cs ++ [c]) = replaceLiterals style cs ++ [c] := by
      rw [replaceLiterals_append_blank (endsLiterals_last hc)]
      cases style with
      | standard => rw [replaceLiterals, replaceLiterals, replaceStandard]
      | rust => simp [replaceLiterals, replaceStrings, replaceCharacters]
    calc replaceLiterals style (cs ++ c :: blanks)
        = replaceLiterals style ((cs ++ [c]) ++ blanks) := by rw [List.append_cons]
      _ = replaceLiterals style (cs ++ [c]) ++ blanks := ih hblanks _
      _ = replaceLiterals style cs ++ c :: blanks := by rw [hlast, ← List.append_cons]

/-- A run of blanks with a line feed in it parts the replacing of literals. -/
theorem replaceLiterals_append_break {blanks : List Char}
    (hblanks : ∀ c ∈ blanks, isBlank c = true) (hfeed : '\n' ∈ blanks) (style : QuoteStyle)
    (cs ds : List Char) :
    replaceLiterals style (cs ++ (blanks ++ ds)) =
      replaceLiterals style cs ++ (blanks ++ replaceLiterals style ds) := by
  obtain ⟨front, back, rfl⟩ := List.append_of_mem hfeed
  obtain ⟨hfront, hback⟩ := List.forall_mem_append.mp hblanks
  have hback : ∀ c ∈ back, isBlank c = true := (List.forall_mem_cons.mp hback).2
  have hsplit : cs ++ (front ++ '\n' :: back ++ ds) = (cs ++ front) ++ '\n' :: (back ++ ds) := by
    simp only [List.append_assoc, List.cons_append]
  rw [hsplit, isLinewise_replaceLiterals, replaceLiterals_append_blanks hfront,
    replaceLiterals_blanks_append hback]
  simp only [List.append_assoc, List.cons_append]

/-! ### Breaks -/

/-- A line break, with any blanks and any blank lines around it. -/
def IsBreak (text : String) : Prop :=
  (∀ c ∈ text.toList, isBlank c = true) ∧ '\n' ∈ text.toList

theorem isBreak_lineFeed : IsBreak "\n" :=
  ⟨List.forall_mem_singleton.mpr rfl, List.mem_singleton_self _⟩

/-- The key of two texts with a break between them hangs on the texts alone. -/
theorem key_append_break {blanks : List Char} (hblanks : ∀ c ∈ blanks, isBlank c = true)
    (hfeed : '\n' ∈ blanks) (style : QuoteStyle) (cs ds : List Char) :
    key style (cs ++ (blanks ++ ds)) =
      collapseBlanks (afterLiterals (replaceLiterals style cs) ++
        ' ' :: afterLiterals (replaceLiterals style ds)) := by
  have hne : blanks ≠ [] := List.ne_nil_of_mem hfeed
  rw [key_eq_collapseBlanks, replaceLiterals_append_break hblanks hfeed,
    isWordwise_afterLiterals.append_blanks_append hblanks hne, collapseBlanks_append_blanks hblanks hne]

/-- **One break is as good as another.** -/
theorem normalize_break_congr {gap gap' : String} (h : IsBreak gap) (h' : IsBreak gap')
    (style : QuoteStyle) (a b : String) :
    normalize style (a ++ gap ++ b) = normalize style (a ++ gap' ++ b) := by
  have hlist : ∀ text : String, (a ++ text ++ b).toList = a.toList ++ (text.toList ++ b.toList) := by
    intro text
    rw [String.toList_append, String.toList_append, List.append_assoc]
  rw [normalize, normalize, hlist, hlist, key_append_break h.1 h.2, key_append_break h'.1 h'.2]

/-! ### Reformatting -/

/-- Blanks within a line. -/
def IsGap (text : String) : Prop :=
  ∀ c ∈ text.toList, isBlank c = true ∧ c ≠ '\n'

instance (text : String) : Decidable (IsGap text) :=
  List.decidableBAll _ _

theorem IsGap.isBlank {gap : String} (h : IsGap gap) : ∀ c ∈ gap.toList, isBlank c = true :=
  fun c hc => (h c hc).1

theorem IsGap.isBreak_before {gap : String} (h : IsGap gap) : IsBreak (gap ++ "\n") := by
  rw [IsBreak, String.toList_append, List.forall_mem_append]
  exact ⟨⟨h.isBlank, isBreak_lineFeed.1⟩, List.mem_append_right _ isBreak_lineFeed.2⟩

theorem IsGap.isBreak_after {gap : String} (h : IsGap gap) : IsBreak ("\n" ++ gap) := by
  rw [IsBreak, String.toList_append, List.forall_mem_append]
  exact ⟨⟨isBreak_lineFeed.1, h.isBlank⟩, List.mem_append_left _ isBreak_lineFeed.2⟩

theorem IsGap.isBreak_between {gap : String} (h : IsGap gap) : IsBreak ("\n" ++ gap ++ "\n") := by
  rw [IsBreak, String.toList_append, List.forall_mem_append]
  exact ⟨⟨h.isBreak_after.1, isBreak_lineFeed.1⟩, List.mem_append_right _ isBreak_lineFeed.2⟩

/-- One change of the layout of a list of lines: the blanks at the start of a line that is not the first are
exchanged, or those at the end of a line that is not the last, or a blank line is put between two lines. -/
inductive Reformats : List String → List String → Prop
  | indent (before after : List String) (line gap gap' : String) :
    before ≠ [] → IsGap gap → IsGap gap' →
      Reformats (before ++ (gap ++ line) :: after) (before ++ (gap' ++ line) :: after)
  | trail (before after : List String) (line gap gap' : String) :
    after ≠ [] → IsGap gap → IsGap gap' →
      Reformats (before ++ (line ++ gap) :: after) (before ++ (line ++ gap') :: after)
  | insert (before after : List String) (gap : String) :
    before ≠ [] → after ≠ [] → IsGap gap → Reformats (before ++ after) (before ++ gap :: after)

theorem intercalate_append_singleton (before : List String) (line gap : String) :
    "\n".intercalate (before ++ [line ++ gap]) = "\n".intercalate (before ++ [line]) ++ gap := by
  by_cases hne : before = []
  · rw [hne, List.nil_append, List.nil_append, String.intercalate_singleton,
      String.intercalate_singleton]
  · rw [String.intercalate_append_of_ne_nil hne (by simp),
      String.intercalate_append_of_ne_nil hne (by simp), String.intercalate_singleton,
      String.intercalate_singleton]
    simp only [String.append_assoc]

/-- Each change of the layout exchanges one break of the text for another. -/
theorem Reformats.exists_breaks {lines lines' : List String} (h : Reformats lines lines') :
    ∃ a b gap gap', IsBreak gap ∧ IsBreak gap' ∧ "\n".intercalate lines = a ++ gap ++ b ∧
      "\n".intercalate lines' = a ++ gap' ++ b := by
  cases h with
  | indent before after line gap gap' hbefore hgap hgap' =>
    have hlines : ∀ g : String, "\n".intercalate (before ++ (g ++ line) :: after) =
        "\n".intercalate before ++ ("\n" ++ g) ++ "\n".intercalate (line :: after) := by
      intro g
      rw [String.intercalate_append_of_ne_nil hbefore (by simp), String.intercalate_cons_append]
      simp only [String.append_assoc]
    exact ⟨_, _, _, _, hgap.isBreak_after, hgap'.isBreak_after, hlines gap, hlines gap'⟩
  | trail before after line gap gap' hafter hgap hgap' =>
    have hlines : ∀ g : String, "\n".intercalate (before ++ (line ++ g) :: after) =
        "\n".intercalate (before ++ [line]) ++ (g ++ "\n") ++ "\n".intercalate after := by
      intro g
      rw [List.append_cons, String.intercalate_append_of_ne_nil (by simp) hafter,
        intercalate_append_singleton]
      simp only [String.append_assoc]
    exact ⟨_, _, _, _, hgap.isBreak_before, hgap'.isBreak_before, hlines gap, hlines gap'⟩
  | insert before after gap hbefore hafter hgap =>
    refine ⟨_, _, _, _, isBreak_lineFeed, hgap.isBreak_between,
      String.intercalate_append_of_ne_nil hbefore hafter, ?_⟩
    rw [String.intercalate_append_of_ne_nil hbefore (by simp),
      String.intercalate_cons_of_ne_nil hafter]
    simp only [String.append_assoc]

/-- **Reformatting leaves the key as it is**, whichever quotes or backslashes the lines leave open: however
often lines are indented anew or lose or gain blanks at their ends, and blank lines come or go. -/
theorem normalize_eq_of_reformats (style : QuoteStyle) {lines lines' : List String}
    (h : Relation.EqvGen Reformats lines lines') :
    normalize style ("\n".intercalate lines) = normalize style ("\n".intercalate lines') := by
  induction h with
  | rel lines lines' hstep =>
    obtain ⟨a, b, gap, gap', hgap, hgap', hlines, hlines'⟩ := hstep.exists_breaks
    rw [hlines, hlines']
    exact normalize_break_congr hgap hgap' style a b
  | refl lines => rfl
  | symm lines lines' _ ih => exact ih.symm
  | trans lines lines' lines'' _ _ ih ih' => exact ih.trans ih'

/-- A quote that stands alone, a literal that leads its line, a backslash before the blanks at an end, and a
blank line. -/
theorem normalize_openQuotes :
    let lines := ["it is '  \r", "\t'a b' \\ ", "\t", "\"open"]
    let lines' := ["it is '", "'a b' \\", "\"open"]
    Relation.EqvGen Reformats lines lines' ∧
      normalize .standard ("\n".intercalate lines) = normalize .standard ("\n".intercalate lines') := by
  intro lines lines'
  have htrail : Reformats lines ["it is '", "\t'a b' \\ ", "\t", "\"open"] :=
    .trail [] ["\t'a b' \\ ", "\t", "\"open"] "it is '" "  \r" "" (by simp) (by decide) (by decide)
  have hindent : Reformats ["it is '", "\t'a b' \\ ", "\t", "\"open"]
      ["it is '", "'a b' \\ ", "\t", "\"open"] :=
    .indent ["it is '"] ["\t", "\"open"] "'a b' \\ " "\t" "" (by simp) (by decide) (by decide)
  have htrail' : Reformats ["it is '", "'a b' \\ ", "\t", "\"open"]
      ["it is '", "'a b' \\", "\t", "\"open"] :=
    .trail ["it is '"] ["\t", "\"open"] "'a b' \\" " " "" (by simp) (by decide) (by decide)
  have hinsert : Reformats lines' ["it is '", "'a b' \\", "\t", "\"open"] :=
    .insert ["it is '", "'a b' \\"] ["\"open"] "\t" (by simp) (by simp) (by decide)
  have hlines : Relation.EqvGen Reformats lines lines' :=
    .trans _ _ _ (.rel _ _ htrail) <| .trans _ _ _ (.rel _ _ hindent) <|
      .trans _ _ _ (.rel _ _ htrail') (.symm _ _ (.rel _ _ hinsert))
  exact ⟨hlines, normalize_eq_of_reformats .standard hlines⟩

end Checkup.Duplication
