import Checkup.Complexity.Estimate
import Checkup.Proofs.Text.LetterCase
import Checkup.Proofs.Text.Search

/-!
# What an estimate counts

The decision points of a line are found in one pass for all kinds of them. As no two kinds have a character in
common, this is the same as one count for each kind (`occurrences_decisionPoint`): of the words that decide among the
runs of word characters, of the pairs in each run of one of the signs, and of the question marks between blanks.

So the estimate of a text is one more than the sum of these counts over its lines, comments apart, and neither the
order of the lines nor the comments between them make a difference (`estimate_eq_sum`).
-/

namespace Checkup.Complexity

open Checkup.Text

/-! ### Separate counts -/

/-- Whether a run of word characters is a word that decides. -/
def isDecisionWord (run : List Char) : Bool :=
  ["if", "for", "while", "case", "catch", "elif", "except"].contains (String.ofList run)

/-- The number of pairs of a sign in a line: half the length of each run of it, rounded down. -/
def pairs (sign : Char) (line : List Char) : Nat :=
  ((runs (· == sign) line).map (·.length / 2)).sum

/-- The number of question marks between blanks, from the left. A blank that stands before or after one of them does
not count for another one. -/
def questionMarks : List Char → Nat
  | c :: '?' :: d :: rest =>
    if isBlank c && isBlank d then 1 + questionMarks rest else questionMarks ('?' :: d :: rest)
  | _ :: rest => questionMarks rest
  | [] => 0

/-- The decision points of a line, one kind after the other. -/
def decisions (line : List Char) : Nat :=
  (runs isWord line).countP isDecisionWord + pairs '&' line + pairs '|' line + questionMarks line

/-- The lines of a text that are no comments. -/
def codeLines (source : List Char) : List (List Char) :=
  (lines source).filter (!isComment ·)

/-! ### One kind at a time -/

theorem occurrences_words (line : List Char) :
    occurrences (firstOf (decisionWords.map word)) line = (runs isWord line).countP isDecisionWord := by
  have htexts : ∀ text ∈ decisionWords, IsWordText text := by decide +kernel
  have hsum : ∀ pieces : List (List Char),
      (pieces.map fun run => if decisionWords.contains (String.ofList run) then 1 else 0).sum =
        pieces.countP isDecisionWord := by
    intro pieces
    induction pieces with
    | nil => rfl
    | cons run pieces ih =>
      rw [List.map_cons, List.sum_cons, ih, List.countP_cons, Nat.add_comm]
      rfl
  rw [(isRunwise_words htexts).occurrences_eq_sum, hsum]

section Doubled

variable {text : String} {sign : Char}

theorem staysIn_doubled (htext : text.toList = [sign, sign]) : StaysIn (· == sign) (firstOf [literal text]) := by
  rw [firstOf_singleton]
  exact (isRunwise_doubled htext).staysIn

theorem occurrences_doubled (htext : text.toList = [sign, sign]) (line : List Char) :
    occurrences (firstOf [literal text]) line = pairs sign line := by
  rw [firstOf_singleton]
  exact (isRunwise_doubled htext).occurrences_eq_sum line

end Doubled

theorem questionMark_eq_some {before : Option Char} {cs rest : List Char} (h : questionMark before cs = some rest) :
    ∃ c d, isBlank c = true ∧ isBlank d = true ∧ cs = [c, '?', d] ++ rest := by
  unfold questionMark at h
  split at h
  · next c d more =>
    split at h
    · next hblank =>
      obtain ⟨hc, hd⟩ := Bool.and_eq_true_iff.mp hblank
      exact ⟨c, d, hc, hd, by rw [Option.some.inj h]; rfl⟩
    · contradiction
  · contradiction

theorem occurrences_questionMark (line : List Char) : occurrences questionMark line = questionMarks line := by
  have hafter : ∀ before, occurrencesAfter questionMark 0 before line = questionMarks line := by
    fun_induction questionMarks line with
    | case1 c d rest hblank ih =>
      intro before
      have hsome : questionMark before ([c, '?', d] ++ rest) = some rest := if_pos hblank
      have hstep := occurrencesAfter_of_eq_some (List.cons_ne_nil _ _) hsome
      rw [ih] at hstep
      exact hstep
    | case2 c d rest hblank ih =>
      intro before
      have hnone : questionMark before (c :: '?' :: d :: rest) = none := if_neg hblank
      rw [occurrencesAfter_of_eq_none hnone, ih]
    | case3 c rest hother ih =>
      intro before
      have hnone : questionMark before (c :: rest) = none := by
        rw [Option.eq_none_iff_forall_ne_some]
        intro after heq
        obtain ⟨c', d, -, -, happend⟩ := questionMark_eq_some heq
        obtain ⟨rfl, rfl⟩ := List.cons_eq_cons.mp happend
        exact hother d after rfl
      rw [occurrencesAfter_of_eq_none hnone, ih]
    | case4 => exact fun _ => rfl
  exact hafter none

/-! ### All kinds -/

/-- A question mark and the blanks around it are none of the other characters that count. -/
theorem staysIn_questionMark {kind : Char → Bool} (hmark : kind '?' = true)
    (hblank : ∀ c, isBlank c = true → kind c = true) : StaysIn kind questionMark := by
  intro before cs rest h
  obtain ⟨c, d, hc, hd, rfl⟩ := questionMark_eq_some h
  refine ⟨[c, '?', d], List.cons_ne_nil _ _, ?_, rfl⟩
  simp [hblank c hc, hblank d hd, hmark]

/-- **One count for each kind.** No kind of decision point takes a character from another. -/
theorem occurrences_decisionPoint (line : List Char) : occurrences decisionPoint line = decisions line := by
  have hwords : StaysIn isWord (firstOf (decisionWords.map word)) := staysIn_words (by decide +kernel)
  have hand : "&&".toList = ['&', '&'] := rfl
  have hor : "||".toList = ['|', '|'] := rfl
  have hnotWords : StaysIn (!isWord ·) (firstOf ([literal "&&"] ++ ([literal "||"] ++ [questionMark]))) := by
    refine staysIn_firstOf (List.forall_mem_cons.mpr ⟨?_, List.forall_mem_cons.mpr ⟨?_, ?_⟩⟩)
    · exact staysIn_literal (by decide) (by decide)
    · exact staysIn_literal (by decide) (by decide)
    · refine List.forall_mem_singleton.mpr (staysIn_questionMark (by decide) fun c hc => ?_)
      rw [isWord_of_isBlank hc]
      rfl
  have hnotAnd : StaysIn (fun c => !(c == '&')) (firstOf ([literal "||"] ++ [questionMark])) := by
    refine staysIn_firstOf (List.forall_mem_cons.mpr ⟨?_, List.forall_mem_singleton.mpr ?_⟩)
    · exact staysIn_literal (by decide) (by decide)
    · exact staysIn_questionMark (by decide) fun c hc => bne_iff_ne.mpr (ne_of_isBlank hc (by decide))
  have hnotOr : StaysIn (fun c => !(c == '|')) (firstOf [questionMark]) := by
    rw [firstOf_singleton]
    exact staysIn_questionMark (by decide) fun c hc => bne_iff_ne.mpr (ne_of_isBlank hc (by decide))
  have hpoint : decisionPoint =
      firstOf (decisionWords.map word ++ ([literal "&&"] ++ ([literal "||"] ++ [questionMark]))) := rfl
  rw [hpoint, occurrences_firstOf_append hwords hnotWords, occurrences_firstOf_append (staysIn_doubled hand) hnotAnd,
    occurrences_firstOf_append (staysIn_doubled hor) hnotOr, occurrences_words, occurrences_doubled hand,
    occurrences_doubled hor, firstOf_singleton, occurrences_questionMark, decisions, Nat.add_assoc, Nat.add_assoc]

/-! ### Texts -/

theorem estimate_eq (source : List Char) : estimate source = 1 + ((codeLines source).map decisions).sum := by
  rw [estimate, codeLines, funext occurrences_decisionPoint]
  rfl

/-- **An estimate is a sum of separate counts.** It is one more than the number of decision points on the lines that
are no comments, kind by kind, and so fits a word of 32 bits if there are few enough of them. Texts with the same
lines, in any order and with any comments between them, have the same estimate. -/
theorem estimate_eq_sum (source : List Char) :
    estimate source = 1 + ((codeLines source).map decisions).sum ∧
      (estimate source < Nat.pow 2 32 ↔ ((codeLines source).map decisions).sum < Nat.pow 2 32 - 1) ∧
      ∀ other, (codeLines other).Perm (codeLines source) → estimate other = estimate source := by
  refine ⟨estimate_eq source, ?_, fun other hperm => ?_⟩
  · rw [estimate_eq, Nat.lt_sub_iff_add_lt, Nat.add_comm]
  · rw [estimate_eq, estimate_eq, (hperm.map decisions).sum_nat]

/-- A text with a word that decides, another that only starts like one, three signs in a row and a question mark. -/
def branchingSource : List Char :=
  "elif (iffy &&& b)\n  x = y ? 1 : 2;\n".toList

/-- The same lines the other way round, with a comment between them. -/
def shuffledSource : List Char :=
  "  x = y ? 1 : 2;\n  // if (c)\nelif (iffy &&& b)".toList

/-- The two texts have three decision points, whatever the comment says. -/
theorem estimate_branchingSource : (codeLines shuffledSource).Perm (codeLines branchingSource) ∧
    estimate branchingSource = 4 ∧ estimate shuffledSource = estimate branchingSource := by
  have hperm : (codeLines shuffledSource).Perm (codeLines branchingSource) := by decide +kernel
  obtain ⟨heq, -, hother⟩ := estimate_eq_sum branchingSource
  have hsum : ((codeLines branchingSource).map decisions).sum = 3 := by decide +kernel
  exact ⟨hperm, by rw [heq, hsum], hother shuffledSource hperm⟩

end Checkup.Complexity
