import Checkup.Text.Search
import Checkup.Proofs.Text.Blank
import Mathlib.Algebra.Order.Ring.Nat
import Mathlib.Data.List.Basic

/-!
# Counts of occurrences

Occurrences are counted in one pass from the left: behind an occurrence the pass goes on as if nothing had stood
there but its last character (`occurrencesAfter_of_eq_some`). Two laws take such a count apart.

* **By patterns** — patterns that stay inside sets of characters apart from one another do not get in each other's
  way, so the occurrences of either are counted as if the other were not there (`occurrences_firstOf_append`).
* **By runs** — a pattern that treats the maximal runs of a set of characters apart is counted run by run
  (`IsRunwise.occurrences_eq_sum`). A doubled sign is such a pattern (`isRunwise_doubled`), with half the length of a
  run as its count, and so is a choice of whole words (`isRunwise_words`), with one for a run that is such a word.
-/

namespace Checkup.Text

/-! ### A pass from the left -/

theorem getLast?_cons_or (c : Char) (cs : List Char) (before : Option Char) :
    (c :: cs).getLast?.or before = cs.getLast?.or (some c) := by
  rw [List.getLast?_cons, Option.some_or, Option.or_some]

/-- Characters that belong to an occurrence already counted are passed over. -/
theorem occurrencesAfter_length (p : Pattern) (found : List Char) (before : Option Char) (rest : List Char) :
    occurrencesAfter p found.length before (found ++ rest) =
      occurrencesAfter p 0 (found.getLast?.or before) rest := by
  induction found generalizing before with
  | nil => rfl
  | cons c found ih =>
    rw [List.length_cons, List.cons_append, occurrencesAfter, ih, getLast?_cons_or]

theorem occurrencesAfter_of_eq_none {p : Pattern} {before : Option Char} {c : Char} {rest : List Char}
    (h : p before (c :: rest) = none) :
    occurrencesAfter p 0 before (c :: rest) = occurrencesAfter p 0 (some c) rest := by
  rw [occurrencesAfter, h]

/-- Behind an occurrence the pass goes on from its last character. -/
theorem occurrencesAfter_of_eq_some {p : Pattern} {before : Option Char} {found rest : List Char}
    (hne : found ≠ []) (h : p before (found ++ rest) = some rest) :
    occurrencesAfter p 0 before (found ++ rest) = 1 + occurrencesAfter p 0 (found.getLast?.or before) rest := by
  obtain ⟨c, found, rfl⟩ := List.exists_cons_of_ne_nil hne
  rw [List.cons_append] at h
  rw [List.cons_append, occurrencesAfter, h]
  dsimp only
  rw [List.length_append, Nat.add_sub_cancel, occurrencesAfter_length, getLast?_cons_or]

/-! ### Patterns on characters of their own -/

/-- A pattern stays inside a set of characters: an occurrence is at least one character, and all its characters
belong to the set. -/
def StaysIn (kind : Char → Bool) (p : Pattern) : Prop :=
  ∀ before cs rest, p before cs = some rest →
    ∃ found : List Char, found ≠ [] ∧ (∀ c ∈ found, kind c = true) ∧ cs = found ++ rest

theorem staysIn_firstOf {kind : Char → Bool} {ps : List Pattern} (h : ∀ p ∈ ps, StaysIn kind p) :
    StaysIn kind (firstOf ps) := by
  intro before cs rest hfirst
  obtain ⟨p, hp, hrest⟩ := List.exists_of_findSome?_eq_some hfirst
  exact h p hp before cs rest hrest

theorem firstOf_singleton (p : Pattern) : firstOf [p] = p := by
  funext before cs
  exact List.findSome?_singleton

theorem firstOf_append (ps qs : List Pattern) (before : Option Char) (cs : List Char) :
    firstOf (ps ++ qs) before cs = (firstOf ps before cs).or (firstOf qs before cs) :=
  List.findSome?_append

theorem StaysIn.eq_none {kind : Char → Bool} {p : Pattern} (h : StaysIn kind p) {c : Char} (hc : kind c = false)
    (before : Option Char) (rest : List Char) : p before (c :: rest) = none := by
  cases hp : p before (c :: rest) with
  | none => rfl
  | some after =>
    obtain ⟨found, hne, hfound, heq⟩ := h _ _ _ hp
    obtain ⟨d, found, rfl⟩ := List.exists_cons_of_ne_nil hne
    obtain ⟨rfl, -⟩ := List.cons_eq_cons.mp heq
    rw [hfound c List.mem_cons_self] at hc
    contradiction

/-- Where none of its characters stand, a pattern does not occur. -/
theorem StaysIn.occurrencesAfter_append {kind : Char → Bool} {p : Pattern} (h : StaysIn kind p) {others : List Char}
    (hothers : ∀ c ∈ others, kind c = false) (before : Option Char) (rest : List Char) :
    occurrencesAfter p 0 before (others ++ rest) = occurrencesAfter p 0 (others.getLast?.or before) rest := by
  induction others generalizing before with
  | nil => rfl
  | cons c others ih =>
    obtain ⟨hc, hothers⟩ := List.forall_mem_cons.mp hothers
    rw [List.cons_append, occurrencesAfter_of_eq_none (h.eq_none hc before _), ih hothers, getLast?_cons_or]

/-- The induction goes from one occurrence to the next, and so over the length of the text. -/
theorem occurrencesAfter_firstOf_append {kind : Char → Bool} {ps qs : List Pattern}
    (hps : StaysIn kind (firstOf ps)) (hqs : StaysIn (!kind ·) (firstOf qs)) (before : Option Char)
    (cs : List Char) : occurrencesAfter (firstOf (ps ++ qs)) 0 before cs =
      occurrencesAfter (firstOf ps) 0 before cs + occurrencesAfter (firstOf qs) 0 before cs := by
  induction hlen : cs.length using Nat.strongRecOn generalizing before cs with
  | ind n ih =>
    cases hp : firstOf ps before cs with
    | some rest =>
      obtain ⟨found, hne, hfound, rfl⟩ := hps _ _ _ hp
      have hboth : firstOf (ps ++ qs) before (found ++ rest) = some rest := by rw [firstOf_append, hp, Option.some_or]
      have hothers : ∀ c ∈ found, (!kind c) = false := fun c hc => by rw [hfound c hc]; rfl
      have hlt : rest.length < n := by
        have hpos := List.length_pos_iff.mpr hne
        rw [List.length_append] at hlen
        omega
      rw [occurrencesAfter_of_eq_some hne hboth, occurrencesAfter_of_eq_some hne hp,
        hqs.occurrencesAfter_append hothers, ih rest.length hlt _ rest rfl, Nat.add_assoc]
    | none =>
      cases hq : firstOf qs before cs with
      | some rest =>
        obtain ⟨found, hne, hfound, rfl⟩ := hqs _ _ _ hq
        have hboth : firstOf (ps ++ qs) before (found ++ rest) = some rest := by
          rw [firstOf_append, hp, hq, Option.none_or]
        have hothers : ∀ c ∈ found, kind c = false := fun c hc => by simpa using hfound c hc
        have hlt : rest.length < n := by
          have hpos := List.length_pos_iff.mpr hne
          rw [List.length_append] at hlen
          omega
        rw [occurrencesAfter_of_eq_some hne hboth, occurrencesAfter_of_eq_some hne hq,
          hps.occurrencesAfter_append hothers, ih rest.length hlt _ rest rfl, Nat.add_left_comm]
      | none =>
        cases cs with
        | nil => rfl
        | cons c rest =>
          have hboth : firstOf (ps ++ qs) before (c :: rest) = none := by rw [firstOf_append, hp, hq, Option.none_or]
          have hlt : rest.length < n := by
            rw [List.length_cons] at hlen
            omega
          rw [occurrencesAfter_of_eq_none hboth, occurrencesAfter_of_eq_none hp, occurrencesAfter_of_eq_none hq,
            ih rest.length hlt _ rest rfl]

/-- **Patterns on characters of their own.** If some patterns stay inside a set of characters and others outside it,
the occurrences of all of them are those of the ones and those of the others. -/
theorem occurrences_firstOf_append {kind : Char → Bool} {ps qs : List Pattern}
    (hps : StaysIn kind (firstOf ps)) (hqs : StaysIn (!kind ·) (firstOf qs)) (cs : List Char) :
    occurrences (firstOf (ps ++ qs)) cs = occurrences (firstOf ps) cs + occurrences (firstOf qs) cs :=
  occurrencesAfter_firstOf_append hps hqs none cs

/-! ### Runs -/

/-- The maximal runs of characters of a kind, in order. -/
def runs (kind : Char → Bool) (cs : List Char) : List (List Char) :=
  (cs.splitOnP (!kind ·)).filter (!·.isEmpty)

/-- A pattern treats the maximal runs of a kind of characters apart: it stays inside them, and the number of its
occurrences in one of them is the same wherever the run stands. -/
structure IsRunwise (kind : Char → Bool) (count : List Char → Nat) (p : Pattern) : Prop where
  staysIn : StaysIn kind p
  occurrencesAfter_run : ∀ {before : Option Char} {run rest : List Char}, before.any kind = false →
    (∀ c ∈ run, kind c = true) → rest.head?.any kind = false →
      occurrencesAfter p 0 before (run ++ rest) = count run + occurrencesAfter p 0 (run.getLast?.or before) rest

namespace IsRunwise

variable {kind : Char → Bool} {count : List Char → Nat} {p : Pattern}

theorem count_nil (h : IsRunwise kind count p) : count [] = 0 := by
  have hnil : occurrencesAfter p 0 none [] = count [] + occurrencesAfter p 0 none [] :=
    h.occurrencesAfter_run rfl (List.forall_mem_nil _) rfl
  rwa [occurrencesAfter, Nat.add_zero, eq_comm] at hnil

/-- The induction takes one run after the other away. -/
theorem occurrencesAfter_eq_sum (h : IsRunwise kind count p) {before : Option Char}
    (hbefore : before.any kind = false) (cs : List Char) :
    occurrencesAfter p 0 before cs = ((cs.splitOnP (!kind ·)).map count).sum := by
  have hnot : ∀ run : List Char, (∀ c ∈ run, kind c = true) → ∀ c ∈ run, (!kind c) = false :=
    fun run hrun c hc => by rw [hrun c hc]; rfl
  induction hlen : cs.length using Nat.strongRecOn generalizing before cs with
  | ind n ih =>
    rcases eq_run_or_append_cons kind cs with hrun | ⟨run, c, rest, hrun, hc, rfl⟩
    · have hcount : occurrencesAfter p 0 before (cs ++ []) = count cs + 0 :=
        h.occurrencesAfter_run hbefore hrun rfl
      rw [List.append_nil] at hcount
      rw [List.splitOnP_eq_singleton (hnot cs hrun), List.map_singleton, List.sum_singleton, hcount, Nat.add_zero]
    · have hsep : (!kind c) = true := by rw [hc]; rfl
      have hhead : (c :: rest).head?.any kind = false := hc
      have hlast : (some c).any kind = false := hc
      have hlt : rest.length < n := by
        rw [List.length_append, List.length_cons] at hlen
        omega
      rw [List.splitOnP_append_cons_of_forall_mem (hnot run hrun) c hsep, List.map_cons, List.sum_cons,
        h.occurrencesAfter_run hbefore hrun hhead, occurrencesAfter_of_eq_none (h.staysIn.eq_none hc _ _),
        ih rest.length hlt hlast rest rfl]

/-- **Counting by runs.** -/
theorem occurrences_eq_sum (h : IsRunwise kind count p) (cs : List Char) :
    occurrences p cs = ((runs kind cs).map count).sum := by
  have hfilter : ∀ pieces : List (List Char),
      ((pieces.filter (!·.isEmpty)).map count).sum = (pieces.map count).sum := by
    intro pieces
    induction pieces with
    | nil => rfl
    | cons piece pieces ih =>
      cases piece with
      | nil => rw [List.filter_cons_of_neg (by decide), ih, List.map_cons, List.sum_cons, h.count_nil, Nat.zero_add]
      | cons c piece => rw [List.filter_cons_of_pos rfl, List.map_cons, List.sum_cons, ih, List.map_cons, List.sum_cons]
  rw [runs, hfilter]
  exact h.occurrencesAfter_eq_sum rfl cs

end IsRunwise

/-! ### Doubled signs -/

theorem staysIn_literal {kind : Char → Bool} {text : String} (hne : text.toList ≠ [])
    (htext : text.toList.all kind = true) : StaysIn kind (literal text) := by
  intro before cs rest h
  exact ⟨text.toList, hne, List.all_eq_true.mp htext, (List.isPrefixOf?_eq_some_iff_append_eq.mp h).symm⟩

/-- The number of a doubled sign in a run of the sign. The signs are taken away two at a time. -/
theorem occurrencesAfter_doubled {text : String} {sign : Char} (htext : text.toList = [sign, sign])
    {rest : List Char} (hrest : rest.head?.any (· == sign) = false) :
    ∀ (run : List Char) (before : Option Char), (∀ c ∈ run, (c == sign) = true) →
      occurrencesAfter (literal text) 0 before (run ++ rest) =
        run.length / 2 + occurrencesAfter (literal text) 0 (run.getLast?.or before) rest
  | [], before, _ => by
    rw [List.nil_append, List.length_nil, Nat.zero_div, Nat.zero_add]
    rfl
  | [c], before, hrun => by
    obtain rfl : c = sign := eq_of_beq (hrun c List.mem_cons_self)
    have hnone : literal text before (c :: rest) = none := by
      rw [literal, htext, Option.eq_none_iff_forall_ne_some]
      intro after heq
      have happend : c :: c :: after = c :: rest := List.isPrefixOf?_eq_some_iff_append_eq.mp heq
      rw [← (List.cons_eq_cons.mp happend).2, List.head?_cons, Option.any_some, beq_self_eq_true] at hrest
      contradiction
    rw [List.singleton_append, occurrencesAfter_of_eq_none hnone, List.length_singleton, getLast?_cons_or]
    exact (Nat.zero_add _).symm
  | c :: d :: run, before, hrun => by
    obtain ⟨hc, hrun⟩ := List.forall_mem_cons.mp hrun
    obtain ⟨hd, hrun⟩ := List.forall_mem_cons.mp hrun
    obtain rfl : c = sign := eq_of_beq hc
    obtain rfl : d = c := eq_of_beq hd
    have hsome : literal text before ([d, d] ++ (run ++ rest)) = some (run ++ rest) := by
      rw [literal, htext]
      exact List.isPrefixOf?_eq_some_iff_append_eq.mpr rfl
    calc occurrencesAfter (literal text) 0 before ([d, d] ++ (run ++ rest))
        = 1 + occurrencesAfter (literal text) 0 (some d) (run ++ rest) :=
          occurrencesAfter_of_eq_some (List.cons_ne_nil _ _) hsome
      _ = 1 + (run.length / 2 + occurrencesAfter (literal text) 0 (run.getLast?.or (some d)) rest) := by
          rw [occurrencesAfter_doubled htext hrest run (some d) hrun]
      _ = (run.length + 2) / 2 +
          occurrencesAfter (literal text) 0 ((d :: d :: run).getLast?.or before) rest := by
          rw [getLast?_cons_or, getLast?_cons_or, Nat.add_div_right _ (by decide), Nat.add_comm (run.length / 2) 1,
            Nat.add_assoc]

/-- A doubled sign treats the runs of the sign apart. -/
theorem isRunwise_doubled {text : String} {sign : Char} (htext : text.toList = [sign, sign]) :
    IsRunwise (· == sign) (·.length / 2) (literal text) where
  staysIn := staysIn_literal (by simp [htext]) (by simp [htext])
  occurrencesAfter_run _ hrun hrest := occurrencesAfter_doubled htext hrest _ _ hrun

/-! ### Whole words -/

/-- A text that is a word: it is not empty, and all its characters are word characters. -/
def IsWordText (text : String) : Prop :=
  text.toList ≠ [] ∧ text.toList.all isWord = true

instance (text : String) : Decidable (IsWordText text) :=
  inferInstanceAs (Decidable (_ ∧ _))

theorem takeWhile_append_of_head? {kind : Char → Bool} {run rest : List Char} (hrun : ∀ c ∈ run, kind c = true)
    (hrest : rest.head?.any kind = false) : (run ++ rest).takeWhile kind = run := by
  rw [List.takeWhile_append_of_pos hrun]
  cases rest with
  | nil => rw [List.takeWhile_nil, List.append_nil]
  | cons c rest =>
    have hc : kind c = false := hrest
    rw [List.takeWhile_cons_of_neg (Bool.eq_false_iff.mp hc), List.append_nil]

/-- Inside a run of word characters no word starts. -/
theorem word_eq_none {before : Option Char} (hbefore : before.any isWord = true) {c : Char} (hc : isWord c = true)
    (text : String) (rest : List Char) : word text before (c :: rest) = none := by
  rw [word, wordStart, isWordBoundary, hbefore, List.head?_cons, Option.any_some, hc]
  rfl

/-- At the start of a run of word characters there is a word if the run is that word. -/
theorem word_eq_ite {text : String} (htext : IsWordText text) {before : Option Char} {run rest : List Char}
    (hbefore : before.any isWord = false) (hne : run ≠ []) (hrun : ∀ c ∈ run, isWord c = true)
    (hrest : rest.head?.any isWord = false) :
    word text before (run ++ rest) = if text = String.ofList run then some rest else none := by
  have hwords := List.all_eq_true.mp htext.2
  have hstart : isWordBoundary before (run ++ rest).head? = true := by
    obtain ⟨c, run, rfl⟩ := List.exists_cons_of_ne_nil hne
    rw [isWordBoundary, hbefore, List.cons_append, List.head?_cons, Option.any_some, hrun c List.mem_cons_self]
    rfl
  have hlast : text.toList.getLast?.any isWord = true := by
    rw [List.getLast?_eq_some_getLast htext.1, Option.any_some]
    exact hwords _ (List.getLast_mem _)
  rw [word, wordStart, if_pos hstart, wordEnd, literal]
  split
  · -- a word that stops where the run does is the run
    next after hafter =>
    have happend := List.isPrefixOf?_eq_some_iff_append_eq.mp hafter
    rw [isWordBoundary, hlast]
    cases hhead : after.head?.any isWord with
    | true =>
      have hother : text ≠ String.ofList run := by
        rintro rfl
        rw [String.toList_ofList, List.append_cancel_left_eq] at happend
        rw [happend, hrest] at hhead
        contradiction
      rw [if_neg hother]
      rfl
    | false =>
      have hsame : text.toList = run := by
        rw [← takeWhile_append_of_head? hwords hhead, happend, takeWhile_append_of_head? hrun hrest]
      rw [hsame, List.append_cancel_left_eq] at happend
      rw [← hsame, String.ofList_toList, if_pos rfl, happend]
      rfl
  · next hnone =>
    have hother : text ≠ String.ofList run := by
      rintro rfl
      rw [String.toList_ofList, List.isPrefixOf?_eq_some_iff_append_eq.mpr rfl] at hnone
      contradiction
    rw [if_neg hother]

/-- Inside a run of word characters none of some words occurs. -/
theorem occurrencesAfter_words_inside (texts : List String) {before : Option Char}
    (hbefore : before.any isWord = true) {run : List Char} (hrun : ∀ c ∈ run, isWord c = true) (rest : List Char) :
    occurrencesAfter (firstOf (texts.map word)) 0 before (run ++ rest) =
      occurrencesAfter (firstOf (texts.map word)) 0 (run.getLast?.or before) rest := by
  induction run generalizing before with
  | nil => rfl
  | cons c run ih =>
    obtain ⟨hc, hrun⟩ := List.forall_mem_cons.mp hrun
    have hnone : firstOf (texts.map word) before (c :: (run ++ rest)) = none :=
      List.findSome?_eq_none_iff.mpr (List.forall_mem_map.mpr fun text _ => word_eq_none hbefore hc text _)
    have hlast : (some c).any isWord = true := hc
    rw [List.cons_append, occurrencesAfter_of_eq_none hnone, ih hlast hrun, getLast?_cons_or]

section Words

variable {texts : List String} (htexts : ∀ text ∈ texts, IsWordText text)

include htexts

theorem staysIn_words : StaysIn isWord (firstOf (texts.map word)) := by
  refine staysIn_firstOf (List.forall_mem_map.mpr fun text htext => ?_)
  intro before cs rest h
  refine staysIn_literal (htexts text htext).1 (htexts text htext).2 before cs rest ?_
  -- what ends and starts like a word is still the text
  rw [word, wordStart] at h
  split at h
  · rw [wordEnd] at h
    split at h
    · next after hafter =>
      split at h
      · rwa [← Option.some.inj h]
      · contradiction
    · contradiction
  · contradiction

/-- At the start of a run of word characters there is one of some words if the run is one of them. -/
theorem firstOf_words_eq_ite {before : Option Char} {run rest : List Char}
    (hbefore : before.any isWord = false) (hne : run ≠ []) (hrun : ∀ c ∈ run, isWord c = true)
    (hrest : rest.head?.any isWord = false) :
    firstOf (texts.map word) before (run ++ rest) =
      if texts.contains (String.ofList run) then some rest else none := by
  induction texts with
  | nil => rfl
  | cons text texts ih =>
    obtain ⟨htext, htexts⟩ := List.forall_mem_cons.mp htexts
    have hword := word_eq_ite htext hbefore hne hrun hrest
    rw [← List.singleton_append, List.map_append, firstOf_append, ih htexts, List.map_singleton, firstOf_singleton,
      hword, List.singleton_append, List.contains_cons]
    by_cases heq : text = String.ofList run
    · rw [if_pos heq, Option.some_or, if_pos (by rw [heq, beq_self_eq_true, Bool.true_or])]
    · rw [if_neg heq, Option.none_or, beq_eq_false_iff_ne.mpr (Ne.symm heq), Bool.false_or]

/-- Whole words treat the runs of word characters apart. -/
theorem isRunwise_words : IsRunwise isWord (fun run => if texts.contains (String.ofList run) then 1 else 0)
    (firstOf (texts.map word)) where
  staysIn := staysIn_words htexts
  occurrencesAfter_run := by
    intro before run rest hbefore hrun hrest
    by_cases hne : run = []
    · have hnot : ¬texts.contains (String.ofList run) = true := by
        rw [hne, List.contains_iff_mem]
        exact fun hmem => (htexts _ hmem).1 rfl
      rw [if_neg hnot, hne, Nat.zero_add]
      rfl
    · have hfirst := firstOf_words_eq_ite htexts hbefore hne hrun hrest
      split
      · next hmem =>
        rw [if_pos hmem] at hfirst
        exact occurrencesAfter_of_eq_some hne hfirst
      · next hmem =>
        rw [if_neg hmem] at hfirst
        obtain ⟨c, run, rfl⟩ := List.exists_cons_of_ne_nil hne
        obtain ⟨hc, hrun⟩ := List.forall_mem_cons.mp hrun
        have hlast : (some c).any isWord = true := hc
        rw [List.cons_append] at hfirst
        rw [List.cons_append, occurrencesAfter_of_eq_none hfirst, occurrencesAfter_words_inside texts hlast hrun,
          getLast?_cons_or, Nat.zero_add]

end Words

end Checkup.Text
