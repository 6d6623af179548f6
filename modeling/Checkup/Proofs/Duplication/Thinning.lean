import Checkup.Duplication.Overlap
import Checkup.Proofs.Duplication.Greedy
import Checkup.Proofs.Entries
import Mathlib.Data.List.Pairwise

/-!
# Thinning duplicates

`resolveOverlaps` is the greedy filter for overlaps, run over the duplicates in the order of size
(`resolveOverlaps_eq_keepApart`). The index by pairs of files inside it is invisible: two duplicates
overlap only within one pair, and the index lists the kept ones of a pair without exception.

* `IsSortedBySize` — the order of size, the largest first, with ties in the given order. It has exactly
  one solution (`sortedBySize`).
* `IsGreedySelection` — a selection by places: no two selected entries overlap, and what is left out
  overlaps a selected entry at an earlier place.

Places, not entries, are what a selection is about: a duplicate that occurs twice may be selected at its
first place and left out at its second, and one with an empty range is selected at both.
-/

namespace Checkup.Duplication

namespace Duplicate

theorem files_eq_of_overlaps {d e : Duplicate} (h : d.overlaps e = true) : d.files = e.files := by
  simp only [overlaps, Bool.and_eq_true, beq_iff_eq] at h
  rw [files, files, h.1.1, h.1.2]

theorem overlaps_comm (d e : Duplicate) : d.overlaps e = e.overlaps d := by
  rw [Bool.eq_iff_iff]
  simp only [overlaps, LineRange.overlaps, Bool.and_eq_true, Bool.or_eq_true, beq_iff_eq,
    decide_eq_true_eq]
  grind

end Duplicate

/-! ### The index by pairs of files -/

namespace Kept

/-- Looking at the kept duplicates of one pair of files is looking at all of them. -/
theorem blocks_eq_any (kept : Kept) (d : Duplicate) :
    kept.blocks d = kept.duplicates.toList.any (·.overlaps d) := by
  rw [Bool.eq_iff_iff, blocks, List.any_eq_true, List.any_eq_true]
  constructor
  · rintro ⟨⟨i, hi⟩, -, hover⟩
    obtain ⟨hlt, -⟩ := (kept.mem_places _ _).mp hi
    exact ⟨kept.duplicates[i], by simp, hover⟩
  · rintro ⟨e, he, hover⟩
    obtain ⟨i, hlt, rfl⟩ := Array.getElem_of_mem (Array.mem_toList_iff.mp he)
    have hplace : i ∈ kept.places.getD d.files [] :=
      (kept.mem_places _ _).mpr ⟨hlt, Duplicate.files_eq_of_overlaps hover⟩
    exact ⟨⟨i, hplace⟩, List.mem_attach _ _, hover⟩

/-- **The run of offers is the greedy filter.** What is kept in the end is what was kept before and what
the filter keeps besides. -/
theorem toList_foldl_offer (kept : Kept) (ds : List Duplicate) :
    (ds.foldl offer kept).duplicates.toList =
      kept.duplicates.toList ++ keepApart Duplicate.overlaps kept.duplicates.toList ds := by
  induction ds generalizing kept with
  | nil => simp [keepApart]
  | cons d rest ih =>
    rw [List.foldl_cons, ih, offer, blocks_eq_any]
    rcases clash_or_forall Duplicate.overlaps kept.duplicates.toList d with ⟨k, hk, hover⟩ | hfree
    · rw [if_pos (List.any_eq_true.mpr ⟨k, hk, hover⟩), keepApart_cons_of_clash hk hover]
    · have hany : ¬ kept.duplicates.toList.any (·.overlaps d) = true := by
        simpa only [List.any_eq_true, not_exists, not_and, Bool.not_eq_true] using hfree
      rw [if_neg hany, keepApart_cons_of_forall hfree]
      simp [push]

end Kept

theorem resolveOverlaps_eq_keepApart (ds : List Duplicate) :
    resolveOverlaps ds = keepApart Duplicate.overlaps [] (ds.mergeSort Duplicate.atLeast) := by
  rw [resolveOverlaps, Kept.toList_foldl_offer]
  rfl

/-! ### The order of size -/

/-- The duplicates `ds` in the order of size, the largest first; those of one size stay in the given
order. -/
structure IsSortedBySize (ds sorted : List Duplicate) : Prop where
  perm : sorted.Perm ds
  descending : sorted.Pairwise fun d e => e.lineCount ≤ d.lineCount
  stable : ∀ n, sorted.filter (·.lineCount = n) = ds.filter (·.lineCount = n)

theorem sortedBySize (ds : List Duplicate) : IsSortedBySize ds (ds.mergeSort Duplicate.atLeast) := by
  have htrans : ∀ a b c : Duplicate, a.atLeast b → b.atLeast c → a.atLeast c := by
    simp only [Duplicate.atLeast, decide_eq_true_eq]
    omega
  have htotal : ∀ a b : Duplicate, a.atLeast b || b.atLeast a := by
    simp only [Duplicate.atLeast, Bool.or_eq_true, decide_eq_true_eq]
    omega
  have hperm := List.mergeSort_perm ds Duplicate.atLeast
  refine ⟨hperm, ?_, fun n => ?_⟩
  · simpa [Duplicate.atLeast] using List.pairwise_mergeSort htrans htotal ds
  · -- duplicates of one size are in order wherever they stand
    refine Entries.filter_mergeSort htrans htotal fun a b ha hb => ?_
    simp only [decide_eq_true_eq] at ha hb
    simp [Duplicate.atLeast, ha, hb]

/-- Lists with the same entries of each size have the same entries. -/
theorem mem_iff_of_filter_lineCount_eq {s t : List Duplicate}
    (h : ∀ n, s.filter (·.lineCount = n) = t.filter (·.lineCount = n)) (d : Duplicate) :
    d ∈ s ↔ d ∈ t := by
  have hd : d ∈ s.filter (·.lineCount = d.lineCount) ↔ d ∈ t.filter (·.lineCount = d.lineCount) := by
    rw [h]
  simpa using hd

theorem eq_of_filter_lineCount_eq {s t : List Duplicate}
    (hs : s.Pairwise fun d e => e.lineCount ≤ d.lineCount)
    (ht : t.Pairwise fun d e => e.lineCount ≤ d.lineCount)
    (hfilter : ∀ n, s.filter (·.lineCount = n) = t.filter (·.lineCount = n)) : s = t := by
  induction s generalizing t with
  | nil =>
    have hmem := mem_iff_of_filter_lineCount_eq hfilter
    exact (List.eq_nil_iff_forall_not_mem.mpr fun d hd => by simpa using (hmem d).mpr hd).symm
  | cons d s ih =>
    have hmem := mem_iff_of_filter_lineCount_eq hfilter
    cases t with
    | nil => simpa using (hmem d).mp List.mem_cons_self
    | cons e t =>
      rw [List.pairwise_cons] at hs ht
      have hsize : e.lineCount = d.lineCount := by
        refine Nat.le_antisymm ?_ ?_
        · rcases List.mem_cons.mp ((hmem e).mpr List.mem_cons_self) with rfl | he
          · exact Nat.le_refl _
          · exact hs.1 e he
        · rcases List.mem_cons.mp ((hmem d).mp List.mem_cons_self) with rfl | hd
          · exact Nat.le_refl _
          · exact ht.1 d hd
      -- both heads have the greatest size, so they head the entries of that size
      have hheads := hfilter d.lineCount
      simp only [hsize, decide_true, List.filter_cons_of_pos, List.cons.injEq] at hheads
      obtain ⟨rfl, -⟩ := hheads
      refine congrArg (d :: ·) (ih hs.2 ht.2 fun n => ?_)
      have hn := hfilter n
      by_cases hd : d.lineCount = n
      · simpa [hd] using hn
      · simpa [hd] using hn

/-- The order of size leaves no choice. -/
theorem IsSortedBySize.unique {ds s t : List Duplicate} (hs : IsSortedBySize ds s)
    (ht : IsSortedBySize ds t) : s = t :=
  eq_of_filter_lineCount_eq hs.descending ht.descending fun n =>
    (hs.stable n).trans (ht.stable n).symm

/-! ### What thinning keeps -/

theorem mem_of_mem_resolveOverlaps {ds : List Duplicate} {d : Duplicate}
    (h : d ∈ resolveOverlaps ds) : d ∈ ds := by
  rw [resolveOverlaps_eq_keepApart] at h
  exact List.mem_mergeSort.mp (keepApart_sublist.subset h)

theorem pairwise_resolveOverlaps (ds : List Duplicate) :
    (resolveOverlaps ds).Pairwise fun d e => d.overlaps e = false := by
  rw [resolveOverlaps_eq_keepApart]
  exact pairwise_keepApart

/-- A duplicate that is dropped overlaps a kept one that is at least as large. -/
theorem exists_overlaps_of_not_mem_resolveOverlaps {ds : List Duplicate} {d : Duplicate}
    (hd : d ∈ ds) (hout : d ∉ resolveOverlaps ds) :
    ∃ k ∈ resolveOverlaps ds, d.lineCount ≤ k.lineCount ∧ k.overlaps d = true := by
  rw [resolveOverlaps_eq_keepApart] at hout ⊢
  exact exists_clash_of_not_mem_keepApart (sortedBySize ds).descending (by simp)
    (List.mem_mergeSort.mpr hd) hout

/-- Thinning a second time changes nothing: what is kept is sorted and apart already. -/
theorem resolveOverlaps_resolveOverlaps (ds : List Duplicate) :
    resolveOverlaps (resolveOverlaps ds) = resolveOverlaps ds := by
  have hdesc : (resolveOverlaps ds).Pairwise fun d e => d.atLeast e = true := by
    rw [resolveOverlaps_eq_keepApart]
    simpa [Duplicate.atLeast] using (sortedBySize ds).descending.sublist keepApart_sublist
  rw [resolveOverlaps_eq_keepApart (resolveOverlaps ds), List.mergeSort_of_pairwise hdesc]
  exact keepApart_eq_self (by simp) (pairwise_resolveOverlaps ds)

/-! ### Selections by places -/

/-- A greedy selection from a list, as entries with their places: no two selected entries overlap, and
what is left out overlaps a selected entry at an earlier place. -/
structure IsGreedySelection (s : List Duplicate) (chosen : List (Duplicate × Nat)) : Prop where
  sublist : chosen.Sublist s.zipIdx
  apart : ∀ k ∈ chosen, ∀ e ∈ chosen, k.2 ≠ e.2 → k.1.overlaps e.1 = false
  maximal : ∀ e ∈ s.zipIdx, e ∉ chosen → ∃ k ∈ chosen, k.2 < e.2 ∧ k.1.overlaps e.1 = true

/-- The greedy filter run over the entries with their places. -/
def greedySelection (s : List Duplicate) : List (Duplicate × Nat) :=
  keepApart (fun k e => k.1.overlaps e.1) [] s.zipIdx

theorem map_fst_greedySelection (s : List Duplicate) :
    (greedySelection s).map Prod.fst = keepApart Duplicate.overlaps [] s := by
  rw [greedySelection, map_keepApart Prod.fst, List.zipIdx_map_fst, List.map_nil]

theorem pairwise_snd_zipIdx (s : List Duplicate) : s.zipIdx.Pairwise fun k e => k.2 < e.2 := by
  have h : (s.zipIdx.map Prod.snd).Pairwise (· < ·) := by
    rw [List.zipIdx_map_snd]
    exact List.pairwise_lt_range'
  exact List.pairwise_map.mp h

theorem isGreedySelection_greedySelection (s : List Duplicate) :
    IsGreedySelection s (greedySelection s) where
  sublist := keepApart_sublist
  apart k hk e he hne := by
    have hsymm : Std.Symm fun k e : Duplicate × Nat => k.1.overlaps e.1 = false :=
      ⟨fun k e h => by rw [Duplicate.overlaps_comm, h]⟩
    exact pairwise_keepApart.forall hk he fun heq => hne (congrArg Prod.snd heq)
  maximal e he hout := by
    obtain ⟨k, hk, hlt, hover⟩ :=
      exists_clash_of_not_mem_keepApart (pairwise_snd_zipIdx s) (by simp) he hout
    exact ⟨k, hk, hlt, hover⟩

theorem IsGreedySelection.unique {s : List Duplicate} {chosen : List (Duplicate × Nat)}
    (h : IsGreedySelection s chosen) : chosen = greedySelection s := by
  have hplaces := (pairwise_snd_zipIdx s).sublist h.sublist
  refine eq_keepApart (fun h h' => Nat.lt_asymm h h') (pairwise_snd_zipIdx s) h.sublist (by simp)
    (hplaces.imp_of_mem fun hk he hlt => h.apart _ hk _ he (Nat.ne_of_lt hlt)) fun e he hout => ?_
  exact h.maximal e he hout

/-- In the order of size, what is left out overlaps a selected entry at an earlier place that is at least
as large. -/
theorem exists_overlaps_of_not_mem_greedySelection {s : List Duplicate}
    (hs : s.Pairwise fun d e => e.lineCount ≤ d.lineCount) {e : Duplicate × Nat} (he : e ∈ s.zipIdx)
    (hout : e ∉ greedySelection s) : ∃ k ∈ greedySelection s,
      k.2 < e.2 ∧ e.1.lineCount ≤ k.1.lineCount ∧ k.1.overlaps e.1 = true := by
  have hsizes : s.zipIdx.Pairwise fun k e => e.1.lineCount ≤ k.1.lineCount := by
    have h : (s.zipIdx.map Prod.fst).Pairwise fun d e => e.lineCount ≤ d.lineCount := by
      rwa [List.zipIdx_map_fst]
    exact List.pairwise_map.mp h
  obtain ⟨k, hk, ⟨hlt, hle⟩, hover⟩ := exists_clash_of_not_mem_keepApart
    ((pairwise_snd_zipIdx s).and hsizes) (by simp) he hout
  exact ⟨k, hk, hlt, hle, hover⟩

/-- **Thinning is the greedy maximal filter.** The order of size is unique; in it there is exactly one
greedy selection, and its entries are the result. What it leaves out overlaps an earlier entry that is at
least as large. Thinning the result again changes nothing. -/
theorem resolveOverlaps_isGreedySelection (ds : List Duplicate) :
    ∃ sorted, IsSortedBySize ds sorted ∧ (∀ s, IsSortedBySize ds s → s = sorted) ∧
      (∃ chosen, IsGreedySelection sorted chosen ∧ chosen.map Prod.fst = resolveOverlaps ds ∧
        (∀ other, IsGreedySelection sorted other → other = chosen) ∧
        ∀ e ∈ sorted.zipIdx, e ∉ chosen → ∃ k ∈ chosen,
          k.2 < e.2 ∧ e.1.lineCount ≤ k.1.lineCount ∧ k.1.overlaps e.1 = true) ∧
      resolveOverlaps (resolveOverlaps ds) = resolveOverlaps ds := by
  have hsorted := sortedBySize ds
  refine ⟨ds.mergeSort Duplicate.atLeast, hsorted, fun s hs => hs.unique hsorted,
    ⟨greedySelection (ds.mergeSort Duplicate.atLeast), ?_, ?_, ?_, ?_⟩,
    resolveOverlaps_resolveOverlaps ds⟩
  · exact isGreedySelection_greedySelection _
  · rw [map_fst_greedySelection, resolveOverlaps_eq_keepApart]
  · exact fun other h => h.unique
  · exact fun e he hout => exists_overlaps_of_not_mem_greedySelection hsorted.descending he hout

end Checkup.Duplication
