import Checkup.Proofs.Duplication.Candidate
import Checkup.Proofs.Duplication.Thinning

/-!
# What detection reports

Detection ends with a result exactly if no sum of line numbers overflows
(`exists_findDuplicates_eq_ok_iff`). The result and the equal ranges of the files determine each other up
to overlaps:

* **Soundness** — each duplicate reported stands for two equal ranges (`findDuplicates_sound_of_fits`).
* **Completeness** — each two equal ranges are met, on one side at least, by a duplicate of their files
  that is no shorter (`findDuplicates_complete_of_fits`).

Both rest on the candidates being exactly the equal ranges; thinning only drops a candidate for a larger
one that overlaps it.
-/

namespace Checkup.Duplication

/-- Two ranges have a line in common. -/
def LineRange.Meets (r s : LineRange) : Prop :=
  ∃ line, (r.start ≤ line ∧ line ≤ r.stop) ∧ s.start ≤ line ∧ line ≤ s.stop

/-- Ranges that are not empty have a line in common once they overlap. -/
theorem LineRange.meets_of_overlaps {r s : LineRange} (hr : r.start ≤ r.stop) (hs : s.start ≤ s.stop)
    (h : r.overlaps s = true) : r.Meets s := by
  simp only [overlaps, Bool.and_eq_true, decide_eq_true_eq] at h
  refine ⟨max r.start s.start, ?_⟩
  omega

section Result

variable {settings : Settings} {files : List SourceFile}

theorem allWindows_eq_ok (hfits : ∀ f ∈ files, FitsWords settings f) :
    allWindows settings files = .ok (files.flatMap (windowList settings)) := by
  have hmap : files.mapM (windows settings) = .ok (files.map (windowList settings)) := by
    induction files with
    | nil => rfl
    | cons f rest ih =>
      rw [List.mapM_cons, windows_eq_ok (hfits f List.mem_cons_self),
        ih fun g hg => hfits g (List.mem_cons_of_mem f hg)]
      rfl
  rw [allWindows, hmap]
  rfl

theorem findDuplicates_eq_ok (hfits : ∀ f ∈ files, FitsWords settings f) :
    findDuplicates settings files =
      .ok (resolveOverlaps (candidates (files.flatMap (windowList settings)))) := by
  rw [findDuplicates, allWindows_eq_ok hfits]
  rfl

theorem fitsWords_of_mapM_eq_ok {ws : List (List Window)}
    (h : files.mapM (windows settings) = .ok ws) : ∀ f ∈ files, FitsWords settings f := by
  induction files generalizing ws with
  | nil => simp
  | cons f rest ih =>
    rw [List.mapM_cons] at h
    cases hf : windows settings f with
    | error => simp [hf, bind, Except.bind] at h
    | ok v =>
      cases hrest : rest.mapM (windows settings) with
      | error => simp [hf, hrest, bind, Except.bind] at h
      | ok vs => exact List.forall_mem_cons.mpr ⟨exists_windows_eq_ok_iff.mp ⟨v, hf⟩, ih hrest⟩

/-- Detection ends with a result exactly if no sum overflows in any file. -/
theorem exists_findDuplicates_eq_ok_iff :
    (∃ ds, findDuplicates settings files = .ok ds) ↔ ∀ f ∈ files, FitsWords settings f := by
  refine ⟨?_, fun hfits => ⟨_, findDuplicates_eq_ok hfits⟩⟩
  rintro ⟨ds, h⟩
  rw [findDuplicates, allWindows] at h
  cases hws : files.mapM (windows settings) with
  | error => simp [hws, bind, Except.bind] at h
  | ok ws => exact fitsWords_of_mapM_eq_ok hws

/-- A duplicate reported stands for two equal ranges. -/
theorem exists_equalRanges_of_mem_resolveOverlaps {d : Duplicate}
    (h : d ∈ resolveOverlaps (candidates (files.flatMap (windowList settings)))) :
    ∃ f g r s, EqualRanges settings files f g r s ∧ d = .ofRanges f g r s :=
  (mem_candidates_windowList.mp (mem_of_mem_resolveOverlaps h)).2

/-- Equal ranges are met by a duplicate reported of their files: their own, or a kept one on whose account
their own was dropped. -/
theorem exists_meets_of_equalRanges (hmin : 1 ≤ settings.minLines) {f g : SourceFile}
    {r s : LineRange} (h : EqualRanges settings files f g r s) :
    ∃ m ∈ resolveOverlaps (candidates (files.flatMap (windowList settings))),
      m.fileA = f.path ∧ m.fileB = g.path ∧ s.stop + 1 - s.start ≤ m.lineCount ∧
        (m.rangeA.Meets r ∨ m.rangeB.Meets s) := by
  have hcandidate := mem_candidates_windowList.mpr ⟨by omega, f, g, r, s, h, rfl⟩
  by_cases hkept : .ofRanges f g r s ∈
      resolveOverlaps (candidates (files.flatMap (windowList settings)))
  · refine ⟨_, hkept, rfl, rfl, Nat.le_refl _, Or.inl ?_⟩
    have hstart := h.left.start_le_stop
    exact ⟨r.start, ⟨Nat.le_refl _, hstart⟩, Nat.le_refl _, hstart⟩
  · -- what it was dropped for is no shorter and stands for equal ranges too, so neither range is empty
    obtain ⟨k, hk, hle, hover⟩ := exists_overlaps_of_not_mem_resolveOverlaps hcandidate hkept
    obtain ⟨f', g', r', s', h', rfl⟩ := exists_equalRanges_of_mem_resolveOverlaps hk
    simp only [Duplicate.overlaps, Bool.and_eq_true, Bool.or_eq_true, beq_iff_eq] at hover
    obtain ⟨⟨hfileA, hfileB⟩, hover⟩ := hover
    refine ⟨_, hk, hfileA, hfileB, hle, ?_⟩
    rcases hover with hover | hover
    · exact Or.inl (LineRange.meets_of_overlaps h'.left.start_le_stop h.left.start_le_stop hover)
    · exact Or.inr (LineRange.meets_of_overlaps h'.right.start_le_stop h.right.start_le_stop hover)

/-- Two files with a passage that differs in literals, numerals, blanks, letter case and line ends only. -/
def passageFiles : List SourceFile :=
  [⟨"a.ts", "// a\nN = 1\r\nf('x')\n"⟩, ⟨"b.ts", "n  = 22\n f(\"y\")"⟩]

/-- Settings under which the passage is long enough. -/
def passageSettings : Settings := ⟨2, 10, 3⟩

theorem fitsWords_passage : ∀ f ∈ passageFiles, FitsWords passageSettings f := by
  have hlines : ∀ f ∈ passageFiles, f.lineCount ≤ 3 := by decide
  intro f hf first hfirst _
  have := hlines f hf
  simp only [passageSettings, Word.size]
  omega

theorem equalRanges_passage :
    EqualRanges passageSettings passageFiles passageFiles[0] passageFiles[1] ⟨2, 3⟩ ⟨1, 2⟩ where
  ordered := List.Sublist.refl _
  path_ne := by decide
  left := ⟨by decide, by decide, by decide, by decide, by decide, by decide⟩
  right := ⟨by decide, by decide, by decide, by decide, by decide, by decide⟩
  fingerprint_eq := fingerprint_eq_of_key_eq (by decide +kernel)

/-- **Completeness.** Detection gives a result in which each two equal ranges are met, on one side at
least, by a duplicate of their files that is no shorter than the later range. So nothing is reported only
if no two ranges are equal. -/
theorem findDuplicates_complete_of_fits (hmin : 1 ≤ settings.minLines)
    (hfits : ∀ f ∈ files, FitsWords settings f) :
    ∃ ds, findDuplicates settings files = .ok ds ∧
      (∀ f g r s, EqualRanges settings files f g r s → ∃ m ∈ ds,
        m.fileA = f.path ∧ m.fileB = g.path ∧ s.stop + 1 - s.start ≤ m.lineCount ∧
          (m.rangeA.Meets r ∨ m.rangeB.Meets s)) ∧
      (ds = [] → ¬ ∃ f g r s, EqualRanges settings files f g r s) := by
  refine ⟨_, findDuplicates_eq_ok hfits, fun f g r s h => exists_meets_of_equalRanges hmin h, ?_⟩
  rintro hnil ⟨f, g, r, s, h⟩
  obtain ⟨m, hm, -⟩ := exists_meets_of_equalRanges hmin h
  rw [hnil] at hm
  exact List.not_mem_nil hm

/-- The passage is found. -/
theorem exists_meets_passage :
    1 ≤ passageSettings.minLines ∧ (∀ f ∈ passageFiles, FitsWords passageSettings f) ∧
      ∃ ds, findDuplicates passageSettings passageFiles = .ok ds ∧ ∃ m ∈ ds,
        m.fileA = "a.ts" ∧ m.fileB = "b.ts" ∧ 2 ≤ m.lineCount ∧
          (m.rangeA.Meets ⟨2, 3⟩ ∨ m.rangeB.Meets ⟨1, 2⟩) := by
  have hmin : 1 ≤ passageSettings.minLines := by decide
  obtain ⟨ds, hok, hmeets, -⟩ := findDuplicates_complete_of_fits hmin fitsWords_passage
  exact ⟨hmin, fitsWords_passage, ds, hok, hmeets _ _ _ _ equalRanges_passage⟩

/-- **Soundness.** Detection gives a result in which each duplicate stands for two equal ranges, the
earlier file on the first side, with the size of the range in the later file. No two of them overlap. -/
theorem findDuplicates_sound_of_fits (hfits : ∀ f ∈ files, FitsWords settings f) :
    ∃ ds, findDuplicates settings files = .ok ds ∧
      (∀ m ∈ ds, ∃ f g, EqualRanges settings files f g m.rangeA m.rangeB ∧
        m.fileA = f.path ∧ m.fileB = g.path ∧
          m.lineCount = m.rangeB.stop + 1 - m.rangeB.start) ∧
      ds.Pairwise fun d e => d.overlaps e = false := by
  refine ⟨_, findDuplicates_eq_ok hfits, fun m hm => ?_, pairwise_resolveOverlaps _⟩
  obtain ⟨f, g, r, s, h, rfl⟩ := exists_equalRanges_of_mem_resolveOverlaps hm
  exact ⟨f, g, h, rfl, rfl, rfl⟩

/-- What is found in the files of the passage is something, and stands for equal ranges. -/
theorem equalRanges_of_found_passage :
    (∀ f ∈ passageFiles, FitsWords passageSettings f) ∧
      ∃ ds, findDuplicates passageSettings passageFiles = .ok ds ∧ ds ≠ [] ∧
        ∀ m ∈ ds, ∃ f g, EqualRanges passageSettings passageFiles f g m.rangeA m.rangeB := by
  obtain ⟨ds, hok, hsound, -⟩ := findDuplicates_sound_of_fits fitsWords_passage
  refine ⟨fitsWords_passage, ds, hok, ?_, fun m hm => ?_⟩
  · obtain ⟨m, hm, -⟩ := exists_meets_of_equalRanges (by decide) equalRanges_passage
    rw [findDuplicates_eq_ok fitsWords_passage, Except.ok.injEq] at hok
    rw [← hok]
    exact List.ne_nil_of_mem hm
  · obtain ⟨f, g, h, -⟩ := hsound m hm
    exact ⟨f, g, h⟩

end Result

end Checkup.Duplication
