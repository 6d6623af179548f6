import Checkup.Proofs.Duplication.Detection

/-!
# Detection among fewer files

What is reported about two files does not depend on the others: detection among some of the files reports what
it reports among all of them, less the duplicates that concern a file left out, in the same order
(`findDuplicates_sublist_of_fits`).

Files are dropped from three places at once, and dropping them commutes with each:

* the pairing of windows, which never looks at a third window (`pairsAfter_filter`);
* the order of size, which is stable (`IsSortedBySize.filter`);
* the greedy filter, because only duplicates of one pair of files overlap, and a pair is dropped as a whole
  (`keepApart_filter`).

Paths are what the windows and duplicates know of a file, so the files have to have different ones.
-/

namespace Checkup.Duplication

/-! ### Dropping entries -/

/-- The greedy filter commutes with dropping entries, as long as entries that clash are dropped together. -/
theorem keepApart_filter {α : Type} {clash : α → α → Bool} {keep : α → Bool}
    (hkeep : ∀ {a b}, clash a b = true → keep a = keep b) (kept l : List α) :
    keepApart clash (kept.filter keep) (l.filter keep) = (keepApart clash kept l).filter keep := by
  induction l generalizing kept with
  | nil => rfl
  | cons a rest ih =>
    rcases clash_or_forall clash kept a with ⟨k, hk, hclash⟩ | hfree
    · rw [keepApart_cons_of_clash hk hclash, ← ih]
      by_cases ha : keep a = true
      · -- what `a` clashes with is not dropped either
        have hk' : k ∈ kept.filter keep := List.mem_filter.mpr ⟨hk, (hkeep hclash).trans ha⟩
        rw [List.filter_cons_of_pos ha, keepApart_cons_of_clash hk' hclash]
      · rw [List.filter_cons_of_neg ha]
    · rw [keepApart_cons_of_forall hfree]
      have hih := ih (kept ++ [a])
      by_cases ha : keep a = true
      · have hfree' : ∀ k ∈ kept.filter keep, clash k a = false :=
          fun k hk => hfree k (List.mem_filter.mp hk).1
        rw [List.filter_append, List.filter_cons_of_pos ha, List.filter_nil] at hih
        rw [List.filter_cons_of_pos ha, List.filter_cons_of_pos ha, keepApart_cons_of_forall hfree',
          hih]
      · rw [List.filter_append, List.filter_cons_of_neg ha, List.filter_nil, List.append_nil] at hih
        rw [List.filter_cons_of_neg ha, List.filter_cons_of_neg ha, hih]

/-- The order of size of some of the duplicates is the order of all of them, less the others. -/
theorem IsSortedBySize.filter {ds sorted : List Duplicate} (h : IsSortedBySize ds sorted)
    (keep : Duplicate → Bool) : IsSortedBySize (ds.filter keep) (sorted.filter keep) where
  perm := h.perm.filter keep
  descending := h.descending.filter keep
  stable n := by
    have hswap : ∀ s : List Duplicate, (s.filter keep).filter (·.lineCount = n) =
        (s.filter (·.lineCount = n)).filter keep := by
      intro s
      rw [List.filter_filter, List.filter_filter]
      exact List.filter_congr fun d _ => Bool.and_comm _ _
    rw [hswap, hswap, h.stable]

/-- Thinning commutes with dropping all duplicates of some pairs of files. -/
theorem resolveOverlaps_filter {keep : Duplicate → Bool}
    (hkeep : ∀ {d e : Duplicate}, d.files = e.files → keep d = keep e) (ds : List Duplicate) :
    resolveOverlaps (ds.filter keep) = (resolveOverlaps ds).filter keep := by
  have hsort : (ds.filter keep).mergeSort Duplicate.atLeast =
      (ds.mergeSort Duplicate.atLeast).filter keep :=
    (sortedBySize _).unique ((sortedBySize ds).filter keep)
  rw [resolveOverlaps_eq_keepApart, resolveOverlaps_eq_keepApart, hsort,
    ← keepApart_filter fun hover => hkeep (Duplicate.files_eq_of_overlaps hover)]
  rfl

/-! ### Dropping files -/

/-- Whether the path of a file is among some paths. -/
def SourceFile.isAmong (paths : List String) (f : SourceFile) : Bool :=
  paths.contains f.path

/-- Whether the file of a window is among some paths. -/
def Window.isAmong (paths : List String) (w : Window) : Bool :=
  paths.contains w.path

/-- Whether both files of a duplicate are among some paths. -/
def Duplicate.isAmong (paths : List String) (d : Duplicate) : Bool :=
  paths.contains d.fileA && paths.contains d.fileB

theorem Duplicate.isAmong_ofWindows (paths : List String) (p w : Window) :
    (Duplicate.ofWindows p w).isAmong paths = (p.isAmong paths && w.isAmong paths) :=
  rfl

theorem Duplicate.isAmong_congr {paths : List String} {d e : Duplicate} (h : d.files = e.files) :
    d.isAmong paths = e.isAmong paths := by
  obtain ⟨hA, hB⟩ := Prod.mk.inj h
  rw [isAmong, isAmong, hA, hB]

/-- Of the pairs of one later window, those with an earlier file left out are dropped, and all if its own file
is left out. -/
theorem filter_pairs_isAmong (paths : List String) (earlier : List Window) (w : Window) :
    ((earlier.filter (·.matches w)).map (Duplicate.ofWindows · w)).filter (·.isAmong paths) =
      if w.isAmong paths then
        ((earlier.filter (·.isAmong paths)).filter (·.matches w)).map (Duplicate.ofWindows · w)
      else [] := by
  rw [List.filter_map, List.filter_filter]
  split
  · next hw =>
    rw [List.filter_filter]
    refine congrArg _ (List.filter_congr fun p _ => ?_)
    rw [Function.comp, Duplicate.isAmong_ofWindows, hw, Bool.and_true, Bool.and_comm]
  · next hw =>
    rw [List.map_eq_nil_iff, List.filter_eq_nil_iff]
    intro p _ hp
    rw [Function.comp, Duplicate.isAmong_ofWindows, Bool.and_eq_true, Bool.and_eq_true] at hp
    exact hw hp.1.2

/-- Pairing commutes with dropping files. -/
theorem pairsAfter_filter (paths : List String) (earlier ws : List Window) :
    pairsAfter (earlier.filter (·.isAmong paths)) (ws.filter (·.isAmong paths)) =
      (pairsAfter earlier ws).filter (·.isAmong paths) := by
  induction ws generalizing earlier with
  | nil => rfl
  | cons w rest ih =>
    have hrest := ih (earlier ++ [w])
    rw [pairsAfter, List.filter_append, filter_pairs_isAmong, ← hrest, List.filter_append]
    by_cases hw : w.isAmong paths = true
    · rw [if_pos hw, List.filter_cons_of_pos hw, List.filter_cons_of_pos hw, pairsAfter,
        List.filter_nil]
    · rw [if_neg hw, List.filter_cons_of_neg hw, List.filter_cons_of_neg hw, List.filter_nil,
        List.append_nil, List.nil_append]

theorem candidates_filter (paths : List String) (ws : List Window) :
    candidates (ws.filter (·.isAmong paths)) = (candidates ws).filter (·.isAmong paths) := by
  rw [candidates_eq_pairsAfter, candidates_eq_pairsAfter]
  exact pairsAfter_filter paths [] ws

/-! ### Files by path -/

/-- The paths of files. -/
def pathsOf (files : List SourceFile) : List String :=
  files.map (·.path)

theorem SourceFile.isAmong_pathsOf_iff {f : SourceFile} {files : List SourceFile} :
    f.isAmong (pathsOf files) = true ↔ ∃ g ∈ files, g.path = f.path := by
  rw [isAmong, pathsOf, List.contains_iff_mem, List.mem_map]

/-- Some of the files, in order, are those with the paths of these. -/
theorem filter_isAmong_pathsOf {part files : List SourceFile} (hsub : part.Sublist files)
    (hpaths : (pathsOf files).Nodup) : files.filter (·.isAmong (pathsOf part)) = part := by
  induction hsub with
  | slnil => rfl
  | @cons part files f hsub ih =>
    obtain ⟨hnew, hpaths⟩ := List.nodup_cons.mp hpaths
    have hout : ¬ f.isAmong (pathsOf part) = true := by
      rw [SourceFile.isAmong_pathsOf_iff]
      rintro ⟨g, hg, hpath⟩
      exact hnew (List.mem_map.mpr ⟨g, hsub.subset hg, hpath⟩)
    rw [List.filter_cons_of_neg hout, ih hpaths]
  | @cons_cons part files f hsub ih =>
    obtain ⟨hnew, hpaths⟩ := List.nodup_cons.mp hpaths
    have hin : f.isAmong (pathsOf (f :: part)) = true :=
      SourceFile.isAmong_pathsOf_iff.mpr ⟨f, List.mem_cons_self, rfl⟩
    rw [List.filter_cons_of_pos hin]
    refine congrArg (f :: ·) (Eq.trans (List.filter_congr fun g hg => ?_) (ih hpaths))
    -- no other file has the path of `f`
    have hne : (g.path == f.path) = false :=
      beq_false_of_ne fun hpath => hnew (List.mem_map.mpr ⟨g, hg, hpath⟩)
    rw [SourceFile.isAmong, pathsOf, List.map_cons, List.contains_cons, hne, Bool.false_or]
    rfl

/-- The windows of a file are kept or dropped together. -/
theorem filter_windowList_isAmong (settings : Settings) (paths : List String) (f : SourceFile) :
    (windowList settings f).filter (·.isAmong paths) =
      if f.isAmong paths then windowList settings f else [] := by
  have hpath : ∀ w ∈ windowList settings f, w.isAmong paths = f.isAmong paths := by
    intro w hw
    obtain ⟨-, r, -, rfl⟩ := mem_windowList.mp hw
    rfl
  rw [List.filter_congr hpath]
  cases f.isAmong paths <;> simp

theorem filter_flatMap_windowList (settings : Settings) (paths : List String)
    (files : List SourceFile) :
    (files.flatMap (windowList settings)).filter (·.isAmong paths) =
      (files.filter (·.isAmong paths)).flatMap (windowList settings) := by
  induction files with
  | nil => rfl
  | cons f rest ih =>
    rw [List.flatMap_cons, List.filter_append, ih, filter_windowList_isAmong]
    by_cases hf : f.isAmong paths = true
    · rw [if_pos hf, List.filter_cons_of_pos hf, List.flatMap_cons]
    · rw [if_neg hf, List.filter_cons_of_neg hf, List.nil_append]

/-- Three files with a passage in common, the one with the passage twice in the middle. -/
def passageFilesWithCopy : List SourceFile :=
  [⟨"a.ts", "// a\nN = 1\r\nf('x')\n"⟩, ⟨"copy.ts", "N = 3\nf('z')\nN = 3\nf('z')\n"⟩,
    ⟨"b.ts", "n  = 22\n f(\"y\")"⟩]

/-- **Each pair of files is judged on its own.** Detection among some of the files, in their order, gives what
it gives among all of them, less the duplicates with a file left out. -/
theorem findDuplicates_sublist_of_fits {settings : Settings} {part files : List SourceFile}
    (hsub : part.Sublist files) (hpaths : (pathsOf files).Nodup)
    (hfits : ∀ f ∈ files, FitsWords settings f) :
    ∃ ds, findDuplicates settings files = .ok ds ∧
      findDuplicates settings part = .ok (ds.filter fun d =>
        (pathsOf part).contains d.fileA && (pathsOf part).contains d.fileB) := by
  refine ⟨_, findDuplicates_eq_ok hfits, ?_⟩
  have hwindows : part.flatMap (windowList settings) =
      (files.flatMap (windowList settings)).filter (·.isAmong (pathsOf part)) := by
    rw [filter_flatMap_windowList, filter_isAmong_pathsOf hsub hpaths]
  rw [findDuplicates_eq_ok fun f hf => hfits f (hsub.subset hf), hwindows, candidates_filter,
    resolveOverlaps_filter Duplicate.isAmong_congr]
  rfl

/-- Leaving out the file in the middle leaves what is found between the others, which is something. -/
theorem findDuplicates_passage_without_copy :
    passageFiles.Sublist passageFilesWithCopy ∧ (pathsOf passageFilesWithCopy).Nodup ∧
      (∀ f ∈ passageFilesWithCopy, FitsWords passageSettings f) ∧
      ∃ ds, findDuplicates passageSettings passageFilesWithCopy = .ok ds ∧
        findDuplicates passageSettings passageFiles = .ok (ds.filter fun d =>
          (pathsOf passageFiles).contains d.fileA && (pathsOf passageFiles).contains d.fileB) ∧
        ∃ m ∈ ds, m.fileA = "a.ts" ∧ m.fileB = "b.ts" := by
  have hsub : passageFiles.Sublist passageFilesWithCopy := by decide
  have hpaths : (pathsOf passageFilesWithCopy).Nodup := by decide
  have hlines : ∀ f ∈ passageFilesWithCopy, f.lineCount ≤ 4 := by decide
  have hfits : ∀ f ∈ passageFilesWithCopy, FitsWords passageSettings f := by
    intro f hf first hfirst _
    have := hlines f hf
    simp only [passageSettings, Word.size]
    omega
  obtain ⟨ds, hds, hpart⟩ := findDuplicates_sublist_of_fits hsub hpaths hfits
  refine ⟨hsub, hpaths, hfits, ds, hds, hpart, ?_⟩
  obtain ⟨m, hm, hA, hB, -⟩ := exists_meets_of_equalRanges (by decide) equalRanges_passage
  rw [findDuplicates_eq_ok fitsWords_passage, Except.ok.injEq] at hpart
  rw [hpart] at hm
  exact ⟨m, (List.mem_filter.mp hm).1, hA, hB⟩

end Checkup.Duplication
