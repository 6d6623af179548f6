import Checkup.Duplication.Measure
import Checkup.Health.Score
import Checkup.Proofs.Duplication.Detection
import Checkup.Proofs.Entries
import Checkup.Proofs.Number.Double
import Checkup.Proofs.Number.Measure

/-!
# The share of duplicated lines

A scan counts the lines of all files and the lines that are on a side of some duplicate. The two counts come
from two views of a file: the lines of its text, and the spans between which windows are cut.

* **Positions** — the duplicated lines are the pairs of a file and a line that some duplicate covers, each
  counted once (`length_coveredLines`).
* **From above** — a side of a duplicate is a range of lines of a scanned file, and both views of the file have
  the same lines. So what is covered is among the positions of the files (`mem_positions_of_covers`), and there
  are no more of those than lines (`length_coveredLines_le`).
* **From below** — the sides of one duplicate are in two files, so it covers at least twice as many lines as a
  window has to have (`le_length_coveredLines`). The share in percent is the quotient of the two counts, whether
  it is computed exactly (`percentage_pos_and_le`) or rounded three times (`percentage_pos_and_le_of_lt_size`).
-/

namespace Checkup.Duplication

/-! ### Covered positions -/

/-- A line of a file, by its path and the number of the line, is on a side of a duplicate. -/
def Duplicate.Covers (d : Duplicate) (position : String × Nat) : Prop :=
  position.1 = d.fileA ∧ d.rangeA.start ≤ position.2 ∧ position.2 ≤ d.rangeA.stop ∨
    position.1 = d.fileB ∧ d.rangeB.start ≤ position.2 ∧ position.2 ≤ d.rangeB.stop

theorem LineRange.mem_toList_iff {r : LineRange} {line : Nat} :
    line ∈ r.toList ↔ r.start ≤ line ∧ line ≤ r.stop := by
  rw [toList, List.mem_range'_1]
  omega

theorem LineRange.nodup_toList (r : LineRange) : r.toList.Nodup :=
  List.nodup_range'

theorem Duplicate.mem_lines_iff {d : Duplicate} {position : String × Nat} :
    position ∈ d.lines ↔ d.Covers position := by
  obtain ⟨path, line⟩ := position
  rw [lines, List.mem_append, List.mem_map, List.mem_map, Covers]
  simp only [Prod.mk.injEq, ← LineRange.mem_toList_iff]
  constructor
  · rintro (⟨_, hline, rfl, rfl⟩ | ⟨_, hline, rfl, rfl⟩)
    · exact .inl ⟨rfl, hline⟩
    · exact .inr ⟨rfl, hline⟩
  · rintro (⟨rfl, hline⟩ | ⟨rfl, hline⟩)
    · exact .inl ⟨line, hline, rfl, rfl⟩
    · exact .inr ⟨line, hline, rfl, rfl⟩

theorem mem_coveredLines_iff {ds : List Duplicate} {position : String × Nat} :
    position ∈ coveredLines ds ↔ ∃ d ∈ ds, d.Covers position := by
  rw [coveredLines, List.mem_eraseDups, List.mem_flatMap]
  simp only [Duplicate.mem_lines_iff]

theorem nodup_coveredLines (ds : List Duplicate) : (coveredLines ds).Nodup :=
  Entries.nodup_eraseDups _

/-- Each position that some duplicate covers is counted once. -/
theorem length_coveredLines (ds : List Duplicate) :
    (coveredLines ds).length = {position | ∃ d ∈ ds, d.Covers position}.ncard := by
  have hset : {position | ∃ d ∈ ds, d.Covers position} = (coveredLines ds).toFinset := by
    ext position
    simp [mem_coveredLines_iff]
  rw [hset, Set.ncard_coe_finset, List.toFinset_card_of_nodup (nodup_coveredLines ds)]

/-! ### Lines of files -/

section Files

variable {settings : Settings} {files : List SourceFile} {ds : List Duplicate}

/-- The lines of a file, by its path and their numbers. -/
def SourceFile.positions (file : SourceFile) : List (String × Nat) :=
  (List.range' 1 file.lineCount).map (file.path, ·)

theorem length_flatMap_positions (files : List SourceFile) :
    (files.flatMap SourceFile.positions).length = (files.map SourceFile.lineCount).sum := by
  simp [List.length_flatMap, SourceFile.positions]

/-- The lines of a range that is worth comparing are lines of its file. -/
theorem IsComparable.mem_positions {file : SourceFile} {r : LineRange} (h : IsComparable settings file r)
    {line : Nat} (hline : r.start ≤ line ∧ line ≤ r.stop) : (file.path, line) ∈ file.positions := by
  refine List.mem_map.mpr ⟨line, List.mem_range'_1.mpr ?_, rfl⟩
  have hstart := h.one_le_start
  have hstop := h.stop_le
  omega

/-- What a duplicate covers are lines of files, if it stands for equal ranges of them. -/
theorem mem_positions_of_covers {f g : SourceFile} {r s : LineRange} (h : EqualRanges settings files f g r s)
    {position : String × Nat} (hcovers : (Duplicate.ofRanges f g r s).Covers position) :
    position ∈ files.flatMap SourceFile.positions := by
  obtain ⟨path, line⟩ := position
  have hf : f ∈ files := h.ordered.subset List.mem_cons_self
  have hg : g ∈ files := h.ordered.subset (List.mem_cons_of_mem f List.mem_cons_self)
  rcases hcovers with ⟨hpath, hline⟩ | ⟨hpath, hline⟩
  · obtain rfl : path = f.path := hpath
    exact List.mem_flatMap.mpr ⟨f, hf, h.left.mem_positions hline⟩
  · obtain rfl : path = g.path := hpath
    exact List.mem_flatMap.mpr ⟨g, hg, h.right.mem_positions hline⟩

/-- No more lines are covered than there are. -/
theorem length_coveredLines_le (settings : Settings) (files : List SourceFile) :
    (coveredLines (resolveOverlaps (candidates (files.flatMap (windowList settings))))).length ≤
      (files.map SourceFile.lineCount).sum := by
  rw [← length_flatMap_positions]
  refine (nodup_coveredLines _).length_le_of_subset fun position hposition => ?_
  obtain ⟨d, hd, hcovers⟩ := mem_coveredLines_iff.mp hposition
  obtain ⟨f, g, r, s, hranges, rfl⟩ := exists_equalRanges_of_mem_resolveOverlaps hd
  exact mem_positions_of_covers hranges hcovers

/-- A duplicate covers two windows, in two files. -/
theorem le_length_coveredLines {f g : SourceFile} {r s : LineRange} (h : EqualRanges settings files f g r s)
    (hmem : .ofRanges f g r s ∈ ds) : 2 * settings.minLines ≤ (coveredLines ds).length := by
  have hnodup : (Duplicate.ofRanges f g r s).lines.Nodup := by
    refine List.Nodup.append ?_ ?_ ?_
    · exact r.nodup_toList.map fun _ _ heq => (Prod.mk.inj heq).2
    · exact s.nodup_toList.map fun _ _ heq => (Prod.mk.inj heq).2
    · intro position hr hs
      obtain ⟨_, _, rfl⟩ := List.mem_map.mp hr
      obtain ⟨_, _, heq⟩ := List.mem_map.mp hs
      exact h.path_ne (Prod.mk.inj heq).1.symm
  have hsub : (Duplicate.ofRanges f g r s).lines ⊆ coveredLines ds := fun position hposition =>
    mem_coveredLines_iff.mpr ⟨_, hmem, Duplicate.mem_lines_iff.mp hposition⟩
  have hlength : (Duplicate.ofRanges f g r s).lines.length =
      (r.stop + 1 - r.start) + (s.stop + 1 - s.start) := by
    simp [Duplicate.lines, Duplicate.ofRanges, LineRange.toList]
  have hle := hnodup.length_le_of_subset hsub
  have hr := h.left.minLines_le
  have hs := h.right.minLines_le
  omega

end Files

/-! ### Scans -/

/-- What a scan finds, if no sum overflows in a file that can be read. -/
theorem ofSources_eq_ok {settings : Settings} {sources : List Files.Source}
    (hfits : ∀ file ∈ sources.filterMap SourceFile.ofSource?, FitsWords settings file) :
    let files := sources.filterMap SourceFile.ofSource?
    let ds := resolveOverlaps (candidates (files.flatMap (windowList settings)))
    Findings.ofSources settings sources = .ok {
      duplicates := ds
      filesScanned := files.length
      totalLines := (files.map SourceFile.lineCount).sum
      duplicatedLines := (coveredLines ds).length
      skippedFiles := Files.unreadable sources } := by
  intro files ds
  rw [Findings.ofSources, Findings.ofFiles, findDuplicates_eq_ok hfits]
  rfl

/-- Part of some lines is a positive share of them, of a hundred percent at most. -/
theorem percentage_pos_and_le {found : Findings} (hpos : 0 < found.duplicatedLines)
    (hle : found.duplicatedLines ≤ found.totalLines) :
    0 < (found.percentage : Rat) ∧ (found.percentage : Rat) ≤ 100 := by
  have htotal : found.totalLines ≠ 0 := by omega
  rw [Findings.percentage, if_neg htotal]
  simp only [Measure.ofNat_eq]
  have hpos : (0 : Rat) < found.duplicatedLines := by exact_mod_cast hpos
  have hle : (found.duplicatedLines : Rat) ≤ found.totalLines := by exact_mod_cast hle
  have htotal : (0 : Rat) < found.totalLines := hpos.trans_le hle
  constructor
  · positivity
  · calc (found.duplicatedLines / found.totalLines * (100 : Nat) : Rat)
        ≤ 1 * (100 : Nat) := by gcongr; exact (div_le_one htotal).mpr hle
      _ = 100 := by norm_num

/-- So it is when the share is computed on doubles, if the lines can be counted in a word. -/
theorem percentage_pos_and_le_of_lt_size {found : Findings} (hpos : 0 < found.duplicatedLines)
    (hle : found.duplicatedLines ≤ found.totalLines) (hsize : found.totalLines < Word.size) :
    0 < (found.percentage : Float) ∧ (found.percentage : Float) ≤ 100 := by
  have htotal : found.totalLines ≠ 0 := by omega
  rw [Findings.percentage, if_neg htotal]
  exact Number.percent_pos_and_le hpos hle hsize

/-- **The share of duplicated lines.** A scan of the source files below a directory counts as duplicated each
line of a file once that is on a side of a duplicate, and no more lines than there are. If there is a duplicate,
the two windows of the least length are counted, so the share is positive, in exact arithmetic and on doubles.
-/
theorem exists_coverage_of_fits {settings : Settings} {excluded : Glob.Exclusion} {extensions : List String}
    {directory : Files.Node}
    (hfits : ∀ file ∈ (Files.sources excluded extensions directory).filterMap SourceFile.ofSource?,
      FitsWords settings file) :
    ∃ found, Findings.ofSources settings (Files.sources excluded extensions directory) = .ok found ∧
      found.duplicatedLines = {position | ∃ d ∈ found.duplicates, d.Covers position}.ncard ∧
      found.duplicatedLines ≤ found.totalLines ∧
      (found.duplicates ≠ [] → 2 * settings.minLines ≤ found.duplicatedLines ∧
        (0 < (found.percentage : Rat) ∧ (found.percentage : Rat) ≤ 100) ∧
        (found.totalLines < Word.size → 0 < (found.percentage : Float) ∧ (found.percentage : Float) ≤ 100)) := by
  have hle := length_coveredLines_le settings
    ((Files.sources excluded extensions directory).filterMap SourceFile.ofSource?)
  refine ⟨_, ofSources_eq_ok hfits, length_coveredLines _, hle, fun hne => ?_⟩
  obtain ⟨d, hd⟩ := List.exists_mem_of_ne_nil _ hne
  obtain ⟨hmin, f, g, r, s, hequal, rfl⟩ := mem_candidates_windowList.mp (mem_of_mem_resolveOverlaps hd)
  have hge := le_length_coveredLines hequal hd
  have hpos : 0 < 2 * settings.minLines := by omega
  exact ⟨hge, percentage_pos_and_le (hpos.trans_le hge) hle, percentage_pos_and_le_of_lt_size (hpos.trans_le hge) hle⟩

/-- A directory with the files of the passage and one that cannot be read. -/
def passageDirectory : Files.Node :=
  .directory [("a.ts", .file (.text "// a\nN = 1\r\nf('x')\n")), ("b.ts", .file (.text "n  = 22\n f(\"y\")")),
    ("c.ts", .file (.raw [0xff]))]

theorem filterMap_sources_passage :
    (Files.sources ⟨[]⟩ Files.sourceExtensions passageDirectory).filterMap SourceFile.ofSource? = passageFiles := by
  -- the files are met in the order of paths, so sorting leaves them as they are
  rw [Files.sources, List.mergeSort_of_pairwise (by decide +kernel)]
  decide +kernel

/-- The passage is among the lines of its directory that are counted. -/
theorem exists_coverage_passage :
    (∀ file ∈ (Files.sources ⟨[]⟩ Files.sourceExtensions passageDirectory).filterMap SourceFile.ofSource?,
        FitsWords passageSettings file) ∧
      ∃ found, Findings.ofSources passageSettings (Files.sources ⟨[]⟩ Files.sourceExtensions passageDirectory) =
          .ok found ∧ found.duplicates ≠ [] ∧ 4 ≤ found.duplicatedLines ∧ found.duplicatedLines ≤ found.totalLines ∧
        (0 < (found.percentage : Rat) ∧ (found.percentage : Rat) ≤ 100) ∧
        found.totalLines < Word.size ∧ 0 < (found.percentage : Float) ∧ (found.percentage : Float) ≤ 100 := by
  have hfits : ∀ file ∈ (Files.sources ⟨[]⟩ Files.sourceExtensions passageDirectory).filterMap SourceFile.ofSource?,
      FitsWords passageSettings file := by
    rw [filterMap_sources_passage]
    exact fitsWords_passage
  obtain ⟨found, hok, -, hle, hshare⟩ := exists_coverage_of_fits hfits
  have heq := hok
  rw [ofSources_eq_ok hfits, Except.ok.injEq] at heq
  have hfound : found.duplicates ≠ [] := by
    obtain ⟨m, hm, -⟩ := exists_meets_of_equalRanges (by decide) equalRanges_passage
    rw [← heq]
    simp only [filterMap_sources_passage]
    exact List.ne_nil_of_mem hm
  have hsize : found.totalLines < Word.size := by
    rw [← heq]
    simp only [filterMap_sources_passage]
    decide +kernel
  obtain ⟨hmin, hexact, hdoubles⟩ := hshare hfound
  exact ⟨hfits, found, hok, hfound, hmin, hle, hexact, hsize, hdoubles hsize⟩

end Checkup.Duplication
