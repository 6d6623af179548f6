import Checkup.Analyzer.BuiltIn
import Checkup.Proofs.Duplication.Coverage
import Checkup.Proofs.Files.Source

/-!
# The analyzers of source files see the same files

Duplicates, complexity and escapes from the type system are looked for by three analyzers, each of which reads the
source files of a project by itself, counts them and their lines, and lists those that it cannot read. Where all
three have findings, these agree (`Analyzer.agree_of_analyze_eq_ok`).

* **Reading** — each of the three passes takes the files that hold a text, in order, and makes something of the file
  and its text. So each is a map of one list (`Files.filterMap_text?`), and what two of them count alike is equal.
* **Skipping** — the files that a pass takes and those that it skips are the source files, each in one of the two
  lists (`Files.isPartition_readable`). So are the paths that they are listed under, where the names of the files
  are texts; other files may be shown under one path.
-/

namespace Checkup

/-- A list is divided in two: both parts keep its order, and each of its entries is in one of them. -/
structure IsPartition {α : Type} (all left right : List α) : Prop where
  left_sublist : left.Sublist all
  right_sublist : right.Sublist all
  perm : (left ++ right).Perm all
  disjoint : left.Disjoint right

/-- Distinct entries are divided by a test. -/
theorem isPartition_filter {α : Type} {l : List α} (h : l.Nodup) (p : α → Bool) :
    IsPartition l (l.filter p) (l.filter (!p ·)) where
  left_sublist := List.filter_sublist
  right_sublist := List.filter_sublist
  perm := List.filter_append_perm p l
  disjoint := List.disjoint_of_nodup_append ((List.filter_append_perm p l).nodup_iff.mpr h)

/-- What is made of the entries is divided as they are, if it is distinct. -/
theorem IsPartition.map {α β : Type} {all left right : List α} (h : IsPartition all left right) {f : α → β}
    (hnodup : (all.map f).Nodup) : IsPartition (all.map f) (left.map f) (right.map f) := by
  have hperm : (left.map f ++ right.map f).Perm (all.map f) := by
    rw [← List.map_append]
    exact h.perm.map f
  exact {
    left_sublist := h.left_sublist.map f
    right_sublist := h.right_sublist.map f
    perm := hperm
    disjoint := List.disjoint_of_nodup_append (hperm.nodup_iff.mpr hnodup) }

namespace Files

/-! ### Files with their texts -/

/-- The source files that hold a text, with the text. -/
def readable (sources : List Source) : List (Source × String) :=
  sources.filterMap fun source => source.text?.map (source, ·)

/-- A pass over the files that hold a text is a map of them. -/
theorem filterMap_text? {α : Type} (f : Source → String → α) (sources : List Source) :
    sources.filterMap (fun source => source.text?.map (f source)) =
      (readable sources).map fun r => f r.1 r.2 := by
  rw [readable, List.map_filterMap]
  refine congrArg (List.filterMap · sources) (funext fun source => ?_)
  rw [Option.map_map]
  rfl

theorem map_fst_readable (sources : List Source) :
    (readable sources).map (·.1) = sources.filter (·.text?.isSome) := by
  induction sources with
  | nil => rfl
  | cons source rest ih =>
    rw [readable] at ih ⊢
    cases htext : source.text? <;> simp [htext, ih]

/-- The source files that hold no text, or none that can be read. -/
def skipped (sources : List Source) : List Source :=
  sources.filter (!·.text?.isSome)

theorem unreadable_eq (sources : List Source) : unreadable sources = (skipped sources).map (·.path) := by
  simp only [unreadable, skipped, Option.not_isSome]

/-- The files that hold a text and the others are all files. -/
theorem isPartition_readable {sources : List Source} (h : sources.Nodup) :
    IsPartition sources ((readable sources).map (·.1)) (skipped sources) := by
  rw [map_fst_readable]
  exact isPartition_filter h _

end Files

namespace Subject

variable {subject : Subject}

theorem nodup_sources (h : subject.tree.root.IsNamed) : subject.sources.Nodup := by
  rw [sources]
  split
  · next hresolve =>
    exact List.Nodup.of_map _ (Files.nodup_place_sources (Files.Tree.isNamed_of_resolve_eq_ok h hresolve))
  · exact List.nodup_nil

theorem nodup_path_sources (h : subject.tree.root.IsNamed) (htext : ∀ source ∈ subject.sources, source.IsText) :
    (subject.sources.map (·.path)).Nodup := by
  rw [sources] at htext ⊢
  split
  · next hresolve =>
    rw [hresolve] at htext
    exact Files.nodup_path_sources (Files.Tree.isNamed_of_resolve_eq_ok h hresolve) htext
  · exact List.nodup_nil

end Subject

/-! ### Findings of one project -/

namespace Analyzer

open Files

section Findings

variable {subject : Subject} {d : Duplication.Findings} {c : Complexity.Findings} {t : Escapes.Findings}

theorem analyze_duplication_eq_ok_iff :
    duplication.analyze subject = .ok (.duplication d) ↔
      Duplication.Findings.ofSources subject.config.duplication subject.sources = .ok d := by
  have hanalyze : duplication.analyze subject =
      (Failure.ofOverflow (.ofTask (subject.run.task subject.metadata.root))
        (Duplication.Findings.ofSources subject.config.duplication subject.sources)).map .duplication := rfl
  rw [hanalyze]
  cases Duplication.Findings.ofSources subject.config.duplication subject.sources with
  | error => exact iff_of_false nofun nofun
  | ok found => simp [Failure.ofOverflow, Except.map, Except.mapError]

theorem duplication_eq_ok (h : duplication.analyze subject = .ok (.duplication d)) :
    d.filesScanned = (readable subject.sources).length ∧
      d.totalLines = ((readable subject.sources).map fun r => (Text.lines r.2.toList).length).sum ∧
      d.skippedFiles = unreadable subject.sources := by
  have hfiles : subject.sources.filterMap Duplication.SourceFile.ofSource? =
      (readable subject.sources).map fun r => ⟨r.1.path, r.2⟩ := filterMap_text? _ _
  rw [analyze_duplication_eq_ok_iff, Duplication.Findings.ofSources, Duplication.Findings.ofFiles, hfiles] at h
  cases hfound : Duplication.findDuplicates subject.config.duplication
      ((readable subject.sources).map fun r => ⟨r.1.path, r.2⟩) with
  | error =>
    rw [hfound] at h
    contradiction
  | ok ds =>
    rw [hfound] at h
    obtain rfl := Except.ok.inj h
    refine ⟨List.length_map _, ?_, rfl⟩
    dsimp only
    rw [List.map_map]
    rfl

theorem complexity_eq_ok (h : complexity.analyze subject = .ok (.complexity c)) :
    c.files.map (·.path) = (readable subject.sources).map (·.1.path) ∧
      c.files.map (·.lines) = (readable subject.sources).map (fun r => (Text.lines r.2.toList).length) ∧
      c.skippedFiles = unreadable subject.sources := by
  obtain rfl := Findings.complexity.inj (Except.ok.inj h)
  have hfiles : subject.sources.filterMap Complexity.measure? = (readable subject.sources).map fun r =>
      ⟨r.1.path, Complexity.ofSource r.1.extension r.2.toList, (Text.lines r.2.toList).length⟩ :=
    filterMap_text? _ _
  rw [Complexity.Findings.ofSources, hfiles, List.map_map, List.map_map]
  exact ⟨rfl, rfl, rfl⟩

theorem typeSafety_eq_ok (h : typeSafety.analyze subject = .ok (.typeSafety t)) :
    t.filesScanned = (readable subject.sources).length ∧
      t.totalLines = ((readable subject.sources).map fun r => (Text.lines r.2.toList).length).sum ∧
      t.skippedFiles = unreadable subject.sources := by
  obtain rfl := Findings.typeSafety.inj (Except.ok.inj h)
  have hscanned : subject.sources.filterMap Escapes.scanSource? = (readable subject.sources).map fun r =>
      (Escapes.scan r.1.path r.1.extension r.2.toList, (Text.lines r.2.toList).length) := filterMap_text? _ _
  rw [Escapes.Findings.ofSources, hscanned]
  refine ⟨List.length_map _, ?_, rfl⟩
  dsimp only
  rw [List.map_map]
  rfl

/-- **The analyzers of source files agree.** If all three have findings about a project, they have read the same
number of files with the same number of lines in all, and skipped the same files. The files whose complexity is
known and those that were skipped are the source files of the project, in their order and each in one of the two
lists; and so are their paths, where all names on the way to the files are texts. -/
theorem agree_of_analyze_eq_ok (hd : duplication.analyze subject = .ok (.duplication d))
    (hc : complexity.analyze subject = .ok (.complexity c))
    (ht : typeSafety.analyze subject = .ok (.typeSafety t)) :
    (d.filesScanned = c.files.length ∧ t.filesScanned = c.files.length) ∧
      (d.skippedFiles = c.skippedFiles ∧ t.skippedFiles = c.skippedFiles) ∧
      (d.totalLines = (c.files.map (·.lines)).sum ∧ t.totalLines = (c.files.map (·.lines)).sum) ∧
      (subject.tree.root.IsNamed →
        (∃ read skipped, IsPartition subject.sources read skipped ∧
          c.files.map (·.path) = read.map (·.path) ∧ c.skippedFiles = skipped.map (·.path)) ∧
        ((∀ source ∈ subject.sources, source.IsText) →
          IsPartition (subject.sources.map (·.path)) (c.files.map (·.path)) c.skippedFiles)) := by
  obtain ⟨hdFiles, hdLines, hdSkipped⟩ := duplication_eq_ok hd
  obtain ⟨hcPaths, hcLines, hcSkipped⟩ := complexity_eq_ok hc
  obtain ⟨htFiles, htLines, htSkipped⟩ := typeSafety_eq_ok ht
  have hcFiles : c.files.length = (readable subject.sources).length := by
    simpa using congrArg List.length hcPaths
  have hread : (readable subject.sources).map (·.1.path) = ((readable subject.sources).map (·.1)).map (·.path) := by
    rw [List.map_map]
    rfl
  rw [hdFiles, htFiles, hcFiles, hdSkipped, htSkipped, hcSkipped, hdLines, htLines, hcLines, hcPaths, hread,
    unreadable_eq]
  refine ⟨⟨rfl, rfl⟩, ⟨rfl, rfl⟩, ⟨rfl, rfl⟩, fun hroot => ?_⟩
  have hpartition := isPartition_readable (Subject.nodup_sources hroot)
  exact ⟨⟨_, _, hpartition, rfl, rfl⟩, fun htext => hpartition.map (Subject.nodup_path_sources hroot htext)⟩

end Findings

/-- The directory of a project with files that can be read, with and without a line feed at their end, two that
cannot, and two directories that are not looked into. -/
def mixedProject : Node :=
  .directory [("a.ts", .file (.text "one\r\ntwo\n")), ("b.rs", .file (.raw [0xff])),
    ("lib", .directory [("c.py", .file (.text "x = 1")), ("d.py", .file (.sealed 9 .denied))]),
    ("locked", .sealed .denied), ("vendor", .directory [("d.py", .file (.text "y = 1"))])]

/-- The project under the default configuration. -/
def mixedSubject : Subject where
  tree := ⟨.directory [("site", mixedProject)], "/"⟩
  run := ⟨fun _ _ => .error (.notStarted .missing), fun _ => 5⟩
  config := {}
  exclusion := ⟨[]⟩
  project := ⟨"site", .application, "/site"⟩
  metadata := ⟨"/site", "/site/package.json", .packageJson, none, none⟩

theorem isNamed_mixedSubject : mixedSubject.tree.root.IsNamed := by
  have hproject : mixedProject.IsNamed := by
    refine .directory (by decide +kernel) (by decide +kernel) ?_
    simp only [List.forall_mem_cons]
    refine ⟨.file _, .file _, .directory (by decide +kernel) (by decide +kernel) ?_, .sealed _,
      .singleton (by decide +kernel) (.file _), nofun⟩
    simp [Node.IsNamed.file]
  exact .singleton (by decide +kernel) hproject

theorem sources_mixedSubject : mixedSubject.sources =
    [⟨["a.ts"], .text "one\r\ntwo\n"⟩, ⟨["b.rs"], .raw [0xff]⟩, ⟨["lib", "c.py"], .text "x = 1"⟩,
      ⟨["lib", "d.py"], .sealed 9 .denied⟩] := by
  have hresolve : mixedSubject.tree.resolve "/site" = .ok (["site"], mixedProject) := by
    refine Tree.resolve_eq_ok_iff.mpr ⟨by decide, ?_, rfl⟩
    rw [Tree.placeOf, Tree.startOf, Path.steps_eq, Path.steps_eq]
    decide +kernel
  have hsources : mixedSubject.sources = Files.sources ⟨[]⟩ sourceExtensions mixedProject := by
    rw [Subject.sources, show mixedSubject.metadata.root = "/site" from rfl, hresolve]
    rfl
  -- the files are met in the order of paths, so sorting leaves them as they are
  rw [hsources, Files.sources, List.mergeSort_of_pairwise (by decide +kernel)]
  decide +kernel

/-- All three analyzers have findings about the project, with two files of three lines in all. -/
theorem agree_mixedSubject :
    ∃ d c t, duplication.analyze mixedSubject = .ok (.duplication d) ∧
      complexity.analyze mixedSubject = .ok (.complexity c) ∧
      typeSafety.analyze mixedSubject = .ok (.typeSafety t) ∧
      (d.filesScanned = 2 ∧ t.filesScanned = 2) ∧
      (d.skippedFiles = ["b.rs", "lib/d.py"] ∧ t.skippedFiles = ["b.rs", "lib/d.py"]) ∧
      (d.totalLines = 3 ∧ t.totalLines = 3) ∧
      IsPartition ["a.ts", "b.rs", "lib/c.py", "lib/d.py"] ["a.ts", "lib/c.py"] ["b.rs", "lib/d.py"] := by
  have hfits : ∀ file ∈ mixedSubject.sources.filterMap Duplication.SourceFile.ofSource?,
      Duplication.FitsWords mixedSubject.config.duplication file := by
    have hlines : ∀ file ∈ mixedSubject.sources.filterMap Duplication.SourceFile.ofSource?,
        file.lineCount ≤ 2 := by
      rw [sources_mixedSubject]
      decide +kernel
    intro file hfile first hfirst _
    have := hlines file hfile
    simp only [mixedSubject, Word.size]
    omega
  have hd := analyze_duplication_eq_ok_iff.mpr (Duplication.ofSources_eq_ok hfits)
  have hc : ∃ c, complexity.analyze mixedSubject = .ok (.complexity c) ∧
      c.files.map (·.path) = ["a.ts", "lib/c.py"] ∧ c.files.map (·.lines) = [2, 1] ∧
      c.skippedFiles = ["b.rs", "lib/d.py"] := by
    refine ⟨_, rfl, ?_⟩
    rw [sources_mixedSubject]
    decide +kernel
  obtain ⟨c, hc, hpaths, hcLines, hcSkipped⟩ := hc
  have ht : typeSafety.analyze mixedSubject = .ok (.typeSafety (.ofSources mixedSubject.sources)) := rfl
  obtain ⟨hfiles, hskipped, hlines, hpartition⟩ := agree_of_analyze_eq_ok hd hc ht
  have hlength : c.files.length = 2 := by simpa using congrArg List.length hpaths
  have htext : ∀ source ∈ mixedSubject.sources, source.IsText := by
    rw [sources_mixedSubject]
    decide +kernel
  have hpartition := (hpartition isNamed_mixedSubject).2 htext
  have hall : mixedSubject.sources.map (·.path) = ["a.ts", "b.rs", "lib/c.py", "lib/d.py"] := by
    rw [sources_mixedSubject]
    decide +kernel
  rw [hpaths, hcSkipped, hall] at hpartition
  rw [hlength] at hfiles
  rw [hcSkipped] at hskipped
  rw [hcLines] at hlines
  exact ⟨_, c, _, hd, hc, ht, hfiles, hskipped, hlines, hpartition⟩

end Analyzer

end Checkup
