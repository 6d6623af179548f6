import Checkup.Proofs.Files.Source
import Mathlib.Data.List.Sort

/-!
# The listing of source files

The source files of a project are listed in the order of paths, each once. What is listed depends on the places of
the files below the project's directory, on their names, and on the names of the directories between
(`IsSourcePlace`). It does not depend on the directory's own name, or on where the directory is. What is below a
sealed directory is at no place.

* **Order** — a file stands before another if its place does, compared component by component
  (`pairwise_isBefore_sources`). The text of a path is not what is compared: `src/a.ts` stands before `src.ts`.
* **Names** — a name without an extension, or with one that is no text, counts as one with the empty extension, so
  it is wanted where the empty text is (`contains_nameExtension_iff`).
* **Exclusion** — what is excluded is left out of the listing and changes nothing else
  (`sources_sublist_of_subset`). It does not keep a directory from being entered.

`isListing_sources` puts these together for a directory anywhere in a file tree.
-/

namespace Checkup.Files

/-! ### Wanted names -/

/-- A name has one of some extensions. -/
def Path.HasExtensionIn (extensions : List String) (name : String) : Prop :=
  ∃ ext ∈ extensions, HasExtension name ext

/-- A name has one of some extensions, or it has no text as its extension and the empty text is one of them. -/
def Path.IsWanted (extensions : List String) (name : String) : Prop :=
  HasExtensionIn extensions name ∨ "" ∈ extensions ∧ ∀ ext, ¬HasExtension name ext

theorem Path.HasExtension.dot_mem {name ext : String} (h : HasExtension name ext) : dot ∈ bytes name := by
  obtain ⟨stem, -, hname, -⟩ := h
  rw [hname]
  exact List.mem_append_right _ List.mem_cons_self

theorem Path.contains_nameExtension_iff {extensions : List String} {name : String} :
    extensions.contains (nameExtension name) = true ↔ IsWanted extensions name := by
  rw [List.contains_iff_mem]
  constructor
  · intro h
    rcases hasExtension_nameExtension_or name with hext | ⟨hempty, hnone⟩
    · exact .inl ⟨_, h, hext⟩
    · exact .inr ⟨hempty ▸ h, hnone⟩
  · rintro (⟨ext, h, hext⟩ | ⟨h, hnone⟩)
    · exact hext.nameExtension_eq.symm ▸ h
    · rcases hasExtension_nameExtension_or name with hext | ⟨hempty, -⟩
      · exact absurd hext (hnone _)
      · exact hempty.symm ▸ h

/-- At a place below the directory at `above` there is a file that counts as a source file: no directory on the way
to it is hidden or foreign, its name is wanted, and its path as seen from the directory is not excluded. -/
structure IsSourcePlace (isWanted : String → Prop) (excluded : Glob.Exclusion) (root : Node)
    (above place : List String) : Prop where
  isFile : ∃ content, root.at? (above ++ place) = some (.file content)
  entered : ∀ name ∈ place.dropLast,
    (Path.shown name).startsWith "." = false ∧ Path.shown name ∉ foreignDirectories
  wanted : ∃ name, place.getLast? = some name ∧ isWanted name
  excludes_eq : excluded.excludes ("/".intercalate place) = false

/-- Some places are all those of a kind, in strictly ascending order. -/
structure IsListing (isListed : List String → Prop) (places : List (List String)) : Prop where
  ascending : places.Pairwise fun a b => Path.isBefore a b = true
  mem_iff : ∀ place, place ∈ places ↔ isListed place

section Listing

variable {excluded more : Glob.Exclusion} {extensions : List String} {entries : List (String × Node)}

/-! ### Places of source files -/

theorem isForeign_eq_false_iff {name : String} :
    isForeign name = false ↔
      (Path.shown name).startsWith "." = false ∧ Path.shown name ∉ foreignDirectories := by
  rw [isForeign, Bool.or_eq_false_iff, ← Bool.not_eq_true (foreignDirectories.contains _),
    List.contains_iff_mem]

/-- A source file is a file at a place of source files. -/
theorem mem_sources_directory_iff (h : (Node.directory entries).IsNamed) {source : Source} :
    source ∈ sources excluded extensions (.directory entries) ↔
      (Node.directory entries).at? source.place = some (.file source.content) ∧
      IsSourcePlace (Path.IsWanted extensions) excluded (.directory entries) [] source.place := by
  rw [mem_sources_iff h]
  have hext : ∀ {name}, source.place.getLast? = some name → source.extension = Path.nameExtension name := by
    intro name hname
    rw [Source.extension, placeExtension, hname]
    rfl
  constructor
  · rintro ⟨⟨hat, hentered⟩, hwanted, hexcluded⟩
    have hne : source.place ≠ [] := fun hnil => by simp [hnil] at hat
    have hname : source.place.getLast? = some (source.place.getLast hne) := List.getLast?_eq_some_getLast hne
    rw [hext hname, Path.contains_nameExtension_iff] at hwanted
    exact ⟨hat, ⟨_, hat⟩, fun step hstep => isForeign_eq_false_iff.mp (hentered step hstep), ⟨_, hname, hwanted⟩,
      Bool.not_eq_true' _ ▸ hexcluded⟩
  · rintro ⟨hat, -, hentered, ⟨name, hname, hwanted⟩, hexcluded⟩
    refine ⟨⟨hat, fun step hstep => isForeign_eq_false_iff.mpr (hentered step hstep)⟩, ?_, ?_⟩
    · rw [hext hname, Path.contains_nameExtension_iff]
      exact hwanted
    · rw [hexcluded]
      rfl

theorem mem_map_place_sources_iff (h : (Node.directory entries).IsNamed) {place : List String} :
    place ∈ (sources excluded extensions (.directory entries)).map (·.place) ↔
      IsSourcePlace (Path.IsWanted extensions) excluded (.directory entries) [] place := by
  rw [List.mem_map]
  constructor
  · rintro ⟨source, hsource, rfl⟩
    exact ((mem_sources_directory_iff h).mp hsource).2
  · intro hplace
    obtain ⟨content, hat⟩ := hplace.isFile
    exact ⟨⟨place, content⟩, (mem_sources_directory_iff h).mpr ⟨hat, hplace⟩, rfl⟩

/-- A place is seen from its directory alone. -/
theorem isSourcePlace_iff_of_at? {isWanted : String → Prop} {root directory : Node} {above place : List String}
    (h : root.at? above = some directory) :
    IsSourcePlace isWanted excluded directory [] place ↔ IsSourcePlace isWanted excluded root above place := by
  have hat : root.at? (above ++ place) = directory.at? ([] ++ place) := by
    rw [Node.at?_append, h, Option.bind_some, List.nil_append]
  constructor
  · rintro ⟨hfile, hentered, hwanted, hexcluded⟩
    exact ⟨hat ▸ hfile, hentered, hwanted, hexcluded⟩
  · rintro ⟨hfile, hentered, hwanted, hexcluded⟩
    exact ⟨hat ▸ hfile, hentered, hwanted, hexcluded⟩

/-! ### The order of the listing -/

/-- Files at different places are put in the strict order of their places. -/
theorem pairwise_isBefore_mergeSort {files : List (List String × Content)}
    (h : (files.map fun file => file.1.map Path.bytes).Nodup) :
    (files.mergeSort fun a b => !Path.isBefore b.1 a.1).Pairwise fun a b => Path.isBefore a.1 b.1 = true := by
  have hsorted : (files.mergeSort fun a b => !Path.isBefore b.1 a.1).Pairwise
      fun a b => (!Path.isBefore b.1 a.1) = true := by
    refine List.pairwise_mergeSort (fun a b c => ?_) (fun a b => ?_) files
    · simp only [Bool.not_eq_true']
      exact Path.not_isBefore_trans
    · rw [Bool.or_eq_true, Bool.not_eq_true', Bool.not_eq_true']
      rcases hab : Path.isBefore a.1 b.1 with _ | _
      · exact .inr rfl
      · exact .inl (Path.isBefore_asymm hab)
  have hne : (files.mergeSort fun a b => !Path.isBefore b.1 a.1).Pairwise fun a b =>
      a.1.map Path.bytes ≠ b.1.map Path.bytes :=
    List.pairwise_map.mp (((List.mergeSort_perm files _).map _).nodup_iff.mpr h)
  exact hsorted.imp₂ (fun a b hle hne =>
    Path.isBefore_of_not_isBefore_of_ne (Bool.not_eq_true' _ ▸ hle) hne) hne

/-- **The order of the listing.** Each file stands before those whose place comes after its own. -/
theorem pairwise_isBefore_sources (h : (Node.directory entries).IsNamed) :
    (sources excluded extensions (.directory entries)).Pairwise fun a b =>
      Path.isBefore a.place b.place = true := by
  have hplaces : (((Node.directory entries).walk isForeign []).map fun file => file.1.map Path.bytes).Nodup :=
    Node.nodup_walk h
  rw [sources, List.pairwise_map]
  exact pairwise_isBefore_mergeSort (hplaces.sublist (List.filter_sublist.map _))

/-! ### Excluding more -/

theorem excludes_mono (hsub : excluded.patterns ⊆ more.patterns) {path : String}
    (h : more.excludes path = false) : excluded.excludes path = false := by
  rw [Glob.Exclusion.excludes, List.any_eq_false] at h ⊢
  exact fun pattern hpattern => h pattern (hsub hpattern)

/-- **Excluding more.** What is left of the listing stays in its order. -/
theorem sources_sublist_of_subset (h : (Node.directory entries).IsNamed)
    (hsub : excluded.patterns ⊆ more.patterns) :
    (sources more extensions (.directory entries)).Sublist (sources excluded extensions (.directory entries)) := by
  have hmem : sources more extensions (.directory entries) ⊆ sources excluded extensions (.directory entries) := by
    intro source hsource
    obtain ⟨hat, hplace⟩ := (mem_sources_directory_iff h).mp hsource
    exact (mem_sources_directory_iff h).mpr
      ⟨hat, { hplace with excludes_eq := excludes_mono hsub hplace.excludes_eq }⟩
  have hnodup : (sources more extensions (.directory entries)).Nodup :=
    List.Nodup.of_map _ (nodup_place_sources h)
  -- both listings are in one strict order
  have : Std.Antisymm fun a b : Source => Path.isBefore a.place b.place = true :=
    ⟨fun a b hab hba => absurd hba (Bool.eq_false_iff.mp (Path.isBefore_asymm hab))⟩
  exact List.sublist_of_subperm_of_pairwise (List.subperm_of_subset hnodup hmem) (pairwise_isBefore_sources h)
    (pairwise_isBefore_sources h)

/-- **The listing of source files.** For a directory of a file tree, wherever it is, the files listed are those at
the places of source files below it, in strictly ascending order of these places, and each with its content. If more
is excluded, some of them are left, in the same order. -/
theorem isListing_sources {t : Tree} (hnamed : t.root.IsNamed) {path : String} {above : List String}
    (hpath : t.resolve path = .ok (above, .directory entries)) (excluded : Glob.Exclusion)
    (extensions : List String) :
    let found := sources excluded extensions (.directory entries)
    IsListing (IsSourcePlace (Path.IsWanted extensions) excluded t.root above) (found.map (·.place)) ∧
      (∀ source ∈ found, t.root.at? (above ++ source.place) = some (.file source.content)) ∧
      ∀ more : Glob.Exclusion, excluded.patterns ⊆ more.patterns →
        (sources more extensions (.directory entries)).Sublist found := by
  intro found
  have hdirectory := Tree.isNamed_of_resolve_eq_ok hnamed hpath
  have habove : t.root.at? above = some (.directory entries) := (Tree.resolve_eq_ok_iff.mp hpath).2.2
  refine ⟨⟨List.pairwise_map.mpr (pairwise_isBefore_sources hdirectory), fun place => ?_⟩, fun source hsource => ?_,
    fun more => sources_sublist_of_subset hdirectory⟩
  · rw [mem_map_place_sources_iff hdirectory, isSourcePlace_iff_of_at? habove]
  · rw [Node.at?_append, habove, Option.bind_some, ((mem_sources_directory_iff hdirectory).mp hsource).1]

end Listing

/-- A hidden directory with a hidden file, a file without extension, one whose extension is no text, a directory of
build results, a sealed one, and a file named like a directory. -/
def hiddenDirectory : List (String × Node) := [
  (".eslintrc.ts", .file (.text "a")),
  ("Makefile", .file (.text "b")),
  ("a.\x00\xff", .file (.text "f")),
  ("dist", .directory [("c.ts", .file (.text "c"))]),
  ("locked", .sealed .denied),
  ("src", .directory [("d.ts", .file (.text "d"))]),
  ("src.ts", .file (.text "e"))]

theorem isNamed_hiddenDirectory : (Node.directory [(".ws", .directory hiddenDirectory)]).IsNamed := by
  have hdirectory : (Node.directory hiddenDirectory).IsNamed := by
    refine .directory (by decide +kernel) (by decide +kernel) ?_
    simp only [hiddenDirectory, List.forall_mem_cons]
    exact ⟨.file _, .file _, .file _, .singleton (by decide +kernel) (.file _), .sealed _,
      .singleton (by decide +kernel) (.file _), .file _, List.forall_mem_nil _⟩
  exact .singleton (by decide +kernel) hdirectory

/-- Where the empty extension is wanted, the file without extension is listed, and the one whose extension is no text.
Files in the directory come before the one whose name goes on where the directory's ends. -/
theorem isListing_hiddenDirectory :
    let t : Tree := ⟨.directory [(".ws", .directory hiddenDirectory)], "/"⟩
    let found := sources ⟨[]⟩ ["ts", ""] (.directory hiddenDirectory)
    t.root.IsNamed ∧ t.resolve "/.ws" = .ok ([".ws"], .directory hiddenDirectory) ∧
      IsListing (IsSourcePlace (Path.IsWanted ["ts", ""]) ⟨[]⟩ t.root [".ws"])
        [[".eslintrc.ts"], ["Makefile"], ["a.\x00\xff"], ["src", "d.ts"], ["src.ts"]] ∧
      (sources ⟨[[.componentsBefore]]⟩ ["ts", ""] (.directory hiddenDirectory)).Sublist found := by
  intro t found
  have hresolve : t.resolve "/.ws" = .ok ([".ws"], .directory hiddenDirectory) := by
    refine Tree.resolve_eq_ok_iff.mpr ⟨by decide, ?_, rfl⟩
    simp only [Tree.placeOf, Tree.startOf, Path.steps_eq]
    decide +kernel
  have hfound : found.map (·.place) =
      [[".eslintrc.ts"], ["Makefile"], ["a.\x00\xff"], ["src", "d.ts"], ["src.ts"]] := by
    -- the files are met in the order of paths, so sorting leaves them as they are
    simp only [found, sources]
    rw [List.mergeSort_of_pairwise (by decide +kernel)]
    decide +kernel
  obtain ⟨hlisting, -, hsub⟩ := isListing_sources isNamed_hiddenDirectory hresolve ⟨[]⟩ ["ts", ""]
  rw [hfound] at hlisting
  exact ⟨isNamed_hiddenDirectory, hresolve, hlisting, hsub _ (List.nil_subset _)⟩

/-- A name without extension is not one with a wanted extension, and is listed all the same where the empty text is
among these. -/
theorem not_isListing_file_without_extension :
    let t : Tree := ⟨.directory [("noext", .file (.text ""))], "/"⟩
    t.root.IsNamed ∧ t.resolve "/" = .ok ([], t.root) ∧
      ¬IsListing (IsSourcePlace (Path.HasExtensionIn [""]) ⟨[]⟩ t.root [])
        ((sources ⟨[]⟩ [""] t.root).map (·.place)) := by
  intro t
  have hnamed : t.root.IsNamed := .singleton (by decide +kernel) (.file _)
  have hnone : ∀ ext, ¬Path.HasExtension "noext" ext := fun ext h => by
    exact absurd h.dot_mem (by decide +kernel)
  have hplace : IsSourcePlace (Path.IsWanted [""]) ⟨[]⟩ t.root [] ["noext"] :=
    ⟨⟨.text "", rfl⟩, List.forall_mem_nil _, ⟨_, rfl, .inr ⟨List.mem_cons_self, hnone⟩⟩, rfl⟩
  refine ⟨hnamed, ?_, fun hlisting => ?_⟩
  · refine Tree.resolve_eq_ok_iff.mpr ⟨by decide, ?_, rfl⟩
    rw [Tree.placeOf, Tree.startOf, Path.steps_eq]
    decide +kernel
  · obtain ⟨name, hname, ext, -, hext⟩ :=
      ((hlisting.mem_iff _).mp ((mem_map_place_sources_iff hnamed).mpr hplace)).wanted
    obtain rfl : "noext" = name := Option.some.inj hname
    exact hnone ext hext

end Checkup.Files
