import Checkup.Proofs.Analyzer.Overflow
import Checkup.Proofs.Files.Join
import Checkup.Proofs.Files.Listing

/-!
# How often an asset is listed

The directories of a build's output are walked one after the other, and what they hold is listed together. A walk
meets a file once, so a file is listed once for each of the directories that it is below
(`Assets.count_collectFiles`): twice if one of them is below the other, or if one is named twice, and each time with
its bytes. The files are listed as assets, under their paths as they are shown; these are kept apart from the files,
since two files may be shown alike.

* **One directory** — what is found below it are the files at places below it with the names of assets
  (`Assets.mem_filesBelow_iff`), none twice (`Assets.nodup_filesBelow`).
* **All of them** — the listing is in the order of sizes and paths, and is a tally of the files emitted
  (`Findings.IsTally`, `Analyzer.isTally_bundleSize`). Each is listed once exactly if none is below two of the
  directories, as it is where no directory is above another (`Analyzer.isTally_one_of_pairwise_apart`).
-/

namespace Checkup

open Files

namespace Assets

/-- The steps of a directory of the output. -/
def outputSteps (directory : String) : List String :=
  Path.steps (Path.ofText directory)

/-- A place is below a directory, both as seen from one above them. -/
def IsBelow (place : List String) (directory : String) : Prop :=
  outputSteps directory <+: place ∧ outputSteps directory ≠ place

instance (place : List String) (directory : String) : Decidable (IsBelow place directory) :=
  inferInstanceAs (Decidable (_ ∧ _))

/-- At a place below the directory at `above` there is an emitted file: it is below one of the directories of the
output, and has one of the extensions of assets. -/
structure IsEmitted (root : Node) (above : List String) (directories : List String) (place : List String)
    (content : Content) : Prop where
  at?_eq : root.at? (above ++ place) = some (.file content)
  extension : ∃ name, place.getLast? = some name ∧ Path.HasExtensionIn assetExtensions name
  below : ∃ directory ∈ directories, IsBelow place directory

/-- The asset that a file at a place is. -/
def assetAt (file : List String × Content) : Asset :=
  ⟨Path.shown ("/".intercalate file.1), file.2.size⟩

/-- Whether the name of a place is that of an asset. -/
def isAssetName (place : List String) : Bool :=
  assetExtensions.contains (Path.nameExtension ((place.getLast?).getD ""))

/-- The files with the names of assets below a directory, at their places as seen from the one at `above`. -/
def filesBelow (root : Node) (above : List String) (directory : String) : List (List String × Content) :=
  match root.at? (above ++ outputSteps directory) with
  | some (.directory sub) =>
    (((Node.directory sub).walk (fun _ => false) []).filter fun file => isAssetName file.1).map fun file =>
      (outputSteps directory ++ file.1, file.2)
  | _ => []

/-! ### Below one directory -/

section Below

variable {t : Tree} {root directory : String} {above : List String} {entries : List (String × Node)}

theorem isAssetName_iff {place : List String} (hne : place ≠ []) : isAssetName place = true ↔
    ∃ name, place.getLast? = some name ∧ Path.HasExtensionIn assetExtensions name := by
  obtain ⟨name, hname⟩ : ∃ name, place.getLast? = some name := ⟨_, List.getLast?_eq_some_getLast hne⟩
  -- a name without extension is not that of an asset, since the empty text is none of the extensions
  have hwanted : Path.IsWanted assetExtensions name ↔ Path.HasExtensionIn assetExtensions name :=
    or_iff_left fun h => absurd h.1 (by decide)
  rw [isAssetName, hname, Option.getD_some, Path.contains_nameExtension_iff, hwanted]
  simp

/-- The assets below a directory are the files with the names of assets. -/
theorem below_eq_map (hnamed : t.root.IsNamed) (hroot : t.resolve root = .ok (above, .directory entries))
    (hplain : Path.IsPlain (Path.ofText directory)) :
    below t root directory = (filesBelow t.root above directory).map assetAt := by
  by_cases hsub : ∃ sub, t.root.at? (above ++ outputSteps directory) = some (.directory sub)
  · obtain ⟨sub, hat⟩ := hsub
    have hresolve := (Tree.resolve_join_eq_ok_iff hroot hplain).mpr ⟨rfl, hat⟩
    have hsub : (Node.directory sub).IsNamed := (hnamed.of_at? hat).1
    rw [below, hresolve, filesBelow, hat, List.map_map]
    refine List.map_congr_left ?_
    rintro ⟨place, content⟩ hfile
    obtain ⟨_, rfl, hat, -⟩ := (Node.mem_walk_iff hsub).mp (List.mem_filter.mp hfile).1
    exact congrArg (Asset.mk · content.size) <| congrArg Path.shown <|
      Path.relative_join (Tree.resolve_eq_ok_iff.mp hroot).1 hplain (hsub.of_at? hat).2
        (Node.ne_nil_of_at?_eq_file hat)
  · -- nothing is found below what is no directory
    rw [below, filesBelow]
    split
    case h_1 place sub hresolve =>
      obtain ⟨rfl, hat⟩ := (Tree.resolve_join_eq_ok_iff hroot hplain).mp hresolve
      exact absurd ⟨sub, hat⟩ hsub
    case h_2 =>
      split
      case h_1 sub hat => exact absurd ⟨sub, hat⟩ hsub
      case h_2 => rfl

theorem isEmitted_singleton_iff {place : List String} {content : Content} :
    IsEmitted t.root above [directory] place content ↔ ∃ sub rest,
      t.root.at? (above ++ outputSteps directory) = some (.directory sub) ∧
      (Node.directory sub).at? rest = some (.file content) ∧ isAssetName rest = true ∧
      place = outputSteps directory ++ rest := by
  constructor
  · intro h
    obtain ⟨_, hdirectory, ⟨rest, rfl⟩, hbelow⟩ := h.below
    obtain rfl := List.mem_singleton.mp hdirectory
    have hne : rest ≠ [] := by simpa using hbelow
    obtain ⟨sub, hsub, hat⟩ := Node.exists_directory_of_at?_append hne (List.append_assoc .. ▸ h.at?_eq)
    have hname := h.extension
    rw [List.getLast?_append_of_ne_nil _ hne] at hname
    exact ⟨sub, rest, hsub, hat, (isAssetName_iff hne).mpr hname, rfl⟩
  · rintro ⟨sub, rest, hsub, hat, hname, rfl⟩
    have hne : rest ≠ [] := Node.ne_nil_of_at?_eq_file hat
    refine ⟨?_, ?_, directory, List.mem_singleton_self _, List.prefix_append _ _, by simpa using hne⟩
    · rw [← List.append_assoc, Node.at?_append, hsub, Option.bind_some, hat]
    · rw [List.getLast?_append_of_ne_nil _ hne]
      exact (isAssetName_iff hne).mp hname

/-- The files that are found below a directory. -/
theorem mem_filesBelow_iff (hnamed : t.root.IsNamed) {place : List String} {content : Content} :
    (place, content) ∈ filesBelow t.root above directory ↔ IsEmitted t.root above [directory] place content := by
  rw [isEmitted_singleton_iff, filesBelow]
  split
  case h_1 sub hsub =>
    simp only [List.mem_map, List.mem_filter, Prod.exists, Prod.mk.injEq,
      Node.mem_walk_iff (hnamed.of_at? hsub).1, List.nil_append]
    constructor
    · rintro ⟨rest, _, ⟨⟨_, rfl, hat, -⟩, hname⟩, rfl, rfl⟩
      exact ⟨sub, rest, hsub, hat, hname, rfl⟩
    · rintro ⟨sub', rest, hsub', hat, hname, rfl⟩
      obtain rfl : sub = sub' := Node.directory.inj (Option.some.inj (hsub.symm.trans hsub'))
      exact ⟨rest, content, ⟨⟨rest, rfl, hat, fun _ _ => trivial⟩, hname⟩, rfl, rfl⟩
  case h_2 hsub =>
    refine iff_of_false List.not_mem_nil ?_
    rintro ⟨sub, _, hat, -⟩
    exact hsub sub hat

/-- Below one directory no file is found twice. -/
theorem nodup_filesBelow (hnamed : t.root.IsNamed) : (filesBelow t.root above directory).Nodup := by
  rw [filesBelow]
  split
  case h_1 sub hsub =>
    have hwalk : ((Node.directory sub).walk (fun _ => false) []).Nodup :=
      List.Nodup.of_map _ (Node.nodup_walk (hnamed.of_at? hsub).1)
    refine (hwalk.filter _).map fun a b heq => ?_
    rw [Prod.mk.injEq, List.append_cancel_left_eq] at heq
    exact Prod.ext heq.1 heq.2
  case h_2 => exact List.nodup_nil

end Below

/-! ### All directories together -/

theorem precedes_iff {a b : Asset} :
    precedes a b = true ↔ b.bytes < a.bytes ∨ a.bytes = b.bytes ∧ a.path ≤ b.path := by
  simp [precedes]

/-- Sorted assets come by size, the largest first, and those of one size by path. -/
theorem pairwise_mergeSort_precedes (assets : List Asset) :
    (assets.mergeSort precedes).Pairwise fun a b => b.bytes < a.bytes ∨ a.bytes = b.bytes ∧ a.path ≤ b.path := by
  refine (List.pairwise_mergeSort (fun a b c => ?_) (fun a b => ?_) assets).imp precedes_iff.mp
  · simp only [precedes_iff]
    rintro (hab | ⟨hab, hpath⟩) (hbc | ⟨hbc, hpath'⟩)
    · exact .inl (hbc.trans hab)
    · exact .inl (hbc ▸ hab)
    · exact .inl (hab ▸ hbc)
    · exact .inr ⟨hab.trans hbc, String.le_trans hpath hpath'⟩
  · rw [Bool.or_eq_true, precedes_iff, precedes_iff]
    rcases Nat.lt_trichotomy a.bytes b.bytes with hlt | heq | hlt
    · exact .inr (.inl hlt)
    · exact (String.le_total a.path b.path).imp (fun h => .inr ⟨heq, h⟩) fun h => .inr ⟨heq.symm, h⟩
    · exact .inl (.inl hlt)

section Collect

variable {t : Tree} {root : String} {above directories place : List String} {entries : List (String × Node)}
  {content : Content}

theorem isEmitted_iff_exists {node : Node} : IsEmitted node above directories place content ↔
    ∃ directory ∈ directories, IsEmitted node above [directory] place content := by
  constructor
  · intro h
    obtain ⟨directory, hdirectory, hbelow⟩ := h.below
    exact ⟨directory, hdirectory, { h with below := ⟨directory, List.mem_singleton_self _, hbelow⟩ }⟩
  · rintro ⟨directory, hdirectory, h⟩
    obtain ⟨_, hsingle, hbelow⟩ := h.below
    exact { h with below := ⟨directory, hdirectory, List.mem_singleton.mp hsingle ▸ hbelow⟩ }

theorem IsEmitted.singleton_iff {node : Node} (h : IsEmitted node above directories place content)
    {directory : String} : IsEmitted node above [directory] place content ↔ IsBelow place directory := by
  constructor
  · intro h
    obtain ⟨_, hsingle, hbelow⟩ := h.below
    exact List.mem_singleton.mp hsingle ▸ hbelow
  · intro hbelow
    exact { h with below := ⟨directory, List.mem_singleton_self _, hbelow⟩ }

/-- The files that are listed, in the order in which they are. -/
def collectFiles (root : Node) (above directories : List String) : List (List String × Content) :=
  (directories.flatMap (filesBelow root above)).mergeSort fun a b => precedes (assetAt a) (assetAt b)

theorem collect_eq_map (hnamed : t.root.IsNamed) (hroot : t.resolve root = .ok (above, .directory entries))
    (hplain : ∀ directory ∈ directories, Path.IsPlain (Path.ofText directory)) :
    collect t root directories = (collectFiles t.root above directories).map assetAt := by
  have hbelow : directories.flatMap (below t root) = (directories.flatMap (filesBelow t.root above)).map assetAt := by
    rw [List.map_flatMap]
    exact List.flatMap_congr fun directory hdirectory => below_eq_map hnamed hroot (hplain directory hdirectory)
  rw [collect, hbelow]
  refine (List.map_mergeSort (f := assetAt) fun a _ b _ => ?_).symm
  rfl

theorem mem_collectFiles_iff (hnamed : t.root.IsNamed) :
    (place, content) ∈ collectFiles t.root above directories ↔
      IsEmitted t.root above directories place content := by
  rw [collectFiles, List.mem_mergeSort, List.mem_flatMap, isEmitted_iff_exists]
  simp only [mem_filesBelow_iff hnamed]

/-- **How often a file is listed.** Once for each of the directories that it is below. -/
theorem count_collectFiles (hnamed : t.root.IsNamed) (h : IsEmitted t.root above directories place content) :
    (collectFiles t.root above directories).count (place, content) = directories.countP (IsBelow place ·) := by
  have hmem : ∀ directory, (place, content) ∈ filesBelow t.root above directory ↔ IsBelow place directory :=
    fun directory => (mem_filesBelow_iff hnamed).trans h.singleton_iff
  rw [collectFiles, (List.mergeSort_perm _ _).count_eq]
  clear h
  induction directories with
  | nil => rfl
  | cons directory rest ih =>
    rw [List.flatMap_cons, List.count_append, ih, List.countP_cons, Nat.add_comm,
      (nodup_filesBelow hnamed).count, if_congr (hmem directory) rfl rfl]
    simp only [decide_eq_true_eq]

theorem mem_collect_iff (hnamed : t.root.IsNamed) (hroot : t.resolve root = .ok (above, .directory entries))
    (hplain : ∀ directory ∈ directories, Path.IsPlain (Path.ofText directory)) {asset : Asset} :
    asset ∈ collect t root directories ↔
      ∃ place content, IsEmitted t.root above directories place content ∧ assetAt (place, content) = asset := by
  rw [collect_eq_map hnamed hroot hplain, List.mem_map]
  simp only [Prod.exists, mem_collectFiles_iff hnamed]

end Collect

/-- A place is below one of some directories, and no two of these are one below the other. -/
theorem countP_isBelow_eq_one {directories place : List String}
    (hapart : directories.Pairwise fun a b => ¬outputSteps a <+: outputSteps b ∧ ¬outputSteps b <+: outputSteps a)
    (h : ∃ directory ∈ directories, IsBelow place directory) : directories.countP (IsBelow place ·) = 1 := by
  have hpos : 0 < directories.countP (IsBelow place ·) := List.countP_pos_iff.mpr (by simpa using h)
  have hpairwise := hapart.filter (IsBelow place ·)
  rw [List.countP_eq_length_filter] at hpos ⊢
  match hfilter : directories.filter (IsBelow place ·) with
  | [] => simp [hfilter] at hpos
  | [_] => rfl
  | a :: b :: rest =>
    -- of two directories above one place, one is above the other
    have hbelow : ∀ d ∈ a :: b :: rest, IsBelow place d := fun d hd =>
      of_decide_eq_true (List.mem_filter.mp (hfilter.symm ▸ hd : d ∈ directories.filter (IsBelow place ·))).2
    rw [hfilter] at hpairwise
    obtain ⟨hab, hba⟩ := List.rel_of_pairwise_cons hpairwise List.mem_cons_self
    have ha := hbelow a List.mem_cons_self
    have hb := hbelow b (List.mem_cons_of_mem _ List.mem_cons_self)
    exact ((List.prefix_or_prefix_of_prefix ha.1 hb.1).elim hab hba).elim

/-- Some assets are a listing of the files emitted below some directories: each file is listed as many times as said,
and nothing else is. -/
def IsListed (assets : List Asset) (root : Node) (above directories : List String) (times : List String → Nat) : Prop :=
  ∃ files : List (List String × Content), assets = files.map assetAt ∧
    (∀ file ∈ files, IsEmitted root above directories file.1 file.2) ∧
    ∀ place content, IsEmitted root above directories place content → files.count (place, content) = times place

/-- What has been found out about the files emitted below some directories: each is listed as many times as said,
larger files before smaller ones and files of one size in the order of their paths, and the number of all bytes is
that of the listed files together. -/
structure Findings.IsTally (found : Findings) (root : Node) (above directories : List String)
    (times : List String → Nat) : Prop where
  listed : IsListed found.assets root above directories times
  ordered : found.assets.Pairwise fun a b => b.bytes < a.bytes ∨ a.bytes = b.bytes ∧ a.path ≤ b.path
  totalBytes_eq : found.totalBytes = (found.assets.map (·.bytes)).sum
  exists_largest : ∃ asset ∈ found.assets, found.largest? = some asset ∧
    ∀ other ∈ found.assets, other.bytes ≤ asset.bytes

/-- If each file is listed once at least, all are listed once exactly if there is no more in the listing than that. -/
theorem IsListed.one_iff {assets : List Asset} {root : Node} {above directories : List String}
    {times : List String → Nat} (h : IsListed assets root above directories times)
    (hpos : ∀ place content, IsEmitted root above directories place content → 0 < times place) :
    IsListed assets root above directories (fun _ => 1) ↔
      ∀ place content, IsEmitted root above directories place content → times place = 1 := by
  obtain ⟨files, hassets, hemitted, hcount⟩ := h
  constructor
  · rintro ⟨once, honce, honceEmitted, honceCount⟩ place content hplace
    -- a listing that has each file once is part of any other, and all of one that is as long
    have hsub : once.Subperm files := List.subperm_ext_iff.mpr fun file hfile => by
      rw [honceCount _ _ (honceEmitted file hfile), hcount _ _ (honceEmitted file hfile)]
      exact hpos _ _ (honceEmitted file hfile)
    have hlength : files.length = once.length := by
      simpa using congrArg List.length (hassets.symm.trans honce)
    rw [← hcount place content hplace, ← (hsub.perm_of_length_le hlength.le).count_eq,
      honceCount place content hplace]
  · intro hone
    exact ⟨files, hassets, hemitted, fun place content hplace =>
      (hcount place content hplace).trans (hone place content hplace)⟩

/-- Findings are a tally with each file once exactly if they list it so. -/
theorem Findings.IsTally.one_iff {found : Findings} {root : Node} {above directories : List String}
    {times : List String → Nat} (h : found.IsTally root above directories times)
    (hpos : ∀ place content, IsEmitted root above directories place content → 0 < times place) :
    found.IsTally root above directories (fun _ => 1) ↔
      ∀ place content, IsEmitted root above directories place content → times place = 1 :=
  ⟨fun hone => (h.listed.one_iff hpos).mp hone.listed, fun hone =>
    { h with listed := (h.listed.one_iff hpos).mpr hone }⟩

/-- What is emitted is below one of the directories at least. -/
theorem IsEmitted.countP_pos {root : Node} {above directories place : List String} {content : Content}
    (h : IsEmitted root above directories place content) : 0 < directories.countP (IsBelow place ·) :=
  List.countP_pos_iff.mpr (by simpa using h.below)

/-- What comes first in the order of a listing is largest. -/
theorem Findings.exists_largest_of_ordered {found : Findings} (hne : found.assets ≠ [])
    (h : found.assets.Pairwise fun a b => b.bytes < a.bytes ∨ a.bytes = b.bytes ∧ a.path ≤ b.path) :
    ∃ asset ∈ found.assets, found.largest? = some asset ∧ ∀ other ∈ found.assets, other.bytes ≤ asset.bytes := by
  obtain ⟨asset, rest, hassets⟩ := List.exists_cons_of_ne_nil hne
  rw [hassets, List.pairwise_cons] at h
  rw [Findings.largest?, hassets]
  refine ⟨asset, List.mem_cons_self, rfl, List.forall_mem_cons.mpr ⟨Nat.le_refl _, fun other hother => ?_⟩⟩
  rcases h.1 other hother with hlt | ⟨heq, -⟩
  · exact hlt.le
  · exact heq.ge

end Assets

open Assets

namespace Analyzer

variable {subject : Subject}

section Tally

variable {above : List String} {entries : List (String × Node)}

theorem isTally_of_analyze_eq_ok (hnamed : subject.tree.root.IsNamed)
    (hroot : subject.tree.resolve subject.metadata.root = .ok (above, .directory entries))
    (hplain : ∀ directory ∈ subject.config.bundle.outputDirs, Path.IsPlain (Path.ofText directory))
    {found : Assets.Findings} (h : Analyzer.bundleSize.analyze subject = .ok (.bundleSize found)) :
    found.IsTally subject.tree.root above subject.config.bundle.outputDirs fun place =>
      subject.config.bundle.outputDirs.countP (IsBelow place ·) := by
  obtain ⟨hne, rfl, -⟩ := analyze_bundleSize_eq_ok_iff.mp h
  have hordered := pairwise_mergeSort_precedes (subject.config.bundle.outputDirs.flatMap
    (below subject.tree subject.metadata.root))
  exact {
    listed := ⟨_, collect_eq_map hnamed hroot hplain, fun _ => (mem_collectFiles_iff hnamed).mp,
      fun _ _ => count_collectFiles hnamed⟩
    ordered := hordered
    totalBytes_eq := rfl
    exists_largest := Findings.exists_largest_of_ordered hne hordered }

/-- **How often assets are listed.** The analyzer has findings if there is an asset and the numbers fit a word. Then
each asset is listed as many times as there are directories above it, and no other file is. All assets are listed
once exactly if there is one directory above each. -/
theorem isTally_bundleSize (hnamed : subject.tree.root.IsNamed)
    (hroot : subject.tree.resolve subject.metadata.root = .ok (above, .directory entries))
    (hplain : ∀ directory ∈ subject.config.bundle.outputDirs, Path.IsPlain (Path.ofText directory)) :
    let root := subject.tree.root
    let directories := subject.config.bundle.outputDirs
    let assets := collect subject.tree subject.metadata.root directories
    ((∃ found, Analyzer.bundleSize.analyze subject = .ok (.bundleSize found)) ↔
        (∃ place content, IsEmitted root above directories place content) ∧
        (assets.map (·.bytes)).sum < Word.size ∧ subject.config.bundle.budgetKb * 1024 < Word.size) ∧
      ∀ found, Analyzer.bundleSize.analyze subject = .ok (.bundleSize found) →
        found.IsTally root above directories (fun place => directories.countP (IsBelow place ·)) ∧
        (found.IsTally root above directories (fun _ => 1) ↔
          ∀ place content, IsEmitted root above directories place content →
            directories.countP (IsBelow place ·) = 1) := by
  intro root directories assets
  refine ⟨?_, fun found hfound => ?_⟩
  · constructor
    · rintro ⟨found, hfound⟩
      obtain ⟨hne, -, hfits⟩ := analyze_bundleSize_eq_ok_iff.mp hfound
      obtain ⟨asset, hasset⟩ := List.exists_mem_of_ne_nil _ hne
      obtain ⟨place, content, h, -⟩ := (mem_collect_iff hnamed hroot hplain).mp hasset
      exact ⟨⟨place, content, h⟩, hfits⟩
    · rintro ⟨⟨place, content, h⟩, hfits⟩
      have hmem := (mem_collect_iff hnamed hroot hplain).mpr ⟨place, content, h, rfl⟩
      exact ⟨_, analyze_bundleSize_eq_ok_iff.mpr ⟨List.ne_nil_of_mem hmem, rfl, hfits⟩⟩
  · have h := isTally_of_analyze_eq_ok hnamed hroot hplain hfound
    exact ⟨h, h.one_iff fun _ _ => IsEmitted.countP_pos⟩

/-- Where no directory is above another one, or the same, each asset is listed once. -/
theorem isTally_one_of_pairwise_apart (hnamed : subject.tree.root.IsNamed)
    (hroot : subject.tree.resolve subject.metadata.root = .ok (above, .directory entries))
    (hplain : ∀ directory ∈ subject.config.bundle.outputDirs, Path.IsPlain (Path.ofText directory))
    (hapart : subject.config.bundle.outputDirs.Pairwise fun a b =>
      ¬outputSteps a <+: outputSteps b ∧ ¬outputSteps b <+: outputSteps a)
    {found : Assets.Findings} (h : Analyzer.bundleSize.analyze subject = .ok (.bundleSize found)) :
    found.IsTally subject.tree.root above subject.config.bundle.outputDirs fun _ => 1 := by
  refine ((isTally_of_analyze_eq_ok hnamed hroot hplain h).one_iff fun _ _ => IsEmitted.countP_pos).mpr ?_
  exact fun place content hplace => countP_isBelow_eq_one hapart hplace.below

/-- The directories that are looked through by default are apart. -/
example : ({} : Config Float).bundle.outputDirs.Pairwise fun a b =>
    ¬outputSteps a <+: outputSteps b ∧ ¬outputSteps b <+: outputSteps a := by
  simp only [outputSteps, Path.steps_eq]
  decide +kernel

end Tally

/-- An application with an asset that is below two directories of its output. -/
def nestedSubject : Subject :=
  let dist : Node := .directory [("a", .directory [("x.js", .file (.text "1"))])]
  { smallSubject { excludePaths := [], bundle := ⟨["dist", "dist/a"], 500⟩ } with
    tree := ⟨.directory [("site", .directory [("dist", dist)])], "/"⟩ }

theorem isNamed_nestedSubject : nestedSubject.tree.root.IsNamed := by
  have hassets : (Node.directory [("a", .directory [("x.js", .file (.text "1"))])]).IsNamed :=
    .singleton (by decide +kernel) (.singleton (by decide +kernel) (.file _))
  exact .singleton (by decide +kernel) (.singleton (by decide +kernel) hassets)

theorem resolve_nestedSubject : ∃ entries,
    nestedSubject.tree.resolve nestedSubject.metadata.root = .ok (["site"], .directory entries) := by
  refine ⟨_, Tree.resolve_eq_ok_iff.mpr ⟨by decide, ?_, rfl⟩⟩
  simp only [Tree.placeOf, Tree.startOf, nestedSubject, smallSubject, Path.steps_eq]
  decide +kernel

theorem isPlain_nestedSubject :
    ∀ directory ∈ nestedSubject.config.bundle.outputDirs, Path.IsPlain (Path.ofText directory) := by
  simp only [Path.IsPlain, Path.steps_eq]
  decide +kernel

/-- The asset is found below each of the directories. -/
theorem collect_nestedSubject :
    collect nestedSubject.tree nestedSubject.metadata.root nestedSubject.config.bundle.outputDirs =
      [⟨"dist/a/x.js", 1⟩, ⟨"dist/a/x.js", 1⟩] := by
  have hbelow : ∀ directory ∈ nestedSubject.config.bundle.outputDirs,
      below nestedSubject.tree nestedSubject.metadata.root directory = [⟨"dist/a/x.js", 1⟩] := by
    simp only [nestedSubject, List.forall_mem_cons, Assets.below, Path.relative, Path.components, smallSubject,
      Tree.resolve, Tree.follow, Path.steps_eq]
    decide +kernel
  rw [collect, List.flatMap_congr hbelow]
  exact List.mergeSort_of_pairwise (by decide +kernel)

theorem isEmitted_nestedSubject : IsEmitted nestedSubject.tree.root ["site"]
    nestedSubject.config.bundle.outputDirs ["dist", "a", "x.js"] (.text "1") where
  at?_eq := rfl
  extension := by
    refine ⟨"x.js", rfl, "js", by decide, Path.bytes "x", ?_⟩
    simp only [Text.encode_eq]
    decide +kernel
  below := ⟨"dist", by decide, by simp only [IsBelow, outputSteps, Path.steps_eq]; decide +kernel⟩

theorem analyze_nestedSubject : Analyzer.bundleSize.analyze nestedSubject =
    .ok (.bundleSize ⟨[⟨"dist/a/x.js", 1⟩, ⟨"dist/a/x.js", 1⟩], 2, 500 * 1024⟩) := by
  refine analyze_bundleSize_eq_ok_iff.mpr ?_
  rw [collect_nestedSubject]
  exact ⟨List.cons_ne_nil _ _, rfl, by decide +kernel, by decide +kernel⟩

/-- The asset is below two of the directories, and is listed twice. -/
theorem count_nestedSubject : nestedSubject.tree.root.IsNamed ∧
    (∃ entries, nestedSubject.tree.resolve nestedSubject.metadata.root = .ok (["site"], .directory entries)) ∧
    (∀ directory ∈ nestedSubject.config.bundle.outputDirs, Path.IsPlain (Path.ofText directory)) ∧
    ∃ found, Analyzer.bundleSize.analyze nestedSubject = .ok (.bundleSize found) ∧
      found.assets.count ⟨"dist/a/x.js", 1⟩ = 2 ∧
      ∃ files : List (List String × Content), found.assets = files.map assetAt ∧
        files.count (["dist", "a", "x.js"], .text "1") = 2 := by
  obtain ⟨entries, hroot⟩ := resolve_nestedSubject
  obtain ⟨hexists, htally⟩ := isTally_bundleSize isNamed_nestedSubject hroot isPlain_nestedSubject
  obtain ⟨found, hfound⟩ := hexists.mpr ⟨⟨_, _, isEmitted_nestedSubject⟩, by
    rw [collect_nestedSubject]
    decide +kernel⟩
  have htwice : nestedSubject.config.bundle.outputDirs.countP (IsBelow ["dist", "a", "x.js"] ·) = 2 := by
    simp only [IsBelow, outputSteps, Path.steps_eq]
    decide +kernel
  obtain ⟨files, hassets, -, hcount⟩ := (htally found hfound).1.listed
  have hlisted : found.assets = [⟨"dist/a/x.js", 1⟩, ⟨"dist/a/x.js", 1⟩] := by
    rw [analyze_nestedSubject, Except.ok.injEq, Findings.bundleSize.injEq] at hfound
    rw [← hfound]
  exact ⟨isNamed_nestedSubject, ⟨entries, hroot⟩, isPlain_nestedSubject, found, hfound,
    by rw [hlisted]; decide, files, hassets, (hcount _ _ isEmitted_nestedSubject).trans htwice⟩

/-- So the listing does not have each asset once, and its byte is counted twice. -/
theorem not_isTally_nestedSubject : nestedSubject.tree.root.IsNamed ∧
    (∃ entries, nestedSubject.tree.resolve nestedSubject.metadata.root = .ok (["site"], .directory entries)) ∧
    (∀ directory ∈ nestedSubject.config.bundle.outputDirs, Path.IsPlain (Path.ofText directory)) ∧
    ∃ found, Analyzer.bundleSize.analyze nestedSubject = .ok (.bundleSize found) ∧
      found.assets = [⟨"dist/a/x.js", 1⟩, ⟨"dist/a/x.js", 1⟩] ∧ found.totalBytes = 2 ∧
      ¬found.IsTally nestedSubject.tree.root ["site"] nestedSubject.config.bundle.outputDirs fun _ => 1 := by
  obtain ⟨entries, hroot⟩ := resolve_nestedSubject
  refine ⟨isNamed_nestedSubject, ⟨entries, hroot⟩, isPlain_nestedSubject, _, analyze_nestedSubject, rfl, rfl,
    fun h => ?_⟩
  have htally := isTally_of_analyze_eq_ok isNamed_nestedSubject hroot isPlain_nestedSubject analyze_nestedSubject
  have hone := (htally.one_iff fun _ _ => IsEmitted.countP_pos).mp h _ _ isEmitted_nestedSubject
  simp only [IsBelow, outputSteps, Path.steps_eq] at hone
  exact absurd hone (by decide +kernel)

end Analyzer

end Checkup
