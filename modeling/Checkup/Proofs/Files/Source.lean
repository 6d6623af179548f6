import Checkup.Files.Source
import Checkup.Proofs.Entries
import Checkup.Proofs.Files.Path
import Checkup.Proofs.Files.Tree
import Mathlib.Data.List.Nodup
import Mathlib.Data.List.Pairwise

/-!
# The source files of a directory

In a file tree as systems have them, a directory has each name once, in ascending order of the bytes, and a name is
a step of a path (`Node.IsNamed`). So no two nodes are at one place, and no two places have one path.

* **Walking** — a walk meets the files below a directory, each at its place, but for those on whose way a directory
  is left out by its name (`Node.mem_walk_iff`). It meets none twice (`Node.nodup_walk`).
* **Source files** — those are the files of the walk that have a wanted extension and are not excluded
  (`mem_sources_iff`), and no two of them are at one place (`nodup_place_sources`). The paths that they are shown
  under differ too if their names are texts (`nodup_path_sources`).
-/

namespace Checkup.Files

namespace Path

/-- A name that can be a step of a path to an entry. -/
def IsName (name : String) : Prop :=
  name ≠ "" ∧ name ≠ "." ∧ name ≠ ".." ∧ slash ∉ bytes name

instance (name : String) : Decidable (IsName name) :=
  inferInstanceAs (Decidable (_ ∧ _))

theorem IsName.slash_notMem {name : String} (h : IsName name) : '/' ∉ name.toList :=
  slash_notMem_toList h.2.2.2

/-- Names are the steps of the path that they make. -/
theorem steps_intercalate_of_isName {names : List String} (h : ∀ name ∈ names, IsName name) (hne : names ≠ []) :
    steps ("/".intercalate names) = names :=
  steps_intercalate (fun name hname => (h name hname).slash_notMem) hne

end Path

namespace Node

/-- In each directory the entries have names, which differ and ascend. -/
inductive IsNamed : Node → Prop
  | file (content : Content) : IsNamed (file content)
  | directory {entries : List (String × Node)}
    (ascending : entries.Pairwise fun a b => Path.bytes a.1 < Path.bytes b.1)
    (names : ∀ e ∈ entries, Path.IsName e.1) (children : ∀ e ∈ entries, IsNamed e.2) :
    IsNamed (directory entries)
  | sealed (cause : FileError) : IsNamed (sealed cause)

/-- A directory with one entry. -/
theorem IsNamed.singleton {name : String} {node : Node} (hname : Path.IsName name) (hnode : node.IsNamed) :
    (Node.directory [(name, node)]).IsNamed :=
  .directory (List.pairwise_singleton _ _) (List.forall_mem_singleton.mpr hname) (List.forall_mem_singleton.mpr hnode)

theorem lookup_eq_some_iff {entries : List (String × Node)}
    (h : entries.Pairwise fun a b => Path.bytes a.1 < Path.bytes b.1) {name : String} {node : Node} :
    entries.lookup name = some node ↔ (name, node) ∈ entries :=
  Entries.lookup_eq_some_iff (List.pairwise_map.mpr (h.imp Path.ne_of_bytes_lt))

/-! ### Walking -/

section Walk

variable {prune : String → Bool} {node : Node} {place : List String}

theorem walkEntries_eq_flatMap (entries : List (String × Node)) :
    walkEntries prune place entries = entries.flatMap fun e =>
      if e.2.isDirectory && prune e.1 then [] else walk prune (place ++ [e.1]) e.2 := by
  induction entries with
  | nil => rfl
  | cons e rest ih => rw [walkEntries, ih, List.flatMap_cons]

/-- The directories on the way to a file below an entry are the entry, if it is one, and those after it. -/
theorem forall_mem_dropLast_cons_iff {name : String} {below : List String} {child : Node} {content : Content}
    (h : child.at? below = some (file content)) :
    (∀ step ∈ (name :: below).dropLast, prune step = false) ↔
      ¬(child.isDirectory && prune name) = true ∧ ∀ step ∈ below.dropLast, prune step = false := by
  cases below with
  | nil =>
    obtain rfl : child = file content := by simpa using h
    simp [isDirectory]
  | cons step below =>
    cases child with
    | file | sealed => contradiction
    | directory => simp [isDirectory]

/-- **What a walk meets.** A walk from a place meets the files below a node, each at its place, but for those on
whose way there is a directory with a name that is left out. -/
theorem mem_walk_iff (h : node.IsNamed) {other : List String} {content : Content} :
    (other, content) ∈ walk prune place node ↔ ∃ below, other = place ++ below ∧
      node.at? below = some (file content) ∧ ∀ step ∈ below.dropLast, prune step = false := by
  induction h generalizing place with
  | file content' =>
    rw [walk, List.mem_singleton, Prod.mk.injEq]
    constructor
    · rintro ⟨rfl, rfl⟩
      exact ⟨[], by simp⟩
    · rintro ⟨below, rfl, hat, -⟩
      cases below with
      | nil => simpa [eq_comm] using hat
      | cons => contradiction
  | @directory entries ascending names children ih =>
    rw [walk, walkEntries_eq_flatMap, List.mem_flatMap]
    constructor
    · rintro ⟨e, he, hmem⟩
      split_ifs at hmem with hpruned
      · contradiction
      · obtain ⟨below, hplace, hat, hentered⟩ := (ih e he).mp hmem
        refine ⟨e.1 :: below, by rw [hplace, List.append_assoc, List.singleton_append], ?_,
          (forall_mem_dropLast_cons_iff hat).mpr ⟨hpruned, hentered⟩⟩
        rw [at?_cons_directory, (lookup_eq_some_iff ascending).mpr he, Option.bind_some, hat]
    · rintro ⟨below, hplace, hat, hentered⟩
      cases below with
      | nil => simp at hat
      | cons name below =>
        obtain ⟨child, hchild, hat⟩ := Option.bind_eq_some_iff.mp hat
        obtain ⟨hpruned, hentered⟩ := (forall_mem_dropLast_cons_iff hat).mp hentered
        have he := (lookup_eq_some_iff ascending).mp hchild
        refine ⟨_, he, ?_⟩
        rw [if_neg hpruned, ih _ he]
        exact ⟨below, by rw [hplace, List.append_assoc, List.singleton_append], hat, hentered⟩
  | sealed cause =>
    refine iff_of_false List.not_mem_nil ?_
    rintro ⟨below, -, hat, -⟩
    cases below <;> simp at hat

/-- No place is met twice, not even by its bytes. -/
theorem nodup_walk (h : node.IsNamed) : ((walk prune place node).map fun file => file.1.map Path.bytes).Nodup := by
  induction h generalizing place with
  | file => simp [walk]
  | sealed => exact List.nodup_nil
  | @directory entries ascending names children ih =>
    rw [walk, walkEntries_eq_flatMap, List.map_flatMap, List.nodup_flatMap]
    constructor
    · intro e he
      split_ifs
      · exact List.nodup_nil
      · exact ih e he
    · refine ascending.imp_of_mem fun {e d} he hd hlt => List.disjoint_left.mpr ?_
      -- all that is met below an entry has the name of the entry next
      have hnext : ∀ e ∈ entries, ∀ other ∈ List.map (fun file => file.1.map Path.bytes)
          (if e.2.isDirectory && prune e.1 then [] else walk prune (place ++ [e.1]) e.2),
          other[place.length]? = some (Path.bytes e.1) := by
        intro e he other hother
        obtain ⟨f, hf, rfl⟩ := List.mem_map.mp hother
        split_ifs at hf
        · contradiction
        · obtain ⟨below, hplace, -⟩ := (mem_walk_iff (children e he)).mp hf
          simp [hplace]
      intro other hother hother'
      have heq := (hnext e he other hother).symm.trans (hnext d hd other hother')
      exact List.lt_irrefl _ (Option.some.inj heq ▸ hlt)

end Walk

/-! ### Names on the way to a node -/

section Named

variable {node child : Node} {place : List String}

theorem IsNamed.of_at? (h : node.IsNamed) (hat : node.at? place = some child) :
    child.IsNamed ∧ ∀ name ∈ place, Path.IsName name := by
  induction place generalizing node with
  | nil =>
    obtain rfl : node = child := by simpa using hat
    exact ⟨h, nofun⟩
  | cons name place ih =>
    cases h with
    | file | sealed => contradiction
    | @directory entries ascending names children =>
      obtain ⟨next, hnext, hat⟩ := Option.bind_eq_some_iff.mp hat
      have hmem := (lookup_eq_some_iff ascending).mp hnext
      obtain ⟨hchild, hplace⟩ := ih (children _ hmem) hat
      exact ⟨hchild, List.forall_mem_cons.mpr ⟨names _ hmem, hplace⟩⟩

end Named

end Node

/-! ### Source files -/

section Sources

variable {excluded : Glob.Exclusion} {extensions : List String} {directory : Node}

theorem mem_sources_iff (h : directory.IsNamed) {source : Source} :
    source ∈ sources excluded extensions directory ↔
      (directory.at? source.place = some (.file source.content) ∧
        ∀ step ∈ source.place.dropLast, isForeign step = false) ∧
      extensions.contains source.extension ∧ !excluded.excludes ("/".intercalate source.place) := by
  simp only [sources, List.mem_map, List.mem_mergeSort, List.mem_filter, Prod.exists,
    Node.mem_walk_iff h, List.nil_append, Bool.and_eq_true, Source.extension]
  constructor
  · rintro ⟨place, content, ⟨⟨below, rfl, hat, hentered⟩, hwanted⟩, rfl⟩
    exact ⟨⟨hat, hentered⟩, hwanted⟩
  · rintro ⟨⟨hat, hentered⟩, hwanted⟩
    exact ⟨source.place, source.content, ⟨⟨source.place, rfl, hat, hentered⟩, hwanted⟩, rfl⟩

/-- No two source files are at one place, not even by its bytes. -/
theorem nodup_place_sources (h : directory.IsNamed) :
    ((sources excluded extensions directory).map fun source => source.place.map Path.bytes).Nodup := by
  have hwalk : ((directory.walk isForeign []).map fun file => file.1.map Path.bytes).Nodup := Node.nodup_walk h
  rw [sources, List.map_map]
  exact ((List.mergeSort_perm _ _).map _).nodup_iff.mpr (hwalk.sublist (List.filter_sublist.map _))

/-! ### Paths of source files -/

/-- The names on the way to a source file are texts. -/
def Source.IsText (source : Source) : Prop :=
  ∀ name ∈ source.place, Path.mark ∉ name.toList

instance (source : Source) : Decidable source.IsText :=
  inferInstanceAs (Decidable (∀ name ∈ _, _))

theorem Path.mark_notMem_intercalate {names : List String} (h : ∀ name ∈ names, mark ∉ name.toList) :
    mark ∉ ("/".intercalate names).toList := by
  rw [String.toList_intercalate]
  induction names with
  | nil => exact List.not_mem_nil
  | cons first rest ih =>
    obtain ⟨hfirst, hrest⟩ := List.forall_mem_cons.mp h
    cases rest with
    | nil => simpa using hfirst
    | cons second rest =>
      rw [List.map_cons, List.map_cons, List.intercalate_cons_cons, List.mem_append, List.mem_append]
      rintro ((hmem | hmem) | hmem)
      · exact hfirst hmem
      · exact absurd hmem (by decide)
      · exact ih hrest hmem

/-- Where the names are texts, the path is shown as it is. -/
theorem Source.path_eq_of_isText {source : Source} (h : source.IsText) :
    source.path = "/".intercalate source.place :=
  Path.shown_eq_self (Path.mark_notMem_intercalate h)

/-- Two files below a directory have one path only if they are at one place. -/
theorem eq_of_intercalate_eq (h : directory.IsNamed) {place other : List String} {content content' : Content}
    (hplace : directory.at? place = some (.file content)) (hother : directory.at? other = some (.file content'))
    (heq : "/".intercalate place = "/".intercalate other) : place = other := by
  have hne : ∀ {place content}, directory.isDirectory = true → directory.at? place = some (.file content) →
      place ≠ [] := by
    rintro place content hdirectory hat rfl
    rw [Node.at?_nil] at hat
    rw [Option.some.inj hat] at hdirectory
    contradiction
  cases hdirectory : directory.isDirectory with
  | true =>
    rw [← Path.steps_intercalate_of_isName (h.of_at? hplace).2 (hne hdirectory hplace), heq,
      Path.steps_intercalate_of_isName (h.of_at? hother).2 (hne hdirectory hother)]
  | false =>
    -- below a file there is only the file itself
    cases directory with
    | directory | sealed => contradiction
    | file =>
      cases place with
      | cons => contradiction
      | nil =>
        cases other with
        | cons => contradiction
        | nil => rfl

/-- No two source files are shown under one path if the names on the way to them are texts. -/
theorem nodup_path_sources (h : directory.IsNamed)
    (htext : ∀ source ∈ sources excluded extensions directory, source.IsText) :
    ((sources excluded extensions directory).map (·.path)).Nodup := by
  refine (List.Nodup.of_map _ (nodup_place_sources h)).map_on fun source hsource other hother heq => ?_
  rw [source.path_eq_of_isText (htext source hsource), other.path_eq_of_isText (htext other hother)] at heq
  have hat := ((mem_sources_iff h).mp hsource).1.1
  have hat' := ((mem_sources_iff h).mp hother).1.1
  have hplace := eq_of_intercalate_eq h hat hat' heq
  rw [hplace, hat', Option.some.injEq, Node.file.injEq] at hat
  exact Source.ext hplace hat.symm

end Sources

/-! ### Directories that paths lead to -/

/-- What a path leads to is named if the tree is. -/
theorem Tree.isNamed_of_resolve_eq_ok {t : Tree} (h : t.root.IsNamed) {path : String} {place : List String}
    {node : Node} (hresolve : t.resolve path = .ok (place, node)) : node.IsNamed :=
  (h.of_at? (resolve_eq_ok_iff.mp hresolve).2.2).1

end Checkup.Files
