import Checkup.Proofs.Files.Source
import Checkup.Proofs.Workspace.Scan
import Checkup.Workspace.Discover
import Mathlib.Data.List.Induction

/-!
# Names of projects

A project is named as its directory is shown, with its group in front if that name is taken. The qualified name is
not looked up again, so it can be taken as well. This module says which names discovery gives and when they differ.

Discovery goes through the sites of a workspace, the directories of all groups in order (`sites`). The names are
given from the first site to the last, and what is said about them goes by induction on the sites before.

* **Which names there are.** The name of a directory is given once there is a site of this name
  (`directory_mem_names_iff`). It is given with a group in front once there is a site of this name in the group behind
  the first site of the name (`qualified_mem_names_iff`). No directory is shown with a slash in its name, so the two
  kinds of names are apart, and a qualified name tells its group.
* **When they differ.** So the names differ exactly if, of the groups of the sites of a name, none comes twice after
  the first (`nodup_names_iff`). What comes twice are groups that the layout lists twice (`groupsOf_sites`), and
  groups with directories that are shown alike, which there are only if names are no texts
  (`nodup_map_name_discover_of_nodup_groups`).
* **What a name is good for.** Where names differ, a project is selected by its name (`select_name`), and a scan
  keeps every project that it finishes (`Scanner.projects_outcome_after_perm`).
-/

namespace Checkup.Workspace

/-! ### Sites -/

/-- A directory of a group, with the kind of its project. -/
structure Site where
  group : String
  kind : ProjectKind
  directory : String
  deriving DecidableEq, Repr

/-- The directories of a group's projects; none if they cannot be read. -/
def directoriesOf (tree : Files.Tree) (root group : String) : List String :=
  (groupDirectories tree root group).toOption.getD []

/-- The directories of all groups, in the order in which they are discovered. -/
def sites (tree : Files.Tree) (root : String) (layout : Layout) : List Site :=
  (groups layout).flatMap fun (group, kind) => (directoriesOf tree root group).map (⟨group, kind, ·⟩)

/-- The projects at some sites. -/
def projectsAt (root : String) (visited : List Site) : List Project :=
  visited.foldl (fun projects site => addProject root site.group site.kind projects site.directory) []

/-- The names of the projects at some sites. -/
def names (root : String) (visited : List Site) : List String :=
  (projectsAt root visited).map (·.name)

/-- The name of a site's directory as it is shown. -/
def Site.name (site : Site) : String :=
  Files.Path.shown site.directory

/-- The groups of the sites of a name. -/
def groupsOf (visited : List Site) (name : String) : List String :=
  (visited.filter (·.name = name)).map (·.group)

section Names

variable {root : String} {visited : List Site} {site : Site} {group directory : String}

theorem names_append_singleton (root : String) (visited : List Site) (site : Site) :
    names root (visited ++ [site]) =
      names root visited ++ [projectName (names root visited) site.group site.name] := by
  rw [names, projectsAt, List.foldl_append]
  exact List.map_append

theorem groupsOf_append (visited others : List Site) (directory : String) :
    groupsOf (visited ++ others) directory = groupsOf visited directory ++ groupsOf others directory := by
  simp only [groupsOf, List.filter_append, List.map_append]

theorem groupsOf_singleton_self (site : Site) : groupsOf [site] site.name = [site.group] := by
  simp [groupsOf]

theorem groupsOf_singleton_of_ne (h : site.name ≠ directory) : groupsOf [site] directory = [] := by
  simp [groupsOf, h]

theorem toList_qualified (group directory : String) :
    (s!"{group}/{directory}").toList = group.toList ++ '/' :: directory.toList := by
  change (group ++ "/" ++ directory).toList = _
  simp only [String.toList_append, List.append_assoc]
  rfl

/-- A qualified name has a slash in it. -/
theorem qualified_ne (hslash : '/' ∉ directory.toList) (group other : String) :
    s!"{group}/{other}" ≠ directory := by
  rintro rfl
  rw [toList_qualified] at hslash
  exact hslash (List.mem_append_right _ List.mem_cons_self)

/-- The last slash of a qualified name is the one behind its group. -/
theorem qualified_inj {other otherDirectory : String} (hslash : '/' ∉ directory.toList)
    (hother : '/' ∉ otherDirectory.toList) :
    s!"{group}/{directory}" = s!"{other}/{otherDirectory}" ↔ group = other ∧ directory = otherDirectory := by
  rw [← String.toList_inj, toList_qualified, toList_qualified]
  constructor
  · intro h
    rcases List.append_eq_append_iff.mp h with ⟨between, hgroup, hrest⟩ | ⟨between, hgroup, hrest⟩
    all_goals
      cases between with
      | nil =>
        rw [List.append_nil] at hgroup
        rw [List.nil_append, List.cons.injEq] at hrest
        exact ⟨String.toList_inj.mp (by rw [hgroup]), String.toList_inj.mp (by rw [hrest.2])⟩
      | cons c between =>
        rw [List.cons_append, List.cons.injEq] at hrest
        simp [hrest.2] at hslash hother
  · rintro ⟨rfl, rfl⟩
    rfl

/-! ### Which names there are -/

theorem directory_mem_names_iff (hslash : '/' ∉ directory.toList) :
    directory ∈ names root visited ↔ groupsOf visited directory ≠ [] := by
  induction visited using List.reverseRecOn with
  | nil => simp [names, projectsAt, groupsOf]
  | append_singleton visited site ih =>
    rw [names_append_singleton, List.mem_append, List.mem_singleton, ih, groupsOf_append, projectName]
    by_cases hsame : site.name = directory
    · subst hsame
      rw [groupsOf_singleton_self]
      split_ifs with htaken
      · rw [List.contains_iff_mem, ih] at htaken
        simp [htaken]
      · simp
    · have hne : directory ≠ s!"{site.group}/{site.name}" := (qualified_ne hslash _ _).symm
      rw [groupsOf_singleton_of_ne hsame, List.append_nil]
      split_ifs
      · simp [hne]
      · simp [Ne.symm hsame]

theorem qualified_mem_names_iff (hvisited : ∀ site ∈ visited, '/' ∉ site.name.toList)
    (hslash : '/' ∉ directory.toList) :
    s!"{group}/{directory}" ∈ names root visited ↔ group ∈ (groupsOf visited directory).tail := by
  induction visited using List.reverseRecOn with
  | nil => simp [names, projectsAt, groupsOf]
  | append_singleton visited site ih =>
    obtain ⟨hvisited, hsite⟩ := List.forall_mem_append.mp hvisited
    have hsite : '/' ∉ site.name.toList := hsite site List.mem_cons_self
    have ih := ih hvisited
    have htaken : site.name ∈ names root visited ↔ groupsOf visited site.name ≠ [] :=
      directory_mem_names_iff hsite
    rw [names_append_singleton, List.mem_append, List.mem_singleton, ih, groupsOf_append, projectName]
    by_cases hsame : site.name = directory
    · subst hsame
      rw [groupsOf_singleton_self]
      split_ifs with hmem
      · rw [List.contains_iff_mem, htaken] at hmem
        rw [qualified_inj hslash hslash, List.tail_append_of_ne_nil hmem, List.mem_append,
          List.mem_singleton, and_iff_left rfl]
      · rw [List.contains_iff_mem, htaken, not_not] at hmem
        simp [hmem, qualified_ne hslash]
    · have hne : s!"{group}/{directory}" ≠ s!"{site.group}/{site.name}" := by
        rw [Ne, qualified_inj hslash hsite]
        exact fun h => hsame h.2.symm
      rw [groupsOf_singleton_of_ne hsame, List.append_nil]
      split_ifs
      · simp [hne]
      · simp [qualified_ne hsite]

/-! ### When names differ -/

/-- The name of one more site is taken if its directory has, behind its first site, one in a group of this name. -/
theorem projectName_mem_names_iff (root : String) (hvisited : ∀ site ∈ visited, '/' ∉ site.name.toList)
    (hsite : '/' ∉ site.name.toList) :
    projectName (names root visited) site.group site.name ∈ names root visited ↔
      site.group ∈ (groupsOf visited site.name).tail := by
  rw [projectName]
  split_ifs with hmem
  · exact qualified_mem_names_iff hvisited hsite
  · have hfree : site.name ∉ names root visited := fun h => hmem (List.contains_iff_mem.mpr h)
    have hnone : groupsOf visited site.name = [] := by
      rw [directory_mem_names_iff hsite, not_not] at hfree
      exact hfree
    simp [hnone, hfree]

/-- One more site of a directory is a group more behind the first, if there is one. -/
theorem nodup_tail_groupsOf_append_iff : (groupsOf (visited ++ [site]) directory).tail.Nodup ↔
    (groupsOf visited directory).tail.Nodup ∧
      (site.name = directory → site.group ∉ (groupsOf visited directory).tail) := by
  rw [groupsOf_append]
  by_cases hsame : site.name = directory
  · subst hsame
    rw [groupsOf_singleton_self]
    by_cases hnone : groupsOf visited site.name = []
    · simp [hnone]
    · rw [List.tail_append_of_ne_nil hnone, List.nodup_append_comm, List.singleton_append, List.nodup_cons]
      simp [and_comm]
  · simp [groupsOf_singleton_of_ne hsame, hsame]

theorem nodup_names_iff (root : String) (hvisited : ∀ site ∈ visited, '/' ∉ site.name.toList) :
    (names root visited).Nodup ↔ ∀ directory, (groupsOf visited directory).tail.Nodup := by
  induction visited using List.reverseRecOn with
  | nil => simp [names, projectsAt, groupsOf]
  | append_singleton visited site ih =>
    obtain ⟨hvisited, hsite⟩ := List.forall_mem_append.mp hvisited
    have hfresh := projectName_mem_names_iff root hvisited (hsite site List.mem_cons_self)
    rw [names_append_singleton, List.nodup_append_comm, List.singleton_append, List.nodup_cons, hfresh, ih hvisited]
    simp only [nodup_tail_groupsOf_append_iff, forall_and, forall_eq', and_comm]

end Names

/-! ### Sites of a tree -/

section Tree

variable {tree : Files.Tree} {root group : String} {layout : Layout} {projects : List Project}

theorem resolve_of_entries_eq_ok {path : String} {entries : List (String × Files.Node)}
    (h : tree.entries path = .ok entries) : ∃ place, tree.resolve path = .ok (place, .directory entries) := by
  rw [Files.Tree.entries] at h
  cases hresolve : tree.resolve path with
  | error cause =>
    rw [hresolve] at h
    contradiction
  | ok found =>
    rw [hresolve] at h
    obtain ⟨place, _ | _ | _⟩ := found
    · contradiction
    · obtain rfl := Except.ok.inj h
      exact ⟨place, rfl⟩
    · contradiction

/-- In a tree as systems have them, the directories in a directory come by their names, which differ. -/
theorem pairwise_childDirectories (htree : tree.root.IsNamed) {path : String} {directories : List String}
    (h : childDirectories tree path = .ok directories) :
    directories.Pairwise (fun a b => Files.Path.bytes a < Files.Path.bytes b) ∧
      ∀ directory ∈ directories, Files.Path.IsName directory := by
  rw [childDirectories] at h
  cases hentries : tree.entries path with
  | error cause =>
    rw [hentries] at h
    contradiction
  | ok entries =>
    rw [hentries] at h
    obtain rfl := Except.ok.inj h
    obtain ⟨place, hresolve⟩ := resolve_of_entries_eq_ok hentries
    cases Files.Tree.isNamed_of_resolve_eq_ok htree hresolve with
    | directory ascending names children =>
      constructor
      · rw [List.pairwise_map]
        exact ascending.filter _
      · intro directory hdirectory
        obtain ⟨e, he, rfl⟩ := List.mem_map.mp hdirectory
        exact names e (List.mem_of_mem_filter he)

theorem pairwise_directoriesOf (htree : tree.root.IsNamed) (root group : String) :
    (directoriesOf tree root group).Pairwise (fun a b => Files.Path.bytes a < Files.Path.bytes b) ∧
      ∀ directory ∈ directoriesOf tree root group, Files.Path.IsName directory := by
  cases h : groupDirectories tree root group with
  | error cause => simp [directoriesOf, h, Except.toOption]
  | ok directories =>
    rw [directoriesOf, h]
    rw [groupDirectories] at h
    split_ifs at h with hgroup
    · exact pairwise_childDirectories htree h
    · obtain rfl := Except.ok.inj h
      simp [Except.toOption]

theorem slash_notMem_sites (htree : tree.root.IsNamed) (root : String) (layout : Layout) :
    ∀ site ∈ sites tree root layout, '/' ∉ site.name.toList := by
  intro site hsite
  obtain ⟨⟨group, kind⟩, -, hmem⟩ := List.mem_flatMap.mp hsite
  obtain ⟨directory, hdirectory, rfl⟩ := List.mem_map.mp hmem
  exact Files.Path.slash_notMem_shown ((pairwise_directoriesOf htree root group).2 directory hdirectory).2.2.2

/-- The groups of a layout with directories that are shown under a name, in order and as often as the layout lists
them: each time once for each such directory. -/
def groupsHolding (tree : Files.Tree) (root : String) (layout : Layout) (name : String) : List String :=
  (groups layout).flatMap fun (group, _) =>
    List.replicate ((directoriesOf tree root group).countP (Files.Path.shown · = name)) group

theorem groupsOf_map_mk (directories : List String) (group : String) (kind : ProjectKind) (name : String) :
    groupsOf (directories.map (⟨group, kind, ·⟩)) name =
      List.replicate (directories.countP (Files.Path.shown · = name)) group := by
  rw [groupsOf, List.filter_map, List.map_map, List.countP_eq_length_filter]
  exact List.map_const'

/-- There is a site of a name for each directory shown under it, in each group. -/
theorem groupsOf_sites (tree : Files.Tree) (root : String) (layout : Layout) (name : String) :
    groupsOf (sites tree root layout) name = groupsHolding tree root layout name := by
  rw [sites, groupsHolding]
  induction groups layout with
  | nil => rfl
  | cons entry rest ih =>
    obtain ⟨group, kind⟩ := entry
    rw [List.flatMap_cons, groupsOf_append, ih, groupsOf_map_mk, List.flatMap_cons]

theorem foldlM_groupDirectories_eq_ok {groups : List (String × ProjectKind)} {found : List Project}
    (h : groups.foldlM (fun projects (group, kind) => do
      return (← groupDirectories tree root group).foldl (addProject root group kind) projects) found =
        .ok projects) :
    projects = (groups.flatMap fun (group, kind) =>
      (directoriesOf tree root group).map (Site.mk group kind)).foldl
        (fun projects site => addProject root site.group site.kind projects site.directory) found := by
  induction groups generalizing found with
  | nil => exact (Except.ok.inj h).symm
  | cons entry rest ih =>
    obtain ⟨group, kind⟩ := entry
    rw [List.foldlM_cons] at h
    cases hgroup : groupDirectories tree root group with
    | error cause =>
      simp only [hgroup] at h
      contradiction
    | ok directories =>
      simp only [hgroup] at h
      rw [ih h, List.flatMap_cons, List.foldl_append, List.foldl_map, directoriesOf, hgroup]
      rfl

/-- Discovery goes through the sites. -/
theorem groupedProjects_eq_ok (h : groupedProjects tree root layout = .ok projects) :
    projects = projectsAt root (sites tree root layout) :=
  foldlM_groupDirectories_eq_ok h

theorem nodup_map_name_discover_iff (htree : tree.root.IsNamed) (hok : discover tree root layout = .ok projects) :
    (projects.map (·.name)).Nodup ↔ ∀ name, (groupsHolding tree root layout name).tail.Nodup := by
  rw [discover] at hok
  split at hok
  · contradiction
  cases hgrouped : groupedProjects tree root layout with
  | error cause =>
    simp only [hgrouped] at hok
    contradiction
  | ok grouped =>
    have hnames := nodup_names_iff root (slash_notMem_sites htree root layout)
    simp only [groupsOf_sites] at hnames
    rw [names, ← groupedProjects_eq_ok hgrouped] at hnames
    simp only [hgrouped] at hok
    obtain rfl := Except.ok.inj hok
    rw [← hnames]
    split_ifs with hempty
    · rw [List.isEmpty_iff] at hempty
      simp [hempty]
    · exact Iff.rfl

/-- The names differ if the layout lists no group twice and the names of directories are texts. -/
theorem nodup_map_name_discover_of_nodup_groups (htree : tree.root.IsNamed)
    (hok : discover tree root layout = .ok projects) (hgroups : ((groups layout).map (·.1)).Nodup)
    (htext : ∀ group, ∀ directory ∈ directoriesOf tree root group, Files.Path.mark ∉ directory.toList) :
    (projects.map (·.name)).Nodup := by
  refine (nodup_map_name_discover_iff htree hok).mpr fun name => List.Nodup.tail ?_
  -- a group holds one directory of a name at most
  have hone : ∀ group, (directoriesOf tree root group).countP (Files.Path.shown · = name) ≤ 1 := by
    intro group
    have hnodup : (directoriesOf tree root group).Nodup :=
      (pairwise_directoriesOf htree root group).1.imp Files.Path.ne_of_bytes_lt
    have hcount : (directoriesOf tree root group).countP (Files.Path.shown · = name) =
        (directoriesOf tree root group).count name :=
      List.countP_congr fun directory hdirectory => by
        rw [Files.Path.shown_eq_self (htext group directory hdirectory), decide_eq_true_iff, beq_iff_eq]
    exact hcount ▸ List.nodup_iff_count_le_one.mp hnodup name
  refine List.nodup_flatMap.mpr ⟨fun entry _ => List.nodup_replicate.mpr (hone entry.1), ?_⟩
  refine (List.pairwise_map.mp hgroups).imp fun hne => List.disjoint_left.mpr fun group hgroup hother => ?_
  exact hne ((List.eq_of_mem_replicate hgroup).symm.trans (List.eq_of_mem_replicate hother))

/-! ### What a name is good for -/

theorem select_name (hnames : (projects.map (·.name)).Nodup) {p : Project} (hp : p ∈ projects) :
    select projects (some p.name) = .ok [p] := by
  rw [select]
  cases hfind : projects.find? (·.name == p.name) with
  | none =>
    have hnone := List.find?_eq_none.mp hfind p hp
    simp at hnone
  | some q =>
    have hname : q.name = p.name := by simpa using List.find?_some hfind
    obtain rfl := List.inj_on_of_nodup_map hnames (List.mem_of_find?_eq_some hfind) hp hname
    rfl

/-- Where names differ, a scan that is over has kept every project that it finished. -/
theorem Scanner.projects_outcome_after_perm (hnames : (projects.map (·.name)).Nodup) {scanner : Scanner}
    {workers : Nat} {cancelled : Bool} {events : List Event}
    (hdone : (scanner.after workers projects cancelled events).isComplete = true) :
    (scanner.after workers projects cancelled events).outcome.projects.Perm
      (((scanner.after workers projects cancelled events).turns.filterMap Turn.entry).map (·.2)) := by
  obtain ⟨started, hprojects, hturns, -⟩ := exists_isOutcome_after hnames hdone
  have hstarted : (started.map (·.name)).Nodup := by
    rw [hprojects, List.map_append] at hnames
    exact (List.nodup_append.mp hnames).1
  rw [Progress.outcome, Entries.merge_eq_self (nodup_keys_filterMap_entry hstarted hturns)]
  exact (Entries.sort_perm _).map _

/-- **Names of discovered projects.** They differ exactly if, of the groups that hold directories shown under a name,
one for each such directory, none comes twice after the first, whichever the name. Then every project is selected by
its name, and no scan, in whatever order its projects finish, loses one of the projects that it finished to another
of the same name. -/
theorem nodup_names_discover_iff (htree : tree.root.IsNamed) (hok : discover tree root layout = .ok projects) :
    ((projects.map (·.name)).Nodup ↔
        ∀ name, (groupsHolding tree root layout name).tail.Nodup) ∧
      ((projects.map (·.name)).Nodup →
        (∀ p ∈ projects, select projects (some p.name) = .ok [p]) ∧
          ∀ (scanner : Scanner) (workers : Nat) (cancelled : Bool) (events : List Event),
            let s := scanner.after workers projects cancelled events
            s.isComplete = true → s.outcome.projects.Perm ((s.turns.filterMap Turn.entry).map (·.2))) := by
  refine ⟨nodup_map_name_discover_iff htree hok, fun hnames => ⟨fun p hp => select_name hnames hp, ?_⟩⟩
  intro scanner workers cancelled events s hdone
  exact Scanner.projects_outcome_after_perm hnames hdone

end Tree

/-- Three directories of one group with names of one byte each, which are no texts and are shown alike. The group in
front keeps the second apart from the first, but not from the third. -/
example :
    let directory (byte : Char) : String × Files.Node := (String.ofList [Files.Path.mark, byte], .directory [])
    let group : Files.Node := .directory [directory '\xfd', directory '\xfe', directory '\xff']
    (discover ⟨.directory [("apps", group)], "/"⟩ "/" ⟨["apps"], []⟩).map (·.map (·.name)) =
      .ok ["\ufffd", "apps/\ufffd", "apps/\ufffd"] := by
  simp only [discover, groupedProjects, groupDirectories, childDirectories, Files.Tree.entries,
    Files.Tree.isDirectory, Files.Tree.resolve, Files.Tree.follow, Files.Path.steps_eq]
  decide +kernel

/-- A tree with two groups that have a directory of one name. -/
def apiTree : Files.Tree :=
  ⟨.directory [("apps", .directory [("api", .directory [])]),
    ("services", .directory [("api", .directory [])])], "/"⟩

theorem isNamed_apiTree : apiTree.root.IsNamed := by
  have hgroup : (Files.Node.directory [("api", .directory [])]).IsNamed :=
    .singleton (by decide +kernel) (.directory .nil (List.forall_mem_nil _) (List.forall_mem_nil _))
  refine .directory (by decide +kernel) (by decide +kernel) ?_
  simp only [List.forall_mem_cons]
  exact ⟨hgroup, hgroup, List.forall_mem_nil _⟩

/-- The group in front keeps the second directory apart from the first, and selects its project. -/
theorem nodup_names_discover_apiTree :
    let layout : Layout := ⟨["apps"], ["services"]⟩
    let projects : List Project :=
      [⟨"api", .application, "/apps/api"⟩, ⟨"services/api", .library, "/services/api"⟩]
    apiTree.root.IsNamed ∧ discover apiTree "/" layout = .ok projects ∧
      (∀ name, (groupsHolding apiTree "/" layout name).tail.Nodup) ∧
      select projects (some "services/api") = .ok [⟨"services/api", .library, "/services/api"⟩] := by
  intro layout projects
  have hok : discover apiTree "/" layout = .ok projects := by
    simp only [layout, discover, groupedProjects, groupDirectories, childDirectories, Files.Tree.entries,
      Files.Tree.isDirectory, Files.Tree.resolve, Files.Tree.follow, Files.Path.steps_eq]
    decide +kernel
  have hnames : (projects.map (·.name)).Nodup := by decide
  obtain ⟨hiff, hgood⟩ := nodup_names_discover_iff isNamed_apiTree hok
  refine ⟨isNamed_apiTree, hok, hiff.mp hnames, ?_⟩
  exact (hgood hnames).1 ⟨"services/api", .library, "/services/api"⟩ (by decide)

/-- The second group is listed twice behind the first. It is put in front of the directory both times, so two
projects have one name, and the one of the library cannot be selected. -/
theorem not_nodup_names_discover_apiTree :
    let layout : Layout := ⟨["apps", "services"], ["services"]⟩
    let projects : List Project :=
      [⟨"api", .application, "/apps/api"⟩, ⟨"services/api", .application, "/services/api"⟩,
        ⟨"services/api", .library, "/services/api"⟩]
    apiTree.root.IsNamed ∧ discover apiTree "/" layout = .ok projects ∧ ¬(projects.map (·.name)).Nodup ∧
      select projects (some "services/api") = .ok [⟨"services/api", .application, "/services/api"⟩] := by
  intro layout projects
  refine ⟨isNamed_apiTree, ?_, by decide, rfl⟩
  simp only [layout, discover, groupedProjects, groupDirectories, childDirectories, Files.Tree.entries,
    Files.Tree.isDirectory, Files.Tree.resolve, Files.Tree.follow, Files.Path.steps_eq]
  decide +kernel

end Checkup.Workspace
