import Checkup.Files.Tree
import Mathlib.Tactic.SplitIfs

/-!
# What stands where in a file tree

A node has other nodes at places below it (`Node.at?`), and a tree can be asked for nothing else: where a path
leads depends on what the places hold (`Tree.resolve_eq_ok_iff`), directories apart only on that they are
directories, and whether they are sealed.

* **Putting a file** — a file can be put where there is one already, or where there is nothing and the directory
  above is (`Node.TakesFile`). It is there afterwards (`Node.at?_put`), and at every other place a file has the
  content it had, a directory is a directory, or sealed as it was, and where there was nothing there is nothing
  (`Node.map_alone_at?_put`).
* **Paths** — the trail of a path is the same as its place, which steps change one by one (`placeAfter`). So a
  path that leads somewhere leads there still if directories stay directories and nothing is taken away
  (`Tree.placeOf_mono`).
* **Sealed directories** — a directory that is there cannot be listed exactly if it is sealed
  (`Tree.isDirectory_and_entries_eq_error_iff`).
* **Writing a text** — a path that a text has been written to leads to that text, and nothing else has changed
  (`Tree.exists_resolve_of_writeText_eq_ok`).
-/

namespace Checkup.Files

namespace Node

/-! ### Places -/

/-- The node at a place below a node. -/
def at? : List String → Node → Option Node
  | [], node => some node
  | name :: place, directory entries => (entries.lookup name).bind (at? place)
  | _ :: _, file _ => none
  | _ :: _, sealed _ => none

/-- A node without what is below it. -/
def alone : Node → Node
  | file content => file content
  | directory _ => directory []
  | sealed cause => sealed cause

@[simp]
theorem at?_nil (node : Node) : node.at? [] = some node := by
  cases node <;> rfl

@[simp]
theorem at?_cons_directory (name : String) (place : List String) (entries : List (String × Node)) :
    (directory entries).at? (name :: place) = (entries.lookup name).bind (at? place) :=
  rfl

@[simp]
theorem at?_cons_file (name : String) (place : List String) (content : Content) :
    (file content).at? (name :: place) = none :=
  rfl

@[simp]
theorem at?_cons_sealed (name : String) (place : List String) (cause : FileError) :
    (sealed cause).at? (name :: place) = none :=
  rfl

theorem at?_append (place below : List String) (node : Node) :
    node.at? (place ++ below) = (node.at? place).bind (at? below) := by
  induction place generalizing node with
  | nil => simp
  | cons name place ih =>
    cases node with
    | file | sealed => rfl
    | directory entries =>
      rw [List.cons_append, at?_cons_directory, at?_cons_directory]
      cases entries.lookup name with
      | none => rfl
      | some child => exact ih child

theorem at?_concat {place : List String} {node : Node} {entries : List (String × Node)}
    (h : node.at? place = some (directory entries)) (name : String) :
    node.at? (place ++ [name]) = entries.lookup name := by
  rw [at?_append, h, Option.bind_some, at?_cons_directory]
  cases entries.lookup name <;> simp

theorem map_alone_eq_directory_iff {node : Option Node} :
    node.map alone = some (directory []) ↔ ∃ entries, node = some (directory entries) := by
  rcases node with _ | _ | _ | _ <;> simp [alone]

theorem map_alone_eq_sealed_iff {node : Option Node} {cause : FileError} :
    node.map alone = some (sealed cause) ↔ node = some (sealed cause) := by
  rcases node with _ | _ | _ | _ <;> simp [alone]

/-! ### Putting a file -/

theorem lookup_cons_eq_ite (other name : String) (node : Node) (entries : List (String × Node)) :
    ((name, node) :: entries).lookup other = if other = name then some node else entries.lookup other := by
  rw [List.lookup_cons]
  by_cases h : other = name
  · rw [if_pos h, beq_of_eq h]
  · rw [if_neg h, beq_false_of_ne h]

theorem lookup_insertEntry (name other : String) (node : Node) (entries : List (String × Node)) :
    (insertEntry name node entries).lookup other =
      if other = name then some node else entries.lookup other := by
  induction entries with
  | nil => exact lookup_cons_eq_ite other name node []
  | cons entry rest ih =>
    obtain ⟨old, child⟩ := entry
    rw [insertEntry]
    by_cases hold : name = old
    · subst hold
      rw [if_pos rfl, lookup_cons_eq_ite, lookup_cons_eq_ite]
      by_cases hother : other = name
      · rw [if_pos hother, if_pos hother]
      · rw [if_neg hother, if_neg hother, if_neg hother]
    · rw [if_neg hold]
      by_cases hlt : Path.bytes name < Path.bytes old
      · rw [if_pos hlt, lookup_cons_eq_ite]
      · rw [if_neg hlt, lookup_cons_eq_ite, lookup_cons_eq_ite, ih]
        by_cases hother : other = name
        · rw [if_pos hother, if_pos hother, if_neg (hother ▸ hold)]
        · rw [if_neg hother, if_neg hother]

/-- A file can be put at a place below a node: one is there, or nothing is there but the directory above. -/
inductive TakesFile : List String → Node → Prop
  | old {content : Content} : TakesFile [] (file content)
  | new {name : String} {entries : List (String × Node)} (h : entries.lookup name = none) :
    TakesFile [name] (directory entries)
  | inside {name : String} {place : List String} {entries : List (String × Node)} {child : Node}
    (h : entries.lookup name = some child) (hchild : TakesFile place child) :
    TakesFile (name :: place) (directory entries)

theorem takesFile_of_at?_eq_file {place : List String} {node : Node} {content : Content}
    (h : node.at? place = some (file content)) : node.TakesFile place := by
  induction place generalizing node with
  | nil =>
    obtain rfl : node = file content := by simpa using h
    exact .old
  | cons name place ih =>
    cases node with
    | file | sealed => contradiction
    | directory entries =>
      obtain ⟨child, hchild, hat⟩ := Option.bind_eq_some_iff.mp h
      exact .inside hchild (ih hat)

theorem takesFile_concat {place : List String} {node : Node} {entries : List (String × Node)}
    (h : node.at? place = some (directory entries)) {name : String} (hname : entries.lookup name = none) :
    node.TakesFile (place ++ [name]) := by
  induction place generalizing node with
  | nil =>
    obtain rfl : node = directory entries := by simpa using h
    exact .new hname
  | cons first place ih =>
    cases node with
    | file | sealed => contradiction
    | directory others =>
      obtain ⟨child, hchild, hat⟩ := Option.bind_eq_some_iff.mp h
      exact .inside hchild (ih hat)

/-- There is no directory where a file can be put. -/
theorem TakesFile.isDirectory_eq_of_at? {place : List String} {node old : Node} (h : node.TakesFile place)
    (hat : node.at? place = some old) : old.isDirectory = false := by
  induction h with
  | old =>
    rw [at?_nil] at hat
    rw [← Option.some.inj hat]
    rfl
  | new hnone => simp [hnone] at hat
  | inside hchild _ ih => exact ih (by simpa [hchild] using hat)

section Put

variable {place : List String} {node : Node}

theorem at?_put (h : node.TakesFile place) (content : Content) :
    (put (file content) place node).at? place = some (file content) := by
  induction h with
  | old => rfl
  | new => simp [put, lookup_insertEntry]
  | inside h _ ih => simp [put, lookup_insertEntry, h, ih]

/-- **Putting a file changes nothing else.** -/
theorem map_alone_at?_put (h : node.TakesFile place) (content : Content) {other : List String}
    (hother : other ≠ place) :
    ((put (file content) place node).at? other).map alone = (node.at? other).map alone := by
  induction h generalizing other with
  | old =>
    cases other with
    | nil => contradiction
    | cons => rfl
  | @new name entries h =>
    cases other with
    | nil => simp [put, alone]
    | cons first rest =>
      rw [put, at?_cons_directory, at?_cons_directory, lookup_insertEntry]
      split_ifs with hfirst
      · -- nothing was below the name, and nothing is below a file
        subst hfirst
        obtain ⟨step, steps, rfl⟩ := List.exists_cons_of_ne_nil fun hnil : rest = [] => hother (by rw [hnil])
        rw [h]
        rfl
      · rfl
  | @inside name place entries child h _ ih =>
    cases other with
    | nil => simp [put, alone]
    | cons first rest =>
      rw [put, at?_cons_directory, at?_cons_directory, lookup_insertEntry, h, Option.getD_some]
      split_ifs with hfirst
      · subst hfirst
        rw [h]
        exact ih fun hrest => hother (by rw [hrest])
      · rfl

end Put

/-- Nothing that is below `a` is missing below `b`, and directories are directories, or sealed as they were. -/
structure IsWithin (a b : Node) : Prop where
  isSome_at? : ∀ place, (a.at? place).isSome → (b.at? place).isSome
  sealed_at? : ∀ place cause, a.at? place = some (sealed cause) → b.at? place = some (sealed cause)
  directory_at? : ∀ place entries, a.at? place = some (directory entries) →
    ∃ entries, b.at? place = some (directory entries)

theorem isWithin_put {place : List String} {node : Node} (h : node.TakesFile place) (content : Content) :
    node.IsWithin (put (file content) place node) where
  isSome_at? other hother := by
    by_cases heq : other = place
    · rw [heq, at?_put h]
      rfl
    · rwa [← Option.isSome_map (f := alone), map_alone_at?_put h content heq, Option.isSome_map]
  sealed_at? other cause hother := by
    have hne : other ≠ place := by
      rintro rfl
      exact absurd (h.isDirectory_eq_of_at? hother) nofun
    rw [← map_alone_eq_sealed_iff, map_alone_at?_put h content hne, map_alone_eq_sealed_iff]
    exact hother
  directory_at? other entries hother := by
    have hne : other ≠ place := by
      rintro rfl
      exact absurd (h.isDirectory_eq_of_at? hother) nofun
    rw [← map_alone_eq_directory_iff, map_alone_at?_put h content hne, map_alone_eq_directory_iff]
    exact ⟨entries, hother⟩

end Node

namespace Tree

/-! ### Places of trails -/

/-- The place that a trail leads to. -/
def Trail.place (trail : Trail) : List String :=
  (trail.map (·.1)).reverse

/-- Each node of a trail is the entry of its name in the directory before it. -/
inductive Trail.IsBelow (root : Node) : Trail → Prop
  | nil : IsBelow root []
  | cons {name : String} {node : Node} {trail : Trail} {entries : List (String × Node)}
    (htrail : IsBelow root trail) (h : Trail.node root trail = .directory entries)
    (hname : entries.lookup name = some node) : IsBelow root ((name, node) :: trail)

theorem Trail.IsBelow.tail {root : Node} {trail : Trail} (h : IsBelow root trail) :
    IsBelow root trail.tail := by
  cases h with
  | nil => exact .nil
  | cons htrail => exact htrail

theorem Trail.IsBelow.at?_place {root : Node} {trail : Trail} (h : IsBelow root trail) :
    root.at? (place trail) = some (node root trail) := by
  induction h with
  | nil => exact root.at?_nil
  | @cons name node trail entries _ h hname ih =>
    have hplace : place ((name, node) :: trail) = place trail ++ [name] := List.reverse_cons
    rw [hplace, Node.at?_concat (h ▸ ih), hname]
    rfl

/-- One step along a path from a place. -/
def placeAfter (root : Node) (place : List String) (name : String) : Except FileError (List String) :=
  match root.at? place with
  | some (.directory _) =>
    if name = "" || name = "." then .ok place
    else if name = ".." then .ok place.dropLast
    else if (root.at? (place ++ [name])).isSome then .ok (place ++ [name])
    else .error .missing
  | some (.sealed cause) => if name = "" then .ok place else .error cause
  | _ => .error .notDirectory

section Steps

variable {root : Node} {trail : Trail}

/-- A step by a name leads to the entry of that name. -/
theorem placeAfter_name {place : List String} {entries : List (String × Node)} {name : String}
    (hat : root.at? place = some (.directory entries)) (hname : name ≠ "" ∧ name ≠ "." ∧ name ≠ "..") :
    placeAfter root place name =
      if (root.at? (place ++ [name])).isSome then .ok (place ++ [name]) else .error .missing := by
  rw [placeAfter, hat]
  simp [hname]

/-- A step takes a trail to a trail, and its place to the place after the step. -/
theorem step_cases (h : Trail.IsBelow root trail) (name : String) :
    (∃ trail', step root trail name = .ok trail' ∧ Trail.IsBelow root trail' ∧
        placeAfter root (Trail.place trail) name = .ok (Trail.place trail')) ∨
      ∃ cause, step root trail name = .error cause ∧
        placeAfter root (Trail.place trail) name = .error cause := by
  rw [step, placeAfter, h.at?_place]
  cases hnode : Trail.node root trail with
  | file => exact .inr ⟨_, rfl, rfl⟩
  | sealed cause =>
    dsimp only
    by_cases hempty : name = ""
    · rw [if_pos hempty, if_pos hempty]
      exact .inl ⟨trail, rfl, h, rfl⟩
    · rw [if_neg hempty, if_neg hempty]
      exact .inr ⟨cause, rfl, rfl⟩
  | directory entries =>
    dsimp only
    by_cases hidle : (name = "" || name = ".") = true
    · rw [if_pos hidle, if_pos hidle]
      exact .inl ⟨trail, rfl, h, rfl⟩
    · rw [if_neg hidle, if_neg hidle]
      by_cases hup : name = ".."
      · rw [if_pos hup, if_pos hup]
        refine .inl ⟨_, rfl, h.tail, ?_⟩
        rw [Trail.place, Trail.place, List.dropLast_reverse, List.map_tail]
      · rw [if_neg hup, if_neg hup]
        have hat : root.at? (Trail.place trail) = some (.directory entries) := hnode ▸ h.at?_place
        rw [Node.at?_concat hat]
        cases hlookup : entries.lookup name with
        | none => exact .inr ⟨_, rfl, rfl⟩
        | some node => exact .inl ⟨_, rfl, h.cons hnode hlookup, by simp [Trail.place]⟩

theorem foldlM_step_cases (h : Trail.IsBelow root trail) (steps : List String) :
    (∃ trail', steps.foldlM (step root) trail = .ok trail' ∧ Trail.IsBelow root trail' ∧
        steps.foldlM (placeAfter root) (Trail.place trail) = .ok (Trail.place trail')) ∨
      ∃ cause, steps.foldlM (step root) trail = .error cause ∧
        steps.foldlM (placeAfter root) (Trail.place trail) = .error cause := by
  induction steps generalizing trail with
  | nil => exact .inl ⟨trail, rfl, h, rfl⟩
  | cons name rest ih =>
    rw [List.foldlM_cons, List.foldlM_cons]
    rcases step_cases h name with ⟨trail', hstep, htrail', hplace⟩ | ⟨cause, hstep, hplace⟩
    · rw [hstep, hplace]
      exact ih htrail'
    · rw [hstep, hplace]
      exact .inr ⟨cause, rfl, rfl⟩

/-- A step that leads to a place leads there too where nothing is missing. -/
theorem placeAfter_mono {root root' : Node} (h : root.IsWithin root') {place place' : List String}
    {name : String} (hstep : placeAfter root place name = .ok place') :
    placeAfter root' place name = .ok place' := by
  rw [placeAfter] at hstep ⊢
  split at hstep
  case h_3 => contradiction
  case h_2 cause hat =>
    rw [h.sealed_at? place cause hat]
    exact hstep
  case h_1 entries hat =>
    obtain ⟨entries', hat'⟩ := h.directory_at? place entries hat
    rw [hat']
    dsimp only
    by_cases hsome : (root.at? (place ++ [name])).isSome
    · rw [if_pos hsome] at hstep
      rwa [if_pos (h.isSome_at? _ hsome)]
    · rw [if_neg hsome] at hstep
      split_ifs at hstep ⊢
      · exact hstep
      · exact hstep

theorem foldlM_placeAfter_mono {root root' : Node} (h : root.IsWithin root') {place place' : List String}
    {steps : List String} (hsteps : steps.foldlM (placeAfter root) place = .ok place') :
    steps.foldlM (placeAfter root') place = .ok place' := by
  induction steps generalizing place with
  | nil => exact hsteps
  | cons name rest ih =>
    rw [List.foldlM_cons] at hsteps ⊢
    cases hstep : placeAfter root place name with
    | error => rw [hstep] at hsteps; contradiction
    | ok next =>
      rw [hstep] at hsteps
      rw [placeAfter_mono h hstep]
      exact ih hsteps

end Steps

/-! ### Where a path leads -/

/-- The place that a path starts from. -/
def startOf (t : Tree) (path : String) : Except FileError (List String) :=
  if Path.isAbsolute path then .ok [] else (Path.steps t.current).foldlM (placeAfter t.root) []

/-- The place that the steps of a path lead to. -/
def placeOf (t : Tree) (path : String) (steps : List String) : Except FileError (List String) := do
  steps.foldlM (placeAfter t.root) (← t.startOf path)

section Follow

variable {t : Tree} {path : String}

/-- The trail of a path has the path's place, or neither is there. -/
theorem follow_cases (t : Tree) (path : String) (steps : List String) :
    (∃ trail, t.follow path steps = .ok trail ∧ Trail.IsBelow t.root trail ∧
        t.placeOf path steps = .ok (Trail.place trail)) ∨
      ∃ cause, t.follow path steps = .error cause ∧ t.placeOf path steps = .error cause := by
  rw [follow, placeOf, startOf]
  by_cases hpath : Path.isAbsolute path
  · rw [if_pos hpath, if_pos hpath]
    exact foldlM_step_cases .nil steps
  · rw [if_neg hpath, if_neg hpath]
    rcases foldlM_step_cases .nil (Path.steps t.current) with
      ⟨trail, hstart, htrail, hplace⟩ | ⟨cause, hstart, hplace⟩
    all_goals rw [Trail.place, List.map_nil, List.reverse_nil] at hplace
    · rw [hstart, hplace]
      exact foldlM_step_cases htrail steps
    · rw [hstart, hplace]
      exact .inr ⟨cause, rfl, rfl⟩

/-- A path leads to the end of its trail, or nowhere. -/
theorem resolve_cases (hpath : path ≠ "") :
    (∃ trail, t.resolve path = .ok (Trail.place trail, Trail.node t.root trail) ∧
        Trail.IsBelow t.root trail ∧ t.placeOf path (Path.steps path) = .ok (Trail.place trail)) ∨
      ∃ cause, t.resolve path = .error cause ∧ t.placeOf path (Path.steps path) = .error cause := by
  rw [resolve, if_neg hpath]
  rcases follow_cases t path (Path.steps path) with
    ⟨trail, hfollow, htrail, hplace⟩ | ⟨cause, hfollow, hplace⟩
  · rw [hfollow]
    exact .inl ⟨trail, rfl, htrail, hplace⟩
  · rw [hfollow]
    exact .inr ⟨cause, rfl, hplace⟩

theorem resolve_empty (t : Tree) : t.resolve "" = .error .missing :=
  rfl

/-- A path leads to the place of its steps and to the node there. -/
theorem resolve_eq_ok_iff {place : List String} {node : Node} :
    t.resolve path = .ok (place, node) ↔
      path ≠ "" ∧ t.placeOf path (Path.steps path) = .ok place ∧ t.root.at? place = some node := by
  by_cases hpath : path = ""
  · rw [hpath, resolve_empty]
    exact iff_of_false nofun fun h => h.1 rfl
  · rcases resolve_cases hpath with ⟨trail, hresolve, htrail, hplace⟩ | ⟨cause, hresolve, hplace⟩
    · rw [hresolve, hplace, Except.ok.injEq, Prod.mk.injEq, Except.ok.injEq]
      constructor
      · rintro ⟨rfl, rfl⟩
        exact ⟨hpath, rfl, htrail.at?_place⟩
      · rintro ⟨-, rfl, hnode⟩
        exact ⟨rfl, Option.some.inj (htrail.at?_place.symm.trans hnode)⟩
    · rw [hresolve, hplace]
      exact iff_of_false nofun fun h => nomatch h.2.1

/-- A directory that is there cannot be listed exactly if it is sealed. -/
theorem isDirectory_and_entries_eq_error_iff {cause : FileError} :
    t.isDirectory path = true ∧ t.entries path = .error cause ↔
      ∃ place, t.resolve path = .ok (place, .sealed cause) := by
  rw [isDirectory, entries]
  rcases t.resolve path with _ | ⟨place, _ | _ | cause'⟩
  · exact iff_of_false nofun nofun
  · exact iff_of_false nofun nofun
  · exact iff_of_false nofun nofun
  · constructor
    · rintro ⟨-, h⟩
      obtain rfl : cause' = cause := Except.error.inj h
      exact ⟨place, rfl⟩
    · rintro ⟨_, h⟩
      obtain ⟨-, hnode⟩ := Prod.mk.inj (Except.ok.inj h)
      obtain rfl := Node.sealed.inj hnode
      exact ⟨rfl, rfl⟩

/-- One more step is a step from the place before it. -/
theorem placeOf_concat {steps : List String} {place : List String} (h : t.placeOf path steps = .ok place)
    (name : String) : t.placeOf path (steps ++ [name]) = placeAfter t.root place name := by
  have happ : t.placeOf path (steps ++ [name]) =
      t.placeOf path steps >>= fun place => [name].foldlM (placeAfter t.root) place := by
    simp only [placeOf, List.foldlM_append, bind_assoc]
  rw [happ, h]
  exact bind_pure (placeAfter t.root place name)

theorem placeOf_mono {root : Node} (h : t.root.IsWithin root) {place : List String} {steps : List String}
    (hplace : t.placeOf path steps = .ok place) : { t with root := root }.placeOf path steps = .ok place := by
  have hmono : ∀ {start}, t.startOf path = .ok start → { t with root := root }.startOf path = .ok start := by
    intro start hstart
    rw [startOf] at hstart ⊢
    split_ifs at hstart ⊢
    · exact hstart
    · exact foldlM_placeAfter_mono h hstart
  rw [placeOf] at hplace ⊢
  cases hstart : t.startOf path with
  | error => rw [hstart] at hplace; contradiction
  | ok start =>
    rw [hstart] at hplace
    rw [hmono hstart]
    exact foldlM_placeAfter_mono h hplace

end Follow

/-! ### Writing a text -/

section Write

variable {t t' : Tree} {path text : String} {place : List String}

theorem placeOfNew_eq_ok {steps : List String} (h : t.placeOfNew path steps = .ok place) :
    ∃ above entries name, t.placeOf path steps.dropLast = .ok above ∧
      t.root.at? above = some (.directory entries) ∧ steps.getLast? = some name ∧ place = above ++ [name] := by
  rw [placeOfNew] at h
  rcases follow_cases t path steps.dropLast with ⟨trail, hfollow, htrail, hplace⟩ | ⟨cause, hfollow, -⟩
  · rw [hfollow] at h
    dsimp only [bind, Except.bind] at h
    split at h
    case h_1 entries name hnode hlast =>
      refine ⟨_, entries, name, hplace, ?_, hlast, (Except.ok.inj h).symm⟩
      rw [htrail.at?_place, hnode]
    all_goals contradiction
  · rw [hfollow] at h
    contradiction

/-- A text can be written to a path if it leads to a file, or if only the entry of its last step is missing. -/
theorem placeToWrite_eq_ok (h : t.placeToWrite path = .ok place) :
    path ≠ "" ∧ ((∃ content, t.resolve path = .ok (place, .file content)) ∨
      ∃ steps name above entries, Path.steps path = steps ++ [name] ∧ t.placeOf path steps = .ok above ∧
        t.root.at? above = some (.directory entries) ∧ entries.lookup name = none ∧
        (name ≠ "" ∧ name ≠ "." ∧ name ≠ "..") ∧ place = above ++ [name]) := by
  rw [placeToWrite] at h
  split at h
  case h_2 content _ hresolve =>
    rw [← Except.ok.inj h]
    exact ⟨(resolve_eq_ok_iff.mp hresolve).1, .inl ⟨content, hresolve⟩⟩
  case h_1 | h_3 | h_4 => contradiction
  case h_5 cause hresolve =>
    split_ifs at h with hnone hslash hcause
    · -- nothing is written to a path that ends with a slash
      cases hnew : t.placeOfNew path ((Path.steps path).reverse.dropWhile (· = "")).reverse with
      | error => rw [hnew] at h; contradiction
      | ok => rw [hnew] at h; contradiction
    · simp only [Bool.or_eq_true, decide_eq_true_eq, not_or] at hnone
      obtain ⟨⟨hpath, hdot⟩, hup⟩ := hnone
      obtain ⟨above, entries, name, habove, hat, hlast, rfl⟩ := placeOfNew_eq_ok h
      obtain ⟨steps, hsteps⟩ := List.getLast?_eq_some_iff.mp hlast
      rw [hsteps, List.dropLast_concat] at habove
      rw [hlast, Option.getD_some] at hdot hup hslash
      refine ⟨hpath, .inr ⟨steps, name, above, entries, hsteps, habove, hat, ?_, ⟨hslash, hdot, hup⟩, rfl⟩⟩
      -- the steps before the last lead to a directory, so the path fails at the last
      rcases resolve_cases hpath with ⟨trail, hok, -⟩ | ⟨cause', -, hplace⟩
      · rw [hok] at hresolve
        contradiction
      · rw [hsteps, placeOf_concat habove, placeAfter_name hat ⟨hslash, hdot, hup⟩] at hplace
        rw [Node.at?_concat hat] at hplace
        cases hlookup : entries.lookup name with
        | none => rfl
        | some => simp [hlookup] at hplace

/-- **Writing a text.** The path leads to the text afterwards. At every other place a file has the content that it
had, a directory is a directory, or sealed as it was, and what was missing is missing. -/
theorem exists_resolve_of_writeText_eq_ok (h : t.writeText path text = .ok t') :
    ∃ place, t'.resolve path = .ok (place, .file (.text text)) ∧
      ∀ other ≠ place, (t'.root.at? other).map Node.alone = (t.root.at? other).map Node.alone := by
  rw [writeText] at h
  cases hplace : t.placeToWrite path with
  | error => rw [hplace] at h; contradiction
  | ok place =>
    rw [hplace] at h
    obtain rfl : { t with root := Node.put (.file (.text text)) place t.root } = t' := Except.ok.inj h
    obtain ⟨hpath, hwhere⟩ := placeToWrite_eq_ok hplace
    have htakes : t.root.TakesFile place := by
      rcases hwhere with ⟨content, hresolve⟩ | ⟨-, name, above, entries, -, -, hat, hnone, -, rfl⟩
      · exact Node.takesFile_of_at?_eq_file (resolve_eq_ok_iff.mp hresolve).2.2
      · exact Node.takesFile_concat hat hnone
    have hwithin := Node.isWithin_put htakes (.text text)
    have hput := Node.at?_put htakes (.text text)
    refine ⟨place, resolve_eq_ok_iff.mpr ⟨hpath, ?_, hput⟩, fun other => Node.map_alone_at?_put htakes _⟩
    rcases hwhere with ⟨content, hresolve⟩ | ⟨steps, name, above, entries, hsteps, habove, hat, -, hname, rfl⟩
    · exact placeOf_mono hwithin (resolve_eq_ok_iff.mp hresolve).2.1
    · obtain ⟨entries', hat'⟩ := hwithin.directory_at? above entries hat
      rw [hsteps, placeOf_concat (placeOf_mono hwithin habove), placeAfter_name hat' hname, if_pos (by rw [hput]; rfl)]

theorem readText_of_writeText_eq_ok (h : t.writeText path text = .ok t') : t'.readText path = .ok text := by
  obtain ⟨place, hresolve, -⟩ := exists_resolve_of_writeText_eq_ok h
  rw [readText, hresolve]
  rfl

end Write

end Tree

end Checkup.Files
