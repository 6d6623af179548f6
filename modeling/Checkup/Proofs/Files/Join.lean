import Checkup.Proofs.Files.Source

/-!
# Paths joined to a directory's

A path is plain if its steps are names. To join it to the path of a directory is to put a slash between the two,
unless there is one already (`Path.exists_isLead_join`), so the steps of the joined path are those of both.

* **Where it leads** — the joined path leads to what is at the place that the steps make below the directory
  (`Tree.resolve_join_eq_ok_iff`).
* **Back again** — seen from the directory, what is below the joined path has the steps of the plain path before
  its own (`Path.relative_join`).
-/

namespace Checkup.Files

namespace Path

/-- A path is plain if its steps are names: it goes down from where it starts. -/
def IsPlain (path : String) : Prop :=
  ∀ step ∈ steps path, IsName step

instance (path : String) : Decidable (IsPlain path) :=
  inferInstanceAs (Decidable (∀ step ∈ _, IsName step))

/-! ### Slashes -/

theorem steps_append_slash (a b : String) : steps (a ++ "/" ++ b) = steps a ++ steps b := by
  have hchars : (a ++ "/" ++ b).toList = a.toList ++ '/' :: b.toList := by simp
  rw [steps_eq, steps_eq, steps_eq, hchars, List.splitOn_append_cons_self, List.map_append]

theorem steps_ne_nil (path : String) : steps path ≠ [] := by
  simp [steps_eq]

theorem steps_empty : steps "" = [""] := by
  rw [steps_eq]
  rfl

/-- A slash at the end makes one step more, an empty one. -/
theorem steps_slash (lead : String) : steps (lead ++ "/") = steps lead ++ [""] := by
  have h := steps_append_slash lead ""
  rwa [String.append_empty, steps_empty] at h

theorem isAbsolute_iff {path : String} : isAbsolute path = true ↔ ∃ rest, path = "/" ++ rest := by
  rw [isAbsolute, String.startsWith_string_iff]
  constructor
  · rintro ⟨rest, hrest⟩
    exact ⟨String.ofList rest, by rw [← String.toList_inj, ← hrest]; simp⟩
  · rintro ⟨rest, rfl⟩
    exact ⟨rest.toList, by simp⟩

/-- Whether a path is absolute is seen before its last slash. -/
theorem isAbsolute_append_slash (lead rest : String) :
    isAbsolute (lead ++ "/" ++ rest) = true ↔ lead = "" ∨ isAbsolute lead = true := by
  rw [isAbsolute, isAbsolute, String.startsWith_string_iff, String.startsWith_string_iff, ← String.toList_eq_nil_iff]
  simp only [String.toList_append]
  cases lead.toList <;> simp

theorem endsWith_slash_iff {path : String} : path.endsWith "/" = true ↔ ∃ lead, path = lead ++ "/" := by
  rw [String.endsWith_eq_endsWith_toSlice, String.Slice.endsWith_string_iff, String.copy_toSlice]
  constructor
  · rintro ⟨lead, hlead⟩
    exact ⟨String.ofList lead, by rw [← String.toList_inj, ← hlead]; simp⟩
  · rintro ⟨lead, rfl⟩
    exact ⟨lead.toList, by simp⟩

/-! ### Plain paths -/

section Plain

variable {path : String}

theorem IsName.isIdle_eq {name : String} (h : IsName name) : isIdle name = false := by
  simp [isIdle, h.1, h.2.1]

theorem isPlain_intercalate {names : List String} (h : ∀ name ∈ names, IsName name) (hne : names ≠ []) :
    IsPlain ("/".intercalate names) := by
  rw [IsPlain, steps_intercalate_of_isName h hne]
  exact h

theorem IsPlain.isAbsolute_eq (h : IsPlain path) : isAbsolute path = false := by
  rw [Bool.eq_false_iff]
  intro habs
  obtain ⟨rest, rfl⟩ := isAbsolute_iff.mp habs
  have hsteps : steps ("/" ++ rest) = steps "" ++ steps rest := steps_append_slash "" rest
  have hempty : "" ∈ steps ("/" ++ rest) := by
    rw [hsteps, steps_empty]
    exact List.mem_append_left _ List.mem_cons_self
  exact (h "" hempty).1 rfl

/-- The steps of a plain path say something, whatever comes behind them. -/
theorem IsPlain.dropWhile_eq (h : IsPlain path) (rest : List String) :
    (steps path ++ rest).dropWhile isIdle = steps path ++ rest := by
  obtain ⟨step, others, hsteps⟩ := List.exists_cons_of_ne_nil (steps_ne_nil path)
  have hstep : isIdle step = false := (h step (hsteps ▸ List.mem_cons_self)).isIdle_eq
  rw [hsteps, List.cons_append, List.dropWhile_cons_of_neg (Bool.eq_false_iff.mp hstep)]

/-- There is no slash at the end of a plain path, whatever it goes on from. -/
theorem IsPlain.endsWith_eq (h : IsPlain path) (lead : String) : (lead ++ "/" ++ path).endsWith "/" = false := by
  rw [Bool.eq_false_iff]
  intro hends
  obtain ⟨other, hother⟩ := endsWith_slash_iff.mp hends
  have hsteps : steps lead ++ steps path = steps other ++ [""] := by
    rw [← steps_append_slash, hother, steps_slash]
  have hlast := congrArg List.getLast? hsteps
  rw [List.getLast?_append_of_ne_nil _ (steps_ne_nil path), List.getLast?_concat] at hlast
  exact (h "" (List.mem_of_getLast? hlast)).1 rfl

end Plain

/-! ### Joining -/

/-- What goes on from the path `root` goes on behind `lead` and a slash. -/
structure IsLead (lead root : String) : Prop where
  ne_empty : root ≠ ""
  eq_or : root = lead ∨ root = lead ++ "/"

section Joining

variable {lead root directory : String}

theorem IsLead.isAbsolute_eq (h : IsLead lead root) (rest : String) :
    isAbsolute (lead ++ "/" ++ rest) = isAbsolute root := by
  rw [Bool.eq_iff_iff, isAbsolute_append_slash]
  rcases h.eq_or with rfl | rfl
  · exact or_iff_right h.ne_empty
  · rw [← String.append_empty (s := lead ++ "/"), isAbsolute_append_slash]

theorem IsLead.components_eq (h : IsLead lead root) : components root = (steps lead).filter (!isIdle ·) := by
  rcases h.eq_or with rfl | rfl
  · rfl
  · rw [components, steps_slash, List.filter_append]
    exact List.append_nil _

/-- To join a path is to put it behind a slash. -/
theorem exists_isLead_join (hroot : root ≠ "") : ∃ lead, IsLead lead root ∧
    ∀ path, isAbsolute path = false → join root path = lead ++ "/" ++ path := by
  have hempty : root.isEmpty = false := by simpa using hroot
  by_cases hends : root.endsWith "/" = true
  · obtain ⟨lead, hlead⟩ := endsWith_slash_iff.mp hends
    refine ⟨lead, ⟨hroot, .inr hlead⟩, fun path hpath => ?_⟩
    rw [join, if_neg (Bool.eq_false_iff.mp hpath), hends, Bool.or_true, if_pos rfl, hlead]
  · refine ⟨root, ⟨hroot, .inl rfl⟩, fun path hpath => ?_⟩
    rw [join, if_neg (Bool.eq_false_iff.mp hpath), hempty, Bool.false_or, if_neg hends]

theorem IsPlain.join_eq (h : IsPlain directory) (lead : String) {path : String} (hpath : isAbsolute path = false) :
    join (lead ++ "/" ++ directory) path = lead ++ "/" ++ directory ++ "/" ++ path := by
  have hempty : (lead ++ "/" ++ directory).isEmpty = false := by simp
  rw [join, if_neg (Bool.eq_false_iff.mp hpath), hempty, h.endsWith_eq, Bool.or_self, if_neg Bool.false_ne_true]

/-- What is left below the steps of a path, idle ones among them left out. -/
theorem stepsBelow?_append (above rest : List String) :
    stepsBelow? (above.filter (!isIdle ·)) (above ++ rest) = some (rest.dropWhile isIdle) := by
  induction above with
  | nil => cases rest <;> rfl
  | cons step above ih =>
    by_cases hidle : isIdle step = true
    · have hskip : ∀ base others, stepsBelow? base (step :: others) = stepsBelow? base others := by
        intro base others
        cases base <;> rw [stepsBelow?, stepsBelow?, List.dropWhile_cons_of_pos hidle]
      rw [List.filter_cons_of_neg (by simp [hidle]), List.cons_append, hskip, ih]
    · rw [List.filter_cons_of_pos (by simp [hidle]), List.cons_append, stepsBelow?,
        List.dropWhile_cons_of_neg hidle]
      simp [ih]

/-- **Back again.** Seen from the directory, what is below a joined path has the steps of both. -/
theorem relative_join {place : List String} (hroot : root ≠ "") (hdirectory : IsPlain directory)
    (hplace : ∀ name ∈ place, IsName name) (hne : place ≠ []) :
    relative root (join (join root directory) ("/".intercalate place)) =
      "/".intercalate (steps directory ++ place) := by
  obtain ⟨lead, hlead, hjoin⟩ := exists_isLead_join hroot
  have hpath : join (join root directory) ("/".intercalate place) =
      lead ++ "/" ++ directory ++ "/" ++ "/".intercalate place := by
    rw [hjoin _ hdirectory.isAbsolute_eq, hdirectory.join_eq _ (isPlain_intercalate hplace hne).isAbsolute_eq]
  have habs : isAbsolute root = isAbsolute (lead ++ "/" ++ directory ++ "/" ++ "/".intercalate place) := by
    rw [← hlead.isAbsolute_eq (directory ++ "/" ++ "/".intercalate place)]
    simp only [String.append_assoc]
  have hsteps : steps (lead ++ "/" ++ directory ++ "/" ++ "/".intercalate place) =
      steps lead ++ (steps directory ++ place) := by
    rw [steps_append_slash, steps_append_slash, List.append_assoc, steps_intercalate_of_isName hplace hne]
  rw [hpath, relative, habs, bne_self_eq_false, if_neg Bool.false_ne_true, hlead.components_eq, hsteps,
    stepsBelow?_append, hdirectory.dropWhile_eq]

end Joining

end Path

/-! ### Where a joined path leads -/

/-- A file is at another place than the directory that it is seen from. -/
theorem Node.ne_nil_of_at?_eq_file {entries : List (String × Node)} {place : List String} {content : Content}
    (h : (Node.directory entries).at? place = some (.file content)) : place ≠ [] := by
  rintro rfl
  simp at h

/-- What something is below is a directory. -/
theorem Node.exists_directory_of_at?_append {node child : Node} {place below : List String} (hne : below ≠ [])
    (h : node.at? (place ++ below) = some child) :
    ∃ entries, node.at? place = some (.directory entries) ∧ (Node.directory entries).at? below = some child := by
  obtain ⟨parent, hparent, hchild⟩ := Option.bind_eq_some_iff.mp (node.at?_append place below ▸ h)
  obtain ⟨name, rest, rfl⟩ := List.exists_cons_of_ne_nil hne
  cases parent with
  | file | sealed => contradiction
  | directory entries => exact ⟨entries, hparent, hchild⟩

namespace Tree

/-- Names lead down, as far as there is something. -/
theorem foldlM_placeAfter_names_eq_ok_iff {root : Node} {place names other : List String}
    (hplace : (root.at? place).isSome) (hnames : ∀ name ∈ names, Path.IsName name) :
    names.foldlM (placeAfter root) place = .ok other ↔ other = place ++ names ∧ (root.at? other).isSome := by
  induction names generalizing place with
  | nil =>
    rw [List.foldlM_nil, List.append_nil]
    constructor
    · intro h
      obtain rfl : place = other := Except.ok.inj h
      exact ⟨rfl, hplace⟩
    · rintro ⟨rfl, -⟩
      rfl
  | cons name rest ih =>
    obtain ⟨hname, hrest⟩ := List.forall_mem_cons.mp hnames
    have hbelow : root.at? (place ++ name :: rest) = (root.at? (place ++ [name])).bind (Node.at? rest) := by
      rw [← Node.at?_append, List.append_assoc, List.singleton_append]
    rw [List.foldlM_cons]
    by_cases hsome : (root.at? (place ++ [name])).isSome
    · have hstep : placeAfter root place name = .ok (place ++ [name]) := by
        obtain ⟨child, hchild⟩ := Option.isSome_iff_exists.mp hsome
        obtain ⟨entries, hentries, -⟩ := Node.exists_directory_of_at?_append (List.cons_ne_nil name []) hchild
        rw [placeAfter_name hentries ⟨hname.1, hname.2.1, hname.2.2.1⟩, if_pos hsome]
      rw [hstep]
      refine (ih hsome hrest).trans ?_
      rw [List.append_assoc, List.singleton_append]
    · have hstep : ∃ cause, placeAfter root place name = .error cause := by
        rw [placeAfter]
        split
        · rw [if_neg (by simp [hname.1, hname.2.1]), if_neg hname.2.2.1, if_neg hsome]
          exact ⟨_, rfl⟩
        · rw [if_neg hname.1]
          exact ⟨_, rfl⟩
        · exact ⟨_, rfl⟩
      obtain ⟨cause, hstep⟩ := hstep
      rw [hstep]
      refine iff_of_false (fun h => ?_) ?_
      · contradiction
      · rintro ⟨rfl, hother⟩
        rw [hbelow, Option.not_isSome_iff_eq_none.mp hsome] at hother
        exact Bool.false_ne_true hother

theorem placeOf_append {t : Tree} {path : String} (a b : List String) :
    t.placeOf path (a ++ b) = t.placeOf path a >>= b.foldlM (placeAfter t.root) := by
  simp only [placeOf, List.foldlM_append, bind_assoc]

/-- **Where a joined path leads.** Below a directory a plain path leads to what is at its place. -/
theorem resolve_join_eq_ok_iff {t : Tree} {root directory : String} {above place : List String}
    {entries : List (String × Node)} {node : Node} (hroot : t.resolve root = .ok (above, .directory entries))
    (hdirectory : Path.IsPlain directory) :
    t.resolve (Path.join root directory) = .ok (place, node) ↔
      place = above ++ Path.steps directory ∧ t.root.at? place = some node := by
  obtain ⟨hne, hplaceOf, hat⟩ := resolve_eq_ok_iff.mp hroot
  obtain ⟨lead, hlead, hjoin⟩ := Path.exists_isLead_join hne
  have hpath := hjoin directory hdirectory.isAbsolute_eq
  have hstart : ∀ steps, t.placeOf (Path.join root directory) steps = t.placeOf root steps := by
    intro steps
    rw [placeOf, placeOf, startOf, startOf, hpath, hlead.isAbsolute_eq]
  -- a slash at the end of the root's path changes nothing
  have habove : t.placeOf root (Path.steps lead) = .ok above := by
    rcases hlead.eq_or with rfl | rfl
    · exact hplaceOf
    · rw [Path.steps_slash] at hplaceOf
      cases hplace : t.placeOf (lead ++ "/") (Path.steps lead) with
      | error =>
        rw [placeOf_append, hplace] at hplaceOf
        contradiction
      | ok place =>
        rw [placeOf_concat hplace, placeAfter] at hplaceOf
        split at hplaceOf
        · exact hplaceOf
        · exact hplaceOf
        · contradiction
  have hempty : Path.join root directory ≠ "" := by
    rw [hpath]
    simp
  rw [resolve_eq_ok_iff, hstart, hpath, Path.steps_append_slash, placeOf_append, habove]
  have hnames : (Path.steps directory).foldlM (placeAfter t.root) above = .ok place ↔ _ :=
    foldlM_placeAfter_names_eq_ok_iff (Option.isSome_of_eq_some hat) hdirectory
  refine (and_iff_right (hpath ▸ hempty)).trans ((and_congr_left' hnames).trans ?_)
  constructor
  · rintro ⟨⟨hplace, -⟩, hnode⟩
    exact ⟨hplace, hnode⟩
  · rintro ⟨hplace, hnode⟩
    exact ⟨⟨hplace, Option.isSome_of_eq_some hnode⟩, hnode⟩

end Tree

end Checkup.Files
