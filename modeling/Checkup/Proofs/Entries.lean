import Checkup.Entries
import Mathlib.Data.List.Nodup
import Mathlib.Data.List.Pairwise
import Mathlib.Data.List.Sort

/-!
# Sorting and distinct keys

Sorting is stable: entries that are all equal to each other in the order stay as they stand
(`filter_mergeSort`). Sorting by a key that differs for all entries puts them in strictly ascending order
(`pairwise_mergeSort_of_nodup`), and there is only one such order (`eq_of_pairwise_lt`). Entries that have been
merged have distinct keys (`nodup_map_fst_merge`). For such entries nothing is overwritten: `merge` leaves them as
they are (`merge_eq_self`), and every value is found under its key (`lookup_eq_some_iff`). `sort` is such a sort, and
it changes nothing where the keys ascend already (`sort_merge_eq_self`).
-/

namespace Checkup.Entries

/-! ### Sorting -/

section Sorting

variable {β : Type} {key : β → String}

/-- Entries that are in order wherever they stand are kept by a sort as they stand. -/
theorem filter_mergeSort {le : β → β → Bool} (htrans : ∀ a b c, le a b → le b c → le a c)
    (htotal : ∀ a b, le a b || le b a) {l : List β} {p : β → Bool}
    (h : ∀ a b, p a → p b → le a b) : (l.mergeSort le).filter p = l.filter p := by
  have hclass : (l.filter p).Pairwise (le · ·) :=
    List.pairwise_of_forall_mem_list fun a ha b hb =>
      h a b (List.mem_filter.mp ha).2 (List.mem_filter.mp hb).2
  have hsub := (List.sublist_mergeSort htrans htotal hclass List.filter_sublist).filter p
  simp only [List.filter_filter, Bool.and_self] at hsub
  exact (hsub.eq_of_length ((List.mergeSort_perm l le).filter _).length_eq.symm).symm

theorem pairwise_mergeSort_of_nodup {l : List β} (h : (l.map key).Nodup) :
    (l.mergeSort fun a b => key a ≤ key b).Pairwise fun a b => key a < key b := by
  have hle : (l.mergeSort fun a b => key a ≤ key b).Pairwise fun a b => key a ≤ key b := by
    have htrans : ∀ a b c : β, decide (key a ≤ key b) → decide (key b ≤ key c) →
        decide (key a ≤ key c) := by
      simp only [decide_eq_true_eq]
      exact fun _ _ _ => String.le_trans
    have htotal : ∀ a b : β, decide (key a ≤ key b) || decide (key b ≤ key a) := by
      simp only [Bool.or_eq_true, decide_eq_true_eq]
      exact fun _ _ => String.le_total _ _
    simpa using List.pairwise_mergeSort htrans htotal l
  have hne : (l.mergeSort fun a b => key a ≤ key b).Pairwise fun a b => key a ≠ key b :=
    List.pairwise_map.mp (((List.mergeSort_perm l _).map key).nodup_iff.mpr h)
  exact hle.imp₂ (fun _ _ => Std.lt_of_le_of_ne) hne

/-- Lists in strictly ascending order of a key are equal if they have the same entries. -/
theorem eq_of_pairwise_lt {l m : List β} (hl : l.Pairwise fun a b => key a < key b)
    (hm : m.Pairwise fun a b => key a < key b) (h : ∀ a, a ∈ l ↔ a ∈ m) : l = m := by
  have : Std.Irrefl fun a b : β => key a < key b := ⟨fun a => String.lt_irrefl (key a)⟩
  have : Std.Antisymm fun a b : β => key a < key b :=
    ⟨fun a b hab hba => absurd (String.lt_trans hab hba) (String.lt_irrefl (key a))⟩
  exact hl.eq_of_mem_iff hm h

/-- Entries that are made of some of a list and are named like them have names of the list, in its order. -/
theorem map_filterMap_sublist {α : Type} {f : α → Option β} {name : α → String}
    (hname : ∀ {a b}, f a = some b → key b = name a) (l : List α) :
    ((l.filterMap f).map key).Sublist (l.map name) := by
  induction l with
  | nil => exact List.Sublist.slnil
  | cons a rest ih =>
    cases hf : f a with
    | none =>
      rw [List.filterMap_cons_none hf]
      exact ih.cons _
    | some b =>
      rw [List.filterMap_cons_some hf, List.map_cons, List.map_cons, hname hf]
      exact ih.cons_cons _

theorem nodup_map_filterMap {α : Type} {f : α → Option β} {name : α → String}
    (hname : ∀ {a b}, f a = some b → key b = name a) {l : List α} (h : (l.map name).Nodup) :
    ((l.filterMap f).map key).Nodup :=
  h.sublist (map_filterMap_sublist hname l)

theorem nodup_eraseDups {α : Type} [BEq α] [LawfulBEq α] (l : List α) : l.eraseDups.Nodup := by
  cases l with
  | nil => exact List.nodup_nil
  | cons a rest =>
    rw [List.eraseDups_cons, List.nodup_cons, List.mem_eraseDups]
    exact ⟨by simp, nodup_eraseDups _⟩
termination_by l.length
decreasing_by exact Nat.lt_succ_of_le (List.length_filter_le _ rest)

end Sorting

/-! ### Merging and sorting entries -/

section Merging

variable {α : Type} {entries : List (String × α)}

/-- Where all keys differ, a value is found under its key. -/
theorem lookup_eq_some_iff (h : (entries.map (·.1)).Nodup) {key : String} {value : α} :
    entries.lookup key = some value ↔ (key, value) ∈ entries := by
  rw [List.lookup_eq_some_iff]
  constructor
  · rintro ⟨before, after, rfl, -⟩
    exact List.mem_append_right before List.mem_cons_self
  · intro hmem
    obtain ⟨before, after, rfl⟩ := List.append_of_mem hmem
    refine ⟨before, after, rfl, fun e he => bne_iff_ne.mpr fun heq => ?_⟩
    rw [List.map_append, List.map_cons, List.nodup_middle, List.nodup_cons] at h
    exact h.1 (List.mem_append_left _ (List.mem_map.mpr ⟨e, he, heq.symm⟩))

theorem set_of_not_mem {key : String} (value : α) (h : key ∉ entries.map (·.1)) :
    set entries key value = entries ++ [(key, value)] := by
  induction entries with
  | nil => rfl
  | cons e rest ih =>
    rw [List.map_cons, List.mem_cons, not_or] at h
    have hne : (e.1 == key) = false := beq_false_of_ne (Ne.symm h.1)
    rw [set, hne, if_neg Bool.false_ne_true, ih h.2, List.cons_append]

theorem foldl_set_of_nodup {merged : List (String × α)}
    (h : ((merged ++ entries).map (·.1)).Nodup) :
    entries.foldl (fun merged (key, value) => set merged key value) merged = merged ++ entries := by
  induction entries generalizing merged with
  | nil => rw [List.foldl_nil, List.append_nil]
  | cons e rest ih =>
    have hnew : e.1 ∉ merged.map (·.1) := by
      rw [List.map_append, List.map_cons, List.nodup_middle, List.nodup_cons] at h
      exact fun hmem => h.1 (List.mem_append_left _ hmem)
    rw [← List.singleton_append, ← List.append_assoc] at h
    calc (e :: rest).foldl (fun merged (key, value) => set merged key value) merged
        = rest.foldl (fun merged (key, value) => set merged key value) (set merged e.1 e.2) := rfl
      _ = (merged ++ [e]) ++ rest := by rw [set_of_not_mem e.2 hnew]; exact ih h
      _ = merged ++ e :: rest := List.append_cons _ _ _ |>.symm

/-- Nothing is merged where all keys differ. -/
theorem merge_eq_self (h : (entries.map (·.1)).Nodup) : merge entries = entries :=
  foldl_set_of_nodup h

theorem map_fst_set_of_mem {key : String} (value : α) (h : key ∈ entries.map (·.1)) :
    (set entries key value).map (·.1) = entries.map (·.1) := by
  induction entries with
  | nil => contradiction
  | cons e rest ih =>
    rw [set]
    by_cases hkey : e.1 = key
    · rw [if_pos (beq_of_eq hkey)]
      rfl
    · have hrest : key ∈ rest.map (·.1) := (List.mem_cons.mp h).resolve_left (Ne.symm hkey)
      rw [if_neg (by simpa using hkey), List.map_cons, List.map_cons, ih hrest]

theorem nodup_map_fst_set (h : (entries.map (·.1)).Nodup) (key : String) (value : α) :
    ((set entries key value).map (·.1)).Nodup := by
  by_cases hkey : key ∈ entries.map (·.1)
  · rwa [map_fst_set_of_mem value hkey]
  · rw [set_of_not_mem value hkey, List.map_append]
    exact List.nodup_append_comm.mp (List.nodup_cons.mpr ⟨hkey, h⟩)

theorem mem_of_mem_set {key : String} {value : α} {e : String × α} (h : e ∈ set entries key value) :
    e = (key, value) ∨ e ∈ entries := by
  induction entries with
  | nil => exact Or.inl (List.mem_singleton.mp h)
  | cons first rest ih =>
    rw [set] at h
    split at h
    case isTrue hkey =>
      rcases List.mem_cons.mp h with rfl | h
      · exact Or.inl (congrArg (·, value) (eq_of_beq hkey))
      · exact Or.inr (List.mem_cons_of_mem _ h)
    case isFalse =>
      rcases List.mem_cons.mp h with rfl | h
      · exact Or.inr List.mem_cons_self
      · exact (ih h).imp_right (List.mem_cons_of_mem _)

/-- What holds of no entries and is kept by setting each of the given ones holds of the merged entries. -/
theorem merge_induction {motive : List (String × α) → Prop} (nil : motive [])
    (set : ∀ merged, motive merged → ∀ e ∈ entries, motive (set merged e.1 e.2)) : motive (merge entries) :=
  List.foldlRecOn entries _ nil set

/-- No key occurs twice in merged entries. -/
theorem nodup_map_fst_merge (entries : List (String × α)) : ((merge entries).map (·.1)).Nodup :=
  merge_induction (motive := fun merged => (merged.map (·.1)).Nodup) List.nodup_nil
    fun _ h e _ => nodup_map_fst_set h e.1 e.2

/-- Merging makes no entries. -/
theorem merge_subset (entries : List (String × α)) : merge entries ⊆ entries := by
  refine merge_induction (motive := fun merged => merged ⊆ entries) (List.nil_subset _) ?_
  intro merged h e he d hd
  rcases mem_of_mem_set hd with rfl | hd
  · exact he
  · exact h hd

theorem sort_perm (entries : List (String × α)) : (sort entries).Perm entries :=
  List.mergeSort_perm _ _

theorem pairwise_sort (h : (entries.map (·.1)).Nodup) :
    (sort entries).Pairwise fun a b => a.1 < b.1 :=
  pairwise_mergeSort_of_nodup h

/-- Entries in strictly ascending order of keys are neither merged nor moved. -/
theorem sort_merge_eq_self (h : entries.Pairwise fun a b => a.1 < b.1) : sort (merge entries) = entries := by
  have hnodup : (entries.map (·.1)).Nodup := List.pairwise_map.mpr (h.imp String.ne_of_lt)
  rw [merge_eq_self hnodup]
  exact List.mergeSort_of_pairwise (h.imp fun hlt => decide_eq_true (Std.le_of_lt hlt))

end Merging

end Checkup.Entries
