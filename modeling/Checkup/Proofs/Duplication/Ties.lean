import Checkup.Proofs.Duplication.Thinning

/-!
# Thinning and the order of discovery

Among duplicates of one size thinning goes by the given order, so that order can decide what is kept. It does so only
where two duplicates of one size overlap. Without such a tie an entry is kept exactly if it clashes with no larger
one that is kept (`mem_keepApart_iff`): the others of its size do not matter, and the smaller ones come later.

So the greedy filter drops entries one by one, by a test that does not look at places (`keepApart_eq_filter`), and
copies of an entry are kept or dropped together. Two orders of the same entries pass the test alike, from the
largest entries down to the smallest (`mem_keepApart_congr`), and what is kept is the same up to order
(`keepApart_perm`, `resolveOverlaps_perm`).
-/

namespace Checkup.Duplication

/-! ### Filtering by the larger entries -/

section Sizes

variable {α : Type} {clash : α → α → Bool} {size : α → Nat} {kept l m : List α}

/-- Whether no entry of a list clashes with `a` that is larger. -/
def isFree (clash : α → α → Bool) (size : α → Nat) (kept : List α) (a : α) : Bool :=
  kept.all fun k => size k ≤ size a || !clash k a

theorem isFree_eq_true_iff {a : α} :
    isFree clash size kept a = true ↔ ∀ k ∈ kept, size a < size k → clash k a = false := by
  simp [isFree, or_iff_not_imp_left]

/-- No two entries at different places of a list are of one size and clash. -/
def HasNoTie (clash : α → α → Bool) (size : α → Nat) (l : List α) : Prop :=
  l.Pairwise fun a b => ¬(clash a b = true ∧ size a = size b)

/-- In the order of size and without ties, the greedy filter keeps the entries that clash with no larger one that is
kept, here or before. -/
theorem keepApart_eq_filter_append (hsorted : (kept ++ l).Pairwise fun a b => size b ≤ size a)
    (hties : HasNoTie clash size (kept ++ l)) :
    keepApart clash kept l = l.filter (isFree clash size (kept ++ keepApart clash kept l)) := by
  induction l generalizing kept with
  | nil => rfl
  | cons a rest ih =>
    have hsizes := (List.pairwise_append.mp hsorted).2.2
    rcases clash_or_forall clash kept a with ⟨k, hk, hclash⟩ | hfree
    · -- what `a` clashes with is larger, because it is not of its size
      have hlt : size a < size k := by
        refine Nat.lt_of_le_of_ne (hsizes k hk a List.mem_cons_self) fun heq => ?_
        exact (List.pairwise_append.mp hties).2.2 k hk a List.mem_cons_self ⟨hclash, heq.symm⟩
      have hsub : (kept ++ rest).Sublist (kept ++ a :: rest) :=
        (List.sublist_cons_self a rest).append_left kept
      have hnot : ¬isFree clash size (kept ++ keepApart clash kept rest) a = true := by
        rw [isFree_eq_true_iff]
        intro h
        rw [h k (List.mem_append_left _ hk) hlt] at hclash
        contradiction
      rw [keepApart_cons_of_clash hk hclash, List.filter_cons_of_neg hnot,
        ← ih (hsorted.sublist hsub) (hties.sublist hsub)]
    · have happ : kept ++ a :: rest = kept ++ [a] ++ rest := List.append_cons ..
      have hself : isFree clash size (kept ++ a :: keepApart clash (kept ++ [a]) rest) a = true := by
        rw [isFree_eq_true_iff]
        intro k hk hlt
        rcases List.mem_append.mp hk with hk | hk
        · exact hfree k hk
        · rcases List.mem_cons.mp hk with rfl | hk
          · exact absurd hlt (Nat.lt_irrefl _)
          · -- what is kept later is no larger
            have hle := (List.pairwise_cons.mp (List.pairwise_append.mp hsorted).2.1).1 k
              (keepApart_sublist.subset hk)
            exact absurd hlt (Nat.not_lt.mpr hle)
      have hrest := ih (happ ▸ hsorted) (happ ▸ hties)
      rw [← List.append_cons] at hrest
      rw [keepApart_cons_of_forall hfree, List.filter_cons_of_pos hself, ← hrest]

theorem keepApart_eq_filter (hsorted : l.Pairwise fun a b => size b ≤ size a) (hties : HasNoTie clash size l) :
    keepApart clash [] l = l.filter (isFree clash size (keepApart clash [] l)) :=
  @keepApart_eq_filter_append _ clash size [] l hsorted hties

/-- **Larger entries decide.** An entry is kept if it clashes with none of the larger ones that are kept. -/
theorem mem_keepApart_iff (hsorted : l.Pairwise fun a b => size b ≤ size a) (hties : HasNoTie clash size l) {a : α} :
    a ∈ keepApart clash [] l ↔ a ∈ l ∧ ∀ k ∈ keepApart clash [] l, size a < size k → clash k a = false := by
  conv_lhs => rw [keepApart_eq_filter hsorted hties, List.mem_filter, isFree_eq_true_iff]

/-- Two orders of the same entries keep the same, from the largest entries down to the smallest. -/
theorem mem_keepApart_congr (hl : l.Pairwise fun a b => size b ≤ size a)
    (hm : m.Pairwise fun a b => size b ≤ size a) (hlties : HasNoTie clash size l) (hmties : HasNoTie clash size m)
    (hmem : ∀ a, a ∈ l ↔ a ∈ m) (a : α) : a ∈ keepApart clash [] l ↔ a ∈ keepApart clash [] m := by
  obtain ⟨bound, hbound⟩ : ∃ bound, ∀ a ∈ l, size a ≤ bound := by
    cases l with
    | nil => exact ⟨0, List.forall_mem_nil _⟩
    | cons b rest => exact ⟨size b, List.forall_mem_cons.mpr ⟨Nat.le_refl _, (List.pairwise_cons.mp hl).1⟩⟩
  -- the induction is on how far the size of an entry may be below the bound
  have hdown : ∀ n a, bound < size a + n → (a ∈ keepApart clash [] l ↔ a ∈ keepApart clash [] m) := by
    intro n
    induction n with
    | zero =>
      intro a hlt
      have hout : a ∉ l := fun ha => Nat.not_lt.mpr (hbound a ha) hlt
      exact iff_of_false (fun h => hout (keepApart_sublist.subset h))
        fun h => hout ((hmem a).mpr (keepApart_sublist.subset h))
    | succ n ih =>
      intro a hlt
      rw [mem_keepApart_iff hl hlties, mem_keepApart_iff hm hmties, hmem a]
      refine and_congr_right fun _ => forall_congr' fun k => ?_
      constructor
      · exact fun h hk hsize => h ((ih k (by omega)).mpr hk) hsize
      · exact fun h hk hsize => h ((ih k (by omega)).mp hk) hsize
  exact hdown (bound + 1) a (by omega)

/-- **The greedy filter does not look at places** when there are no ties. -/
theorem keepApart_perm (hl : l.Pairwise fun a b => size b ≤ size a)
    (hm : m.Pairwise fun a b => size b ≤ size a) (hlties : HasNoTie clash size l) (hmties : HasNoTie clash size m)
    (hperm : l.Perm m) : (keepApart clash [] l).Perm (keepApart clash [] m) := by
  have hfree : isFree clash size (keepApart clash [] l) = isFree clash size (keepApart clash [] m) := by
    funext a
    rw [Bool.eq_iff_iff, isFree_eq_true_iff, isFree_eq_true_iff]
    simp only [mem_keepApart_congr hl hm hlties hmties fun _ => hperm.mem_iff]
  rw [keepApart_eq_filter hl hlties, keepApart_eq_filter hm hmties, hfree]
  exact hperm.filter _

end Sizes

/-! ### Thinning -/

theorem HasNoTie.perm {ds es : List Duplicate} (h : HasNoTie Duplicate.overlaps Duplicate.lineCount ds)
    (hperm : ds.Perm es) : HasNoTie Duplicate.overlaps Duplicate.lineCount es := by
  refine (hperm.pairwise_iff fun {d e} hne => ?_).mp h
  rw [Duplicate.overlaps_comm]
  exact fun htie => hne ⟨htie.1, htie.2.symm⟩

/-- **The order of discovery matters for overlapping ties only.** If no two duplicates at different places overlap and
are of one size, thinning keeps the same duplicates, each as often, in whatever order they are given. -/
theorem resolveOverlaps_perm {ds es : List Duplicate} (hperm : ds.Perm es)
    (hties : ds.Pairwise fun d e => ¬(d.overlaps e = true ∧ d.lineCount = e.lineCount)) :
    (resolveOverlaps ds).Perm (resolveOverlaps es) := by
  have hds := sortedBySize ds
  have hes := sortedBySize es
  have hties : HasNoTie Duplicate.overlaps Duplicate.lineCount ds := hties
  rw [resolveOverlaps_eq_keepApart, resolveOverlaps_eq_keepApart]
  exact keepApart_perm hds.descending hes.descending (hties.perm hds.perm.symm)
    (hties.perm (hperm.trans hes.perm.symm)) ((hds.perm.trans hperm).trans hes.perm.symm)

/-- A large duplicate, two smaller ones of one size that are apart, of which the first overlaps the large one, and one
with empty ranges, which occurs twice. -/
def apartDuplicates : List Duplicate :=
  let empty := ⟨"a.ts", "b.ts", ⟨50, 49⟩, ⟨50, 49⟩, 0, ""⟩
  [⟨"a.ts", "b.ts", ⟨1, 10⟩, ⟨1, 10⟩, 10, ""⟩, ⟨"a.ts", "b.ts", ⟨5, 9⟩, ⟨20, 24⟩, 5, ""⟩,
    ⟨"a.ts", "b.ts", ⟨30, 34⟩, ⟨30, 34⟩, 5, ""⟩, empty, empty]

/-- In either order only the one is left out that the large one overlaps. -/
theorem resolveOverlaps_reverse_apartDuplicates :
    apartDuplicates.Perm apartDuplicates.reverse ∧
      apartDuplicates.Pairwise (fun d e => ¬(d.overlaps e = true ∧ d.lineCount = e.lineCount)) ∧
      (resolveOverlaps apartDuplicates).Perm (resolveOverlaps apartDuplicates.reverse) ∧
      (resolveOverlaps apartDuplicates).map (·.rangeB) = [⟨1, 10⟩, ⟨30, 34⟩, ⟨50, 49⟩, ⟨50, 49⟩] := by
  have hperm : apartDuplicates.Perm apartDuplicates.reverse := apartDuplicates.reverse_perm.symm
  have hties : apartDuplicates.Pairwise fun d e => ¬(d.overlaps e = true ∧ d.lineCount = e.lineCount) := by
    decide
  refine ⟨hperm, hties, resolveOverlaps_perm hperm hties, ?_⟩
  rw [resolveOverlaps_eq_keepApart, List.mergeSort_of_pairwise (by decide)]
  decide

/-- Of overlapping duplicates of one size the first one is kept. -/
example :
    let d : Duplicate := ⟨"a.ts", "b.ts", ⟨1, 5⟩, ⟨1, 5⟩, 5, ""⟩
    let e : Duplicate := ⟨"a.ts", "b.ts", ⟨3, 7⟩, ⟨3, 7⟩, 5, ""⟩
    resolveOverlaps [d, e] = [d] ∧ resolveOverlaps [e, d] = [e] := by
  simp only [resolveOverlaps_eq_keepApart]
  rw [List.mergeSort_of_pairwise (by decide), List.mergeSort_of_pairwise (by decide)]
  decide

end Checkup.Duplication
