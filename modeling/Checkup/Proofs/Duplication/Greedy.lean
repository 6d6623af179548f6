/-!
# The greedy filter

`keepApart clash kept l` goes through `l` once and keeps each entry that clashes with none of those
kept before it, where `kept` were kept already. The theory is about any relation `clash`; the thinning
of duplicates is the instance for overlaps (`Kept.toList_foldl_offer`).

The filter is pinned down by three properties:

* **Selection** — the result is a subsequence (`keepApart_sublist`).
* **Separation** — no two of its entries clash (`pairwise_keepApart`).
* **Maximality** — what is left out clashes with an entry kept before it
  (`exists_clash_of_not_mem_keepApart`). "Before" is any relation that holds along the list, so the
  same lemma speaks of places and of sizes.

Together they determine the result (`eq_keepApart`).
-/

namespace Checkup.Duplication

universe u v

variable {α : Type u} {β : Type v} {clash : α → α → Bool} {kept l : List α}

/-- Keeps each entry that clashes with none of those kept before it. -/
def keepApart (clash : α → α → Bool) (kept : List α) : List α → List α
  | [] => []
  | a :: rest =>
    if kept.any (clash · a) then keepApart clash kept rest
    else a :: keepApart clash (kept ++ [a]) rest

theorem keepApart_cons_of_clash {a k : α} (hk : k ∈ kept) (h : clash k a = true) :
    keepApart clash kept (a :: l) = keepApart clash kept l := by
  rw [keepApart, if_pos (List.any_eq_true.mpr ⟨k, hk, h⟩)]

theorem keepApart_cons_of_forall {a : α} (h : ∀ k ∈ kept, clash k a = false) :
    keepApart clash kept (a :: l) = a :: keepApart clash (kept ++ [a]) l := by
  have hany : kept.any (clash · a) = false := by simpa using h
  rw [keepApart, hany, if_neg Bool.false_ne_true]

/-- Either something kept clashes with an entry or nothing does. -/
theorem clash_or_forall (clash : α → α → Bool) (kept : List α) (a : α) :
    (∃ k ∈ kept, clash k a = true) ∨ ∀ k ∈ kept, clash k a = false := by
  rcases hany : kept.any (clash · a) with _ | _
  · exact Or.inr (by simpa using hany)
  · exact Or.inl (List.any_eq_true.mp hany)

/-! ### Selection and separation -/

theorem keepApart_sublist : (keepApart clash kept l).Sublist l := by
  induction l generalizing kept with
  | nil => exact List.Sublist.slnil
  | cons a rest ih =>
    rcases clash_or_forall clash kept a with ⟨k, hk, hclash⟩ | hfree
    · rw [keepApart_cons_of_clash hk hclash]
      exact ih.cons a
    · rw [keepApart_cons_of_forall hfree]
      exact ih.cons_cons a

/-- Nothing that was kept already clashes with an entry of the result. -/
theorem clash_eq_false_of_mem_keepApart {k a : α} (hk : k ∈ kept)
    (ha : a ∈ keepApart clash kept l) : clash k a = false := by
  induction l generalizing kept with
  | nil => exact absurd ha List.not_mem_nil
  | cons b rest ih =>
    rcases clash_or_forall clash kept b with ⟨k', hk', hclash⟩ | hfree
    · rw [keepApart_cons_of_clash hk' hclash] at ha
      exact ih hk ha
    · rw [keepApart_cons_of_forall hfree] at ha
      rcases List.mem_cons.mp ha with rfl | ha
      · exact hfree k hk
      · exact ih (List.mem_append_left _ hk) ha

theorem pairwise_keepApart : (keepApart clash kept l).Pairwise fun a b => clash a b = false := by
  induction l generalizing kept with
  | nil => exact List.Pairwise.nil
  | cons a rest ih =>
    rcases clash_or_forall clash kept a with ⟨k, hk, hclash⟩ | hfree
    · rw [keepApart_cons_of_clash hk hclash]
      exact ih
    · rw [keepApart_cons_of_forall hfree, List.pairwise_cons]
      refine ⟨fun b hb => ?_, ih⟩
      exact clash_eq_false_of_mem_keepApart (List.mem_append_right _ List.mem_cons_self) hb

/-- A list without clashes is kept whole. -/
theorem keepApart_eq_self (hkept : ∀ k ∈ kept, ∀ a ∈ l, clash k a = false)
    (hl : l.Pairwise fun a b => clash a b = false) : keepApart clash kept l = l := by
  induction l generalizing kept with
  | nil => rfl
  | cons a rest ih =>
    obtain ⟨ha, hrest⟩ := List.pairwise_cons.mp hl
    rw [keepApart_cons_of_forall fun k hk => hkept k hk a List.mem_cons_self]
    refine congrArg (a :: ·) (ih (fun k hk b hb => ?_) hrest)
    rcases List.mem_append.mp hk with hk | hk
    · exact hkept k hk b (List.mem_cons_of_mem a hb)
    · rw [List.mem_singleton.mp hk]
      exact ha b hb

/-! ### Maximality -/

/-- What is left out clashes with an entry kept before it, where `R` is any relation that holds from
each entry to the later ones. -/
theorem exists_clash_of_not_mem_keepApart {R : α → α → Prop} (hl : l.Pairwise R)
    (hkept : ∀ k ∈ kept, ∀ a ∈ l, R k a) {a : α} (ha : a ∈ l)
    (hout : a ∉ keepApart clash kept l) :
    ∃ k ∈ kept ++ keepApart clash kept l, R k a ∧ clash k a = true := by
  induction l generalizing kept with
  | nil => exact absurd ha List.not_mem_nil
  | cons b rest ih =>
    obtain ⟨hb, hrest⟩ := List.pairwise_cons.mp hl
    rcases clash_or_forall clash kept b with ⟨k, hk, hclash⟩ | hfree
    · rw [keepApart_cons_of_clash hk hclash] at hout ⊢
      rcases List.mem_cons.mp ha with rfl | ha
      · exact ⟨k, List.mem_append_left _ hk, hkept k hk a List.mem_cons_self, hclash⟩
      · exact ih hrest (fun k hk c hc => hkept k hk c (List.mem_cons_of_mem b hc)) ha hout
    · rw [keepApart_cons_of_forall hfree] at hout ⊢
      rw [List.mem_cons, not_or] at hout
      have hbefore : ∀ k ∈ kept ++ [b], ∀ c ∈ rest, R k c := by
        intro k hk c hc
        rcases List.mem_append.mp hk with hk | hk
        · exact hkept k hk c (List.mem_cons_of_mem b hc)
        · rw [List.mem_singleton.mp hk]
          exact hb c hc
      have ha : a ∈ rest := (List.mem_cons.mp ha).resolve_left hout.1
      have hfound := ih hrest hbefore ha hout.2
      rwa [List.append_assoc, List.singleton_append] at hfound

/-- **Selection, separation and maximality determine the filter.** The relation `R` holds from each
entry to the later ones and never both ways, so an entry cannot be left out on account of a later one. -/
theorem eq_keepApart {R : α → α → Prop} (hasymm : ∀ {a b}, R a b → ¬ R b a) (hl : l.Pairwise R)
    {chosen : List α} (hsub : chosen.Sublist l)
    (hkept : ∀ k ∈ kept, ∀ a ∈ chosen, clash k a = false)
    (hapart : chosen.Pairwise fun a b => clash a b = false)
    (hmax : ∀ a ∈ l, a ∉ chosen → ∃ k ∈ kept ++ chosen, R k a ∧ clash k a = true) :
    chosen = keepApart clash kept l := by
  induction l generalizing kept chosen with
  | nil => exact List.sublist_nil.mp hsub
  | cons a rest ih =>
    obtain ⟨ha, hrest⟩ := List.pairwise_cons.mp hl
    have hnot : a ∉ rest := fun hmem => hasymm (ha a hmem) (ha a hmem)
    cases hsub with
    | cons _ hsub =>
      -- the first entry is left out; what it clashes with cannot stand after it, so it was kept already
      obtain ⟨k, hk, hR, hclash⟩ := hmax a List.mem_cons_self fun hmem => hnot (hsub.subset hmem)
      have hk : k ∈ kept := by
        rcases List.mem_append.mp hk with hk | hk
        · exact hk
        · exact absurd hR (hasymm (ha k (hsub.subset hk)))
      rw [keepApart_cons_of_clash hk hclash]
      exact ih hrest hsub hkept hapart fun b hb => hmax b (List.mem_cons_of_mem a hb)
    | cons_cons _ hsub =>
      -- the first entry is chosen, and counts as kept for the rest
      obtain ⟨hfirst, hapart⟩ := List.pairwise_cons.mp hapart
      rw [keepApart_cons_of_forall fun k hk => hkept k hk a List.mem_cons_self]
      refine congrArg (a :: ·) (ih hrest hsub (fun k hk b hb => ?_) hapart fun b hb hout => ?_)
      · rcases List.mem_append.mp hk with hk | hk
        · exact hkept k hk b (List.mem_cons_of_mem a hb)
        · rw [List.mem_singleton.mp hk]
          exact hfirst b hb
      · have hne : b ≠ a := fun heq => hnot (heq ▸ hb)
        have hfound := hmax b (List.mem_cons_of_mem a hb) (by simp [hne, hout])
        rwa [List.append_assoc, List.singleton_append]

/-! ### Tagged entries -/

/-- Filtering commutes with forgetting what the entries are tagged with. -/
theorem map_keepApart (f : β → α) (kept l : List β) :
    (keepApart (fun a b => clash (f a) (f b)) kept l).map f =
      keepApart clash (kept.map f) (l.map f) := by
  induction l generalizing kept with
  | nil => rfl
  | cons a rest ih =>
    rcases clash_or_forall (fun a b => clash (f a) (f b)) kept a with ⟨k, hk, hclash⟩ | hfree
    · rw [keepApart_cons_of_clash hk hclash, List.map_cons,
        keepApart_cons_of_clash (List.mem_map_of_mem hk) hclash, ih]
    · have hfree' : ∀ k ∈ kept.map f, clash k (f a) = false := by simpa using hfree
      rw [keepApart_cons_of_forall hfree, List.map_cons, List.map_cons,
        keepApart_cons_of_forall hfree', ih, List.map_append, List.map_singleton]

end Checkup.Duplication
