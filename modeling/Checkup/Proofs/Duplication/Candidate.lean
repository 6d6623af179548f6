import Checkup.Duplication.Detect
import Checkup.Proofs.Duplication.Window

/-!
# Candidates

The pass over the windows looks up the bucket of each fingerprint. What it finds there is what a second
loop over all earlier windows would find, in the same order (`candidates_eq_pairsAfter`): after any number
of windows, a bucket holds exactly the windows so far with its fingerprint (`HoldsWindows`), those of the
same file included.

So the candidates among the windows of some files are the pairs of ranges with one fingerprint in two
files of different paths, the file that stands first in the list on the first side
(`mem_candidates_windowList`).
-/

namespace Checkup.Duplication

/-! ### Pairs in order -/

section Pairs

variable {α β : Type}

theorem pair_sublist_cons_iff {a b c : α} {l : List α} :
    [a, b].Sublist (c :: l) ↔ a = c ∧ b ∈ l ∨ [a, b].Sublist l := by
  rw [List.cons_sublist_cons', List.singleton_sublist, or_comm]

theorem pair_sublist_append_iff {a b : α} {l m : List α} :
    [a, b].Sublist (l ++ m) ↔ [a, b].Sublist l ∨ a ∈ l ∧ b ∈ m ∨ [a, b].Sublist m := by
  induction l with
  | nil => simp
  | cons c l ih =>
    rw [List.cons_append, pair_sublist_cons_iff, ih, pair_sublist_cons_iff, List.mem_append,
      List.mem_cons]
    grind

/-- Two entries in order come from one of the lists that are joined, or from two of them in order. -/
theorem pair_sublist_flatMap_iff {f : α → List β} {a b : β} {l : List α} :
    [a, b].Sublist (l.flatMap f) ↔
      (∃ x ∈ l, [a, b].Sublist (f x)) ∨ ∃ x y, [x, y].Sublist l ∧ a ∈ f x ∧ b ∈ f y := by
  induction l with
  | nil => simp
  | cons c l ih =>
    rw [List.flatMap_cons, pair_sublist_append_iff, ih]
    simp only [pair_sublist_cons_iff, List.mem_flatMap, List.mem_cons]
    grind

end Pairs

/-! ### The loop over all earlier windows -/

/-- Whether two windows make a candidate: their fingerprints agree and their files differ. -/
def Window.matches (earlier later : Window) : Bool :=
  earlier.fingerprint == later.fingerprint && earlier.path != later.path

/-- The candidates that windows make with one another and with the earlier ones, found by going through all
earlier windows for each. -/
def pairsAfter (earlier : List Window) : List Window → List Duplicate
  | [] => []
  | w :: rest =>
    (earlier.filter (·.matches w)).map (Duplicate.ofWindows · w) ++ pairsAfter (earlier ++ [w]) rest

/-- Each bucket holds the earlier windows with its fingerprint, the latest first. -/
def HoldsWindows (buckets : Buckets) (earlier : List Window) : Prop :=
  ∀ print, buckets.getD print [] = (earlier.filter (·.fingerprint == print)).reverse

theorem holdsWindows_empty : HoldsWindows ∅ [] := by
  intro print
  simp

/-- One more window in its bucket. -/
theorem HoldsWindows.insert {buckets : Buckets} {earlier : List Window}
    (h : HoldsWindows buckets earlier) (w : Window) :
    HoldsWindows (buckets.insert w.fingerprint (w :: buckets.getD w.fingerprint []))
      (earlier ++ [w]) := by
  intro print
  rw [Std.HashMap.getD_insert, List.filter_append, List.reverse_append, ← h print]
  by_cases hw : w.fingerprint = print
  · simp [hw]
  · simp [hw]

/-- **Looking into buckets is looking at all earlier windows.** -/
theorem candidatesAfter_eq_pairsAfter {buckets : Buckets} {earlier : List Window}
    (h : HoldsWindows buckets earlier) (ws : List Window) :
    candidatesAfter buckets ws = pairsAfter earlier ws := by
  induction ws generalizing buckets earlier with
  | nil => rfl
  | cons w rest ih =>
    have hseen : (buckets.getD w.fingerprint []).reverse.filter (·.path != w.path) =
        earlier.filter (·.matches w) := by
      rw [h, List.reverse_reverse, List.filter_filter]
      exact List.filter_congr fun p _ => Bool.and_comm _ _
    rw [candidatesAfter, pairsAfter, ih (h.insert w), hseen]

theorem candidates_eq_pairsAfter (ws : List Window) : candidates ws = pairsAfter [] ws :=
  candidatesAfter_eq_pairsAfter holdsWindows_empty ws

theorem mem_pairsAfter {earlier ws : List Window} {d : Duplicate} :
    d ∈ pairsAfter earlier ws ↔ ∃ p w, (p ∈ earlier ∧ w ∈ ws ∨ [p, w].Sublist ws) ∧
      p.matches w ∧ d = .ofWindows p w := by
  induction ws generalizing earlier with
  | nil => simp [pairsAfter]
  | cons v rest ih =>
    rw [pairsAfter, List.mem_append, ih]
    simp only [List.mem_map, List.mem_filter, List.mem_append, List.mem_cons,
      pair_sublist_cons_iff]
    grind

/-! ### Candidates among files -/

/-- Two ranges of lines with one fingerprint, both worth comparing, in two files of different paths that
stand in the list in this order. -/
structure EqualRanges (settings : Settings) (files : List SourceFile) (f g : SourceFile)
    (r s : LineRange) : Prop where
  ordered : [f, g].Sublist files
  path_ne : f.path ≠ g.path
  left : IsComparable settings f r
  right : IsComparable settings g s
  fingerprint_eq : f.rangeFingerprint r = g.rangeFingerprint s

/-- The duplicate that two equal ranges make. -/
def Duplicate.ofRanges (f g : SourceFile) (r s : LineRange) : Duplicate where
  fileA := f.path
  fileB := g.path
  rangeA := r
  rangeB := s
  lineCount := s.stop + 1 - s.start
  sample := sampleOf (g.linesText s)

theorem mem_candidates_windowList {settings : Settings} {files : List SourceFile} {d : Duplicate} :
    d ∈ candidates (files.flatMap (windowList settings)) ↔
      settings.minLines ≠ 0 ∧
        ∃ f g r s, EqualRanges settings files f g r s ∧ d = .ofRanges f g r s := by
  rw [candidates_eq_pairsAfter, mem_pairsAfter]
  constructor
  · rintro ⟨p, w, hpw, hmatch, rfl⟩
    have hpw := hpw.resolve_left (by simp)
    rw [Window.matches, Bool.and_eq_true, beq_iff_eq, bne_iff_ne] at hmatch
    rcases pair_sublist_flatMap_iff.mp hpw with ⟨f, -, hsame⟩ | ⟨f, g, hfg, hp, hw⟩
    · -- both windows are of one file, so their paths agree
      have hp : p ∈ windowList settings f := hsame.subset (by simp)
      have hw : w ∈ windowList settings f := hsame.subset (by simp)
      obtain ⟨-, r, -, rfl⟩ := mem_windowList.mp hp
      obtain ⟨-, s, -, rfl⟩ := mem_windowList.mp hw
      exact absurd rfl hmatch.2
    · obtain ⟨hmin, r, hr, rfl⟩ := mem_windowList.mp hp
      obtain ⟨-, s, hs, rfl⟩ := mem_windowList.mp hw
      exact ⟨hmin, f, g, r, s, ⟨hfg, hmatch.2, hr, hs, hmatch.1⟩, rfl⟩
  · rintro ⟨hmin, f, g, r, s, h, rfl⟩
    have hp : Window.ofRange f r ∈ windowList settings f :=
      mem_windowList.mpr ⟨hmin, r, h.left, rfl⟩
    have hw : Window.ofRange g s ∈ windowList settings g :=
      mem_windowList.mpr ⟨hmin, s, h.right, rfl⟩
    refine ⟨.ofRange f r, .ofRange g s, Or.inr ?_, ?_, rfl⟩
    · exact pair_sublist_flatMap_iff.mpr (Or.inr ⟨f, g, h.ordered, hp, hw⟩)
    · simp [Window.matches, Window.ofRange, h.fingerprint_eq, h.path_ne]

end Checkup.Duplication
