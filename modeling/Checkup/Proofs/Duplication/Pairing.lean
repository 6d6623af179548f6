import Checkup.Proofs.Duplication.Candidate

/-!
# Detection by two loops

Detection is defined by a single pass with buckets. Its result is that of two nested loops: one over all
windows in order of discovery, and for each of them one over all windows before it (`matchingPairs`). The
loops give the candidates of the pass, each as often and at the same place (`candidates_eq_map_matchingPairs`),
which is what thinning needs, because it breaks ties by the order of its input.

Nothing is asked of the files here. Several may have one path: windows of one path are never paired, be they
of one file or of two, though they stand in the buckets of their fingerprints like all others.
-/

namespace Checkup.Duplication

/-- Each window with every earlier one that has its fingerprint and another path. The pairs come by the
later window, and those of one later window by the earlier one. -/
def matchingPairs (ws : List Window) : List (Window × Window) :=
  ws.zipIdx.flatMap fun (later, place) =>
    ((ws.take place).filter fun earlier =>
      earlier.fingerprint = later.fingerprint ∧ earlier.path ≠ later.path).map (·, later)

/-- The candidates in terms of places: those of a window are made with the windows before all of `ws` and
with the windows of `ws` before its own place. -/
theorem pairsAfter_eq_flatMap_zipIdx (earlier ws : List Window) :
    pairsAfter earlier ws = ws.zipIdx.flatMap fun (later, place) =>
      ((earlier ++ ws.take place).filter (·.matches later)).map (Duplicate.ofWindows · later) := by
  induction ws generalizing earlier with
  | nil => rfl
  | cons w rest ih =>
    -- in the tail all places are one less, and `w` stands before all of them
    have hshift : ∀ place, earlier ++ (w :: rest).take (place + 1) =
        (earlier ++ [w]) ++ rest.take place := by
      intro place
      rw [List.take_succ_cons, List.append_assoc, List.singleton_append]
    rw [pairsAfter, ih, List.zipIdx_cons, List.flatMap_cons, List.zipIdx_succ, List.flatMap_map]
    simp only [List.take_zero, List.append_nil, hshift]

/-- **The bucket pass finds the pairs of the two loops**, each as often and in the same order. -/
theorem candidates_eq_map_matchingPairs (ws : List Window) :
    candidates ws = (matchingPairs ws).map fun (p, q) => Duplicate.ofWindows p q := by
  have hmatches : ∀ p q : Window,
      p.matches q = decide (p.fingerprint = q.fingerprint ∧ p.path ≠ q.path) := by
    intro p q
    simp [Window.matches, bne, beq_eq_decide]
  rw [candidates_eq_pairsAfter, pairsAfter_eq_flatMap_zipIdx, matchingPairs, List.map_flatMap]
  simp only [List.nil_append, List.map_map, hmatches, Function.comp_def]

/-- **Detection is thinning of the pairs found by two loops**, for all files and settings: it fails where
the listing of the windows fails, and its candidates are the pairs of the loops as a list. -/
theorem findDuplicates_eq_resolveOverlaps_matchingPairs (settings : Settings)
    (files : List SourceFile) :
    (findDuplicates settings files = do
      let listings ← files.mapM (windows settings)
      return resolveOverlaps
        ((matchingPairs listings.flatten).map fun (p, q) => Duplicate.ofWindows p q)) ∧
    ∀ ws, candidates ws = (matchingPairs ws).map fun (p, q) => Duplicate.ofWindows p q := by
  refine ⟨?_, candidates_eq_map_matchingPairs⟩
  rw [findDuplicates, allWindows]
  cases files.mapM (windows settings) with
  | error overflow => rfl
  | ok listings => exact congrArg (Except.ok ∘ resolveOverlaps) (candidates_eq_map_matchingPairs _)

end Checkup.Duplication
