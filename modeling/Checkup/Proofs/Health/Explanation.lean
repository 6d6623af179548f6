import Checkup.Health.Profile
import Checkup.Proofs.Number.Measure
import Mathlib.Tactic.NormNum

/-!
# Every lost point is explained

The score and the issues of a summary are computed apart from each other. They count the same things, in exact
arithmetic: the score can be read off the issues (`IsAccountedFor`), and it is 100 if there is nothing but what is
told for information, the largest asset and the files that could not be read (`exists_isAccountedFor`).

* **Complexity** — a file above twice the limit is above the limit, so the critical files are among those with an
  issue, and the files within the limit are the others (`Complexity.Findings.score_eq`).
* **Dependencies** — one issue for each ten points that are lost and for each five, and one for all dependencies
  beyond the maximum (`Dependency.Findings.score_eq`).
* **Escapes** — a file that is not checked at all has an issue of its own, and the escapes of each other kind share
  one (`Escapes.Findings.ofKind_summary`). Each escape is counted in one of these places
  (`Escapes.Findings.sum_map_count`).
-/

namespace Checkup

open Checkup.Health

theorem Measure.lt_of_clamp_lt {x : Rat} (h : Measure.clamp x < 100) : x < 100 := by
  by_contra hx
  rw [Measure.clamp_eq_ite, if_neg fun h0 => hx (h0.trans (by decide))] at h
  split at h
  · exact lt_irrefl _ h
  · exact hx h

/-! ### Issues of one kind -/

namespace Health

/-- The issues of a kind. -/
def ofKind (kind : String) (issues : List Issue) : List Issue :=
  issues.filter (·.kind = kind)

/-- An issue is not told for information only. -/
def Issue.IsExplanation (issue : Issue) : Prop :=
  issue.kind ≠ "largest-asset" ∧ issue.kind ≠ "unreadable-file"

theorem ofKind_append (kind : String) (issues others : List Issue) :
    ofKind kind (issues ++ others) = ofKind kind issues ++ ofKind kind others :=
  List.filter_append ..

/-- Issues that are all of one kind. -/
theorem ofKind_of_forall {own : String} {issues : List Issue} (h : ∀ i ∈ issues, i.kind = own) (kind : String) :
    ofKind kind issues = if own = kind then issues else [] := by
  rw [ofKind]
  split
  · next heq => exact List.filter_eq_self.mpr fun i hi => decide_eq_true ((h i hi).trans heq)
  · next hne => exact List.filter_eq_nil_iff.mpr fun i hi => by simpa [h i hi] using hne

theorem ofKind_map {β : Type} (issue : β → Issue) (own : String) (h : ∀ b, (issue b).kind = own) (l : List β)
    (kind : String) : ofKind kind (l.map issue) = if own = kind then l.map issue else [] :=
  ofKind_of_forall (List.forall_mem_map.mpr fun b _ => h b) kind

theorem ofKind_unreadableIssues (files : List String) (kind : String) :
    ofKind kind (unreadableIssues files) = if "unreadable-file" = kind then unreadableIssues files else [] :=
  ofKind_map _ "unreadable-file" (fun _ => rfl) files kind

theorem exists_isExplanation_of_ofKind_ne_nil {kind : String} {issues : List Issue} (hne : ofKind kind issues ≠ [])
    (hkind : kind ≠ "largest-asset" ∧ kind ≠ "unreadable-file") : ∃ issue ∈ issues, issue.IsExplanation := by
  obtain ⟨issue, hissue⟩ := List.exists_mem_of_ne_nil _ hne
  obtain ⟨hmem, heq⟩ := List.mem_filter.mp hissue
  obtain rfl : issue.kind = kind := of_decide_eq_true heq
  exact ⟨issue, hmem, hkind⟩

end Health

/-! ### Duplication -/

namespace Duplication.Findings

theorem ofKind_duplicates (f : Findings) :
    ofKind "duplicate-block" (f.summary : Summary Rat).issues = f.duplicates.map issue := by
  rw [summary, ofKind_append, ofKind_map issue "duplicate-block" fun _ => rfl, ofKind_unreadableIssues]
  exact List.append_nil _

theorem exists_isExplanation {f : Findings} (h : (f.score : Rat) < 100) :
    ∃ issue ∈ (f.summary : Summary Rat).issues, issue.IsExplanation := by
  refine exists_isExplanation_of_ofKind_ne_nil (fun hnil => ?_) (by decide : "duplicate-block" ≠ _ ∧ _)
  rw [ofKind_duplicates, List.map_eq_nil_iff] at hnil
  rw [score, hnil] at h
  exact lt_irrefl _ h

end Duplication.Findings

/-! ### Complexity -/

namespace Complexity.Findings

variable {f : Findings}

/-- The files above twice the limit are above the limit. -/
theorem filter_isCritical_overLimit (f : Findings) :
    f.overLimit.filter (·.isCritical f.maxFileComplexity) =
      f.files.filter (·.isCritical f.maxFileComplexity) := by
  rw [overLimit, List.filter_filter]
  refine List.filter_congr fun file _ => ?_
  rw [FileComplexity.isCritical, Bool.and_eq_left_iff_imp, decide_eq_true_iff, decide_eq_true_iff]
  omega

/-- The files are those within the limit and those above it. -/
theorem length_within_add (f : Findings) :
    (f.files.filter (·.complexity ≤ f.maxFileComplexity)).length + f.overLimit.length = f.files.length := by
  rw [overLimit, ← List.countP_eq_length_filter, ← List.countP_eq_length_filter,
    List.length_eq_countP_add_countP fun file : FileComplexity => decide (file.complexity ≤ f.maxFileComplexity)]
  simp only [decide_eq_true_eq, Nat.not_le]

theorem ofKind_high (f : Findings) : ofKind "high-complexity" (f.summary : Summary Rat).issues =
    f.overLimit.map (issue f.maxFileComplexity) := by
  rw [summary, ofKind_append, ofKind_map (issue _) "high-complexity" fun _ => rfl, ofKind_unreadableIssues]
  exact List.append_nil _

theorem length_critical_high (f : Findings) :
    ((ofKind "high-complexity" (f.summary : Summary Rat).issues).filter (·.severity = .critical)).length =
      (f.files.filter (·.isCritical f.maxFileComplexity)).length := by
  have hseverity : ∀ file ∈ f.overLimit, decide ((issue f.maxFileComplexity file).severity = .critical) =
      file.isCritical f.maxFileComplexity := by
    intro file _
    rw [issue]
    cases file.isCritical f.maxFileComplexity <;> rfl
  rw [ofKind_high, List.filter_map, List.length_map, ← filter_isCritical_overLimit]
  exact congrArg List.length (List.filter_congr hseverity)

theorem score_eq (h : f.files ≠ []) : (f.score : Rat) =
    let high := ofKind "high-complexity" (f.summary : Summary Rat).issues
    let critical := high.filter (·.severity = .critical)
    (100 * (f.files.length - high.length) / f.files.length - 2 * critical.length : Rat) := by
  have hwithin : ((f.files.filter (·.complexity ≤ f.maxFileComplexity)).length : Rat) =
      f.files.length - f.overLimit.length := by
    rw [eq_sub_iff_add_eq]
    exact_mod_cast f.length_within_add
  dsimp only
  rw [score, if_neg (by simpa using h), length_critical_high, ofKind_high, List.length_map, ← hwithin]
  rfl

theorem exists_isExplanation (h : (f.score : Rat) < 100) :
    ∃ issue ∈ (f.summary : Summary Rat).issues, issue.IsExplanation := by
  refine exists_isExplanation_of_ofKind_ne_nil (fun hnil => ?_) (by decide : "high-complexity" ≠ _ ∧ _)
  by_cases hfiles : f.files = []
  · rw [score, hfiles] at h
    exact lt_irrefl _ h
  · have hlength : (f.files.length : Rat) ≠ 0 := by simpa using hfiles
    rw [score_eq hfiles, hnil] at h
    simp [hlength] at h

end Complexity.Findings

/-! ### Dependencies -/

namespace Dependency.Findings

variable {f : Findings}

theorem ofKind_summary (f : Findings) (kind : String) : ofKind kind (f.summary : Summary Rat).issues =
    (if "unpinned-dependency" = kind then f.unpinned.map (unpinnedIssue f.manifest) else []) ++
      (if "outdated-dependency" = kind then f.outdated.map outdatedIssue else []) ++
      (if "too-many-dependencies" = kind then f.excessIssues else []) := by
  have hexcess : ∀ issue ∈ f.excessIssues, issue.kind = "too-many-dependencies" := by
    intro issue hissue
    rw [excessIssues] at hissue
    split at hissue
    · rw [List.mem_singleton.mp hissue]
    · contradiction
  rw [summary, ofKind_append, ofKind_append, ofKind_map (unpinnedIssue _) "unpinned-dependency" fun _ => rfl,
    ofKind_map outdatedIssue "outdated-dependency" fun _ => rfl, ofKind_of_forall hexcess]

theorem length_unpinned (f : Findings) :
    (ofKind "unpinned-dependency" (f.summary : Summary Rat).issues).length = f.unpinned.length := by
  simp [ofKind_summary]

theorem length_outdated (f : Findings) :
    (ofKind "outdated-dependency" (f.summary : Summary Rat).issues).length = f.outdated.length := by
  simp [ofKind_summary]

theorem ofKind_excess_ne_nil_iff (f : Findings) :
    ofKind "too-many-dependencies" (f.summary : Summary Rat).issues ≠ [] ↔ 0 < f.excess := by
  simp [ofKind_summary, excessIssues]

theorem score_eq (f : Findings) : (f.score : Rat) =
    100 - 10 * (ofKind "unpinned-dependency" (f.summary : Summary Rat).issues).length -
      5 * (ofKind "outdated-dependency" (f.summary : Summary Rat).issues).length - f.excess := by
  rw [length_unpinned, length_outdated]
  rfl

theorem exists_isExplanation (h : (f.score : Rat) < 100) :
    ∃ issue ∈ (f.summary : Summary Rat).issues, issue.IsExplanation := by
  by_contra hnone
  have hnil : ∀ kind : String, kind ≠ "largest-asset" ∧ kind ≠ "unreadable-file" →
      ofKind kind (f.summary : Summary Rat).issues = [] := fun kind hkind =>
    by_contra fun hne => hnone (exists_isExplanation_of_ofKind_ne_nil hne hkind)
  have hexcess : f.excess = 0 :=
    Nat.eq_zero_of_not_pos fun hpos => f.ofKind_excess_ne_nil_iff.mpr hpos (hnil _ (by decide))
  rw [score_eq, hnil "unpinned-dependency" (by decide), hnil "outdated-dependency" (by decide), hexcess] at h
  norm_num at h

end Dependency.Findings

/-! ### Assets -/

namespace Assets.Findings

variable {f : Findings}

theorem ofKind_budget_ne_nil_iff (f : Findings) :
    ofKind "over-budget" (f.summary : Summary Rat).issues ≠ [] ↔ f.budgetBytes < f.totalBytes := by
  have hlargest : ∀ issue ∈ f.largestIssues, issue.kind = "largest-asset" := by
    intro issue hissue
    rw [largestIssues] at hissue
    split at hissue
    · rw [List.mem_singleton.mp hissue]
    · contradiction
  have hbudget : ∀ issue ∈ f.budgetIssues, issue.kind = "over-budget" := by
    intro issue hissue
    rw [budgetIssues] at hissue
    split at hissue
    · rw [List.mem_singleton.mp hissue]
    · contradiction
  rw [summary, ofKind_append, ofKind_of_forall hbudget, ofKind_of_forall hlargest]
  simp [budgetIssues, isOverBudget]

theorem exists_isExplanation (h : (f.score : Rat) < 100) :
    ∃ issue ∈ (f.summary : Summary Rat).issues, issue.IsExplanation := by
  refine exists_isExplanation_of_ofKind_ne_nil (f.ofKind_budget_ne_nil_iff.mpr ?_) (by decide)
  by_contra hwithin
  rw [score, if_pos (Nat.not_lt.mp hwithin)] at h
  exact lt_irrefl _ h

end Assets.Findings

/-! ### Escapes -/

namespace Escapes

theorem Kind.name_inj {kind other : Kind} : kind.name = other.name ↔ kind = other := by
  cases kind <;> cases other <;> decide

theorem Kind.name_ne (kind : Kind) : kind.name ≠ "largest-asset" ∧ kind.name ≠ "unreadable-file" := by
  cases kind <;> decide

namespace Findings

variable {f : Findings}

/-- Each escape is counted under its kind and no other. -/
theorem sum_map_count (f : Findings) : (Kind.all.map f.count).sum = f.escapes.length := by
  have hcount : ∀ escapes : List Escape,
      (Kind.all.map fun kind => (escapes.filter (·.kind = kind)).length).sum = escapes.length := by
    intro escapes
    induction escapes with
    | nil => rfl
    | cons escape rest ih =>
      obtain ⟨kind, path, line⟩ := escape
      simp only [Kind.all, List.map_cons, List.map_nil, List.sum_cons, List.sum_nil] at ih ⊢
      cases kind <;> simp <;> omega
  exact hcount f.escapes

theorem ofKind_kindIssues (f : Findings) (kind other : Kind) :
    ofKind kind.name (f.kindIssues other) = if other = kind then f.kindIssues other else [] := by
  have hname : ∀ issue ∈ f.kindIssues other, issue.kind = other.name := by
    intro issue hissue
    rw [kindIssues] at hissue
    split at hissue
    · contradiction
    · rw [List.mem_singleton.mp hissue]
  simp only [ofKind_of_forall hname, Kind.name_inj]

/-- The issues for files that are not checked, one for each, and one issue at most for each other kind. -/
theorem ofKind_summary (f : Findings) (kind : Kind) : ofKind kind.name (f.summary : Summary Rat).issues =
    if kind = .noCheck then (f.escapes.filter (·.kind = .noCheck)).map noCheckIssue else f.kindIssues kind := by
  have hkinds : ofKind kind.name (Kind.all.flatMap f.kindIssues) = f.kindIssues kind := by
    simp only [Kind.all, List.flatMap_cons, List.flatMap_nil, ofKind_append, ofKind_kindIssues]
    cases kind <;> simp [ofKind]
  rw [summary, ofKind_append, ofKind_append, ofKind_unreadableIssues, if_neg kind.name_ne.2.symm,
    ofKind_map noCheckIssue Kind.noCheck.name fun _ => rfl, hkinds, List.append_nil]
  simp only [Kind.name_inj, eq_comm]
  split
  · next heq => rw [heq, kindIssues]; simp
  · rfl

/-- The escapes that are told of one by one and those that are told of together are all escapes. -/
theorem length_noCheck_add_sum (f : Findings) :
    (ofKind "no-check" (f.summary : Summary Rat).issues).length +
      ((Kind.all.filter (· ≠ .noCheck)).map f.count).sum = f.escapes.length := by
  have hnoCheck : (ofKind "no-check" (f.summary : Summary Rat).issues).length = f.count .noCheck := by
    have hissues := congrArg List.length (f.ofKind_summary .noCheck)
    rw [if_pos rfl, List.length_map] at hissues
    exact hissues
  rw [hnoCheck, ← sum_map_count]
  simp only [Kind.all, List.map_cons, List.map_nil, List.sum_cons, List.sum_nil]
  simp
  omega

theorem exists_isExplanation (h : (f.score : Rat) < 100) :
    ∃ issue ∈ (f.summary : Summary Rat).issues, issue.IsExplanation := by
  have hne : f.escapes ≠ [] := by
    intro hnil
    have hdensity : (f.density : Rat) = 0 := by
      rw [density, hnil]
      split
      · rfl
      · simp [Measure.ofNat_eq]
    rw [score, hdensity] at h
    norm_num [Measure.ofNat_eq] at h
  obtain ⟨escape, hescape⟩ := List.exists_mem_of_ne_nil _ hne
  have hmem : escape ∈ f.escapes.filter (·.kind = escape.kind) := List.mem_filter.mpr ⟨hescape, by simp⟩
  refine exists_isExplanation_of_ofKind_ne_nil ?_ escape.kind.name_ne
  rw [ofKind_summary]
  split
  · next heq =>
    rw [← heq]
    exact mt List.map_eq_nil_iff.mp (List.ne_nil_of_mem hmem)
  · next hother =>
    have hcount : f.count escape.kind ≠ 0 := (List.length_pos_iff.mpr (List.ne_nil_of_mem hmem)).ne'
    simp [kindIssues, hother, hcount]

end Findings

end Escapes

/-! ### Summaries -/

namespace Health

/-- The score of a summary and what it was made from agree with its issues. -/
def IsAccountedFor (score : Rat) (issues : List Issue) : Findings → Prop
  | .duplication found => (ofKind "duplicate-block" issues).length = found.duplicates.length
  | .complexity found => found.files ≠ [] →
    let high := ofKind "high-complexity" issues
    let critical := high.filter (·.severity = .critical)
    score = Measure.clamp (100 * (found.files.length - high.length) / found.files.length - 2 * critical.length : Rat)
  | .dependency found =>
    let unpinned := ofKind "unpinned-dependency" issues
    let outdated := ofKind "outdated-dependency" issues
    let excess := found.entries.countP (!·.dev) - found.maxDependencies
    score = Measure.clamp (100 - 10 * unpinned.length - 5 * outdated.length - excess : Rat) ∧
      (ofKind "too-many-dependencies" issues ≠ [] ↔ 0 < excess)
  | .bundleSize found => ofKind "over-budget" issues ≠ [] ↔ found.budgetBytes < found.totalBytes
  | .typeSafety found => ∃ grouped : Escapes.Kind → Nat,
    (∀ kind ≠ .noCheck, (ofKind kind.name issues).map (·.message) =
      if grouped kind = 0 then [] else [s!"{grouped kind} {kind.text} occurrences"]) ∧
    (ofKind "no-check" issues).length + ((Escapes.Kind.all.filter (· ≠ .noCheck)).map grouped).sum =
      found.escapes.length

theorem Profiles.forall_mem_builtIn {p : Profile Rat → Prop} : (∀ profile ∈ Profiles.builtIn, p profile) ↔
    p .duplication ∧ p .complexity ∧ p .dependency ∧ p .bundleSize ∧ p .typeSafety := by
  simp [Profiles.builtIn]

/-- **Every lost point is explained by the issues.** Any findings are read by just one of the built-in profiles. If
the score of the summary is below 100, the summary has an issue that is not told for information only; and the score
is what the issues come to. -/
theorem exists_isAccountedFor (findings : Findings) :
    ∃ profile ∈ (Profiles.builtIn : Profiles Rat), ∃ summary, profile.summarize? findings = some summary ∧
      (∀ other ∈ (Profiles.builtIn : Profiles Rat), (other.summarize? findings).isSome → other = profile) ∧
      (summary.score < 100 → ∃ issue ∈ summary.issues, issue.IsExplanation) ∧
      IsAccountedFor summary.score summary.issues findings := by
  cases findings with
  | duplication found =>
    refine ⟨.duplication, by simp [Profiles.builtIn], _, rfl,
      Profiles.forall_mem_builtIn.mpr ⟨fun _ => rfl, nofun, nofun, nofun, nofun⟩,
      fun h => found.exists_isExplanation (Measure.lt_of_clamp_lt h), ?_⟩
    rw [IsAccountedFor, found.ofKind_duplicates, List.length_map]
  | complexity found =>
    refine ⟨.complexity, by simp [Profiles.builtIn], _, rfl,
      Profiles.forall_mem_builtIn.mpr ⟨nofun, fun _ => rfl, nofun, nofun, nofun⟩,
      fun h => found.exists_isExplanation (Measure.lt_of_clamp_lt h), fun hfiles => ?_⟩
    exact congrArg Measure.clamp (Complexity.Findings.score_eq hfiles)
  | dependency found =>
    have hexcess : found.entries.countP (!·.dev) - found.maxDependencies = found.excess := by
      rw [Dependency.Findings.excess, Dependency.Findings.directCount, List.countP_eq_length_filter]
    refine ⟨.dependency, by simp [Profiles.builtIn], _, rfl,
      Profiles.forall_mem_builtIn.mpr ⟨nofun, nofun, fun _ => rfl, nofun, nofun⟩,
      fun h => found.exists_isExplanation (Measure.lt_of_clamp_lt h), ?_⟩
    rw [IsAccountedFor, hexcess]
    dsimp only
    exact ⟨congrArg Measure.clamp found.score_eq, found.ofKind_excess_ne_nil_iff⟩
  | bundleSize found =>
    exact ⟨.bundleSize, by simp [Profiles.builtIn], _, rfl,
      Profiles.forall_mem_builtIn.mpr ⟨nofun, nofun, nofun, fun _ => rfl, nofun⟩,
      fun h => found.exists_isExplanation (Measure.lt_of_clamp_lt h), found.ofKind_budget_ne_nil_iff⟩
  | typeSafety found =>
    refine ⟨.typeSafety, by simp [Profiles.builtIn], _, rfl,
      Profiles.forall_mem_builtIn.mpr ⟨nofun, nofun, nofun, nofun, fun _ => rfl⟩,
      fun h => found.exists_isExplanation (Measure.lt_of_clamp_lt h),
      found.count, fun kind hkind => ?_, found.length_noCheck_add_sum⟩
    have hissues : ofKind kind.name (found.summary : Summary Rat).issues = found.kindIssues kind := by
      rw [found.ofKind_summary, if_neg hkind]
    refine (congrArg _ hissues).trans ?_
    by_cases hcount : found.count kind = 0 <;> simp [Escapes.Findings.kindIssues, hcount, hkind]

end Health

end Checkup
