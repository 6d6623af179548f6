import Checkup.Health.Page
import Mathlib.Data.Nat.Digits.Defs

/-!
# No text of a report adds markup to the page

The markup of a page is its characters that delimit tags and attributes, in order (`Page.markup`). It hangs on
the *shape* of the report alone, which is how many projects, summaries, failed analyses and recommendations
there are (`WorkspaceReport.shape`): two reports of one shape have pages with the same markup, whatever texts,
scores and dates they hold and whatever the profiles are.

* What is escaped has no markup (`Page.markup_escape`), and neither have the names of bands, trends and
  priorities, numbers (`Page.markup_fixedText`) and points in time (`Page.markup_displayText`).
* So each row and each section of the page has the same markup as any other of its kind, and lists of them
  have the same markup when they are as long (`Page.markup_join_map_congr`).
* Escaping loses nothing: reading the entities back gives the text again (`Page.unescape_escape`).
-/

namespace Checkup.Health

namespace Page

/-! ### Markup -/

/-- Whether `c` delimits a tag or an attribute. -/
def isMarkup (c : Char) : Bool :=
  c = '<' || c = '>' || c = '"' || c = '\''

/-- The characters of a text that delimit tags and attributes, in order. -/
def markup (text : String) : List Char :=
  text.toList.filter isMarkup

theorem markup_append (a b : String) : markup (a ++ b) = markup a ++ markup b := by
  rw [markup, String.toList_append, List.filter_append]
  rfl

theorem markup_join (texts : List String) : markup (String.join texts) = texts.flatMap markup := by
  rw [markup, String.toList_join, List.filter_flatMap]
  rfl

theorem markup_eq_nil {text : String} (h : ∀ c ∈ text.toList, isMarkup c = false) : markup text = [] :=
  List.filter_eq_nil_iff.mpr fun c hc => Bool.eq_false_iff.mp (h c hc)

theorem isMarkup_of_isDigit {c : Char} (hc : c.isDigit = true) : isMarkup c = false := by
  rw [Bool.eq_false_iff]
  intro hmarkup
  simp only [isMarkup, Bool.or_eq_true, decide_eq_true_eq] at hmarkup
  rcases hmarkup with ((rfl | rfl) | rfl) | rfl <;> contradiction

/-! ### Escaped texts -/

theorem filter_escapeChar (c : Char) : (escapeChar c).filter isMarkup = [] := by
  rw [escapeChar.eq_def]
  split
  case h_6 _ hlt hgt hquote hsingle =>
    have hnot : isMarkup c = false := by
      simp only [isMarkup, Bool.or_eq_false_iff, decide_eq_false_iff_not]
      exact ⟨⟨⟨hlt, hgt⟩, hquote⟩, hsingle⟩
    rw [List.filter_cons_of_neg (by simp [hnot]), List.filter_nil]
  all_goals decide

/-- **What is escaped has no markup.** -/
theorem markup_escape (text : String) : markup (escape text) = [] := by
  rw [markup, escape, String.toList_ofList, List.filter_flatMap]
  exact List.flatMap_eq_nil_iff.mpr fun c _ => filter_escapeChar c

/-- Characters with the entities among them read back. -/
def unescapeChars : List Char → List Char
  | '&' :: 'a' :: 'm' :: 'p' :: ';' :: rest => '&' :: unescapeChars rest
  | '&' :: 'l' :: 't' :: ';' :: rest => '<' :: unescapeChars rest
  | '&' :: 'g' :: 't' :: ';' :: rest => '>' :: unescapeChars rest
  | '&' :: 'q' :: 'u' :: 'o' :: 't' :: ';' :: rest => '"' :: unescapeChars rest
  | '&' :: '#' :: '3' :: '9' :: ';' :: rest => '\'' :: unescapeChars rest
  | c :: rest => c :: unescapeChars rest
  | [] => []

/-- A text with its entities read back. -/
def unescape (text : String) : String :=
  String.ofList (unescapeChars text.toList)

theorem unescapeChars_cons {c : Char} (hc : c ≠ '&') (rest : List Char) :
    unescapeChars (c :: rest) = c :: unescapeChars rest := by
  rw [unescapeChars.eq_def]
  split <;> simp_all

theorem unescapeChars_escapeChar_append (c : Char) (rest : List Char) :
    unescapeChars (escapeChar c ++ rest) = c :: unescapeChars rest := by
  rw [escapeChar.eq_def]
  split
  case h_6 hamp _ _ _ _ => exact unescapeChars_cons hamp rest
  all_goals simp [unescapeChars]

/-- **Escaping loses nothing.** -/
theorem unescape_escape (text : String) : unescape (escape text) = text := by
  have hchars : ∀ cs : List Char, unescapeChars (cs.flatMap escapeChar) = cs := by
    intro cs
    induction cs with
    | nil => rfl
    | cons c cs ih => rw [List.flatMap_cons, unescapeChars_escapeChar_append, ih]
  rw [unescape, escape, String.toList_ofList, hchars, String.ofList_toList]

/-! ### Names, numbers and dates -/

theorem markup_statusName (status : Status) : markup status.name = [] := by
  cases status <;> decide

theorem markup_trendName (trend : Trend) : markup trend.name = [] := by
  cases trend <;> decide

theorem markup_priorityName (priority : Priority) : markup priority.name = [] := by
  cases priority <;> decide

theorem markup_kindName (kind : Workspace.ProjectKind) : markup kind.name = [] := by
  cases kind <;> decide

theorem isMarkup_of_mem_toDigits (n : Nat) : ∀ c ∈ Nat.toDigits 10 n, isMarkup c = false :=
  fun _ hc => isMarkup_of_isDigit (Nat.isDigit_of_mem_toDigits (by decide) (by decide) hc)

theorem isMarkup_of_mem_zeros (n : Nat) : ∀ c ∈ List.replicate n '0', isMarkup c = false := by
  intro c hc
  rw [List.eq_of_mem_replicate hc]
  rfl

theorem markup_toString (n : Nat) : markup (toString n) = [] := by
  refine markup_eq_nil fun c hc => isMarkup_of_mem_toDigits n c ?_
  simpa [Nat.repr] using hc

theorem isMarkup_of_mem_fixed (places n d : Nat) :
    ∀ c ∈ Number.fixed places n d, isMarkup c = false := by
  -- zeros and digits, parted by a point or not
  generalize hdigits : Nat.toDigits 10 (Number.roundDiv (n * Nat.pow 10 places) d) = digits
  have hall : ∀ c ∈ List.replicate (places + 1 - digits.length) '0' ++ digits, isMarkup c = false := by
    refine List.forall_mem_append.mpr ⟨isMarkup_of_mem_zeros _, ?_⟩
    rw [← hdigits]
    exact isMarkup_of_mem_toDigits _
  rw [Number.fixed, hdigits]
  intro c hc
  split at hc
  · exact hall c (List.mem_of_mem_take hc)
  · rcases List.mem_append.mp hc with hc | hc
    · exact hall c (List.mem_of_mem_take hc)
    · rcases List.mem_cons.mp hc with rfl | hc
      · rfl
      · exact hall c (List.mem_of_mem_drop hc)

theorem isMarkup_of_mem_signed {cs : List Char} (hcs : ∀ c ∈ cs, isMarkup c = false) (negative : Bool) :
    ∀ c ∈ Number.signed negative cs, isMarkup c = false := by
  cases negative with
  | false => exact hcs
  | true => exact List.forall_mem_cons.mpr ⟨rfl, hcs⟩

/-- A double has no markup, also when it is infinite or no number. -/
theorem markup_fixedText (places : Nat) (x : Float) : markup (Number.fixedText places x) = [] := by
  refine markup_eq_nil ?_
  rw [Number.fixedText, String.toList_ofList]
  cases Number.Binary.ofFloat x with
  | nan => simp [isMarkup]
  | infinite negative =>
    have hword : ∀ c ∈ ['i', 'n', 'f'], isMarkup c = false := by simp [isMarkup]
    exact isMarkup_of_mem_signed hword negative
  | finite negative mantissa exponent =>
    cases exponent with
    | ofNat j => exact isMarkup_of_mem_signed (isMarkup_of_mem_fixed _ _ _) negative
    | negSucc j => exact isMarkup_of_mem_signed (isMarkup_of_mem_fixed _ _ _) negative

theorem markup_padded (width n : Nat) : markup (Time.padded width n) = [] := by
  refine markup_eq_nil ?_
  rw [Time.padded, String.toList_ofList]
  exact List.forall_mem_append.mpr ⟨isMarkup_of_mem_zeros _, isMarkup_of_mem_toDigits n⟩

theorem markup_yearText (year : Int) : markup (Time.yearText year) = [] := by
  rw [Time.yearText]
  split
  · exact markup_padded 4 _
  · rw [markup_append, markup_padded, List.append_nil]
    split <;> decide

theorem markup_displayText (t : Time.Timestamp) : markup t.displayText = [] := by
  have hdate : markup (Time.Date.ofDays t.day).text = [] := by
    simp only [Time.Date.text, toString, markup_append, markup_yearText, markup_padded]
    decide
  have hclock : markup t.clockText = [] := by
    simp only [Time.Timestamp.clockText, toString, markup_append, markup_padded]
    decide
  simp only [Time.Timestamp.displayText, toString, markup_append, hdate, hclock]
  decide

/-! ### Rows -/

/-- Lists of texts have the same markup when each text of one has that of the text in its place. -/
theorem markup_join_map_congr {β γ σ : Type} {f : β → String} {g : γ → String} {s : β → σ}
    {t : γ → σ} (hrow : ∀ {b c}, s b = t c → markup (f b) = markup (g c)) {bs : List β} {cs : List γ}
    (hshape : bs.map s = cs.map t) :
    markup (String.join (bs.map f)) = markup (String.join (cs.map g)) := by
  rw [markup_join, markup_join]
  induction bs generalizing cs with
  | nil =>
    obtain rfl := List.map_eq_nil_iff.mp hshape.symm
    rfl
  | cons b bs ih =>
    obtain ⟨c, cs, rfl, hc, hcs⟩ := List.map_eq_cons_iff.mp hshape.symm
    rw [List.map_cons, List.map_cons, List.flatMap_cons, List.flatMap_cons, hrow hc.symm, ih hcs.symm]

/-- Rows that all have the same markup make lists with the same markup when they are as many. -/
theorem markup_join_map_of_length_eq {β γ : Type} {f : β → String} {g : γ → String}
    (hrow : ∀ b c, markup (f b) = markup (g c)) {bs : List β} {cs : List γ}
    (hlength : bs.length = cs.length) :
    markup (String.join (bs.map f)) = markup (String.join (cs.map g)) := by
  refine markup_join_map_congr (s := fun _ => ()) (t := fun _ => ()) (fun _ => hrow _ _) ?_
  rw [List.map_const', List.map_const', hlength]

theorem markup_itemList_of_length_eq {β γ : Type} {f : β → String} {g : γ → String}
    (hrow : ∀ b c, markup (f b) = markup (g c)) (heading : String) {bs : List β} {cs : List γ}
    (hlength : bs.length = cs.length) :
    markup (itemList heading (bs.map f)) = markup (itemList heading (cs.map g)) := by
  have hempty : (bs.map f).isEmpty = (cs.map g).isEmpty := by
    rw [Bool.eq_iff_iff, List.isEmpty_iff_length_eq_zero, List.isEmpty_iff_length_eq_zero,
      List.length_map, List.length_map, hlength]
  rw [itemList, itemList, hempty]
  split
  · rfl
  · simp only [markup_append, markup_join_map_of_length_eq hrow hlength]

theorem markup_workspaceRecommendation (r r' : Recommendation) :
    markup (workspaceRecommendation r) = markup (workspaceRecommendation r') := by
  simp only [workspaceRecommendation, markup_append, markup_escape, markup_priorityName]

theorem markup_unavailableRow (u u' : Unavailable) :
    markup (unavailableRow u) = markup (unavailableRow u') := by
  simp only [unavailableRow, markup_append, markup_escape]

theorem markup_projectRecommendation (r r' : Recommendation) :
    markup (projectRecommendation r) = markup (projectRecommendation r') := by
  simp only [projectRecommendation, markup_append, markup_escape, markup_priorityName]

theorem markup_failedProject (f f' : Workspace.FailedProject) :
    markup (failedProject f) = markup (failedProject f') := by
  simp only [failedProject, markup_append, markup_escape]

theorem markup_scoreText (score : Float) : markup (scoreText score) = [] :=
  markup_fixedText 1 score

theorem markup_summaryRow (profiles profiles' : Profiles Float) (name name' : String)
    (summary summary' : Summary Float) :
    markup (summaryRow profiles name summary) = markup (summaryRow profiles' name' summary') := by
  have hnone : markup "" = [] := rfl
  unfold summaryRow
  -- the name of a band, or nothing where no profile goes by the name
  cases profiles.get? name <;> cases profiles'.get? name' <;>
    simp only [markup_append, markup_escape, markup_scoreText, markup_toString, markup_statusName, hnone]

end Page

/-! ### Shapes -/

/-- How many entries the lists in the report on a project have. -/
structure ProjectShape where
  summaries : Nat
  unavailable : Nat
  recommendations : Nat
  deriving DecidableEq, Repr

/-- The shape of the report on a project. -/
def ProjectReport.shape {α : Type} (r : ProjectReport α) : ProjectShape :=
  ⟨r.summaries.length, r.unavailable.length, r.recommendations.length⟩

/-- How many entries the lists in a report have, and whether the report is partial. -/
structure ReportShape where
  isPartial : Bool
  recommendations : Nat
  projects : List ProjectShape
  failed : Nat
  deriving DecidableEq, Repr

/-- The shape of a report. -/
def WorkspaceReport.shape {α : Type} (r : WorkspaceReport α) : ReportShape :=
  ⟨r.isPartial, r.recommendations.length, r.projects.map (·.shape), r.failed.length⟩

namespace Page

/-! ### The page -/

theorem markup_project (profiles profiles' : Profiles Float) {r r' : ProjectReport Float}
    (h : r.shape = r'.shape) : markup (project profiles r) = markup (project profiles' r') := by
  obtain ⟨hsummaries, hunavailable, hrecommendations⟩ := ProjectShape.mk.inj h
  have hrows := markup_join_map_of_length_eq
    (fun (s s' : String × Summary Float) => markup_summaryRow profiles profiles' s.1 s'.1 s.2 s'.2)
    hsummaries
  have hfailed := markup_join_map_of_length_eq markup_unavailableRow hunavailable
  have hitems := markup_itemList_of_length_eq markup_projectRecommendation "" hrecommendations
  unfold project
  simp only [markup_append, markup_escape, markup_kindName, markup_statusName, markup_scoreText]
  rw [hrows, hfailed, hitems]

theorem markup_overview {report report' : WorkspaceReport Float}
    (h : report.isPartial = report'.isPartial) :
    markup (overview report) = markup (overview report') := by
  unfold overview
  simp only [markup_append, markup_displayText, markup_statusName, markup_scoreText, markup_trendName]
  rw [h]

/-- **The markup of the page hangs on the shape of the report alone**, so no text of a report adds markup; and
no text is lost when it is escaped. -/
theorem markup_page_of_shape_eq (profiles profiles' : Profiles Float)
    {report report' : WorkspaceReport Float} (h : report.shape = report'.shape) :
    markup (report.page profiles) = markup (report'.page profiles') ∧
      ∀ text, unescape (escape text) = text := by
  obtain ⟨hpartial, hrecommendations, hprojects, hfailed⟩ := ReportShape.mk.inj h
  have hadvice := markup_itemList_of_length_eq markup_workspaceRecommendation
    "<h2>Workspace recommendations</h2>\n" hrecommendations
  have hsections : markup (String.join (report.projects.map (project profiles))) =
      markup (String.join (report'.projects.map (project profiles'))) :=
    markup_join_map_congr (markup_project profiles profiles') hprojects
  have hmissing := markup_itemList_of_length_eq markup_failedProject
    "<h2>Projects not scanned</h2>\n" hfailed
  refine ⟨?_, unescape_escape⟩
  simp only [WorkspaceReport.page, markup_append, markup_overview hpartial, hadvice, hsections, hmissing]

/-- A report whose texts are plain words. -/
def tameReport : WorkspaceReport Float where
  timestamp := ⟨20000, 3661, 0⟩
  projects := [{
    projectName := "ui"
    kind := .library
    overallScore := 71.5
    summaries := [("complexity", ⟨100, [], []⟩)]
    recommendations := [⟨.medium, "complexity", "long functions", []⟩]
    unavailable := [⟨"dependency", ["no manifest"]⟩] }]
  score := 71.5
  trend := .stable
  criticalIssues := []
  recommendations := [⟨.medium, "complexity", "widespread", ["ui"]⟩]
  isPartial := true
  failed := [⟨"web", "no project manifest found"⟩]

/-- A report of the same shape with tags and quotation marks in every text, a score that is no number and a date
before the first year. -/
def hostileReport : WorkspaceReport Float where
  timestamp := ⟨-800000, 86399, 1500000000⟩
  projects := [{
    projectName := "<script>alert('ui')</script>"
    kind := .application
    overallScore := 0 / 0
    summaries := [("\"><b>", ⟨-1, [⟨"'", .critical, "<", some ">"⟩], [("<i>", 1)]⟩)]
    recommendations := [⟨.high, "<", "\" onload='", ["</li>"]⟩]
    unavailable := [⟨"</table>", ["<td class=\"healthy\">", "&lt;"]⟩] }]
  score := 1 / 0
  trend := .declining
  criticalIssues := [("<", 1)]
  recommendations := [⟨.low, "</ul>", "<!--", ["<", "'", "\""]⟩]
  isPartial := true
  failed := [⟨"<h2>", "'>'"⟩]

/-- Its page has the markup of the other's, also where no profile goes by the name of a summary. -/
theorem markup_hostilePage :
    hostileReport.shape = tameReport.shape ∧
      markup (hostileReport.page []) = markup (tameReport.page .builtIn) ∧
      ∀ text, unescape (escape text) = text := by
  have hshape : hostileReport.shape = tameReport.shape := by decide
  exact ⟨hshape, markup_page_of_shape_eq [] .builtIn hshape⟩

end Page

end Checkup.Health
