import Checkup.Duplication.Window
import Checkup.Proofs.Text.Lines

/-!
# The windows of a file

The listing gives a result exactly if no sum on its way overflows (`FitsWords`, `exists_windows_eq_ok_iff`).
Then the windows of a file are known without running it: `windowList` takes all ranges of lines of an
allowed length, in order, and keeps those with enough characters (`windows_eq_ok`). So a window is exactly
a range that is worth comparing (`IsComparable`, `mem_windowList`).

The text of a window is `linesText`: the full lines of its range, joined, without the last terminator. The
listing cuts it out between two spans instead (`windowText_eq`).
-/

namespace Checkup.Duplication

open Checkup.Text

/-! ### Ranges of lines -/

/-- The number of lines of a file. -/
def SourceFile.lineCount (file : SourceFile) : Nat :=
  (lines file.content.toList).length

/-- The text of a range of lines: the terminators between them are kept and the last one is left out. -/
def SourceFile.linesText (file : SourceFile) (r : LineRange) : List Char :=
  dropTerminator (((fullLines file.content.toList).take r.stop).drop (r.start - 1)).flatten

/-- The fingerprint of a range of lines under the quote style of the file. -/
def SourceFile.rangeFingerprint (file : SourceFile) (r : LineRange) : Fingerprint :=
  fingerprint (.ofPath file.path) (file.linesText r)

/-- A range of lines that is worth comparing: it lies in the file, its length is allowed, and its text has
enough characters once trimmed. -/
structure IsComparable (settings : Settings) (file : SourceFile) (r : LineRange) : Prop where
  one_le_start : 1 ≤ r.start
  start_le_stop : r.start ≤ r.stop
  stop_le : r.stop ≤ file.lineCount
  minLines_le : settings.minLines ≤ r.stop + 1 - r.start
  le_maxWindow : r.stop + 1 - r.start ≤ settings.maxWindow
  minChars_le : settings.minChars ≤ (trim (file.linesText r)).length

/-- The listing gets as far as the line with index `first`, among `total` lines: it is the first one, or a
window of allowed length starts at the line before. -/
def IsReached (settings : Settings) (total first : Nat) : Prop :=
  settings.minLines ≠ 0 ∧
    (first = 0 ∨ first - 1 + settings.minLines ≤ min (first - 1 + settings.maxWindow) total)

/-- No sum of the index of a line and a bound for windows overflows, at any line the listing gets to. -/
def FitsWords (settings : Settings) (file : SourceFile) : Prop :=
  ∀ first < file.lineCount, IsReached settings file.lineCount first →
    first + settings.maxWindow < Word.size ∧ first + settings.minLines < Word.size

/-- The last lines of the ranges of allowed length that start at the line with index `first`, among `total`
lines. -/
def stopsFrom (settings : Settings) (total first : Nat) : List Nat :=
  List.range' (first + settings.minLines)
    (min (first + settings.maxWindow) total + 1 - (first + settings.minLines))

/-- The ranges of allowed length among `total` lines, by starting line and the shorter before the longer. -/
def allRanges (settings : Settings) (total : Nat) : List LineRange :=
  (List.range total).flatMap fun first => (stopsFrom settings total first).map (⟨first + 1, ·⟩)

/-- The window of a range. -/
def Window.ofRange (file : SourceFile) (r : LineRange) : Window :=
  ⟨file.path, r, file.linesText r, file.rangeFingerprint r⟩

/-- The window of a range, if its text has enough characters. -/
def Window.ofRange? (settings : Settings) (file : SourceFile) (r : LineRange) : Option Window :=
  if (trim (file.linesText r)).length < settings.minChars then none else some (.ofRange file r)

/-- The windows of a file, by starting line and the shorter before the longer. -/
def windowList (settings : Settings) (file : SourceFile) : List Window :=
  if settings.minLines = 0 then []
  else (allRanges settings file.lineCount).filterMap (Window.ofRange? settings file)

theorem SourceFile.lineCount_eq (file : SourceFile) :
    file.lineCount = (lineSpans file.content.toList).length := by
  rw [SourceFile.lineCount, lines_eq, List.length_map, length_lineSpans]

theorem mem_stopsFrom {settings : Settings} {total first stop : Nat} :
    stop ∈ stopsFrom settings total first ↔
      first + settings.minLines ≤ stop ∧ stop ≤ first + settings.maxWindow ∧ stop ≤ total := by
  rw [stopsFrom, List.mem_range'_1]
  omega

theorem mem_allRanges {settings : Settings} (hmin : settings.minLines ≠ 0) {total : Nat}
    {r : LineRange} : r ∈ allRanges settings total ↔
      1 ≤ r.start ∧ r.start ≤ r.stop ∧ r.stop ≤ total ∧
        settings.minLines ≤ r.stop + 1 - r.start ∧ r.stop + 1 - r.start ≤ settings.maxWindow := by
  simp only [allRanges, List.mem_flatMap, List.mem_range, List.mem_map, mem_stopsFrom]
  constructor
  · rintro ⟨first, hfirst, stop, hstop, rfl⟩
    dsimp only
    omega
  · rintro ⟨h1, h2, h3, h4, h5⟩
    refine ⟨r.start - 1, by omega, r.stop, by omega, ?_⟩
    rw [Nat.sub_add_cancel h1]

/-- The windows of a file are those of the ranges that are worth comparing. -/
theorem mem_windowList {settings : Settings} {file : SourceFile} {w : Window} :
    w ∈ windowList settings file ↔
      settings.minLines ≠ 0 ∧ ∃ r, IsComparable settings file r ∧ w = .ofRange file r := by
  rw [windowList]
  by_cases hmin : settings.minLines = 0
  · simp [hmin]
  · rw [if_neg hmin, List.mem_filterMap]
    constructor
    · rintro ⟨r, hr, hw⟩
      obtain ⟨h1, h2, h3, h4, h5⟩ := (mem_allRanges hmin).mp hr
      rw [Window.ofRange?] at hw
      split at hw
      · simp at hw
      · next hchars =>
        exact ⟨hmin, r, ⟨h1, h2, h3, h4, h5, Nat.le_of_not_lt hchars⟩, (Option.some.inj hw).symm⟩
    · rintro ⟨-, r, hr, rfl⟩
      refine ⟨r, (mem_allRanges hmin).mpr
        ⟨hr.one_le_start, hr.start_le_stop, hr.stop_le, hr.minLines_le, hr.le_maxWindow⟩, ?_⟩
      rw [Window.ofRange?, if_neg (Nat.not_lt.mpr hr.minChars_le)]

/-! ### The listing -/

theorem windowText_eq {file : SourceFile} {first stop : Nat} (hlt : first < stop)
    (hstop : stop ≤ file.lineCount) :
    windowText file.content.toList (lineSpans file.content.toList).toArray first stop =
      file.linesText ⟨first + 1, stop⟩ := by
  rw [SourceFile.lineCount_eq] at hstop
  have hfirst : first < (lineSpans file.content.toList).length := by omega
  have hlast : stop - 1 < (lineSpans file.content.toList).length := by omega
  have hp := List.getElem?_eq_getElem hfirst
  have hq := List.getElem?_eq_getElem hlast
  have hslice := slice_lineSpans (Nat.le_sub_one_of_lt hlt) hp hq
  rw [Nat.sub_add_cancel (by omega)] at hslice
  simp only [windowText, Array.getD_eq_getD_getElem?, List.getElem?_toArray, hp, hq,
    Option.getD_some]
  exact hslice

theorem windowsFrom_eq {settings : Settings} {file : SourceFile} {first : Nat} {stops : List Nat}
    (hstops : ∀ stop ∈ stops, first < stop ∧ stop ≤ file.lineCount) :
    windowsFrom settings file.path file.content.toList (lineSpans file.content.toList).toArray first
        stops = (stops.map (⟨first + 1, ·⟩)).filterMap (Window.ofRange? settings file) := by
  rw [windowsFrom, List.filterMap_map]
  refine List.filterMap_congr fun stop hmem => ?_
  rw [windowText_eq (hstops stop hmem).1 (hstops stop hmem).2]
  rfl

/-- From a line on, the listing goes through the ranges that start there or later. It stops at the first
line where no length fits any more, and none fits after it either. -/
theorem windowsAfter_eq_ok {settings : Settings} {file : SourceFile} (hfits : FitsWords settings file)
    {remaining first : Nat} (htotal : first + remaining = file.lineCount)
    (hreached : IsReached settings file.lineCount first) :
    windowsAfter settings file.path file.content.toList (lineSpans file.content.toList).toArray
        remaining first =
      .ok (((List.range' first remaining).flatMap fun i =>
        (stopsFrom settings file.lineCount i).map (⟨i + 1, ·⟩)).filterMap
          (Window.ofRange? settings file)) := by
  induction remaining generalizing first with
  | zero => rfl
  | succ remaining ih =>
    obtain ⟨hmax, hmin'⟩ := hfits first (by omega) hreached
    have hsize : (lineSpans file.content.toList).toArray.size = file.lineCount := by
      rw [List.size_toArray, SourceFile.lineCount_eq]
    rw [windowsAfter, Word.add_eq_ok hmax, Word.add_eq_ok hmin', hsize, List.range'_succ,
      List.flatMap_cons, List.filterMap_append]
    simp only [bind, Except.bind, pure, Except.pure]
    by_cases hnone : min (first + settings.maxWindow) file.lineCount < first + settings.minLines
    · -- no length fits here, and none fits at a later line
      have hempty : ∀ i, first ≤ i → stopsFrom settings file.lineCount i = [] := by
        intro i hi
        rw [stopsFrom, List.range'_eq_nil_iff]
        omega
      have hrest : ((List.range' (first + 1) remaining).flatMap fun i =>
          (stopsFrom settings file.lineCount i).map (⟨i + 1, ·⟩ : Nat → LineRange)) = [] := by
        rw [List.flatMap_eq_nil_iff]
        intro i hi
        rw [hempty i (by have := List.mem_range'_1.mp hi; omega), List.map_nil]
      rw [if_pos hnone, hempty first (Nat.le_refl first), hrest]
      rfl
    · have hnext : IsReached settings file.lineCount (first + 1) :=
        ⟨hreached.1, Or.inr (by simpa using hnone)⟩
      have hmin := hreached.1
      have hstops : ∀ stop ∈ stopsFrom settings file.lineCount first,
          first < stop ∧ stop ≤ file.lineCount := by
        intro stop hstop
        have := mem_stopsFrom.mp hstop
        omega
      rw [if_neg hnone, ih (by omega) hnext]
      exact congrArg (Except.ok <| · ++ _) (windowsFrom_eq hstops)

theorem windows_eq_ok {settings : Settings} {file : SourceFile} (hfits : FitsWords settings file) :
    windows settings file = .ok (windowList settings file) := by
  rw [windows, windowList]
  by_cases hmin : settings.minLines = 0
  · rw [if_pos hmin, if_pos hmin]
  · rw [if_neg hmin, if_neg hmin]
    have htotal : 0 + (lineSpans file.content.toList).toArray.size = file.lineCount := by
      rw [List.size_toArray, SourceFile.lineCount_eq, Nat.zero_add]
    rw [windowsAfter_eq_ok hfits htotal ⟨hmin, Or.inl rfl⟩, List.size_toArray,
      ← SourceFile.lineCount_eq, allRanges, List.range_eq_range']

/-- A listing that ends with a result has met no sum that overflows. -/
theorem lt_size_of_windowsAfter_eq_ok {settings : Settings} {path : String} {cs : List Char}
    {spans : Array Span} {remaining first : Nat} {ws : List Window}
    (h : windowsAfter settings path cs spans remaining first = .ok ws)
    (htotal : first + remaining = spans.size) {i : Nat} (hle : first ≤ i) (hlt : i < spans.size)
    (hreached : i = first ∨ i - 1 + settings.minLines ≤ min (i - 1 + settings.maxWindow) spans.size) :
    i + settings.maxWindow < Word.size ∧ i + settings.minLines < Word.size := by
  induction remaining generalizing first ws with
  | zero => omega
  | succ remaining ih =>
    rw [windowsAfter] at h
    cases hmax : Word.add first settings.maxWindow with
    | error => simp [hmax, bind, Except.bind] at h
    | ok last =>
      cases hmin : Word.add first settings.minLines with
      | error => simp [hmax, hmin, bind, Except.bind] at h
      | ok shortest =>
        have hmax' := Word.lt_size_of_add_eq_ok hmax
        have hmin' := Word.lt_size_of_add_eq_ok hmin
        rw [Word.add_eq_ok hmax', Word.add_eq_ok hmin'] at h
        simp only [bind, Except.bind, pure, Except.pure] at h
        by_cases hfirst : i = first
        · exact hfirst ▸ ⟨hmax', hmin'⟩
        · -- a window starts at the line before `i`, so one starts here and the listing goes on
          have hgo : ¬ min (first + settings.maxWindow) spans.size < first + settings.minLines := by
            omega
          rw [if_neg hgo] at h
          cases hrest : windowsAfter settings path cs spans remaining (first + 1) with
          | error => simp [hrest] at h
          | ok rest => exact ih hrest (by omega) (by omega) (by omega)

/-- **The windows of a file are listed exactly if no sum overflows.** -/
theorem exists_windows_eq_ok_iff {settings : Settings} {file : SourceFile} :
    (∃ ws, windows settings file = .ok ws) ↔ FitsWords settings file := by
  refine ⟨?_, fun hfits => ⟨_, windows_eq_ok hfits⟩⟩
  rintro ⟨ws, h⟩ first hfirst hreached
  rw [windows, if_neg hreached.1] at h
  have htotal : file.lineCount = (lineSpans file.content.toList).toArray.size := by
    rw [List.size_toArray, SourceFile.lineCount_eq]
  rw [htotal] at hfirst hreached
  exact lt_size_of_windowsAfter_eq_ok h (Nat.zero_add _) (Nat.zero_le _) hfirst hreached.2

end Checkup.Duplication
