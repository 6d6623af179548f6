import Checkup.Proofs.Duplication.Window
import Checkup.Proofs.Text.Octets

/-!
# The windows of a file, once each

The listing goes through the ranges of lines in ascending order (`pairwise_allRanges`), so no range comes
twice, and what it lists are exactly the ranges that are worth comparing (`IsEnumeration`,
`exists_isEnumeration_windows`).

The text of a range is a slice of the file's octets as well: the places where it is cut are those of a scan for
lines among the octets, they lie inside the file in order, and each stands between two characters (`IsCut`,
`exists_isCut`). This holds of every range of the file, also of those that are not listed for want of
characters.
-/

namespace Checkup.Duplication

open Checkup.Text

/-! ### Order -/

/-- The order of ranges by starting line, and the shorter before the longer. -/
def LineRange.IsBefore (r s : LineRange) : Prop :=
  r.start < s.start ∨ r.start = s.start ∧ r.stop < s.stop

theorem pairwise_allRanges (settings : Settings) (total : Nat) :
    (allRanges settings total).Pairwise LineRange.IsBefore := by
  rw [allRanges, List.pairwise_flatMap]
  constructor
  · intro first _
    rw [List.pairwise_map]
    exact (List.pairwise_lt_range' 1).imp fun hlt => Or.inr ⟨rfl, hlt⟩
  · refine List.pairwise_lt_range.imp fun {first first'} hlt => ?_
    simp only [List.mem_map]
    rintro _ ⟨stop, -, rfl⟩ _ ⟨stop', -, rfl⟩
    exact Or.inl (Nat.succ_lt_succ hlt)

/-- A range that makes a window makes the window of that range. -/
theorem eq_ofRange_of_ofRange?_eq_some {settings : Settings} {file : SourceFile} {r : LineRange}
    {w : Window} (h : Window.ofRange? settings file r = some w) : w = .ofRange file r := by
  rw [Window.ofRange?] at h
  split at h
  · simp at h
  · exact (Option.some.inj h).symm

theorem pairwise_windowList (settings : Settings) (file : SourceFile) :
    (windowList settings file).Pairwise fun v w => v.range.IsBefore w.range := by
  rw [windowList]
  split
  · exact List.Pairwise.nil
  · rw [List.pairwise_filterMap]
    refine (pairwise_allRanges settings file.lineCount).imp fun {r s} hrs v hv w hw => ?_
    rw [eq_ofRange_of_ofRange?_eq_some hv, eq_ofRange_of_ofRange?_eq_some hw]
    exact hrs

/-! ### Slices -/

/-- A range of lines is the slice of its file from one octet up to and without another: both stand between
characters of the file, and the octets between them are those of the range. -/
structure IsSlice (file : SourceFile) (r : LineRange) (start stop : Nat) : Prop where
  start_le_stop : start ≤ stop
  isValid_start : (⟨start⟩ : String.Pos.Raw).IsValid file.content
  isValid_stop : (⟨stop⟩ : String.Pos.Raw).IsValid file.content
  extract_eq : (encode file.content).extract start stop = octets (file.linesText r)

/-- A range of lines is cut out of its file from where its first line starts among the octets to where its
last line stops. -/
def IsCut (file : SourceFile) (r : LineRange) : Prop :=
  ∃ first last, (octetSpans (encode file.content))[r.start - 1]? = some first ∧
    (octetSpans (encode file.content))[r.stop - 1]? = some last ∧ IsSlice file r first.start last.stop

theorem isCut_of_le {file : SourceFile} {r : LineRange} (hone : 1 ≤ r.start) (hle : r.start ≤ r.stop)
    (hstop : r.stop ≤ file.lineCount) : IsCut file r := by
  rw [SourceFile.lineCount_eq] at hstop
  have hfirst : r.start - 1 < (lineSpans file.content.toList).length := by omega
  have hlast : r.stop - 1 < (lineSpans file.content.toList).length := by omega
  obtain ⟨p, hp⟩ : ∃ p, (lineSpans file.content.toList)[r.start - 1]? = some p :=
    ⟨_, List.getElem?_eq_getElem hfirst⟩
  obtain ⟨q, hq⟩ : ∃ q, (lineSpans file.content.toList)[r.stop - 1]? = some q :=
    ⟨_, List.getElem?_eq_getElem hlast⟩
  have horder : r.start - 1 ≤ r.stop - 1 := Nat.sub_le_sub_right hle 1
  have hspan : p.start ≤ q.stop := start_le_stop_of_le horder hp hq
  have hslice := slice_lineSpans horder hp hq
  rw [Nat.sub_add_cancel (Nat.le_trans hone hle)] at hslice
  have hextract : (encode file.content).extract (offset file.content.toList p.start)
      (offset file.content.toList q.stop) = octets (file.linesText r) := by
    rw [encode_eq, extract_octets _ hspan, hslice, SourceFile.linesText]
  refine ⟨p.inOctets file.content.toList, q.inOctets file.content.toList, ?_, ?_,
    ⟨offset_le_offset _ hspan, isValid_offset _ _, isValid_offset _ _, hextract⟩⟩
  · rw [octetSpans_encode, List.getElem?_map, hp, Option.map_some]
  · rw [octetSpans_encode, List.getElem?_map, hq, Option.map_some]

/-! ### The listing -/

/-- A list of windows is what a file has under some settings: its windows come in strictly ascending order,
they stand for exactly the ranges that are worth comparing, and each has the text and the fingerprint of its
range. -/
structure IsEnumeration (settings : Settings) (file : SourceFile) (ws : List Window) : Prop where
  ascending : ws.Pairwise fun v w => v.range.IsBefore w.range
  exists_iff : ∀ r, (∃ w ∈ ws, w.range = r) ↔ settings.minLines ≠ 0 ∧ IsComparable settings file r
  eq_ofRange : ∀ w ∈ ws, w = .ofRange file w.range

theorem isEnumeration_windowList (settings : Settings) (file : SourceFile) :
    IsEnumeration settings file (windowList settings file) where
  ascending := pairwise_windowList settings file
  exists_iff r := by
    constructor
    · rintro ⟨w, hw, rfl⟩
      obtain ⟨hmin, r, hr, rfl⟩ := mem_windowList.mp hw
      exact ⟨hmin, hr⟩
    · rintro ⟨hmin, hr⟩
      exact ⟨.ofRange file r, mem_windowList.mpr ⟨hmin, r, hr, rfl⟩, rfl⟩
  eq_ofRange w hw := by
    obtain ⟨-, r, -, rfl⟩ := mem_windowList.mp hw
    rfl

/-- Where the longest window fits a word, the shortest one does: past the first line, the listing gets only as
far as windows of an allowed length go, and the shortest is no longer than the longest then. -/
theorem FitsWords.of_maxWindow {settings : Settings} {file : SourceFile}
    (hmin : settings.minLines < Word.size)
    (hwindow : ∀ first < file.lineCount, IsReached settings file.lineCount first →
      first + settings.maxWindow < Word.size) : FitsWords settings file := by
  intro first hfirst hreached
  have hlt := hwindow first hfirst hreached
  refine ⟨hlt, ?_⟩
  obtain ⟨-, rfl | hle⟩ := hreached <;> omega

/-- **Every window once.** Unless the longest window overflows where the listing gets to, each range that is
worth comparing is listed once, in ascending order, with its text and its fingerprint; nothing is listed if
windows of no line are allowed. The text of each range of the file is cut out of its octets between
characters. -/
theorem exists_isEnumeration_windows {settings : Settings} {file : SourceFile}
    (hmin : settings.minLines < Word.size)
    (hwindow : ∀ first < file.lineCount, IsReached settings file.lineCount first →
      first + settings.maxWindow < Word.size) :
    ∃ ws, windows settings file = .ok ws ∧ IsEnumeration settings file ws ∧
      (settings.minLines = 0 → ws = []) ∧
      ∀ r : LineRange, 1 ≤ r.start → r.start ≤ r.stop → r.stop ≤ file.lineCount → IsCut file r := by
  have hfits := FitsWords.of_maxWindow hmin hwindow
  refine ⟨_, windows_eq_ok hfits, isEnumeration_windowList settings file, fun hzero => if_pos hzero, ?_⟩
  exact fun r => isCut_of_le

/-- Three lines: one with a character of two octets and a carriage return, an empty one, and one that ends
with a carriage return alone. -/
def mixedFile : SourceFile :=
  ⟨"mixed.rs", "é\r\n\nx\r"⟩

/-- Windows of one or two lines that are not blank. -/
def mixedSettings : Settings :=
  ⟨1, 1, 2⟩

/-- The first two lines make a window, with the terminator between them. The empty line makes none. -/
theorem exists_isEnumeration_mixed :
    mixedSettings.minLines < Word.size ∧
      (∀ first < mixedFile.lineCount, IsReached mixedSettings mixedFile.lineCount first →
        first + mixedSettings.maxWindow < Word.size) ∧
      ∃ ws, windows mixedSettings mixedFile = .ok ws ∧ IsEnumeration mixedSettings mixedFile ws ∧
        (∃ w ∈ ws, w.range = ⟨1, 2⟩ ∧ w.raw = "é\r\n".toList) ∧ (¬ ∃ w ∈ ws, w.range = ⟨2, 2⟩) ∧
          IsCut mixedFile ⟨2, 3⟩ := by
  have hmin : mixedSettings.minLines < Word.size := by decide
  have hlines : mixedFile.lineCount = 3 := by decide
  have hwindow : ∀ first < mixedFile.lineCount, IsReached mixedSettings mixedFile.lineCount first →
      first + mixedSettings.maxWindow < Word.size := by
    intro first hfirst _
    simp only [mixedSettings, Word.size]
    omega
  obtain ⟨ws, hok, hws, -, hcut⟩ := exists_isEnumeration_windows hmin hwindow
  have htwo : IsComparable mixedSettings mixedFile ⟨1, 2⟩ :=
    ⟨by decide, by decide, by decide, by decide, by decide, by decide⟩
  obtain ⟨w, hw, hrange⟩ := (hws.exists_iff ⟨1, 2⟩).mpr ⟨by decide, htwo⟩
  have hraw : w.raw = mixedFile.linesText ⟨1, 2⟩ := by rw [hws.eq_ofRange w hw, hrange]; rfl
  refine ⟨hmin, hwindow, ws, hok, hws, ⟨w, hw, hrange, hraw.trans (by decide)⟩, fun hempty => ?_,
    hcut ⟨2, 3⟩ (by decide) (by decide) (by decide)⟩
  have hchars := ((hws.exists_iff ⟨2, 2⟩).mp hempty).2.minChars_le
  exact absurd hchars (by decide)

end Checkup.Duplication
