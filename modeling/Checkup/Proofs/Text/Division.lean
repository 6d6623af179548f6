import Checkup.Proofs.Text.Octets

/-!
# The division of a text into lines

What the lines of a text are can be said without a scan (`FallsInto`): a line ends with a line feed or with a
carriage return and a line feed, and the last one may end with the text. A text falls into lines in one way only,
and `lines` finds it (`fallsInto_iff`).

The other division, by spans, agrees with it:

* **Slices** — what the spans cut out of the text are its lines, one by one (`map_slice_lineSpans`).
* **Order** — each span starts no later than it stops, and stops before the next one starts
  (`pairwise_lineSpans`): at least a line feed stands between two lines.

Both hold among octets as well, where every span starts and stops between characters (`Delimits`,
`delimits_octetSpans`).
-/

namespace Checkup.Text

/-! ### What lines are -/

/-- A text falls into lines. A line ends with a line feed, or with a carriage return and a line feed, and these do
not belong to it. Characters behind the last line feed are a line of their own. A carriage return that does not
stand before a line feed belongs to its line. -/
inductive FallsInto : List Char → List (List Char) → Prop
  | nil : FallsInto [] []
  | unended {line : List Char} : '\n' ∉ line → line ≠ [] → FallsInto line [line]
  | lineFeed {line rest : List Char} {ls : List (List Char)} : '\n' ∉ line → line.getLast? ≠ some '\r' →
      FallsInto rest ls → FallsInto (line ++ '\n' :: rest) (line :: ls)
  | returnFeed {line rest : List Char} {ls : List (List Char)} : '\n' ∉ line →
      FallsInto rest ls → FallsInto (line ++ '\r' :: '\n' :: rest) (line :: ls)

theorem lines_nil : lines [] = [] :=
  rfl

theorem lines_of_not_mem {line : List Char} (hline : '\n' ∉ line) (hne : line ≠ []) : lines line = [line] := by
  rw [lines_eq, fullLines_of_not_mem hline hne, List.map_singleton, dropTerminator_of_not_mem hline]

/-- The first line, with the carriage return before the line feed taken away if there is one. -/
theorem lines_append_lineFeed {line : List Char} (hline : '\n' ∉ line) (rest : List Char) :
    lines (line ++ '\n' :: rest) =
      (if line.getLast? = some '\r' then line.dropLast else line) :: lines rest := by
  rw [lines_eq, fullLines_append_lineFeed hline, List.map_cons, dropTerminator_lineFeed, endLine_reverse, lines_eq]

/-- The induction takes one line after the other away, so it goes over the length of the text. -/
theorem fallsInto_lines (cs : List Char) : FallsInto cs (lines cs) := by
  induction hlen : cs.length using Nat.strongRecOn generalizing cs with
  | ind n ih =>
    by_cases hmem : '\n' ∈ cs
    · obtain ⟨line, rest, rfl, hline⟩ := List.eq_append_cons_of_mem hmem
      have hrest : FallsInto rest (lines rest) := by
        refine ih rest.length ?_ rest rfl
        rw [List.length_append, List.length_cons] at hlen
        omega
      rw [lines_append_lineFeed hline]
      split
      case isTrue hreturn =>
        obtain ⟨front, rfl⟩ := List.getLast?_eq_some_iff.mp hreturn
        rw [List.dropLast_concat, List.append_assoc]
        exact .returnFeed (fun hfront => hline (List.mem_append_left _ hfront)) hrest
      case isFalse hreturn => exact .lineFeed hline hreturn hrest
    · by_cases hne : cs = []
      · rw [hne, lines_nil]
        exact .nil
      · rw [lines_of_not_mem hmem hne]
        exact .unended hmem hne

/-- **A text falls into its lines**, and into no others. -/
theorem fallsInto_iff {cs : List Char} {ls : List (List Char)} : FallsInto cs ls ↔ ls = lines cs := by
  constructor
  · intro h
    induction h with
    | nil => rfl
    | unended hline hne => rw [lines_of_not_mem hline hne]
    | lineFeed hline hreturn _ ih => rw [lines_append_lineFeed hline, if_neg hreturn, ih]
    | @returnFeed line rest _ hline _ ih =>
      have hline' : '\n' ∉ line ++ ['\r'] := by simp [hline]
      rw [List.append_cons, lines_append_lineFeed hline', List.getLast?_concat, if_pos rfl, List.dropLast_concat, ih]
  · rintro rfl
    exact fallsInto_lines cs

/-! ### Slices and order -/

/-- The spans cut the lines out of a text. -/
theorem map_slice_lineSpans (cs : List Char) : (lineSpans cs).map (Span.slice cs) = lines cs := by
  refine List.ext_getElem? fun i => ?_
  rw [lines_eq, List.getElem?_map, List.getElem?_map]
  cases hspan : (lineSpans cs)[i]? with
  | none =>
    rw [List.getElem?_eq_none_iff, length_lineSpans, ← List.getElem?_eq_none_iff] at hspan
    rw [hspan, Option.map_none, Option.map_none]
  | some span =>
    have hlt : i < (fullLines cs).length := by
      rw [← length_lineSpans]
      exact (List.getElem?_eq_some_iff.mp hspan).1
    have hone : ((fullLines cs).take (i + 1)).drop i = [(fullLines cs)[i]] := by
      rw [List.take_add_one, List.getElem?_eq_getElem hlt, Option.toList_some,
        List.drop_append_of_le_length (by rw [List.length_take]; omega), List.drop_take_self, List.nil_append]
    rw [Option.map_some, List.getElem?_eq_getElem hlt, Option.map_some,
      slice_lineSpans (Nat.le_refl i) hspan hspan, hone, List.flatten_singleton]

theorem start_le_stop_of_mem {cs : List Char} {span : Span} (h : span ∈ lineSpans cs) :
    span.start ≤ span.stop := by
  obtain ⟨i, hspan⟩ := List.mem_iff_getElem?.mp h
  exact start_le_stop_of_le (Nat.le_refl i) hspan hspan

theorem length_dropTerminator_le (cs : List Char) : (dropTerminator cs).length ≤ cs.length :=
  List.IsPrefix.length_le <| dropTerminator_prefix cs

theorem length_dropTerminator_lt {cs : List Char} (h : cs.getLast? = some '\n') :
    (dropTerminator cs).length < cs.length := by
  obtain ⟨line, rfl⟩ := List.getLast?_eq_some_iff.mp h
  rw [dropTerminator_lineFeed, endLine_reverse, List.length_append, List.length_singleton]
  split
  · rw [List.length_dropLast]
    omega
  · omega

/-- The lines up to one of them, with their terminators, take up so many characters. -/
theorem length_flatten_take_add_one {ls : List (List Char)} {i : Nat} {line : List Char} (h : ls[i]? = some line) :
    (ls.take (i + 1)).flatten.length = (ls.take i).flatten.length + line.length := by
  rw [List.take_add_one, h, List.flatten_append, List.length_append, Option.toList_some, List.flatten_singleton]

theorem stop_le_length_of_mem {cs : List Char} {span : Span} (h : span ∈ lineSpans cs) :
    span.stop ≤ cs.length := by
  obtain ⟨i, hspan⟩ := List.mem_iff_getElem?.mp h
  rw [lineSpans_eq, getElem?_spansFrom, Option.map_eq_some_iff] at hspan
  obtain ⟨line, hline, rfl⟩ := hspan
  have hle : ((fullLines cs).take (i + 1)).flatten.length ≤ (fullLines cs).flatten.length :=
    (List.take_sublist _ _).flatten.length_le
  have hdrop := length_dropTerminator_le line
  rw [length_flatten_take_add_one hline, flatten_fullLines] at hle
  dsimp only
  omega

/-- A line feed at least stands between two lines. -/
theorem pairwise_lineSpans (cs : List Char) : (lineSpans cs).Pairwise fun p q => p.stop < q.start := by
  rw [List.pairwise_iff_getElem]
  intro i j hi hj hij
  have hp := List.getElem?_eq_getElem hi
  have hq := List.getElem?_eq_getElem hj
  generalize (lineSpans cs)[i] = p at hp ⊢
  generalize (lineSpans cs)[j] = q at hq ⊢
  rw [length_lineSpans] at hj
  rw [lineSpans_eq, getElem?_spansFrom, Option.map_eq_some_iff] at hp hq
  obtain ⟨line, hline, rfl⟩ := hp
  obtain ⟨-, -, rfl⟩ := hq
  -- it is not the last line, so it ends with a line feed
  have hmem : line ∈ (fullLines cs).dropLast := by
    rw [List.dropLast_eq_take]
    refine List.mem_of_getElem? (i := i) ?_
    rw [List.getElem?_take_of_lt (by omega), hline]
  have hlt := length_dropTerminator_lt (getLast?_of_mem_dropLast_fullLines hmem)
  have hle := length_flatten_take_mono (fullLines cs) (Nat.succ_le_of_lt hij)
  rw [Nat.succ_eq_add_one, length_flatten_take_add_one hline] at hle
  dsimp only
  omega

/-! ### Among octets -/

theorem offset_lt_offset {cs : List Char} {i j : Nat} (hlt : i < j) (hle : j ≤ cs.length) :
    offset cs i < offset cs j := by
  have htake : offset (cs.take j) i = offset cs i := by
    rw [offset, offset, List.take_take, Nat.min_eq_left (Nat.le_of_lt hlt)]
  rw [← htake]
  refine offset_lt_length_iff.mpr ?_
  rw [List.length_take]
  omega

/-- Spans among the octets of a text delimit some texts one by one: they cut out the octets of these texts, they lie
inside the text, each starts no later than it stops, in ascending order and apart from one another, and all their
ends stand between characters. -/
structure Delimits (text : String) (spans : List Span) (ls : List (List Char)) : Prop where
  map_extract_eq : spans.map (fun span => (encode text).extract span.start span.stop) = ls.map octets
  start_le_stop : ∀ span ∈ spans, span.start ≤ span.stop
  stop_le_length : ∀ span ∈ spans, span.stop ≤ (encode text).length
  isValid_start : ∀ span ∈ spans, (⟨span.start⟩ : String.Pos.Raw).IsValid text
  isValid_stop : ∀ span ∈ spans, (⟨span.stop⟩ : String.Pos.Raw).IsValid text
  ascending : spans.Pairwise fun p q => p.stop < q.start

theorem delimits_octetSpans (text : String) : Delimits text (octetSpans (encode text)) (lines text.toList) := by
  rw [octetSpans_encode]
  refine ⟨?_, ?_, ?_, ?_, ?_, ?_⟩
  · rw [← map_slice_lineSpans, List.map_map, List.map_map]
    refine List.map_congr_left fun span hspan => ?_
    rw [Function.comp_apply, Function.comp_apply, encode_eq]
    exact extract_octets _ (start_le_stop_of_mem hspan)
  · exact List.forall_mem_map.mpr fun span hspan => offset_le_offset _ (start_le_stop_of_mem hspan)
  · refine List.forall_mem_map.mpr fun span hspan => ?_
    rw [encode_eq, ← offset_length]
    exact offset_le_offset _ (stop_le_length_of_mem hspan)
  · exact List.forall_mem_map.mpr fun span _ => isValid_offset text span.start
  · exact List.forall_mem_map.mpr fun span _ => isValid_offset text span.stop
  · rw [List.pairwise_map]
    refine (pairwise_lineSpans text.toList).imp_of_mem fun {p q} _ hq hlt => offset_lt_offset hlt ?_
    exact Nat.le_trans (start_le_stop_of_mem hq) (stop_le_length_of_mem hq)

/-- **The two divisions agree.** Among the characters of a text and among its octets, the spans of its lines delimit
exactly the lines that it falls into. -/
theorem lineSpans_delimit_lines (text : String) :
    (∀ ls, FallsInto text.toList ls ↔ ls = lines text.toList) ∧
      (lineSpans text.toList).map (Span.slice text.toList) = lines text.toList ∧
      octetSpans (encode text) = (lineSpans text.toList).map (Span.inOctets text.toList) ∧
      Delimits text (octetSpans (encode text)) (lines text.toList) :=
  ⟨fun _ => fallsInto_iff, map_slice_lineSpans text.toList, octetSpans_encode text, delimits_octetSpans text⟩

/-- An empty line between two terminators, carriage returns that belong to a line, and no line after the last line
feed. -/
example : lines "a\r\n\n\rb\r\r\n".toList = ["a".toList, [], "\rb\r".toList] := by decide

end Checkup.Text
