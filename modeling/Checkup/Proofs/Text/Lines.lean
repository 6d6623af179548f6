import Checkup.Text.Lines
import Mathlib.Data.List.Basic
import Mathlib.Data.List.Flatten

/-!
# Full lines

A text is the concatenation of its full lines, the lines with their terminators (`flatten_fullLines`).
Both divisions of a text into lines are read off this one:

* `lines` are the full lines without their terminators (`lines_eq`).
* `lineSpans` are the places of these lines, one full line after the other (`lineSpans_eq`).

So cutting a text from the start of one line's span to the end of another's yields the full lines from
the one to the other, joined, without the last terminator (`slice_lineSpans`).
-/

namespace Checkup.Text

/-- The lines of a text with their terminators. The last one may have none, and is not empty then. -/
def fullLines : List Char → List (List Char)
  | [] => []
  | c :: rest =>
    if c = '\n' then ['\n'] :: fullLines rest
    else
      match fullLines rest with
      | [] => [[c]]
      | line :: more => (c :: line) :: more

/-- A text without the line terminator at its end: a line feed, with a carriage return before it if there
is one. -/
def dropTerminator (cs : List Char) : List Char :=
  match cs.reverse with
  | '\n' :: rest => endLine rest
  | _ => cs

theorem flatten_fullLines (cs : List Char) : (fullLines cs).flatten = cs := by
  induction cs with
  | nil => rfl
  | cons c rest ih =>
    rw [fullLines]
    split
    · next hc => rw [List.flatten_cons, ih, hc, List.singleton_append]
    · split
      · next hnil =>
        rw [hnil] at ih
        rw [← ih]
        rfl
      · next hcons =>
        rw [hcons] at ih
        rw [← ih]
        rfl

/-! ### The first line -/

theorem fullLines_append_lineFeed {line : List Char} (hline : '\n' ∉ line) (rest : List Char) :
    fullLines (line ++ '\n' :: rest) = (line ++ ['\n']) :: fullLines rest := by
  induction line with
  | nil => rw [List.nil_append, fullLines, if_pos rfl, List.nil_append]
  | cons c line ih =>
    rw [List.mem_cons, not_or] at hline
    rw [List.cons_append, fullLines, if_neg (Ne.symm hline.1), ih hline.2]
    rfl

theorem fullLines_of_not_mem {line : List Char} (hline : '\n' ∉ line) (hne : line ≠ []) :
    fullLines line = [line] := by
  induction line with
  | nil => exact absurd rfl hne
  | cons c line ih =>
    rw [List.mem_cons, not_or] at hline
    rw [fullLines, if_neg (Ne.symm hline.1)]
    cases line with
    | nil => rfl
    | cons d line => rw [ih hline.2 (List.cons_ne_nil d line)]

theorem ne_nil_of_mem_fullLines {cs line : List Char} (h : line ∈ fullLines cs) : line ≠ [] := by
  induction cs generalizing line with
  | nil => exact absurd h List.not_mem_nil
  | cons c rest ih =>
    rw [fullLines] at h
    split at h
    · rcases List.mem_cons.mp h with rfl | h
      · exact List.cons_ne_nil _ _
      · exact ih h
    · split at h
      · rw [List.mem_singleton.mp h]
        exact List.cons_ne_nil _ _
      · next heq =>
        rcases List.mem_cons.mp h with rfl | h
        · exact List.cons_ne_nil _ _
        · exact ih (heq ▸ List.mem_cons_of_mem _ h)

/-- Every full line but the last ends with a line feed. -/
theorem getLast?_of_mem_dropLast_fullLines {cs line : List Char}
    (h : line ∈ (fullLines cs).dropLast) : line.getLast? = some '\n' := by
  induction cs generalizing line with
  | nil => simp [fullLines] at h
  | cons c rest ih =>
    rw [fullLines] at h
    rcases hrest : fullLines rest with _ | ⟨first, _ | ⟨second, more⟩⟩
    · by_cases hc : c = '\n' <;> simp [hrest, hc] at h
    · rw [hrest] at ih h
      by_cases hc : c = '\n'
      · rw [if_pos hc] at h
        simp only [List.dropLast_cons_cons, List.dropLast_singleton, List.mem_singleton] at h
        rw [h]
        rfl
      · rw [if_neg hc] at h
        simp at h
    · rw [hrest] at ih h
      by_cases hc : c = '\n'
      · rw [if_pos hc, List.dropLast_cons_cons, List.mem_cons] at h
        rcases h with rfl | h
        · rfl
        · exact ih h
      · rw [if_neg hc] at h
        simp only [List.dropLast_cons_cons, List.mem_cons] at h ih
        rcases h with rfl | h
        · rw [List.getLast?_cons, ih (Or.inl rfl)]
          rfl
        · exact ih (Or.inr h)

/-! ### Terminators -/

theorem dropTerminator_lineFeed (line : List Char) :
    dropTerminator (line ++ ['\n']) = endLine line.reverse := by
  rw [dropTerminator, List.reverse_append]
  rfl

theorem dropTerminator_of_not_mem {line : List Char} (hline : '\n' ∉ line) :
    dropTerminator line = line := by
  rw [dropTerminator]
  split
  · next heq =>
    have hmem : '\n' ∈ line.reverse := heq ▸ List.mem_cons_self
    exact absurd (List.mem_reverse.mp hmem) hline
  · rfl

theorem endLine_reverse (line : List Char) :
    endLine line.reverse = if line.getLast? = some '\r' then line.dropLast else line := by
  rcases List.eq_nil_or_concat' line with rfl | ⟨line, c, rfl⟩
  · rfl
  · by_cases hc : c = '\r' <;> simp [endLine, hc]

theorem dropTerminator_prefix (cs : List Char) : dropTerminator cs <+: cs := by
  rw [dropTerminator]
  split
  · next rest heq =>
    rw [← List.reverse_reverse cs, heq, ← List.reverse_reverse rest, endLine_reverse,
      List.reverse_reverse, List.reverse_cons]
    split
    · exact (List.dropLast_prefix _).trans (List.prefix_append _ _)
    · exact List.prefix_append _ _
  · exact List.prefix_refl cs

/-- Only the end of a text loses its terminator. -/
theorem dropTerminator_append {cs line : List Char} (hcs : cs.getLast? ≠ some '\r') (hne : line ≠ []) :
    dropTerminator (cs ++ line) = cs ++ dropTerminator line := by
  obtain ⟨line, c, rfl⟩ := (List.eq_nil_or_concat' line).resolve_left hne
  by_cases hc : c = '\n'
  · rw [hc, ← List.append_assoc, dropTerminator_lineFeed, dropTerminator_lineFeed, endLine_reverse,
      endLine_reverse, List.getLast?_append]
    rcases List.eq_nil_or_concat' line with rfl | ⟨line, d, rfl⟩
    · simp [hcs]
    · by_cases hd : d = '\r' <;> simp [hd, ← List.append_assoc]
  · simp [dropTerminator, hc]

/-! ### The two divisions -/

/-- Lines gathered from an unfinished line on. -/
theorem linesAfter_eq {line : List Char} (hline : '\n' ∉ line) (rest : List Char) :
    linesAfter line.reverse rest = (fullLines (line ++ rest)).map dropTerminator := by
  induction rest generalizing line with
  | nil =>
    rw [List.append_nil]
    by_cases hne : line = []
    · rw [hne]
      rfl
    · rw [fullLines_of_not_mem hline hne, List.map_singleton, dropTerminator_of_not_mem hline]
      simp [linesAfter, hne]
  | cons c rest ih =>
    by_cases hc : c = '\n'
    · rw [hc, linesAfter, fullLines_append_lineFeed hline, List.map_cons, dropTerminator_lineFeed]
      exact congrArg _ (ih List.not_mem_nil)
    · have hline' : '\n' ∉ line ++ [c] := by simp [hline, Ne.symm hc]
      have hstep := ih hline'
      rw [List.reverse_append, List.append_assoc] at hstep
      rw [linesAfter]
      · exact hstep
      · exact hc

theorem lines_eq (cs : List Char) : lines cs = (fullLines cs).map dropTerminator :=
  linesAfter_eq List.not_mem_nil cs

/-- The spans of full lines that follow one another from `start` on, without their terminators. -/
def spansFrom (start : Nat) : List (List Char) → List Span
  | [] => []
  | line :: more =>
    ⟨start, start + (dropTerminator line).length⟩ :: spansFrom (start + line.length) more

theorem lineSpansAfter_eq {line : List Char} (hline : '\n' ∉ line) (start : Nat) (rest : List Char) :
    lineSpansAfter start (start + line.length) (line.getLast? == some '\r') rest =
      spansFrom start (fullLines (line ++ rest)) := by
  induction rest generalizing line start with
  | nil =>
    rw [List.append_nil]
    by_cases hne : line = []
    · rw [hne]
      simp [lineSpansAfter, fullLines, spansFrom]
    · have hpos : start < start + line.length := by
        have := List.length_pos_iff.mpr hne
        omega
      rw [fullLines_of_not_mem hline hne, lineSpansAfter, if_pos hpos, spansFrom,
        dropTerminator_of_not_mem hline, spansFrom]
  | cons c rest ih =>
    by_cases hc : c = '\n'
    · -- the unfinished line ends here, and the next one starts empty
      have hstep := ih List.not_mem_nil (start + line.length + 1)
      rw [List.length_nil, Nat.add_zero, List.nil_append] at hstep
      rw [hc, fullLines_append_lineFeed hline, spansFrom, dropTerminator_lineFeed,
        endLine_reverse, lineSpansAfter, List.length_append, List.length_singleton]
      refine congrArg₂ List.cons ?_ hstep
      by_cases hreturn : line.getLast? = some '\r'
      · have hpos : 0 < line.length := by
          rw [List.length_pos_iff]
          rintro rfl
          simp at hreturn
        simp [hreturn, hpos]
        omega
      · simp [hreturn]
    · have hline' : '\n' ∉ line ++ [c] := by simp [hline, Ne.symm hc]
      have hstep := ih hline' start
      rw [List.append_assoc, List.length_append, List.length_singleton, List.getLast?_append] at hstep
      rw [lineSpansAfter]
      · exact hstep
      · exact hc

theorem lineSpans_eq (cs : List Char) : lineSpans cs = spansFrom 0 (fullLines cs) :=
  lineSpansAfter_eq List.not_mem_nil 0 cs

/-! ### Cutting between spans -/

theorem getElem?_spansFrom (start i : Nat) (ls : List (List Char)) :
    (spansFrom start ls)[i]? = ls[i]?.map fun line =>
      ⟨start + (ls.take i).flatten.length,
        start + (ls.take i).flatten.length + (dropTerminator line).length⟩ := by
  induction ls generalizing start i with
  | nil => simp [spansFrom]
  | cons line more ih =>
    cases i with
    | zero => simp [spansFrom]
    | succ i => simp [spansFrom, ih, Nat.add_assoc]

theorem length_lineSpans (cs : List Char) : (lineSpans cs).length = (fullLines cs).length := by
  have hlen : ∀ (start : Nat) (ls : List (List Char)), (spansFrom start ls).length = ls.length := by
    intro start ls
    induction ls generalizing start with
    | nil => rfl
    | cons line more ih => rw [spansFrom, List.length_cons, ih, List.length_cons]
  rw [lineSpans_eq, hlen]

theorem Span.slice_append (before inside after : List Char) :
    Span.slice (before ++ (inside ++ after)) ⟨before.length, before.length + inside.length⟩ = inside := by
  rw [Span.slice, List.drop_left, Nat.add_sub_cancel_left, List.take_left]

theorem length_flatten_take_mono (ls : List (List Char)) {i j : Nat} (hle : i ≤ j) :
    (ls.take i).flatten.length ≤ (ls.take j).flatten.length :=
  (List.take_sublist_take_left hle).flatten.length_le

/-- The span of a line starts no later than that of a line after it ends. -/
theorem start_le_stop_of_le {cs : List Char} {first last : Nat} (hle : first ≤ last) {p q : Span}
    (hp : (lineSpans cs)[first]? = some p) (hq : (lineSpans cs)[last]? = some q) :
    p.start ≤ q.stop := by
  rw [lineSpans_eq, getElem?_spansFrom, Option.map_eq_some_iff] at hp hq
  obtain ⟨-, -, rfl⟩ := hp
  obtain ⟨-, -, rfl⟩ := hq
  have := length_flatten_take_mono (fullLines cs) hle
  dsimp only
  omega

/-- The full lines before a given one do not end with a carriage return: they end with line feeds. -/
theorem getLast?_flatten_take_fullLines {cs : List Char} {first last : Nat}
    (hlast : last < (fullLines cs).length) :
    (((fullLines cs).take last).drop first).flatten.getLast? ≠ some '\r' := by
  rcases List.eq_nil_or_concat' (((fullLines cs).take last).drop first) with hnil | ⟨before, line, heq⟩
  · simp [hnil]
  · have hmem : line ∈ (fullLines cs).take last := by
      refine List.mem_of_mem_drop (i := first) ?_
      rw [heq]
      exact List.mem_append_right _ (List.mem_singleton_self line)
    have hsub : (fullLines cs).take last <+: (fullLines cs).dropLast := by
      rw [List.dropLast_eq_take]
      exact List.take_prefix_take_left (by omega)
    rw [heq, List.flatten_append, List.flatten_singleton, List.getLast?_append,
      getLast?_of_mem_dropLast_fullLines (hsub.subset hmem)]
    simp

/-- **Cutting between spans.** From the start of one line's span to the end of another's stand the full
lines from the one to the other, without the last terminator. -/
theorem slice_lineSpans {cs : List Char} {first last : Nat} (hle : first ≤ last) {p q : Span}
    (hp : (lineSpans cs)[first]? = some p) (hq : (lineSpans cs)[last]? = some q) :
    Span.slice cs ⟨p.start, q.stop⟩ =
      dropTerminator (((fullLines cs).take (last + 1)).drop first).flatten := by
  rw [lineSpans_eq, getElem?_spansFrom, Option.map_eq_some_iff] at hp hq
  obtain ⟨-, -, rfl⟩ := hp
  obtain ⟨line, hline, rfl⟩ := hq
  obtain ⟨hlast, hget⟩ := List.getElem?_eq_some_iff.mp hline
  -- the text falls into what stands before, the lines inside but the last, the last, and what follows
  set before := ((fullLines cs).take first).flatten
  set inside := (((fullLines cs).take last).drop first).flatten
  set after := ((fullLines cs).drop (last + 1)).flatten
  have htake : ((fullLines cs).take last).flatten = before ++ inside := by
    have hfirst : ((fullLines cs).take last).take first = (fullLines cs).take first := by
      rw [List.take_take, Nat.min_eq_left hle]
    rw [← List.take_append_drop first ((fullLines cs).take last), List.flatten_append, hfirst]
  have hcs : cs = before ++ (inside ++ (line ++ after)) := by
    rw [← List.append_assoc, ← htake, ← hget, ← List.flatten_cons, ← List.drop_eq_getElem_cons hlast,
      ← List.flatten_append, List.take_append_drop, flatten_fullLines]
  have hlines : (((fullLines cs).take (last + 1)).drop first).flatten = inside ++ line := by
    rw [List.take_add_one, hline, List.drop_append_of_le_length (by rw [List.length_take]; omega),
      List.flatten_append]
    simp [inside]
  have hne : line ≠ [] := ne_nil_of_mem_fullLines (hget ▸ List.getElem_mem hlast)
  obtain ⟨ending, hending⟩ := dropTerminator_prefix line
  have hsplit : cs = before ++ ((inside ++ dropTerminator line) ++ (ending ++ after)) := by
    rw [hcs, List.append_assoc inside, ← List.append_assoc (dropTerminator line), hending]
  have hstop : 0 + ((fullLines cs).take last).flatten.length + (dropTerminator line).length =
      before.length + (inside ++ dropTerminator line).length := by
    rw [htake, List.length_append, List.length_append]
    omega
  rw [hlines, dropTerminator_append (getLast?_flatten_take_fullLines hlast) hne, Nat.zero_add, hstop]
  calc Span.slice cs ⟨before.length, before.length + (inside ++ dropTerminator line).length⟩
      = Span.slice (before ++ ((inside ++ dropTerminator line) ++ (ending ++ after)))
          ⟨before.length, before.length + (inside ++ dropTerminator line).length⟩ :=
        congrArg (Span.slice · _) hsplit
    _ = inside ++ dropTerminator line := Span.slice_append _ _ _

end Checkup.Text
