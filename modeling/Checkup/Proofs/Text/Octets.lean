import Checkup.Proofs.Text.Lines
import Checkup.Text.Utf8

/-!
# Lines of octets

A text is stored as octets, one or more for each character. Its lines can be looked for among the octets
instead of the characters (`octetSpans`). An octet below 128 is a character of its own, so a line feed or a
carriage return is met nowhere inside another character, and both ways find the same lines
(`octetSpans_encode`).

The places of the two views correspond by `offset`, the number of octets before a character. So each place
that is found this way stands between characters (`isValid_offset`), and cutting the octets there cuts the
characters (`extract_octets`).
-/

namespace Checkup.Text

/-! ### The octets of a text -/

/-- The octets of characters, one character after the other. -/
def octets (cs : List Char) : List UInt8 :=
  cs.flatMap String.utf8EncodeChar

/-- The number of octets before the character at position `i`. -/
def offset (cs : List Char) (i : Nat) : Nat :=
  (octets (cs.take i)).length

/-- The place among the octets of the characters that a span delimits. -/
def Span.inOctets (cs : List Char) (span : Span) : Span :=
  ⟨offset cs span.start, offset cs span.stop⟩

theorem octets_nil : octets [] = [] :=
  rfl

theorem octets_append (cs ds : List Char) : octets (cs ++ ds) = octets cs ++ octets ds :=
  List.flatMap_append

theorem octets_cons (c : Char) (cs : List Char) :
    octets (c :: cs) = String.utf8EncodeChar c ++ octets cs :=
  List.flatMap_cons

/-- Bytes as a list, from one of them on. -/
theorem toList_loop_eq (bytes : ByteArray) (i : Nat) (before : List UInt8) :
    ByteArray.toList.loop bytes i before = before.reverse ++ bytes.data.toList.drop i := by
  fun_induction ByteArray.toList.loop bytes i before with
  | case1 i before hlt ih =>
    have hlt' : i < bytes.data.toList.length := hlt
    rw [ih, List.drop_eq_getElem_cons hlt', List.reverse_cons, List.append_assoc]
    have hget : bytes.get! i = bytes.data.toList[i] := by
      rw [Array.getElem_toList]
      exact getElem!_pos bytes.data i hlt
    rw [hget]
    rfl
  | case2 i before hge =>
    have hge' : bytes.data.toList.length ≤ i := Nat.le_of_not_lt hge
    rw [List.drop_eq_nil_of_le hge', List.append_nil]

theorem encode_eq (text : String) : encode text = octets text.toList := by
  rw [encode, ByteArray.toList, toList_loop_eq]
  have htext : text.toUTF8 = (octets text.toList).toByteArray := by
    conv_lhs => rw [← String.ofList_toList (s := text)]
    exact String.toByteArray_ofList
  rw [htext, List.toList_data_toByteArray]
  rfl

/-- An octet below 128 is a character of its own. -/
theorem toNat_eq_of_mem_utf8EncodeChar {c : Char} {b : UInt8} (hb : b ∈ String.utf8EncodeChar c)
    (hlt : b.toNat < 128) : c.toNat = b.toNat := by
  have hmod (n : Nat) : (UInt8.ofNat n).toNat = n % 256 := UInt8.toNat_ofNat'
  revert hb
  fun_cases String.utf8EncodeChar c with
  | case1 v hone =>
    intro hb
    rw [List.mem_singleton.mp hb, hmod]
    exact (Nat.mod_eq_of_lt (Nat.lt_of_le_of_lt hone (by decide))).symm
  | _ => grind -- every octet of a longer character is 128 or more

/-! ### Places among characters and among octets -/

theorem length_octets_ofList (cs : List Char) : (octets cs).length = (String.ofList cs).utf8ByteSize := by
  rw [← String.size_toByteArray, String.toByteArray_ofList]
  exact List.size_toByteArray.symm

/-- The place of a character stands between characters. -/
theorem isValid_offset (text : String) (i : Nat) :
    (⟨offset text.toList i⟩ : String.Pos.Raw).IsValid text :=
  String.Pos.Raw.isValid_iff_exists_take_toList.mpr ⟨i, length_octets_ofList _⟩

theorem offset_le_offset (cs : List Char) {i j : Nat} (hle : i ≤ j) : offset cs i ≤ offset cs j := by
  obtain ⟨between, heq⟩ := List.take_prefix_take_left hle (l := cs)
  rw [offset, offset, ← heq, octets_append, List.length_append]
  exact Nat.le_add_right _ _

theorem offset_append_of_le {cs : List Char} {i : Nat} (hle : i ≤ cs.length) (ds : List Char) :
    offset (cs ++ ds) i = offset cs i := by
  rw [offset, List.take_append_of_le_length hle, offset]

theorem offset_length (cs : List Char) : offset cs cs.length = (octets cs).length := by
  rw [offset, List.take_length]

theorem offset_lt_length_iff {cs : List Char} {i : Nat} :
    offset cs i < (octets cs).length ↔ i < cs.length := by
  constructor
  · intro hlt
    by_contra hge
    rw [offset, List.take_of_length_le (Nat.le_of_not_lt hge)] at hlt
    exact absurd hlt (Nat.lt_irrefl _)
  · intro hlt
    have hcs : octets cs = octets (cs.take i) ++ (String.utf8EncodeChar cs[i] ++ octets (cs.drop (i + 1))) := by
      rw [← octets_cons, ← List.drop_eq_getElem_cons hlt, ← octets_append, List.take_append_drop]
    have hpos := List.length_pos_iff.mpr (String.utf8EncodeChar_ne_nil (c := cs[i]))
    rw [hcs, List.length_append, List.length_append, offset]
    omega

/-- Cutting the octets cuts the characters. -/
theorem extract_octets (cs : List Char) {i j : Nat} (hle : i ≤ j) :
    (octets cs).extract (offset cs i) (offset cs j) = octets (Span.slice cs ⟨i, j⟩) := by
  have htake : octets (cs.take j) = octets (cs.take i) ++ octets (Span.slice cs ⟨i, j⟩) := by
    rw [← octets_append, Span.slice, ← List.take_add, Nat.add_sub_cancel' hle]
  have hcs : octets cs = octets (cs.take j) ++ octets (cs.drop j) := by
    rw [← octets_append, List.take_append_drop]
  rw [List.extract_eq_take_drop, offset, offset, hcs, htake, List.append_assoc, List.drop_left,
    List.length_append, Nat.add_sub_cancel_left, List.take_left]

/-! ### Lines among octets -/

/-- The spans of the lines of a text whose unfinished line began at octet `start`; the text goes on with
octet `position`, after a carriage return or not. -/
def octetSpansAfter (start position : Nat) (afterReturn : Bool) : List UInt8 → List Span
  | [] => if start < position then [⟨start, position⟩] else []
  | b :: rest =>
    if b = 10 then
      ⟨start, if afterReturn && start < position then position - 1 else position⟩
        :: octetSpansAfter (position + 1) (position + 1) false rest
    else octetSpansAfter start (position + 1) (b == 13) rest

/-- The spans of the lines of a text as octets, without their terminators, in order. -/
def octetSpans (bytes : List UInt8) : List Span :=
  octetSpansAfter 0 0 false bytes

/-- Octets that are no line feed and no carriage return are passed over. -/
theorem octetSpansAfter_append {bytes : List UInt8} (hbytes : ∀ b ∈ bytes, b ≠ 10 ∧ b ≠ 13)
    (hne : bytes ≠ []) (start position : Nat) (afterReturn : Bool) (rest : List UInt8) :
    octetSpansAfter start position afterReturn (bytes ++ rest) =
      octetSpansAfter start (position + bytes.length) false rest := by
  induction bytes generalizing position afterReturn with
  | nil => exact absurd rfl hne
  | cons b bytes ih =>
    obtain ⟨⟨hfeed, hreturn⟩, hbytes⟩ := List.forall_mem_cons.mp hbytes
    have hstep : octetSpansAfter start position afterReturn (b :: (bytes ++ rest)) =
        octetSpansAfter start (position + 1) false (bytes ++ rest) := by
      rw [octetSpansAfter, if_neg hfeed, beq_eq_false_iff_ne.mpr hreturn]
    rw [List.cons_append, hstep, List.length_cons]
    cases bytes with
    | nil => rfl
    | cons b' bytes =>
      rw [ih hbytes (List.cons_ne_nil b' bytes), Nat.add_right_comm]
      rfl

/-- A character other than a line feed is passed over as a whole. -/
theorem octetSpansAfter_utf8EncodeChar {c : Char} (hc : c ≠ '\n') (start position : Nat)
    (afterReturn : Bool) (rest : List UInt8) :
    octetSpansAfter start position afterReturn (String.utf8EncodeChar c ++ rest) =
      octetSpansAfter start (position + (String.utf8EncodeChar c).length) (c == '\r') rest := by
  by_cases hreturn : c = '\r'
  · subst hreturn
    rfl
  · have hbytes : ∀ b ∈ String.utf8EncodeChar c, b ≠ 10 ∧ b ≠ 13 := by
      intro b hb
      constructor <;> rintro rfl
      · exact hc (Char.toNat_inj.mp (toNat_eq_of_mem_utf8EncodeChar hb (by decide)))
      · exact hreturn (Char.toNat_inj.mp (toNat_eq_of_mem_utf8EncodeChar hb (by decide)))
    rw [octetSpansAfter_append hbytes String.utf8EncodeChar_ne_nil, beq_eq_false_iff_ne.mpr hreturn]

theorem length_octets_append_singleton (before : List Char) (c : Char) :
    (octets (before ++ [c])).length = (octets before).length + (String.utf8EncodeChar c).length := by
  rw [octets_append, List.length_append, octets_cons, octets_nil, List.append_nil]

/-- A carriage return is one octet. -/
theorem offset_pred_of_getLast? {before : List Char} (h : before.getLast? = some '\r') :
    offset before (before.length - 1) = (octets before).length - 1 := by
  obtain ⟨front, rfl⟩ := List.getLast?_eq_some_iff.mp h
  rw [length_octets_append_singleton, List.length_append, List.length_singleton,
    Nat.add_sub_cancel, offset_append_of_le (Nat.le_refl _), offset_length]
  rfl

/-- A line stops at the same place in both scans: before a carriage return that belongs to it. -/
theorem offset_lineStop {before : List Char} {afterReturn : Bool}
    (hreturn : afterReturn = true → before.getLast? = some '\r') (start : Nat) (rest : List Char) :
    offset (before ++ rest)
        (if afterReturn && start < before.length then before.length - 1 else before.length) =
      if afterReturn && offset before start < (octets before).length then (octets before).length - 1
      else (octets before).length := by
  have hcond : decide (offset before start < (octets before).length) = decide (start < before.length) :=
    decide_eq_decide.mpr offset_lt_length_iff
  rw [hcond]
  split
  · next hback =>
    rw [offset_append_of_le (Nat.sub_le _ _),
      offset_pred_of_getLast? (hreturn (Bool.and_eq_true_iff.mp hback).1)]
  · rw [offset_append_of_le (Nat.le_refl _), offset_length]

/-- From any character on, both scans find the same lines. -/
theorem octetSpansAfter_octets {before : List Char} {start : Nat} (hstart : start ≤ before.length)
    {afterReturn : Bool} (hreturn : afterReturn = true → before.getLast? = some '\r')
    (rest : List Char) :
    octetSpansAfter (offset before start) (octets before).length afterReturn (octets rest) =
      (lineSpansAfter start before.length afterReturn rest).map (Span.inOctets (before ++ rest)) := by
  -- what has been read moves to the front of the text, so the text as a whole stays
  induction rest generalizing before start afterReturn with
  | nil =>
    rw [List.append_nil, lineSpansAfter, octets_nil, octetSpansAfter]
    by_cases hlt : start < before.length
    · rw [if_pos hlt, if_pos (offset_lt_length_iff.mpr hlt), List.map_singleton, Span.inOctets,
        offset_length]
    · rw [if_neg hlt, if_neg (mt offset_lt_length_iff.mp hlt), List.map_nil]
  | cons c rest ih =>
    have hsplit : before ++ c :: rest = (before ++ [c]) ++ rest := List.append_cons before c rest
    by_cases hc : c = '\n'
    · subst hc
      have hnext := @ih (before ++ ['\n']) _ (Nat.le_refl _) false (by simp)
      rw [offset_length, length_octets_append_singleton, ← hsplit, List.length_append] at hnext
      have hocts : octets ('\n' :: rest) = 10 :: octets rest := octets_cons _ _
      rw [hocts, octetSpansAfter, if_pos rfl, lineSpansAfter, List.map_cons, Span.inOctets,
        offset_lineStop hreturn, offset_append_of_le hstart]
      exact congrArg _ hnext
    · have hreturn' : (c == '\r') = true → (before ++ [c]).getLast? = some '\r' := by
        intro heq
        rw [List.getLast?_append, eq_of_beq heq]
        rfl
      have hnext := @ih (before ++ [c]) start (by simp; omega) _ hreturn'
      rw [offset_append_of_le hstart, length_octets_append_singleton, ← hsplit, List.length_append,
        List.length_singleton] at hnext
      rw [octets_cons, octetSpansAfter_utf8EncodeChar hc, hnext, lineSpansAfter]
      exact hc

/-- **Both scans find the same lines**, each in its own places. -/
theorem octetSpans_encode (text : String) :
    octetSpans (encode text) = (lineSpans text.toList).map (Span.inOctets text.toList) := by
  rw [encode_eq]
  exact @octetSpansAfter_octets [] 0 (Nat.le_refl 0) false (fun h => absurd h (by decide)) text.toList

/-- A line of one character of two octets, an empty line, and one that ends with a carriage return alone. -/
example : octetSpans (octets "é\r\n\nx\r".toList) = [⟨0, 2⟩, ⟨4, 4⟩, ⟨5, 7⟩] := by decide

end Checkup.Text
