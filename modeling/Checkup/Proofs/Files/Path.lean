import Checkup.Files.Path
import Checkup.Proofs.Text.Utf8
import Mathlib.Data.List.TakeDrop
import Mathlib.Data.List.TakeWhile
import Mathlib.Data.String.Basic

/-!
# Steps, bytes, extensions and the order of paths

The steps of a path are its characters split at the slashes (`steps_eq`), so that they can be reasoned about,
and evaluated, as lists. Names without slashes are the steps of the path that they make (`steps_intercalate`).

Any bytes are those of some path (`exists_bytes_eq`). A path without the character that announces bytes has the
bytes of the text that it is, and is shown as this text (`bytes_eq_octets`, `shown_eq_self`). If there is no slash
among the bytes of a name, there is none in the name, and none in what is shown of it (`slash_notMem_toList`,
`slash_notMem_shown`).

A name has a text as its extension if this is what stands behind its last dot, with something before the dot
(`HasExtension`). The text for the extension of a name is this one, and empty if there is none
(`HasExtension.nameExtension_eq`, `hasExtension_nameExtension_or`).

The order of paths is strict, and total up to the bytes of their steps (`isBefore_asymm`,
`isBefore_of_not_isBefore_of_ne`).
-/

namespace Checkup.Files.Path

open String

/-- Splitting a text at slashes from the end of `l ++ m` on, when `m` has been read since the last one. -/
theorem splitOnAux_slash (l m r : List Char) (acc : List String) :
    splitOnAux (ofList (l ++ m ++ r)) "/" ⟨utf8Len l⟩ ⟨utf8Len (l ++ m)⟩ 0 acc =
      acc.reverse ++ (List.splitOnPPrepend (· == '/') r m.reverse).map ofList := by
  have hslash : Pos.Raw.get "/" 0 = '/' ∧ Pos.Raw.next "/" 0 = ⟨1⟩ ∧ Pos.Raw.atEnd "/" ⟨1⟩ = true := by
    decide +kernel
  obtain ⟨hget, hnext, hend⟩ := hslash
  have hpart (l m r) : Pos.Raw.extract (ofList (l ++ m ++ r)) ⟨utf8Len l⟩ ⟨utf8Len (l ++ m)⟩ = ofList m := by
    rw [utf8Len_append]
    exact extract_of_valid l m r
  induction r generalizing l m acc with
  | nil =>
    rw [splitOnAux, if_pos ((atEnd_of_valid (l ++ m) []).mpr rfl), hpart]
    simp
  | cons c r ih =>
    have hlen : utf8Len (l ++ m ++ [c]) = utf8Len (l ++ m) + c.utf8Size := by
      rw [utf8Len_append]
      simp
    have happ : l ++ m ++ c :: r = l ++ m ++ [c] ++ r := List.append_cons ..
    rw [splitOnAux, if_neg ((atEnd_of_valid (l ++ m) (c :: r)).not.mpr (List.cons_ne_nil c r)),
      get_of_valid, hget, next_of_valid, List.headD_cons, List.splitOnPPrepend_cons_eq_if]
    split_ifs with hc
    · -- the slash is one byte long, so the part ends where it stands
      have hsize : c.utf8Size = 1 := by rw [beq_iff_eq.mp hc]; rfl
      have hback : (⟨utf8Len (l ++ m) + c.utf8Size⟩ : Pos.Raw).unoffsetBy ⟨1⟩ = ⟨utf8Len (l ++ m)⟩ := by
        rw [hsize]
        rfl
      have h := ih (l ++ m ++ [c]) [] (ofList m :: acc)
      rw [List.append_nil, ← happ, hlen] at h
      simp only [hnext, hend, if_true, hback, hpart]
      rw [h, List.reverse_cons, List.map_cons, List.append_assoc, List.reverse_reverse]
      rfl
    · have hback : (⟨utf8Len (l ++ m)⟩ : Pos.Raw).unoffsetBy 0 = ⟨utf8Len (l ++ m)⟩ := rfl
      have h := ih l (m ++ [c]) acc
      rw [← List.append_assoc, ← happ, hlen, List.reverse_append] at h
      rw [hback, next_of_valid, h]
      rfl

/-- The steps of a path are its characters split at the slashes. -/
theorem steps_eq (path : String) : steps path = (path.toList.splitOn '/').map ofList := by
  have h := splitOnAux_slash [] [] path.toList []
  simp only [List.nil_append, ofList_toList, List.reverse_nil] at h
  exact h

/-- Names without slashes are the steps of the path that they make. -/
theorem steps_intercalate {names : List String} (hnames : ∀ name ∈ names, '/' ∉ name.toList) (hne : names ≠ []) :
    steps ("/".intercalate names) = names := by
  have hslash : ∀ cs ∈ names.map String.toList, '/' ∉ cs := List.forall_mem_map.mpr hnames
  have hne : names.map String.toList ≠ [] := List.map_eq_nil_iff.not.mpr hne
  rw [steps_eq, String.toList_intercalate]
  calc (['/'].intercalate (names.map String.toList) |>.splitOn '/').map String.ofList
      = (names.map String.toList).map String.ofList := by rw [List.splitOn_intercalate '/' hslash hne]
    _ = names := by simp

/-! ### Bytes -/

section Bytes

open Text (octets)

theorem bytesOf_mark_cons (d : Char) (cs : List Char) :
    bytesOf (mark :: d :: cs) = UInt8.ofNat d.toNat :: bytesOf cs := by
  rw [bytesOf, if_pos rfl]

theorem bytesOf_cons_of_ne {c : Char} (hc : c ≠ mark) (cs : List Char) :
    bytesOf (c :: cs) = String.utf8EncodeChar c ++ bytesOf cs := by
  cases cs with
  | nil => rw [bytesOf, bytesOf, List.append_nil]
  | cons d cs => rw [bytesOf, if_neg hc]

theorem bytesOf_eq_octets {cs : List Char} (h : mark ∉ cs) : bytesOf cs = octets cs := by
  induction cs with
  | nil => rfl
  | cons c cs ih =>
    obtain ⟨hc, hcs⟩ := List.ne_and_not_mem_of_not_mem_cons h
    rw [bytesOf_cons_of_ne hc.symm, ih hcs, Text.octets_cons]

/-- A path that announces no byte has the bytes of the text that it is. -/
theorem bytes_eq_octets {path : String} (h : mark ∉ path.toList) : bytes path = octets path.toList :=
  bytesOf_eq_octets h

/-- A path that announces no byte is shown as it is. -/
theorem shown_eq_self {path : String} (h : mark ∉ path.toList) : shown path = path := by
  rw [shown, bytes_eq_octets h, Text.decode_octets, ofList_toList]

/-- A text has its own bytes as a path too. -/
theorem bytes_ofText (text : String) : bytes (ofText text) = octets text.toList := by
  rw [bytes, ofText, toList_ofList]
  induction text.toList with
  | nil => rfl
  | cons c cs ih =>
    rw [List.flatMap_cons, Text.octets_cons, ← ih]
    split_ifs with hc
    · subst hc
      exact bytesOf_mark_cons mark _
    · exact bytesOf_cons_of_ne hc _

theorem shown_ofText (text : String) : shown (ofText text) = text := by
  rw [shown, bytes_ofText, Text.decode_octets, ofList_toList]

/-- **Any bytes are those of some path.** -/
theorem exists_bytes_eq (bs : List UInt8) : ∃ path, bytes path = bs := by
  refine ⟨ofList (bs.flatMap fun b => [mark, Char.ofNat b.toNat]), ?_⟩
  rw [bytes, toList_ofList]
  induction bs with
  | nil => rfl
  | cons b bs ih =>
    have hb : (Char.ofNat b.toNat).toNat = b.toNat :=
      Text.toNat_ofNat_of_isValidChar (.inl (b.toNat_lt.trans (by decide)))
    rw [List.flatMap_cons, List.cons_append, List.cons_append, List.nil_append, bytesOf_mark_cons, ih, hb,
      UInt8.ofNat_toNat]

/-- A slash in a name is a slash among its bytes, and so is one that is announced. -/
theorem slash_mem_bytesOf {cs : List Char} (h : '/' ∈ cs) : slash ∈ bytesOf cs := by
  fun_induction bytesOf cs with
  | case1 => contradiction
  | case2 c =>
    rw [← List.mem_singleton.mp h]
    decide
  | case3 d rest ih =>
    rcases List.mem_cons.mp h with h | h
    · exact absurd h (by decide)
    · rcases List.mem_cons.mp h with rfl | h
      · exact List.mem_cons_self
      · exact List.mem_cons_of_mem _ (ih h)
  | case4 c d rest hc ih =>
    rcases List.mem_cons.mp h with rfl | h
    · exact List.mem_append_left _ (by decide)
    · exact List.mem_append_right _ (ih h)

theorem slash_notMem_toList {name : String} (h : slash ∉ bytes name) : '/' ∉ name.toList :=
  mt slash_mem_bytesOf h

theorem slash_notMem_shown {name : String} (h : slash ∉ bytes name) : '/' ∉ (shown name).toList := by
  intro hshown
  rw [shown, toList_ofList] at hshown
  obtain ⟨b, hb, heq⟩ := Text.exists_mem_of_mem_decode hshown (by decide) (by decide)
  obtain rfl : b = slash := UInt8.toNat_inj.mp heq
  exact h hb

end Bytes

/-! ### Extensions -/

/-- A name has a text as its extension if there is a dot in it behind its first byte, and the text is what stands
behind the last dot. It may be empty. -/
def HasExtension (name ext : String) : Prop :=
  ∃ stem, stem ≠ [] ∧ bytes name = stem ++ dot :: Text.encode ext ∧ dot ∉ Text.encode ext

theorem bytesAfterDot?_eq_some_iff {name : String} {after : List UInt8} :
    bytesAfterDot? name = some after ↔ ∃ stem, stem ≠ [] ∧ bytes name = stem ++ dot :: after ∧ dot ∉ after := by
  rw [bytesAfterDot?, List.span_eq_takeWhile_dropWhile]
  constructor
  · intro h
    split at h
    case h_2 => contradiction
    case h_1 behind d last before heq =>
      rw [Prod.mk.injEq] at heq
      obtain ⟨rfl, hdrop⟩ := heq
      obtain rfl := Option.some.inj h
      have hd : d = dot := by
        have hhead := List.head?_dropWhile_not (decide <| · ≠ dot) (bytes name).reverse
        rw [hdrop] at hhead
        simpa using hhead
      refine ⟨(last :: before).reverse, by simp, ?_, fun hdot => ?_⟩
      · have happ := List.takeWhile_append_dropWhile (p := (decide <| · ≠ dot)) (l := (bytes name).reverse)
        rw [hdrop, hd, ← List.reverse_eq_iff] at happ
        refine happ.symm.trans ?_
        simp only [List.reverse_append, List.reverse_cons, List.append_assoc, List.nil_append,
          List.cons_append]
      · simpa using List.mem_takeWhile_imp (List.mem_reverse.mp hdot)
  · rintro ⟨stem, hstem, hname, hdot⟩
    obtain ⟨last, before, hlast⟩ := List.exists_cons_of_ne_nil (List.reverse_ne_nil_iff.mpr hstem)
    have hall : ∀ b ∈ after.reverse, decide (b ≠ dot) = true := by
      intro b hb
      rw [decide_eq_true_iff]
      rintro rfl
      exact hdot (List.mem_reverse.mp hb)
    have hreverse : (bytes name).reverse = after.reverse ++ dot :: last :: before := by
      rw [hname, List.reverse_append, List.reverse_cons, hlast, List.append_assoc, List.singleton_append]
    rw [hreverse, List.takeWhile_append_of_pos hall, List.dropWhile_append_of_pos hall]
    simp

theorem HasExtension.nameExtension_eq {name ext : String} (h : HasExtension name ext) : nameExtension name = ext := by
  rw [nameExtension, bytesAfterDot?_eq_some_iff.mpr h, Option.bind_some]
  rw [Text.ofBytes?_eq_some_iff.mpr (Text.encode_eq ext).symm]
  rfl

/-- The text for the extension of a name that has none is empty. -/
theorem hasExtension_nameExtension_or (name : String) :
    HasExtension name (nameExtension name) ∨ nameExtension name = "" ∧ ∀ ext, ¬HasExtension name ext := by
  by_cases h : ∃ ext, HasExtension name ext
  · obtain ⟨ext, hext⟩ := h
    exact .inl (hext.nameExtension_eq.symm ▸ hext)
  · refine .inr ⟨?_, not_exists.mp h⟩
    rw [nameExtension]
    -- a text behind the last dot would be an extension
    cases hafter : (bytesAfterDot? name).bind Text.ofBytes? with
    | none => rfl
    | some ext =>
      obtain ⟨after, hdot, htext⟩ := Option.bind_eq_some_iff.mp hafter
      rw [Text.ofBytes?_eq_some_iff, ← Text.encode_eq] at htext
      exact absurd ⟨ext, bytesAfterDot?_eq_some_iff.mp (htext ▸ hdot)⟩ h

/-! ### The order of paths -/

theorem ne_of_bytes_lt {a b : String} (h : bytes a < bytes b) : a ≠ b := by
  rintro rfl
  exact List.lt_irrefl _ h

section Order

variable {a b c : List String}

theorem isBefore_asymm (h : isBefore a b = true) : isBefore b a = false := by
  rw [isBefore, decide_eq_true_iff] at h
  exact decide_eq_false (List.lt_asymm h)

theorem isBefore_of_not_isBefore_of_ne (h : isBefore b a = false) (hne : a.map bytes ≠ b.map bytes) :
    isBefore a b = true := by
  rw [isBefore, decide_eq_false_iff_not] at h
  rw [isBefore, decide_eq_true_iff]
  by_contra hlt
  exact hne (List.le_antisymm h hlt)

theorem not_isBefore_trans (hab : isBefore b a = false) (hbc : isBefore c b = false) : isBefore c a = false := by
  rw [isBefore, decide_eq_false_iff_not] at hab hbc ⊢
  exact List.le_trans hab hbc

end Order

end Checkup.Files.Path
