import Checkup.Json.Decode
import Checkup.Proofs.Entries
import Checkup.Proofs.Json.RoundTrip

/-!
# What decoders give back

Numbers, lists and entries are decoded to what they are made of. A double is written as the shortest decimal that
is nearest to it, and read by arithmetic that rounds; that the two agree for a given double is the property
`ReadsBack`. All else holds of every value.
-/

namespace Checkup.Json

/-! ### Numbers -/

theorem isPlain_ofNat (n : Nat) : IsPlain (ofNat n) :=
  .number (hasDigits_ofNat n) (Numeral.isWhole_toDigits n)

/-- The text written for a double is read back as the same double. -/
def ReadsBack (x : Float) : Prop :=
  (parse? (ofFloat x).compact.toList).bind float? = some x

instance (x : Float) : Decidable (ReadsBack x) :=
  inferInstanceAs (Decidable (_ = _))

theorem isPlain_of_readsBack {x : Float} (h : ReadsBack x) :
    IsPlain (ofFloat x) ∧ float? (ofFloat x) = some x := by
  rw [ReadsBack] at h
  rw [ofFloat] at h ⊢
  cases hliteral : Numeral.ofFloat? x with
  | none =>
    -- what is not finite is written as null, and null is no double
    rw [hliteral] at h
    contradiction
  | some literal =>
    rw [hliteral] at h
    have hdigits : HasDigits literal := by
      rw [Numeral.ofFloat?] at hliteral
      split at hliteral
      · exact Option.some.inj hliteral ▸ hasDigits_ofDecimal _ _
      · contradiction
    simp only [compact, String.toList_ofList, print, parse?_text hdigits] at h
    split at h
    case isTrue hwhole => exact ⟨.number hdigits hwhole, h⟩
    case isFalse => contradiction

/-! ### Lists and entries -/

section Lists

variable {α : Type} {decode : Json → Option α} {encode : α → Json}

theorem isPlain_array_map {items : List α} (h : ∀ a ∈ items, IsPlain (encode a)) :
    IsPlain (.array (items.map encode)) :=
  .array (List.forall_mem_map.mpr h)

theorem isPlain_object_map {entries : List (String × α)} (h : ∀ e ∈ entries, IsPlain (encode e.2)) :
    IsPlain (.object (entries.map fun (name, a) => (name, encode a))) :=
  .object (List.forall_mem_map.mpr h)

theorem list?_map {items : List α} (h : ∀ a ∈ items, decode (encode a) = some a) :
    list? decode (.array (items.map encode)) = some items := by
  rw [list?]
  induction items with
  | nil => rfl
  | cons a items ih =>
    rw [List.map_cons, List.mapM_cons, h a List.mem_cons_self, ih fun b hb => h b (List.mem_cons_of_mem a hb)]
    rfl

theorem entries?_map {entries : List (String × α)} (h : ∀ e ∈ entries, decode (encode e.2) = some e.2) :
    entries? decode (.object (entries.map fun (name, a) => (name, encode a))) = some entries := by
  rw [entries?]
  induction entries with
  | nil => rfl
  | cons e entries ih =>
    rw [List.map_cons, List.mapM_cons, ih fun b hb => h b (List.mem_cons_of_mem e hb)]
    simp [h e List.mem_cons_self]

theorem sortedEntries?_map {entries : List (String × α)} (hascending : entries.Pairwise fun a b => a.1 < b.1)
    (h : ∀ e ∈ entries, decode (encode e.2) = some e.2) :
    sortedEntries? decode (.object (entries.map fun (name, a) => (name, encode a))) = some entries := by
  rw [sortedEntries?, entries?_map h]
  exact congrArg some (Entries.sort_merge_eq_self hascending)

end Lists

/-! ### What has been decoded

What a decoder gives only for values with a property, lists and entries of such values have throughout. -/

section Decoded

variable {α : Type} {decode : Json → Option α} {P : α → Prop} {value : Json}

theorem exists_of_required_eq_some {field : Option Json} {a : α} (h : required decode field = some a) :
    ∃ value, decode value = some a := by
  cases field with
  | none => contradiction
  | some value => exact ⟨value, h⟩

theorem lt_of_word?_eq_some {n : Nat} (h : word? value = some n) : n < Nat.pow 2 64 := by
  cases value with
  | number literal =>
    rw [word?, natBelow?, Numeral.nat?] at h
    split at h
    · simp only [Option.ite_none_right_eq_some, Option.some.injEq] at h
      exact h.2 ▸ h.1
    · contradiction
  | _ => contradiction

/-- The results of a list of computations have what each computation gives. -/
theorem forall_mem_of_mapM_eq_some {β : Type} {f : β → Option α} {items : List β} {as : List α}
    (h : ∀ b a, f b = some a → P a) (hmap : items.mapM f = some as) : ∀ a ∈ as, P a := by
  induction items generalizing as with
  | nil =>
    obtain rfl : [] = as := Option.some.inj hmap
    exact nofun
  | cons b items ih =>
    rw [List.mapM_cons] at hmap
    obtain ⟨a, ha, hbind⟩ := Option.bind_eq_some_iff.mp hmap
    obtain ⟨rest, hrest, heq⟩ := Option.bind_eq_some_iff.mp hbind
    obtain rfl : a :: rest = as := Option.some.inj heq
    exact List.forall_mem_cons.mpr ⟨h b a ha, ih hrest⟩

theorem forall_mem_of_list?_eq_some {as : List α} (h : ∀ v a, decode v = some a → P a)
    (hlist : list? decode value = some as) : ∀ a ∈ as, P a := by
  cases value with
  | array items => exact forall_mem_of_mapM_eq_some h hlist
  | _ => contradiction

theorem forall_mem_of_entries?_eq_some {entries : List (String × α)} (h : ∀ v a, decode v = some a → P a)
    (hentries : entries? decode value = some entries) : ∀ e ∈ entries, P e.2 := by
  cases value with
  | object members =>
    refine forall_mem_of_mapM_eq_some (P := fun e : String × α => P e.2) (fun m e he => ?_) hentries
    obtain ⟨a, ha, rfl⟩ := Option.map_eq_some_iff.mp he
    exact h m.2 a ha
  | _ => contradiction

theorem pairwise_of_sortedEntries?_eq_some {entries : List (String × α)}
    (h : sortedEntries? decode value = some entries) : entries.Pairwise fun a b => a.1 < b.1 := by
  obtain ⟨written, -, rfl⟩ := Option.map_eq_some_iff.mp h
  exact Entries.pairwise_sort (Entries.nodup_map_fst_merge written)

theorem forall_mem_of_sortedEntries?_eq_some {entries : List (String × α)}
    (h : ∀ v a, decode v = some a → P a) (hentries : sortedEntries? decode value = some entries) :
    ∀ e ∈ entries, P e.2 := by
  obtain ⟨written, hwritten, rfl⟩ := Option.map_eq_some_iff.mp hentries
  intro e he
  rw [Function.comp_apply, (Entries.sort_perm _).mem_iff] at he
  exact forall_mem_of_entries?_eq_some h hwritten e (Entries.merge_subset written he)

end Decoded

end Checkup.Json
