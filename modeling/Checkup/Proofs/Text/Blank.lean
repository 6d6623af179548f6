import Checkup.Text.Blank

/-!
# Blanks

Collapsing blanks forgets which blanks a text has and how many stand together: a blank in the middle is as
good as a space between the two collapsed halves (`collapseBlanks_append_blank`).

A pass over a text is *wordwise* when it leaves blanks alone and treats what stands between them apart
(`IsWordwise`). Such a pass commutes with collapsing (`IsWordwise.collapseBlanks_comm`), so it makes no
difference which of the two comes first.

Trimming takes the blanks at both ends away (`exists_eq_append_trim`), and all of them, so it gets a text back that
neither starts nor ends with one (`IsTrimmed.trim_append`).
-/

namespace Checkup.Text

/-! ### Collapsing -/

theorem collapseBlanksAfter_true_cons {c : Char} (hc : isBlank c = true) (cs : List Char) :
    collapseBlanksAfter true (c :: cs) = collapseBlanksAfter true cs := by
  rw [collapseBlanksAfter, if_pos hc, if_pos rfl]

theorem collapseBlanksAfter_false_cons {c : Char} (hc : isBlank c = true) (cs : List Char) :
    collapseBlanksAfter false (c :: cs) = ' ' :: collapseBlanksAfter true cs := by
  rw [collapseBlanksAfter, if_pos hc, if_neg Bool.false_ne_true]

theorem collapseBlanksAfter_cons_of_not {c : Char} (hc : isBlank c = false) (b : Bool)
    (cs : List Char) : collapseBlanksAfter b (c :: cs) = c :: collapseBlanksAfter false cs := by
  rw [collapseBlanksAfter, hc, if_neg Bool.false_ne_true]

/-- A character that is no blank parts the pass. -/
theorem collapseBlanksAfter_append_cons_of_not {c : Char} (hc : isBlank c = false) (b : Bool)
    (cs ds : List Char) :
    collapseBlanksAfter b (cs ++ c :: ds) =
      collapseBlanksAfter b cs ++ c :: collapseBlanksAfter false ds := by
  induction cs generalizing b with
  | nil => exact collapseBlanksAfter_cons_of_not hc b ds
  | cons a cs ih =>
    rw [List.cons_append, collapseBlanksAfter, collapseBlanksAfter, ih, ih]
    split
    · split <;> rfl
    · rfl

/-- Collapsing the start of a text first changes nothing. -/
theorem collapseBlanksAfter_collapse_append (b : Bool) (cs ds : List Char) :
    collapseBlanksAfter b (collapseBlanksAfter b cs ++ ds) = collapseBlanksAfter b (cs ++ ds) := by
  induction cs generalizing b with
  | nil => rfl
  | cons c cs ih =>
    rcases hc : isBlank c with _ | _
    · rw [collapseBlanksAfter_cons_of_not hc, List.cons_append, collapseBlanksAfter_cons_of_not hc,
        ih, List.cons_append, collapseBlanksAfter_cons_of_not hc]
    · cases b with
      | true =>
        rw [collapseBlanksAfter_true_cons hc, ih, List.cons_append, collapseBlanksAfter_true_cons hc]
      | false =>
        have hspace : isBlank ' ' = true := by decide
        rw [collapseBlanksAfter_false_cons hc, List.cons_append,
          collapseBlanksAfter_false_cons hspace, ih, List.cons_append,
          collapseBlanksAfter_false_cons hc]

theorem collapseBlanksAfter_collapse (b : Bool) (cs : List Char) :
    collapseBlanksAfter b (collapseBlanksAfter b cs) = collapseBlanksAfter b cs := by
  have h := collapseBlanksAfter_collapse_append b cs []
  rwa [List.append_nil, List.append_nil] at h

/-- After a blank it makes no difference whether a text was collapsed as if it stood after one. -/
theorem collapseBlanksAfter_true_collapse (b : Bool) (cs : List Char) :
    collapseBlanksAfter true (collapseBlanksAfter b cs) = collapseBlanksAfter true cs := by
  cases b with
  | true => exact collapseBlanksAfter_collapse true cs
  | false =>
    cases cs with
    | nil => rfl
    | cons c cs =>
      rcases hc : isBlank c with _ | _
      · rw [collapseBlanksAfter_cons_of_not hc, collapseBlanksAfter_cons_of_not hc,
          collapseBlanksAfter_cons_of_not hc, collapseBlanksAfter_collapse]
      · have hspace : isBlank ' ' = true := by decide
        rw [collapseBlanksAfter_false_cons hc, collapseBlanksAfter_true_cons hspace,
          collapseBlanksAfter_collapse, collapseBlanksAfter_true_cons hc]

/-- Which blank stands between two texts is forgotten, and so is what the second looks like before it is
collapsed. -/
theorem collapseBlanksAfter_append_congr {c d : Char} (hc : isBlank c = true) (hd : isBlank d = true)
    {ds es : List Char} (h : collapseBlanksAfter true ds = collapseBlanksAfter true es) (b : Bool)
    (cs : List Char) :
    collapseBlanksAfter b (cs ++ c :: ds) = collapseBlanksAfter b (cs ++ d :: es) := by
  induction cs generalizing b with
  | nil =>
    cases b with
    | true =>
      rw [List.nil_append, List.nil_append, collapseBlanksAfter_true_cons hc, h,
        collapseBlanksAfter_true_cons hd]
    | false =>
      rw [List.nil_append, List.nil_append, collapseBlanksAfter_false_cons hc, h,
        collapseBlanksAfter_false_cons hd]
  | cons a cs ih =>
    rw [List.cons_append, List.cons_append, collapseBlanksAfter, collapseBlanksAfter, ih, ih]

/-- A blank inside a text is as good as a space between the collapsed halves. -/
theorem collapseBlanks_append_blank {c : Char} (hc : isBlank c = true) (cs ds : List Char) :
    collapseBlanks (cs ++ c :: ds) =
      collapseBlanks (collapseBlanks cs ++ ' ' :: collapseBlanks ds) := by
  have hright := (collapseBlanksAfter_true_collapse false ds).symm
  calc collapseBlanks (cs ++ c :: ds)
      = collapseBlanks (cs ++ ' ' :: collapseBlanks ds) :=
        collapseBlanksAfter_append_congr hc (by decide) hright false cs
    _ = collapseBlanks (collapseBlanks cs ++ ' ' :: collapseBlanks ds) :=
        (collapseBlanksAfter_collapse_append false cs _).symm

theorem collapseBlanksAfter_true_blanks_append {blanks : List Char}
    (hblanks : ∀ c ∈ blanks, isBlank c = true) (cs : List Char) :
    collapseBlanksAfter true (blanks ++ cs) = collapseBlanksAfter true cs := by
  induction blanks with
  | nil => rfl
  | cons c blanks ih =>
    obtain ⟨hc, hblanks⟩ := List.forall_mem_cons.mp hblanks
    rw [List.cons_append, collapseBlanksAfter_true_cons hc, ih hblanks]

/-- A run of blanks is as good as one space. -/
theorem collapseBlanks_append_blanks {blanks : List Char}
    (hblanks : ∀ c ∈ blanks, isBlank c = true) (hne : blanks ≠ []) (cs ds : List Char) :
    collapseBlanks (cs ++ (blanks ++ ds)) = collapseBlanks (cs ++ ' ' :: ds) := by
  obtain ⟨c, rest, rfl⟩ := List.exists_cons_of_ne_nil hne
  obtain ⟨hc, hrest⟩ := List.forall_mem_cons.mp hblanks
  exact collapseBlanksAfter_append_congr hc (by decide)
    (collapseBlanksAfter_true_blanks_append hrest ds) false cs

/-! ### Wordwise passes -/

/-- A pass over a text that leaves blanks as they are and treats what stands between them apart: no word
gets a blank, and none vanishes. -/
structure IsWordwise (pass : List Char → List Char) : Prop where
  nil : pass [] = []
  append_blank : ∀ (cs : List Char) {c : Char} (ds : List Char), isBlank c = true →
    pass (cs ++ c :: ds) = pass cs ++ c :: pass ds
  not_blank : ∀ {word : List Char}, (∀ c ∈ word, isBlank c = false) →
    ∀ c ∈ pass word, isBlank c = false
  ne_nil : ∀ {word : List Char}, word ≠ [] → (∀ c ∈ word, isBlank c = false) → pass word ≠ []

theorem IsWordwise.comp {p q : List Char → List Char} (hp : IsWordwise p) (hq : IsWordwise q) :
    IsWordwise (p ∘ q) where
  nil := by rw [Function.comp_apply, hq.nil, hp.nil]
  append_blank cs c ds hc := by
    rw [Function.comp_apply, hq.append_blank cs ds hc, hp.append_blank _ _ hc]
    rfl
  not_blank hword := hp.not_blank (hq.not_blank hword)
  ne_nil hne hword := hp.ne_nil (hq.ne_nil hne hword) (hq.not_blank hword)

/-- A text is one run of characters of a kind, or a run, a character of another kind and another text. -/
theorem eq_run_or_append_cons (kind : Char → Bool) (cs : List Char) :
    (∀ c ∈ cs, kind c = true) ∨
      ∃ run c rest, (∀ c ∈ run, kind c = true) ∧ kind c = false ∧ cs = run ++ c :: rest := by
  induction cs with
  | nil => exact .inl (List.forall_mem_nil _)
  | cons c cs ih =>
    rcases hc : kind c with _ | _
    · exact .inr ⟨[], c, cs, List.forall_mem_nil _, hc, rfl⟩
    · rcases ih with hrun | ⟨run, d, rest, hrun, hd, rfl⟩
      · exact .inl (List.forall_mem_cons.mpr ⟨hc, hrun⟩)
      · exact .inr ⟨c :: run, d, rest, List.forall_mem_cons.mpr ⟨hc, hrun⟩, hd, rfl⟩

/-- A text is one word or a word, a blank and another text. -/
theorem eq_word_or_append_blank (cs : List Char) :
    (∀ c ∈ cs, isBlank c = false) ∨ ∃ word c ds, (∀ c ∈ word, isBlank c = false) ∧
      isBlank c = true ∧ cs = word ++ c :: ds := by
  simpa using eq_run_or_append_cons (!isBlank ·) cs

theorem collapseBlanksAfter_word_append {word : List Char} (hword : ∀ c ∈ word, isBlank c = false)
    (hne : word ≠ []) (b : Bool) (cs : List Char) :
    collapseBlanksAfter b (word ++ cs) = word ++ collapseBlanksAfter false cs := by
  induction word generalizing b with
  | nil => exact absurd rfl hne
  | cons c word ih =>
    obtain ⟨hc, hword⟩ := List.forall_mem_cons.mp hword
    rw [List.cons_append, collapseBlanksAfter_cons_of_not hc, List.cons_append]
    by_cases hnil : word = []
    · rw [hnil, List.nil_append, List.nil_append]
    · rw [ih hword hnil]

theorem collapseBlanksAfter_word {word : List Char} (hword : ∀ c ∈ word, isBlank c = false)
    (b : Bool) : collapseBlanksAfter b word = word := by
  by_cases hne : word = []
  · rw [hne]
    rfl
  · have h := collapseBlanksAfter_word_append hword hne b []
    rwa [List.append_nil, collapseBlanksAfter, List.append_nil] at h

theorem IsWordwise.cons_blank {pass : List Char → List Char} (h : IsWordwise pass) {c : Char}
    (hc : isBlank c = true) (cs : List Char) : pass (c :: cs) = c :: pass cs := by
  have hnil := h.append_blank [] cs hc
  rwa [h.nil, List.nil_append, List.nil_append] at hnil

theorem IsWordwise.blanks_append {pass : List Char → List Char} (h : IsWordwise pass)
    {blanks : List Char} (hblanks : ∀ c ∈ blanks, isBlank c = true) (cs : List Char) :
    pass (blanks ++ cs) = blanks ++ pass cs := by
  induction blanks with
  | nil => rfl
  | cons c blanks ih =>
    obtain ⟨hc, hblanks⟩ := List.forall_mem_cons.mp hblanks
    rw [List.cons_append, h.cons_blank hc, ih hblanks, List.cons_append]

theorem IsWordwise.append_blanks_append {pass : List Char → List Char} (h : IsWordwise pass)
    {blanks : List Char} (hblanks : ∀ c ∈ blanks, isBlank c = true) (hne : blanks ≠ [])
    (cs ds : List Char) : pass (cs ++ (blanks ++ ds)) = pass cs ++ (blanks ++ pass ds) := by
  obtain ⟨c, rest, rfl⟩ := List.exists_cons_of_ne_nil hne
  obtain ⟨hc, hrest⟩ := List.forall_mem_cons.mp hblanks
  rw [List.cons_append, h.append_blank cs _ hc, h.blanks_append hrest, List.cons_append]

/-- The induction goes from one blank to the next, and so over the length of the text. -/
theorem IsWordwise.collapseBlanksAfter_comm {pass : List Char → List Char} (h : IsWordwise pass)
    (b : Bool) (cs : List Char) :
    pass (collapseBlanksAfter b cs) = collapseBlanksAfter b (pass cs) := by
  have hspace : isBlank ' ' = true := by decide
  induction hlen : cs.length using Nat.strongRecOn generalizing b cs with
  | ind n ih =>
    rcases eq_word_or_append_blank cs with hword | ⟨word, c, ds, hword, hc, rfl⟩
    · rw [collapseBlanksAfter_word hword, collapseBlanksAfter_word (h.not_blank hword)]
    · have hlt : ds.length < n := by
        rw [List.length_append, List.length_cons] at hlen
        omega
      have hds := ih ds.length hlt true ds rfl
      rw [h.append_blank word ds hc]
      by_cases hne : word = []
      · -- the blank stands first, and is written or not by what stood before the text
        rw [hne, h.nil, List.nil_append, List.nil_append]
        cases b with
        | true => rw [collapseBlanksAfter_true_cons hc, hds, collapseBlanksAfter_true_cons hc]
        | false =>
          rw [collapseBlanksAfter_false_cons hc, h.cons_blank hspace, hds,
            collapseBlanksAfter_false_cons hc]
      · rw [collapseBlanksAfter_word_append hword hne, collapseBlanksAfter_false_cons hc,
          h.append_blank word _ hspace, hds,
          collapseBlanksAfter_word_append (h.not_blank hword) (h.ne_nil hne hword),
          collapseBlanksAfter_false_cons hc]

/-- **A wordwise pass commutes with collapsing blanks.** -/
theorem IsWordwise.collapseBlanks_comm {pass : List Char → List Char} (h : IsWordwise pass)
    (cs : List Char) : pass (collapseBlanks cs) = collapseBlanks (pass cs) :=
  h.collapseBlanksAfter_comm false cs

/-! ### Trimming -/

/-- The first character of a text that is no blank. -/
def first? (cs : List Char) : Option Char :=
  (trimStart cs).head?

theorem first?_append (cs ds : List Char) : first? (cs ++ ds) = (first? cs).or (first? ds) := by
  rw [first?, first?, first?, trimStart, trimStart, trimStart, List.dropWhile_append]
  cases cs.dropWhile isBlank <;> rfl

theorem first?_cons_of_not {c : Char} (hc : isBlank c = false) (cs : List Char) : first? (c :: cs) = some c := by
  rw [first?, trimStart, List.dropWhile_cons_of_neg (Bool.eq_false_iff.mp hc), List.head?_cons]

theorem first?_of_forall {blanks : List Char} (hblanks : ∀ c ∈ blanks, isBlank c = true) :
    first? blanks = none := by
  have hdrop : (blanks ++ []).dropWhile isBlank = [] := List.dropWhile_append_of_pos hblanks
  rw [List.append_nil] at hdrop
  rw [first?, trimStart, hdrop, List.head?_nil]

theorem isBlank_of_first?_eq_some {cs : List Char} {c : Char} (h : first? cs = some c) : isBlank c = false := by
  have hnot := List.head?_dropWhile_not isBlank cs
  rw [first?, trimStart] at h
  rw [h] at hnot
  simpa using hnot

theorem trimEnd_cons_of_not {c : Char} (hc : isBlank c = false) (cs : List Char) :
    trimEnd (c :: cs) = c :: trimEnd cs := by
  rw [trimEnd, trimEnd, List.reverse_cons, List.dropWhile_append]
  split
  · next hempty =>
    rw [List.isEmpty_iff.mp hempty, List.dropWhile_cons_of_neg (Bool.eq_false_iff.mp hc)]
    rfl
  · rw [List.reverse_append, List.reverse_singleton, List.singleton_append]

/-- A trimmed text starts with its first character that is no blank. -/
theorem head?_trim (cs : List Char) : (trim cs).head? = first? cs := by
  rw [trim, first?]
  cases hcs : trimStart cs with
  | nil => rfl
  | cons c rest =>
    have hc : isBlank c = false := isBlank_of_first?_eq_some (by rw [first?, hcs, List.head?_cons])
    rw [trimEnd_cons_of_not hc, List.head?_cons, List.head?_cons]

theorem first?_trim (cs : List Char) : first? (trim cs) = first? cs := by
  rw [← head?_trim cs]
  cases htrim : trim cs with
  | nil => rfl
  | cons c rest =>
    have hc : isBlank c = false := isBlank_of_first?_eq_some (by rw [← head?_trim cs, htrim, List.head?_cons])
    rw [first?_cons_of_not hc, List.head?_cons]

/-- Neither end of a text is blank. -/
def IsTrimmed (cs : List Char) : Prop :=
  cs.head?.any isBlank = false ∧ cs.getLast?.any isBlank = false

instance (cs : List Char) : Decidable (IsTrimmed cs) :=
  inferInstanceAs (Decidable (_ ∧ _))

theorem any_isBlank_first? (cs : List Char) : (first? cs).any isBlank = false := by
  cases h : first? cs with
  | none => rfl
  | some c => exact isBlank_of_first?_eq_some h

theorem isTrimmed_trim (cs : List Char) : IsTrimmed (trim cs) := by
  constructor
  · rw [head?_trim]
    exact any_isBlank_first? cs
  · rw [trim, trimEnd, List.getLast?_reverse]
    exact any_isBlank_first? (trimStart cs).reverse

theorem isTrimmed_of_forall_not {word : List Char} (hword : ∀ c ∈ word, isBlank c = false) : IsTrimmed word := by
  have hend : ∀ o : Option Char, (∀ c ∈ o, c ∈ word) → o.any isBlank = false := by
    intro o ho
    cases o with
    | none => rfl
    | some c => exact hword c (ho c rfl)
  exact ⟨hend _ fun c => List.mem_of_head?, hend _ fun c => List.mem_of_getLast?⟩

/-- A trimmed text is what is left of it between blanks. -/
theorem IsTrimmed.trim_append {cs : List Char} (h : IsTrimmed cs) {before after : List Char}
    (hbefore : ∀ c ∈ before, isBlank c = true) (hafter : ∀ c ∈ after, isBlank c = true) :
    trim (before ++ (cs ++ after)) = cs := by
  have hafter' : ∀ c ∈ after.reverse, isBlank c = true := fun c hc => hafter c (List.mem_reverse.mp hc)
  have hend : trimEnd (cs ++ after) = cs := by
    rw [trimEnd, List.reverse_append, List.dropWhile_append_of_pos hafter']
    cases hrev : cs.reverse with
    | nil => rw [List.dropWhile_nil, List.reverse_nil, ← List.reverse_reverse cs, hrev, List.reverse_nil]
    | cons c rest =>
      have hlast := h.2
      rw [← List.head?_reverse, hrev] at hlast
      have hc : isBlank c = false := hlast
      rw [List.dropWhile_cons_of_neg (Bool.eq_false_iff.mp hc), ← hrev, List.reverse_reverse]
  rw [trim, trimStart, List.dropWhile_append_of_pos hbefore]
  cases cs with
  | nil =>
    have hnil : (after ++ []).dropWhile isBlank = [] := List.dropWhile_append_of_pos hafter
    rw [List.append_nil] at hnil
    rw [List.nil_append, hnil]
    rfl
  | cons c rest =>
    have hc : isBlank c = false := h.1
    rw [List.cons_append, List.dropWhile_cons_of_neg (Bool.eq_false_iff.mp hc), ← List.cons_append, hend]

theorem IsTrimmed.trim_eq {cs : List Char} (h : IsTrimmed cs) : trim cs = cs := by
  have hnil : ∀ c ∈ ([] : List Char), isBlank c = true := List.forall_mem_nil _
  have htrim := h.trim_append hnil hnil
  rwa [List.nil_append, List.append_nil] at htrim

theorem trim_of_forall_not {word : List Char} (hword : ∀ c ∈ word, isBlank c = false) : trim word = word :=
  (isTrimmed_of_forall_not hword).trim_eq

/-- Trimming takes blanks away and nothing else. -/
theorem exists_eq_append_trim (cs : List Char) : ∃ before after, (∀ c ∈ before, isBlank c = true) ∧
    (∀ c ∈ after, isBlank c = true) ∧ cs = before ++ (trim cs ++ after) := by
  have hall : ∀ ds : List Char, ∀ c ∈ ds.takeWhile isBlank, isBlank c = true :=
    fun _ => List.all_eq_true.mp List.all_takeWhile
  refine ⟨cs.takeWhile isBlank, ((trimStart cs).reverse.takeWhile isBlank).reverse, hall cs,
    fun c hc => hall _ c (List.mem_reverse.mp hc), ?_⟩
  rw [trim, trimEnd, ← List.reverse_append, List.takeWhile_append_dropWhile, List.reverse_reverse, trimStart,
    List.takeWhile_append_dropWhile]

/-! ### Fields -/

theorem fields_go_append {word : List Char} (hword : ∀ c ∈ word, isBlank c = false) (field rest : List Char) :
    fields.go field (word ++ rest) = fields.go (word.reverse ++ field) rest := by
  induction word generalizing field with
  | nil => rfl
  | cons c word ih =>
    obtain ⟨hc, hword⟩ := List.forall_mem_cons.mp hword
    rw [List.cons_append, fields.go, hc, if_neg Bool.false_ne_true, ih hword, List.reverse_cons, List.append_assoc,
      List.singleton_append]

theorem fields_blanks_append {blanks : List Char} (hblanks : ∀ c ∈ blanks, isBlank c = true) (cs : List Char) :
    fields (blanks ++ cs) = fields cs := by
  induction blanks with
  | nil => rfl
  | cons c blanks ih =>
    obtain ⟨hc, hblanks⟩ := List.forall_mem_cons.mp hblanks
    rw [List.cons_append, fields, fields.go, hc, if_pos rfl]
    exact ih hblanks

/-- A text without blanks is one field. -/
theorem fields_word {word : List Char} (hword : ∀ c ∈ word, isBlank c = false) (hne : word ≠ []) :
    fields word = [word] := by
  have h := fields_go_append hword [] []
  rw [List.append_nil, List.append_nil] at h
  rw [fields, h, fields.go, List.reverse_reverse, if_neg]
  simpa using hne

/-- A blank ends the first field. -/
theorem fields_word_append {word : List Char} (hword : ∀ c ∈ word, isBlank c = false) (hne : word ≠ []) {c : Char}
    (hc : isBlank c = true) (rest : List Char) : fields (word ++ c :: rest) = word :: fields rest := by
  have hne' : ¬(word.reverse ++ []).isEmpty = true := by simpa using hne
  rw [fields, fields_go_append hword, fields.go, hc, if_pos rfl, if_neg hne', List.append_nil, List.reverse_reverse,
    fields]

/-! ### Blanks and other characters -/

theorem ne_of_isBlank {c d : Char} (hc : isBlank c = true) (hd : isBlank d = false) : c ≠ d := by
  rintro rfl
  rw [hc] at hd
  contradiction

/-- The code points of the blanks. -/
def blankCodePoints : List Nat := [
  9, 10, 11, 12, 13, 32, 0x85, 0xA0, 0x1680, 0x2000, 0x2001, 0x2002, 0x2003, 0x2004, 0x2005, 0x2006,
  0x2007, 0x2008, 0x2009, 0x200A, 0x2028, 0x2029, 0x202F, 0x205F, 0x3000]

theorem isBlank_iff {c : Char} : isBlank c = true ↔ c.toNat ∈ blankCodePoints := by
  simp only [isBlank, blankCodePoints, List.mem_cons, List.not_mem_nil, or_false, Bool.or_eq_true,
    Bool.and_eq_true, decide_eq_true_eq, beq_iff_eq]
  omega

end Checkup.Text
