import Checkup.Dependency.Manifest
import Checkup.Proofs.Text.Blank
import Checkup.Proofs.Text.Division

/-!
# What a Go module requires

A line says a text if it is that text with blanks around it and perhaps a comment behind (`Says`). Every line says
one text that has no comment and no blank at its ends, and `statement` finds it (`statement_eq_iff`).

A module file lists requirements line by line (`Requires`): each on a line of its own behind the word `require`, or
in a block between parentheses. All other lines outside the blocks count for nothing, as long as they do not begin
like a requirement.

* **A step** — the reader knows whether a block is open. What each kind of line does to this and adds to the entries
  is one lemma each (`entriesFrom_blockStart` and the ones after it).
* **A run** — through a block (`entriesFrom_of_requiresInBlock`) and through the whole file
  (`entriesFrom_of_requires`), the entries are the listed requirements in their order.
-/

namespace Checkup.Dependency.GoMod

open Checkup.Text

/-! ### What a line says -/

/-- What starts a comment. -/
def slashes : List Char := ['/', '/']

/-- A text is one that a line may say: no comment starts in it, and neither end is blank. -/
def IsStatement (cs : List Char) : Prop :=
  ¬slashes <:+: cs ∧ IsTrimmed cs

instance (cs : List Char) : Decidable (IsStatement cs) :=
  inferInstanceAs (Decidable (_ ∧ _))

/-- A line says a text: blanks may stand around it, and a comment behind. The comment stands right behind the text
only if that does not end with a slash. -/
def Says (line said : List Char) : Prop :=
  ∃ before after comment : List Char, line = before ++ (said ++ (after ++ comment)) ∧
    (∀ c ∈ before, isBlank c = true) ∧ (∀ c ∈ after, isBlank c = true) ∧
      (comment = [] ∨ slashes <+: comment ∧ (after = [] → said.getLast? ≠ some '/'))

theorem slashes_prefix_cons_iff {c : Char} {cs : List Char} :
    slashes <+: c :: cs ↔ c = '/' ∧ cs.head? = some '/' := by
  rw [slashes, List.cons_prefix_cons, eq_comm]
  cases cs with
  | nil => simp
  | cons d cs => simp [List.cons_prefix_cons, eq_comm]

theorem dropComment_slashes {cs : List Char} (h : slashes <+: cs) : dropComment cs = [] := by
  obtain ⟨rest, rfl⟩ := h
  rfl

theorem dropComment_cons {c : Char} {cs : List Char} (h : ¬slashes <+: c :: cs) :
    dropComment (c :: cs) = c :: dropComment cs := by
  rw [dropComment]
  rintro rest rfl rfl
  exact h (slashes_prefix_cons_iff.mpr ⟨rfl, rfl⟩)

/-- No comment is cut off before it starts. -/
theorem dropComment_append {cs ds : List Char} (hcs : ¬slashes <:+: cs)
    (hjoin : cs.getLast? = some '/' → ds.head? ≠ some '/') : dropComment (cs ++ ds) = cs ++ dropComment ds := by
  induction cs with
  | nil => rfl
  | cons c cs ih =>
    rw [List.infix_cons_iff, not_or, slashes_prefix_cons_iff] at hcs
    have hstart : ¬slashes <+: c :: (cs ++ ds) := by
      rw [slashes_prefix_cons_iff]
      rintro ⟨rfl, hhead⟩
      cases cs with
      | nil => exact hjoin rfl hhead
      | cons d cs => exact hcs.1 ⟨rfl, hhead⟩
    rw [List.cons_append, dropComment_cons hstart, List.cons_append]
    refine congrArg _ (ih hcs.2 fun hlast => hjoin ?_)
    rw [List.getLast?_cons, hlast]
    rfl

theorem not_slashes_infix_of_blanks {blanks : List Char} (h : ∀ c ∈ blanks, isBlank c = true) :
    ¬slashes <:+: blanks := by
  intro hwithin
  have hblank := h '/' (hwithin.subset List.mem_cons_self)
  exact absurd hblank (by decide)

theorem dropComment_blanks_append {blanks : List Char} (h : ∀ c ∈ blanks, isBlank c = true) (cs : List Char) :
    dropComment (blanks ++ cs) = blanks ++ dropComment cs := by
  refine dropComment_append (not_slashes_infix_of_blanks h) fun hlast => ?_
  have hblank := h '/' (List.mem_of_getLast? hlast)
  exact absurd hblank (by decide)

/-- What is cut off is nothing or a comment, and the comment is the first one. -/
theorem exists_eq_dropComment_append (line : List Char) : ∃ comment, line = dropComment line ++ comment ∧
    ¬slashes <:+: dropComment line ∧
      (comment = [] ∨ slashes <+: comment ∧ (dropComment line).getLast? ≠ some '/') := by
  induction line with
  | nil => exact ⟨[], rfl, by decide, .inl rfl⟩
  | cons c line ih =>
    by_cases hstart : slashes <+: c :: line
    · rw [dropComment_slashes hstart]
      exact ⟨c :: line, rfl, by decide, .inr ⟨hstart, by decide⟩⟩
    · obtain ⟨comment, heq, hfree, hcomment⟩ := ih
      rw [dropComment_cons hstart]
      rw [slashes_prefix_cons_iff] at hstart
      refine ⟨comment, congrArg _ heq, ?_, hcomment.imp_right fun ⟨hslashes, hlast⟩ => ⟨hslashes, ?_⟩⟩
      · rw [List.infix_cons_iff, not_or, slashes_prefix_cons_iff]
        refine ⟨fun ⟨hc, hhead⟩ => hstart ⟨hc, ?_⟩, hfree⟩
        rw [heq, List.head?_append, hhead, Option.some_or]
      · cases hline : dropComment line with
        | nil =>
          -- the comment stands right behind the character
          rw [hline, List.nil_append] at heq
          rintro hc
          refine hstart ⟨by simpa using hc, ?_⟩
          obtain ⟨rest, hrest⟩ := hslashes
          rw [heq, ← hrest]
          rfl
        | cons d rest =>
          rw [hline] at hlast
          rwa [List.getLast?_cons_cons]

theorem dropComment_eq_self_iff {cs : List Char} : dropComment cs = cs ↔ ¬slashes <:+: cs := by
  constructor
  · intro h
    obtain ⟨-, -, hfree, -⟩ := exists_eq_dropComment_append cs
    rwa [h] at hfree
  · intro h
    have happend : dropComment (cs ++ []) = cs ++ dropComment [] := dropComment_append h fun _ => by simp
    rwa [List.append_nil, dropComment, List.append_nil] at happend

/-- **What a line says.** There is one text without comments and blanks at its ends that a line says. -/
theorem statement_eq_iff {line said : List Char} : statement line = said ↔ IsStatement said ∧ Says line said := by
  constructor
  · rintro rfl
    obtain ⟨comment, heq, hfree, hcomment⟩ := exists_eq_dropComment_append line
    obtain ⟨before, after, hbefore, hafter, htrim⟩ := exists_eq_append_trim (dropComment line)
    refine ⟨⟨fun h => hfree ?_, isTrimmed_trim _⟩, before, after, comment, ?_, hbefore, hafter, ?_⟩
    · rw [htrim]
      exact h.trans ⟨before, after, by rw [statement, List.append_assoc]⟩
    · rw [statement, ← List.append_assoc _ after, ← List.append_assoc before, ← htrim]
      exact heq
    · refine hcomment.imp_right fun ⟨hslashes, hlast⟩ => ⟨hslashes, fun hnil hslash => hlast ?_⟩
      rw [htrim, hnil, List.append_nil, List.getLast?_append]
      rw [statement] at hslash
      rw [hslash, Option.some_or]
  · rintro ⟨⟨hfree, htrimmed⟩, before, after, comment, rfl, hbefore, hafter, hcomment⟩
    have hnone : dropComment comment = [] := by
      rcases hcomment with rfl | ⟨hslashes, -⟩
      · rfl
      · exact dropComment_slashes hslashes
    have hjoin : said.getLast? = some '/' → (after ++ comment).head? ≠ some '/' := by
      intro hlast hhead
      cases after with
      | nil =>
        rcases hcomment with rfl | ⟨-, hslash⟩
        · exact absurd hhead (by decide)
        · exact hslash rfl hlast
      | cons c after =>
        obtain rfl : c = '/' := Option.some.inj hhead
        exact absurd (hafter '/' List.mem_cons_self) (by decide)
    rw [statement, dropComment_blanks_append hbefore, dropComment_append hfree hjoin,
      dropComment_blanks_append hafter, hnone, List.append_nil]
    exact htrimmed.trim_append hbefore hafter

/-! ### Requirements as they are written -/

/-- Whether a character may stand in a name or a version: it is no blank and no parenthesis. -/
def isTermChar (c : Char) : Bool :=
  !isBlank c && c != '(' && c != ')'

/-- A text may be a name or a version: it is not empty, all its characters may stand there, and no comment starts
in it. -/
def IsTerm (cs : List Char) : Prop :=
  cs ≠ [] ∧ cs.all isTermChar = true ∧ ¬slashes <:+: cs

instance (cs : List Char) : Decidable (IsTerm cs) :=
  inferInstanceAs (Decidable (_ ∧ _))

theorem IsTerm.not_isBlank {cs : List Char} (h : IsTerm cs) : ∀ c ∈ cs, isBlank c = false := by
  intro c hc
  have hchar := List.all_eq_true.mp h.2.1 c hc
  rw [isTermChar, Bool.and_assoc, Bool.and_eq_true_iff, Bool.not_eq_true'] at hchar
  exact hchar.1

theorem IsTerm.parenthesis_not_mem {cs : List Char} (h : IsTerm cs) : '(' ∉ cs :=
  fun hmem => absurd (List.all_eq_true.mp h.2.1 '(' hmem) (by decide)

/-- A requirement of a module. -/
structure Requirement where
  name : String
  version : String
  isTerm_name : IsTerm name.toList
  isTerm_version : IsTerm version.toList

/-- A text is a requirement as it is written: the name and the version with blanks between them. -/
def Requirement.IsWritten (r : Requirement) (cs : List Char) : Prop :=
  ∃ gap : List Char, gap ≠ [] ∧ (∀ c ∈ gap, isBlank c = true) ∧ cs = r.name.toList ++ (gap ++ r.version.toList)

/-- The entry for a requirement: no requirement of a module is for development only. -/
def Requirement.entry (r : Requirement) : Entry :=
  ⟨r.name, r.version, false⟩

/-- The lines of a block list some requirements, each on a line of its own. Lines that say nothing may stand
between them. -/
inductive RequiresInBlock : List (List Char) → List Requirement → Prop
  | nil : RequiresInBlock [] []
  | blank {line : List Char} {rest : List (List Char)} {rs : List Requirement} :
      Says line [] → RequiresInBlock rest rs → RequiresInBlock (line :: rest) rs
  | entry {line said : List Char} {r : Requirement} {rest : List (List Char)} {rs : List Requirement} :
      Says line said → r.IsWritten said → RequiresInBlock rest rs → RequiresInBlock (line :: rest) (r :: rs)

/-- The lines of a module file list some requirements: behind the word `require` or in blocks. Any other line is
one that does not begin with this word and a space. -/
inductive Requires : List (List Char) → List Requirement → Prop
  | nil : Requires [] []
  | other {line said : List Char} {rest : List (List Char)} {rs : List Requirement} :
      IsStatement said → Says line said → ¬"require ".toList <+: said → Requires rest rs → Requires (line :: rest) rs
  | single {line said : List Char} {r : Requirement} {rest : List (List Char)} {rs : List Requirement} :
      Says line ("require ".toList ++ said) → r.IsWritten said → Requires rest rs →
      Requires (line :: rest) (r :: rs)
  | block {first last : List Char} {inside rest : List (List Char)} {rs rs' : List Requirement} :
      Says first "require (".toList → RequiresInBlock inside rs → Says last ")".toList → Requires rest rs' →
      Requires (first :: (inside ++ last :: rest)) (rs ++ rs')

namespace Requirement.IsWritten

variable {r : Requirement} {cs : List Char}

theorem required?_eq (h : r.IsWritten cs) : required? cs = some r.entry := by
  obtain ⟨gap, hne, hgap, rfl⟩ := h
  obtain ⟨c, gap, rfl⟩ := List.exists_cons_of_ne_nil hne
  obtain ⟨hc, hgap⟩ := List.forall_mem_cons.mp hgap
  have hfields : fields (r.name.toList ++ (c :: gap ++ r.version.toList)) = [r.name.toList, r.version.toList] := by
    rw [List.cons_append, fields_word_append r.isTerm_name.not_isBlank r.isTerm_name.1 hc,
      fields_blanks_append hgap, fields_word r.isTerm_version.not_isBlank r.isTerm_version.1]
  rw [required?, hfields, entry]
  dsimp only
  rw [String.ofList_toList, String.ofList_toList]

theorem isStatement (h : r.IsWritten cs) : IsStatement cs := by
  obtain ⟨gap, hne, hgap, rfl⟩ := h
  have hjoin : (gap ++ r.version.toList).head? ≠ some '/' := by
    obtain ⟨c, gap, rfl⟩ := List.exists_cons_of_ne_nil hne
    rintro hhead
    obtain rfl : c = '/' := Option.some.inj hhead
    exact absurd (hgap '/' List.mem_cons_self) (by decide)
  constructor
  · rw [← dropComment_eq_self_iff, dropComment_append r.isTerm_name.2.2 fun _ => hjoin, dropComment_blanks_append hgap,
      dropComment_eq_self_iff.mpr r.isTerm_version.2.2]
  · constructor
    · rw [List.head?_append_of_ne_nil _ r.isTerm_name.1]
      exact (isTrimmed_of_forall_not r.isTerm_name.not_isBlank).1
    · rw [← List.append_assoc, List.getLast?_append_of_ne_nil _ r.isTerm_version.1]
      exact (isTrimmed_of_forall_not r.isTerm_version.not_isBlank).2

/-- A requirement is longer than a parenthesis. -/
theorem one_lt_length (h : r.IsWritten cs) : 1 < cs.length := by
  obtain ⟨gap, hne, -, rfl⟩ := h
  have hname := List.length_pos_iff.mpr r.isTerm_name.1
  have hgap := List.length_pos_iff.mpr hne
  rw [List.length_append, List.length_append]
  omega

theorem parenthesis_not_mem (h : r.IsWritten cs) : '(' ∉ cs := by
  obtain ⟨gap, -, hgap, rfl⟩ := h
  simp only [List.mem_append, not_or]
  exact ⟨r.isTerm_name.parenthesis_not_mem, fun hmem => absurd (hgap '(' hmem) (by decide),
    r.isTerm_version.parenthesis_not_mem⟩

/-- The word `require` may stand before a requirement. -/
theorem isStatement_requireWord_append (h : r.IsWritten cs) : IsStatement (requireWord ++ cs) := by
  have hne : cs ≠ [] := List.length_pos_iff.mp (Nat.lt_of_succ_lt h.one_lt_length)
  have hfree : ¬slashes <:+: requireWord := by decide
  have hword : requireWord.getLast? ≠ some '/' := by decide
  refine ⟨?_, rfl, ?_⟩
  · rw [← dropComment_eq_self_iff, dropComment_append hfree fun hlast => absurd hlast hword,
      dropComment_eq_self_iff.mpr h.isStatement.1]
  · rw [List.getLast?_append_of_ne_nil _ hne]
    exact h.isStatement.2.2

end Requirement.IsWritten

/-! ### A step of the reader -/

section Step

variable {said : List Char} {rest : List (List Char)}

theorem entriesFrom_blockStart (inBlock : Bool) (rest : List (List Char)) :
    entriesFrom inBlock (blockStart :: rest) = entriesFrom true rest := by
  rw [entriesFrom, if_pos rfl]

theorem entriesFrom_blockEnd (rest : List (List Char)) :
    entriesFrom true ([')'] :: rest) = entriesFrom false rest := by
  rw [entriesFrom, if_neg (by decide), if_pos rfl, if_pos rfl]

/-- Inside a block, any other line may be a requirement. -/
theorem entriesFrom_inBlock (hstart : said ≠ blockStart) (hend : said ≠ [')']) :
    entriesFrom true (said :: rest) = (required? said).toList ++ entriesFrom true rest := by
  rw [entriesFrom, if_neg hstart, if_pos rfl, if_neg hend]

/-- Outside the blocks, a requirement stands behind the word. -/
theorem entriesFrom_single (hstart : requireWord ++ said ≠ blockStart) :
    entriesFrom false ((requireWord ++ said) :: rest) =
      (required? (trim said)).toList ++ entriesFrom false rest := by
  have hword : requireWord.isPrefixOf? (requireWord ++ said) = some said :=
    List.isPrefixOf?_eq_some_iff_append_eq.mpr rfl
  rw [entriesFrom, if_neg hstart, if_neg Bool.false_ne_true, hword]

/-- Outside the blocks, all other lines count for nothing. -/
theorem entriesFrom_other (h : ¬requireWord <+: said) :
    entriesFrom false (said :: rest) = entriesFrom false rest := by
  have hstart : said ≠ blockStart := by
    rintro rfl
    exact h (List.prefix_append requireWord ['('])
  have hword : requireWord.isPrefixOf? said = none := by
    rw [Option.eq_none_iff_forall_ne_some]
    intro after heq
    exact h ⟨after, List.isPrefixOf?_eq_some_iff_append_eq.mp heq⟩
  rw [entriesFrom, if_neg hstart, if_neg Bool.false_ne_true, hword]

end Step

/-! ### The whole file -/

/-- Through a block, the entries are its requirements, and the block is open still. -/
theorem entriesFrom_of_requiresInBlock {inside : List (List Char)} {rs : List Requirement}
    (h : RequiresInBlock inside rs) (rest : List (List Char)) :
    entriesFrom true (inside.map statement ++ rest) = rs.map Requirement.entry ++ entriesFrom true rest := by
  induction h with
  | nil => rfl
  | blank hsays _ ih =>
    rw [List.map_cons, statement_eq_iff.mpr ⟨by decide, hsays⟩, List.cons_append,
      entriesFrom_inBlock (by decide) (by decide), ih]
    rfl
  | @entry line said r rest rs hsays hwritten _ ih =>
    have hstart : said ≠ blockStart := by
      rintro rfl
      exact hwritten.parenthesis_not_mem (by decide)
    have hend : said ≠ [')'] := by
      rintro rfl
      exact absurd hwritten.one_lt_length (by decide)
    rw [List.map_cons, statement_eq_iff.mpr ⟨hwritten.isStatement, hsays⟩, List.cons_append,
      entriesFrom_inBlock hstart hend, hwritten.required?_eq, ih]
    rfl

/-- Through a file, the entries are its requirements. Between the blocks no block is open. -/
theorem entriesFrom_of_requires {ls : List (List Char)} {rs : List Requirement} (h : Requires ls rs) :
    entriesFrom false (ls.map statement) = rs.map Requirement.entry := by
  induction h with
  | nil => rfl
  | other hstatement hsays hword _ ih =>
    rw [List.map_cons, statement_eq_iff.mpr ⟨hstatement, hsays⟩, entriesFrom_other hword, ih]
  | @single line said r rest rs hsays hwritten _ ih =>
    have hstart : requireWord ++ said ≠ blockStart := by
      intro heq
      have hlength := hwritten.one_lt_length
      rw [List.append_cancel_left heq] at hlength
      exact absurd hlength (by decide)
    have hsaid : statement line = requireWord ++ said :=
      statement_eq_iff.mpr ⟨hwritten.isStatement_requireWord_append, hsays⟩
    rw [List.map_cons, hsaid, entriesFrom_single hstart, hwritten.isStatement.2.trim_eq, hwritten.required?_eq, ih]
    rfl
  | @block first last inside rest rs rs' hfirst hinside hlast _ ih =>
    have hstart : statement first = blockStart := statement_eq_iff.mpr ⟨by decide, hfirst⟩
    have hend : statement last = [')'] := statement_eq_iff.mpr ⟨by decide, hlast⟩
    rw [List.map_cons, List.map_append, List.map_cons, hstart, hend, entriesFrom_blockStart,
      entriesFrom_of_requiresInBlock hinside, entriesFrom_blockEnd, ih, List.map_append]

/-- **Requirements are read back.** If the lines of a module file list some requirements, the file declares exactly
these, in their order, and none of them for development only. -/
theorem declared_of_requires {text : String} {ls : List (List Char)} {rs : List Requirement}
    (htext : FallsInto text.toList ls) (h : Requires ls rs) :
    declared .goMod text = .ok (rs.map fun r => ⟨r.name, r.version, false⟩) := by
  rw [fallsInto_iff.mp htext] at h
  rw [declared, entries, entriesFrom_of_requires h]
  rfl

/-- A module file with lines that end in carriage returns: a requirement by itself with a comment, a block that is
about something else, and a block with a comment of its own and a requirement. -/
def sampleModule : String :=
  "module a.org/svc\r\nrequire b.org/errors v0.9.1 // direct\r\nreplace (\r\n\tc => ../c\r\n)\r\n" ++
    "require ( // others\r\n\t// used by b\r\n\td.org/sync\tv0.6.0\r\n)\r\n"

/-- The requirement that the file lists by itself. -/
def directRequirement : Requirement :=
  ⟨"b.org/errors", "v0.9.1", by decide +kernel, by decide +kernel⟩

/-- The requirement that it lists in a block. -/
def blockRequirement : Requirement :=
  ⟨"d.org/sync", "v0.6.0", by decide +kernel, by decide +kernel⟩

/-- Neither the blocks nor the comments of the file keep its requirements from being read. -/
theorem declared_sampleModule : FallsInto sampleModule.toList (lines sampleModule.toList) ∧
    Requires (lines sampleModule.toList) [directRequirement, blockRequirement] ∧
    declared .goMod sampleModule = .ok [⟨"b.org/errors", "v0.9.1", false⟩, ⟨"d.org/sync", "v0.6.0", false⟩] := by
  have htext : FallsInto sampleModule.toList (lines sampleModule.toList) := fallsInto_lines _
  have hlines : lines sampleModule.toList = ["module a.org/svc", "require b.org/errors v0.9.1 // direct", "replace (",
      "\tc => ../c", ")", "require ( // others", "\t// used by b", "\td.org/sync\tv0.6.0", ")"].map String.toList := by
    decide +kernel
  have hother : ∀ {line : String} {rest : List (List Char)} {rs : List Requirement},
      ¬"require ".toList <+: statement line.toList → Requires rest rs → Requires (line.toList :: rest) rs :=
    fun hword hrest => .other (statement_eq_iff.mp rfl).1 (statement_eq_iff.mp rfl).2 hword hrest
  have hdirect : directRequirement.IsWritten "b.org/errors v0.9.1".toList :=
    ⟨[' '], by decide, List.forall_mem_singleton.mpr (by decide), by decide +kernel⟩
  have hsingle : Says "require b.org/errors v0.9.1 // direct".toList
      ("require ".toList ++ "b.org/errors v0.9.1".toList) :=
    (statement_eq_iff.mp (by decide +kernel)).2
  have hentry : blockRequirement.IsWritten "d.org/sync\tv0.6.0".toList :=
    ⟨['\t'], by decide, List.forall_mem_singleton.mpr (by decide), by decide +kernel⟩
  have hinside : RequiresInBlock ["\t// used by b".toList, "\td.org/sync\tv0.6.0".toList] [blockRequirement] :=
    .blank (statement_eq_iff.mp (by decide +kernel)).2 (.entry (statement_eq_iff.mp (by decide +kernel)).2 hentry .nil)
  have hfirst : Says "require ( // others".toList "require (".toList := (statement_eq_iff.mp (by decide +kernel)).2
  have hlast : Says ")".toList ")".toList := (statement_eq_iff.mp (by decide +kernel)).2
  have hlisted : Requires (lines sampleModule.toList) [directRequirement, blockRequirement] := by
    rw [hlines]
    refine hother (by decide +kernel) (.single hsingle hdirect ?_)
    refine hother (by decide +kernel) (hother (by decide +kernel) (hother (by decide +kernel) ?_))
    exact .block hfirst hinside hlast .nil
  exact ⟨htext, hlisted, declared_of_requires htext hlisted⟩

end Checkup.Dependency.GoMod
