import Checkup.Proofs.Duplication.Key

/-!
# How the literals of a text are read

A text is put together from pieces, stretches of code and literals, and replacing its literals ought to give
the pieces back one by one, with a fixed literal for each literal (`Reading`). It does so unless a piece is
misread. This module ties the key of a text to its pieces, for any kind of pieces.

* `afterLiteral_eq_some_iff` — what the recogniser of literals finds is a body, in which a backslash stands
  before one character, and a closing quote. So a quote `Opens` a literal exactly when it finds something.
* `PartsAtMark` — two texts that go on alike up to two different marks. No later pass of the key makes up for
  it (`PartsAtMark.afterLiterals_ne`).
* `IsReadBy` — the pass writes what it should for each piece that is not misread, and parts from it at a mark
  at one that is. This is a law of one piece; over all pieces it says what the key of a text is
  (`IsReadBy.key_eq_iff`): that of the pieces, exactly when none of them is misread.
-/

namespace Checkup.Duplication

open Checkup.Text

/-! ### Bodies of literals -/

/-- The text between the quotes of a literal. A backslash stands with the character after it, and no line
ends. -/
inductive IsBody (quote : Char) : List Char → Prop
  | nil : IsBody quote []
  | plain {c : Char} {body : List Char} :
    c ≠ quote → c ≠ '\n' → c ≠ '\\' → IsBody quote body → IsBody quote (c :: body)
  | escaped {c : Char} {body : List Char} :
    c ≠ '\n' → IsBody quote body → IsBody quote ('\\' :: c :: body)

theorem afterLiteral_body_append {quote : Char} (hquote : '\\' ≠ quote) {body : List Char}
    (hbody : IsBody quote body) (rest : List Char) :
    afterLiteral quote (body ++ quote :: rest) = some rest := by
  induction hbody with
  | nil => exact afterLiteral_close quote rest
  | plain hc hfeed hslash _ ih => rw [List.cons_append, afterLiteral_of_plain hc hfeed hslash, ih]
  | escaped hc _ ih => rw [List.cons_append, List.cons_append, afterLiteral_escaped hquote hc, ih]

theorem exists_body_of_afterLiteral {quote : Char} {cs rest : List Char}
    (h : afterLiteral quote cs = some rest) :
    ∃ body, IsBody quote body ∧ cs = body ++ quote :: rest := by
  fun_induction afterLiteral quote cs with
  | case1 => contradiction
  | case2 tail =>
    obtain rfl := Option.some.inj h
    exact ⟨[], .nil, rfl⟩
  | case3 => contradiction
  | case4 => contradiction
  | case5 => contradiction
  | case6 c tail hc _ _ ih =>
    obtain ⟨body, hbody, rfl⟩ := ih h
    exact ⟨'\\' :: c :: body, .escaped hc hbody, rfl⟩
  | case7 c tail hc hfeed hslash ih =>
    obtain ⟨body, hbody, rfl⟩ := ih h
    exact ⟨c :: body, .plain hc hfeed hslash hbody, rfl⟩

/-- The recogniser of literals finds a body and a closing quote. -/
theorem afterLiteral_eq_some_iff {quote : Char} (hquote : '\\' ≠ quote) {cs rest : List Char} :
    afterLiteral quote cs = some rest ↔ ∃ body, IsBody quote body ∧ cs = body ++ quote :: rest := by
  refine ⟨exists_body_of_afterLiteral, ?_⟩
  rintro ⟨body, hbody, rfl⟩
  exact afterLiteral_body_append hquote hbody rest

/-- A quote that stands right before the text opens a literal. -/
def Opens (quote : Char) (cs : List Char) : Prop :=
  ∃ body rest, IsBody quote body ∧ cs = body ++ quote :: rest

theorem Opens.exists_afterLiteral {quote : Char} (hquote : '\\' ≠ quote) {cs : List Char}
    (h : Opens quote cs) : ∃ rest, afterLiteral quote cs = some rest := by
  obtain ⟨body, rest, hbody⟩ := h
  exact ⟨rest, (afterLiteral_eq_some_iff hquote).mpr ⟨body, hbody⟩⟩

theorem afterLiteral_eq_none_iff {quote : Char} (hquote : '\\' ≠ quote) {cs : List Char} :
    afterLiteral quote cs = none ↔ ¬Opens quote cs := by
  constructor
  · intro hnone hopens
    obtain ⟨rest, hrest⟩ := hopens.exists_afterLiteral hquote
    rw [hnone] at hrest
    contradiction
  · intro hopens
    rw [Option.eq_none_iff_forall_ne_some]
    intro rest hrest
    obtain ⟨body, hbody⟩ := exists_body_of_afterLiteral hrest
    exact hopens ⟨body, rest, hbody⟩

/-- The body of a literal in which nothing needs an escape. -/
structure PlainBody (quote : Char) where
  chars : List Char
  plain : ∀ c ∈ chars, c ≠ quote ∧ c ≠ '\n' ∧ c ≠ '\\' := by simp

theorem PlainBody.isBody {quote : Char} (b : PlainBody quote) : IsBody quote b.chars := by
  obtain ⟨cs, hplain⟩ := b
  induction cs with
  | nil => exact .nil
  | cons c cs ih =>
    obtain ⟨⟨hc, hfeed, hslash⟩, hcs⟩ := List.forall_mem_cons.mp hplain
    exact .plain hc hfeed hslash (ih hcs)

/-- A stretch of code in which none of the quotes stands. -/
structure Code (quotes : List Char) where
  chars : List Char
  unquoted : ∀ c ∈ chars, c ∉ quotes := by simp

/-! ### Texts that part -/

/-- The characters at which a misread literal shows. -/
def marks : List Char :=
  ['"', '`', '\\', 's', 'c']

/-- No pass after the literals changes a mark or looks beyond it. -/
theorem mark_facts : ∀ c ∈ marks, isBlank c = false ∧ isDigit c = false ∧ c ≠ '.' ∧
    lowerChar c = [c] ∧ c.toNat ≠ 0x3A3 := by
  simp only [marks, List.forall_mem_cons]
  refine ⟨?_, ?_, ?_, ?_, ?_, nofun⟩ <;> decide +kernel

/-- Two texts go on alike up to two different marks. -/
def PartsAtMark (cs ds : List Char) : Prop :=
  ∃ shared c d cs' ds', c ∈ marks ∧ d ∈ marks ∧ c ≠ d ∧ cs = shared ++ c :: cs' ∧
    ds = shared ++ d :: ds'

theorem PartsAtMark.append_left {cs ds : List Char} (h : PartsAtMark cs ds) (before : List Char) :
    PartsAtMark (before ++ cs) (before ++ ds) := by
  obtain ⟨shared, c, d, cs', ds', hc, hd, hne, rfl, rfl⟩ := h
  exact ⟨before ++ shared, c, d, cs', ds', hc, hd, hne, by rw [List.append_assoc],
    by rw [List.append_assoc]⟩

theorem PartsAtMark.collapseBlanks {cs ds : List Char} (h : PartsAtMark cs ds) :
    PartsAtMark (collapseBlanks cs) (collapseBlanks ds) := by
  obtain ⟨shared, c, d, cs', ds', hc, hd, hne, rfl, rfl⟩ := h
  exact ⟨_, c, d, _, _, hc, hd, hne,
    collapseBlanksAfter_append_cons_of_not (mark_facts c hc).1 false shared cs',
    collapseBlanksAfter_append_cons_of_not (mark_facts d hd).1 false shared ds'⟩

theorem PartsAtMark.replaceNumerals {cs ds : List Char} (h : PartsAtMark cs ds) :
    PartsAtMark (replaceNumerals cs) (replaceNumerals ds) := by
  obtain ⟨shared, c, d, cs', ds', hc, hd, hne, rfl, rfl⟩ := h
  obtain ⟨-, hcdigit, hcpoint, -⟩ := mark_facts c hc
  obtain ⟨-, hddigit, hdpoint, -⟩ := mark_facts d hd
  exact ⟨_, c, d, _, _, hc, hd, hne,
    replaceNumeralsFrom_append_cons hcdigit hcpoint .outside shared cs',
    replaceNumeralsFrom_append_cons hddigit hdpoint .outside shared ds'⟩

theorem PartsAtMark.lowercase_ne {cs ds : List Char} (h : PartsAtMark cs ds) :
    lowercase cs ≠ lowercase ds := by
  obtain ⟨shared, c, d, cs', ds', hc, hd, hne, rfl, rfl⟩ := h
  obtain ⟨-, -, -, hclower, hcsigma⟩ := mark_facts c hc
  obtain ⟨-, -, -, hdlower, hdsigma⟩ := mark_facts d hd
  intro heq
  -- the shared part may end in a sigma that hangs on the mark, but its length does not
  have hplace := getElem?_lowercaseAfter_append_cons hclower hcsigma false shared cs'
  rw [show lowercaseAfter false _ = _ from heq] at hplace
  rw [lowercase, getElem?_lowercaseAfter_append_cons hdlower hdsigma] at hplace
  exact hne (Option.some.inj hplace).symm

/-- Texts that part at a mark have different keys, once their literals are replaced. -/
theorem PartsAtMark.afterLiterals_ne {cs ds : List Char} (h : PartsAtMark cs ds) :
    afterLiterals (Text.collapseBlanks cs) ≠ afterLiterals (Text.collapseBlanks ds) :=
  h.collapseBlanks.replaceNumerals.lowercase_ne

/-! ### Texts made of pieces -/

/-- How a text is put together from pieces, and what replacing its literals should make of it. -/
structure Reading (π : Type) where
  /-- A piece as it stands in the text. -/
  source : π → List Char
  /-- What should be written for the piece. -/
  written : π → List Char
  /-- Whether the piece is taken for something else when this text follows it. -/
  Misreads : π → List Char → Prop

namespace Reading

variable {π : Type} (r : Reading π)

/-- The text of some pieces. -/
def text (ps : List π) : List Char :=
  ps.flatMap r.source

/-- What should be written for some pieces. -/
def result (ps : List π) : List Char :=
  ps.flatMap r.written

/-- Whether one of the pieces of a text is misread. -/
def SomeMisread : List π → Prop
  | [] => False
  | p :: ps => r.Misreads p (r.text ps) ∨ SomeMisread ps

instance decidableSomeMisread [∀ p rest, Decidable (r.Misreads p rest)] :
    (ps : List π) → Decidable (r.SomeMisread ps)
  | [] => .isFalse id
  | p :: ps =>
    have := decidableSomeMisread ps
    inferInstanceAs (Decidable (r.Misreads p (r.text ps) ∨ r.SomeMisread ps))

/-- A pass reads the pieces of a text one by one. For a piece that is misread it writes a mark that should not
be there, whatever should come later. -/
structure IsReadBy (pass : List Char → List Char) : Prop where
  nil : pass [] = []
  cons_of_not : ∀ {p : π} {ps : List π}, ¬r.Misreads p (r.text ps) →
    pass (r.text (p :: ps)) = r.written p ++ pass (r.text ps)
  parts : ∀ {p : π} {ps : List π} (rest : List Char), r.Misreads p (r.text ps) →
    PartsAtMark (pass (r.text (p :: ps))) (r.written p ++ rest)

variable {r} {pass : List Char → List Char}

theorem not_someMisread {ps : List π} (h : ∀ p ∈ ps, ∀ rest, ¬r.Misreads p rest) :
    ¬r.SomeMisread ps := by
  induction ps with
  | nil => exact id
  | cons p ps ih =>
    obtain ⟨hp, hps⟩ := List.forall_mem_cons.mp h
    exact not_or.mpr ⟨hp _, ih hps⟩

theorem IsReadBy.pass_text (h : r.IsReadBy pass) {ps : List π} (hps : ¬r.SomeMisread ps) :
    pass (r.text ps) = r.result ps := by
  induction ps with
  | nil => exact h.nil
  | cons p ps ih =>
    obtain ⟨hp, hps⟩ := not_or.mp hps
    rw [h.cons_of_not hp, ih hps]
    rfl

/-- Up to the first piece that is misread, all goes well. -/
theorem IsReadBy.parts_of_someMisread (h : r.IsReadBy pass) {ps : List π} (hps : r.SomeMisread ps) :
    PartsAtMark (pass (r.text ps)) (r.result ps) := by
  induction ps with
  | nil => exact hps.elim
  | cons p ps ih =>
    by_cases hp : r.Misreads p (r.text ps)
    · exact h.parts (r.result ps) hp
    · rw [h.cons_of_not hp]
      exact (ih (hps.resolve_left hp)).append_left (r.written p)

/-- **The key of a text is that of its pieces, exactly when none is misread.** -/
theorem IsReadBy.key_eq_iff {style : QuoteStyle} (h : r.IsReadBy (replaceLiterals style))
    {ps qs : List π} (hps : ¬r.SomeMisread ps) (hresult : r.result ps = r.result qs) :
    key style (r.text ps) = key style (r.text qs) ↔ ¬r.SomeMisread qs := by
  have hkey : key style (r.text ps) = afterLiterals (collapseBlanks (r.result qs)) := by
    rw [← hresult, ← h.pass_text hps]
    rfl
  constructor
  · intro heq hqs
    exact (h.parts_of_someMisread hqs).afterLiterals_ne (heq.symm.trans hkey)
  · intro hqs
    rw [hkey, ← h.pass_text hqs]
    rfl

end Reading

theorem normalize_ofList_eq_iff {style : QuoteStyle} {cs ds : List Char} :
    normalize style (String.ofList cs) = normalize style (String.ofList ds) ↔
      key style cs = key style ds := by
  rw [normalize, normalize, String.ofList_inj, String.toList_ofList, String.toList_ofList]

end Checkup.Duplication
