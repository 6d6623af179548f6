import Checkup.Dependency.Manifest
import Checkup.Proofs.Text.Blank
import Mathlib.Data.List.Forall2

/-!
# What is read of a requirement

A requirement names a package and may go on with extras in brackets, version specifiers, and a condition behind a
semicolon (`Requirement`). The reader knows two parts, the name and the rest, and takes the rest for the versions.

* **The name** — it ends at the first sign that can follow a name, and an opening parenthesis is none of them. So the
  name is read as it is, unless a parenthesis stands right behind it and becomes part of it
  (`Requirement.splitRequirement_text`).
* **The versions** — every version seems to meet a requirement if only blanks stand behind the name
  (`Entry.isUnpinned_iff`), that is, if the requirement has nothing but a name. Extras and conditions count as versions.

So the entries of a manifest say what its requirements do, but for those with a parenthesis right behind the name and
those without specifiers that have extras or a condition (`exists_entries_of_lists`).
-/

namespace Checkup.Dependency

open Text (isBlank first? trim)

/-! ### Requirements by their parts -/

/-- How a version is compared with the one that a specifier names. -/
inductive Comparison where
  | less
  | atMost
  | equal
  | identical
  | different
  | atLeast
  | greater
  | compatible
  deriving DecidableEq, Repr

/-- The sign of a comparison. -/
def Comparison.sign : Comparison → String
  | less => "<"
  | atMost => "<="
  | equal => "=="
  | identical => "==="
  | different => "!="
  | atLeast => ">="
  | greater => ">"
  | compatible => "~="

/-- So many spaces. -/
def spaces (n : Nat) : List Char :=
  List.replicate n ' '

/-- A version specifier with the spaces around and inside it. -/
structure Specifier where
  comparison : Comparison
  version : String
  before : Nat := 0
  between : Nat := 0
  after : Nat := 0
  deriving DecidableEq, Repr

/-- A version specifier as it is written. -/
def Specifier.chars (s : Specifier) : List Char :=
  spaces s.before ++ (s.comparison.sign.toList ++ (spaces s.between ++ (s.version.toList ++ spaces s.after)))

/-- Version specifiers, one at least, which may stand in parentheses. -/
structure Specifiers where
  first : Specifier
  more : List Specifier := []
  inParentheses : Bool := false
  deriving DecidableEq, Repr

namespace Specifiers

/-- The specifiers with commas between them. -/
def listed (s : Specifiers) : List Char :=
  s.first.chars ++ s.more.flatMap fun other => ',' :: other.chars

/-- The specifiers as they are written. -/
def chars (s : Specifiers) : List Char :=
  if s.inParentheses then '(' :: (s.listed ++ [')']) else s.listed

end Specifiers

/-- Whether a character may stand in the name of a package. -/
def isNameChar (c : Char) : Bool :=
  c.isAlphanum || c = '-' || c = '_' || c = '.'

/-- A requirement by its parts: the name of a package, then a choice of extras in brackets, version specifiers, and a
condition behind a semicolon, each if it is there. Spaces may stand between the parts. -/
structure Requirement where
  name : String
  isName : name ≠ "" ∧ name.toList.all isNameChar = true
  extras : Option String := none
  specifiers : Option Specifiers := none
  condition : Option String := none
  afterName : Nat := 0
  afterExtras : Nat := 0
  afterSpecifiers : Nat := 0

namespace Requirement

/-- What stands between the name and the place of the specifiers. -/
def lead (r : Requirement) : List Char :=
  spaces r.afterName ++ (r.extras.elim [] (fun extras => '[' :: (extras.toList ++ [']'])) ++ spaces r.afterExtras)

/-- What stands behind the place of the specifiers. -/
def tail (r : Requirement) : List Char :=
  spaces r.afterSpecifiers ++ r.condition.elim [] (';' :: ·.toList)

/-- What stands behind the name. -/
def rest (r : Requirement) : List Char :=
  r.lead ++ (r.specifiers.elim [] Specifiers.chars ++ r.tail)

/-- A requirement as it is written. -/
def text (r : Requirement) : String :=
  r.name ++ String.ofList r.rest

/-- A requirement has nothing but a name. -/
def IsBare (r : Requirement) : Prop :=
  r.extras = none ∧ r.specifiers = none ∧ r.condition = none

/-- A requirement has a parenthesis right behind the name. -/
def IsGlued (r : Requirement) : Prop :=
  r.lead = [] ∧ r.specifiers.any (·.inParentheses) = true

instance (r : Requirement) : Decidable r.IsGlued :=
  inferInstanceAs (Decidable (_ ∧ _))

end Requirement

/-! ### Where the name ends -/

/-- The characters that signs of comparison start with. -/
def comparing : List Char := ['<', '>', '=', '!', '~']

/-- The characters that the parts of a requirement behind the name start with. -/
def openings : List Char := comparing ++ ['[', '(', ';']

/-- A text is empty, or starts with a character that ends a name. -/
def IsEnded (cs : List Char) : Prop :=
  ∀ c ∈ cs.head?, endsName c = true

theorem IsEnded.append {cs ds : List Char} (hcs : IsEnded cs) (hds : IsEnded ds) : IsEnded (cs ++ ds) := by
  cases cs with
  | nil => exact hds
  | cons => exact hcs

theorem IsEnded.append_of_ne_nil {cs : List Char} (hcs : IsEnded cs) (hne : cs ≠ []) (ds : List Char) :
    IsEnded (cs ++ ds) := by
  rwa [IsEnded, List.head?_append_of_ne_nil _ hne]

theorem isEnded_spaces (n : Nat) : IsEnded (spaces n) := by
  cases n with
  | zero => exact nofun
  | succ n => simp [IsEnded, spaces, List.replicate_succ, endsName]

/-- A text that has no character of the kind in its name and starts with one behind it is split there. -/
theorem splitRequirement_append {name rest : List Char} (hname : ∀ c ∈ name, endsName c = false)
    (hrest : IsEnded rest) : splitRequirement (name ++ rest) = (name, rest) := by
  have hname : ∀ c ∈ name, (!endsName c) = true := fun c hc => by rw [hname c hc]; rfl
  rw [splitRequirement, List.takeWhile_append_of_pos hname, List.dropWhile_append_of_pos hname]
  cases rest with
  | nil => simp
  | cons c rest =>
    have hc : endsName c = true := hrest c rfl
    simp [hc]

theorem endsName_eq_false_of_isNameChar {c : Char} (hc : isNameChar c = true) : endsName c = false := by
  have hnone : (['<', '>', '=', '!', '~', ';', '[', ' '].any isNameChar) = false := by decide
  rw [endsName, Bool.eq_false_iff, Ne, List.contains_iff_mem]
  exact fun hmem => List.any_eq_false.mp hnone c hmem hc

theorem isBlank_eq_false_of_isNameChar {c : Char} (hc : isNameChar c = true) : isBlank c = false := by
  have hnone : (Text.blankCodePoints.any fun n => isNameChar (Char.ofNat n)) = false := by decide
  rw [Bool.eq_false_iff, Ne, Text.isBlank_iff]
  intro hmem
  have h := List.any_eq_false.mp hnone _ hmem
  rw [Char.ofNat_toNat] at h
  exact h hc

theorem Comparison.exists_sign_eq (comparison : Comparison) :
    ∃ c rest, comparison.sign.toList = c :: rest ∧ c ∈ comparing := by
  cases comparison <;> exact ⟨_, _, rfl, by decide⟩

theorem Specifiers.isEnded_listed (s : Specifiers) : s.listed ≠ [] ∧ IsEnded s.listed := by
  obtain ⟨c, rest, hsign, hc⟩ := s.first.comparison.exists_sign_eq
  have hends : comparing.all endsName = true := by decide
  have hfirst : s.first.chars ≠ [] ∧ IsEnded s.first.chars := by
    rw [Specifier.chars, hsign]
    refine ⟨by simp, (isEnded_spaces _).append ?_⟩
    simpa [IsEnded] using List.all_eq_true.mp hends c hc
  exact ⟨List.append_ne_nil_of_left_ne_nil hfirst.1 _, hfirst.2.append_of_ne_nil hfirst.1 _⟩

namespace Requirement

variable {r : Requirement}

theorem isEnded_lead (r : Requirement) : IsEnded r.lead := by
  refine (isEnded_spaces _).append (IsEnded.append ?_ (isEnded_spaces _))
  cases r.extras with
  | none => exact nofun
  | some => simp [IsEnded, endsName]

theorem isEnded_tail (r : Requirement) : IsEnded r.tail := by
  refine (isEnded_spaces _).append ?_
  cases r.condition with
  | none => exact nofun
  | some => simp [IsEnded, endsName]

/-- Unless a parenthesis stands right behind the name, the name ends where it should. -/
theorem isEnded_rest (h : ¬r.IsGlued) : IsEnded r.rest := by
  by_cases hlead : r.lead = []
  · rw [rest, hlead, List.nil_append]
    cases hs : r.specifiers with
    | none => exact r.isEnded_tail
    | some s =>
      have hbare : ¬s.inParentheses = true := fun hparentheses => h ⟨hlead, hs ▸ hparentheses⟩
      rw [Option.elim_some, Specifiers.chars, if_neg hbare]
      exact s.isEnded_listed.2.append_of_ne_nil s.isEnded_listed.1 _
  · exact r.isEnded_lead.append_of_ne_nil hlead _

/-- Otherwise the parenthesis counts as part of the name. -/
theorem exists_rest_eq_of_isGlued (h : r.IsGlued) : ∃ s after, r.specifiers = some s ∧
    r.rest = '(' :: (s.listed ++ after) := by
  obtain ⟨hlead, hany⟩ := h
  obtain ⟨s, hs, hparentheses⟩ := (Option.any_eq_true _ _).mp hany
  refine ⟨s, ')' :: r.tail, hs, ?_⟩
  rw [rest, hlead, hs, Option.elim_some, Specifiers.chars, if_pos hparentheses]
  simp

/-- **Where the name ends.** A parenthesis right behind the name is read as part of it. -/
theorem splitRequirement_text (r : Requirement) : splitRequirement r.text.toList =
    if r.IsGlued then (r.name.toList ++ ['('], r.rest.tail) else (r.name.toList, r.rest) := by
  have hname : ∀ c ∈ r.name.toList, endsName c = false :=
    fun c hc => endsName_eq_false_of_isNameChar (List.all_eq_true.mp r.isName.2 c hc)
  have htext : r.text.toList = r.name.toList ++ r.rest := by simp [text]
  split
  case isTrue h =>
    obtain ⟨s, after, -, hrest⟩ := exists_rest_eq_of_isGlued h
    rw [htext, hrest, List.append_cons, List.tail_cons]
    refine splitRequirement_append (List.forall_mem_append.mpr ⟨hname, List.forall_mem_singleton.mpr (by decide)⟩) ?_
    exact s.isEnded_listed.2.append_of_ne_nil s.isEnded_listed.1 _
  case isFalse h =>
    rw [htext]
    exact splitRequirement_append hname (isEnded_rest h)

end Requirement

/-! ### What stands behind the name -/

/-- A text starts, blanks apart, like a part of a requirement. -/
def Opens (cs : List Char) : Prop :=
  ∃ c ∈ openings, first? cs = some c

theorem Opens.append {cs : List Char} (h : Opens cs) (ds : List Char) : Opens (cs ++ ds) := by
  obtain ⟨c, hc, hfirst⟩ := h
  exact ⟨c, hc, by rw [Text.first?_append, hfirst, Option.some_or]⟩

theorem first?_spaces (n : Nat) : first? (spaces n) = none :=
  Text.first?_of_forall fun c hc => by rw [List.eq_of_mem_replicate hc]; decide

theorem opens_cons {c : Char} (hc : c ∈ openings) (cs : List Char) : Opens (c :: cs) := by
  have hblank : openings.any isBlank = false := by decide
  exact ⟨c, hc, Text.first?_cons_of_not (Bool.eq_false_iff.mpr (List.any_eq_false.mp hblank c hc)) cs⟩

theorem opens_append_iff {cs : List Char} (h : first? cs = none) (ds : List Char) : Opens (cs ++ ds) ↔ Opens ds := by
  rw [Opens, Opens, Text.first?_append, h, Option.none_or]

theorem Specifiers.opens_listed (s : Specifiers) : Opens s.listed := by
  obtain ⟨c, rest, hsign, hc⟩ := s.first.comparison.exists_sign_eq
  refine Opens.append ?_ _
  rw [Specifier.chars, opens_append_iff (first?_spaces _), hsign]
  exact opens_cons (List.mem_append_left _ hc) _

theorem Specifiers.opens_chars (s : Specifiers) : Opens s.chars := by
  rw [chars]
  split
  · exact opens_cons (by decide) _
  · exact s.opens_listed

namespace Requirement

variable (r : Requirement)

/-- Something stands behind the name exactly if there is a part besides it. -/
theorem rest_cases : r.IsBare ∧ first? r.rest = none ∨ ¬r.IsBare ∧ Opens r.rest := by
  rw [IsBare]
  cases hextras : r.extras with
  | some extras =>
    refine .inr ⟨fun h => (nomatch h.1), Opens.append ?_ _⟩
    rw [lead, hextras, opens_append_iff (first?_spaces _)]
    exact opens_cons (by decide) _
  | none =>
    have hlead : first? r.lead = none := by
      rw [lead, hextras, Text.first?_append, first?_spaces, Option.none_or, Option.elim_none, List.nil_append,
        first?_spaces]
    cases hspecifiers : r.specifiers with
    | some s =>
      refine .inr ⟨fun h => (nomatch h.2.1), ?_⟩
      rw [rest, opens_append_iff hlead, hspecifiers]
      exact s.opens_chars.append _
    | none =>
      have hrest : r.rest = r.lead ++ r.tail := by rw [rest, hspecifiers, Option.elim_none, List.nil_append]
      cases hcondition : r.condition with
      | some condition =>
        refine .inr ⟨fun h => (nomatch h.2.2), ?_⟩
        rw [hrest, opens_append_iff hlead, tail, hcondition, opens_append_iff (first?_spaces _)]
        exact opens_cons (by decide) _
      | none =>
        refine .inl ⟨⟨rfl, rfl, rfl⟩, ?_⟩
        rw [hrest, Text.first?_append, hlead, Option.none_or, tail, hcondition, Option.elim_none, List.append_nil,
          first?_spaces]

end Requirement

/-- A version is any exactly if nothing but blanks stands behind the name. -/
theorem Entry.isUnpinned_iff {name : String} {dev : Bool} {cs : List Char} (h : first? cs = none ∨ Opens cs) :
    (Entry.mk name (String.ofList (trim cs)) dev).isUnpinned = true ↔ first? cs = none := by
  have hfirst : (trim (trim cs)).head? = first? cs := by rw [Text.head?_trim, Text.first?_trim]
  rw [Entry.isUnpinned, String.toList_ofList]
  rcases h with hnone | ⟨c, hc, hsome⟩
  · rw [hnone, List.head?_eq_none_iff] at hfirst
    rw [hfirst]
    exact iff_of_true rfl hnone
  · -- what every version meets starts like no part of a requirement
    have hany : (anyVersion.any fun version => version.toList.head?.any openings.contains) = false := by decide
    rw [hsome] at hfirst ⊢
    refine iff_of_false (fun hcontains => ?_) (Option.some_ne_none c)
    refine List.any_eq_false.mp hany _ (List.contains_iff_mem.mp hcontains) ?_
    rw [String.toList_ofList, hfirst, Option.any_some, List.contains_iff_mem]
    exact hc

/-! ### Entries -/

/-- What an entry says about a requirement. Whatever stands behind the name is taken for its versions. -/
structure Requirement.IsRead (r : Requirement) (e : Entry) : Prop where
  name_eq : e.name = if r.IsGlued then r.name ++ "(" else r.name
  version_eq : e.version = String.ofList (trim (if r.IsGlued then r.rest.tail else r.rest))
  dev_eq : e.dev = false
  isUnpinned_iff : e.isUnpinned = true ↔ r.IsBare

/-- An entry has the name of a requirement, and every version meets it if the requirement has no specifiers. -/
structure Requirement.IsStatedBy (r : Requirement) (e : Entry) : Prop where
  name_eq : e.name = r.name
  isUnpinned_iff : e.isUnpinned = true ↔ r.specifiers = none

theorem Requirement.isRead_ofRequirement (r : Requirement) : r.IsRead (Entry.ofRequirement r.text) := by
  have hname : ∀ c ∈ r.name.toList, isBlank c = false :=
    fun c hc => isBlank_eq_false_of_isNameChar (List.all_eq_true.mp r.isName.2 c hc)
  by_cases h : r.IsGlued
  · obtain ⟨s, after, hs, hrest⟩ := exists_rest_eq_of_isGlued h
    have hentry : Entry.ofRequirement r.text = ⟨r.name ++ "(", String.ofList (trim r.rest.tail), false⟩ := by
      rw [Entry.ofRequirement, r.splitRequirement_text, if_pos h]
      dsimp only
      rw [Text.trim_of_forall_not (List.forall_mem_append.mpr ⟨hname, List.forall_mem_singleton.mpr (by decide)⟩)]
      simp
    obtain ⟨c, hc, hsome⟩ : Opens r.rest.tail := by
      rw [hrest, List.tail_cons]
      exact s.opens_listed.append _
    rw [hentry]
    refine ⟨(if_pos h).symm, by rw [if_pos h], rfl, (Entry.isUnpinned_iff (.inr ⟨c, hc, hsome⟩)).trans ?_⟩
    exact iff_of_false (hsome ▸ Option.some_ne_none c) fun hbare => Option.some_ne_none s (hs ▸ hbare.2.1)
  · have hentry : Entry.ofRequirement r.text = ⟨r.name, String.ofList (trim r.rest), false⟩ := by
      rw [Entry.ofRequirement, r.splitRequirement_text, if_neg h]
      dsimp only
      rw [Text.trim_of_forall_not hname, String.ofList_toList]
    rw [hentry]
    refine ⟨(if_neg h).symm, by rw [if_neg h], rfl, ?_⟩
    rcases r.rest_cases with ⟨hbare, hnone⟩ | ⟨hbare, c, hc, hsome⟩
    · exact (Entry.isUnpinned_iff (.inl hnone)).trans (iff_of_true hnone hbare)
    · refine (Entry.isUnpinned_iff (.inr ⟨c, hc, hsome⟩)).trans (iff_of_false ?_ hbare)
      exact hsome ▸ Option.some_ne_none c

/-- What is read of a requirement is what it states, unless a parenthesis has become part of the name or something
other than specifiers has been taken for them. -/
theorem Requirement.IsRead.isStatedBy_iff {r : Requirement} {e : Entry} (h : r.IsRead e) :
    r.IsStatedBy e ↔ ¬r.IsGlued ∧ (r.specifiers = none → r.IsBare) := by
  have hname : e.name = r.name ↔ ¬r.IsGlued := by
    rw [h.name_eq]
    split
    case isTrue hglued =>
      refine iff_of_false (fun heq => ?_) (not_not.mpr hglued)
      simpa using congrArg String.length heq
    case isFalse hglued => exact iff_of_true rfl hglued
  constructor
  · intro hstated
    exact ⟨hname.mp hstated.name_eq, fun hnone => h.isUnpinned_iff.mp (hstated.isUnpinned_iff.mpr hnone)⟩
  · rintro ⟨hglued, hbare⟩
    exact ⟨hname.mpr hglued, h.isUnpinned_iff.trans ⟨fun hbare => hbare.2.1, hbare⟩⟩

/-! ### Manifests -/

/-- The items of the list of requirements in a manifest, each as its text if it is one. -/
def listedItems? (text : String) : Option (List (Option String)) := do
  let manifest ← Toml.parse? text
  let items ← ((manifest.get? "project").bind (·.get? "dependencies")).bind Toml.Value.array?
  return items.map Toml.Value.string?

/-- A manifest lists some requirements. -/
def Lists (text : String) (requirements : List Requirement) : Prop :=
  listedItems? text = some (requirements.map fun r => some r.text)

theorem declared_of_lists {text : String} {requirements : List Requirement} (h : Lists text requirements) :
    declared .pyProject text = .ok (requirements.map fun r => Entry.ofRequirement r.text) := by
  rw [Lists, listedItems?] at h
  obtain ⟨manifest, hmanifest, h⟩ := Option.bind_eq_some_iff.mp h
  obtain ⟨items, hitems, h⟩ := Option.bind_eq_some_iff.mp h
  have hitems' : items.map Toml.Value.string? = requirements.map fun r => some r.text := Option.some.inj h
  have htexts : items.filterMap Toml.Value.string? = requirements.map (·.text) := by
    calc items.filterMap Toml.Value.string?
        = (items.map Toml.Value.string?).filterMap id := by rw [List.filterMap_map, Function.id_comp]
      _ = requirements.map (·.text) := by
          rw [hitems', List.filterMap_map]
          exact congrFun List.filterMap_eq_map requirements
  have hread : ofRequirements? text = some (requirements.map fun r => Entry.ofRequirement r.text) := by
    rw [ofRequirements?, hmanifest]
    simp only [Option.bind_eq_bind, Option.bind_some, hitems, Option.getD_some, htexts, List.map_map]
    rfl
  delta declared
  rw [hread]

/-- **What is read of a list of requirements.** A manifest gives one entry for each requirement that it lists, in
their order. All of them are as stated exactly if no requirement has a parenthesis right behind its name, and those
without specifiers have nothing but a name. -/
theorem exists_entries_of_lists {text : String} {requirements : List Requirement} (h : Lists text requirements) :
    ∃ entries, declared .pyProject text = .ok entries ∧ List.Forall₂ Requirement.IsRead requirements entries ∧
      (List.Forall₂ Requirement.IsStatedBy requirements entries ↔
        ∀ r ∈ requirements, ¬r.IsGlued ∧ (r.specifiers = none → r.IsBare)) := by
  refine ⟨_, declared_of_lists h, ?_, ?_⟩
  · rw [List.forall₂_map_right_iff, List.forall₂_same]
    exact fun r _ => r.isRead_ofRequirement
  · rw [List.forall₂_map_right_iff, List.forall₂_same]
    exact forall₂_congr fun r _ => r.isRead_ofRequirement.isStatedBy_iff

/-- A requirement with extras, one with nothing but a name, and one with specifiers in parentheses. -/
def sampleRequirements : List Requirement := [
  { name := "httpx", isName := by decide +kernel, extras := some "http2" },
  { name := "rich", isName := by decide +kernel },
  { name := "attrs", isName := by decide +kernel,
    specifiers := some { first := ⟨.atLeast, "23", 0, 1, 0⟩, inParentheses := true } }]

/-- A manifest that lists them. -/
def sampleManifest : String :=
  "[project]\ndependencies = [\"httpx[http2]\", \"rich\", \"attrs(>= 23)\"]\n"

/-- Not all of these requirements are read as they are stated. -/
theorem exists_entries_sampleManifest : Lists sampleManifest sampleRequirements ∧
    ∃ entries, declared .pyProject sampleManifest = .ok entries ∧
      List.Forall₂ Requirement.IsRead sampleRequirements entries ∧
      ¬List.Forall₂ Requirement.IsStatedBy sampleRequirements entries := by
  have hlists : Lists sampleManifest sampleRequirements := by
    rw [Lists]
    decide +kernel
  obtain ⟨entries, hdeclared, hread, hstated⟩ := exists_entries_of_lists hlists
  refine ⟨hlists, entries, hdeclared, hread, fun h => ?_⟩
  -- the first one has extras and no specifiers
  have hbare := (hstated.mp h _ List.mem_cons_self).2 rfl
  exact Option.some_ne_none _ hbare.1

/-- Extras are taken for a version, so that not every version seems to meet a requirement that has no specifiers. -/
theorem not_isStatedBy_of_extras :
    let r : Requirement := { name := "requests", isName := by decide +kernel, extras := some "security" }
    let text := "[project]\ndependencies = [\"requests[security]\"]\n"
    let e : Entry := ⟨"requests", "[security]", false⟩
    Lists text [r] ∧ declared .pyProject text = .ok [e] ∧ r.specifiers = none ∧ ¬r.IsStatedBy e := by
  intro r text e
  have hlists : Lists text [r] := by
    rw [Lists]
    decide +kernel
  refine ⟨hlists, ?_, rfl, fun h => absurd (h.isUnpinned_iff.mpr rfl) (by decide +kernel)⟩
  have hentries : [r].map (fun r => Entry.ofRequirement r.text) = [e] := by decide +kernel
  rw [declared_of_lists hlists, hentries]

end Checkup.Dependency
