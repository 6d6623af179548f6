/-!
# Path patterns

A pattern is a list of parts. `?` and `*` match any bytes, slashes included; `**` between slashes, at the
start or at the end stands for whole components; `[…]` is a class and `{…}` a choice, which may be nested; a
backslash takes the next character as it is.

`Pattern.parse?` refuses a class or a choice that is not closed, a choice that is not opened, a class range
from a later to an earlier character, and a backslash at the end.
-/

namespace Checkup.Glob

/-- A part of a pattern. -/
inductive Part where
  | literal (char : Char)
  /-- One byte. -/
  | any
  /-- Any number of bytes. -/
  | anything
  /-- Components at the start of a path, with a slash after them, or none. -/
  | componentsBefore
  /-- A slash and whatever follows it. -/
  | componentsAfter
  /-- A slash, or components with a slash on both sides. -/
  | componentsBetween
  /-- One byte of the characters from the first to the second of a range, or of none of them. -/
  | set (negated : Bool) (ranges : List (Char × Char))
  /-- One of several lists of parts. -/
  | choice (branches : List (List Part))
  deriving Repr

/-- A pattern: the parts in order. -/
abbrev Pattern := List Part

/-- A choice, or the whole pattern, while it is read: the branches before the current one and the parts of the
current one, both with the latest first. -/
structure Level where
  finished : List (List Part)
  current : List Part

/-- The level with one more part. -/
def Level.push (level : Level) (part : Part) : Level :=
  { level with current := part :: level.current }

/-- The branches of a level, in order. -/
def Level.branches (level : Level) : List (List Part) :=
  (level.current.reverse :: level.finished).reverse

/-- Where the reading of a class stands. -/
structure ClassState where
  /-- The ranges so far, the latest first. -/
  ranges : List (Char × Char)
  /-- Whether no character of the class is read yet. -/
  first : Bool
  /-- Whether a dash waits for the end of a range. -/
  dash : Bool

/-- The class with `c` as the end of its latest range, unless the range would run backwards. -/
def ClassState.extend? (s : ClassState) (c : Char) : Option ClassState :=
  match s.ranges with
  | [] => none
  | (low, _) :: ranges => if c < low then none else some ⟨(low, c) :: ranges, false, false⟩

/-- The class with one more character. -/
def ClassState.push (s : ClassState) (c : Char) : ClassState :=
  ⟨(c, c) :: s.ranges, false, false⟩

/-- The ranges of a class that ends here, in order; a dash that waits is a character. -/
def ClassState.finish (s : ClassState) : List (Char × Char) :=
  (if s.dash then ('-', '-') :: s.ranges else s.ranges).reverse

/-- Reads a class up to its closing bracket. A bracket or a dash as the first character stands for itself. -/
def readClass (s : ClassState) : List Char → Option (List (Char × Char) × List Char)
  | [] => none
  | ']' :: rest => if s.first then readClass (s.push ']') rest else some (s.finish, rest)
  | '-' :: rest =>
    if s.first then readClass (s.push '-') rest
    else if s.dash then
      match s.extend? '-' with
      | none => none
      | some s => readClass s rest
    else readClass { s with dash := true } rest
  | c :: rest =>
    if s.dash then
      match s.extend? c with
      | none => none
      | some s => readClass s rest
    else readClass (s.push c) rest

theorem length_lt_of_readClass {s : ClassState} {cs rest : List Char} {ranges : List (Char × Char)}
    (h : readClass s cs = some (ranges, rest)) : rest.length < cs.length := by
  fun_induction readClass s cs <;> grind

/-- The effect of two stars. `before` is the character before them and `depth` the number of open choices; the
result is the level and whether a slash after the stars belongs to them. -/
def doubleStar (depth : Nat) (before : Option Char) (level : Level) (rest : List Char) : Level × Bool :=
  let apart := (level.push .anything |>.push .anything, false)
  let atSlash := rest.head? = some '/'
  let atEnd := rest.isEmpty || (0 < depth && (rest.head? = some ',' || rest.head? = some '\x7d'))
  match level.current with
  | [] => if rest.isEmpty || atSlash then (level.push .componentsBefore, atSlash) else apart
  | last :: earlier =>
    let opened := before = some '/' || (0 < depth && (before = some ',' || before = some '\x7b'))
    if !opened || !(atEnd || atSlash) then apart
    else
      match last with
      | .componentsBefore => (level, atSlash)
      | .componentsAfter => (level, atSlash)
      | _ =>
        let part := if atSlash then .componentsBetween else .componentsAfter
        ({ level with current := part :: earlier }, atSlash)

/-- Reads a pattern. `before` is the character before the text, `level` the innermost open choice or the
pattern itself, and `outer` the levels around it. -/
def readParts (before : Option Char) (level : Level) (outer : List Level) (cs : List Char) :
    Option (List Part) :=
  match cs with
  | [] => if outer.isEmpty then some level.current.reverse else none
  | '?' :: rest => readParts (some '?') (level.push .any) outer rest
  | '*' :: '*' :: rest =>
    match doubleStar outer.length before level rest with
    | (level, true) => readParts (some '/') level outer (rest.drop 1)
    | (level, false) => readParts (some '*') level outer rest
  | '*' :: rest => readParts (some '*') (level.push .anything) outer rest
  | '[' :: rest =>
    let negated := rest.head? = some '!' || rest.head? = some '^'
    match _h : readClass ⟨[], true, false⟩ (rest.drop negated.toNat) with
    | none => none
    | some (ranges, after) => readParts (some ']') (level.push (.set negated ranges)) outer after
  | '\x7b' :: rest => readParts (some '\x7b') ⟨[], []⟩ (level :: outer) rest
  | '\x7d' :: rest =>
    match outer with
    | [] => none
    | parent :: outer => readParts (some '\x7d') (parent.push (.choice level.branches)) outer rest
  | ',' :: rest =>
    if outer.isEmpty then readParts (some ',') (level.push (.literal ',')) outer rest
    else readParts (some ',') ⟨level.current.reverse :: level.finished, []⟩ outer rest
  | '\\' :: rest =>
    match rest with
    | [] => none
    | c :: rest => readParts (some c) (level.push (.literal c)) outer rest
  | c :: rest => readParts (some c) (level.push (.literal c)) outer rest
termination_by cs.length
decreasing_by
  all_goals first
    | have shorter := length_lt_of_readClass _h
      simp only [List.length_cons, List.length_drop] at shorter ⊢
      omega
    | (simp <;> omega)

/-- Reads a pattern. -/
def Pattern.parse? (text : String) : Option Pattern :=
  readParts none ⟨[], []⟩ [] text.toList

end Checkup.Glob
