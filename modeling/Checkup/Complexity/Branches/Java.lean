import Checkup.Complexity.Lexer

/-!
# Branches of Java and Go programs

Keywords of these languages are keywords everywhere, so nearly every branch is told by its token. In Java a
run of labels with the statements after it is one branch of a switch, and a question mark may also be a type
argument.
-/

namespace Checkup.Complexity.Branches

/-! ### Go -/

/-- The tokens of Go. -/
def goLexis : Lexis where
  lineComments := ["//"]
  literal _ := firstLiteral [quotedBy "\"", backquotedName, oneChar]
  signs := ["&&", "||"]

/-- The branches of a Go program. -/
def go (source : List Char) : Nat :=
  ((tokens goLexis source).filter fun token =>
    token.isWordOf ["if", "for", "case"] || token.isSignOf ["&&", "||"]).length

/-! ### Java -/

/-- The tokens of Java. -/
def javaLexis : Lexis where
  lineComments := ["//"]
  literal _ := firstLiteral [quotedBy "\"\"\"", quotedBy "\"", quotedBy "'"]
  signs := ["::", "->", "&&", "||"]

/-- What is being read of a switch. -/
inductive LabelState where
  | outside
  /-- A label, inside so many brackets; `opens` tells whether it opens a group. -/
  | label (opens : Bool) (depth : Nat)
  /-- Right after a label. -/
  | after

/-- Whether a token starts a label of a switch. -/
def startsLabel (p : Place) : Bool :=
  p.token.isWord "case" || (p.token.isWord "default" && p.next.isSignOf [":", "->"])

/-- Whether a token is a branch of its own. -/
def isJavaBranch (p : Place) : Bool :=
  p.token.isWordOf ["if", "for", "while", "catch"] || p.token.isSignOf ["&&", "||"]
    || (p.token.isSign "?" && !p.previous.isSignOf ["<", ","])

/-- The state of labels after a token, and whether the token closes the first label of a group. -/
def LabelState.step (state : LabelState) (p : Place) : LabelState × Bool :=
  match state with
  | label opens depth =>
    if p.token.isSign "(" then (label opens (depth + 1), false)
    else if p.token.isSign ")" then (label opens (depth - 1), false)
    else if depth = 0 && p.token.isSign ":" then (after, opens)
    else if depth = 0 && p.token.isSign "->" then (outside, false)
    else (label opens depth, false)
  | after => if startsLabel p then (label false 0, false) else (outside, false)
  | outside => if startsLabel p then (label true 0, false) else (outside, false)

/-- The branches of a Java program. -/
def java (source : List Char) : Nat :=
  let step := fun (state : LabelState × Nat) (p : Place) =>
    let (labels, group) := state.1.step p
    (labels, state.2 + group.toNat + (isJavaBranch p).toNat)
  (foldPlaces step (.outside, 0) .edge (tokens javaLexis source)).2

end Checkup.Complexity.Branches
