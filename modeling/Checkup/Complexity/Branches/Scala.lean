import Checkup.Complexity.Lexer

/-!
# Branches of Scala programs

A case is a branch where an arrow follows; declarations of cases have none. Conditions of cases and of
generators are no branches, and neither is the loop that tests its condition last.
-/

namespace Checkup.Complexity.Branches

/-- The signs of Scala that matter here. -/
def scalaSigns : List String := ["=>", "<-", "==", "!=", "<=", ">=", "->", "::", "&&", "||"]

/-- The prefixes of literals that hold expressions. -/
def scalaPrefixes : List String := ["s", "f", "raw"]

/-- The tokens of Scala. A single quote that closes nothing names a symbol. -/
def scalaLexis : Lexis where
  lineComments := ["//"]
  nestedComments := true
  literal _ := firstLiteral [between "\"\"\"" "\"\"\"" false, quotedBy "\"", backquotedName, oneChar]
  quotes := scalaPrefixes.flatMap fun name => ["\"\"\"", "\""].map fun delimiter =>
    ⟨(name ++ delimiter).toList, delimiter.toList, ['$', '\x7b'], '\x7d', some '$'⟩
  signs := scalaSigns
  lineBreaks := true

/-- One bracket that is open. -/
structure ScalaFrame where
  /-- Whether the pattern of a case is being read. -/
  inCase : Bool := false
  /-- Whether generators are being read. -/
  generators : Bool := false
  /-- How many loops that test last are open. -/
  loops : Nat := 0

/-- What is known of a place in a Scala program. -/
structure ScalaState where
  /-- The open brackets, the innermost first; the last stands for the program. -/
  frames : List ScalaFrame
  branches : Nat

/-- Whether a token ends an operand. -/
def endsScalaOperand (token : Token) : Bool :=
  token.endsOperand ["else", "then", "yield", "do", "return", "match", "if", "while", "case", "throw", "try",
    "finally", "catch", "in"]

namespace ScalaState

/-- The innermost open bracket. -/
def frame (s : ScalaState) : ScalaFrame :=
  s.frames.head?.getD {}

/-- The state with another innermost bracket. -/
def setFrame (s : ScalaState) (frame : ScalaFrame) : ScalaState :=
  { s with frames := frame :: s.frames.drop 1 }

/-- The state with one more branch if `condition` holds. -/
def count (s : ScalaState) (condition : Bool) : ScalaState :=
  { s with branches := s.branches + condition.toNat }

/-- The state after a word. -/
def stepWord (s : ScalaState) (p : Place) (text : String) : ScalaState :=
  let f := s.frame
  match text with
  | "if" => s.count (!f.inCase && !(f.generators && endsScalaOperand p.previous))
  | "while" => if 0 < f.loops then s.setFrame { f with loops := f.loops - 1 } else s.count true
  | "do" =>
    let f := { f with generators := false }
    if p.previous.isSignOf ["\x7b", "\x7d", ";", "=", "=>"] || p.previous = .lineBreak || p.previous = .edge
        || p.previous.isWordOf ["else", "then", "yield"] then
      s.setFrame { f with loops := f.loops + 1 }
    else s.setFrame f
  | "for" => (s.count true).setFrame { f with generators := !p.next.isSignOf ["(", "\x7b"] }
  | "yield" => s.setFrame { f with generators := false }
  | "catch" => s.count true
  | "case" => s.setFrame { f with inCase := !p.next.isWordOf ["class", "object"] }
  | _ => s

/-- The state after a sign. -/
def stepSign (s : ScalaState) (p : Place) (text : String) : ScalaState :=
  match text with
  | "(" | "[" => { s with frames := { generators := p.previous.isWord "for" } :: s.frames }
  | "\x7b" => { s with frames := { generators := p.previous.isWord "for" } :: s.frames }
  | ")" | "]" | "\x7d" => { s with frames := s.frames.drop 1 }
  | "=>" => (s.count s.frame.inCase).setFrame { s.frame with inCase := false }
  | _ => s

/-- The state after a token. A word behind the word for an end names what ends. -/
def step (s : ScalaState) (p : Place) : ScalaState :=
  match p.token with
  | .word text => if p.previous.isWord "end" then s else s.stepWord p text
  | .sign text => s.stepSign p text
  | _ => s

end ScalaState

/-- The branches of a Scala program. -/
def scala (source : List Char) : Nat :=
  (foldPlaces ScalaState.step ⟨[{}], 0⟩ .edge (tokens scalaLexis source)).branches

end Checkup.Complexity.Branches
