import Checkup.Complexity.Lexer

/-!
# Branches of Python programs

A comprehension is one branch, with all of its clauses; what precedes the first of them in its brackets is an
expression like any other. The condition of a case in a match is no branch.
-/

namespace Checkup.Complexity.Branches

/-- The letters that may stand in front of a literal. -/
def pythonPlainLetters : List String :=
  ["", "r", "R", "b", "B", "u", "U", "rb", "Rb", "rB", "RB", "br", "bR", "Br", "BR"]

/-- The letters in front of a literal that holds expressions. -/
def pythonFormatLetters : List String :=
  ["f", "F", "rf", "rF", "Rf", "RF", "fr", "fR", "Fr", "FR"]

/-- The delimiters of literals, the longer first. -/
def pythonDelimiters : List String := ["\"\"\"", "'''", "\"", "'"]

/-- The tokens of Python. -/
def pythonLexis : Lexis where
  lineComments := ["#"]
  blockComments := false
  literal _ := firstLiteral <| pythonPlainLetters.flatMap fun letters =>
    pythonDelimiters.map fun delimiter => between (letters ++ delimiter) delimiter true
  quotes := pythonFormatLetters.flatMap fun letters => pythonDelimiters.map fun delimiter =>
    ⟨(letters ++ delimiter).toList, delimiter.toList, ['\x7b'], '\x7d', some '\x7b'⟩
  signs := ["==", "!=", "<=", ">=", ":=", "->", "**", "//"]
  lineBreaks := true

/-- What is known of a place in a Python program. -/
structure PythonState where
  /-- For every open bracket, the innermost first, whether a comprehension has begun in it. -/
  brackets : List Bool
  /-- Whether the statement is a case of a match. -/
  inCase : Bool
  branches : Nat

/-- Whether a token begins a case of a match. -/
def startsPythonCase (p : Place) : Bool :=
  p.token.isWord "case" && (p.previous = .lineBreak || p.previous.isSign ":")
    && !p.next.isSignOf ["=", ".", ",", ")", ":", ":=", ";"] && p.next ≠ .lineBreak

namespace PythonState

/-- The state with one more branch if `condition` holds. -/
def count (s : PythonState) (condition : Bool) : PythonState :=
  { s with branches := s.branches + condition.toNat }

/-- The state after a token. -/
def step (s : PythonState) (p : Place) : PythonState :=
  match p.token with
  | .sign text =>
    if text = "(" || text = "[" || text = "\x7b" then { s with brackets := false :: s.brackets }
    else if text = ")" || text = "]" || text = "\x7d" then { s with brackets := s.brackets.drop 1 }
    else if text = ":" && s.brackets.isEmpty then { s with inCase := false }
    else s
  | .word text =>
    match text with
    | "elif" | "while" | "and" | "or" => s.count true
    | "except" => s.count (!p.next.isSign "*")
    | "case" => if s.brackets.isEmpty && startsPythonCase p then { s with inCase := true } else s
    | "for" =>
      match s.brackets with
      | [] => s.count true
      | begun :: brackets => { s.count (!begun) with brackets := true :: brackets }
    | "if" => s.count (match s.brackets with
      | [] => !s.inCase
      | begun :: _ => !begun)
    | _ => s
  | _ => s

end PythonState

/-- The branches of a Python program. -/
def python (source : List Char) : Nat :=
  (foldPlaces PythonState.step ⟨[], false, 0⟩ .lineBreak (tokens pythonLexis source)).branches

end Checkup.Complexity.Branches
