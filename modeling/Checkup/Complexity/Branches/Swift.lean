import Checkup.Complexity.Lexer

/-!
# Branches of Swift programs

Every entry of a switch is a branch, the default one included; a case in a condition or in an enumeration is
none. Keywords between round brackets are labels of arguments.
-/

namespace Checkup.Complexity.Branches

/-- The tokens of Swift. -/
def swiftLexis : Lexis where
  lineComments := ["//"]
  nestedComments := true
  literal _ := firstLiteral [hashed "" 1, backquotedName]
  quotes := ["\"\"\"", "\""].map fun delimiter =>
    ⟨delimiter.toList, delimiter.toList, ['\\', '('], ')', none⟩
  signs := ["...", "..<", "->", "==", "!=", "<=", ">=", "&&", "||", "??"]

/-- What kind of bracket is open. -/
inductive SwiftFrame where
  | round
  | braces
  /-- The braces around the entries of a switch. -/
  | entries
  deriving DecidableEq

/-- What is known of a place in a Swift program. -/
structure SwiftState where
  /-- The open brackets, the innermost first. -/
  frames : List SwiftFrame
  /-- Whether the subject of a switch is being read, inside so many brackets. -/
  switchComing : Option Nat
  branches : Nat

namespace SwiftState

/-- Whether a token is a branch. -/
def isBranch (s : SwiftState) (p : Place) : Bool :=
  match p.token with
  | .word text =>
    if p.previous.isSignOf [".", "#"] || p.next.isSign ":" && text ≠ "default" then false
    else
      match text with
      | "if" | "guard" | "while" | "for" => s.frames.head? ≠ some .round
      | "catch" => s.frames.head? ≠ some .round
      | "case" =>
        s.frames.head? = some .entries && !p.previous.isWordOf ["if", "guard", "while", "for"]
          && !p.previous.isSign ","
      | "default" => s.frames.head? = some .entries && p.next.isSign ":"
      | _ => false
  | _ => false

/-- The brackets and the subject of a switch after a token. -/
def enter (s : SwiftState) (p : Place) : SwiftState :=
  match p.token with
  | .word "switch" =>
    if p.previous.isSign "." then s else { s with switchComing := some s.frames.length }
  | .sign "(" | .sign "[" => { s with frames := .round :: s.frames }
  | .sign ")" | .sign "]" | .sign "\x7d" => { s with frames := s.frames.drop 1 }
  | .sign "\x7b" =>
    if s.switchComing = some s.frames.length then
      { s with frames := .entries :: s.frames, switchComing := none }
    else { s with frames := .braces :: s.frames }
  | _ => s

/-- The state after a token. -/
def step (s : SwiftState) (p : Place) : SwiftState :=
  { s with branches := s.branches + (s.isBranch p).toNat }.enter p

end SwiftState

/-- The branches of a Swift program. -/
def swift (source : List Char) : Nat :=
  (foldPlaces SwiftState.step ⟨[], none, 0⟩ .edge (tokens swiftLexis source)).branches

end Checkup.Complexity.Branches
