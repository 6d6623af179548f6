import Checkup.Complexity.Lexer

/-!
# Branches of Rust programs

What stands in the brackets of a macro or an attribute is no program yet, and has no branches. A doubled sign
is an operator only behind an operand; elsewhere it is two references or a closure without parameters. In a
condition that binds a pattern it joins conditions and is no operator either.
-/

namespace Checkup.Complexity.Branches

/-- The words behind which an operand begins. -/
def rustOperandAfter : List String :=
  ["return", "if", "in", "match", "while", "let", "mut", "ref", "move", "else", "break", "loop", "unsafe", "async",
    "dyn", "impl", "where", "const", "static", "for", "yield", "as"]

/-- A name that is written with a mark to tell it from a keyword. -/
def rawName : List Char → Option (List Char)
  | 'r' :: '#' :: c :: rest => if c.isAlpha || c = '_' then some (rest.dropWhile isWordChar) else none
  | _ => none

/-- The tokens of Rust. A single quote that closes nothing names a lifetime. -/
def rustLexis : Lexis where
  lineComments := ["//"]
  nestedComments := true
  literal _ := firstLiteral [
    hashed "r" 0, hashed "br" 0, hashed "cr" 0, rawName, between "b\"" "\"" true, between "c\"" "\"" true,
    between "b'" "'" true, quotedBy "\"", oneChar]
  signs := ["..=", "...", "..", "::", "->", "=>", "&&", "||", "==", "!=", "<=", ">="]

/-- One bracket that is open. -/
structure RustFrame where
  /-- Whether it holds the arms of a match. -/
  isMatch : Bool := false
  /-- Whether the subject of a match is being read. -/
  matchComing : Bool := false
  /-- Whether the head of an implementation is being read. -/
  implHead : Bool := false
  /-- Whether a condition is being read, and whether it has bound a pattern. -/
  condition : Option Bool := none

/-- What is known of a place in a Rust program. -/
structure RustState where
  /-- The open brackets, the innermost first; the last stands for the program. -/
  frames : List RustFrame
  /-- How many brackets of a macro or an attribute are open. -/
  skipped : Nat
  /-- Whether the next bracket is one of a macro or an attribute. -/
  skipComing : Bool
  branches : Nat

/-- Whether a token is a name. -/
def isRustName : Token → Bool
  | .word text => !rustOperandAfter.contains text
  | _ => false

/-- Whether the brackets of a macro or an attribute follow a sign. -/
def opensTokenTree (p : Place) : Bool :=
  (p.token.isSign "!" && isRustName p.previous
      && (p.next.isSignOf ["(", "[", "\x7b"] || p.previous.isWord "macro_rules"))
    || (p.token.isSign "#" && (p.next.isSign "[" || (p.next.isSign "!" && p.second.isSign "[")))

/-- Whether a condition before an arrow belongs to the arm of a match: the arrow comes before any bracket of
braces. `depth` counts the brackets that are open. -/
def isGuard (depth : Nat) : List Token → Bool
  | [] => false
  | token :: rest =>
    if token.isSignOf ["(", "["] then isGuard (depth + 1) rest
    else if token.isSignOf [")", "]"] then depth ≠ 0 && isGuard (depth - 1) rest
    else if depth = 0 && token.isSign "=>" then true
    else if depth = 0 && token.isSignOf ["\x7b", "\x7d", ",", ";"] then false
    else isGuard depth rest

namespace RustState

/-- The innermost open bracket. -/
def frame (s : RustState) : RustFrame :=
  s.frames.head?.getD {}

/-- The state with another innermost bracket. -/
def setFrame (s : RustState) (frame : RustFrame) : RustState :=
  { s with frames := frame :: s.frames.drop 1 }

/-- The state with one more branch if `condition` holds. -/
def count (s : RustState) (condition : Bool) : RustState :=
  { s with branches := s.branches + condition.toNat }

/-- The state after a word. -/
def stepWord (s : RustState) (p : Place) (text : String) : RustState :=
  match text with
  | "if" =>
    if s.frame.isMatch && isGuard 0 p.rest then s
    else (s.count true).setFrame { s.frame with condition := some false }
  | "while" => (s.count true).setFrame { s.frame with condition := some false }
  | "loop" => s.count true
  | "for" => s.count (!s.frame.implHead && !p.next.isSign "<")
  | "match" => s.setFrame { s.frame with matchComing := true }
  | "impl" => s.setFrame { s.frame with implHead := true }
  | "let" => s.setFrame { s.frame with condition := s.frame.condition.map fun _ => true }
  | _ => s

/-- The state after a sign. -/
def stepSign (s : RustState) (p : Place) (text : String) : RustState :=
  match text with
  | "\x7b" =>
    let opened : RustFrame := { isMatch := s.frame.matchComing }
    let outer := { s.frame with matchComing := false, implHead := false, condition := none }
    { s.setFrame outer with frames := opened :: (s.setFrame outer).frames }
  | "(" | "[" => { s with frames := {} :: s.frames }
  | ")" | "]" | "\x7d" => { s with frames := s.frames.drop 1 }
  | ";" => s.setFrame { s.frame with implHead := false, condition := none, matchComing := false }
  | "=>" => s.count s.frame.isMatch
  | "||" => s.count (p.previous.endsOperand rustOperandAfter)
  | "&&" =>
    s.count (p.previous.endsOperand rustOperandAfter && s.frame.condition != some true
      && !(s.frame.condition.isSome && p.next.isWord "let"))
  | _ => s

/-- The state after a token. -/
def step (s : RustState) (p : Place) : RustState :=
  if 0 < s.skipped then
    if p.token.isSignOf ["(", "[", "\x7b"] then { s with skipped := s.skipped + 1 }
    else if p.token.isSignOf [")", "]", "\x7d"] then { s with skipped := s.skipped - 1 }
    else s
  else if s.skipComing then
    if p.token.isSignOf ["(", "[", "\x7b"] then { s with skipped := 1, skipComing := false } else s
  else if opensTokenTree p then { s with skipComing := true }
  else
    match p.token with
    | .word text => s.stepWord p text
    | .sign text => s.stepSign p text
    | _ => s

end RustState

/-- The branches of a Rust program. -/
def rust (source : List Char) : Nat :=
  (foldPlaces RustState.step ⟨[{}], 0, false, 0⟩ .edge (tokens rustLexis source)).branches

end Checkup.Complexity.Branches
