import Checkup.Complexity.Lexer

/-!
# Branches of C and C++ programs

Every label of a switch is a branch, the default one included. Of the directives only conditions count.

In C++ a doubled ampersand may also make a reference of a type. Which it is depends on what surrounds it: the
parameters of a function and the head of a declaration are about types, all else is an expression unless the
tokens beside the sign rule that out.
-/

namespace Checkup.Complexity.Branches

/-- The tokens of C. -/
def cLexis : Lexis where
  lineComments := ["//"]
  literal _ := firstLiteral [separatedNumber, quotedBy "\"", quotedBy "'"]
  signs := ["...", "::", "->", "&&", "||", "==", "!=", "<=", ">=", "++", "--"]
  directives := true

/-- The tokens of C++. -/
def cppLexis : Lexis where
  lineComments := ["//"]
  literal _ := firstLiteral [
    separatedNumber, delimited "R", delimited "LR", delimited "u8R", delimited "uR", delimited "UR",
    quotedBy "\"", quotedBy "'"]
  signs := ["...", "::", "->", "&&", "||", "==", "!=", "<=", ">=", "++", "--"]
  directives := true

/-- Whether a token is a branch in both languages; ampersands and defaults apart. -/
def isCBranch (p : Place) : Bool :=
  p.token.isWordOf ["if", "for", "while", "case"] || p.token.isSignOf ["||", "?"]
    || (p.token.isWord "default" && p.next.isSign ":" && !p.previous.isSignOf ["(", ","])

/-- The branches of a C program. -/
def c (source : List Char) : Nat :=
  foldPlaces (fun count p => count + (isCBranch p || p.token.isSign "&&").toNat) 0 .edge (tokens cLexis source)

/-! ### C++ -/

/-- What the tokens in some brackets are about. -/
inductive CppContext where
  /-- Declarations: the program itself, a namespace or a class. -/
  | declarations
  /-- The parameters of a function. -/
  | parameters
  /-- Statements and expressions. -/
  | expressions
  deriving DecidableEq

/-- One bracket that is open, and what was read in it since the last separator. -/
structure CppFrame where
  context : CppContext
  /-- Whether a value is being given. -/
  value : Bool := false
  /-- Whether parameters have been given. -/
  called : Bool := false
  /-- Whether members are being initialized. -/
  members : Bool := false
  /-- Whether a class or a namespace is being declared. -/
  scope : Bool := false

/-- What is known of a place in a C++ program. -/
structure CppState where
  /-- The open brackets, the innermost first; the last stands for the program. -/
  frames : List CppFrame
  /-- Whether the last closed square bracket opened a function without name. -/
  lambda : Bool
  /-- For every open square bracket, whether it stands where an operand begins. -/
  squares : List Bool
  branches : Nat

/-- The words behind which an operand begins. -/
def cppOperandAfter : List String :=
  ["return", "case", "else", "do", "throw", "new", "delete", "co_return", "co_yield", "co_await", "sizeof",
    "if", "while", "for", "switch"]

/-- The words that end the name of a type. -/
def cppTypeWords : List String :=
  ["auto", "const", "volatile", "int", "char", "bool", "short", "long", "unsigned", "signed", "float", "double",
    "void", "wchar_t", "char8_t", "char16_t", "char32_t", "size_t"]

/-- The signs and words that follow a reference and cannot follow an operator. -/
def isAfterReference (token : Token) : Bool :=
  token.isSignOf [")", ",", "...", ">", "=", "\x7b", "\x7d", ";", "]", ":", "->"]
    || token.isWordOf ["noexcept", "override", "final"] || token = .edge

namespace CppState

/-- The innermost open bracket. -/
def frame (s : CppState) : CppFrame :=
  s.frames.head?.getD ⟨.declarations, false, false, false, false⟩

/-- The state with another innermost bracket. -/
def setFrame (s : CppState) (frame : CppFrame) : CppState :=
  { s with frames := frame :: s.frames.drop 1 }

/-- Whether a doubled ampersand makes a reference. -/
def isReference (s : CppState) (p : Place) : Bool :=
  isAfterReference p.next || p.previous.isWordOf cppTypeWords || p.previous.isWord "operator"
    || (match s.frame.context with
      | .declarations => !s.frame.value && !s.frame.members
      | .parameters => !s.frame.value
      | .expressions => (p.second.isSignOf ["=", ":"]))

/-- What the tokens in round brackets that open here are about. -/
def roundContext (s : CppState) (p : Place) : CppContext :=
  if p.previous.isWordOf ["catch"] then .parameters
  else if p.previous.isSign "]" && s.lambda then .parameters
  else
    match s.frame.context with
    | .parameters => if s.frame.value then .expressions else .parameters
    | .declarations =>
      if s.frame.value || s.frame.members || p.previous.isWordOf ["#if", "decltype", "noexcept", "alignas",
          "static_assert", "explicit"] then .expressions
      else .parameters
    | .expressions => .expressions

/-- What the tokens in braces that open here are about. -/
def braceContext (s : CppState) (p : Place) : CppContext :=
  let f := s.frame
  if f.scope && !f.called && !f.value && !p.previous.isSign "=" then .declarations
  else .expressions

/-- The state after a sign. -/
def stepSign (s : CppState) (p : Place) (text : String) : CppState :=
  let f := s.frame
  match text with
  | "(" => { s.setFrame { f with called := true } with
      frames := ⟨s.roundContext p, false, false, false, false⟩ :: (s.setFrame { f with called := true }).frames }
  | "\x7b" =>
    let body := !(f.members && !p.previous.isSignOf [")", "\x7d"]) && !f.value
    let outer : CppFrame := if body then ⟨f.context, false, false, false, false⟩ else f
    { s.setFrame outer with frames := ⟨s.braceContext p, false, false, false, false⟩ :: (s.setFrame outer).frames }
  | "[" => { s with squares := (!p.previous.endsOperand cppOperandAfter) :: s.squares }
  | "]" => { s with squares := s.squares.drop 1, lambda := s.squares.head?.getD false }
  | ")" | "\x7d" => { s with frames := s.frames.drop 1 }
  | ";" => s.setFrame ⟨f.context, false, false, false, false⟩
  | "," => if f.context = .parameters then s.setFrame { f with value := false } else s
  | "=" => if p.previous.isWord "operator" then s else s.setFrame { f with value := true }
  | ":" =>
    if f.context != .declarations then s
    else if f.called then s.setFrame { f with members := true }
    else if p.previous.isWordOf ["public", "private", "protected"] then
      s.setFrame ⟨f.context, false, false, false, false⟩
    else s
  | "&&" => { s with branches := s.branches + (!s.isReference p).toNat }
  | _ => s

/-- The state after a token. -/
def step (s : CppState) (p : Place) : CppState :=
  let s := { s with branches := s.branches + (isCBranch p || p.token.isWord "catch").toNat }
  match p.token with
  | .sign text => s.stepSign p text
  | .word text =>
    if ["class", "struct", "union", "enum", "namespace", "extern"].contains text then
      s.setFrame { s.frame with scope := true }
    else s
  | _ => s

end CppState

/-- The branches of a C++ program. -/
def cpp (source : List Char) : Nat :=
  let state : CppState := ⟨[⟨.declarations, false, false, false, false⟩], false, [], 0⟩
  (foldPlaces CppState.step state .edge (tokens cppLexis source)).branches

end Checkup.Complexity.Branches
