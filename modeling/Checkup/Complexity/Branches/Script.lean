import Checkup.Complexity.Lexer

/-!
# Branches of JavaScript and TypeScript programs

Words of statements are keywords only in statements; as names of members they are words like any other. In
TypeScript a question mark may also mark what is optional or belong to a conditional type; such types follow a
word of extension that is not the head of a class.
-/

namespace Checkup.Complexity.Branches

/-- The words behind which an operand begins. -/
def scriptOperandAfter : List String :=
  ["return", "typeof", "case", "in", "of", "yield", "await", "else", "do", "void", "delete", "default", "new",
    "throw", "extends", "instanceof", "export"]

/-- The words that stand between operands. -/
def scriptInfix : List String :=
  ["in", "of", "instanceof", "extends", "as", "satisfies", "is"]

/-- A regular expression, where an operand may begin. -/
def scriptLiteral (atOperand : Bool) (cs : List Char) : Option (List Char) :=
  firstLiteral ([quotedBy "\"", quotedBy "'"] ++ (if atOperand then [regularExpression] else [])) cs

/-- A template, which holds expressions. -/
def template : Quote :=
  ⟨[Char.ofNat 96], [Char.ofNat 96], ['$', '\x7b'], '\x7d', none⟩

/-- The tokens of JavaScript and TypeScript, with markup elements or without. -/
def scriptLexis (markup : Bool) : Lexis where
  lineComments := ["//", "#!"]
  literal := scriptLiteral
  quotes := [template]
  signs := ["...", "=>", "??=", "&&=", "||=", "?.", "??", "&&", "||", "++", "--", "===", "!==", "==", "!=", "<="]
  operandAfter := scriptOperandAfter
  headAfter := ["if", "while", "for", "with"]
  markup := markup

/-- What stands between some brackets. -/
inductive ScriptContext where
  | statements
  /-- The members of an object, a class or a type. -/
  | members
  | expressions
  deriving DecidableEq

/-- One bracket that is open. -/
structure ScriptFrame where
  context : ScriptContext
  /-- Whether the head of a class or a type is being read. -/
  heading : Bool := false
  /-- Whether the value or the type of a member is being read. -/
  inValue : Bool := false
  /-- How many conditional types wait for their question mark. -/
  conditions : Nat := 0
  /-- How many type arguments are open since the last of them began. -/
  angles : Nat := 0

/-- What is known of a place in a program. -/
structure ScriptState where
  /-- The open brackets, the innermost first; the last stands for the program. -/
  frames : List ScriptFrame
  branches : Nat

/-- Whether a question mark only marks what is optional. Before parameters it does so behind the name of a
member; in the value of one it is an operator. -/
def marksOptional (frame : ScriptFrame) (p : Place) : Bool :=
  p.next.isSignOf [":", ")", ",", ";", "\x7d", "]", "="]
    || (p.next.isSignOf ["(", "<"] && frame.context = .members && !frame.inValue)

/-- Whether a word or literal begins another member, as no operator stands before it. What looks like an operator
before it may still be a type. -/
def beginsMember (p : Place) : Bool :=
  let operandAfter := scriptOperandAfter.filter (· != "void") ++ scriptInfix
  p.previous.endsOperand operandAfter && !p.token.isWordOf scriptInfix

namespace ScriptState

/-- The innermost open bracket. -/
def frame (s : ScriptState) : ScriptFrame :=
  s.frames.head?.getD { context := .statements }

/-- The state with another innermost bracket. -/
def setFrame (s : ScriptState) (frame : ScriptFrame) : ScriptState :=
  { s with frames := frame :: s.frames.drop 1 }

/-- The state in which the innermost bracket is in the value of a member, or not. -/
def setInValue (s : ScriptState) (inValue : Bool) : ScriptState :=
  s.setFrame { s.frame with inValue := inValue }

/-- The state with one more branch if `condition` holds. -/
def count (s : ScriptState) (condition : Bool) : ScriptState :=
  { s with branches := s.branches + condition.toNat }

/-- What stands between braces that open here. -/
def braceContext (s : ScriptState) (p : Place) : ScriptContext :=
  if s.frame.heading then .members
  else
    match p.previous with
    | .word text =>
      if ["else", "do", "try", "finally", "catch"].contains text then .statements
      else if scriptOperandAfter.contains text || text = "import" then .members
      else .statements
    | .sign text =>
      if ["=>", ")", ">", "]", ";", "\x7b", "\x7d"].contains text then .statements
      else if text = ":" && s.frame.context = .statements then .statements
      else .members
    | _ => .statements

/-- The state after a word. -/
def stepWord (s : ScriptState) (p : Place) (text : String) : ScriptState :=
  if p.previous.isSignOf [".", "?."] || p.next.isSignOf [":", "?"] then s
  else
    match text with
    | "if" | "for" | "while" | "case" | "catch" => s.count (s.frame.context = .statements)
    | "class" | "interface" | "enum" =>
      if p.next.isSignOf ["=", "(", ")", ",", ".", ";"] then s else s.setFrame { s.frame with heading := true }
    | "extends" =>
      if s.frame.heading then s
      else s.setFrame { s.frame with conditions := s.frame.conditions + 1, angles := 0 }
    | _ => s

/-- The state after a question mark. -/
def stepQuestion (types : Bool) (s : ScriptState) (p : Place) : ScriptState :=
  if !types then s.count true
  else if marksOptional s.frame p then s
  else if 0 < s.frame.conditions then s.setFrame { s.frame with conditions := s.frame.conditions - 1 }
  else s.count true

/-- The state after a sign. -/
def stepSign (types : Bool) (s : ScriptState) (p : Place) (text : String) : ScriptState :=
  let f := s.frame
  match text with
  | "&&" | "||" | "??" => s.count true
  | "?" => s.stepQuestion types p
  | "?." =>
    match p.next with
    | .word next => if (next.toList.head?).any Char.isDigit then s.count true else s
    | _ => s
  | "\x7b" =>
    let outer := s.setFrame { f with heading := false }
    { outer with frames := { context := s.braceContext p } :: outer.frames }
  | "(" | "[" => { s with frames := { context := .expressions } :: s.frames }
  | ")" | "]" | "\x7d" => { s with frames := s.frames.drop 1 }
  | ":" => s.setInValue true
  | ";" => s.setFrame { f with heading := false, inValue := false, conditions := 0, angles := 0 }
  | "=" => s.setFrame { f with inValue := true, conditions := 0, angles := 0 }
  | "," => if f.angles = 0 then s.setFrame { f with inValue := false, conditions := 0 } else s
  | "<" => s.setFrame { f with angles := f.angles + 1 }
  | ">" =>
    if f.angles = 0 then s.setFrame { f with conditions := 0 } else s.setFrame { f with angles := f.angles - 1 }
  | _ => s

/-- The state after a token. -/
def step (types : Bool) (s : ScriptState) (p : Place) : ScriptState :=
  match p.token with
  | .word text => (if beginsMember p then s.setInValue false else s).stepWord p text
  | .sign text => s.stepSign types p text
  | .literal => if beginsMember p then s.setInValue false else s
  | _ => s

end ScriptState

/-- The branches of a program, with types or without and with markup or without. -/
def script (types markup : Bool) (source : List Char) : Nat :=
  let state : ScriptState := ⟨[{ context := .statements }], 0⟩
  (foldPlaces (ScriptState.step types) state .edge (tokens (scriptLexis markup) source)).branches

end Checkup.Complexity.Branches
