import Checkup.Complexity.Literal

/-!
# Tokens of a source text

Programs are read as words, signs and literals; comments are dropped. What a language counts as a comment or a
literal, and which signs it has, is its `Lexis`. Literals may hold code, as templates and markup do; the tokens
of such code stand between parentheses in front of the literal.
-/

namespace Checkup.Complexity

/-- A token. -/
inductive Token where
  | word (text : String)
  | sign (text : String)
  | literal
  | lineBreak
  /-- What stands before the first token and after the last. -/
  | edge
  deriving DecidableEq, Repr

namespace Token

/-- Whether a token is this word. -/
def isWord (text : String) : Token → Bool
  | word other => other = text
  | _ => false

/-- Whether a token is this sign. -/
def isSign (text : String) : Token → Bool
  | sign other => other = text
  | _ => false

/-- Whether a token is one of these words. -/
def isWordOf (texts : List String) : Token → Bool
  | word text => texts.contains text
  | _ => false

/-- Whether a token is one of these signs. -/
def isSignOf (texts : List String) : Token → Bool
  | sign text => texts.contains text
  | _ => false

/-- Whether an operand may end with a token, given the words after which one begins. -/
def endsOperand (operandAfter : List String) : Token → Bool
  | word text => !operandAfter.contains text
  | sign text => text = ")" || text = "]" || text = "\x7d"
  | literal => true
  | lineBreak => false
  | edge => false

end Token

/-- A literal that may hold code. -/
structure Quote where
  opening : List Char
  closing : List Char
  /-- What opens code, and the sign that closes it. -/
  codeOpening : List Char
  codeClosing : Char
  /-- A character that stands for itself when it is doubled. -/
  doubled : Option Char

/-- How the text of a language divides into tokens. -/
structure Lexis where
  /-- What starts a comment that ends with the line. -/
  lineComments : List String
  /-- Whether there are comments between slash-and-star and star-and-slash. -/
  blockComments : Bool := true
  /-- Whether such comments hold others of their kind. -/
  nestedComments : Bool := false
  /-- What follows a literal at the start of a text, given whether an operand may begin there. -/
  literal : Bool → List Char → Option (List Char)
  quotes : List Quote := []
  /-- Signs of several characters, the longer first. -/
  signs : List String
  /-- The words after which an operand begins. -/
  operandAfter : List String := []
  /-- The words that open a statement whose head in parentheses an operand may follow. -/
  headAfter : List String := []
  /-- Whether a hash at the start of a line gives a directive. -/
  directives : Bool := false
  /-- Whether there are markup elements. -/
  markup : Bool := false
  /-- Whether line breaks are tokens. -/
  lineBreaks : Bool := false

/-- What surrounds a place in a text. -/
inductive Mode where
  /-- Code up to a sign after which an operand may begin; `depth` of its kind are open. -/
  | code (closing : Char) (depth : Nat)
  | quoted (quote : Quote)
  /-- Inside the tag that opens or closes a markup element. -/
  | tag (closes : Bool)
  /-- Between the tags of a markup element. -/
  | children

/-- Whether a character may stand in a word. -/
def isWordChar (c : Char) : Bool :=
  c.isAlphanum || c = '_' || c = '$' || 128 ≤ c.toNat

/-- The text after a block comment that `depth` more surround. -/
def afterComment (nested : Bool) (depth : Nat) : List Char → List Char
  | [] => []
  | '*' :: '/' :: rest =>
    match depth with
    | 0 => rest
    | depth + 1 => afterComment nested depth rest
  | '/' :: '*' :: rest => afterComment nested (if nested then depth + 1 else depth) rest
  | _ :: rest => afterComment nested depth rest

/-- The text from the end of the line on. A backslash at the end of a line continues it, if `continued`. -/
def afterLine (continued : Bool) : List Char → List Char
  | [] => []
  | '\\' :: '\n' :: rest => if continued then afterLine continued rest else '\n' :: rest
  | '\n' :: rest => '\n' :: rest
  | _ :: rest => afterLine continued rest

/-- The line up to its end, and the text from there on. -/
def splitLine (cs : List Char) : List Char × List Char :=
  cs.span (· ≠ '\n')

/-- The text after a comment at its start. -/
def comment? (lexis : Lexis) (cs : List Char) : Option (List Char) :=
  match cs with
  | '/' :: '*' :: rest => if lexis.blockComments then some (afterComment lexis.nestedComments 0 rest) else lineComment cs
  | _ => lineComment cs
where
  /-- The text after a comment that ends with the line. -/
  lineComment (cs : List Char) : Option (List Char) :=
    if lexis.lineComments.any (·.toList.isPrefixOf cs) then some (afterLine false cs) else none

/-- The sign at the start of a text, and the text after it. -/
def readSign (lexis : Lexis) (c : Char) (rest : List Char) : String × List Char :=
  match lexis.signs.find? (·.toList.isPrefixOf (c :: rest)) with
  | some sign => (sign, rest.drop (sign.length - 1))
  | none => (c.toString, rest)

/-- Whether a markup element opens after a sign of less. -/
def opensElement (rest : List Char) : Bool :=
  match rest with
  | '>' :: _ => true
  | c :: _ =>
    if c.isAlpha then
      match (rest.dropWhile isWordChar).dropWhile (· = ' ') with
      | ',' :: _ => false
      | 'e' :: 'x' :: 't' :: 'e' :: 'n' :: 'd' :: 's' :: _ => false
      | _ => true
    else false
  | [] => false

/-- How the depth inside code changes with a sign: `none` if the code ends there. -/
def depthAfter? (closing : Char) (depth : Nat) (c : Char) : Option Nat :=
  if c = closing then (if depth = 0 then none else some (depth - 1))
  else if (closing = '\x7d' && c = '\x7b') || (closing = ')' && c = '(') then some (depth + 1)
  else some depth

/-- The tokens of a text from a place on, as `modes` surround it, after the token `last`. `lineStart` tells
whether only blanks stand before it on its line, and `fuel` is more than the length of the text. -/
def tokensFrom (lexis : Lexis) : (fuel : Nat) → (modes : List Mode) → (last : Token) → (lineStart : Bool) →
    List Char → List Token
  | 0, _, _, _, _ => []
  | _, _, _, _, [] => []
  | fuel + 1, .quoted quote :: modes, last, _, c :: rest =>
    let cs := c :: rest
    if quote.doubled = some c && rest.head? = some c then
      tokensFrom lexis fuel (.quoted quote :: modes) last false (rest.drop 1)
    else
      match quote.codeOpening.isPrefixOf? cs with
      | some rest =>
        .sign "(" :: tokensFrom lexis fuel (.code quote.codeClosing 0 :: .quoted quote :: modes) (.sign "(") false rest
      | none =>
        if c = '\\' then tokensFrom lexis fuel (.quoted quote :: modes) last false (rest.drop 1)
        else
          match quote.closing.isPrefixOf? cs with
          | some rest => .literal :: tokensFrom lexis fuel modes .literal false rest
          | none => tokensFrom lexis fuel (.quoted quote :: modes) last false rest
  | fuel + 1, .tag closes :: modes, last, _, c :: rest =>
    if c = '\x7b' then
      .sign "(" :: tokensFrom lexis fuel (.code '\x7d' 0 :: .tag closes :: modes) (.sign "(") false rest
    else if c = '"' || c = '\'' then
      tokensFrom lexis fuel (.tag closes :: modes) last false ((afterClosing [c] false rest).getD [])
    else if c = '/' && rest.head? = some '>' then
      .literal :: tokensFrom lexis fuel modes .literal false (rest.drop 1)
    else if c = '>' then
      if closes then .literal :: tokensFrom lexis fuel (modes.drop 1) .literal false rest
      else tokensFrom lexis fuel (.children :: modes) last false rest
    else tokensFrom lexis fuel (.tag closes :: modes) last false rest
  | fuel + 1, .children :: modes, last, _, c :: rest =>
    if c = '\x7b' then
      .sign "(" :: tokensFrom lexis fuel (.code '\x7d' 0 :: .children :: modes) (.sign "(") false rest
    else if c = '<' then
      if rest.head? = some '/' then tokensFrom lexis fuel (.tag true :: .children :: modes) last false (rest.drop 1)
      else tokensFrom lexis fuel (.tag false :: .children :: modes) last false rest
    else tokensFrom lexis fuel (.children :: modes) last false rest
  | fuel + 1, modes, last, lineStart, c :: rest =>
    let cs := c :: rest
    let atOperand := !last.endsOperand lexis.operandAfter
    if c = '\n' then
      if lexis.lineBreaks then .lineBreak :: tokensFrom lexis fuel modes last true rest
      else tokensFrom lexis fuel modes last true rest
    else if c = ' ' || c = '\t' || c = '\r' then tokensFrom lexis fuel modes last lineStart rest
    else if lexis.directives && lineStart && c = '#' then
      let rest := rest.dropWhile fun c => c = ' ' || c = '\t'
      let name := String.ofList (rest.takeWhile Char.isAlpha)
      if name = "if" || name = "elif" then
        let (line, after) := splitLine (rest.drop name.length)
        .word "#if" :: .sign "(" :: tokensFrom lexis fuel [] (.sign "(") false line
          ++ .sign ")" :: .sign ";" :: tokensFrom lexis fuel modes (.sign ";") false after
      else tokensFrom lexis fuel modes last false (afterLine true rest)
    else
      match comment? lexis cs with
      | some rest => tokensFrom lexis fuel modes last lineStart rest
      | none =>
        match lexis.quotes.findSome? fun quote => (quote.opening.isPrefixOf? cs).map (quote, ·) with
        | some (quote, rest) => tokensFrom lexis fuel (.quoted quote :: modes) last false rest
        | none =>
          match lexis.literal atOperand cs with
          | some rest => .literal :: tokensFrom lexis fuel modes .literal false rest
          | none =>
            if lexis.markup && atOperand && c = '<' && opensElement rest then
              tokensFrom lexis fuel (.tag false :: modes) last false rest
            else if isWordChar c then
              let text := String.ofList (cs.takeWhile isWordChar)
              .word text :: tokensFrom lexis fuel modes (.word text) false (cs.dropWhile isWordChar)
            else if c = '(' && last.isWordOf lexis.headAfter then
              .sign "(" :: tokensFrom lexis fuel (.code ')' 0 :: modes) (.sign "(") false rest
            else
              match modes with
              | .code closing depth :: outer =>
                match depthAfter? closing depth c with
                | none => .sign ")" :: tokensFrom lexis fuel outer .edge false rest
                | some depth =>
                  let (sign, rest) := readSign lexis c rest
                  .sign sign :: tokensFrom lexis fuel (.code closing depth :: outer) (.sign sign) false rest
              | _ =>
                let (sign, rest) := readSign lexis c rest
                .sign sign :: tokensFrom lexis fuel modes (.sign sign) false rest

/-- The tokens of a text. -/
def tokens (lexis : Lexis) (source : List Char) : List Token :=
  tokensFrom lexis (source.length + 1) [] .edge true source

/-- A token with the ones around it. -/
structure Place where
  previous : Token
  token : Token
  /-- The tokens after it. -/
  rest : List Token

namespace Place

/-- The token after a place. -/
def next (p : Place) : Token :=
  p.rest.head?.getD .edge

/-- The second token after a place. -/
def second (p : Place) : Token :=
  (p.rest[1]?).getD .edge

end Place

/-- Goes through tokens with a state that each of them changes. -/
def foldPlaces (step : σ → Place → σ) (state : σ) (previous : Token) : List Token → σ
  | [] => state
  | token :: rest => foldPlaces step (step state ⟨previous, token, rest⟩) token rest

end Checkup.Complexity
