import Checkup.Yaml.Token

/-!
# Documents

A document is a tree of scalars, sequences and mappings. `Node.ofText?` reads a text that holds at most one
document; a text without any holds an empty plain scalar. Aliases are replaced by the nodes that their anchors
name, which must be complete before.
-/

namespace Checkup.Yaml

/-- A node of a document, with its tag if it has one. -/
inductive Node where
  | scalar (tag : Option String) (text : String) (style : Style)
  | sequence (tag : Option String) (items : List Node)
  | mapping (tag : Option String) (entries : List (Node × Node))
  deriving Inhabited

/-- The scalar where nothing is written. -/
def Node.empty : Node := .scalar none "" .plain

/-- What a text has defined so far. -/
structure Names where
  /-- What the tag handles stand for, the latest first. -/
  handles : List (String × String)
  /-- The nodes by their anchors, the latest first. -/
  anchors : List (String × Node)

/-- What the tag handles stand for without any directive. -/
def Names.standard : Names := ⟨[("!", "!"), ("!!", "tag:yaml.org,2002:")], []⟩

/-- The properties of a node: its anchor and its tag. -/
structure Properties where
  anchor : Option String
  tag : Option String

/-- The tag that a handle and a suffix make; the tag of only a mark is none. -/
def resolveTag? (names : Names) (handle suffix : String) : Option (Option String) :=
  if handle = "" then some (if suffix = "!" then none else some suffix)
  else (names.handles.lookup handle).map fun start => some (start ++ suffix)

/-- The properties written in front of a node, in either order. -/
def readProperties? (names : Names) : List Token → Option (Properties × List Token)
  | .anchor name :: .tag handle suffix :: rest => do
    return (⟨some name, ← resolveTag? names handle suffix⟩, rest)
  | .tag handle suffix :: .anchor name :: rest => do
    return (⟨some name, ← resolveTag? names handle suffix⟩, rest)
  | .anchor name :: rest => some (⟨some name, none⟩, rest)
  | .tag handle suffix :: rest => do return (⟨none, ← resolveTag? names handle suffix⟩, rest)
  | rest => some (⟨none, none⟩, rest)

/-- Whether a value or an entry is missing in a block mapping before this token. -/
def endsBlockPart : List Token → Bool
  | .key :: _ | .value :: _ | .blockEnd :: _ => true
  | _ => false

/-- Whether an item is missing in a sequence without indentation of its own before this token. -/
def endsIndentlessItem : List Token → Bool
  | .blockEntry :: _ => true
  | tokens => endsBlockPart tokens

/-- Whether a value is missing inside brackets before this token. -/
def endsFlowPart : List Token → Bool
  | .value :: _ | .flowEntry :: _ | .flowSequenceEnd :: _ | .flowMappingEnd :: _ => true
  | _ => false

/-- An empty scalar, which stands only after properties. -/
def emptyContent (properties : Properties) (names : Names) (tokens : List Token) :
    Option (Node × Names × List Token) :=
  if properties.anchor.isSome || properties.tag.isSome then
    some (.scalar properties.tag "" .plain, names, tokens)
  else none

mutual

/-- Reads a node. `block` tells whether block collections may stand here, and `indentless` whether a sequence
without indentation of its own may. -/
def readNode : (fuel : Nat) → (block indentless : Bool) → Names → List Token →
    Option (Node × Names × List Token)
  | 0, _, _, _, _ => none
  | _ + 1, _, _, names, .alias name :: rest => do
    return (← names.anchors.lookup name, names, rest)
  | fuel + 1, block, indentless, names, tokens => do
    let (properties, rest) ← readProperties? names tokens
    let (node, names, rest) ← readContent fuel block indentless properties names rest
    match properties.anchor with
    | none => return (node, names, rest)
    | some anchor => return (node, { names with anchors := (anchor, node) :: names.anchors }, rest)

/-- Reads what follows the properties of a node. -/
def readContent : (fuel : Nat) → (block indentless : Bool) → Properties → Names → List Token →
    Option (Node × Names × List Token)
  | 0, _, _, _, _, _ => none
  | fuel + 1, block, indentless, properties, names, tokens =>
    match tokens with
    | .scalar text style :: rest => some (.scalar properties.tag text style, names, rest)
    | .flowSequence :: rest => do
      let (items, names, rest) ← readFlowItems fuel true names rest
      return (.sequence properties.tag items, names, rest)
    | .flowMapping :: rest => do
      let (entries, names, rest) ← readFlowEntries fuel true names rest
      return (.mapping properties.tag entries, names, rest)
    | .blockEntry :: _ =>
      if indentless then do
        let (items, names, rest) ← readIndentlessItems fuel names tokens
        return (.sequence properties.tag items, names, rest)
      else emptyContent properties names tokens
    | .blockSequence :: rest =>
      if block then do
        let (items, names, rest) ← readBlockItems fuel names rest
        return (.sequence properties.tag items, names, rest)
      else emptyContent properties names tokens
    | .blockMapping :: rest =>
      if block then do
        let (entries, names, rest) ← readBlockEntries fuel names rest
        return (.mapping properties.tag entries, names, rest)
      else emptyContent properties names tokens
    | _ => emptyContent properties names tokens

/-- Reads the items of a block sequence and its end. -/
def readBlockItems : (fuel : Nat) → Names → List Token → Option (List Node × Names × List Token)
  | 0, _, _ => none
  | fuel + 1, names, tokens =>
    match tokens with
    | .blockEnd :: rest => some ([], names, rest)
    | .blockEntry :: rest => do
      let (item, names, rest) ←
        match rest with
        | .blockEntry :: _ | .blockEnd :: _ => some (Node.empty, names, rest)
        | _ => readNode fuel true false names rest
      let (items, names, rest) ← readBlockItems fuel names rest
      return (item :: items, names, rest)
    | _ => none

/-- Reads the items of a sequence without indentation of its own. -/
def readIndentlessItems : (fuel : Nat) → Names → List Token → Option (List Node × Names × List Token)
  | 0, _, _ => none
  | fuel + 1, names, tokens =>
    match tokens with
    | .blockEntry :: rest => do
      let (item, names, rest) ←
        if endsIndentlessItem rest then some (Node.empty, names, rest)
        else readNode fuel true false names rest
      let (items, names, rest) ← readIndentlessItems fuel names rest
      return (item :: items, names, rest)
    | rest => some ([], names, rest)

/-- Reads the entries of a block mapping and its end. -/
def readBlockEntries : (fuel : Nat) → Names → List Token → Option (List (Node × Node) × Names × List Token)
  | 0, _, _ => none
  | fuel + 1, names, tokens =>
    match tokens with
    | .blockEnd :: rest => some ([], names, rest)
    | .key :: rest => do
      let (key, names, rest) ←
        if endsBlockPart rest then some (Node.empty, names, rest) else readNode fuel true true names rest
      let (value, names, rest) ← readBlockValue fuel names rest
      let (entries, names, rest) ← readBlockEntries fuel names rest
      return ((key, value) :: entries, names, rest)
    | .value :: _ => do
      let (value, names, rest) ← readBlockValue fuel names tokens
      let (entries, names, rest) ← readBlockEntries fuel names rest
      return ((Node.empty, value) :: entries, names, rest)
    | _ => none

/-- Reads the value of an entry of a block mapping, if there is one. -/
def readBlockValue : (fuel : Nat) → Names → List Token → Option (Node × Names × List Token)
  | 0, _, _ => none
  | fuel + 1, names, tokens =>
    match tokens with
    | .value :: rest =>
      if endsBlockPart rest then some (Node.empty, names, rest) else readNode fuel true true names rest
    | rest => some (Node.empty, names, rest)

/-- Reads the items of a sequence in brackets and its end. -/
def readFlowItems : (fuel : Nat) → (first : Bool) → Names → List Token →
    Option (List Node × Names × List Token)
  | 0, _, _, _ => none
  | fuel + 1, first, names, tokens =>
    match tokens with
    | .flowSequenceEnd :: rest => some ([], names, rest)
    | .flowEntry :: rest => if first then none else readFlowItem fuel names rest
    | rest => if first then readFlowItem fuel names rest else none

/-- Reads one item of a sequence in brackets, which may be a mapping of one entry, and what follows it. -/
def readFlowItem : (fuel : Nat) → Names → List Token → Option (List Node × Names × List Token)
  | 0, _, _ => none
  | fuel + 1, names, tokens =>
    match tokens with
    | .flowSequenceEnd :: rest => some ([], names, rest)
    | .key :: rest => do
      let (key, names, rest) ←
        if endsFlowPart rest then some (Node.empty, names, rest.drop 1) else readNode fuel false false names rest
      let (value, names, rest) ← readFlowValue fuel names rest
      let (items, names, rest) ← readFlowItems fuel false names rest
      return (.mapping none [(key, value)] :: items, names, rest)
    | _ => do
      let (item, names, rest) ← readNode fuel false false names tokens
      let (items, names, rest) ← readFlowItems fuel false names rest
      return (item :: items, names, rest)

/-- Reads the entries of a mapping in brackets and its end. -/
def readFlowEntries : (fuel : Nat) → (first : Bool) → Names → List Token →
    Option (List (Node × Node) × Names × List Token)
  | 0, _, _, _ => none
  | fuel + 1, first, names, tokens =>
    match tokens with
    | .flowMappingEnd :: rest => some ([], names, rest)
    | .flowEntry :: rest => if first then none else readFlowEntry fuel names rest
    | rest => if first then readFlowEntry fuel names rest else none

/-- Reads one entry of a mapping in brackets and what follows it. -/
def readFlowEntry : (fuel : Nat) → Names → List Token → Option (List (Node × Node) × Names × List Token)
  | 0, _, _ => none
  | fuel + 1, names, tokens =>
    match tokens with
    | .flowMappingEnd :: rest => some ([], names, rest)
    | .key :: rest => do
      let (key, names, rest) ←
        if endsFlowPart rest then some (Node.empty, names, rest) else readNode fuel false false names rest
      let (value, names, rest) ← readFlowValue fuel names rest
      let (entries, names, rest) ← readFlowEntries fuel false names rest
      return ((key, value) :: entries, names, rest)
    | _ => do
      let (key, names, rest) ← readNode fuel false false names tokens
      let (entries, names, rest) ← readFlowEntries fuel false names rest
      return ((key, Node.empty) :: entries, names, rest)

/-- Reads the value of an entry inside brackets, if there is one. -/
def readFlowValue : (fuel : Nat) → Names → List Token → Option (Node × Names × List Token)
  | 0, _, _ => none
  | fuel + 1, names, tokens =>
    match tokens with
    | .value :: rest =>
      match rest with
      | .flowEntry :: _ | .flowSequenceEnd :: _ | .flowMappingEnd :: _ => some (Node.empty, names, rest)
      | _ => readNode fuel false false names rest
    | rest => some (Node.empty, names, rest)

end

/-- Reads the directives in front of a document. -/
def readDirectives? (names : Names) : List Token → Option (Names × List Token)
  | .version major minor :: rest =>
    if major = 1 && (minor = 1 || minor = 2) then readDirectives? names rest else none
  | .tagHandle handle start :: rest =>
    readDirectives? { names with handles := (handle, start) :: names.handles } rest
  | rest => some (names, rest)

/-- Whether a document has no content before this token. -/
def endsDocument : List Token → Bool
  | [] | .documentStart :: _ | .documentEnd :: _ | .version _ _ :: _ | .tagHandle _ _ :: _ => true
  | _ => false

/-- The tokens without the ends of documents at their start. -/
def dropDocumentEnds : List Token → List Token
  | .documentEnd :: rest => dropDocumentEnds rest
  | rest => rest

/-- The only document of some tokens. -/
def Node.ofTokens? (tokens : List Token) : Option Node :=
  match dropDocumentEnds tokens with
  | [] => some .empty
  | tokens => do
    let fuel := 6 * tokens.length + 6
    let (names, body) ← readDirectives? .standard tokens
    let explicit := body.length < tokens.length || body.head? = some .documentStart
    let body ← if explicit then
        match body with
        | .documentStart :: rest => some rest
        | _ => none
      else some body
    let (node, _, rest) ←
      if endsDocument body then some (Node.empty, names, body) else readNode fuel true false names body
    guard (dropDocumentEnds rest).isEmpty
    return node

/-- The only document of a text. -/
def Node.ofText? (text : String) : Option Node := do
  Node.ofTokens? (← Token.ofText? text).toList

end Checkup.Yaml
