/-!
# Options

The words of a command line are read from left to right. A word with two dashes in front names an option, one
with a single dash a cluster of one-letter options, and all others are operands or values. After a word of two
dashes alone everything is an operand.

A value, and the operand, is taken in only when the next option comes or the words end; an unknown option is
therefore reported before a bad value in front of it.

* `Grammar` — the options that are understood and where the operand goes.
* `Reader.feed` — takes in one word.
* `Grammar.read` — takes in all words.
-/

namespace Checkup.Command

/-- Why the words of a command line make no command. -/
inductive UsageError where
  /-- Help was asked for. -/
  | help
  /-- The version was asked for. -/
  | version
  /-- Nothing was given at all. -/
  | nothingGiven
  | missingCommand
  | unknownCommand
  | unknownArgument
  /-- A value was given to an option that takes none. -/
  | superfluousValue
  /-- A value is missing or is none of those allowed. -/
  | invalidValue
  /-- A value is not of the form wanted. -/
  | malformedValue
  /-- An option that may be given once was repeated. -/
  | repeated
  deriving DecidableEq, Repr

/-- How a value changes what has been read. -/
abbrev Setter (σ : Type) := String → σ → Except UsageError σ

/-- What an option does. -/
inductive Effect (σ : Type) where
  /-- It takes no value. -/
  | flag (set : σ → Except UsageError σ)
  | value (set : Setter σ)

/-- An option with its names. -/
structure Switch (σ : Type) where
  short : Option Char
  longs : List String
  effect : Effect σ

/-- What is understood: options, and perhaps an operand. -/
structure Grammar (σ : Type) where
  options : List (Switch σ)
  operand : Option (Setter σ)
  /-- What an operand is that cannot be placed. -/
  unplaced : UsageError

/-- An option that waits for its value, or a value or operand that is not yet taken in. -/
inductive Pending (σ : Type) where
  | awaiting (set : Setter σ)
  | held (set : Setter σ) (text : String)

/-- Words read in part. -/
structure Reader (σ : Type) where
  state : σ
  pending : Option (Pending σ)
  /-- Where the operand goes, until there is one. -/
  operand : Option (Setter σ)
  /-- Whether all further words are operands. -/
  operandsOnly : Bool

namespace Reader

variable {σ : Type}

/-- Takes in what is pending. -/
def settle (r : Reader σ) : Except UsageError (Reader σ) :=
  match r.pending with
  | none => .ok r
  | some (.awaiting _) => .error .invalidValue
  | some (.held set text) => do return { r with state := ← set text r.state, pending := none }

/-- Takes in a flag. -/
def raise (set : σ → Except UsageError σ) (r : Reader σ) : Except UsageError (Reader σ) := do
  let r ← r.settle
  return { r with state := ← set r.state }

/-- Takes in an option with a value attached to it, or else makes it wait for one. -/
def assign (set : Setter σ) (attached : Option String) (r : Reader σ) : Except UsageError (Reader σ) := do
  let r ← r.settle
  match attached with
  | some text => return { r with state := ← set text r.state }
  | none => return { r with pending := some (.awaiting set) }

/-- Takes in a long option, with or without a value after an equals sign. -/
def long (g : Grammar σ) (name : String) (attached : Option String) (r : Reader σ) :
    Except UsageError (Reader σ) :=
  match g.options.find? (·.longs.contains name) with
  | none => .error .unknownArgument
  | some option =>
    match option.effect with
    | .value set => r.assign set attached
    | .flag set => if attached.isSome then .error .superfluousValue else r.raise set

/-- The value that stands in a cluster behind the letter of its option. -/
def clusterValue : List Char → Option String
  | [] => none
  | '=' :: rest => some (String.ofList rest)
  | rest => some (String.ofList rest)

/-- Takes in a cluster of one-letter options. The first that takes a value ends it. -/
def cluster (g : Grammar σ) (r : Reader σ) : List Char → Except UsageError (Reader σ)
  | [] => .ok r
  | letter :: rest =>
    match g.options.find? (·.short == some letter) with
    | none => .error .unknownArgument
    | some option =>
      match option.effect with
      | .value set => r.assign set (clusterValue rest)
      | .flag set => do (← r.raise set).cluster g rest

/-- Takes in an operand. -/
def place (g : Grammar σ) (text : String) (r : Reader σ) : Except UsageError (Reader σ) :=
  match r.operand with
  | none => .error g.unplaced
  | some set => do return { ← r.settle with operand := none, pending := some (.held set text) }

/-- Takes in a word that is no option: the value of the option that waits for one, or an operand. -/
def plain (g : Grammar σ) (text : String) (r : Reader σ) : Except UsageError (Reader σ) :=
  match r.pending with
  | some (.awaiting set) => .ok { r with pending := some (.held set text) }
  | _ => r.place g text

/-- A long option split at its first equals sign. -/
def splitValue (text : List Char) : String × Option String :=
  match text.span (· ≠ '=') with
  | (name, []) => (String.ofList name, none)
  | (name, _ :: value) => (String.ofList name, some (String.ofList value))

/-- Takes in a word. -/
def feed (g : Grammar σ) (word : String) (r : Reader σ) : Except UsageError (Reader σ) :=
  if r.operandsOnly then r.place g word
  else
    match word.toList with
    | ['-', '-'] => .ok { r with operandsOnly := true }
    | '-' :: '-' :: text =>
      let (name, attached) := splitValue text
      r.long g name attached
    | '-' :: letter :: rest => r.cluster g (letter :: rest)
    | _ => r.plain g word

end Reader

/-- A reader that has read nothing. -/
def Grammar.start (g : Grammar σ) (state : σ) : Reader σ :=
  ⟨state, none, g.operand, false⟩

/-- What all words say. -/
def Grammar.read (g : Grammar σ) (state : σ) (words : List String) : Except UsageError σ := do
  let r ← words.foldlM (fun r word => r.feed g word) (g.start state)
  return (← r.settle).state

end Checkup.Command
