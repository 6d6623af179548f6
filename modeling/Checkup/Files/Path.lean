import Checkup.Text.Utf8

/-!
# Paths

A path is a text whose components are separated by slashes. Empty components and single dots say nothing,
except that what stands before them is a directory.

The name of an entry is a sequence of bytes, which need not be the encoding of a text. It is written as a text
all the same: its characters as they are, and each byte that belongs to no character as the null character,
which no name holds, and the character with the number of the byte. Paths are compared by their bytes
(`bytes`), and shown with replacements for those that are no text (`shown`).
-/

namespace Checkup.Files.Path

/-! ### The bytes of a path -/

/-- The character that announces a byte. -/
def mark : Char := Char.ofNat 0

/-- The bytes that characters of a path stand for. -/
def bytesOf : List Char → List UInt8
  | [] => []
  | [c] => String.utf8EncodeChar c
  | c :: d :: rest =>
    if c = mark then UInt8.ofNat d.toNat :: bytesOf rest else String.utf8EncodeChar c ++ bytesOf (d :: rest)

/-- The bytes of a path. -/
def bytes (path : String) : List UInt8 :=
  bytesOf path.toList

/-- A text as a path: a null character in it is announced. -/
def ofText (text : String) : String :=
  String.ofList (text.toList.flatMap fun c => if c = mark then [mark, mark] else [c])

/-- A path as it is shown. -/
def shown (path : String) : String :=
  String.ofList (Text.decode (bytes path))

/-! ### Steps and components -/

/-- The parts of a path between its slashes. -/
def steps (path : String) : List String :=
  path.splitOn "/"

/-- Whether a path starts at the root of the file tree. -/
def isAbsolute (path : String) : Bool :=
  path.startsWith "/"

/-- The path of `path` seen from the directory `base`. -/
def join (base path : String) : String :=
  if isAbsolute path then path
  else if base.isEmpty || base.endsWith "/" then base ++ path
  else base ++ "/" ++ path

/-- Whether a step says nothing. -/
def isIdle (step : String) : Bool :=
  step = "" || step = "."

/-- The components of a path: its steps that say something. -/
def components (path : String) : List String :=
  (steps path).filter (!isIdle ·)

/-- The steps that are left after the given components, idle ones among them passed over. -/
def stepsBelow? : List String → List String → Option (List String)
  | [], steps => some (steps.dropWhile isIdle)
  | name :: base, steps =>
    match steps.dropWhile isIdle with
    | [] => none
    | step :: rest => if step = name then stepsBelow? base rest else none

/-- A path as seen from a directory above it, and as it is if `base` is none. -/
def relative (base path : String) : String :=
  if isAbsolute base != isAbsolute path then path
  else
    match stepsBelow? (components base) (steps path) with
    | some rest => "/".intercalate rest
    | none => path

/-- The path from the root that has these components. -/
def ofComponents (components : List String) : String :=
  "/" ++ "/".intercalate components

/-- Steps without the idle ones at their end. -/
def trimIdle (steps : List String) : List String :=
  (steps.reverse.dropWhile isIdle).reverse

/-- The path of the directory that a path's last component is in, if it has one. It is empty for a single
relative component. -/
def parent? (path : String) : Option String :=
  let above := fun steps => trimIdle (trimIdle steps).dropLast
  match steps path with
  | "" :: rest =>
    if (trimIdle rest).isEmpty then none else some ("/" ++ "/".intercalate (above rest))
  | "." :: rest =>
    if (trimIdle rest).isEmpty then some "" else some ("/".intercalate ("." :: above rest))
  | all => some ("/".intercalate (above all))

/-- The last component of a path, if it is a name. -/
def fileName? (path : String) : Option String :=
  match (components path).getLast? with
  | some ".." => none
  | other => other

/-! ### Extensions and order -/

/-- The slash. -/
def slash : UInt8 := 47

/-- The dot. -/
def dot : UInt8 := 46

/-- The bytes behind the last dot of a name, if there is one with something before it. -/
def bytesAfterDot? (name : String) : Option (List UInt8) :=
  match (bytes name).reverse.span (· ≠ dot) with
  | (after, _ :: _ :: _) => some after.reverse
  | _ => none

/-- The extension of a name, empty if it has none or one that is no text. -/
def nameExtension (name : String) : String :=
  ((bytesAfterDot? name).bind Text.ofBytes?).getD ""

/-- The extension of a path's last component. -/
def extension (path : String) : String :=
  ((fileName? path).map nameExtension).getD ""

/-- Components in the order of paths: compared one by one by their bytes, and the shorter first. -/
def isBefore (a b : List String) : Bool :=
  a.map bytes < b.map bytes

end Checkup.Files.Path
