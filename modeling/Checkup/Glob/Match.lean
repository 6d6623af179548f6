import Checkup.Files.Path
import Checkup.Glob.Pattern

/-!
# Matching paths

A pattern is matched against the bytes of a path, from the first to the last. A class stands for one byte: of
a character outside ASCII each byte belongs to it, and a range reaches from the last byte of its first
character to the first byte of its last.
-/

namespace Checkup.Glob

open Files.Path (slash)

/-- The bytes of a character. -/
def charBytes (c : Char) : List UInt8 :=
  (String.singleton c).toUTF8.toList

/-- The rest of some bytes after those of `start`, if they begin with them. -/
def dropBytes? : (start bytes : List UInt8) → Option (List UInt8)
  | [], bytes => some bytes
  | _ :: _, [] => none
  | b :: start, c :: bytes => if b = c then dropBytes? start bytes else none

/-- Whether a byte belongs to the range from one character to another. -/
def rangeHasByte (low high : Char) (b : UInt8) : Bool :=
  if low = high then (charBytes low).contains b
  else
    let lows := charBytes low
    let highs := charBytes high
    (lows.getLastD 0 ≤ b && b ≤ highs.headD 0) || lows.dropLast.contains b || (highs.drop 1).contains b

/-- Whether some end of the bytes, the bytes themselves included, satisfies `k`. -/
def anyEnd (k : List UInt8 → Bool) : List UInt8 → Bool
  | [] => k []
  | b :: rest => k (b :: rest) || anyEnd k rest

/-- Whether the bytes after some slash satisfy `k`. -/
def anyAfterSlash (k : List UInt8 → Bool) : List UInt8 → Bool
  | [] => false
  | b :: rest => (b == slash && k rest) || anyAfterSlash k rest

/-- Whether the bytes start with a slash and the rest satisfies `k`. -/
def afterSlash (k : List UInt8 → Bool) : List UInt8 → Bool
  | b :: rest => b == slash && k rest
  | [] => false

mutual

/-- Whether parts stand for no byte because they are choices of nothing. -/
def areVoid : List Part → Bool
  | [] => true
  | part :: parts => isVoid part && areVoid parts

/-- Whether a part is a choice of nothing. -/
def isVoid : Part → Bool
  | .choice branches => allVoid branches
  | _ => false

/-- Whether every branch is void. -/
def allVoid : List (List Part) → Bool
  | [] => true
  | branch :: branches => areVoid branch && allVoid branches

end

mutual

/-- Whether the bytes begin with what the part stands for and the rest satisfies `k`. -/
def Part.matchThen (k : List UInt8 → Bool) (bytes : List UInt8) : Part → Bool
  | .literal c => (dropBytes? (charBytes c) bytes).any k
  | .any => match bytes with
    | [] => false
    | _ :: rest => k rest
  | .anything => anyEnd k bytes
  | .componentsBefore => k bytes || anyAfterSlash k bytes
  | .componentsAfter => afterSlash (anyEnd k) bytes
  | .componentsBetween => afterSlash (fun rest => k rest || anyAfterSlash k rest) bytes
  | .set negated ranges => match bytes with
    | [] => false
    | b :: rest => (ranges.any fun (low, high) => rangeHasByte low high b) != negated && k rest
  | .choice branches => if allVoid branches then k bytes else matchBranches k bytes branches

/-- Whether the bytes begin with what the parts stand for, one after the other, and the rest satisfies `k`. -/
def matchParts (k : List UInt8 → Bool) (bytes : List UInt8) : List Part → Bool
  | [] => k bytes
  | part :: parts => part.matchThen (fun rest => matchParts k rest parts) bytes

/-- Whether one of the branches matches; void ones are no branches. -/
def matchBranches (k : List UInt8 → Bool) (bytes : List UInt8) : List (List Part) → Bool
  | [] => false
  | branch :: branches =>
    (!areVoid branch && matchParts k bytes branch) || matchBranches k bytes branches

end

/-- Whether the whole path matches. Two stars alone match every path. -/
def Pattern.isMatch (pattern : Pattern) (path : String) : Bool :=
  match pattern with
  | [.componentsBefore] => true
  | parts => matchParts List.isEmpty (Files.Path.bytes path) parts

/-- Compiled patterns of paths to leave out. -/
structure Exclusion where
  patterns : List Pattern

namespace Exclusion

/-- Compiles patterns; the error is the first that is none. -/
def compile (patterns : List String) : Except String Exclusion :=
  return ⟨← patterns.mapM fun text => match Pattern.parse? text with
    | some pattern => .ok pattern
    | none => .error text⟩

/-- Whether a path, relative to its project, is left out. -/
def excludes (exclusion : Exclusion) (path : String) : Bool :=
  exclusion.patterns.any (·.isMatch path)

end Exclusion

end Checkup.Glob
