import Checkup.Dependency.Basic

/-!
# Requirements in one text

A requirement names a package and says which versions of it will do. The name ends where the first sign of
anything else stands.
-/

namespace Checkup.Dependency

/-- Whether a character ends the name of a requirement: a comparison, a choice of extras, a condition or a
blank. -/
def endsName (c : Char) : Bool :=
  ['<', '>', '=', '!', '~', ';', '[', ' '].contains c

/-- The name of a requirement and all that follows it. -/
def splitRequirement (cs : List Char) : List Char × List Char :=
  (cs.takeWhile (!endsName ·), cs.dropWhile (!endsName ·))

/-- The dependency that a requirement states. -/
def Entry.ofRequirement (requirement : String) : Entry :=
  let (name, version) := splitRequirement requirement.toList
  ⟨String.ofList (Text.trim name), String.ofList (Text.trim version), false⟩

end Checkup.Dependency
