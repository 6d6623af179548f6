/-!
# Type-system escapes

Places where code opts out of static checks, by kind.
-/

namespace Checkup.Escapes

/-- The kinds of escapes, in the order in which they are listed. -/
inductive Kind where
  /-- A type that admits everything. -/
  | explicitAny
  /-- A comment that silences the checker at one place. -/
  | ignoreDirective
  /-- A comment that turns the checker off for a whole file. -/
  | noCheck
  | lintDisable
  | unsafeCode
  deriving DecidableEq, Repr

namespace Kind

/-- All kinds, in order. -/
def all : List Kind := [explicitAny, ignoreDirective, noCheck, lintDisable, unsafeCode]

/-- The name of a kind. -/
def name : Kind → String
  | explicitAny => "explicit-any"
  | ignoreDirective => "ignore-directive"
  | noCheck => "no-check"
  | lintDisable => "lint-disable"
  | unsafeCode => "unsafe"

/-- A kind as messages show it. -/
def text : Kind → String
  | explicitAny => "explicit any"
  | ignoreDirective => "ignore directive"
  | noCheck => "nocheck"
  | lintDisable => "lint disable"
  | unsafeCode => "unsafe"

end Kind

/-- One escape: its kind, file and line, counted from one. -/
structure Escape where
  kind : Kind
  path : String
  line : Nat
  deriving DecidableEq, Repr

/-- The escapes of a project. -/
structure Findings where
  escapes : List Escape
  filesScanned : Nat
  totalLines : Nat
  /-- Files that could not be read. -/
  skippedFiles : List String
  deriving DecidableEq, Repr

/-- The number of escapes of one kind. -/
def Findings.count (f : Findings) (kind : Kind) : Nat :=
  (f.escapes.filter (·.kind = kind)).length

end Checkup.Escapes
