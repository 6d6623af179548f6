import Checkup.Complexity.Basic
import Checkup.Complexity.Branches.C
import Checkup.Complexity.Branches.Java
import Checkup.Complexity.Branches.Python
import Checkup.Complexity.Branches.Rust
import Checkup.Complexity.Branches.Scala
import Checkup.Complexity.Branches.Script
import Checkup.Complexity.Branches.Swift
import Checkup.Complexity.Estimate
import Checkup.Files.Path

/-!
# Complexity by language

The complexity of a program is one more than the number of its branches, where the extension tells its
language, and is estimated from the text otherwise.

What is a branch is a matter of the grammar of the language. Programs are not parsed here: for each language a
scanner reads the tokens, follows the brackets, and tells from the tokens around a word or a sign which of its
meanings it has. So the number is approximate where only a whole parse can tell:

* for signs with several meanings, such as a question mark of TypeScript that may mark an optional member, a
  slash of JavaScript that may begin a pattern, and a doubled ampersand of C++ or Rust that may make references;
* for words that are keywords in some places only, such as those of a match in Python or of a label in Swift;
* for macros, and for what the directives of C leave out;
* for texts that are no programs of the language, from which each parser recovers in its own way.
-/

namespace Checkup.Complexity

/-- How the branches of a program are counted, by its extension. -/
def branchCount? (extension : String) : Option (List Char → Nat) :=
  match extension with
  | "ts" => some (Branches.script true false)
  | "tsx" | "jsx" => some (Branches.script true true)
  | "js" | "mjs" | "cjs" => some (Branches.script false true)
  | "py" => some Branches.python
  | "go" => some Branches.go
  | "rs" => some Branches.rust
  | "java" => some Branches.java
  | "c" | "h" => some Branches.c
  | "cpp" | "hpp" => some Branches.cpp
  | "scala" => some Branches.scala
  | "swift" => some Branches.swift
  | _ => none

/-- The complexity of a program in a known language. -/
def ofSyntax? (extension : String) (source : List Char) : Option Nat :=
  (branchCount? extension).map fun count => 1 + count source

/-- The complexity of a file. -/
def ofSource (extension : String) (source : List Char) : Nat :=
  (ofSyntax? extension source).getD (estimate source)

end Checkup.Complexity
