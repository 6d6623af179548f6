import Checkup.Escapes.Basic
import Checkup.Files.Source
import Checkup.Text.Lines
import Checkup.Text.Search

/-!
# Escapes in a text

Each kind of escape has a pattern, and some kinds are escapes only in certain languages, which are told by
the extension of the file.
-/

namespace Checkup.Escapes

open Checkup.Text

/-- The extensions of files whose language has a type that admits everything. -/
def gradualExtensions : List String := ["ts", "tsx", "vue", "svelte"]

namespace Kind

/-- The pattern of a kind. -/
def pattern : Kind → Pattern
  | explicitAny => firstOf [spaced ":" (wordEnd "any"), wordStart (apart "as" (wordEnd "any")), literal "<any>"]
  | ignoreDirective =>
    firstOf [literal "@ts-ignore", literal "@ts-expect-error", spaced "#" (spaced "type:" (literal "ignore"))]
  | noCheck => literal "@ts-nocheck"
  | lintDisable => firstOf [literal "eslint-disable", literal "#[allow(clippy::", wordEnd "noqa"]
  | unsafeCode => wordStart (spaced "unsafe" (firstOf [literal "\x7b", wordEnd "fn", wordEnd "impl"]))

/-- Whether a kind is an escape in files with an extension. -/
def appliesTo (kind : Kind) (extension : String) : Bool :=
  match kind with
  | explicitAny | noCheck => gradualExtensions.contains extension
  | unsafeCode => extension = "rs"
  | ignoreDirective | lintDisable => true

end Kind

/-- The escapes on one line, by kind. -/
def lineEscapes (path extension : String) (number : Nat) (line : List Char) : List Escape :=
  (Kind.all.filter (·.appliesTo extension)).flatMap fun kind =>
    List.replicate (occurrences kind.pattern line) ⟨kind, path, number⟩

/-- The escapes in a source text, by line and then by kind. -/
def scan (path extension : String) (source : List Char) : List Escape :=
  ((lines source).zipIdx 1).flatMap fun (line, number) => lineEscapes path extension number line

/-- The escapes in a source file and the number of its lines, if it can be read. -/
def scanSource? (source : Files.Source) : Option (List Escape × Nat) :=
  source.text?.map fun text =>
    (scan source.path source.extension text.toList, (lines text.toList).length)

/-- What is found out about source files. -/
def Findings.ofSources (sources : List Files.Source) : Findings :=
  let scanned := sources.filterMap scanSource?
  { escapes := scanned.flatMap (·.1)
    filesScanned := scanned.length
    totalLines := (scanned.map (·.2)).foldr (· + ·) 0
    skippedFiles := Files.unreadable sources }

end Checkup.Escapes
