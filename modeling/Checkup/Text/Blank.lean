/-!
# Blank characters

The white-space characters of Unicode, and what a text is without them at its ends.

* `trim` — a text without the blanks at both ends.
* `collapseBlanks` — a text in which every run of blanks is one space.
-/

namespace Checkup.Text

/-- Whether `c` is a white-space character. -/
def isBlank (c : Char) : Bool :=
  let n := c.toNat
  (9 ≤ n && n ≤ 13) || n == 32 || n == 0x85 || n == 0xA0 || n == 0x1680 || (0x2000 ≤ n && n ≤ 0x200A)
    || n == 0x2028 || n == 0x2029 || n == 0x202F || n == 0x205F || n == 0x3000

/-- A text without the blanks at its start. -/
def trimStart (cs : List Char) : List Char :=
  cs.dropWhile isBlank

/-- A text without the blanks at its end. -/
def trimEnd (cs : List Char) : List Char :=
  (cs.reverse.dropWhile isBlank).reverse

/-- A text without the blanks at both ends. -/
def trim (cs : List Char) : List Char :=
  trimEnd (trimStart cs)

/-- The text `cs`, standing after a blank that is already written or not, with every run of blanks made one
space. -/
def collapseBlanksAfter (afterBlank : Bool) : List Char → List Char
  | [] => []
  | c :: rest =>
    if isBlank c then
      if afterBlank then collapseBlanksAfter true rest else ' ' :: collapseBlanksAfter true rest
    else c :: collapseBlanksAfter false rest

/-- A text in which every run of blanks is one space. -/
def collapseBlanks (cs : List Char) : List Char :=
  collapseBlanksAfter false cs

/-- The maximal runs of characters that are not blank, in order. -/
def fields (cs : List Char) : List (List Char) :=
  go [] cs
where
  /-- The fields of a text that stands after the reversed characters of an unfinished field. -/
  go (field : List Char) : List Char → List (List Char)
    | [] => if field.isEmpty then [] else [field.reverse]
    | c :: rest =>
      if isBlank c then
        if field.isEmpty then go [] rest else field.reverse :: go [] rest
      else go (c :: field) rest

end Checkup.Text
