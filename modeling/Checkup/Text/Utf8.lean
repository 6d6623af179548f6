/-!
# Bytes as text

Bytes that are not the encoding of any text are read as far as possible: each longest run of bytes that starts
a character but does not complete it becomes one replacement character.
-/

namespace Checkup.Text

/-- The bytes of a text. -/
def encode (text : String) : List UInt8 :=
  text.toUTF8.toList

/-- The character that stands for bytes which are none. -/
def replacement : Char := Char.ofNat 0xFFFD

/-- Whether a byte lies in a range. -/
def inRange (low high : Nat) (b : UInt8) : Bool :=
  low ≤ b.toNat && b.toNat ≤ high

/-- Whether a byte may follow others in a character. -/
def isContinuation (b : UInt8) : Bool :=
  inRange 0x80 0xBF b

/-- For the first byte of a character of several bytes: the bits it gives, the range of the second byte, and
the number of bytes after that. -/
def leading? (b : UInt8) : Option (Nat × Nat × Nat × Nat) :=
  let n := b.toNat
  if 0xC2 ≤ n && n ≤ 0xDF then some (n - 0xC0, 0x80, 0xBF, 0)
  else if n = 0xE0 then some (0, 0xA0, 0xBF, 1)
  else if n = 0xED then some (0xD, 0x80, 0x9F, 1)
  else if 0xE1 ≤ n && n ≤ 0xEF then some (n - 0xE0, 0x80, 0xBF, 1)
  else if n = 0xF0 then some (0, 0x90, 0xBF, 2)
  else if 0xF1 ≤ n && n ≤ 0xF3 then some (n - 0xF0, 0x80, 0xBF, 2)
  else if n = 0xF4 then some (4, 0x80, 0x8F, 2)
  else none

/-- The character of some bits and so many continuation bytes, or its replacement if one is missing, and the
bytes after it. -/
def continued (bits : Nat) : (count : Nat) → List UInt8 → Char × List UInt8
  | 0, bytes => (Char.ofNat bits, bytes)
  | _, [] => (replacement, [])
  | count + 1, b :: rest =>
    if isContinuation b then continued (bits * 64 + b.toNat % 64) count rest else (replacement, b :: rest)

/-- The text of bytes. `fuel` is at least their number. -/
def decodeFrom : (fuel : Nat) → List UInt8 → List Char
  | 0, _ => []
  | _, [] => []
  | fuel + 1, b :: rest =>
    if b.toNat < 0x80 then Char.ofNat b.toNat :: decodeFrom fuel rest
    else
      match leading? b with
      | none => replacement :: decodeFrom fuel rest
      | some (bits, low, high, more) =>
        match rest with
        | [] => [replacement]
        | second :: after =>
          if inRange low high second then
            let (c, after) := continued (bits * 64 + second.toNat % 64) more after
            c :: decodeFrom fuel after
          else replacement :: decodeFrom fuel rest

/-- The text of bytes, with replacements where they make none. -/
def decode (bytes : List UInt8) : List Char :=
  decodeFrom bytes.length bytes

/-- The text of bytes, if they are the encoding of one. -/
def ofBytes? (bytes : List UInt8) : Option String :=
  let cs := decode bytes
  if cs.flatMap String.utf8EncodeChar = bytes then some (String.ofList cs) else none

end Checkup.Text
