/-! # The bytes of texts

Offsets into a text count the bytes of its encoding: a character takes one to four of them. A cut
inside a character is no cut.
-/

namespace ImportCycles.Text

/-- The bytes of a text. -/
def utf8 (text : List Char) : List UInt8 :=
  text.flatMap String.utf8EncodeChar

/-- The number of bytes that a text takes. -/
def byteLength : List Char → Nat
  | [] => 0
  | c :: rest => c.utf8Size + byteLength rest

/-- The text after its first `n` bytes. -/
def dropBytes? : Nat → List Char → Option (List Char)
  | 0, text => some text
  | _ + 1, [] => none
  | n + 1, c :: rest => if c.utf8Size ≤ n + 1 then dropBytes? (n + 1 - c.utf8Size) rest else none

/-- The first `n` bytes of a text. -/
def takeBytes? : Nat → List Char → Option (List Char)
  | 0, _ => some []
  | _ + 1, [] => none
  | n + 1, c :: rest =>
    if c.utf8Size ≤ n + 1 then (takeBytes? (n + 1 - c.utf8Size) rest).map (c :: ·) else none

/-- A text cut at byte `n`, or in front of the character in which that byte lies. -/
def splitBytes (n : Nat) : List Char → List Char × List Char
  | [] => ([], [])
  | c :: rest =>
    if c.utf8Size ≤ n then
      let (before, after) := splitBytes (n - c.utf8Size) rest
      (c :: before, after)
    else ([], c :: rest)

/-- The text from byte `start` up to byte `stop`, if these are two ends in that order. -/
def slice? (text : List Char) (start stop : Nat) : Option (List Char) :=
  if start ≤ stop then (dropBytes? start text).bind (takeBytes? (stop - start)) else none

/-- The line and column of the character at byte `offset`, both counted from one. A line ends with
its line feed, and columns count characters. -/
def position (text : List Char) (offset : Nat) : Nat × Nat :=
  let before := (takeBytes? offset text).getD text
  (1 + before.count '\n', 1 + (before.reverse.takeWhile (· ≠ '\n')).length)

end ImportCycles.Text
