import ImportCycles.Source.Mask
import ImportCycles.Text.Bytes

/-! # Masking byte by byte

The loop that masks does not know about characters. It goes over the bytes of a source by their
places, one byte after another, and writes spaces into a copy of them. A sign of two bytes is passed
in one round, and so are an escape and the byte after it. A write outside the copy has no result.
-/

namespace ImportCycles

namespace Source

/-- The byte of a character that takes only one. -/
def byte (c : Char) : UInt8 := c.toUInt8

/-- What the byte at some place belongs to. -/
inductive ByteMode where
  | code
  | lineComment
  | blockComment
  /-- A literal that ends with the given byte. -/
  | literal (quote : UInt8)
  deriving DecidableEq, Repr

/-- What is done at one place. -/
structure ByteRound where
  /-- The mode after it. -/
  mode : ByteMode
  /-- How many bytes become spaces, from the place on. -/
  blanked : Nat
  /-- How many bytes are passed besides the one at the place. -/
  skipped : Nat
  deriving DecidableEq, Repr

/-- The round at the byte `b`, which `next` follows. -/
def byteRound (mode : ByteMode) (b : UInt8) (next : Option UInt8) : ByteRound :=
  match mode with
  | .code =>
    if b = byte '/' ∧ next = some (byte '/') then ⟨.lineComment, 2, 1⟩
    else if b = byte '/' ∧ next = some (byte '*') then ⟨.blockComment, 2, 1⟩
    else if b = byte doubleQuote ∨ b = byte singleQuote ∨ b = byte templateQuote then
      ⟨.literal b, 0, 0⟩
    else ⟨.code, 0, 0⟩
  | .lineComment =>
    if b = byte '\n' then ⟨.code, 0, 0⟩ else ⟨.lineComment, 1, 0⟩
  | .blockComment =>
    if b = byte '*' ∧ next = some (byte '/') then ⟨.code, 2, 1⟩
    else if b ≠ byte '\n' then ⟨.blockComment, 1, 0⟩
    else ⟨.blockComment, 0, 0⟩
  | .literal quote =>
    if b = byte escape then
      ⟨.literal quote, if next.any (· != byte '\n') then 2 else 1, 1⟩
    else if b = quote ∨ (b = byte '\n' ∧ quote ≠ byte templateQuote) then ⟨.code, 0, 0⟩
    else if b ≠ byte '\n' then ⟨.literal quote, 1, 0⟩
    else ⟨.literal quote, 0, 0⟩

/-- Writes `n` spaces from a place on; all of them have to lie within the bytes. -/
def writeSpaces? (bytes : List UInt8) (place : Nat) : Nat → Option (List UInt8)
  | 0 => some bytes
  | n + 1 =>
    if place < bytes.length then writeSpaces? (bytes.set place (byte ' ')) (place + 1) n
    else none

/-- Masks the rest of `source` from a place on, where `copy` holds what was written so far. -/
def maskBytesFrom? (source : List UInt8) (mode : ByteMode) (place : Nat) (copy : List UInt8) :
    Option (List UInt8) :=
  if inside : place < source.length then
    let round := byteRound mode source[place] source[place + 1]?
    match writeSpaces? copy place round.blanked with
    | some copy => maskBytesFrom? source round.mode (place + 1 + round.skipped) copy
    | none => none
  else some copy
termination_by source.length - place

/-- The bytes of a source with comments and the insides of literals blanked. -/
def maskBytes? (source : List UInt8) : Option (List UInt8) :=
  maskBytesFrom? source .code 0 source

end Source

end ImportCycles
