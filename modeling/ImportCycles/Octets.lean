import ImportCycles.Text.Bytes

/-! # Strings of bytes

What the file system holds is made of bytes: names, paths and contents. Most of these strings are
texts in UTF-8, but none has to be.
-/

namespace ImportCycles

/-- A string of bytes that is usually a text. -/
@[ext]
structure Octets where raw ::
  bytes : List UInt8
  deriving DecidableEq, Repr, Inhabited

namespace Octets

/-- The bytes of a text in UTF-8. -/
def text (s : String) : Octets := ⟨Text.utf8 s.toList⟩

/-- The bytes of an array. -/
def ofBytes (bytes : ByteArray) : Octets := ⟨bytes.data.toList⟩

instance : Coe String Octets := ⟨text⟩

instance : Coe (List String) (List Octets) := ⟨List.map text⟩

instance : Append Octets := ⟨fun a b => ⟨a.bytes ++ b.bytes⟩⟩

/-- Strings are compared byte by byte. -/
instance : Ord Octets := ⟨compareOn bytes⟩

instance : Std.TransOrd Octets :=
  inferInstanceAs (Std.TransCmp (compareOn bytes))

instance : Std.LawfulEqOrd Octets where
  eq_of_compare {a b} same := by
    obtain ⟨a⟩ := a
    obtain ⟨b⟩ := b
    exact congrArg raw (Std.LawfulEqOrd.eq_of_compare same)

/-- The number of bytes. -/
def size (octets : Octets) : Nat := octets.bytes.length

/-- The text that the bytes spell, if they are a text. -/
def toText? (octets : Octets) : Option String :=
  String.fromUTF8? octets.bytes.toByteArray

variable {octets a b : Octets} {s t : String}

@[simp] theorem bytes_append : (a ++ b).bytes = a.bytes ++ b.bytes := rfl

@[simp] theorem bytes_text_empty : (text "").bytes = [] := rfl

@[simp] theorem empty_append (octets : Octets) : text "" ++ octets = octets := rfl

@[simp] theorem append_empty (octets : Octets) : octets ++ text "" = octets := by
  rw [Octets.ext_iff, bytes_append, bytes_text_empty, List.append_nil]

theorem append_assoc (a b c : Octets) : a ++ b ++ c = a ++ (b ++ c) :=
  congrArg raw (List.append_assoc ..)

theorem eq_text_empty_iff : octets = text "" ↔ octets.bytes = [] := by
  rw [Octets.ext_iff, bytes_text_empty]

theorem text_append (s t : String) : text (s ++ t) = text s ++ text t := by
  rw [text, String.toList_append, Text.utf8, List.flatMap_append]
  rfl

theorem toByteArray_text (s : String) : (text s).bytes.toByteArray = s.toByteArray :=
  String.utf8Encode_toList

@[simp] theorem toText?_text (s : String) : (text s).toText? = some s := by
  rw [toText?, toByteArray_text, String.fromUTF8?, dif_pos s.isValidUTF8]
  rfl

theorem toText?_eq_some_iff : octets.toText? = some s ↔ text s = octets := by
  constructor
  · intro spelled
    unfold toText? String.fromUTF8? at spelled
    split at spelled
    · rename_i valid
      have same := congrArg (·.data.toList) (toByteArray_text (.fromUTF8 _ valid))
      rw [← Option.some.inj spelled, Octets.ext_iff]
      simpa [String.fromUTF8] using same
    · cases spelled
  · rintro rfl
    exact toText?_text s

theorem any_toText?_iff {p : String → Bool} :
    octets.toText?.any p = true ↔ ∃ s, text s = octets ∧ p s = true := by
  simp only [Option.any_eq_true, toText?_eq_some_iff]

@[simp] theorem text_inj : text s = text t ↔ s = t := by
  constructor
  · intro same
    rw [← Option.some.injEq, ← toText?_text s, same, toText?_text]
  · exact congrArg text

/-! Where bytes are no text, each part that breaks off a character is shown as one replacement
character. -/

/-- How many bytes a character has that starts with this one; 0 if none does. -/
def width (first : UInt8) : Nat :=
  if first < 0x80 then 1
  else if first < 0xC2 then 0
  else if first < 0xE0 then 2
  else if first < 0xF0 then 3
  else if first < 0xF5 then 4
  else 0

/-- A byte that can follow others in a character. -/
def continues (byte : UInt8) : Bool := 0x80 ≤ byte && byte < 0xC0

/-- Can a character start with these two bytes? The second one may not make it longer than it needs
to be, a surrogate, or larger than characters are. -/
def starts (first second : UInt8) : Bool :=
  2 ≤ width first && continues second &&
    !(first == 0xE0 && second < 0xA0) && !(first == 0xED && 0xA0 ≤ second) &&
    !(first == 0xF0 && second < 0x90) && !(first == 0xF4 && 0x90 ≤ second)

/-- The bytes that belong to one character with the first one, as far as they are there. -/
def followers (first : UInt8) : List UInt8 → List UInt8
  | [] => []
  | second :: rest =>
    if starts first second then second :: (rest.takeWhile continues).take (width first - 2) else []

/-- The characters that bytes spell, and the parts of characters, after some bytes that belong to the
one before. -/
def parts : Nat → List UInt8 → List (List UInt8)
  | _, [] => []
  | skipped + 1, _ :: rest => parts skipped rest
  | 0, first :: rest =>
    let others := followers first rest
    (first :: others) :: parts others.length rest

/-- The bytes as a text to be read; what breaks off a character in it is replaced. -/
def shown (octets : Octets) : String :=
  octets.toText?.getD <|
    String.join ((parts 0 octets.bytes).map fun part => (raw part).toText?.getD "\uFFFD")

@[simp] theorem shown_text (s : String) : (text s).shown = s := by
  rw [shown, toText?_text, Option.getD_some]

example : (raw [0x66, 0xE1, 0x80, 0x41, 0xED, 0xA0]).shown = "f\uFFFDA\uFFFD\uFFFD" := by
  decide +kernel

end Octets

end ImportCycles
