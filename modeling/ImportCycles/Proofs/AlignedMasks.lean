import ImportCycles.Proofs.Masking
import ImportCycles.Source.ByteMask

/-! # Masked copies are aligned

The loop over the bytes does what the machine over the characters does. In front of each of its
rounds the bytes read so far and the bytes written so far are equally many, and what is left in the
copy are the bytes of the text that is left. No byte of a longer character is taken for a sign, so
a round that reads one character is as many rounds over bytes as the character has of them; only the
first byte of an escaped character is passed together with the escape, and the rest of it follows as
plain bytes of the literal.
-/

namespace ImportCycles

namespace Text

@[simp]
theorem utf8_nil : utf8 [] = [] := rfl

theorem utf8_cons (c : Char) (text : List Char) :
    utf8 (c :: text) = String.utf8EncodeChar c ++ utf8 text := List.flatMap_cons

@[simp]
theorem utf8_append (before after : List Char) :
    utf8 (before ++ after) = utf8 before ++ utf8 after := List.flatMap_append

theorem toByteArray_utf8 (text : List Char) :
    (utf8 text).toByteArray = (String.ofList text).toUTF8 := by
  rw [String.toUTF8_eq_toByteArray, String.toByteArray_ofList]
  rfl

theorem utf8_toList (source : String) : utf8 source.toList = source.toUTF8.data.toList := by
  have bytes := congrArg (·.data.toList) (toByteArray_utf8 source.toList)
  simpa using bytes

end Text

namespace Source

open Text (utf8 utf8_cons byteLength byteLength_append)

theorem utf8Size_eq_one_iff {c : Char} : c.utf8Size = 1 ↔ c.val.toNat ≤ 127 :=
  Char.utf8Size_eq_one_iff.trans UInt32.le_iff_toNat_le

theorem toNat_byte {c : Char} (short : c.utf8Size = 1) : (byte c).toNat = c.val.toNat := by
  have small := utf8Size_eq_one_iff.1 short
  rw [byte, Char.toUInt8, UInt32.toNat_toUInt8, Nat.mod_eq_of_lt (by omega)]

theorem byte_inj {c d : Char} (short : c.utf8Size = 1) (short' : d.utf8Size = 1) :
    byte c = byte d ↔ c = d := by
  refine ⟨fun same => ?_, congrArg byte⟩
  have values := congrArg UInt8.toNat same
  rw [toNat_byte short, toNat_byte short'] at values
  exact Char.ext (UInt32.toNat_inj.1 values)

/-- A byte that belongs to a longer character. -/
def IsHigh (b : UInt8) : Prop := 128 ≤ b.toNat

theorem isHigh_of_mem {c : Char} (long : c.utf8Size ≠ 1) :
    ∀ b ∈ String.utf8EncodeChar c, IsHigh b := by
  have large : ¬ c.val.toNat ≤ 127 := mt utf8Size_eq_one_iff.2 long
  unfold String.utf8EncodeChar IsHigh
  simp only [if_neg large]
  split
  · simp
    omega
  · split <;> simp <;> omega

theorem IsHigh.ne_byte {b : UInt8} (high : IsHigh b) {c : Char} (short : c.utf8Size = 1) :
    b ≠ byte c := by
  rintro rfl
  have small := utf8Size_eq_one_iff.1 short
  rw [IsHigh, toNat_byte short] at high
  omega

/-- Apart from a line feed, no character has the byte of a line feed in front, and behind its first
byte there are only bytes of longer characters. -/
theorem exists_encoding {c : Char} (notFeed : c ≠ '\n') :
    ∃ b more, String.utf8EncodeChar c = b :: more ∧ b ≠ byte '\n' ∧ ∀ e ∈ more, IsHigh e := by
  by_cases short : c.utf8Size = 1
  · exact ⟨byte c, [], String.utf8EncodeChar_eq_singleton short,
      mt (byte_inj short rfl).1 notFeed, List.forall_mem_nil _⟩
  · have high := isHigh_of_mem short
    cases bytes : String.utf8EncodeChar c with
    | nil => exact absurd bytes String.utf8EncodeChar_ne_nil
    | cons b more =>
      simp only [bytes, List.forall_mem_cons] at high
      exact ⟨b, more, rfl, high.1.ne_byte rfl, high.2⟩

theorem feed_notMem_encoding {c : Char} (notFeed : c ≠ '\n') :
    byte '\n' ∉ String.utf8EncodeChar c := by
  obtain ⟨b, more, bytes, first, high⟩ := exists_encoding notFeed
  rw [bytes, List.mem_cons, not_or]
  exact ⟨first.symm, fun mem => (high _ mem).ne_byte rfl rfl⟩

/-- The first byte of a text is that of a short character only if the text starts with it. -/
theorem head?_utf8 {c : Char} (short : c.utf8Size = 1) (text : List Char) :
    (utf8 text).head? = some (byte c) ↔ text.head? = some c := by
  cases text with
  | nil => simp
  | cons d rest =>
    rw [utf8_cons, List.head?_cons]
    by_cases short' : d.utf8Size = 1
    · rw [String.utf8EncodeChar_eq_singleton short', List.singleton_append, List.head?_cons]
      simp only [Option.some.injEq]
      exact byte_inj short' short
    · have high := isHigh_of_mem short'
      cases bytes : String.utf8EncodeChar d with
      | nil => exact absurd bytes String.utf8EncodeChar_ne_nil
      | cons b more =>
        have different := (high b (by simp [bytes])).ne_byte short
        have other : d ≠ c := by
          rintro rfl
          exact short' short
        simp [different, other]

theorem writeSpaces?_append (written : List UInt8) {n : Nat} {rest : List UInt8}
    (fits : n ≤ rest.length) :
    writeSpaces? (written ++ rest) written.length n =
      some (written ++ (List.replicate n (byte ' ') ++ rest.drop n)) := by
  induction n generalizing written rest with
  | zero => simp [writeSpaces?]
  | succ n ih =>
    cases rest with
    | nil => simp at fits
    | cons b rest =>
      have inside : written.length < (written ++ b :: rest).length := by simp
      have wrote : (written ++ b :: rest).set written.length (byte ' ') =
          (written ++ [byte ' ']) ++ rest := by simp
      have further := ih (written ++ [byte ' ']) (Nat.le_of_succ_le_succ fits)
      rw [List.length_append, List.length_singleton] at further
      rw [writeSpaces?, if_pos inside, wrote, further]
      simp [List.replicate_succ]

/-- The loop where it has read some bytes, has written as many and has others left. -/
def proceed (mode : ByteMode) (read written rest : List UInt8) : Option (List UInt8) :=
  maskBytesFrom? (read ++ rest) mode read.length (written ++ rest)

theorem proceed_nil (mode : ByteMode) (read written : List UInt8) :
    proceed mode read written [] = some written := by
  rw [proceed, maskBytesFrom?, dif_neg (by simp), List.append_nil]

section rounds

variable {mode mode' : ByteMode} {read written : List UInt8}

theorem proceed_cons (same : written.length = read.length) {b : UInt8} {rest : List UInt8}
    {n k : Nat}
    (round : byteRound mode b rest.head? = ⟨mode', n, k⟩) (fits : n ≤ (b :: rest).length) :
    proceed mode read written (b :: rest) =
      maskBytesFrom? (read ++ b :: rest) mode' (read.length + 1 + k)
        (written ++ (List.replicate n (byte ' ') ++ (b :: rest).drop n)) := by
  have inside : read.length < (read ++ b :: rest).length := by simp
  have here : (read ++ b :: rest)[read.length] = b := by simp
  have next : (read ++ b :: rest)[read.length + 1]? = rest.head? := by
    rw [List.getElem?_append_right (Nat.le_succ _), List.head?_eq_getElem?]
    simp
  have wrote := writeSpaces?_append written fits
  rw [same] at wrote
  rw [proceed, maskBytesFrom?, dif_pos inside]
  simp only [here, next, round, wrote]

/-- A round passes the bytes it has `taken` and blanks the first of them. -/
theorem proceed_round (same : written.length = read.length) {b : UInt8}
    {rest taken later : List UInt8} {n k : Nat}
    (round : byteRound mode b rest.head? = ⟨mode', n, k⟩) (split : b :: rest = taken ++ later)
    (passed : taken.length = 1 + k) (fits : n ≤ taken.length) :
    proceed mode read written (b :: rest) =
      proceed mode' (read ++ taken)
        (written ++ (List.replicate n (byte ' ') ++ taken.drop n)) later := by
  have enough : n ≤ (b :: rest).length := by
    rw [split, List.length_append]
    omega
  rw [proceed_cons same round enough, proceed, split, List.drop_append_of_le_length fits,
    List.length_append, passed]
  simp only [List.append_assoc, Nat.add_assoc]

/-- An escape at the very end of a source is passed together with a byte that does not exist. -/
theorem proceed_last (same : written.length = read.length) {b : UInt8} {k : Nat}
    (round : byteRound mode b none = ⟨mode', 1, k⟩) :
    proceed mode read written [b] = some (written ++ [byte ' ']) := by
  have beyond : ¬ read.length + 1 + k < (read ++ [b]).length := by
    rw [List.length_append, List.length_singleton]
    omega
  rw [proceed_cons same round (Nat.le_refl _), maskBytesFrom?, dif_neg beyond]
  simp

/-- A byte of a longer character has no meaning in any mode. -/
theorem byteRound_high {b : UInt8} (high : IsHigh b) (next : Option UInt8)
    (ends : ∀ quote, mode = .literal quote → ¬ IsHigh quote) :
    byteRound mode b next = ⟨mode, if mode = .code then 0 else 1, 0⟩ := by
  have other : ∀ {c : Char}, c.utf8Size = 1 → b ≠ byte c := high.ne_byte
  have slash := other (c := '/') rfl
  have star := other (c := '*') rfl
  have feed := other (c := '\n') rfl
  have escape := other (c := escape) rfl
  cases mode with
  | code =>
    have double := other (c := doubleQuote) rfl
    have single := other (c := singleQuote) rfl
    have template := other (c := templateQuote) rfl
    simp [byteRound, slash, double, single, template]
  | lineComment => simp [byteRound, feed]
  | blockComment => simp [byteRound, star, feed]
  | literal quote =>
    have inside : b ≠ quote := by
      rintro rfl
      exact ends b rfl high
    simp [byteRound, escape, feed, inside]

theorem proceed_high (same : written.length = read.length) {bytes : List UInt8}
    (high : ∀ b ∈ bytes, IsHigh b) (ends : ∀ quote, mode = .literal quote → ¬ IsHigh quote)
    (later : List UInt8) :
    proceed mode read written (bytes ++ later) =
      proceed mode (read ++ bytes)
        (written ++ if mode = .code then bytes else List.replicate bytes.length (byte ' '))
        later := by
  induction bytes generalizing read written with
  | nil => simp
  | cons b bytes ih =>
    have first := byteRound_high (high b (by simp)) (bytes ++ later).head? ends
    have split : b :: (bytes ++ later) = [b] ++ (bytes ++ later) := rfl
    have rest : ∀ c ∈ bytes, IsHigh c := fun c mem => high c (List.mem_cons_of_mem b mem)
    by_cases code : mode = .code
    · simp only [if_pos code] at first ih ⊢
      rw [List.cons_append, proceed_round same first split rfl (Nat.zero_le _),
        ih (by simp [same]) rest]
      simp
    · simp only [if_neg code] at first ih ⊢
      rw [List.cons_append, proceed_round same first split rfl (Nat.le_refl _),
        ih (by simp [same]) rest]
      simp [List.replicate_succ]

end rounds

/-- The mode in which the bytes of a text are read. -/
def Mode.bytes : Mode → ByteMode
  | .code => .code
  | .lineComment => .lineComment
  | .blockComment => .blockComment
  | .literal quote => .literal (byte quote)

theorem Mode.bytes_eq_code {mode : Mode} : mode.bytes = .code ↔ mode = .code := by
  cases mode <;> simp [Mode.bytes]

theorem utf8Size_of_startsLiteral {c : Char} (starts : startsLiteral c = true) :
    c.utf8Size = 1 := by
  simp only [startsLiteral, Bool.or_eq_true, beq_iff_eq] at starts
  rcases starts with (rfl | rfl) | rfl <;> rfl

theorem not_isHigh_byte {c : Char} (short : c.utf8Size = 1) : ¬ IsHigh (byte c) :=
  fun high => high.ne_byte short rfl

theorem utf8_cons_short {c : Char} (short : c.utf8Size = 1) (text : List Char) :
    utf8 (c :: text) = byte c :: utf8 text := by
  rw [utf8_cons, String.utf8EncodeChar_eq_singleton short]
  rfl

theorem utf8_replicate_space (n : Nat) :
    utf8 (List.replicate n ' ') = List.replicate n (byte ' ') := by
  induction n with
  | zero => rfl
  | succ n ih => rw [List.replicate_succ, utf8_cons_short rfl, ih, List.replicate_succ]

theorem utf8_blank_of_ne {c : Char} (notFeed : c ≠ '\n') :
    utf8 (blank c) = List.replicate c.utf8Size (byte ' ') := by
  rw [blank, if_neg notFeed, utf8_replicate_space]

namespace Masker

/-- The bytes of what a masker has left lead the loop on like its rounds lead the masker on: what
is written stands in the copy, and as many bytes have been read. -/
def LeadsTo (s : Masker) (chars : List Char) (t : Masker) : Prop :=
  ∀ read written : List UInt8, written.length = read.length →
    ∃ taken : List UInt8, taken.length = (utf8 chars).length ∧
      proceed s.mode.bytes read written (utf8 s.text) =
        proceed t.mode.bytes (read ++ taken) (written ++ utf8 chars) (utf8 t.text)

section

variable {mode mode' : Mode} {c : Char} {rest : List Char}

theorem leadsTo_shown (short : c.utf8Size = 1)
    (round : byteRound mode.bytes (byte c) (utf8 rest).head? = ⟨mode'.bytes, 0, 0⟩) :
    LeadsTo ⟨mode, c :: rest⟩ [c] ⟨mode', rest⟩ := by
  intro read written same
  refine ⟨[byte c], by rw [utf8_cons_short short]; rfl, ?_⟩
  dsimp only
  rw [utf8_cons_short short, utf8_cons_short short]
  exact proceed_round same round rfl rfl (Nat.zero_le _)

theorem leadsTo_blank (short : c.utf8Size = 1)
    (round : byteRound mode.bytes (byte c) (utf8 rest).head? =
      ⟨mode'.bytes, if c = '\n' then 0 else 1, 0⟩) :
    LeadsTo ⟨mode, c :: rest⟩ (blank c) ⟨mode', rest⟩ := by
  by_cases feed : c = '\n'
  · rw [if_pos feed] at round
    rw [blank, if_pos feed, ← feed]
    exact leadsTo_shown short round
  · rw [if_neg feed] at round
    intro read written same
    refine ⟨[byte c], by rw [utf8_blank_of_ne feed, short]; rfl, ?_⟩
    dsimp only
    rw [utf8_cons_short short, utf8_blank_of_ne feed, short]
    exact proceed_round same round rfl rfl (Nat.le_refl _)

/-- A sign of two characters, which blanks them. -/
theorem leadsTo_sign {d : Char} (short : c.utf8Size = 1) (short' : d.utf8Size = 1)
    (round : byteRound mode.bytes (byte c) (some (byte d)) = ⟨mode'.bytes, 2, 1⟩) :
    LeadsTo ⟨mode, c :: d :: rest⟩ [' ', ' '] ⟨mode', rest⟩ := by
  intro read written same
  refine ⟨[byte c, byte d], rfl, ?_⟩
  dsimp only
  rw [utf8_cons_short short, utf8_cons_short short']
  exact proceed_round same round rfl rfl (Nat.le_refl _)

theorem not_isHigh_of_regular {text : List Char} (regular : Regular ⟨mode, text⟩) :
    ∀ quote, mode.bytes = .literal quote → ¬ IsHigh quote := by
  intro quote literal
  cases mode <;> simp only [Mode.bytes, reduceCtorEq, ByteMode.literal.injEq] at literal
  subst literal
  exact not_isHigh_byte (utf8Size_of_startsLiteral (regular _ rfl))

theorem leadsTo_long (long : c.utf8Size ≠ 1) (regular : Regular ⟨mode, c :: rest⟩) :
    LeadsTo ⟨mode, c :: rest⟩ (if mode = .code then [c] else blank c) ⟨mode, rest⟩ := by
  have notFeed : c ≠ '\n' := by
    rintro rfl
    exact long rfl
  intro read written same
  refine ⟨String.utf8EncodeChar c, ?_, ?_⟩
  · split
    · simp [utf8_cons]
    · simp [utf8_blank_of_ne notFeed]
  · dsimp only
    rw [utf8_cons, proceed_high same (isHigh_of_mem long) (not_isHigh_of_regular regular)]
    simp only [Mode.bytes_eq_code]
    split
    · simp [utf8_cons]
    · simp [utf8_blank_of_ne notFeed]

theorem leadsTo_code (notLine : ¬(c = '/' ∧ rest.head? = some '/'))
    (notBlock : ¬(c = '/' ∧ rest.head? = some '*')) :
    LeadsTo ⟨.code, c :: rest⟩ [c] ⟨if startsLiteral c then .literal c else .code, rest⟩ := by
  by_cases short : c.utf8Size = 1
  · refine leadsTo_shown short ?_
    have slash : byte c = byte '/' ↔ c = '/' := byte_inj short rfl
    have double : byte c = byte doubleQuote ↔ c = doubleQuote := byte_inj short rfl
    have single : byte c = byte singleQuote ↔ c = singleQuote := byte_inj short rfl
    have template : byte c = byte templateQuote ↔ c = templateQuote := byte_inj short rfl
    have line : (utf8 rest).head? = some (byte '/') ↔ rest.head? = some '/' := head?_utf8 rfl rest
    have block : (utf8 rest).head? = some (byte '*') ↔ rest.head? = some '*' := head?_utf8 rfl rest
    simp only [Mode.bytes, byteRound, slash, line, block, double, single, template, if_neg notLine,
      if_neg notBlock, startsLiteral, Bool.or_eq_true, beq_iff_eq, or_assoc]
    split <;> rfl
  · have plain : startsLiteral c = false := by
      cases starts : startsLiteral c with
      | false => rfl
      | true => exact absurd (utf8Size_of_startsLiteral starts) short
    simpa [plain] using leadsTo_long short (regular_code (c :: rest))

theorem leadsTo_lineComment :
    LeadsTo ⟨.lineComment, c :: rest⟩ (blank c)
      ⟨if c = '\n' then .code else .lineComment, rest⟩ := by
  by_cases short : c.utf8Size = 1
  · refine leadsTo_blank short ?_
    have feed : byte c = byte '\n' ↔ c = '\n' := byte_inj short rfl
    simp only [Mode.bytes, byteRound, feed]
    split <;> rfl
  · have notFeed : c ≠ '\n' := by
      rintro rfl
      exact short rfl
    rw [if_neg notFeed]
    exact leadsTo_long short nofun

theorem leadsTo_blockComment (open' : ¬(c = '*' ∧ rest.head? = some '/')) :
    LeadsTo ⟨.blockComment, c :: rest⟩ (blank c) ⟨.blockComment, rest⟩ := by
  by_cases short : c.utf8Size = 1
  · refine leadsTo_blank short ?_
    have star : byte c = byte '*' ↔ c = '*' := byte_inj short rfl
    have feed : byte c = byte '\n' ↔ c = '\n' := byte_inj short rfl
    have slash : (utf8 rest).head? = some (byte '/') ↔ rest.head? = some '/' := head?_utf8 rfl rest
    simp only [Mode.bytes, byteRound, star, slash, if_neg open', ne_eq, feed, ite_not]
    split <;> rfl
  · exact leadsTo_long short nofun

/-- A character of a literal that is not an escape. -/
theorem leadsTo_literal {quote : Char} (regular : startsLiteral quote = true)
    (notEscape : c ≠ escape) :
    LeadsTo ⟨.literal quote, c :: rest⟩ (if c = quote then [c] else blank c)
      ⟨afterLiteralChar quote c, rest⟩ := by
  have quoteShort := utf8Size_of_startsLiteral regular
  by_cases short : c.utf8Size = 1
  · have escaped : byte c ≠ byte escape := mt (byte_inj short rfl).1 notEscape
    by_cases closes : c = quote
    · subst closes
      rw [if_pos rfl]
      refine leadsTo_shown short ?_
      simp [Mode.bytes, byteRound, escaped, afterLiteralChar]
    · have inside : byte c ≠ byte quote := mt (byte_inj short quoteShort).1 closes
      rw [if_neg closes]
      refine leadsTo_blank short ?_
      by_cases feed : c = '\n'
      · subst feed
        by_cases template : quote = templateQuote
        · subst template
          rfl
        · have other : byte quote ≠ byte templateQuote := mt (byte_inj quoteShort rfl).1 template
          simp [Mode.bytes, byteRound, escaped, other, template, afterLiteralChar]
      · have notFeed : byte c ≠ byte '\n' := mt (byte_inj short rfl).1 feed
        simp [Mode.bytes, byteRound, escaped, inside, feed, notFeed, afterLiteralChar, closes]
  · have closes : c ≠ quote := by
      rintro rfl
      exact short quoteShort
    have notFeed : c ≠ '\n' := by
      rintro rfl
      exact short rfl
    have stays : afterLiteralChar quote c = .literal quote := by
      simp [afterLiteralChar, closes, notFeed]
    rw [if_neg closes, stays]
    exact leadsTo_long short (by rintro _ ⟨⟩; exact regular)

theorem byteRound_escape (quote : Char) (next : UInt8) :
    byteRound (Mode.literal quote).bytes (byte escape) (some next) =
      ⟨(Mode.literal quote).bytes, if next = byte '\n' then 1 else 2, 1⟩ := by
  by_cases feed : next = byte '\n' <;> simp [Mode.bytes, byteRound, feed]

/-- An escape and the character after it. The loop passes the first byte of that character together
with the escape and blanks the others in the literal. -/
theorem leadsTo_escaped {quote d : Char} (regular : Regular ⟨.literal quote, rest⟩) :
    LeadsTo ⟨.literal quote, escape :: d :: rest⟩ (' ' :: blank d) ⟨.literal quote, rest⟩ := by
  intro read written same
  by_cases feed : d = '\n'
  · subst feed
    have round := byteRound_escape quote (byte '\n')
    have one : 1 ≤ [byte escape, byte '\n'].length := by decide
    refine ⟨[byte escape, byte '\n'], rfl, ?_⟩
    dsimp only
    rw [utf8_cons_short rfl, utf8_cons_short rfl]
    exact proceed_round same round rfl rfl one
  · obtain ⟨b, more, bytes, notFeed, high⟩ := exists_encoding feed
    have size : d.utf8Size = more.length + 1 := by
      rw [← String.length_utf8EncodeChar, bytes, List.length_cons]
    have round := byteRound_escape quote b
    rw [if_neg notFeed] at round
    have pair : byte escape :: b :: (more ++ utf8 rest) =
      [byte escape, b] ++ (more ++ utf8 rest) := rfl
    refine ⟨byte escape :: b :: more, ?_, ?_⟩
    · rw [utf8_cons_short rfl, utf8_blank_of_ne feed, size]
      simp
    · dsimp only
      rw [utf8_cons_short rfl, utf8_cons, bytes, utf8_cons_short rfl, utf8_blank_of_ne feed, size,
        List.cons_append, proceed_round same round pair rfl (Nat.le_refl _),
        proceed_high (by simp [same]) high (not_isHigh_of_regular regular)]
      simp [Mode.bytes, List.replicate_succ]

theorem leadsTo_lastEscape (quote : Char) :
    LeadsTo ⟨.literal quote, [escape]⟩ [' '] ⟨.literal quote, []⟩ := by
  intro read written same
  refine ⟨[byte escape], rfl, ?_⟩
  dsimp only
  rw [utf8_cons_short rfl, Text.utf8_nil, proceed_nil, proceed_last same rfl]
  rfl

theorem leadsTo_of_next? {s t : Masker} {chars : List Char} (regular : s.Regular)
    (round : s.next? = some (chars, t)) : LeadsTo s chars t := by
  obtain ⟨mode, text⟩ := s
  cases text with
  | nil => cases round
  | cons c rest =>
    cases mode with
    | code =>
      simp only [next?] at round
      split at round
      · rename_i line
        obtain ⟨rfl, second⟩ := line
        obtain ⟨rest', rfl⟩ := List.head?_eq_some_iff.1 second
        cases round
        exact leadsTo_sign rfl rfl rfl
      · split at round
        · rename_i block
          obtain ⟨rfl, second⟩ := block
          obtain ⟨rest', rfl⟩ := List.head?_eq_some_iff.1 second
          cases round
          exact leadsTo_sign rfl rfl rfl
        · rename_i notLine notBlock
          cases round
          exact leadsTo_code notLine notBlock
    | lineComment =>
      cases round
      exact leadsTo_lineComment
    | blockComment =>
      simp only [next?] at round
      split at round
      · rename_i closes
        obtain ⟨rfl, second⟩ := closes
        obtain ⟨rest', rfl⟩ := List.head?_eq_some_iff.1 second
        cases round
        exact leadsTo_sign rfl rfl rfl
      · rename_i stays
        cases round
        exact leadsTo_blockComment stays
    | literal quote =>
      have starts := regular quote rfl
      by_cases escaped : c = escape
      · subst escaped
        cases rest with
        | nil =>
          have notQuote : escape ≠ quote := by
            rintro rfl
            cases starts
          have notFeed : escape ≠ '\n' := by decide
          have stays : afterLiteralChar quote escape = .literal quote := by
            simp [afterLiteralChar, notQuote, notFeed]
          simp only [next?, if_neg notQuote, stays] at round
          cases round
          exact leadsTo_lastEscape quote
        | cons d rest =>
          simp only [next?, if_true] at round
          cases round
          exact leadsTo_escaped regular
      · rw [next?_literal quote escaped] at round
        cases round
        exact leadsTo_literal starts escaped

end

theorem text_of_next?_eq_none {s : Masker} (last : s.next? = none) : s.text = [] := by
  obtain ⟨mode, text⟩ := s
  cases text with
  | nil => rfl
  | cons c rest => cases mode <;> cases rest <;> grind [next?]

/-- The loop writes what the masker writes. -/
theorem proceed_masked {s : Masker} (regular : s.Regular) {read written : List UInt8}
    (same : written.length = read.length) :
    proceed s.mode.bytes read written (utf8 s.text) = some (written ++ utf8 s.masked) := by
  -- a round may read two characters, so the induction is on the length of what is left
  induction size : s.text.length using Nat.strongRecOn generalizing s read written with
  | ind n ih =>
    cases next : s.next? with
    | none =>
      have done := text_of_next?_eq_none next
      rw [masked_eq, next, done, Text.utf8_nil, proceed_nil, List.append_nil]
    | some round =>
      obtain ⟨chars, t⟩ := round
      obtain ⟨c, passed, text, -⟩ := read_of_next? next
      have shorter : t.text.length < n := by
        rw [← size, text]
        simp only [List.cons_append, List.length_cons, List.length_append]
        omega
      have single : Run (fun _ => True) s chars t := .single trivial next
      have regular' := single.regular regular
      obtain ⟨taken, equal, step⟩ := leadsTo_of_next? regular next read written same
      have same' : (written ++ utf8 chars).length = (read ++ taken).length := by
        rw [List.length_append, List.length_append, same, equal]
      rw [step, ih _ shorter regular' same' rfl, masked_of_next? next, Text.utf8_append,
        List.append_assoc]

end Masker

/-- A text and a copy of it in which some characters other than line feeds are blanked. -/
inductive Blanked : List Char → List Char → Prop
  | nil : Blanked [] []
  | kept {text copy : List Char} (c : Char) (rest : Blanked text copy) :
      Blanked (c :: text) (c :: copy)
  | spaces {text copy : List Char} {c : Char} (notFeed : c ≠ '\n') (rest : Blanked text copy) :
      Blanked (c :: text) (List.replicate c.utf8Size ' ' ++ copy)

namespace Blanked

variable {text copy : List Char}

theorem blank (c : Char) (rest : Blanked text copy) :
    Blanked (c :: text) (Source.blank c ++ copy) := by
  unfold Source.blank
  split
  · rename_i feed
    rw [List.singleton_append, ← feed]
    exact rest.kept c
  · rename_i notFeed
    exact rest.spaces notFeed

theorem space {c : Char} (short : c.utf8Size = 1) (notFeed : c ≠ '\n') (rest : Blanked text copy) :
    Blanked (c :: text) (' ' :: copy) := by
  have spaces := rest.spaces notFeed
  rw [short] at spaces
  exact spaces

theorem last (c : Char) : Blanked [c] (Source.blank c) := by
  have blanked := Blanked.nil.blank c
  rwa [List.append_nil] at blanked

theorem literal (quote c : Char) (rest : Blanked text copy) :
    Blanked (c :: text) ((if c = quote then [c] else Source.blank c) ++ copy) := by
  split
  · exact rest.kept c
  · exact rest.blank c

end Blanked

theorem blanked_maskFrom (mode : Mode) (text : List Char) : Blanked text (maskFrom mode text) := by
  fun_induction maskFrom mode text with
  | case1 => exact .nil
  | case2 c => exact Blanked.nil.kept c
  | case3 c d rest sign ih | case4 c d rest _ sign ih | case8 c d rest sign ih =>
    obtain ⟨rfl, rfl⟩ := sign
    exact (ih.space rfl (by decide)).space rfl (by decide)
  | case5 c d rest _ _ ih => exact ih.kept c
  | case6 c rest ih => exact ih.blank c
  | case7 c => exact .last c
  | case9 c d rest _ ih => exact ih.blank c
  | case10 c => exact Blanked.nil.kept c
  | case11 quote c => exact .last c
  | case12 quote d rest ih => exact (ih.blank d).space rfl (by decide)
  | case13 quote c d rest _ ih => exact ih.literal quote c

/-- A copy of the bytes of a text is aligned with it: it is as long, differs from the text only by
spaces, has the same line feeds, and of every character it has all bytes or none. -/
structure Aligned (text : List Char) (copy : List UInt8) : Prop where
  length : copy.length = (utf8 text).length
  bytes : ∀ i : Nat, copy[i]? = (utf8 text)[i]? ∨ copy[i]? = some (byte ' ')
  feeds : ∀ i : Nat, copy[i]? = some (byte '\n') ↔ (utf8 text)[i]? = some (byte '\n')
  whole : ∀ before c after, text = before ++ c :: after →
    (copy.drop (byteLength before)).take c.utf8Size = String.utf8EncodeChar c ∨
      (copy.drop (byteLength before)).take c.utf8Size = List.replicate c.utf8Size (byte ' ')

theorem aligned_nil : Aligned [] [] where
  length := rfl
  bytes _ := .inl rfl
  feeds _ := Iff.rfl
  whole before c after split := by simp at split

theorem Aligned.cons {text : List Char} {copy chunk : List UInt8} {c : Char}
    (aligned : Aligned text copy)
    (same : chunk = String.utf8EncodeChar c ∨
      c ≠ '\n' ∧ chunk = List.replicate c.utf8Size (byte ' ')) :
    Aligned (c :: text) (chunk ++ copy) := by
  have size : chunk.length = c.utf8Size := by
    rcases same with rfl | ⟨-, rfl⟩
    · exact String.length_utf8EncodeChar c
    · exact List.length_replicate
  have enc : (String.utf8EncodeChar c).length = c.utf8Size := String.length_utf8EncodeChar c
  -- a place lies either in the bytes of this character or in those of the rest
  have here : ∀ i < c.utf8Size, (chunk ++ copy)[i]? = chunk[i]? ∧
      (utf8 (c :: text))[i]? = (String.utf8EncodeChar c)[i]? := by
    intro i inside
    rw [utf8_cons]
    exact ⟨List.getElem?_append_left (by omega), List.getElem?_append_left (by omega)⟩
  have later : ∀ i, ¬ i < c.utf8Size → (chunk ++ copy)[i]? = copy[i - c.utf8Size]? ∧
      (utf8 (c :: text))[i]? = (utf8 text)[i - c.utf8Size]? := by
    intro i outside
    rw [utf8_cons, List.getElem?_append_right (by omega), List.getElem?_append_right (by omega),
      size, enc]
    exact ⟨rfl, rfl⟩
  refine ⟨?_, ?_, ?_, ?_⟩
  · rw [utf8_cons, List.length_append, List.length_append, size, enc, aligned.length]
  · intro i
    by_cases inside : i < c.utf8Size
    · rw [(here i inside).1, (here i inside).2]
      rcases same with rfl | ⟨-, rfl⟩
      · exact .inl rfl
      · exact .inr (List.getElem?_replicate_of_lt inside)
    · rw [(later i inside).1, (later i inside).2]
      exact aligned.bytes (i - c.utf8Size)
  · intro i
    by_cases inside : i < c.utf8Size
    · rw [(here i inside).1, (here i inside).2]
      rcases same with rfl | ⟨notFeed, rfl⟩
      · exact Iff.rfl
      · have space : (List.replicate c.utf8Size (byte ' '))[i]? ≠ some (byte '\n') := by
          rw [List.getElem?_replicate_of_lt inside]
          decide
        have other : (String.utf8EncodeChar c)[i]? ≠ some (byte '\n') :=
          fun feed => feed_notMem_encoding notFeed (List.mem_of_getElem? feed)
        exact iff_of_false space other
    · rw [(later i inside).1, (later i inside).2]
      exact aligned.feeds (i - c.utf8Size)
  · intro before d after split
    cases before with
    | nil =>
      cases split
      have all : (chunk ++ copy).take c.utf8Size = chunk := by
        rw [← size, List.take_left']
        rfl
      simp only [byteLength, List.drop_zero, all]
      exact same.imp_right And.right
    | cons e before =>
      cases split
      have dropped : (chunk ++ copy).drop (byteLength (c :: before)) =
          copy.drop (byteLength before) := by
        rw [byteLength, ← size, List.drop_append]
        simp
      rw [dropped]
      exact aligned.whole before d after rfl

theorem Blanked.aligned {text copy : List Char} (blanked : Blanked text copy) :
    Aligned text (utf8 copy) := by
  induction blanked with
  | nil => exact aligned_nil
  | kept c rest ih =>
    rw [utf8_cons]
    exact ih.cons (.inl rfl)
  | spaces notFeed rest ih =>
    rw [Text.utf8_append, utf8_replicate_space]
    exact ih.cons (.inr ⟨notFeed, rfl⟩)

end Source

open Source in
/-- The loop that masks never leaves the bytes of the source, and what it gives are the bytes of the
masked text, aligned with the source. -/
theorem mask_keeps_alignment (source : String) :
    ∃ copy, maskBytes? source.toUTF8.data.toList = some copy ∧
      String.fromUTF8? copy.toByteArray = some (String.ofList (mask source.toList)) ∧
      Aligned source.toList copy := by
  refine ⟨Text.utf8 (mask source.toList), ?_, ?_, (blanked_maskFrom .code source.toList).aligned⟩
  · have same : ([] : List UInt8).length = ([] : List UInt8).length := rfl
    rw [← Text.utf8_toList]
    exact Masker.proceed_masked (Masker.regular_code source.toList) same
  · rw [Text.toByteArray_utf8]
    exact dif_pos (String.ofList (mask source.toList)).isValidUTF8

end ImportCycles
