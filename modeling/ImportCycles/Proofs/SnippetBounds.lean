import ImportCycles.Diagnostic
import ImportCycles.Proofs.LinePositions

/-! # What a snippet shows

A location names the bytes of its source from its offset on, as many as its length says; what would
lie behind the source is left out. The snippet of a diagnostic is the part that its location names,
as long as offset and length add up to a word of 64 bits. A larger sum is counted from zero again.
That takes the end of the part in front of its start, so nothing is shown at all, whatever the
location names.
-/

namespace ImportCycles

namespace Text

/-! ### Cuts -/

section Cuts

variable {text rest front middle : List Char} {source : String} {n start stop : Nat}

theorem dropBytes?_eq_some_iff :
    dropBytes? n text = some rest ↔ ∃ before, text = before ++ rest ∧ byteLength before = n := by
  constructor
  · intro dropped
    fun_induction dropBytes? n text with
    | case1 text =>
      cases dropped
      exact ⟨[], rfl, rfl⟩
    | case2 => cases dropped
    | case3 n c text fits ih =>
      obtain ⟨before, rfl, size⟩ := ih dropped
      refine ⟨c :: before, rfl, ?_⟩
      rw [byteLength, size]
      omega
    | case4 => cases dropped
  · rintro ⟨before, rfl, rfl⟩
    exact dropBytes?_byteLength before rest

theorem takeBytes?_eq_some_iff :
    takeBytes? n text = some front ↔ ∃ after, text = front ++ after ∧ byteLength front = n := by
  constructor
  · intro taken
    fun_induction takeBytes? n text generalizing front with
    | case1 text =>
      cases taken
      exact ⟨text, rfl, rfl⟩
    | case2 => cases taken
    | case3 n c text fits ih =>
      obtain ⟨front, further, rfl⟩ := Option.map_eq_some_iff.1 taken
      obtain ⟨after, rfl, size⟩ := ih further
      refine ⟨after, rfl, ?_⟩
      rw [byteLength, size]
      omega
    | case4 => cases taken
  · rintro ⟨after, rfl, rfl⟩
    exact takeBytes?_byteLength front after

/-- What a slice gives is the part of the text between two others. -/
theorem slice?_eq_some_iff :
    slice? text start stop = some middle ↔
      ∃ before after, text = before ++ (middle ++ after) ∧ byteLength before = start ∧
        byteLength before + byteLength middle = stop := by
  constructor
  · intro cut
    rw [slice?, Option.ite_none_right_eq_some] at cut
    obtain ⟨ordered, cut⟩ := cut
    obtain ⟨rest, dropped, taken⟩ := Option.bind_eq_some_iff.1 cut
    obtain ⟨before, rfl, rfl⟩ := dropBytes?_eq_some_iff.1 dropped
    obtain ⟨after, rfl, size⟩ := takeBytes?_eq_some_iff.1 taken
    exact ⟨before, after, rfl, rfl, by omega⟩
  · rintro ⟨before, after, rfl, rfl, rfl⟩
    exact slice?_byteLength before middle after

/-- The places that lie in no character are those behind the beginnings of a source. -/
theorem isValid_iff_exists_split :
    (String.Pos.Raw.mk n).IsValid source ↔
      ∃ before after, source.toList = before ++ after ∧ byteLength before = n := by
  rw [String.Pos.Raw.isValid_iff_exists_append]
  constructor
  · rintro ⟨before, after, rfl, place⟩
    refine ⟨before.toList, after.toList, String.toList_append, ?_⟩
    rw [byteLength_toList]
    exact (congrArg String.Pos.Raw.byteIdx place).symm
  · rintro ⟨before, after, split, rfl⟩
    refine ⟨.ofList before, .ofList after, ?_, ?_⟩
    · rw [← String.ofList_append, ← split, String.ofList_toList]
    · rw [← byteLength_ofList]
      rfl

/-- Of two beginnings of a text the longer one goes on where the other one ends. -/
theorem exists_append_of_byteLength_le {before after : List Char}
    (same : before ++ rest = front ++ after) (shorter : byteLength before ≤ byteLength front) :
    ∃ middle, front = before ++ middle ∧ rest = middle ++ after := by
  rcases List.append_eq_append_iff.1 same with ⟨middle, longer, left⟩ | ⟨more, rfl, rfl⟩
  · exact ⟨middle, longer, left⟩
  · rw [byteLength_append] at shorter
    obtain rfl := byteLength_eq_zero (by omega : byteLength more = 0)
    exact ⟨[], by rw [List.append_nil, List.append_nil], rfl⟩

theorem isValid_of_slice? (cut : slice? source.toList start stop = some middle) :
    (String.Pos.Raw.mk start).IsValid source ∧ (String.Pos.Raw.mk stop).IsValid source := by
  obtain ⟨before, after, split, starts, stops⟩ := slice?_eq_some_iff.1 cut
  refine ⟨isValid_iff_exists_split.2 ⟨before, middle ++ after, split, starts⟩,
    isValid_iff_exists_split.2 ⟨before ++ middle, after, ?_, ?_⟩⟩
  · rw [split, List.append_assoc]
  · rw [byteLength_append, stops]

/-- Between two places that lie in no character there is a slice. -/
theorem exists_slice? (starts : (String.Pos.Raw.mk start).IsValid source)
    (stops : (String.Pos.Raw.mk stop).IsValid source) (ordered : start ≤ stop) :
    ∃ middle, slice? source.toList start stop = some middle := by
  obtain ⟨before, rest, split, rfl⟩ := isValid_iff_exists_split.1 starts
  obtain ⟨front, after, split', rfl⟩ := isValid_iff_exists_split.1 stops
  obtain ⟨middle, rfl, rfl⟩ := exists_append_of_byteLength_le (split.symm.trans split') ordered
  exact ⟨middle, slice?_eq_some_iff.2 ⟨before, after, split, rfl, (byteLength_append _ _).symm⟩⟩

theorem extract_append_append (before middle after : ByteArray) :
    (before ++ (middle ++ after)).extract before.size (before.size + middle.size) = middle :=
  calc
    _ = (middle ++ after).extract 0 middle.size := ByteArray.extract_append_size_add
    _ = middle := ByteArray.extract_append_eq_left rfl

/-- A slice takes its bytes from those of the source. -/
theorem toByteArray_of_slice? (cut : slice? source.toList start stop = some middle) :
    (String.ofList middle).toByteArray = source.toByteArray.extract start stop := by
  obtain ⟨before, after, split, rfl, rfl⟩ := slice?_eq_some_iff.1 cut
  have joined : source = .ofList before ++ (.ofList middle ++ .ofList after) := by
    rw [← String.ofList_append, ← String.ofList_append, ← split, String.ofList_toList]
  have size : ∀ text, byteLength text = (String.ofList text).toByteArray.size := fun text =>
    (byteLength_ofList text).symm
  rw [joined, String.toByteArray_append, String.toByteArray_append, size before, size middle,
    extract_append_append]

end Cuts

/-! ### Parts -/

/-- What stands in a source from byte `start` up to byte `stop`: these bytes, or nothing if one of
the two places lies inside a character. -/
structure IsPart (source : String) (start stop : Nat) (part : String) : Prop where
  bytes : (String.Pos.Raw.mk start).IsValid source → (String.Pos.Raw.mk stop).IsValid source →
    part.toByteArray = source.toByteArray.extract start stop
  nothing : ¬ ((String.Pos.Raw.mk start).IsValid source ∧
    (String.Pos.Raw.mk stop).IsValid source) → part = ""

section Parts

variable {source part : String} {start stop : Nat}

/-- No byte stands between two places the other way round. -/
theorem extract_of_le (bytes : ByteArray) (backwards : stop ≤ start) :
    bytes.extract start stop = ByteArray.empty :=
  ByteArray.extract_eq_empty_iff.2 (Nat.le_trans (Nat.min_le_left _ _) backwards)

/-- A slice is the part between its ends. Where there is no slice, one of the ends lies inside a
character or they stand the other way round. -/
theorem isPart_slice? (source : String) (start stop : Nat) :
    IsPart source start stop (.ofList ((slice? source.toList start stop).getD [])) := by
  cases cut : slice? source.toList start stop with
  | some middle =>
    refine ⟨fun _ _ => toByteArray_of_slice? cut, fun inside => ?_⟩
    exact absurd (isValid_of_slice? cut) inside
  | none =>
    refine ⟨fun starts stops => ?_, fun _ => rfl⟩
    have backwards : stop ≤ start := by
      by_contra ordered
      obtain ⟨middle, found⟩ := exists_slice? starts stops (Nat.le_of_not_le ordered)
      rw [cut] at found
      cases found
    exact (extract_of_le _ backwards).symm

theorem IsPart.eq_empty (isPart : IsPart source start stop part) (backwards : stop ≤ start) :
    part = "" := by
  by_cases ends : (String.Pos.Raw.mk start).IsValid source ∧
      (String.Pos.Raw.mk stop).IsValid source
  · have bytes := isPart.bytes ends.1 ends.2
    rw [extract_of_le _ backwards] at bytes
    exact String.toByteArray_inj.1 bytes
  · exact isPart.nothing ends

/-- In front of an end there is nothing just where no byte is left, or the start lies inside a
character. -/
theorem isPart_empty_iff (stops : (String.Pos.Raw.mk stop).IsValid source) :
    IsPart source start stop "" ↔ stop ≤ start ∨ ¬ (String.Pos.Raw.mk start).IsValid source := by
  constructor
  · intro isPart
    by_contra! some
    obtain ⟨ordered, starts⟩ := some
    have within : stop ≤ source.toByteArray.size := stops.le_rawEndPos
    have none := ByteArray.extract_eq_empty_iff.1 (isPart.bytes starts stops).symm
    rw [Nat.min_eq_left within] at none
    omega
  · rintro (backwards | inside)
    · exact ⟨fun _ _ => (extract_of_le _ backwards).symm, fun _ => rfl⟩
    · exact ⟨fun starts => absurd starts inside, fun _ => rfl⟩

end Parts

end Text

/-! ### Snippets -/

namespace Location

variable {location : Location}

/-- The part of a source that a location names: as many bytes from its offset on as its length says,
as far as the source holds them. -/
def Names (location : Location) (source part : String) : Prop :=
  Text.IsPart source (min location.offset source.utf8ByteSize)
    (min (location.offset + location.length) source.utf8ByteSize) part

theorem stop_of_lt (fits : location.offset + location.length < UInt64.size) :
    location.stop = location.offset + location.length :=
  Nat.mod_eq_of_lt fits

/-- A sum that is counted from zero again falls in front of the offset. -/
theorem stop_lt_offset (offset : location.offset < UInt64.size)
    (length : location.length < UInt64.size)
    (overflow : UInt64.size ≤ location.offset + location.length) :
    location.stop < location.offset := by
  have rest : location.offset + location.length - UInt64.size < UInt64.size := by omega
  rw [stop, Nat.mod_eq_sub_mod overflow, Nat.mod_eq_of_lt rest]
  omega

/-- Where offset and length add up to more than a word, a location names nothing just if it starts
behind the source or inside a character of it. -/
theorem names_empty_iff {source : String} (size : source.utf8ByteSize < UInt64.size)
    (overflow : UInt64.size ≤ location.offset + location.length) :
    location.Names source "" ↔ source.utf8ByteSize ≤ location.offset ∨
      ¬ (String.Pos.Raw.mk location.offset).IsValid source := by
  have stops : (String.Pos.Raw.mk source.utf8ByteSize).IsValid source :=
    String.Pos.Raw.isValid_rawEndPos
  -- the sum lies behind every source, so the part ends with the source
  rw [Names, Nat.min_eq_right (by omega : source.utf8ByteSize ≤ location.offset + location.length),
    Text.isPart_empty_iff stops]
  rcases Nat.le_total source.utf8ByteSize location.offset with behind | inside
  · exact iff_of_true (.inl (Nat.le_min.2 ⟨behind, Nat.le_refl _⟩)) (.inl behind)
  · rw [Nat.min_eq_left inside]

end Location

namespace Diagnostic

variable {diagnostic : Diagnostic}

theorem isPart_snippet (diagnostic : Diagnostic) :
    Text.IsPart diagnostic.source
      (min diagnostic.location.offset diagnostic.source.utf8ByteSize)
      (min diagnostic.location.stop diagnostic.source.utf8ByteSize) diagnostic.snippet := by
  rw [← Text.byteLength_toList]
  exact Text.isPart_slice? _ _ _

theorem names_snippet
    (fits : diagnostic.location.offset + diagnostic.location.length < UInt64.size) :
    diagnostic.location.Names diagnostic.source diagnostic.snippet := by
  have isPart := isPart_snippet diagnostic
  rwa [Location.stop_of_lt fits] at isPart

theorem snippet_eq_empty (offset : diagnostic.location.offset < UInt64.size)
    (length : diagnostic.location.length < UInt64.size)
    (overflow : UInt64.size ≤ diagnostic.location.offset + diagnostic.location.length) :
    diagnostic.snippet = "" := by
  have backwards := Nat.le_of_lt (Location.stop_lt_offset offset length overflow)
  -- the ends stay the wrong way round when they are taken back to the end of the source
  exact (isPart_snippet diagnostic).eq_empty (by omega)

/-- A snippet is the part of the source that the location names if offset and length add up to a
word of 64 bits, and nothing if they do not. So it is the named part just where they do, or where
the location names nothing anyhow: because it starts behind the source, or inside a character. The
last statement is about sources whose size is a word; there are no others in memory. -/
theorem snippet_named_iff (offset : diagnostic.location.offset < UInt64.size)
    (length : diagnostic.location.length < UInt64.size) :
    (diagnostic.location.offset + diagnostic.location.length < UInt64.size →
        diagnostic.location.Names diagnostic.source diagnostic.snippet) ∧
      (UInt64.size ≤ diagnostic.location.offset + diagnostic.location.length →
        diagnostic.snippet = "") ∧
      (diagnostic.source.utf8ByteSize < UInt64.size →
        (diagnostic.location.Names diagnostic.source diagnostic.snippet ↔
          diagnostic.location.offset + diagnostic.location.length < UInt64.size ∨
            diagnostic.source.utf8ByteSize ≤ diagnostic.location.offset ∨
            ¬ (String.Pos.Raw.mk diagnostic.location.offset).IsValid diagnostic.source)) := by
  refine ⟨names_snippet, snippet_eq_empty offset length, fun size => ?_⟩
  rcases Nat.lt_or_ge (diagnostic.location.offset + diagnostic.location.length) UInt64.size with
    fits | overflow
  · exact iff_of_true (names_snippet fits) (.inl fits)
  · have tooLarge := Nat.not_lt_of_ge overflow
    rw [snippet_eq_empty offset length overflow, Location.names_empty_iff size overflow,
      or_iff_right tooLarge]

/-- A location inside a character names nothing, and so nothing is what the snippet has to show. -/
theorem snippet_named_iff_inside :
    let diagnostic := new ⟨[FileId.root]⟩ ⟨1, UInt64.size - 1, 1, 1⟩ "é" none
    1 < UInt64.size ∧ UInt64.size - 1 < UInt64.size ∧ "é".utf8ByteSize < UInt64.size ∧
      UInt64.size ≤ 1 + (UInt64.size - 1) ∧ diagnostic.snippet = "" ∧
      ¬ (String.Pos.Raw.mk 1).IsValid "é" ∧ diagnostic.location.Names "é" diagnostic.snippet := by
  intro diagnostic
  have offset : diagnostic.location.offset < UInt64.size := by decide
  have length : diagnostic.location.length < UInt64.size := by decide
  have size : diagnostic.source.utf8ByteSize < UInt64.size := by decide
  have inside : ¬ (String.Pos.Raw.mk 1).IsValid "é" := by decide
  obtain ⟨-, overflow, named⟩ := snippet_named_iff offset length
  exact ⟨offset, length, size, by decide, overflow (by decide), inside,
    (named size).2 (.inr (.inr inside))⟩

/-- A location that starts at the last character of a source and is as long as a word allows names
this character. Its end is counted from zero again, and nothing is shown. -/
theorem last_character_lost :
    let diagnostic := new ⟨[FileId.root]⟩ ⟨7, UInt64.size - 1, 1, 8⟩ "import x" none
    diagnostic.location.Names "import x" "x" ∧ diagnostic.snippet = "" ∧
      ¬ diagnostic.location.Names "import x" diagnostic.snippet := by
  intro diagnostic
  have cut : diagnostic.snippet = "" := by decide
  refine ⟨⟨fun _ _ => by decide, fun inside => absurd inside (by decide)⟩, cut, ?_⟩
  rw [cut, Location.names_empty_iff (by decide) (by decide)]
  decide

end Diagnostic

end ImportCycles
