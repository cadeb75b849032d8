import ImportCycles.FileId
import Mathlib.Data.List.Nodup

/-! # Sorting and the order of files

What the sorting functions give: `sortBy` rearranges a list so that no element stands behind one it
must precede, `sortNew` gives the strictly increasing list of the elements of a list, and
`firstOccurrences` drops repetitions only. The order of files is a strict linear one, so a sorted
list of files is determined by the files in it.
-/

namespace ImportCycles

namespace Sorted

/-- A strict order in which any two different elements are comparable. -/
structure IsStrictOrder {α : Type} (lt : α → α → Bool) : Prop where
  irrefl : ∀ a, lt a a = false
  trans : ∀ {a b c}, lt a b = true → lt b c = true → lt a c = true
  connected : ∀ {a b}, lt a b = false → lt b a = false → a = b

variable {α : Type}

theorem insertBy_perm (le : α → α → Bool) (a : α) (list : List α) :
    (insertBy le a list).Perm (a :: list) := by
  induction list with
  | nil => exact .refl _
  | cons b rest ih =>
    simp only [insertBy]
    split
    · exact .refl _
    · exact (ih.cons b).trans (List.Perm.swap a b rest)

/-- Sorting keeps every element as often as it occurs. -/
theorem sortBy_perm (le : α → α → Bool) (list : List α) : (sortBy le list).Perm list := by
  induction list with
  | nil => exact .refl _
  | cons a rest ih => exact (insertBy_perm le a _).trans (ih.cons a)

theorem insertBy_pairwise {le : α → α → Bool} (total : ∀ a b, le a b = false → le b a = true)
    (trans : ∀ a b c, le a b = true → le b c = true → le a c = true) (a : α) {list : List α}
    (sorted : list.Pairwise (le · ·)) : (insertBy le a list).Pairwise (le · ·) := by
  induction list with
  | nil => simp [insertBy]
  | cons b rest ih =>
    obtain ⟨least, sortedRest⟩ := List.pairwise_cons.1 sorted
    simp only [insertBy]
    split
    · rename_i before
      refine List.pairwise_cons.2 ⟨?_, sorted⟩
      intro c mem
      rcases List.mem_cons.1 mem with rfl | mem
      · exact before
      · exact trans a b c before (least c mem)
    · rename_i after
      refine List.pairwise_cons.2 ⟨?_, ih sortedRest⟩
      intro c mem
      rcases List.mem_cons.1 ((insertBy_perm le a rest).mem_iff.1 mem) with rfl | mem
      · exact total c b (Bool.eq_false_iff.2 after)
      · exact least c mem

/-- A sorted list is in order, whatever the list was. -/
theorem sortBy_pairwise {le : α → α → Bool} (total : ∀ a b, le a b = false → le b a = true)
    (trans : ∀ a b c, le a b = true → le b c = true → le a c = true) (list : List α) :
    (sortBy le list).Pairwise (le · ·) := by
  induction list with
  | nil => exact .nil
  | cons a rest ih => exact insertBy_pairwise total trans a ih

theorem insertBy_of_forall_le {le : α → α → Bool} {a : α} {list : List α}
    (least : ∀ b ∈ list, le a b = true) : insertBy le a list = a :: list := by
  cases list with
  | nil => rfl
  | cons b rest => rw [insertBy, if_pos (least b (by simp))]

theorem filter_insertBy {le : α → α → Bool}
    (trans : ∀ a b c, le a b = true → le b c = true → le a c = true) (keep : α → Bool) (a : α)
    {list : List α} (sorted : list.Pairwise (le · ·)) :
    (insertBy le a list).filter keep =
      if keep a then insertBy le a (list.filter keep) else list.filter keep := by
  induction list with
  | nil => cases kept : keep a <;> simp [insertBy, kept]
  | cons b rest ih =>
    obtain ⟨least, sortedRest⟩ := List.pairwise_cons.1 sorted
    simp only [insertBy]
    split
    · rename_i before
      -- what comes after `b` comes after `a` as well, whether `b` is kept or not
      have first : ∀ c ∈ (b :: rest).filter keep, le a c = true := by
        intro c mem
        rcases List.mem_cons.1 (List.mem_filter.1 mem).1 with rfl | mem
        · exact before
        · exact trans a b c before (least c mem)
      rw [insertBy_of_forall_le first, List.filter_cons]
    · rename_i after
      rw [List.filter_cons, List.filter_cons, ih sortedRest]
      by_cases keptB : keep b = true
      · by_cases keptA : keep a = true
        · simp [keptA, keptB, insertBy, after]
        · simp [keptA, keptB]
      · simp [keptB]

/-- It makes no difference whether elements are left out before or after sorting: the others keep
their order, also where the sorting order does not tell them apart. -/
theorem filter_sortBy {le : α → α → Bool} (total : ∀ a b, le a b = false → le b a = true)
    (trans : ∀ a b c, le a b = true → le b c = true → le a c = true) (keep : α → Bool)
    (list : List α) : (sortBy le list).filter keep = sortBy le (list.filter keep) := by
  induction list with
  | nil => rfl
  | cons a rest ih =>
    rw [sortBy, filter_insertBy trans keep a (sortBy_pairwise total trans rest), ih,
      List.filter_cons]
    split
    · rfl
    · rfl

theorem dropRepeatsOf_sublist {β : Type} [DecidableEq β] (key : α → β) (last : β)
    (list : List α) : (dropRepeatsOf key last list).Sublist list := by
  induction list generalizing last with
  | nil => exact .slnil
  | cons a rest ih =>
    simp only [dropRepeatsOf]
    split
    · exact (ih last).cons a
    · exact (ih (key a)).cons_cons a

theorem dropRepeats_sublist {β : Type} [DecidableEq β] (key : α → β) (list : List α) :
    (dropRepeats key list).Sublist list := by
  cases list with
  | nil => exact .slnil
  | cons a rest => exact (dropRepeatsOf_sublist key (key a) rest).cons_cons a

theorem dropRepeatsOf_eq_self {β : Type} [DecidableEq β] {key : α → β} {last : β} {list : List α}
    (new : ∀ a ∈ list, last ≠ key a) (distinct : (list.map key).Nodup) :
    dropRepeatsOf key last list = list := by
  induction list generalizing last with
  | nil => rfl
  | cons a rest ih =>
    obtain ⟨newA, distinctRest⟩ := List.nodup_cons.1 distinct
    have later : ∀ b ∈ rest, key a ≠ key b := by
      intro b mem same
      exact newA (same ▸ List.mem_map_of_mem mem)
    rw [dropRepeatsOf, if_neg (new a (by simp)).symm, ih later distinctRest]

/-- Nothing is dropped where no key comes twice. -/
theorem dropRepeats_eq_self {β : Type} [DecidableEq β] {key : α → β} {list : List α}
    (distinct : (list.map key).Nodup) : dropRepeats key list = list := by
  cases list with
  | nil => rfl
  | cons a rest =>
    obtain ⟨newA, distinctRest⟩ := List.nodup_cons.1 distinct
    have later : ∀ b ∈ rest, key a ≠ key b := by
      intro b mem same
      exact newA (same ▸ List.mem_map_of_mem mem)
    rw [dropRepeats, dropRepeatsOf_eq_self later distinctRest]

theorem dropRepeatsOf_increasing {key : α → Nat} {last : Nat} {list : List α}
    (later : ∀ a ∈ list, last ≤ key a) (sorted : list.Pairwise (key · ≤ key ·)) :
    (∀ a ∈ dropRepeatsOf key last list, last < key a) ∧
      (dropRepeatsOf key last list).Pairwise (key · < key ·) := by
  induction list generalizing last with
  | nil => exact ⟨nofun, .nil⟩
  | cons a rest ih =>
    obtain ⟨least, sortedRest⟩ := List.pairwise_cons.1 sorted
    rw [dropRepeatsOf]
    split
    · exact ih (fun b mem => later b (List.mem_cons_of_mem _ mem)) sortedRest
    · rename_i differs
      obtain ⟨above, increasing⟩ := ih least sortedRest
      have afterLast : last < key a :=
        Nat.lt_of_le_of_ne (later a (by simp)) (Ne.symm differs)
      refine ⟨?_, List.pairwise_cons.2 ⟨above, increasing⟩⟩
      intro b mem
      rcases List.mem_cons.1 mem with rfl | mem
      · exact afterLast
      · exact Nat.lt_trans afterLast (above b mem)

/-- Of a sorted list in which no neighbours have the same key, the keys increase. -/
theorem dropRepeats_increasing {key : α → Nat} {list : List α}
    (sorted : list.Pairwise (key · ≤ key ·)) :
    (dropRepeats key list).Pairwise (key · < key ·) := by
  cases list with
  | nil => exact .nil
  | cons a rest =>
    obtain ⟨least, sortedRest⟩ := List.pairwise_cons.1 sorted
    exact List.pairwise_cons.2 (dropRepeatsOf_increasing least sortedRest)

theorem insertBy_map {β : Type} (f : β → α) (le : α → α → Bool) (b : β) (list : List β) :
    insertBy le (f b) (list.map f) = (insertBy (fun a b => le (f a) (f b)) b list).map f := by
  induction list with
  | nil => rfl
  | cons c rest ih =>
    simp only [List.map_cons, insertBy]
    split
    · rfl
    · rw [ih, List.map_cons]

/-- What is sorted by a part of it may get the rest before or afterwards. -/
theorem sortBy_map {β : Type} (f : β → α) (le : α → α → Bool) (list : List β) :
    sortBy le (list.map f) = (sortBy (fun a b => le (f a) (f b)) list).map f := by
  induction list with
  | nil => rfl
  | cons b rest ih => rw [List.map_cons, sortBy, ih, insertBy_map, sortBy]

theorem dropRepeatsOf_map {β γ : Type} [DecidableEq γ] (f : β → α) (key : α → γ) (last : γ)
    (list : List β) :
    dropRepeatsOf key last (list.map f) = (dropRepeatsOf (fun b => key (f b)) last list).map f := by
  induction list generalizing last with
  | nil => rfl
  | cons b rest ih =>
    simp only [List.map_cons, dropRepeatsOf]
    split
    · exact ih last
    · rw [ih, List.map_cons]

theorem dropRepeats_map {β γ : Type} [DecidableEq γ] (f : β → α) (key : α → γ) (list : List β) :
    dropRepeats key (list.map f) = (dropRepeats (fun b => key (f b)) list).map f := by
  cases list with
  | nil => rfl
  | cons b rest => rw [List.map_cons, dropRepeats, dropRepeatsOf_map, dropRepeats, List.map_cons]

theorem nodup_of_increasing {key : α → Nat} {list : List α}
    (increasing : list.Pairwise (key · < key ·)) : (list.map key).Nodup := by
  rw [List.Nodup, List.pairwise_map]
  exact increasing.imp fun before => Nat.ne_of_lt before

/-- Elements with increasing keys are put in this order, however they came. -/
theorem sortBy_eq_of_perm {key : α → Nat} {list sorted : List α} (perm : list.Perm sorted)
    (increasing : sorted.Pairwise (key · < key ·)) :
    sortBy (fun a b => key a ≤ key b) list = sorted := by
  have inOrder : (sortBy (fun a b => decide (key a ≤ key b)) list).Pairwise
      (fun a b => decide (key a ≤ key b) = true) := by
    refine sortBy_pairwise ?_ ?_ list
    · intro a b notBefore
      rw [decide_eq_false_iff_not] at notBefore
      exact decide_eq_true (Nat.le_of_not_le notBefore)
    · intro a b c before after
      rw [decide_eq_true_iff] at before after ⊢
      exact Nat.le_trans before after
  have perm := (sortBy_perm (fun a b => decide (key a ≤ key b)) list).trans perm
  refine perm.eq_of_pairwise ?_ inOrder
    (increasing.imp fun before => decide_eq_true (Nat.le_of_lt before))
  intro a b memA memB before after
  rw [decide_eq_true_iff] at before after
  exact List.inj_on_of_nodup_map (nodup_of_increasing increasing) (perm.mem_iff.1 memA) memB
    (Nat.le_antisymm before after)

theorem mem_insertNew {lt : α → α → Bool} (order : IsStrictOrder lt) {a x : α} {list : List α} :
    x ∈ insertNew lt a list ↔ x = a ∨ x ∈ list := by
  induction list with
  | nil => simp [insertNew]
  | cons b rest ih =>
    simp only [insertNew]
    split
    · simp
    · split
      · rw [List.mem_cons, ih, List.mem_cons, or_left_comm]
      · rename_i notBefore notAfter
        have same : a = b :=
          order.connected (Bool.eq_false_iff.2 notBefore) (Bool.eq_false_iff.2 notAfter)
        simp [same]

/-- A list and its strictly increasing form have the same elements. -/
theorem mem_sortNew {lt : α → α → Bool} (order : IsStrictOrder lt) {x : α} {list : List α} :
    x ∈ sortNew lt list ↔ x ∈ list := by
  induction list with
  | nil => simp [sortNew]
  | cons a rest ih => rw [sortNew, mem_insertNew order, ih, List.mem_cons]

theorem insertNew_pairwise {lt : α → α → Bool} (order : IsStrictOrder lt) (a : α) {list : List α}
    (sorted : list.Pairwise (lt · ·)) : (insertNew lt a list).Pairwise (lt · ·) := by
  induction list with
  | nil => simp [insertNew]
  | cons b rest ih =>
    obtain ⟨least, sortedRest⟩ := List.pairwise_cons.1 sorted
    simp only [insertNew]
    split
    · rename_i before
      refine List.pairwise_cons.2 ⟨?_, sorted⟩
      intro c mem
      rcases List.mem_cons.1 mem with rfl | mem
      · exact before
      · exact order.trans before (least c mem)
    · split
      · rename_i after
        refine List.pairwise_cons.2 ⟨?_, ih sortedRest⟩
        intro c mem
        rcases (mem_insertNew order).1 mem with rfl | mem
        · exact after
        · exact least c mem
      · exact sorted

/-- The strictly increasing form of a list is strictly increasing. -/
theorem sortNew_pairwise {lt : α → α → Bool} (order : IsStrictOrder lt) (list : List α) :
    (sortNew lt list).Pairwise (lt · ·) := by
  induction list with
  | nil => exact .nil
  | cons a rest ih => exact insertNew_pairwise order a ih

theorem IsStrictOrder.nodup_of_pairwise {lt : α → α → Bool} (order : IsStrictOrder lt)
    {list : List α} (sorted : list.Pairwise (lt · ·)) : list.Nodup := by
  refine sorted.imp ?_
  rintro a b before rfl
  simp [order.irrefl] at before

/-- A strictly increasing list is determined by its elements. -/
theorem IsStrictOrder.eq_of_pairwise {lt : α → α → Bool} (order : IsStrictOrder lt)
    {list other : List α} (sorted : list.Pairwise (lt · ·)) (sortedOther : other.Pairwise (lt · ·))
    (same : ∀ x, x ∈ list ↔ x ∈ other) : list = other := by
  have perm : list.Perm other := by
    refine (List.perm_ext_iff_of_nodup ?_ ?_).2 same
    · exact order.nodup_of_pairwise sorted
    · exact order.nodup_of_pairwise sortedOther
  refine perm.eq_of_pairwise ?_ sorted sortedOther
  intro a b _ _ before after
  have self := order.trans before after
  simp [order.irrefl] at self

/-- Lists with the same elements have the same strictly increasing form: neither their order nor
repetitions matter. -/
theorem sortNew_congr {lt : α → α → Bool} (order : IsStrictOrder lt) {list other : List α}
    (same : ∀ x, x ∈ list ↔ x ∈ other) : sortNew lt list = sortNew lt other := by
  refine order.eq_of_pairwise (sortNew_pairwise order _) (sortNew_pairwise order _) ?_
  intro x
  rw [mem_sortNew order, mem_sortNew order, same]

theorem sortNew_nodup {lt : α → α → Bool} (order : IsStrictOrder lt) (list : List α) :
    (sortNew lt list).Nodup :=
  order.nodup_of_pairwise (sortNew_pairwise order list)

theorem filter_sortNew {lt : α → α → Bool} (order : IsStrictOrder lt) (keep : α → Bool)
    (list : List α) : (sortNew lt list).filter keep = sortNew lt (list.filter keep) := by
  refine order.eq_of_pairwise ((sortNew_pairwise order _).filter keep) (sortNew_pairwise order _) ?_
  intro x
  rw [List.mem_filter, mem_sortNew order, mem_sortNew order, List.mem_filter]

theorem IsStrictOrder.asymm {lt : α → α → Bool} (order : IsStrictOrder lt) {a b : α}
    (before : lt a b = true) : lt b a = false := by
  rw [← Bool.not_eq_true]
  intro after
  simpa [order.irrefl] using order.trans before after

/-- Pairs are in strict order by their first parts and, where these agree, by their second ones. -/
theorem IsStrictOrder.pairs [DecidableEq α] {lt : α → α → Bool} (order : IsStrictOrder lt) :
    IsStrictOrder fun p q : α × α => lt p.1 q.1 || (p.1 == q.1 && lt p.2 q.2) where
  irrefl p := by simp [order.irrefl]
  trans := by
    rintro ⟨a, a'⟩ ⟨b, b'⟩ ⟨c, c'⟩ before after
    simp only [Bool.or_eq_true, Bool.and_eq_true, beq_iff_eq] at before after ⊢
    obtain before | ⟨rfl, before⟩ := before
    · obtain after | ⟨rfl, _⟩ := after
      · exact .inl (order.trans before after)
      · exact .inl before
    · obtain after | ⟨rfl, after⟩ := after
      · exact .inl after
      · exact .inr ⟨rfl, order.trans before after⟩
  connected := by
    rintro ⟨a, a'⟩ ⟨b, b'⟩ notBefore notAfter
    simp only [Bool.or_eq_false_iff] at notBefore notAfter
    obtain rfl := order.connected notBefore.1 notAfter.1
    simp only [beq_self_eq_true, Bool.true_and] at notBefore notAfter
    rw [order.connected notBefore.2 notAfter.2]

/-- Elements with different keys are sorted strictly. -/
theorem IsStrictOrder.sortBy_pairwise {β : Type} {lt : α → α → Bool} (order : IsStrictOrder lt)
    {key : β → α} {le : β → β → Bool} (agree : ∀ a b, le a b = !lt (key b) (key a)) {list : List β}
    (distinct : (list.map key).Nodup) :
    (sortBy le list).Pairwise fun a b => lt (key a) (key b) = true := by
  have total : ∀ a b, le a b = false → le b a = true := by
    intro a b notBefore
    rw [agree, Bool.not_eq_false'] at notBefore
    rw [agree, order.asymm notBefore]
    rfl
  have trans : ∀ a b c, le a b = true → le b c = true → le a c = true := by
    intro a b c before after
    simp only [agree, Bool.not_eq_true'] at before after ⊢
    rw [← Bool.not_eq_true]
    intro back
    -- `c` stands before `a`, and what lies between them can be neither before `c` nor after `a`.
    cases between : lt (key b) (key c) with
    | true => simp [order.trans between back] at before
    | false =>
      rw [order.connected between after, back] at before
      exact absurd before (by simp)
  have inOrder := Sorted.sortBy_pairwise total trans list
  have apart : (sortBy le list).Pairwise fun a b => key a ≠ key b := by
    have nodup := ((sortBy_perm le list).map key).nodup_iff.2 distinct
    exact List.pairwise_map.1 nodup
  refine (inOrder.and apart).imp ?_
  rintro a b ⟨before, differ⟩
  rw [agree, Bool.not_eq_true'] at before
  rw [← Bool.not_eq_false]
  intro notBefore
  exact differ (order.connected notBefore before)

/-- Elements with different keys are put in the same order, however they came. -/
theorem IsStrictOrder.sortBy_congr {β : Type} {lt : α → α → Bool} (order : IsStrictOrder lt)
    {key : β → α} {le : β → β → Bool}
    (agree : ∀ a b, le a b = !lt (key b) (key a)) {list other : List β}
    (distinct : (list.map key).Nodup) (perm : list.Perm other) :
    sortBy le list = sortBy le other := by
  have distinctOther := (perm.map key).nodup_iff.1 distinct
  have same := ((sortBy_perm le list).trans perm).trans (sortBy_perm le other).symm
  refine same.eq_of_pairwise ?_ (order.sortBy_pairwise agree distinct)
    (order.sortBy_pairwise agree distinctOther)
  intro a b _ _ before after
  simp [order.asymm before] at after

/-- No element is lost or made up where repetitions are dropped. -/
theorem mem_firstOccurrences [DecidableEq α] {x : α} {list : List α} :
    x ∈ firstOccurrences list ↔ x ∈ list := by
  induction list with
  | nil => simp [firstOccurrences]
  | cons a rest ih =>
    by_cases same : x = a
    · simp [firstOccurrences, same]
    · simp [firstOccurrences, same, ih]

/-- Where repetitions are dropped none is left. -/
theorem firstOccurrences_nodup [DecidableEq α] (list : List α) : (firstOccurrences list).Nodup := by
  induction list with
  | nil => exact .nil
  | cons a rest ih =>
    refine List.nodup_cons.2 ⟨?_, ih.filter _⟩
    simp

theorem filter_firstOccurrences [DecidableEq α] (keep : α → Bool) (list : List α) :
    (firstOccurrences list).filter keep = firstOccurrences (list.filter keep) := by
  induction list with
  | nil => rfl
  | cons a rest ih =>
    simp only [firstOccurrences, List.filter_cons]
    by_cases kept : keep a = true
    · rw [if_pos kept, if_pos kept, firstOccurrences, ← ih, List.filter_comm]
    · rw [if_neg kept, if_neg kept, List.filter_comm, ih]
      refine List.filter_eq_self.2 ?_
      intro b mem
      rw [mem_firstOccurrences, List.mem_filter] at mem
      refine decide_eq_true ?_
      rintro rfl
      exact kept mem.2

end Sorted

namespace FileId

theorem key_injective {a b : FileId} (same : a.key = b.key) : a = b := by
  obtain ⟨rootedA, namesA⟩ := a
  obtain ⟨rootedB, namesB⟩ := b
  have names : ∀ {left right : List Octets}, left.map some = right.map some → left = right :=
    (List.map_inj_right fun _ _ => Option.some.inj).1
  cases rootedA <;> cases rootedB
  · exact congrArg (FileId.mk false) (names same)
  · cases namesA <;> simp [key] at same
  · cases namesB <;> simp [key] at same
  · exact congrArg (FileId.mk true) (names (List.cons.inj same).2)

/-- The order of files is strict, and it tells any two files apart. -/
theorem lt_isStrictOrder : Sorted.IsStrictOrder lt where
  irrefl a := by simp [lt]
  trans := by
    intro a b c before after
    rw [lt, Ordering.isLT_iff_eq_lt] at before after ⊢
    exact Std.TransCmp.lt_trans before after
  connected := by
    intro a b notBefore notAfter
    apply key_injective
    rw [lt, Bool.eq_false_iff, ne_eq, Ordering.isLT_iff_eq_lt] at notBefore notAfter
    rw [Std.OrientedOrd.eq_swap] at notAfter
    cases compared : compare a.key b.key with
    | lt => exact absurd compared notBefore
    | eq => exact Std.LawfulEqOrd.eq_of_compare compared
    | gt => simp [compared] at notAfter

/-- Sorting files changes their order only, and drops repetitions. -/
theorem mem_sorted {file : FileId} {files : List FileId} : file ∈ sorted files ↔ file ∈ files :=
  Sorted.mem_sortNew lt_isStrictOrder

/-- The sorted list of files depends only on which files there are. -/
theorem sorted_congr {files others : List FileId} (same : ∀ file, file ∈ files ↔ file ∈ others) :
    sorted files = sorted others :=
  Sorted.sortNew_congr lt_isStrictOrder same

/-- Files can be left out before or after sorting. -/
theorem filter_sorted (keep : FileId → Bool) (files : List FileId) :
    (sorted files).filter keep = sorted (files.filter keep) :=
  Sorted.filter_sortNew lt_isStrictOrder keep files

end FileId

end ImportCycles
