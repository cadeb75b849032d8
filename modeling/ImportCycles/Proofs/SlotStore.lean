import ImportCycles.Graph.Slots
import ImportCycles.Proofs.OrderedEdges

/-! # The store with slots

A store that keeps its imports in slots and looks them up by an index goes through any history of
changes without a failure: every slot that the index names is there, and it holds the import that was
asked for. So the store answers as the graph does.
-/

namespace ImportCycles

namespace ImportGraph

theorem insertEdge_of_findIdx?_none {edge : Edge} {edges : List Edge}
    (new : edges.findIdx? (·.target = edge.target) = none) :
    insertEdge edge edges = edges ++ [edge] := by
  induction edges with
  | nil => rfl
  | cons old rest ih =>
    have apart : ∀ other ∈ old :: rest, other.target ≠ edge.target := by
      simpa [List.findIdx?_eq_none_iff] using new
    have notRest : rest.findIdx? (·.target = edge.target) = none := by
      simpa [List.findIdx?_eq_none_iff] using fun other mem =>
        apart other (List.mem_cons_of_mem _ mem)
    simp [insertEdge, apart old (by simp), ih notRest]

theorem insertEdge_of_findIdx?_some {edge : Edge} {edges : List Edge} {slot : Nat}
    (ours : ∀ old ∈ edges, old.source = edge.source)
    (found : edges.findIdx? (·.target = edge.target) = some slot) :
    insertEdge edge edges = edges.set slot edge := by
  induction edges generalizing slot with
  | nil => simp at found
  | cons old rest ih =>
    have atSource := ours old (by simp)
    rw [List.findIdx?_cons] at found
    by_cases same : old.target = edge.target
    · obtain rfl : 0 = slot := by simpa [same] using found
      simp [insertEdge, atSource, same]
    · simp only [same, decide_false, Bool.false_eq_true, if_false, Option.map_eq_some_iff] at found
      obtain ⟨before, foundRest, rfl⟩ := found
      have oursRest : ∀ other ∈ rest, other.source = edge.source :=
        fun other mem => ours other (List.mem_cons_of_mem _ mem)
      simp [insertEdge, same, ih oursRest foundRest]

end ImportGraph

/-- The slots hold these imports, and the index names the slot of each target. -/
structure Slots.Holds (slots : Slots) (edges : List Edge) : Prop where
  edges_eq : slots.edges = edges
  slot_eq : ∀ target, slots.index[target]? = edges.findIdx? (·.target = target)

namespace Slots.Holds

variable {slots : Slots} {edges : List Edge} {source target : FileId}

theorem empty : ({} : Slots).Holds [] :=
  ⟨rfl, by simp⟩

/-- The slot that the index names is there, and it holds the import that was asked for. -/
theorem getElem?_slot (holds : slots.Holds edges) {slot : Nat}
    (found : slots.index[target]? = some slot) :
    ∃ edge, slots.edges[slot]? = some edge ∧ edge.target = target := by
  rw [holds.slot_eq, List.findIdx?_eq_some_iff_getElem] at found
  obtain ⟨below, atTarget, _⟩ := found
  rw [holds.edges_eq]
  exact ⟨edges[slot], List.getElem?_eq_getElem below, of_decide_eq_true atTarget⟩

theorem find?_eq (holds : slots.Holds edges) :
    slots.find? target = some (edges.find? (·.target = target)) := by
  rw [List.find?_eq_bind_findIdx?_getElem?, ← holds.slot_eq, ← holds.edges_eq, Slots.find?]
  cases found : slots.index[target]? with
  | none => rfl
  | some slot =>
    obtain ⟨edge, there, _⟩ := holds.getElem?_slot found
    simp [there]

theorem insert? (holds : slots.Holds edges) (ours : ∀ edge ∈ edges, edge.source = source)
    (location : Location) :
    ∃ next, slots.insert? source target location = some next ∧
      next.Holds (ImportGraph.insertEdge ⟨source, target, location⟩ edges) := by
  unfold Slots.insert?
  cases found : slots.index[target]? with
  | none =>
    have new : edges.findIdx? (·.target = target) = none := holds.slot_eq target ▸ found
    refine ⟨_, rfl, ?_⟩
    rw [ImportGraph.insertEdge_of_findIdx?_none new]
    refine ⟨by rw [holds.edges_eq], ?_⟩
    intro other
    rw [List.findIdx?_append, ← holds.slot_eq, Std.TreeMap.getElem?_insert, holds.edges_eq]
    by_cases same : target = other
    · subst same
      simp [found]
    · cases slots.index[other]? <;> simp [same]
  | some slot =>
    obtain ⟨old, there, atTarget⟩ := holds.getElem?_slot found
    have atSlot : edges.findIdx? (·.target = target) = some slot := holds.slot_eq target ▸ found
    rw [holds.edges_eq] at there
    have atSource : old.source = source := ours old (List.mem_of_getElem? there)
    have renewed : ({ old with location } : Edge) = ⟨source, target, location⟩ := by
      rw [atSource, atTarget]
    refine ⟨⟨edges.set slot ⟨source, target, location⟩, slots.index⟩, ?_, ?_⟩
    · simp only [holds.edges_eq, there, Option.map_some, renewed]
    · rw [ImportGraph.insertEdge_of_findIdx?_some ours atSlot]
      refine ⟨rfl, ?_⟩
      intro other
      -- The targets stay in their slots.
      have targets : (edges.set slot ⟨source, target, location⟩).map (·.target) =
          edges.map (·.target) := by
        obtain ⟨below, here⟩ := List.getElem?_eq_some_iff.1 there
        apply List.ext_getElem?
        intro place
        by_cases same : slot = place
        · subst same
          simp [below, here, atTarget]
        · simp [same]
      have index := congrArg (List.findIdx? (decide <| · = other)) targets
      rw [List.findIdx?_map, List.findIdx?_map] at index
      exact (holds.slot_eq other).trans index.symm

end Slots.Holds

namespace SlotStore

/-- The slots of every file hold its imports in the graph. -/
def Holds (store : SlotStore) (graph : ImportGraph) : Prop :=
  ∀ file, (store.slotsOf file).Holds (graph.edgesFrom file)

/-- Makes a change. -/
def change? (store : SlotStore) : Change → Option SlotStore
  | .add source target location => store.insert? source target location
  | .clearFrom file => some (store.eraseFrom file).2
  | .clear => some {}

/-- The store after a history of changes. -/
def after? (history : List Change) : Option SlotStore :=
  history.foldlM change? {}

variable {store : SlotStore} {graph : ImportGraph} {file source target : FileId}

theorem holds_empty : ({} : SlotStore).Holds .empty :=
  fun _ => Slots.Holds.empty

theorem slotsOf_insert (slots : Slots) :
    slotsOf ⟨store.slots.insert source slots⟩ file =
      if source = file then slots else store.slotsOf file := by
  simp [slotsOf, Std.TreeMap.getD_insert]

theorem slotsOf_erase :
    slotsOf ⟨store.slots.erase source⟩ file = if source = file then {} else store.slotsOf file := by
  simp [slotsOf, Std.TreeMap.getD_erase]

/-- Every change finds the slots that the index names. -/
theorem Holds.change? (holds : store.Holds graph) (change : Change) :
    ∃ next, store.change? change = some next ∧ next.Holds (graph.change change) := by
  cases change with
  | add source target location =>
    have ours : ∀ edge ∈ graph.edgesFrom source, edge.source = source :=
      fun edge mem => (ImportGraph.mem_edgesFrom.1 mem).2
    obtain ⟨slots, inserted, holdsSlots⟩ := (holds source).insert? ours location
    refine ⟨_, by rw [SlotStore.change?, insert?, inserted, Option.map_some], ?_⟩
    intro file
    rw [slotsOf_insert, ImportGraph.change, ImportGraph.edgesFrom_insert]
    by_cases here : source = file
    · subst here
      simpa using holdsSlots
    · simpa [here, Ne.symm here] using holds file
  | clearFrom cleared =>
    refine ⟨_, rfl, ?_⟩
    intro file
    rw [eraseFrom, slotsOf_erase, ImportGraph.change, ImportGraph.edgesFrom_eraseFrom]
    by_cases here : cleared = file
    · simpa [here] using Slots.Holds.empty
    · simpa [here, Ne.symm here] using holds file
  | clear => exact ⟨_, rfl, holds_empty⟩

/-- After any history the store holds the imports of the graph. -/
theorem exists_after? (history : List Change) :
    ∃ store, after? history = some store ∧ store.Holds (.after history) := by
  induction history using List.reverseRecOn with
  | nil => exact ⟨{}, rfl, holds_empty⟩
  | append_singleton history last ih =>
    obtain ⟨store, reached, holds⟩ := ih
    obtain ⟨next, made, holdsNext⟩ := holds.change? last
    refine ⟨next, ?_, ?_⟩
    · rw [after?, List.foldlM_append, ← after?, reached]
      simp [made]
    · rwa [ImportGraph.after_concat]

theorem slotsOf_of_mem_toList {slots : Slots} (mem : (file, slots) ∈ store.slots.toList) :
    store.slotsOf file = slots := by
  rw [Std.TreeMap.mem_toList_iff_getElem?_eq_some] at mem
  simp [slotsOf, Std.TreeMap.getD_eq_getD_getElem?, mem]

theorem Holds.edgesFrom_eq (holds : store.Holds graph) (file : FileId) :
    store.edgesFrom file = graph.edgesFrom file :=
  (holds file).edges_eq

theorem Holds.exists_of_mem_edges (holds : store.Holds graph) {edge : Edge}
    (mem : edge ∈ graph.edges) :
    ∃ slots, (edge.source, slots) ∈ store.slots.toList ∧ edge ∈ slots.edges := by
  have inside : edge ∈ store.edgesFrom edge.source := by
    rw [holds.edgesFrom_eq]
    exact ImportGraph.mem_edgesFrom.2 ⟨mem, rfl⟩
  cases found : store.slots[edge.source]? with
  | none => simp [edgesFrom, slotsOf, Std.TreeMap.getD_eq_getD_getElem?, found] at inside
  | some slots =>
    have inList := Std.TreeMap.mem_toList_iff_getElem?_eq_some.2 found
    rw [edgesFrom, slotsOf_of_mem_toList inList] at inside
    exact ⟨slots, inList, inside⟩

theorem Holds.mem_edges_of_mem (holds : store.Holds graph) {slots : Slots} {edge : Edge}
    (inList : (file, slots) ∈ store.slots.toList) (inside : edge ∈ slots.edges) :
    edge ∈ graph.edges ∧ edge.source = file := by
  rw [← slotsOf_of_mem_toList inList] at inside
  have inside : edge ∈ store.edgesFrom file := inside
  rw [holds.edgesFrom_eq] at inside
  exact ImportGraph.mem_edgesFrom.1 inside

/-- The entries of the store have the imports of the graph, each once. -/
theorem Holds.flatMap_perm (holds : store.Holds graph) :
    (store.slots.toList.flatMap fun entry => entry.2.edges).Perm graph.edges := by
  have each : ∀ entry ∈ store.slots.toList,
      entry.2.edges = graph.edges.filter (·.source = entry.1) := by
    rintro ⟨file, slots⟩ inList
    rw [← slotsOf_of_mem_toList inList]
    exact holds.edgesFrom_eq file
  have covered : ∀ edge ∈ graph.edges, edge.source ∈ store.slots.keys := by
    intro edge mem
    obtain ⟨slots, inList, _⟩ := holds.exists_of_mem_edges mem
    rw [← Std.TreeMap.map_fst_toList_eq_keys]
    exact List.mem_map.2 ⟨_, inList, rfl⟩
  have byFile : (store.slots.toList.flatMap fun entry => entry.2.edges) =
      store.slots.keys.flatMap fun file => graph.edges.filter (·.source = file) := by
    rw [List.flatMap_congr each, ← Std.TreeMap.map_fst_toList_eq_keys, List.flatMap_map]
  rw [byFile]
  exact ImportGraph.flatMap_filter_perm Std.TreeMap.nodup_keys covered

theorem size_eq_length (store : SlotStore) :
    store.size = (store.slots.toList.flatMap fun entry => entry.2.edges).length := by
  unfold size
  induction store.slots.toList with
  | nil => rfl
  | cons entry rest ih => rw [List.foldr_cons, ih, List.flatMap_cons, List.length_append]

theorem Holds.size_eq (holds : store.Holds graph) : store.size = graph.size := by
  rw [size_eq_length]
  exact holds.flatMap_perm.length_eq

theorem Holds.files_eq (holds : store.Holds graph) : store.files = graph.files := by
  apply FileId.sorted_congr
  intro file
  simp only [List.mem_flatMap, List.mem_filter, List.mem_cons, List.mem_map, ImportGraph.endpoints,
    List.not_mem_nil, or_false]
  constructor
  · rintro ⟨⟨source, slots⟩, ⟨inList, nonempty⟩, rfl | ⟨edge, inside, rfl⟩⟩
    · obtain ⟨edge, inside⟩ := List.exists_mem_of_ne_nil slots.edges (by simpa using nonempty)
      obtain ⟨mem, atSource⟩ := holds.mem_edges_of_mem inList inside
      exact ⟨edge, mem, .inl atSource.symm⟩
    · exact ⟨edge, (holds.mem_edges_of_mem inList inside).1, .inr rfl⟩
  · rintro ⟨edge, mem, atEnd⟩
    obtain ⟨slots, inList, inside⟩ := holds.exists_of_mem_edges mem
    have nonempty : slots.edges ≠ [] := List.ne_nil_of_mem inside
    refine ⟨(edge.source, slots), ⟨inList, by simpa using nonempty⟩, ?_⟩
    exact atEnd.imp_right fun atTarget => ⟨edge, inside, atTarget.symm⟩

/-- The store answers every question as the graph does, and no look-up names a slot that is not
there. -/
structure Mirrors (store : SlotStore) (graph : ImportGraph) : Prop where
  edgesFrom : ∀ file, store.edgesFrom file = graph.edgesFrom file
  find? : ∀ source target, store.find? source target = some (graph.find? source target)
  hasEdge? : ∀ source target, store.hasEdge? source target = some (graph.hasEdge source target)
  slot_lt : ∀ (file target : FileId) (slot : Nat),
    (store.slotsOf file).index[target]? = some slot →
      slot < (store.edgesFrom file).length
  size : store.size = graph.size
  erased : ∀ file, (store.eraseFrom file).1 = graph.outDegree file
  files : store.files = graph.files

theorem Holds.mirrors (holds : store.Holds graph) : store.Mirrors graph where
  edgesFrom := holds.edgesFrom_eq
  find? := fun source _ => (holds source).find?_eq
  hasEdge? := fun source target => by
    rw [hasEdge?, find?, (holds source).find?_eq]
    rfl
  slot_lt := by
    intro file target slot found
    obtain ⟨edge, there, _⟩ := (holds file).getElem?_slot found
    exact (List.getElem?_eq_some_iff.1 there).1
  size := holds.size_eq
  erased := fun file => congrArg List.length (holds.edgesFrom_eq file)
  files := holds.files_eq

end SlotStore

/-- The graph is an ordered map of imports. After any history of changes every file has the imports
that were added to it since it was last cleared, and all questions are answered by these lists. The
store with slots goes through the same history without a failure and answers alike. -/
theorem edges_kept_in_order (history : List Change) :
    (ImportGraph.after history).AnswersBy
        (fun file => orderedEdges file (additions file history)) ∧
      ∃ store, SlotStore.after? history = some store ∧ store.Mirrors (.after history) := by
  obtain ⟨store, reached, holds⟩ := SlotStore.exists_after? history
  exact ⟨ImportGraph.answersBy_after history, store, reached, holds.mirrors⟩

end ImportCycles
