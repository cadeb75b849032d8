import ImportCycles.Proofs.Edges

/-! # The graph as an ordered map of imports

After any history of additions and clearings, a file has the imports that were added to it since it
was last cleared: each target once, in the order of first additions, at the place of its last one.
Every question that a graph answers goes by these lists.
-/

namespace ImportCycles

namespace Sorted

theorem firstOccurrences_concat {α : Type} [DecidableEq α] (list : List α) (a : α) :
    firstOccurrences (list ++ [a]) =
      if a ∈ list then firstOccurrences list else firstOccurrences list ++ [a] := by
  induction list with
  | nil => rfl
  | cons b rest ih =>
    simp only [List.cons_append, firstOccurrences, ih]
    by_cases same : a = b
    · subst same
      by_cases there : a ∈ rest
      · simp [there]
      · simp [there]
    · by_cases there : a ∈ rest
      · simp [there]
      · simp [there, same]

end Sorted

/-- What can happen to a graph. -/
inductive Change where
  | add (source target : FileId) (location : Location)
  | clearFrom (file : FileId)
  | clear
  deriving DecidableEq, Repr

namespace Change

/-- Does this take out the imports of `file`? -/
def clears (file : FileId) : Change → Bool
  | .add _ _ _ => false
  | .clearFrom cleared => cleared = file
  | .clear => true

/-- The import that this adds to `file`. -/
def addition? (file : FileId) : Change → Option (FileId × Location)
  | .add source target location => if source = file then some (target, location) else none
  | .clearFrom _ => none
  | .clear => none

end Change

/-- What was added to `file` since it was last cleared. -/
def additions (file : FileId) (history : List Change) : List (FileId × Location) :=
  ((history.reverse.takeWhile fun change => !change.clears file).reverse).filterMap
    (·.addition? file)

/-- Where the last of the additions of `target` stands. -/
def lastLocation (added : List (FileId × Location)) (target : FileId) : Location :=
  ((added.filter (·.1 = target)).getLast?.map (·.2)).getD {}

/-- The imports of `file` after the given additions: each target once, in the order of first
additions, at the place of its last one. -/
def orderedEdges (file : FileId) (added : List (FileId × Location)) : List Edge :=
  (Sorted.firstOccurrences (added.map (·.1))).map fun target =>
    ⟨file, target, lastLocation added target⟩

theorem additions_concat (file : FileId) (history : List Change) (change : Change) :
    additions file (history ++ [change]) =
      if change.clears file then []
      else additions file history ++ (change.addition? file).toList := by
  cases clears : change.clears file with
  | true => simp [additions, clears]
  | false =>
    simp only [additions, List.reverse_append, List.reverse_cons, List.reverse_nil, List.nil_append,
      List.cons_append, List.takeWhile_cons, clears, Bool.not_false, if_true, List.filterMap_append,
      Bool.false_eq_true, if_false]
    cases added : change.addition? file with
    | none => simp [added]
    | some addition => simp [added]

theorem lastLocation_concat (added : List (FileId × Location)) (target other : FileId)
    (location : Location) :
    lastLocation (added ++ [(target, location)]) other =
      if other = target then location else lastLocation added other := by
  by_cases same : other = target
  · simp [lastLocation, same]
  · simp [lastLocation, same, Ne.symm same]

namespace ImportGraph

variable {graph : ImportGraph} {file source target : FileId} {location : Location}

/-- Adding to a list of imports with different targets moves none of them: the one that is there
already gets its new place, or a new one stands at the end. -/
theorem insertEdge_map {targets : List FileId} (nodup : targets.Nodup) (place : FileId → Location) :
    insertEdge ⟨file, target, location⟩ (targets.map fun x => ⟨file, x, place x⟩) =
      if target ∈ targets then
        targets.map fun x => ⟨file, x, if x = target then location else place x⟩
      else (targets.map fun x => ⟨file, x, place x⟩) ++ [⟨file, target, location⟩] := by
  induction targets with
  | nil => simp [insertEdge]
  | cons first rest ih =>
    obtain ⟨new, nodup⟩ := List.nodup_cons.1 nodup
    by_cases same : first = target
    · subst same
      have others : ∀ x ∈ rest, (⟨file, x, place x⟩ : Edge) =
          ⟨file, x, if x = first then location else place x⟩ := by
        intro x mem
        have apart : x ≠ first := fun here => new (here ▸ mem)
        rw [if_neg apart]
      simp [insertEdge, List.map_congr_left others]
    · have ih := ih nodup
      by_cases there : target ∈ rest
      · simp [insertEdge, same, there, ih]
      · simp [insertEdge, same, Ne.symm same, there, ih]

theorem insertEdge_orderedEdges (added : List (FileId × Location)) :
    insertEdge ⟨file, target, location⟩ (orderedEdges file added) =
      orderedEdges file (added ++ [(target, location)]) := by
  rw [orderedEdges, insertEdge_map (Sorted.firstOccurrences_nodup _), orderedEdges, List.map_append,
    List.map_singleton, Sorted.firstOccurrences_concat]
  simp only [lastLocation_concat, Sorted.mem_firstOccurrences]
  by_cases there : target ∈ added.map (·.1)
  · rw [if_pos there, if_pos there]
  · have others : ∀ x ∈ Sorted.firstOccurrences (added.map (·.1)),
        (⟨file, x, lastLocation added x⟩ : Edge) =
          ⟨file, x, if x = target then location else lastLocation added x⟩ := by
      intro x mem
      have apart : x ≠ target := fun here => there (here ▸ Sorted.mem_firstOccurrences.1 mem)
      rw [if_neg apart]
    rw [if_neg there, if_neg there, List.map_append, List.map_congr_left others]
    simp

/-- Makes a change. -/
def change (graph : ImportGraph) : Change → ImportGraph
  | .add source target location => graph.insert source target location
  | .clearFrom file => graph.eraseFrom file
  | .clear => empty

/-- The graph after a history of changes. -/
def after (history : List Change) : ImportGraph :=
  history.foldl change empty

theorem after_concat (history : List Change) (change : Change) :
    after (history ++ [change]) = (after history).change change :=
  List.foldl_concat _ _ _ _

/-- A file has the imports that were added to it since it was last cleared. -/
theorem edgesFrom_after (history : List Change) (file : FileId) :
    (after history).edgesFrom file = orderedEdges file (additions file history) := by
  induction history using List.reverseRecOn with
  | nil => rfl
  | append_singleton history last ih =>
    rw [after_concat, additions_concat]
    cases last with
    | add source target location =>
      rw [change, edgesFrom_insert, ih]
      by_cases here : source = file
      · subst here
        simp [Change.clears, Change.addition?, insertEdge_orderedEdges]
      · simp [Change.clears, Change.addition?, here, Ne.symm here]
    | clearFrom cleared =>
      rw [change, edgesFrom_eraseFrom, ih]
      by_cases here : cleared = file
      · simp [Change.clears, here, orderedEdges, Sorted.firstOccurrences]
      · simp [Change.clears, Change.addition?, here, Ne.symm here]
    | clear => rfl

/-- A target that is added again keeps its place in the list. -/
example :
    let a : FileId := ⟨true, ["a"]⟩
    let b : FileId := ⟨true, ["b"]⟩
    orderedEdges a (additions a [.add a a {}, .clearFrom a, .add a b { offset := 1 }, .add a a {},
      .add a b { offset := 2 }, .clearFrom b]) = [⟨a, b, { offset := 2 }⟩, ⟨a, a, {}⟩] := by
  decide

theorem mem_edgesFrom {edge : Edge} :
    edge ∈ graph.edgesFrom file ↔ edge ∈ graph.edges ∧ edge.source = file := by
  simp [edgesFrom]

/-- Going through the imports file by file meets each import once. -/
theorem flatMap_filter_perm {files : List FileId} (nodup : files.Nodup) {edges : List Edge}
    (covered : ∀ edge ∈ edges, edge.source ∈ files) :
    (files.flatMap fun file => edges.filter (·.source = file)).Perm edges := by
  induction files generalizing edges with
  | nil =>
    have none : edges = [] := List.eq_nil_iff_forall_not_mem.2 fun edge mem => by
      simpa using covered edge mem
    simp [none]
  | cons first rest ih =>
    obtain ⟨new, nodup⟩ := List.nodup_cons.1 nodup
    have coveredRest : ∀ edge ∈ edges.filter (fun edge => !decide (edge.source = first)),
        edge.source ∈ rest := by
      intro edge mem
      obtain ⟨mem, apart⟩ := List.mem_filter.1 mem
      exact (List.mem_cons.1 (covered edge mem)).resolve_left (by simpa using apart)
    have unaffected : ∀ file ∈ rest, edges.filter (·.source = file) =
        (edges.filter fun edge => !decide (edge.source = first)).filter (·.source = file) := by
      intro file mem
      have apart : file ≠ first := fun same => new (same ▸ mem)
      rw [List.filter_filter]
      refine List.filter_congr fun edge _ => ?_
      by_cases atFile : edge.source = file <;> simp [atFile, apart]
    rw [List.flatMap_cons, List.flatMap_congr unaffected]
    exact ((ih nodup coveredRest).append_left _).trans (List.filter_append_perm _ edges)

end ImportGraph

/-- The graph answers by the imports that are listed for each file. -/
structure ImportGraph.AnswersBy (graph : ImportGraph) (listed : FileId → List Edge) : Prop where
  edgesFrom_eq : ∀ file, graph.edgesFrom file = listed file
  find?_iff : ∀ source target edge,
    graph.find? source target = some edge ↔ edge ∈ listed source ∧ edge.target = target
  hasEdge_iff : ∀ source target,
    graph.hasEdge source target = true ↔ ∃ edge ∈ listed source, edge.target = target
  size_eq : graph.size = (graph.files.flatMap listed).length
  outDegree_eq : ∀ file, graph.outDegree file = (listed file).length
  size_eraseFrom : ∀ file, (graph.eraseFrom file).size + graph.outDegree file = graph.size
  edgesFrom_eraseFrom : ∀ file other,
    (graph.eraseFrom file).edgesFrom other = if other = file then [] else listed other
  files_sorted : graph.files.Pairwise (FileId.lt · ·)
  mem_files_iff : ∀ file, file ∈ graph.files ↔
    ∃ source, ∃ edge ∈ listed source, file = source ∨ file = edge.target

theorem ImportGraph.find?_eq_some_iff_of_after (history : List Change) (source target : FileId)
    (edge : Edge) : (after history).find? source target = some edge ↔
      edge ∈ (after history).edgesFrom source ∧ edge.target = target := by
  constructor
  · intro found
    exact ⟨List.mem_of_find?_eq_some found, by simpa using List.find?_some found⟩
  · rintro ⟨mem, rfl⟩
    -- An import of the list is determined by its target, so the first one found is this one.
    have unique : ∀ other ∈ (after history).edgesFrom source, other =
        ⟨source, other.target, lastLocation (additions source history) other.target⟩ := by
      intro other mem
      rw [edgesFrom_after, orderedEdges] at mem
      obtain ⟨target, _, rfl⟩ := List.mem_map.1 mem
      rfl
    have some : ((after history).find? source edge.target).isSome = true := by
      rw [find?, List.find?_isSome]
      exact ⟨edge, mem, by simp⟩
    obtain ⟨found, isFound⟩ := Option.isSome_iff_exists.1 some
    have sameTarget : found.target = edge.target := by simpa using List.find?_some isFound
    rw [isFound, unique found (List.mem_of_find?_eq_some isFound), sameTarget, ← unique edge mem]

theorem ImportGraph.answersBy_after (history : List Change) :
    (after history).AnswersBy fun file => orderedEdges file (additions file history) where
  edgesFrom_eq := edgesFrom_after history
  find?_iff := by
    intro source target edge
    rw [← edgesFrom_after]
    exact find?_eq_some_iff_of_after history source target edge
  hasEdge_iff := by
    intro source target
    rw [← edgesFrom_after, ← List.mem_map]
    exact imports_iff_mem_targets
  size_eq := by
    have covered : ∀ edge ∈ (after history).edges, edge.source ∈ (after history).files :=
      fun edge mem => mem_files.2 ⟨edge, mem, .inl rfl⟩
    simp only [← edgesFrom_after]
    have nodup := Sorted.sortNew_nodup FileId.lt_isStrictOrder (after history).endpoints
    exact (flatMap_filter_perm nodup covered).length_eq.symm
  outDegree_eq := fun file => congrArg List.length (edgesFrom_after history file)
  size_eraseFrom := by
    intro file
    have divided := List.length_eq_length_filter_add (l := (after history).edges)
      fun edge => decide (edge.source = file)
    simp only [size, eraseFrom, outDegree, edgesFrom, ne_eq, decide_not]
    omega
  edgesFrom_eraseFrom := by
    intro file other
    rw [ImportGraph.edgesFrom_eraseFrom, edgesFrom_after]
  files_sorted := Sorted.sortNew_pairwise FileId.lt_isStrictOrder _
  mem_files_iff := by
    intro file
    simp only [← edgesFrom_after, mem_edgesFrom, mem_files]
    constructor
    · rintro ⟨edge, mem, atEnd⟩
      exact ⟨edge.source, edge, ⟨mem, rfl⟩, atEnd⟩
    · rintro ⟨_, edge, ⟨mem, rfl⟩, atEnd⟩
      exact ⟨edge, mem, atEnd⟩

end ImportCycles
