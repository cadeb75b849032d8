import ImportCycles.Proofs.OrderedEdges
import ImportCycles.Proofs.Runs
import ImportCycles.Proofs.StatementLocations

/-! # Entrances of cycles

A diagnostic names the statement that leads into its cycle. Several statements of a file can lead to
the same file: the graph keeps one import for them, and its place is that of the last of them. So
the statement that is named is the last one that leads from the file to the second member of the
cycle, and what is cut out of a source for it is the text of that statement.
-/

namespace ImportCycles

/-- The last of some imports that leads from `file` to `target`. -/
def lastImport? (resolve : Resolve) (file target : FileId) (imports : List ImportStatement) :
    Option ImportStatement :=
  (imports.filter fun statement => resolve statement.specifier file = .file target).getLast?

section LastImport

variable {resolve : Resolve} {file target : FileId} {imports : List ImportStatement}
  {statement : ImportStatement}

theorem mem_of_lastImport? (last : lastImport? resolve file target imports = some statement) :
    statement ∈ imports :=
  (List.mem_filter.1 (List.mem_of_getLast? last)).1

/-- What a list of imports resolves to keeps the order of the list. -/
theorem filter_resolved (resolve : Resolve) (file target : FileId)
    (imports : List ImportStatement) :
    (Linter.resolved resolve file imports).filter (·.1 = target) =
      (imports.filter fun statement => resolve statement.specifier file = .file target).map
        fun statement => (target, statement.location) := by
  induction imports with
  | nil => rfl
  | cons first rest ih =>
    rw [Linter.resolved] at ih ⊢
    cases resolution : resolve first.specifier file with
    | file other =>
      by_cases same : other = target
      · simp [resolution, same, ih]
      · simp [resolution, same, ih]
    | external => simp [resolution, ih]
    | unresolvable => simp [resolution, ih]

theorem mem_resolved_iff :
    target ∈ (Linter.resolved resolve file imports).map (·.1) ↔
      ∃ statement, lastImport? resolve file target imports = some statement := by
  have none : target ∉ (Linter.resolved resolve file imports).map (·.1) ↔
      (Linter.resolved resolve file imports).filter (·.1 = target) = [] := by
    rw [List.filter_eq_nil_iff]
    simp only [List.mem_map, not_exists, not_and, decide_eq_true_eq]
  rw [← not_iff_not, none, filter_resolved, List.map_eq_nil_iff, ← List.getLast?_eq_none_iff,
    Option.eq_none_iff_forall_ne_some, not_exists]
  rfl

theorem lastLocation_resolved (last : lastImport? resolve file target imports = some statement) :
    lastLocation (Linter.resolved resolve file imports) target = statement.location := by
  rw [lastImport?] at last
  rw [lastLocation, filter_resolved, List.getLast?_map, last]
  rfl

end LastImport

/-- An analysis leaves the imports of its file in the order of first mentions, each at its last
place. -/
theorem importEdges_eq_orderedEdges (file : FileId) (imports : List (FileId × Location)) :
    importEdges file imports = orderedEdges file imports := by
  induction imports using List.reverseRecOn with
  | nil => rfl
  | append_singleton imports last ih =>
    rw [importEdges, List.foldl_concat, ← importEdges, ih]
    exact ImportGraph.insertEdge_orderedEdges imports

theorem find?_orderedEdges {file target : FileId} {added : List (FileId × Location)}
    (mem : target ∈ added.map (·.1)) :
    (orderedEdges file added).find? (·.target = target) =
      some ⟨file, target, lastLocation added target⟩ := by
  have there : (Sorted.firstOccurrences (added.map (·.1))).find? (· = target) = some target := by
    have some : ((Sorted.firstOccurrences (added.map (·.1))).find? (· = target)).isSome = true :=
      List.find?_isSome.2 ⟨target, Sorted.mem_firstOccurrences.2 mem, by simp⟩
    obtain ⟨found, isFound⟩ := Option.isSome_iff_exists.1 some
    rw [isFound, show found = target by simpa using List.find?_some isFound]
  rw [orderedEdges, List.find?_map]
  exact congrArg _ there

namespace ImportGraph

variable {graph : ImportGraph} {file next : FileId} {cycle : Cycle}

theorem RoundByFirst.head?_links (round : graph.RoundByFirst file next cycle.members) :
    cycle.links.head? = some (file, next) := by
  rw [Cycle.links]
  rcases round.members_eq with ⟨members, rfl⟩ | ⟨rest, members⟩
  · rw [members]
    rfl
  · rw [members]
    rfl

end ImportGraph

namespace Linter

variable {linter : Linter} {resolve : Resolve} {file : FileId} {imports : List ImportStatement}
  {source : String} {diagnostic : Diagnostic}

/-- The graph has an import of each file that some statement leads to, at the last such
statement. -/
theorem find?_lintStatements (linter : Linter) (source : String) {target : FileId}
    (step : (linter.lintStatements resolve file imports source).2.graph.Imports file target) :
    ∃ statement, lastImport? resolve file target imports = some statement ∧
      (linter.lintStatements resolve file imports source).2.graph.find? file target =
        some ⟨file, target, statement.location⟩ := by
  have mem : target ∈ (resolved resolve file imports).map (·.1) := by
    have step := Session.imports_analyse.1 step
    rwa [if_pos rfl] at step
  obtain ⟨statement, last⟩ := mem_resolved_iff.1 mem
  refine ⟨statement, last, ?_⟩
  have edges : (linter.lintStatements resolve file imports source).2.graph.edgesFrom file =
      orderedEdges file (resolved resolve file imports) := by
    rw [← importEdges_eq_orderedEdges]
    exact (Session.edgesFrom_analyse _ _ _ _).trans (if_pos rfl)
  rw [ImportGraph.find?, edges, find?_orderedEdges mem, lastLocation_resolved last]

/-- A diagnostic belongs to a shortest cycle of the graph that linting its file leaves. -/
theorem exists_cycle_of_mem_lintStatements
    (mem : diagnostic ∈ (linter.lintStatements resolve file imports source).1) :
    ∃ cycle ∈ (linter.lintStatements resolve file imports source).2.graph.shortestCycles file
        linter.session.depthLimit,
      diagnostic = (linter.lintStatements resolve file imports source).2.diagnose source cycle := by
  obtain ⟨cycle, returned, rfl⟩ := List.mem_map.1 mem
  exact ⟨cycle, (Session.analyse_sublist _ _ _).subset returned, rfl⟩

/-- A diagnostic stands in the linted file, at the last statement that leads to the second member of
its cycle; the graph has that place. -/
theorem entrance_of_mem_lintStatements
    (mem : diagnostic ∈ (linter.lintStatements resolve file imports source).1) :
    diagnostic.file = file ∧ diagnostic.source = source ∧ diagnostic.cycle.trigger? = some file ∧
      ∃ next statement,
        (diagnostic.cycle.members = [file] ∧ next = file ∨
          ∃ rest, diagnostic.cycle.members = file :: next :: rest) ∧
        lastImport? resolve file next imports = some statement ∧
        diagnostic.location = statement.location ∧
        (linter.lintStatements resolve file imports source).2.graph.find? file next =
          some ⟨file, next, statement.location⟩ := by
  obtain ⟨cycle, found, rfl⟩ := exists_cycle_of_mem_lintStatements mem
  obtain ⟨next, round⟩ := (ImportGraph.closedWalk_of_mem_shortestCycles found).roundByFirst
  obtain ⟨statement, last, looked⟩ := find?_lintStatements linter source round.imports
  have trigger : cycle.trigger? = some file := ImportGraph.trigger?_of_mem_shortestCycles found
  refine ⟨?_, rfl, trigger, next, statement, round.members_eq, last, ?_, looked⟩
  · exact congrArg (·.getD FileId.root) trigger
  · simp only [diagnose, Diagnostic.new, entrance, round.head?_links, looked]
    rfl

end Linter

/-! ### What is cut out of the source -/

namespace Source.Spans

variable {source before span after : String} {place : Location}

theorem span_ne_empty (spans : Spans source place before span after) : span ≠ "" := by
  rintro rfl
  rcases spans.keyword with starts | starts <;> simp at starts

/-- The text of a statement is cut out by its place, unless its end is not a word of 64 bits. -/
theorem slice?_eq (spans : Spans source place before span after)
    (fits : source.utf8ByteSize < UInt64.size) :
    Text.slice? source.toList (min place.offset (Text.byteLength source.toList))
      (min place.stop (Text.byteLength source.toList)) = some span.toList := by
  have within := spans.stop_le
  have stop : place.stop = place.offset + place.length :=
    Nat.mod_eq_of_lt (Nat.lt_of_le_of_lt within fits)
  rw [stop, Text.byteLength_toList, Nat.min_eq_left within, Nat.min_eq_left (by omega),
    spans.offset, spans.length, ← Text.byteLength_toList, ← Text.byteLength_toList, spans.source_eq,
    String.append_assoc, String.toList_append, String.toList_append]
  exact Text.slice?_byteLength _ _ _

end Source.Spans

theorem Diagnostic.snippet_eq {diagnostic : Diagnostic} {before span after : String}
    (spans : Source.Spans diagnostic.source diagnostic.location before span after)
    (fits : diagnostic.source.utf8ByteSize < UInt64.size) : diagnostic.snippet = span := by
  simp only [snippet, spans.slice?_eq fits, Option.getD_some, String.ofList_toList]

/-- Each diagnostic for a file is about a cycle found from this file. It stands at the last statement
that leads to the second member of the cycle, or to the file itself where that is the only one, and the
graph has this place. What is shown of a text is a statement found in it, in one piece and starting with
a keyword; the ends of statements are words of 64 bits, so this is said of texts that are not longer. -/
theorem Linter.anchored_at_entrance (linter : Linter) (resolve : Resolve) (file : FileId) :
    (∀ imports source, ∀ diagnostic ∈ (linter.lintStatements resolve file imports source).1,
      diagnostic.file = file ∧ diagnostic.cycle.trigger? = some file ∧
        ∃ next statement,
          (diagnostic.cycle.members = [file] ∧ next = file ∨
            ∃ rest, diagnostic.cycle.members = file :: next :: rest) ∧
          lastImport? resolve file next imports = some statement ∧
          diagnostic.location = statement.location ∧
          (linter.lintStatements resolve file imports source).2.graph.find? file next =
            some ⟨file, next, statement.location⟩) ∧
      ∀ source : String, source.utf8ByteSize < UInt64.size →
        ∀ diagnostic ∈ (linter.lintText resolve file source).1,
          ∃ statement ∈ Source.imports source, diagnostic.location = statement.location ∧
            diagnostic.snippet ≠ "" ∧
            ∃ before after,
              Source.Spans source statement.location before diagnostic.snippet after := by
  constructor
  · intro imports source diagnostic mem
    obtain ⟨atFile, -, trigger, entrance⟩ := entrance_of_mem_lintStatements mem
    exact ⟨atFile, trigger, entrance⟩
  · intro source fits diagnostic mem
    obtain ⟨-, rfl, -, next, statement, -, last, location, -⟩ := entrance_of_mem_lintStatements mem
    have scanned := mem_of_lastImport? last
    obtain ⟨before, span, after, spans⟩ := Source.exists_spans scanned
    have shown : diagnostic.snippet = span :=
      Diagnostic.snippet_eq (location.symm ▸ spans) fits
    rw [← shown] at spans
    exact ⟨statement, scanned, location, spans.span_ne_empty, before, after, spans⟩

open FileId (inRoot)

/-- Files of which `a` imports `b`, before the imports of `b` are known. -/
def importedOnce : Linter where
  session := { graph := ⟨[⟨inRoot "a", inRoot "b", {}⟩]⟩ }

/-- Specifiers for `a` only. -/
def resolveToA : Resolve := fun specifier _ =>
  if specifier = "./a" then .file (inRoot "a") else .external

/-- Two statements that lead to one file. -/
def importedAndExported : String := "import './a'; export * from './a'"

theorem anchored_at_entrance_exported :
    ∃ diagnostic ∈ (importedOnce.lintText resolveToA (inRoot "b") importedAndExported).1,
      diagnostic.file = inRoot "b" ∧ diagnostic.cycle.members = [inRoot "b", inRoot "a"] ∧
        diagnostic.location = ⟨14, 19, 1, 15⟩ ∧
        importedAndExported.utf8ByteSize < UInt64.size ∧
        ∃ before after,
          Source.Spans importedAndExported ⟨14, 19, 1, 15⟩ before diagnostic.snippet after := by
  have imports : Source.imports importedAndExported =
      [⟨"./a", ⟨0, 12, 1, 1⟩⟩, ⟨"./a", ⟨14, 19, 1, 15⟩⟩] := by decide +kernel
  have returned : (importedOnce.session.analyse (inRoot "b") (Linter.resolved resolveToA (inRoot "b")
      [⟨"./a", ⟨0, 12, 1, 1⟩⟩, ⟨"./a", ⟨14, 19, 1, 15⟩⟩])).1 =
      [⟨[inRoot "b", inRoot "a"]⟩] := by cbv
  have entered : (importedOnce.lintStatements resolveToA (inRoot "b")
      [⟨"./a", ⟨0, 12, 1, 1⟩⟩, ⟨"./a", ⟨14, 19, 1, 15⟩⟩] importedAndExported).2.entrance
      ⟨[inRoot "b", inRoot "a"]⟩ = ⟨14, 19, 1, 15⟩ := by decide +kernel
  have mem : .new ⟨[inRoot "b", inRoot "a"]⟩ ⟨14, 19, 1, 15⟩ importedAndExported none ∈
      (importedOnce.lintText resolveToA (inRoot "b") importedAndExported).1 := by
    rw [Linter.lintText, imports]
    refine List.mem_map.2 ⟨_, returned ▸ List.mem_singleton_self _, ?_⟩
    exact congrArg (Diagnostic.new _ · importedAndExported none) entered
  have fits : importedAndExported.utf8ByteSize < UInt64.size := by decide
  have anchored := Linter.anchored_at_entrance importedOnce resolveToA (inRoot "b")
  obtain ⟨_, _, location, -, before, after, spans⟩ := anchored.2 _ fits _ mem
  rw [← location] at spans
  exact ⟨_, mem, (anchored.1 _ _ _ mem).1, rfl, rfl, fits, before, after, spans⟩

end ImportCycles
