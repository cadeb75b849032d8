import ImportCycles.Graph.Reach
import ImportCycles.Proofs.Walk

/-! # What the reachability search finds

The search visits exactly the files that steps lead to. So a file is on a cycle exactly if one or
more imports lead from it back to itself, and its mates are the files of its strongly connected
component, provided it is on a cycle at all.
-/

namespace ImportCycles

/-- A file is in an enlarged set if it was added or was there. -/
theorem FileSet.mem_insert {set : FileSet} {file x : FileId} :
    x ∈ set.insert file ↔ x = file ∨ x ∈ set := by
  rw [Std.TreeSet.mem_insert, Std.LawfulEqOrd.compare_eq_iff_eq, eq_comm]

namespace Steps

/-- `a` leads to `b` in one step. -/
def Leads (steps : Steps) (a b : FileId) : Prop :=
  b ∈ steps.next a

variable {steps : Steps} {visited : FileSet} {stack start : List FileId} {x : FileId}

/-- Nothing is forgotten: what is visited or waits to be visited is visited in the end. -/
theorem mem_closure_of_mem (mem : x ∈ visited ∨ x ∈ stack) : x ∈ steps.closure visited stack := by
  fun_induction closure steps visited stack with
  | case1 visited => simpa using mem
  | case2 visited file rest old ih =>
    apply ih
    rcases mem with mem | mem
    · exact .inl mem
    · rcases List.mem_cons.1 mem with rfl | mem
      · exact .inl (Std.TreeSet.contains_iff_mem.1 old)
      · exact .inr mem
  | case3 visited file rest new ih =>
    apply ih
    rw [FileSet.mem_insert]
    rcases mem with mem | mem
    · exact .inl (.inr mem)
    · rcases List.mem_cons.1 mem with rfl | mem
      · exact .inl (.inl rfl)
      · exact .inr (List.mem_append_right _ mem)

/-- Nothing is made up: a property that steps keep holds of all visited files if it holds of those
that are visited already and those that wait. -/
theorem closure_induction {P : FileId → Prop} (keeps : ∀ a b, steps.Leads a b → P a → P b)
    (old : ∀ a ∈ visited, P a) (waiting : ∀ a ∈ stack, P a) :
    ∀ a ∈ steps.closure visited stack, P a := by
  fun_induction closure steps visited stack with
  | case1 visited => exact old
  | case2 visited file rest _ ih =>
    exact ih old fun a mem => waiting a (List.mem_cons_of_mem _ mem)
  | case3 visited file rest new ih =>
    have here : P file := waiting file (by simp)
    apply ih
    · intro a mem
      rcases FileSet.mem_insert.1 mem with rfl | mem
      · exact here
      · exact old a mem
    · intro a mem
      rcases List.mem_append.1 mem with mem | mem
      · exact keeps file a mem here
      · exact waiting a (List.mem_cons_of_mem _ mem)

/-- Nothing is left out: the visited files lead to visited files only, provided whatever the files
visited so far lead to is visited or waits. -/
theorem closure_closed
    (pending : ∀ a ∈ visited, ∀ b, steps.Leads a b → b ∈ visited ∨ b ∈ stack) :
    ∀ a ∈ steps.closure visited stack, ∀ b, steps.Leads a b →
      b ∈ steps.closure visited stack := by
  fun_induction closure steps visited stack with
  | case1 visited => simpa using pending
  | case2 visited file rest old ih =>
    apply ih
    intro a mem b leads
    rcases pending a mem b leads with seen | waits
    · exact .inl seen
    · rcases List.mem_cons.1 waits with rfl | waits
      · exact .inl (Std.TreeSet.contains_iff_mem.1 old)
      · exact .inr waits
  | case3 visited file rest new ih =>
    apply ih
    intro a mem b leads
    rw [FileSet.mem_insert, List.mem_append]
    rcases FileSet.mem_insert.1 mem with rfl | mem
    · exact .inr (.inl leads)
    · rcases pending a mem b leads with seen | waits
      · exact .inl (.inr seen)
      · rcases List.mem_cons.1 waits with rfl | waits
        · exact .inl (.inl rfl)
        · exact .inr (.inr waits)

/-- The files reached are those that zero or more steps lead to. -/
theorem mem_reachable :
    x ∈ steps.reachable start ↔ ∃ a ∈ start, Relation.ReflTransGen steps.Leads a x := by
  constructor
  · refine closure_induction (P := fun x => ∃ a ∈ start, Relation.ReflTransGen steps.Leads a x)
      ?_ ?_ ?_ x
    · rintro b c leads ⟨a, mem, reaches⟩
      exact ⟨a, mem, reaches.tail leads⟩
    · intro a mem
      simp at mem
    · intro a mem
      exact ⟨a, mem, .refl⟩
  · rintro ⟨a, mem, reaches⟩
    have closed : ∀ b ∈ steps.reachable start, ∀ c, steps.Leads b c → c ∈ steps.reachable start :=
      closure_closed (by simp)
    induction reaches with
    | refl => exact mem_closure_of_mem (.inr mem)
    | tail _ leads ih => exact closed _ ih _ leads

end Steps

namespace ImportGraph

variable {graph : ImportGraph} {file x : FileId}

theorem leads_outgoing : graph.outgoing.Leads = graph.Imports := by
  funext a b
  exact propext mem_next_outgoing

theorem leads_incoming : graph.incoming.Leads = Function.swap graph.Imports := by
  funext a b
  exact propext mem_next_incoming

/-- A file is on a cycle if one or more imports lead from it back to itself. -/
theorem isOnCycle_iff : graph.isOnCycle file = true ↔ Relation.TransGen graph.Imports file file := by
  rw [isOnCycle, Std.TreeSet.contains_iff_mem, Steps.mem_reachable, leads_outgoing,
    Relation.TransGen.head'_iff]
  simp only [imports_iff_mem_targets]

theorem ClosedWalk.isOnCycle {walk : List FileId} (closed : graph.ClosedWalk file walk) :
    graph.isOnCycle file = true :=
  isOnCycle_iff.2 (closed.2.reaches_mem closed.head_mem).2

/-- The mates of a file are the files it leads to that lead back to it by one or more imports. -/
theorem mem_cycleMates :
    x ∈ graph.cycleMates file ↔
      Relation.ReflTransGen graph.Imports file x ∧ Relation.TransGen graph.Imports x file := by
  simp only [cycleMates, Std.TreeSet.mem_filter, Std.TreeSet.get_eq, exists_prop,
    Std.TreeSet.contains_iff_mem, Steps.mem_reachable, leads_outgoing, leads_incoming,
    List.mem_singleton, exists_eq_left]
  rw [and_comm, Relation.TransGen.tail'_iff]
  simp only [← imports_iff_mem_importers, Relation.reflTransGen_swap, and_comm]

end ImportGraph

end ImportCycles
