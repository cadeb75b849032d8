import ImportCycles.Cycle.Basic
import ImportCycles.Graph.Steps
import Mathlib.Data.List.Rotate
import Mathlib.Data.Set.Defs
import Mathlib.Logic.Relation

/-! # Walks along imports

A walk is written as the files it leaves, in order, so its length is the number of imports it
follows and a closed walk is written exactly like the members of a cycle. Reachability is walking
with the files forgotten. From both come the notions that the searches are measured by: closed walks
through a file, simple cycles, and strongly connected components.
-/

namespace ImportCycles

/-- `Walk link a files b` says that links lead from `a` to `b` through `files`, which starts with `a`
and leaves out `b`. -/
inductive Walk (link : FileId → FileId → Prop) : FileId → List FileId → FileId → Prop
  | nil (a : FileId) : Walk link a [] a
  | cons {a b c : FileId} {files : List FileId} :
    link a b → Walk link b files c → Walk link a (a :: files) c

namespace Walk

variable {link other : FileId → FileId → Prop} {a b c x : FileId} {files rest : List FileId}

theorem single (step : link a b) : Walk link a [a] b :=
  .cons step (.nil b)

theorem append (front : Walk link a files b) (back : Walk link b rest c) :
    Walk link a (files ++ rest) c := by
  induction front with
  | nil => exact back
  | cons step _ ih => exact .cons step (ih back)

/-- A walk along two lists of files is a walk along the one and then along the other. -/
theorem of_append (walk : Walk link a (files ++ rest) c) :
    ∃ b, Walk link a files b ∧ Walk link b rest c := by
  induction files generalizing a with
  | nil => exact ⟨a, .nil a, walk⟩
  | cons file files ih =>
    cases walk with
    | cons step walk =>
      obtain ⟨b, front, back⟩ := ih walk
      exact ⟨b, .cons step front, back⟩

/-- A walk can be divided at every file it leaves. -/
theorem split (walk : Walk link a files b) (mem : x ∈ files) :
    ∃ front back, files = front ++ x :: back ∧ Walk link a front x ∧ Walk link x (x :: back) b := by
  induction walk with
  | nil => simp at mem
  | @cons a _ _ files step walk ih =>
    rcases List.mem_cons.1 mem with rfl | mem
    · exact ⟨[], files, rfl, .nil x, .cons step walk⟩
    · obtain ⟨front, back, rfl, walkFront, walkBack⟩ := ih mem
      exact ⟨a :: front, back, rfl, .cons step walkFront, walkBack⟩

/-- A walk of one link at most that leads to another file is this link. -/
theorem link_of_short (walk : Walk link a files b) (apart : a ≠ b) (short : files.length ≤ 1) :
    link a b := by
  cases walk with
  | nil => exact absurd rfl apart
  | cons step walk =>
    cases walk with
    | nil => exact step
    | cons _ _ => simp at short

theorem exists_link (walk : Walk link a files b) (mem : x ∈ files) : ∃ y, link x y := by
  obtain ⟨_, _, _, _, back⟩ := walk.split mem
  cases back with
  | cons step _ => exact ⟨_, step⟩

/-- A walk stays one where its links hold for another reason. -/
theorem imp (walk : Walk link a files b) (weaken : ∀ x y, x ∈ files → link x y → other x y) :
    Walk other a files b := by
  induction walk with
  | nil => exact .nil _
  | cons step _ ih =>
    refine .cons (weaken _ _ (by simp) step) (ih ?_)
    intro x y mem
    exact weaken x y (List.mem_cons_of_mem _ mem)

theorem reaches (walk : Walk link a files b) : Relation.ReflTransGen link a b := by
  induction walk with
  | nil => exact .refl
  | cons step _ ih => exact ih.head step

theorem exists_of_reaches (reaches : Relation.ReflTransGen link a b) :
    ∃ files, Walk link a files b := by
  induction reaches with
  | refl => exact ⟨[], .nil a⟩
  | tail _ step ih =>
    obtain ⟨files, walk⟩ := ih
    exact ⟨_, walk.append (.single step)⟩

/-- Whatever a walk leaves is reached from its start and reaches its end by one link or more. -/
theorem reaches_mem (walk : Walk link a files b) (mem : x ∈ files) :
    Relation.ReflTransGen link a x ∧ Relation.TransGen link x b := by
  obtain ⟨_, _, _, front, back⟩ := walk.split mem
  cases back with
  | cons step rest => exact ⟨front.reaches, Relation.TransGen.head' step rest.reaches⟩

/-- Each file of a walk is linked to the one after it, the last to where the walk ends. -/
theorem forall_zip (walk : Walk link a files b) :
    ∀ pair ∈ files.zip (files.drop 1 ++ [b]), link pair.1 pair.2 := by
  induction walk with
  | nil => simp
  | cons step walk ih =>
    cases walk with
    | nil => simpa using step
    | cons next rest =>
      intro pair mem
      rcases List.mem_cons.1 mem with rfl | mem
      · exact step
      · exact ih pair mem

/-- A walk can be divided at every link it follows. -/
theorem split_link {y : FileId} (walk : Walk link a files b)
    (mem : (x, y) ∈ files.zip (files.drop 1 ++ [b])) :
    ∃ front back, files = front ++ x :: back ∧ Walk link a front x ∧ link x y ∧
      Walk link y back b := by
  induction walk with
  | nil => simp at mem
  | @cons a c _ _ step walk ih =>
    cases walk with
    | nil =>
      obtain ⟨rfl, rfl⟩ : x = a ∧ y = c := by simpa using mem
      exact ⟨[], [], rfl, .nil x, step, .nil y⟩
    | @cons _ _ _ later next rest =>
      rcases List.mem_cons.1 mem with same | mem
      · obtain ⟨rfl, rfl⟩ := Prod.mk.inj same
        exact ⟨[], y :: later, rfl, .nil x, step, .cons next rest⟩
      · obtain ⟨front, back, split, walkFront, link, walkBack⟩ := ih mem
        exact ⟨a :: front, back, by rw [split, List.cons_append], .cons step walkFront, link,
          walkBack⟩

/-- Between its two parts a walk follows the link that joins them. -/
theorem mem_zip_of_parts {y : FileId} {front back : List FileId} (walkFront : Walk link a front x)
    (walkBack : Walk link y back b) :
    (x, y) ∈ (front ++ x :: back).zip ((front ++ x :: back).drop 1 ++ [b]) := by
  induction walkFront with
  | nil => cases walkBack <;> simp
  | @cons a _ x front _ _ ih =>
    obtain ⟨first, rest, files⟩ : ∃ first rest, front ++ x :: back = first :: rest :=
      List.exists_cons_of_ne_nil (by simp)
    have inRest := ih
    rw [files] at inRest
    rw [List.cons_append, files]
    exact List.mem_cons_of_mem _ inRest

/-- A walk stays one where each link that it follows holds for another reason. -/
theorem imp_links (walk : Walk link a files b)
    (weaken : ∀ x y, (x, y) ∈ files.zip (files.drop 1 ++ [b]) → link x y → other x y) :
    Walk other a files b := by
  induction walk with
  | nil => exact .nil _
  | @cons a c _ _ step walk ih =>
    cases walk with
    | nil => exact .single (weaken a c (by simp) step)
    | cons next rest =>
      refine .cons (weaken a c (by simp) step) (ih ?_)
      intro x y mem
      exact weaken x y (List.mem_cons_of_mem _ mem)

end Walk

namespace ImportGraph

/-- `source` imports `target`. -/
def Imports (graph : ImportGraph) (source target : FileId) : Prop :=
  graph.hasEdge source target = true

instance (graph : ImportGraph) (source target : FileId) : Decidable (graph.Imports source target) :=
  inferInstanceAs (Decidable (graph.hasEdge source target = true))

/-- A walk from `file` back to itself by at least one import. -/
def ClosedWalk (graph : ImportGraph) (file : FileId) (members : List FileId) : Prop :=
  members ≠ [] ∧ Walk graph.Imports file members file

/-- A closed walk that leaves no file twice, written from any of its members. -/
def SimpleCycle (graph : ImportGraph) (members : List FileId) : Prop :=
  members.Nodup ∧ ∃ file, graph.ClosedWalk file members

/-- Is there a simple cycle of at most `limit` imports? -/
def HasCycleWithin (graph : ImportGraph) (limit : Nat) : Prop :=
  ∃ members, graph.SimpleCycle members ∧ members.length ≤ limit

/-- Imports lead from `a` to `b`, and from `b` to `a`. -/
def Connected (graph : ImportGraph) (a b : FileId) : Prop :=
  Relation.ReflTransGen graph.Imports a b ∧ Relation.ReflTransGen graph.Imports b a

/-- The strongly connected components: what is connected with some file. -/
def IsComponent (graph : ImportGraph) (component : Set FileId) : Prop :=
  ∃ file, ∀ other, other ∈ component ↔ graph.Connected file other

variable {graph : ImportGraph} {source target file : FileId} {members : List FileId}

theorem imports_iff_mem_targets : graph.Imports source target ↔ target ∈ graph.targets source := by
  simp [Imports, hasEdge, find?, targets]

theorem imports_iff_mem_importers :
    graph.Imports source target ↔ source ∈ graph.importers target := by
  rw [imports_iff_mem_targets]
  simp only [targets, edgesFrom, importers, List.mem_map, List.mem_filter, decide_eq_true_eq]
  constructor
  · rintro ⟨edge, ⟨mem, atSource⟩, atTarget⟩
    exact ⟨edge, ⟨mem, atTarget⟩, atSource⟩
  · rintro ⟨edge, ⟨mem, atTarget⟩, atSource⟩
    exact ⟨edge, ⟨mem, atSource⟩, atTarget⟩

theorem mem_next_outgoing : target ∈ graph.outgoing.next source ↔ graph.Imports source target := by
  rw [next_outgoing, imports_iff_mem_targets]

theorem mem_next_incoming : source ∈ graph.incoming.next target ↔ graph.Imports source target := by
  rw [next_incoming, imports_iff_mem_importers]

/-- A closed walk can start at any of its members. -/
theorem ClosedWalk.rotate (closed : graph.ClosedWalk file members) {other : FileId}
    (mem : other ∈ members) : ∃ rotated, rotated ~r members ∧ graph.ClosedWalk other rotated := by
  obtain ⟨front, back, rfl, walkFront, walkBack⟩ := closed.2.split mem
  exact ⟨other :: back ++ front, List.isRotated_append, by simp, walkBack.append walkFront⟩

theorem ClosedWalk.head_mem (closed : graph.ClosedWalk file members) : file ∈ members := by
  obtain ⟨nonempty, walk⟩ := closed
  cases walk with
  | nil => exact absurd rfl nonempty
  | cons _ _ => simp

/-- The links of a closed walk, as a cycle, are those that the walk follows. -/
theorem ClosedWalk.links_eq (closed : graph.ClosedWalk file members) :
    (Cycle.mk members).links = members.zip (members.drop 1 ++ [file]) := by
  obtain ⟨nonempty, walk⟩ := closed
  cases walk with
  | nil => exact absurd rfl nonempty
  | cons _ _ => rfl

/-- Any two members of a closed walk are connected. -/
theorem ClosedWalk.connected (closed : graph.ClosedWalk file members) {x y : FileId}
    (memX : x ∈ members) (memY : y ∈ members) : graph.Connected x y := by
  obtain ⟨toX, fromX⟩ := closed.2.reaches_mem memX
  obtain ⟨toY, fromY⟩ := closed.2.reaches_mem memY
  exact ⟨fromX.to_reflTransGen.trans toY, fromY.to_reflTransGen.trans toX⟩

theorem Connected.trans {a b c : FileId} (front : graph.Connected a b)
    (back : graph.Connected b c) : graph.Connected a c :=
  ⟨front.1.trans back.1, back.2.trans front.2⟩

end ImportGraph

end ImportCycles
