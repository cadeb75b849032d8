import ImportCycles.Graph.Basic
import Std.Data.TreeMap

/-! # Imports kept in slots

A store of imports for quick look-ups. Each file has its imports in slots, in the order they were
first added, and an index that names the slot of each target. Look-ups and updates go through the
index. They give `none` where it names a slot that is not there.
-/

namespace ImportCycles

/-- The imports of one file, and the slot of each target. -/
structure Slots where
  edges : List Edge := []
  index : Std.TreeMap FileId Nat := ∅

namespace Slots

/-- The import of `target`, if there is one. -/
def find? (slots : Slots) (target : FileId) : Option (Option Edge) :=
  match slots.index[target]? with
  | none => some none
  | some slot => slots.edges[slot]?.map some

/-- Gives the import of `target` its new location, or adds it in a slot of its own. -/
def insert? (slots : Slots) (source target : FileId) (location : Location) : Option Slots :=
  match slots.index[target]? with
  | some slot => slots.edges[slot]?.map fun edge =>
      { slots with edges := slots.edges.set slot { edge with location } }
  | none => some
      { edges := slots.edges ++ [⟨source, target, location⟩]
        index := slots.index.insert target slots.edges.length }

end Slots

/-- The slots of each file that imports were added to. -/
structure SlotStore where
  slots : Std.TreeMap FileId Slots := ∅

namespace SlotStore

/-- The slots of `file`, none if it has no imports. -/
def slotsOf (store : SlotStore) (file : FileId) : Slots :=
  store.slots.getD file {}

/-- The imports of `file`, in the order they were first added. -/
def edgesFrom (store : SlotStore) (file : FileId) : List Edge :=
  (store.slotsOf file).edges

/-- The import of `target` by `source`, if there is one. -/
def find? (store : SlotStore) (source target : FileId) : Option (Option Edge) :=
  (store.slotsOf source).find? target

/-- Does `source` import `target`? -/
def hasEdge? (store : SlotStore) (source target : FileId) : Option Bool :=
  (store.find? source target).map Option.isSome

/-- Records that `source` imports `target` at `location`. -/
def insert? (store : SlotStore) (source target : FileId) (location : Location) :
    Option SlotStore :=
  ((store.slotsOf source).insert? source target location).map fun slots =>
    ⟨store.slots.insert source slots⟩

/-- Takes out every import of `file`, and tells how many there were. -/
def eraseFrom (store : SlotStore) (file : FileId) : Nat × SlotStore :=
  ((store.edgesFrom file).length, ⟨store.slots.erase file⟩)

/-- The number of imports. -/
def size (store : SlotStore) : Nat :=
  store.slots.toList.foldr (fun (_, slots) count => slots.edges.length + count) 0

/-- Every file that imports or is imported, in path order. -/
def files (store : SlotStore) : List FileId :=
  FileId.sorted ((store.slots.toList.filter fun (_, slots) => !slots.edges.isEmpty).flatMap
    fun (file, slots) => file :: slots.edges.map (·.target))

end SlotStore

end ImportCycles
