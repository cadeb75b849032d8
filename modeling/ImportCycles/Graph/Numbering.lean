import ImportCycles.Graph.Slots
import ImportCycles.Graph.Snapshot

/-! # Taking snapshots of a store

The entries of a store are gone through in whatever order they come. A snapshot gives its files their
numbers one after the other, in path order, and then looks up the numbers of both ends of every
import. It is `none` if a file that is looked up has no number.
-/

namespace ImportCycles

/-- Files that have got their numbers, and the number of each. -/
structure Numbering where
  files : List FileId := []
  index : Std.TreeMap FileId Nat := ∅

namespace Numbering

/-- Gives the next number to `file`. -/
def add (numbering : Numbering) (file : FileId) : Numbering where
  files := numbering.files ++ [file]
  index := numbering.index.insert file numbering.files.length

/-- Numbers the files in the order given. -/
def ofFiles (files : List FileId) : Numbering :=
  files.foldl add {}

/-- An import by the numbers of its files, if both have one. -/
def edge? (numbering : Numbering) (edge : Edge) : Option NumberedEdge := do
  let source ← numbering.index[edge.source]?
  let target ← numbering.index[edge.target]?
  return ⟨source, target, edge.location⟩

end Numbering

namespace SlotStore

/-- The entries of a store in the order in which they happen to come. -/
structure Listing (store : SlotStore) where
  entries : List (FileId × Slots)
  perm : entries.Perm store.slots.toList

namespace Listing

variable {store : SlotStore}

/-- Every import, entry by entry. -/
def edges (listing : store.Listing) : List Edge :=
  listing.entries.flatMap fun (_, slots) => slots.edges

/-- Every file that imports or is imported, in path order. -/
def files (listing : store.Listing) : List FileId :=
  FileId.sorted ((listing.entries.filter fun (_, slots) => !slots.edges.isEmpty).flatMap
    fun (file, slots) => file :: slots.edges.map (·.target))

/-- The snapshot of the store, unless a look-up finds no number. -/
def snapshot? (listing : store.Listing) : Option Snapshot := do
  let numbering := Numbering.ofFiles listing.files
  let edges ← (Sorted.sortBy ImportGraph.edgeBefore listing.edges).mapM numbering.edge?
  return ⟨numbering.files, edges⟩

end Listing

end SlotStore

end ImportCycles
