/-! # Sorted lists

Sorting by insertion. `sortBy` is stable: elements that the order does not tell apart keep their
places relative to each other. `sortNew` sorts by a strict order and keeps one of each class of
equal elements, so its result is strictly increasing.
-/

namespace ImportCycles.Sorted

/-- Puts `a` in front of the first element it may precede. -/
def insertBy {α : Type} (le : α → α → Bool) (a : α) : List α → List α
  | [] => [a]
  | b :: rest => if le a b then a :: b :: rest else b :: insertBy le a rest

/-- Sorts by `le`; elements that are equal under `le` stay in the order they came in. -/
def sortBy {α : Type} (le : α → α → Bool) : List α → List α
  | [] => []
  | a :: rest => insertBy le a (sortBy le rest)

/-- Puts `a` into a strictly increasing list unless it is there already. -/
def insertNew {α : Type} (lt : α → α → Bool) (a : α) : List α → List α
  | [] => [a]
  | b :: rest =>
    if lt a b then a :: b :: rest
    else if lt b a then b :: insertNew lt a rest
    else b :: rest

/-- The strictly increasing list of the elements of a list. -/
def sortNew {α : Type} (lt : α → α → Bool) : List α → List α
  | [] => []
  | a :: rest => insertNew lt a (sortNew lt rest)

/-- Keeps the first of every run of neighbours with one key, given the key before them. -/
def dropRepeatsOf {α β : Type} [DecidableEq β] (key : α → β) (last : β) : List α → List α
  | [] => []
  | a :: rest =>
    if key a = last then dropRepeatsOf key last rest else a :: dropRepeatsOf key (key a) rest

/-- Keeps the first of every run of neighbours with one key. -/
def dropRepeats {α β : Type} [DecidableEq β] (key : α → β) : List α → List α
  | [] => []
  | a :: rest => a :: dropRepeatsOf key (key a) rest

/-- Keeps the first occurrence of every element. -/
def firstOccurrences {α : Type} [DecidableEq α] : List α → List α
  | [] => []
  | a :: rest => a :: (firstOccurrences rest).filter (· ≠ a)

end ImportCycles.Sorted
