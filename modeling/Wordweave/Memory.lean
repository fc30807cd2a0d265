import Wordweave.Carrier

/-!
# Wordweave — memory

What a run remembers under its ties: for most of them the entry picked first, which is their
*anchor*; for the ties of kind `unique` all entries picked so far. Memory is changed in three ways.
`setAnchor` leaves alone a tie that already remembers something, `markUsed` turns an anchor into a
set of entries, and `remove` forgets a tie.

A memory holds one slot for each tie. How the slots are stored is of no account: two memories say
the same when `get?` does.
-/

namespace Wordweave

/-- An entry of a vocabulary: its table and its place there. -/
structure EntryRef where
  table : String
  index : Nat
deriving DecidableEq

/-- What is remembered under a tie. -/
inductive Recall
  | anchor (entry : EntryRef)
  | used (entries : List EntryRef)
deriving DecidableEq

/-- What is remembered under all ties. -/
structure Memory where
  slots : List (Tie × Recall)
  nodup : (slots.map (·.1)).Nodup

namespace Memory

/-- The memory that remembers nothing. -/
def empty : Memory := ⟨[], by simp⟩

instance : Inhabited Memory := ⟨empty⟩

/-- What is remembered under a tie. -/
def get? (m : Memory) (tie : Tie) : Option Recall :=
  (m.slots.find? (·.1 == tie)).map (·.2)

/-- Whether anything is remembered under a tie. -/
def contains (m : Memory) (tie : Tie) : Bool := (m.get? tie).isSome

/-- The anchor of a tie. -/
def anchor? (m : Memory) (tie : Tie) : Option EntryRef :=
  match m.get? tie with
  | some (.anchor entry) => some entry
  | _ => none

/-- The entries used under a tie. -/
def used? (m : Memory) (tie : Tie) : Option (List EntryRef) :=
  match m.get? tie with
  | some (.used entries) => some entries
  | _ => none

/-- The number of ties under which something is remembered. -/
def size (m : Memory) : Nat := m.slots.length

/-- Forgets a tie. -/
def remove (m : Memory) (tie : Tie) : Memory :=
  ⟨m.slots.filter (·.1 != tie), by
    refine List.Sublist.nodup (List.Sublist.map _ List.filter_sublist) m.nodup⟩

/-- Remembers something under a tie in place of what was there. -/
def put (m : Memory) (tie : Tie) (memo : Recall) : Memory :=
  ⟨(tie, memo) :: (m.remove tie).slots, by
    refine List.nodup_cons.2 ⟨?_, (m.remove tie).nodup⟩
    simp [remove, List.mem_map, List.mem_filter]⟩

/-- Anchors a tie to an entry unless it remembers something already. -/
def setAnchor (m : Memory) (tie : Tie) (entry : EntryRef) : Memory :=
  if m.contains tie then m else m.put tie (.anchor entry)

/-- Adds an entry to those used under a tie. -/
def markUsed (m : Memory) (tie : Tie) (entry : EntryRef) : Memory :=
  match m.get? tie with
  | some (.used entries) =>
    if entries.contains entry then m else m.put tie (.used (entries ++ [entry]))
  | _ => m.put tie (.used [entry])

/-- Forgets several ties. -/
def removeAll (m : Memory) (ties : List Tie) : Memory := ties.foldl remove m

end Memory

end Wordweave
