import Wordweave.Memory
import Wordweave.Node
import Wordweave.Random.Choice
import Wordweave.Sound.Rime
import Wordweave.Term
import Wordweave.Vocabulary.Table

/-!
# Wordweave — picks

How a vocabulary answers a lookup. The lookup names a table and, perhaps, a subtype. If one of its
`matching` ties is anchored to an entry of that table, the entry is *pinned*: it is the answer
whatever else the lookup says. Otherwise one entry is drawn from those that

* pass all filters,
* have only classes that the filters ask for, if the lookup is exclusive, and
* stand to the remembered entries as the ties of the lookup demand.

Whichever way an entry is found, it is then recorded under all ties of the lookup. A lookup without
an answer draws nothing and records nothing.

Entries and terms are found by their places. A place may lie outside the list it belongs to only if
a table is not of one shape, and `Vocabulary.add` refuses such tables; the functions here give `none`
for it (`answer?`), and `Vocabulary.answer` turns that into no term at all.
-/

namespace Wordweave

/-! ## Classes as sets -/

/-- Whether two lists of classes have the same members. -/
def sameClasses (xs ys : List String) : Bool := xs.all (ys.contains ·) && ys.all (xs.contains ·)

/-- Whether two lists of classes have a member in common. -/
def shareClass (xs ys : List String) : Bool := xs.any (ys.contains ·)

/-! ## Candidates -/

/-- The term of an entry in the subtype at a place. -/
def Entry.term? (e : Entry) (subtype : Nat) : Option Term := (e.terms[subtype]?).map Term.ofMarked

/-- An entry with its place in the table and its term in the subtype that is asked for. -/
structure Candidate where
  index : Nat
  entry : Entry
  term : Term

/-- All entries of a table with their terms in the subtype at a place. -/
def Table.candidates? (t : Table) (subtype : Nat) : Option (List Candidate) :=
  t.entries.zipIdx.mapM fun (entry, index) => (entry.term? subtype).map (⟨index, entry, ·⟩)

namespace Lookup

/-- The classes that the filters of a lookup ask for. -/
def wantedClasses (q : Lookup) : List String := q.filters.flatMap (·.wantedClasses)

/-- Whether a candidate passes the filters. -/
def passes (q : Lookup) (c : Candidate) : Bool :=
  q.filters.all (·.accepts c.term.value c.entry.classes)

/-- Whether a candidate has no class beyond those asked for, if that is demanded. -/
def allowsClasses (q : Lookup) (c : Candidate) : Bool :=
  !q.exclusive || c.entry.classes.all (q.wantedClasses.contains ·)

end Lookup

/-! ## Ties -/

/-- Whether a candidate stands to an anchor as a kind of tie demands. Kinds that have their own way
of choosing demand nothing here. An anchor with fewer terms than subtypes rhymes by its last one. -/
def TieKind.relates? (kind : TieKind) (subtype : Nat) (c : Candidate) (anchor : Entry) :
    Option Bool :=
  match kind with
  | .matching | .unique => some true
  | .associative => some (sameClasses c.entry.classes anchor.classes)
  | .dissociative => some (!shareClass c.entry.classes anchor.classes)
  | .divergent => some (!sameClasses c.entry.classes anchor.classes)
  | .relational => some (shareClass c.entry.classes anchor.classes)
  | .rhyme => do
    let term ← anchor.term? (min subtype (anchor.terms.length - 1))
    return (← Sound.rime? c.term.value) == (← Sound.rime? term.value)

namespace Vocabulary

/-- The entry that a reference stands for. -/
def entry? (v : Vocabulary) (ref : EntryRef) : Option Entry :=
  (v.table? ref.table).bind (·.entries[ref.index]?)

/-- Whether a tie admits a candidate of a table. A tie that remembers no entry, or one that the
vocabulary does not have, admits all. -/
def admits? (v : Vocabulary) (m : Memory) (table : String) (subtype : Nat) (c : Candidate)
    (tie : Tie) : Option Bool :=
  if tie.kind = .unique then some ((m.used? tie).all (!·.contains ⟨table, c.index⟩))
  else
    match (m.anchor? tie).bind v.entry? with
    | some anchor => tie.kind.relates? subtype c anchor
    | none => some true

/-- Whether a lookup admits a candidate of a table. -/
def admissible? (v : Vocabulary) (m : Memory) (q : Lookup) (table : String) (subtype : Nat)
    (c : Candidate) : Option Bool :=
  if q.passes c && q.allowsClasses c then q.ties.allM (v.admits? m table subtype c)
  else some false

end Vocabulary

/-! ## Picking -/

/-- The place of the entry that a lookup is pinned to: of its `matching` names, the first that is
anchored in the table decides. -/
def Table.pinned? (t : Table) (q : Lookup) (m : Memory) : Option Nat :=
  (q.carrier.elim [] (·.names .matching)).findSome? fun name =>
    match m.anchor? ⟨.matching, name⟩ with
    | some ref => if ref.table = t.name ∧ ref.index < t.entries.length then some ref.index else none
    | none => none

/-- Remembers that an entry was picked under a tie. -/
def Memory.record (m : Memory) (ref : EntryRef) (tie : Tie) : Memory :=
  if tie.kind = .unique then m.markUsed tie ref else m.setAnchor tie ref

/-- Remembers that an entry was picked under several ties. -/
def Memory.recordAll (m : Memory) (ref : EntryRef) (ties : List Tie) : Memory :=
  ties.foldl (·.record ref ·) m

/-- What a lookup is answered: a term, if there is one, and what the answer leaves of the random
words and of the memory. -/
structure Answer where
  term : Option Term
  stream : Keystream
  memory : Memory

namespace Vocabulary

/-- The place of the entry that a lookup picks from a table, and the words that are left. -/
def pick? (v : Vocabulary) (q : Lookup) (t : Table) (subtype : Nat) (s : Keystream) (m : Memory) :
    Option (Option Nat × Keystream) :=
  match t.pinned? q m with
  | some index => some (some index, s)
  | none => do
    let candidates ← t.candidates? subtype
    let admitted ← candidates.filterM (v.admissible? m q t.name subtype)
    let (chosen, s) := s.choose admitted
    return (chosen.map (·.index), s)

/-- The answer to a lookup; `none` if a place lies outside its list. -/
def answer? (v : Vocabulary) (q : Lookup) (s : Keystream) (m : Memory) : Option Answer :=
  match q.name.bind v.table? with
  | none => some ⟨none, s, m⟩
  | some t =>
    match t.subtypeIndex? q.subtype with
    | none => some ⟨none, s, m⟩
    | some subtype =>
      match v.pick? q t subtype s m with
      | none => none
      | some (none, s) => some ⟨none, s, m⟩
      | some (some index, s) => do
        let entry ← t.entries[index]?
        let term ← entry.term? subtype
        return ⟨term, s, m.recordAll ⟨t.name, index⟩ q.ties⟩

/-- The answer to a lookup. -/
def answer (v : Vocabulary) (q : Lookup) (s : Keystream) (m : Memory) : Answer :=
  (v.answer? q s m).getD ⟨none, s, m⟩

end Vocabulary

end Wordweave
