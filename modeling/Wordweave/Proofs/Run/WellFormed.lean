import Wordweave.Proofs.Memory.Slots
import Wordweave.Proofs.Run.Journal

/-!
# Wordweave — well-formed memories

A memory could hold an anchor under a name of kind `unique`, used entries under a name of any other
kind, or a reference to an entry that is not in the vocabulary. The functions that read and write it
have an answer for each of these, but a session never comes to ask for it. Its memory is *well
formed*: what is remembered under a tie suits the kind of the tie (`TieKind.Holds`).

The empty memory is well formed, and every event that fits keeps it so (`Memory.WellFormed.apply`).
So a session does, wherever it is stopped, as its events lead to the memory that it has then
(`Machine.leads_journal`).

That the answers for the other cases are not asked for is told by functions that do not have them.
Each is the function that runs as long as the memory is in order, and gives `none` where that one
would fall back on something: `Vocabulary.strictAdmits?` for the test of a candidate,
`Table.strictPinned?` for the search for a pin and `Memory.strictRecordAll?` for the record of a
pick. In a well-formed memory they are the functions that run.

Main result:

* `Session.wellFormed` — after every step of a session its memory is well formed, and nothing falls
  back.
-/

namespace Wordweave

/-! ## Well-formed memories -/

/-- A reference names a table of the vocabulary and a place within its entries. -/
def Vocabulary.Has (v : Vocabulary) (ref : EntryRef) : Prop :=
  ∃ t, v.table? ref.table = some t ∧ ref.index < t.entries.length

/-- What may be remembered under a tie of some kind: under `unique` at least one used entry, under
the other kinds an anchor. -/
inductive TieKind.Holds (v : Vocabulary) : TieKind → Recall → Prop
  | anchor {kind : TieKind} {ref : EntryRef} (hkind : kind ≠ .unique) (href : v.Has ref) :
      Holds v kind (.anchor ref)
  | used {kind : TieKind} {entries : List EntryRef} (hkind : kind = .unique)
      (hne : entries ≠ []) (hrefs : ∀ ref ∈ entries, v.Has ref) : Holds v kind (.used entries)

def Memory.WellFormed (v : Vocabulary) (m : Memory) : Prop :=
  ∀ tie memo, m.get? tie = some memo → tie.kind.Holds v memo

variable {v : Vocabulary}

theorem Vocabulary.Has.exists_entry {ref : EntryRef} (h : v.Has ref) :
    ∃ e, v.entry? ref = some e := by
  obtain ⟨t, htable, hindex⟩ := h
  refine ⟨t.entries[ref.index], ?_⟩
  rw [Vocabulary.entry?, htable, Option.bind_some, List.getElem?_eq_getElem hindex]

/-- A pick that is right is of an entry that is there. -/
theorem Pick.Fits.has_entry {p : Pick} {m : Memory} {t : Table} {subtype : Nat} {e : Entry}
    (h : p.Fits v m t subtype e) : v.Has p.entry := by
  obtain ⟨hindex, -⟩ := List.getElem?_eq_some_iff.mp h.entry_eq
  exact ⟨t, h.table?_eq, hindex⟩

theorem TieKind.holds_picked {kind : TieKind} {ref : EntryRef} {before : Option Recall}
    (href : v.Has ref) (hbefore : ∀ memo, before = some memo → kind.Holds v memo) :
    kind.Holds v (kind.picked ref before) := by
  cases before with
  | none =>
    rw [picked]
    split
    · next hkind =>
      exact .used hkind (List.cons_ne_nil _ _) (List.forall_mem_singleton.mpr href)
    · next hkind => exact .anchor hkind href
  | some memo =>
    cases hbefore memo rfl with
    | anchor hkind hanchor =>
      rw [picked, if_neg hkind]
      exact .anchor hkind hanchor
    | used hkind hne hrefs =>
      -- a new entry comes after those that are there, and any other one changes nothing
      rw [picked]
      split
      · refine .used hkind (List.append_ne_nil_of_left_ne_nil hne _) fun other hother => ?_
        rcases List.mem_append.mp hother with hold | hnew
        · exact hrefs other hold
        · rwa [List.mem_singleton.mp hnew]
      · exact .used hkind hne hrefs

namespace Memory.WellFormed

variable {m : Memory}

theorem empty : Memory.empty.WellFormed v := fun _ _ h => nomatch h

theorem recordAll (h : m.WellFormed v) {ref : EntryRef} (href : v.Has ref) (ties : List Tie) :
    (m.recordAll ref ties).WellFormed v :=
  forall_recordAll h (fun _ _ hbefore => TieKind.holds_picked href hbefore) ties

theorem removeAll (h : m.WellFormed v) (ties : List Tie) : (m.removeAll ties).WellFormed v :=
  forall_removeAll h ties

/-- **An event** that fits keeps a memory well formed. -/
theorem apply (h : m.WellFormed v) {e : Event} (hfits : e.Fits v m) :
    (e.apply m).WellFormed v := by
  cases e with
  | picked p =>
    obtain ⟨t, subtype, entry, hp⟩ := hfits
    exact h.recordAll hp.has_entry _
  | missed q => exact h
  | erased q => exact h.removeAll _

/-- **Events** that lead from one memory to another keep it well formed. -/
theorem leads {m' : Memory} {events : List Event} (h : m.WellFormed v)
    (hleads : Leads v m events m') : m'.WellFormed v := by
  induction hleads with
  | nil => exact h
  | cons hfits _ ih => exact ih (h.apply hfits)

end Memory.WellFormed

/-! ## Without anything to fall back on -/

/-- The test of a candidate; `none` if what is remembered does not suit the kind of the tie, or if
the anchor is no entry of the vocabulary. -/
def Vocabulary.strictAdmits? (v : Vocabulary) (m : Memory) (table : String) (subtype : Nat)
    (c : Candidate) (tie : Tie) : Option (Option Bool) :=
  match m.get? tie with
  | none => some (some true)
  | some (.used entries) =>
    if tie.kind = .unique then some (some (!entries.contains ⟨table, c.index⟩)) else none
  | some (.anchor ref) =>
    if tie.kind = .unique then none else (v.entry? ref).map (tie.kind.relates? subtype c)

/-- The search for a pin; `none` if it comes to used entries, or to a place beyond those of the
table. -/
def Table.strictPinned? (t : Table) (q : Lookup) (m : Memory) : Option (Option Nat) :=
  q.matchingNames.findSomeM? fun name =>
    match m.get? ⟨.matching, name⟩ with
    | none => some none
    | some (.used _) => none
    | some (.anchor ref) =>
      if ref.table ≠ t.name then some none
      else if ref.index < t.entries.length then some (some ref.index) else none

/-- The record of a pick under a tie; `none` if what is remembered does not suit its kind. -/
def Memory.strictRecord? (m : Memory) (ref : EntryRef) (tie : Tie) : Option Memory :=
  match m.get? tie with
  | none => some (m.put tie (if tie.kind = .unique then .used [ref] else .anchor ref))
  | some (.used entries) =>
    if tie.kind = .unique then
      some (if entries.contains ref then m else m.put tie (.used (entries ++ [ref])))
    else none
  | some (.anchor _) => if tie.kind = .unique then none else some m

def Memory.strictRecordAll? (m : Memory) (ref : EntryRef) (ties : List Tie) : Option Memory :=
  ties.foldlM (·.strictRecord? ref ·) m

/-- A partial search that never fails is the search. -/
theorem findSomeM?_eq_some {α β : Type} {f : α → Option (Option β)} {g : α → Option β}
    (h : ∀ a, f a = some (g a)) (l : List α) : l.findSomeM? f = some (l.findSome? g) := by
  induction l with
  | nil => rfl
  | cons a l ih =>
    rw [List.findSomeM?_cons, List.findSome?_cons, h]
    cases g a with
    | none => exact ih
    | some b => rfl

section Strict

variable {m : Memory} (h : m.WellFormed v)

include h

theorem Vocabulary.strictAdmits?_eq (table : String) (subtype : Nat) (c : Candidate) (tie : Tie) :
    v.strictAdmits? m table subtype c tie = some (v.admits? m table subtype c tie) := by
  unfold strictAdmits? admits? Memory.used? Memory.anchor?
  cases hget : m.get? tie with
  | none => simp
  | some memo =>
    cases h tie memo hget with
    | anchor hkind href =>
      obtain ⟨e, he⟩ := href.exists_entry
      simp [hkind, he]
    | used hkind hne hrefs => simp [hkind]

theorem Table.strictPinned?_eq {t : Table} (ht : v.table? t.name = some t) (q : Lookup) :
    t.strictPinned? q m = some (t.pinned? q m) := by
  refine findSomeM?_eq_some (fun name => ?_) q.matchingNames
  unfold Memory.anchor?
  cases hget : m.get? ⟨.matching, name⟩ with
  | none => rfl
  | some memo =>
    cases h _ memo hget with
    | @anchor ref hkind href =>
      obtain ⟨t', ht', hindex⟩ := href
      by_cases hname : ref.table = t.name
      · -- the anchor is in this very table, so its place is one of its places
        rw [hname, ht] at ht'
        obtain rfl := Option.some.inj ht'
        simp [hname, hindex]
      · simp [hname]
    | used hkind => exact nomatch hkind

theorem Memory.strictRecord?_eq (ref : EntryRef) (tie : Tie) :
    m.strictRecord? ref tie = some (m.record ref tie) := by
  unfold strictRecord? record markUsed setAnchor contains
  cases hget : m.get? tie with
  | none => by_cases hkind : tie.kind = .unique <;> simp [hkind]
  | some memo =>
    cases h tie memo hget with
    | anchor hkind href => simp [hkind]
    | used hkind hne hrefs => simp [hkind]

end Strict

theorem Memory.strictRecordAll?_eq {m : Memory} (h : m.WellFormed v) {ref : EntryRef}
    (href : v.Has ref) (ties : List Tie) :
    m.strictRecordAll? ref ties = some (m.recordAll ref ties) := by
  induction ties generalizing m with
  | nil => rfl
  | cons tie ties ih =>
    -- the memory in which the next tie is looked up is well formed as well
    have hrecord : (m.record ref tie).WellFormed v := h.recordAll href [tie]
    rw [strictRecordAll?, List.foldlM_cons, strictRecord?_eq h]
    exact ih hrecord

/-- **Sessions.** Begin with an empty memory, run some trees one after the other and then another
one, and stop it after any number of steps. The memory is well formed: used entries, at least one,
are remembered under the names of kind `unique`, an anchor under the others, and all of them are
entries of the vocabulary. So the test of a candidate, the search for a pin and the record of a pick
have nothing to fall back on, and what the next step records is again an entry of the vocabulary. -/
theorem Session.wellFormed (v : Vocabulary) (catalog : Catalog) (before : List Node) (root : Node)
    (output : Output) (stream : Keystream) (limit : Nat) :
    let scene := Scene.ofVocabulary (some v) catalog
    let begun := Machine.ofNode root (run scene before ⟨output, .empty, stream⟩)
    let reached := begun.advance scene limit
    let m := reached.state.memory
    m.WellFormed v ∧
    (∀ table subtype c tie,
      v.strictAdmits? m table subtype c tie = some (v.admits? m table subtype c tie)) ∧
    (∀ t q, v.table? t.name = some t → t.strictPinned? q m = some (t.pinned? q m)) ∧
    (∀ ref ties, v.Has ref → m.strictRecordAll? ref ties = some (m.recordAll ref ties)) ∧
    ∀ p, reached.event? v = some (.picked p) → v.Has p.entry := by
  intro scene begun reached m
  have hbegun : begun.state.memory.WellFormed v :=
    Memory.WellFormed.empty.leads (leads_journal v catalog before ⟨output, .empty, stream⟩)
  have hm : m.WellFormed v := hbegun.leads (begun.leads_journal limit)
  refine ⟨hm, Vocabulary.strictAdmits?_eq hm, ?_, ?_, ?_⟩
  · intro t q ht
    exact Table.strictPinned?_eq hm ht q
  · intro ref ties href
    exact Memory.strictRecordAll?_eq hm href ties
  · intro p hp
    obtain ⟨t, subtype, e, hfits⟩ := Machine.fits_event hp
    exact hfits.has_entry

end Wordweave
