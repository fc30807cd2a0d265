import Wordweave.Proofs.Carrier.Normal
import Wordweave.Proofs.Memory.Slots
import Wordweave.Proofs.Run.Journal

/-!
# Wordweave — memory as history

What is remembered under a tie is told by the journal: by the entries that have been picked under
the tie since it was last forgotten (`entriesUnder`). Of these a tie of kind `unique` remembers all,
and every other tie the first.

This is kept by every event (`get?_apply`), so in a session that begins with an empty memory it
holds at all times (`Leads.get?_eq`). The vocabulary has all these entries
(`Leads.entry?_of_mem_entriesUnder`).

Two picks are *linked* by a tie if the tie has not been forgotten between them (`Linked`). The first
of them is then remembered when the second one is made. Both are what calls of the session return
and record (`Linked.returnsBoth`), so what is proved of linked picks is true of the terms and entries
that two queries of a session get.
-/

namespace Wordweave

/-! ## Entries under a tie -/

/-- What is remembered under a tie of some kind when entries have been picked under it. -/
def TieKind.remembered? (kind : TieKind) : List EntryRef → Option Recall
  | [] => none
  | first :: others =>
    some (if kind = .unique then .used (first :: others).eraseDups else .anchor first)

theorem TieKind.remembered?_concat (kind : TieKind) (entries : List EntryRef) (ref : EntryRef) :
    kind.remembered? (entries ++ [ref]) = some (kind.picked ref (kind.remembered? entries)) := by
  cases entries with
  | nil =>
    by_cases hkind : kind = .unique <;> simp [remembered?, picked, hkind, List.eraseDups_cons]
  | cons first others =>
    rw [List.cons_append, remembered?, remembered?]
    by_cases hkind : kind = .unique
    · -- an entry that was picked before is not used once more
      rw [if_pos hkind, if_pos hkind, ← List.cons_append, eraseDups_concat]
      by_cases hmem : ref ∈ first :: others
      · rw [if_pos hmem, picked, if_neg fun hnew => hnew.2 (List.mem_eraseDups.mpr hmem)]
      · rw [if_neg hmem, picked, if_pos ⟨hkind, by rwa [List.mem_eraseDups]⟩]
    · rw [if_neg hkind, if_neg hkind, picked, if_neg hkind]

namespace Event

/-- The entries picked under a tie since it was last forgotten, after one more event. -/
def extend (tie : Tie) (entries : List EntryRef) : Event → List EntryRef
  | .picked p => if tie ∈ p.lookup.ties then entries ++ [p.entry] else entries
  | .missed _ => entries
  | .erased q => if tie ∈ q.ties then [] else entries

/-- Whether an event forgets a tie. -/
def forgets (tie : Tie) : Event → Bool
  | .erased q => q.ties.contains tie
  | .picked _ | .missed _ => false

/-- An event keeps a memory true to what has been picked. -/
theorem get?_apply {m : Memory} {tie : Tie} {entries : List EntryRef}
    (h : m.get? tie = tie.kind.remembered? entries) (e : Event) :
    (e.apply m).get? tie = tie.kind.remembered? (e.extend tie entries) := by
  -- the tie is among those of the lookup, or nothing changes for it
  cases e with
  | missed q => exact h
  | picked p =>
    rw [apply, Memory.get?_recordAll, extend]
    split
    · rw [h, TieKind.remembered?_concat]
    · exact h
  | erased q =>
    rw [apply, Memory.get?_removeAll, extend]
    split
    · rfl
    · exact h

/-- An event that does not forget a tie leaves the entries picked under it. -/
theorem prefix_extend {tie : Tie} {e : Event} (h : e.forgets tie = false)
    (entries : List EntryRef) : entries <+: e.extend tie entries := by
  cases e with
  | missed q => exact List.prefix_rfl
  | picked p =>
    rw [extend]
    split
    · exact List.prefix_append ..
    · exact List.prefix_rfl
  | erased q =>
    have hnot : tie ∉ q.ties := by simpa [forgets] using h
    exact ⟨[], by rw [List.append_nil, extend, if_neg hnot]⟩

end Event

/-- The entries picked under a tie since it was last forgotten, in order. -/
def entriesUnder (tie : Tie) (events : List Event) : List EntryRef :=
  events.foldl (Event.extend tie) []

theorem entriesUnder_append (tie : Tie) (before after : List Event) :
    entriesUnder tie (before ++ after) = after.foldl (Event.extend tie) (entriesUnder tie before) :=
  List.foldl_append ..

/-- Events that do not forget a tie leave the entries picked under it. -/
theorem prefix_foldl_extend {tie : Tie} {events : List Event}
    (h : ∀ e ∈ events, e.forgets tie = false) (entries : List EntryRef) :
    entries <+: events.foldl (Event.extend tie) entries := by
  induction events generalizing entries with
  | nil => exact List.prefix_rfl
  | cons e events ih =>
    obtain ⟨hfirst, hothers⟩ := List.forall_mem_cons.mp h
    exact (Event.prefix_extend hfirst entries).trans (ih hothers _)

namespace Leads

variable {v : Vocabulary} {m m' : Memory} {events : List Event} {tie : Tie}

/-- Events keep a memory true to what has been picked. -/
theorem get?_foldl {entries : List EntryRef} (hleads : Leads v m events m')
    (h : m.get? tie = tie.kind.remembered? entries) :
    m'.get? tie = tie.kind.remembered? (events.foldl (Event.extend tie) entries) := by
  -- the entries grow along the events, as the memory does
  induction hleads generalizing entries with
  | nil => exact h
  | cons _ _ ih => exact ih (Event.get?_apply h _)

/-- **History.** A memory that was empty remembers what has been picked under each tie since it was
last forgotten. -/
theorem get?_eq (h : Leads v .empty events m) (tie : Tie) :
    m.get? tie = tie.kind.remembered? (entriesUnder tie events) :=
  h.get?_foldl rfl

/-- The entries used under a tie of kind `unique` are those picked under it. -/
theorem mem_used? (h : Leads v .empty events m) (hkind : tie.kind = .unique) {ref : EntryRef}
    (hmem : ref ∈ entriesUnder tie events) : ∃ used, m.used? tie = some used ∧ ref ∈ used := by
  have hget := h.get?_eq tie
  cases hentries : entriesUnder tie events with
  | nil =>
    rw [hentries] at hmem
    exact nomatch hmem
  | cons first others =>
    rw [hentries, TieKind.remembered?, if_pos hkind] at hget
    refine ⟨(first :: others).eraseDups, by rw [Memory.used?, hget], ?_⟩
    rwa [List.mem_eraseDups, ← hentries]

/-- The anchor of a tie of another kind is the entry picked first under it. -/
theorem anchor?_eq (h : Leads v .empty events m) (hkind : tie.kind ≠ .unique) :
    m.anchor? tie = (entriesUnder tie events).head? := by
  have hget := h.get?_eq tie
  cases hentries : entriesUnder tie events with
  | nil =>
    rw [hentries] at hget
    rw [Memory.anchor?, hget]
    rfl
  | cons first others =>
    rw [hentries, TieKind.remembered?, if_neg hkind] at hget
    rw [Memory.anchor?, hget]
    rfl

/-- The vocabulary has the entries picked under a tie. -/
theorem entry?_of_mem_entriesUnder (h : Leads v .empty events m) {ref : EntryRef}
    (hmem : ref ∈ entriesUnder tie events) : ∃ e, v.entry? ref = some e := by
  -- from any memory and any entries that the vocabulary has
  have hkeep : ∀ {m m' : Memory} {events : List Event} {entries : List EntryRef},
      Leads v m events m' → (∀ ref ∈ entries, ∃ e, v.entry? ref = some e) →
      ∀ ref ∈ events.foldl (Event.extend tie) entries, ∃ e, v.entry? ref = some e := by
    intro m m' events entries hleads
    induction hleads generalizing entries with
    | nil => exact id
    | @cons m m' event events hfits hrest ih =>
      intro hentries
      refine ih ?_
      cases event with
      | missed q => exact hentries
      | picked p =>
        obtain ⟨t, subtype, e, hp⟩ := hfits
        rw [Event.extend]
        split
        · intro ref href
          rcases List.mem_append.mp href with hold | hnew
          · exact hentries ref hold
          · exact ⟨e, by rw [List.mem_singleton.mp hnew, hp.entry?_eq]⟩
        · exact hentries
      | erased q =>
        rw [Event.extend]
        split
        · exact fun _ h => nomatch h
        · exact hentries
  exact hkeep h (fun _ hnone => absurd hnone List.not_mem_nil) ref hmem

end Leads

/-- An entry that is drawn under a tie stands to the entry picked first under it as the kind of the tie
demands. Names of kind `unique` have no first entry to stand to. -/
theorem Pick.Fits.relates?_first {p : Pick} {v : Vocabulary} {m : Memory} {t : Table}
    {subtype : Nat} {e first : Entry} {events : List Event} {tie : Tie} {ref : EntryRef}
    (h : p.Fits v m t subtype e) (hleads : Leads v .empty events m) (hdrawn : p.pinned = false)
    (htie : tie ∈ p.lookup.ties) (hkind : tie.kind ≠ .unique)
    (hfirst : (entriesUnder tie events).head? = some ref) (hentry : v.entry? ref = some first) :
    tie.kind.relates? subtype ⟨p.entry.index, e, p.term⟩ first = some true := by
  have hanchor : (m.anchor? tie).bind v.entry? = some first := by
    rw [hleads.anchor?_eq hkind, hfirst, Option.bind_some, hentry]
  have hadmits := h.admits?_eq hdrawn htie
  rwa [Vocabulary.admits?, if_neg hkind, hanchor] at hadmits

/-! ## Linked picks -/

/-- Two picks of a journal under one tie that is not forgotten between them. -/
structure Linked (tie : Tie) (events before : List Event) (p : Pick) (between : List Event)
    (p' : Pick) : Prop where
  order : ∃ after, events = before ++ .picked p :: between ++ .picked p' :: after
  tie_mem : tie ∈ p.lookup.ties
  tie_mem' : tie ∈ p'.lookup.ties
  kept : ∀ e ∈ between, e.forgets tie = false

/-- Two picks are what a session returns and records at their places: the first one after the events
before it, the second one after these, the first pick and the events between them. -/
def Session.ReturnsBoth (scene : Scene) (roots : List Node) (s : RunState) (before : List Event)
    (p : Pick) (between : List Event) (p' : Pick) : Prop :=
  Returns scene roots s before.length p ∧
    Returns scene roots s (before ++ .picked p :: between).length p'

namespace Linked

variable {tie : Tie} {events before between : List Event} {p p' : Pick}

/-- The first of two linked picks is among the entries under their tie when the second one is made,
right after those that were there before it. -/
theorem prefix_entriesUnder (h : Linked tie events before p between p') :
    entriesUnder tie before ++ [p.entry] <+: entriesUnder tie (before ++ .picked p :: between) := by
  rw [entriesUnder_append, List.foldl_cons, Event.extend, if_pos h.tie_mem]
  exact prefix_foldl_extend h.kept _

variable {v : Vocabulary} {catalog : Catalog} {roots : List Node} {s : RunState}

/-- The first of two linked picks is right in the memory to which the events before it lead. -/
theorem fits (h : Linked tie (Session.journal v catalog roots s) before p between p') :
    ∃ m, Leads v s.memory before m ∧ ∃ t subtype e, p.Fits v m t subtype e := by
  obtain ⟨after, horder⟩ := h.order
  have hleads := Session.leads_journal v catalog roots s
  rw [horder, List.append_assoc] at hleads
  exact hleads.exists_fits

/-- And so is the second one. -/
theorem fits' (h : Linked tie (Session.journal v catalog roots s) before p between p') :
    ∃ m, Leads v s.memory (before ++ .picked p :: between) m ∧
      ∃ t subtype e, p'.Fits v m t subtype e := by
  obtain ⟨after, horder⟩ := h.order
  have hleads := Session.leads_journal v catalog roots s
  rw [horder] at hleads
  exact hleads.exists_fits

/-- Linked picks are what the calls of the session at their places return and record. -/
theorem returnsBoth (h : Linked tie (Session.journal v catalog roots s) before p between p') :
    Session.ReturnsBoth (.ofVocabulary (some v) catalog) roots s before p between p' := by
  obtain ⟨after, horder⟩ := h.order
  refine ⟨?_, Session.returns_of_journal horder⟩
  rw [List.append_assoc] at horder
  exact Session.returns_of_journal horder

end Linked

end Wordweave
