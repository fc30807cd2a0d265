import Wordweave.Proofs.Memory.History

/-!
# Wordweave — names of kind `unique`

No entry is drawn twice under a name of kind `unique` before the name is forgotten: all entries
picked under the name are among those used under it (`Leads.mem_used?`), whichever way they were
picked and whatever else has happened in between, and an entry that is used is not admitted. The one
way to pick an entry again is to pin it by a name of kind `matching`.

Main result:

* `unique_pick_fresh` — of two picks that are linked by such a name, the later one is another entry,
  or it was pinned.
-/

namespace Wordweave

/-- An entry that is drawn under a name of kind `unique` is none of those picked under it. -/
theorem Pick.Fits.not_mem_entriesUnder {p : Pick} {v : Vocabulary} {m : Memory} {t : Table}
    {subtype : Nat} {e : Entry} {events : List Event} {name : String}
    (h : p.Fits v m t subtype e) (hleads : Leads v .empty events m) (hdrawn : p.pinned = false)
    (htie : ⟨.unique, name⟩ ∈ p.lookup.ties) : p.entry ∉ entriesUnder ⟨.unique, name⟩ events := by
  intro hmem
  obtain ⟨used, hused, hmem⟩ := hleads.mem_used? rfl hmem
  -- the name admits no entry that is used under it
  have hadmits : some (!used.contains ⟨t.name, p.entry.index⟩) = some true := by
    have h := h.admits?_eq hdrawn htie
    rwa [Vocabulary.admits?, if_pos rfl, hused, Option.all_some] at h
  have hentry : (⟨t.name, p.entry.index⟩ : EntryRef) = p.entry := by rw [← h.table_eq]
  rw [hentry] at hadmits
  simp [hmem] at hadmits

/-- **Unique names.** If a session that begins with an empty memory picks an entry under a name of
kind `unique`, and picks it again under this name before the name is forgotten, then the second pick
was pinned by a name of kind `matching`. So without such a name, the second pick is another entry.
Both picks are what calls of the session return and record. -/
theorem unique_pick_fresh {v : Vocabulary} {catalog : Catalog} {roots : List Node} {output : Output}
    {stream : Keystream} {name : String} {before between : List Event} {p p' : Pick}
    (h : Linked ⟨.unique, name⟩ (Session.journal v catalog roots ⟨output, .empty, stream⟩)
      before p between p') :
    Session.ReturnsBoth (.ofVocabulary (some v) catalog) roots ⟨output, .empty, stream⟩
        before p between p' ∧
      (p.entry = p'.entry → p'.pinned = true) ∧
      (p'.lookup.matchingNames = [] → p.entry ≠ p'.entry) := by
  obtain ⟨m, hleads, t, subtype, e, hfits⟩ := h.fits'
  -- the first entry is still among those picked under the name
  have hfirst : p.entry ∈ entriesUnder ⟨.unique, name⟩ (before ++ .picked p :: between) :=
    h.prefix_entriesUnder.subset (List.mem_append_right _ (List.mem_singleton_self _))
  have hpinned : p.entry = p'.entry → p'.pinned = true := by
    intro hsame
    rw [hsame] at hfirst
    cases hp : p'.pinned with
    | true => rfl
    | false => exact absurd hfirst (hfits.not_mem_entriesUnder hleads hp h.tie_mem')
  refine ⟨h.returnsBoth, hpinned, ?_⟩
  intro hnone hsame
  exact hfits.matchingNames_ne_nil (hpinned hsame) hnone

/-- A whale is picked under a name of both kinds, it is pinned when it is picked again, and a noun
that is drawn after that is none. -/
theorem unique_pick_fresh_whale :
    let both : List Tie := [⟨.matching, "it"⟩, ⟨.unique, "once"⟩]
    let once : List Tie := [⟨.unique, "once"⟩]
    let journal := Session.journal menagerie .english
      [.tied "noun" both, .tied "noun" both, .tied "noun" once] (.start 0)
    let whale : Pick := .tied "noun" both 2 "whale" false
    let again : Pick := .tied "noun" both 2 "whale" true
    let eel : Pick := .tied "noun" once 1 "eel" false
    (Linked ⟨.unique, "once"⟩ journal [] whale [] again ∧ again.pinned = true) ∧
      Linked ⟨.unique, "once"⟩ journal [] whale [.picked again] eel ∧ whale.entry ≠ eel.entry := by
  intro both once journal whale again eel
  have hjournal : journal = [.picked whale, .picked again, .picked eel] := by decide +kernel
  have hagain : Linked ⟨.unique, "once"⟩ journal [] whale [] again :=
    ⟨⟨[.picked eel], hjournal⟩, by decide, by decide, by decide⟩
  have heel : Linked ⟨.unique, "once"⟩ journal [] whale [.picked again] eel :=
    ⟨⟨[], hjournal⟩, by decide, by decide, by decide⟩
  exact ⟨⟨hagain, (unique_pick_fresh hagain).2.1 rfl⟩, heel,
    (unique_pick_fresh heel).2.2 (by decide)⟩

end Wordweave
