import Wordweave.Proofs.Memory.History

/-!
# Wordweave — names of kind `matching`

An entry is pinned by the first name of kind `matching` under which the entry picked first is of the
table that is asked for (`pinUnder`). So what a lookup is pinned to is read off the journal
(`Leads.pinned?_eq`), and a pick is pinned just when one of its names pins an entry of its table
(`Pick.Fits.findSome?_pinUnder`).

A name is anchored once, whatever the table. Picks of one table under one name are one and the same
entry if the name has been anchored in this table and no name listed before it pins another entry
(`matching_pick_same`). Without the first condition the name pins nothing in this table, and every
pick under it is drawn anew (`matching_pick_same_fails`).

Main result:

* `matching_pick_same` — when two picks that are linked by such a name are the same entry.
-/

namespace Wordweave

/-- A list is searched with success by a member that succeeds if those before it find nothing else. -/
theorem findSome?_eq_of_takeWhile {α β : Type} [DecidableEq α] {f : α → Option β} {l : List α}
    {a : α} {b : β} (ha : a ∈ l) (hab : f a = some b)
    (hbefore : ∀ other ∈ l.takeWhile (· ≠ a), f other = none ∨ f other = some b) :
    l.findSome? f = some b := by
  induction l with
  | nil => exact nomatch ha
  | cons head l ih =>
    by_cases hhead : head = a
    · rw [hhead, List.findSome?_cons, hab]
    · have hl : a ∈ l := (List.mem_cons.mp ha).resolve_left (Ne.symm hhead)
      rw [List.takeWhile_cons_of_pos (by simpa using hhead)] at hbefore
      obtain ⟨hfound, hothers⟩ := List.forall_mem_cons.mp hbefore
      rcases hfound with hnone | hsome
      · rw [List.findSome?_cons, hnone]
        exact ih hl hothers
      · rw [List.findSome?_cons, hsome]

/-! ## Pins -/

/-- The entry of a table that a name pins: the one picked first under the name, if it is of the
table. -/
def pinUnder (table : String) (events : List Event) (name : String) : Option EntryRef :=
  (entriesUnder ⟨.matching, name⟩ events).head?.filter (·.table = table)

theorem pinUnder_eq_some {table : String} {events : List Event} {name : String} {ref : EntryRef} :
    pinUnder table events name = some ref ↔
      (entriesUnder ⟨.matching, name⟩ events).head? = some ref ∧ ref.table = table := by
  simp [pinUnder, Option.filter_eq_some_iff]

/-- **Pins.** A lookup is pinned to the entry that the first name pins which pins any. -/
theorem Leads.pinned?_eq {v : Vocabulary} {events : List Event} {m : Memory} {t : Table}
    (h : Leads v .empty events m) (htable : v.table? t.name = some t) (q : Lookup) :
    t.pinned? q m = (q.matchingNames.findSome? (pinUnder t.name events)).map (·.index) := by
  rw [List.map_findSome?]
  unfold Table.pinned? Lookup.matchingNames
  congr 1
  funext name
  rw [h.anchor?_eq TieKind.noConfusion, Function.comp_apply, pinUnder]
  cases hfirst : (entriesUnder ⟨.matching, name⟩ events).head? with
  | none => rfl
  | some ref =>
    by_cases href : ref.table = t.name
    · -- the table has the entry, which was picked
      obtain ⟨e, hentry⟩ := h.entry?_of_mem_entriesUnder (List.mem_of_head? hfirst)
      rw [Vocabulary.entry?, href, htable, Option.bind_some] at hentry
      obtain ⟨hindex, -⟩ := List.getElem?_eq_some_iff.mp hentry
      simp [href, hindex, Option.filter]
    · simp [href, Option.filter]

namespace Pick.Fits

variable {p : Pick} {v : Vocabulary} {m : Memory} {t : Table} {subtype : Nat} {e : Entry}
  {events : List Event}

/-- A pick is the entry that its names pin, and it is drawn if they pin none. -/
theorem findSome?_pinUnder (h : p.Fits v m t subtype e) (hleads : Leads v .empty events m) :
    p.lookup.matchingNames.findSome? (pinUnder p.entry.table events) =
      if p.pinned then some p.entry else none := by
  have htable : v.table? t.name = some t := by rw [← h.table_eq, h.table?_eq]
  have hpinned := hleads.pinned?_eq htable p.lookup
  rw [← h.table_eq] at hpinned
  cases hp : p.pinned with
  | false =>
    rw [(h.drawn hp).1] at hpinned
    exact Option.map_eq_none_iff.mp hpinned.symm
  | true =>
    rw [h.pinned_eq hp] at hpinned
    obtain ⟨ref, hfound, hindex⟩ := Option.map_eq_some_iff.mp hpinned.symm
    -- what a name pins is an entry of the table, and an entry is its table and its place
    obtain ⟨name, -, hname⟩ := List.exists_of_findSome?_eq_some hfound
    obtain ⟨-, href⟩ := pinUnder_eq_some.mp hname
    have hentry : ref = p.entry := by
      obtain ⟨table, index⟩ := ref
      obtain rfl : table = p.entry.table := href
      obtain rfl : index = p.entry.index := hindex
      rfl
    rw [hfound, hentry, if_pos rfl]

end Pick.Fits

/-! ## One entry for one name -/

/-- No name that a lookup lists before a name pins another entry of the table of the pick. -/
def Pick.LedBy (p : Pick) (name : String) (first : EntryRef) (events : List Event) : Prop :=
  ∀ other ∈ p.lookup.matchingNames.takeWhile (· ≠ name),
    pinUnder p.entry.table events other = none ∨ pinUnder p.entry.table events other = some first

instance (p : Pick) (name : String) (first : EntryRef) (events : List Event) :
    Decidable (p.LedBy name first events) :=
  inferInstanceAs (Decidable (∀ _ ∈ _, _))

/-- A pick is the entry that a name of its lookup pins, unless another name comes first. -/
theorem Pick.Fits.entry_eq_of_pinUnder {p : Pick} {v : Vocabulary} {m : Memory} {t : Table}
    {subtype : Nat} {e : Entry} {events : List Event} {name : String} {first : EntryRef}
    (h : p.Fits v m t subtype e) (hleads : Leads v .empty events m)
    (htie : ⟨.matching, name⟩ ∈ p.lookup.ties)
    (hpin : pinUnder p.entry.table events name = some first) (hled : p.LedBy name first events) :
    p.entry = first := by
  have hfound := findSome?_eq_of_takeWhile (Lookup.mem_matchingNames.mpr htie) hpin hled
  rw [h.findSome?_pinUnder hleads] at hfound
  split at hfound
  · exact Option.some.inj hfound
  · exact nomatch hfound

/-- **Matching names.** A session that begins with an empty memory picks two entries of one table
under a name of kind `matching` that is not forgotten between them. They are one and the same entry
if the first pick under the name, since it was last forgotten, was of this table, and if no name that
is listed before it pins another entry. Both picks are what calls of the session return and
record. -/
theorem matching_pick_same {v : Vocabulary} {catalog : Catalog} {roots : List Node}
    {output : Output} {stream : Keystream} {name : String} {before between : List Event}
    {p p' : Pick} {first : EntryRef}
    (h : Linked ⟨.matching, name⟩ (Session.journal v catalog roots ⟨output, .empty, stream⟩)
      before p between p')
    (htable : p'.entry.table = p.entry.table)
    (hfirst : pinUnder p.entry.table (before ++ [.picked p]) name = some first)
    (hled : p.LedBy name first before)
    (hled' : p'.LedBy name first (before ++ .picked p :: between)) :
    Session.ReturnsBoth (.ofVocabulary (some v) catalog) roots ⟨output, .empty, stream⟩
        before p between p' ∧ p.entry = p'.entry := by
  obtain ⟨m, hleads, t, subtype, e, hfits⟩ := h.fits
  obtain ⟨m', hleads', t', subtype', e', hfits'⟩ := h.fits'
  obtain ⟨hhead, hof⟩ := pinUnder_eq_some.mp hfirst
  have hentries : entriesUnder ⟨.matching, name⟩ (before ++ [.picked p]) =
      entriesUnder ⟨.matching, name⟩ before ++ [p.entry] := by
    rw [entriesUnder_append, List.foldl_cons, List.foldl_nil, Event.extend, if_pos h.tie_mem]
  rw [hentries] at hhead
  -- the later pick is pinned to the first entry, which is still the first
  have hlater : p'.entry = first := by
    obtain ⟨later, hlater⟩ := h.prefix_entriesUnder
    refine hfits'.entry_eq_of_pinUnder hleads' h.tie_mem' (pinUnder_eq_some.mpr ⟨?_, ?_⟩) hled'
    · rw [← hlater, List.head?_append, hhead, Option.some_or]
    · rw [hof, htable]
  -- the earlier one is the first entry itself, or it is pinned to it as well
  have hearlier : p.entry = first := by
    cases hbefore : entriesUnder ⟨.matching, name⟩ before with
    | nil =>
      rw [hbefore] at hhead
      exact Option.some.inj hhead
    | cons ref others =>
      rw [hbefore] at hhead
      refine hfits.entry_eq_of_pinUnder hleads h.tie_mem (pinUnder_eq_some.mpr ⟨?_, hof⟩) hled
      rwa [hbefore]
  exact ⟨h.returnsBoth, hearlier.trans hlater.symm⟩

/-- A name that a verb was picked under pins no noun, so it does not keep the name after it from
pinning one. -/
theorem matching_pick_same_eel :
    let that : List Tie := [⟨.matching, "that"⟩]
    let both : List Tie := [⟨.matching, "that"⟩, ⟨.matching, "it"⟩]
    let journal := Session.journal menagerie .english
      [.tied "verb" that, .tied "noun" both, .tied "noun" both] (.start 0)
    let purr : Pick := .tied "verb" that 0 "purr" false
    let eel : Pick := .tied "noun" both 1 "eel" false
    let again : Pick := .tied "noun" both 1 "eel" true
    Linked ⟨.matching, "it"⟩ journal [.picked purr] eel [] again ∧ eel.entry = again.entry := by
  intro that both journal purr eel again
  have hjournal : journal = [.picked purr, .picked eel, .picked again] := by decide +kernel
  have h : Linked ⟨.matching, "it"⟩ journal [.picked purr] eel [] again :=
    ⟨⟨[], hjournal⟩, by decide, by decide, by decide⟩
  have hsame : eel.entry = again.entry :=
    (matching_pick_same h rfl (show _ = some ⟨"noun", 1⟩ by decide) (by decide) (by decide)).2
  exact ⟨h, hsame⟩

/-- After a verb was picked under a name, two nouns under the name are two different nouns. -/
theorem matching_pick_same_fails :
    let it : List Tie := [⟨.matching, "it"⟩]
    let journal := Session.journal menagerie .english
      [.tied "verb" it, .tied "noun" it, .tied "noun" it] (.start 0)
    let purr : Pick := .tied "verb" it 0 "purr" false
    let eel : Pick := .tied "noun" it 1 "eel" false
    let whale : Pick := .tied "noun" it 2 "whale" false
    Linked ⟨.matching, "it"⟩ journal [.picked purr] eel [] whale ∧
      whale.entry.table = eel.entry.table ∧ eel.entry ≠ whale.entry := by
  intro it journal purr eel whale
  have hjournal : journal = [.picked purr, .picked eel, .picked whale] := by decide +kernel
  exact ⟨⟨⟨[], hjournal⟩, by decide, by decide, by decide⟩, rfl, by decide⟩

end Wordweave
