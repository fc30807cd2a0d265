import Wordweave.Proofs.Memory.History
import Wordweave.Proofs.Vocabulary.Range

/-!
# Wordweave — names of kind `rhyme`

A name of kind `rhyme` remembers the entry that was picked first under it, and not the form in which
the entry was printed. A later lookup under the name asks for a column of its own table, and what it
draws has to rhyme with the term of the first entry in that very column, or in its last one if it has
no such column: this is the term that the lookup *hears* (`Entry.heard?`).

So what is printed rhymes if both lookups ask for the same column (`drawn_rhymes`). Otherwise it need
not: after `mice`, which was printed as the plural of `mouse`, a lookup for the first column of
another table draws `house` (`drawn_rhymes_fails`).

Main result:

* `drawn_rhymes` — what a term that is drawn under such a name rhymes with, and when this is the word
  that was printed first.
-/

namespace Wordweave

/-- The column of its table that a lookup asks for. -/
def Vocabulary.column? (v : Vocabulary) (q : Lookup) : Option Nat :=
  (q.name.bind v.table?).bind (·.subtypeIndex? q.subtype)

/-- The term of an entry with which the terms of a column must rhyme. -/
def Entry.heard? (e : Entry) (column : Nat) : Option Term :=
  e.term? (min column (e.terms.length - 1))

/-- In a column that an entry has, its term there is heard. -/
theorem Entry.heard?_eq {e : Entry} {column : Nat} {term : Term}
    (h : e.term? column = some term) : e.heard? column = some term := by
  have hlt := Entry.isSome_term?.mp (Option.isSome_of_eq_some h)
  rw [heard?, Nat.min_eq_left (by omega), h]

theorem Pick.Fits.column?_eq {p : Pick} {v : Vocabulary} {m : Memory} {t : Table} {column : Nat}
    {e : Entry} (h : p.Fits v m t column e) : v.column? p.lookup = some column := by
  rw [Vocabulary.column?, h.named, Option.bind_some, h.column]

/-- A candidate that a rhyme admits rhymes with what is heard. -/
theorem TieKind.rime_of_relates? {column : Nat} {c : Candidate} {first : Entry}
    (h : TieKind.rhyme.relates? column c first = some true) :
    ∃ heard, first.heard? column = some heard ∧
      Sound.rime c.term.value = Sound.rime heard.value := by
  obtain ⟨heard, hheard, h⟩ := Option.bind_eq_some_iff.mp h
  obtain ⟨ours, hours, h⟩ := Option.bind_eq_some_iff.mp h
  obtain ⟨theirs, htheirs, h⟩ := Option.bind_eq_some_iff.mp h
  obtain rfl : ours = theirs := by simpa using h
  refine ⟨heard, hheard, ?_⟩
  rw [Sound.rime, Sound.rime, hours, htheirs]

/-- **Rhyme.** A session that begins with an empty memory picks an entry under a name of kind `rhyme`,
the first one since the name was last forgotten, and later draws another entry under it. The term
that is drawn rhymes with the term that its lookup hears of the first entry. It rhymes with the term
that was printed first just when these two rhyme, and so it does if both lookups ask for the same
column. Both picks are what calls of the session return and record. -/
theorem drawn_rhymes {v : Vocabulary} {catalog : Catalog} {roots : List Node} {output : Output}
    {stream : Keystream} {name : String} {before between : List Event} {p p' : Pick}
    (h : Linked ⟨.rhyme, name⟩ (Session.journal v catalog roots ⟨output, .empty, stream⟩)
      before p between p')
    (hfirst : entriesUnder ⟨.rhyme, name⟩ before = []) (hdrawn : p'.pinned = false) :
    Session.ReturnsBoth (.ofVocabulary (some v) catalog) roots ⟨output, .empty, stream⟩
        before p between p' ∧
      ∃ e column column' heard, v.entry? p.entry = some e ∧
      v.column? p.lookup = some column ∧ v.column? p'.lookup = some column' ∧
      e.heard? column' = some heard ∧
      Sound.rime p'.term.value = Sound.rime heard.value ∧
      (Sound.rime p'.term.value = Sound.rime p.term.value ↔
        Sound.rime heard.value = Sound.rime p.term.value) ∧
      (column' = column → Sound.rime p'.term.value = Sound.rime p.term.value) := by
  obtain ⟨m, -, t, column, e, hfits⟩ := h.fits
  obtain ⟨m', hleads', t', column', e', hfits'⟩ := h.fits'
  -- the first entry is the anchor of the name when the later term is drawn
  have hhead : (entriesUnder ⟨.rhyme, name⟩ (before ++ .picked p :: between)).head? =
      some p.entry := by
    obtain ⟨later, hlater⟩ := h.prefix_entriesUnder
    rw [← hlater, hfirst, List.nil_append, List.singleton_append, List.head?_cons]
  have hrelates := hfits'.relates?_first hleads' hdrawn h.tie_mem' TieKind.noConfusion hhead
    hfits.entry?_eq
  obtain ⟨heard, hheard, hrime⟩ := TieKind.rime_of_relates? hrelates
  refine ⟨h.returnsBoth, e, column, column', heard, hfits.entry?_eq, hfits.column?_eq,
    hfits'.column?_eq, hheard, hrime, ?_, ?_⟩
  · rw [hrime]
  · intro hcolumn
    -- the term that is heard is the one that was printed
    rw [hcolumn, Entry.heard?_eq hfits.term_eq] at hheard
    rw [hrime, Option.some.inj hheard]

/-- A mouse and a house, of which only the mouse has a plural. -/
def dwelling : Vocabulary :=
  ⟨[⟨"noun", ["one", "many"], [⟨["mouse", "mice"], []⟩]⟩,
    ⟨"place", Table.standardSubtypes, [⟨["house"], []⟩]⟩]⟩

/-- The lookup for a form of the mouse under a rhyme. -/
def Lookup.ofMouse (form : String) : Lookup :=
  { Lookup.tied "noun" [⟨.rhyme, "r"⟩] with subtype := some form }

/-- A house is heard as rhyming with a mouse, and a mouse has been printed. -/
theorem drawn_rhymes_house :
    let r : List Tie := [⟨.rhyme, "r"⟩]
    let journal := Session.journal dwelling .english
      [.query .origin (.ofMouse "one") none, .tied "place" r] (.start 0)
    let mouse : Pick := ⟨.ofMouse "one", ⟨"noun", 0⟩, .whole "mouse", false⟩
    let house : Pick := .tied "place" r 0 "house" false
    Linked ⟨.rhyme, "r"⟩ journal [] mouse [] house ∧
      Sound.rime house.term.value = Sound.rime mouse.term.value := by
  intro r journal mouse house
  have hjournal : journal = [.picked mouse, .picked house] := by decide +kernel
  have h : Linked ⟨.rhyme, "r"⟩ journal [] mouse [] house :=
    ⟨⟨[], hjournal⟩, by decide, by decide, by decide⟩
  obtain ⟨-, e, column, column', heard, he, hcolumn, hcolumn', -, -, -, hsame⟩ :=
    drawn_rhymes h rfl rfl
  obtain rfl : (⟨["mouse", "mice"], []⟩ : Entry) = e := Option.some.inj he
  obtain rfl : 0 = column := Option.some.inj hcolumn
  obtain rfl : 0 = column' := Option.some.inj hcolumn'
  exact ⟨h, hsame rfl⟩

/-- A house is heard as rhyming with a mouse, but mice have been printed. -/
theorem drawn_rhymes_fails :
    let r : List Tie := [⟨.rhyme, "r"⟩]
    let journal := Session.journal dwelling .english
      [.query .origin (.ofMouse "many") none, .tied "place" r] (.start 0)
    let mice : Pick := ⟨.ofMouse "many", ⟨"noun", 0⟩, .whole "mice", false⟩
    let house : Pick := .tied "place" r 0 "house" false
    Linked ⟨.rhyme, "r"⟩ journal [] mice [] house ∧ entriesUnder ⟨.rhyme, "r"⟩ [] = [] ∧
      house.pinned = false ∧ Sound.rime house.term.value ≠ Sound.rime mice.term.value := by
  intro r journal mice house
  have hjournal : journal = [.picked mice, .picked house] := by decide +kernel
  have h : Linked ⟨.rhyme, "r"⟩ journal [] mice [] house :=
    ⟨⟨[], hjournal⟩, by decide, by decide, by decide⟩
  exact ⟨h, rfl, rfl, by decide +kernel⟩

end Wordweave
