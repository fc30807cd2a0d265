import Wordweave.Proofs.Memory.History

/-!
# Wordweave — names that relate classes

Four kinds of ties say how the classes of an entry stand to those of the entry that was picked first
under the name (`TieKind.Relates`). An entry that is drawn stands so, whatever has been picked under
the name since, and also if the first entry is of another table or was pinned itself: the anchor of a
name is the first entry until the name is forgotten (`Leads.anchor?_eq`), and the vocabulary has it.

For names of kind `associative` it follows that all entries drawn under one name have the same
classes, also when the first entry was not drawn.

Main result:

* `drawn_relates_to_first` — of two picks that are linked by such a name, the later one, if it was
  drawn, stands to the first pick under the name as the name demands.
-/

namespace Wordweave

/-! ## Classes as sets -/

theorem sameClasses_iff {xs ys : List String} :
    sameClasses xs ys = true ↔ ∀ c, c ∈ xs ↔ c ∈ ys := by
  simp only [sameClasses, Bool.and_eq_true, List.all_eq_true, List.contains_iff_mem]
  constructor
  · rintro ⟨hsub, hsup⟩ c
    exact ⟨hsub c, hsup c⟩
  · intro h
    exact ⟨fun c hc => (h c).mp hc, fun c hc => (h c).mpr hc⟩

theorem shareClass_iff {xs ys : List String} : shareClass xs ys = true ↔ ∃ c ∈ xs, c ∈ ys := by
  simp only [shareClass, List.any_eq_true, List.contains_iff_mem]

/-- How the classes of an entry stand to those of the first entry. A kind of tie that is not about
classes demands nothing. -/
def TieKind.Relates (kind : TieKind) (e first : Entry) : Prop :=
  match kind with
  | .associative => ∀ c, c ∈ e.classes ↔ c ∈ first.classes
  | .dissociative => ∀ c ∈ e.classes, c ∉ first.classes
  | .divergent => ¬ ∀ c, c ∈ e.classes ↔ c ∈ first.classes
  | .relational => ∃ c ∈ e.classes, c ∈ first.classes
  | .matching | .unique | .rhyme => True

/-- A candidate that a kind of tie admits stands to the anchor as the kind demands. -/
theorem TieKind.relates_of_relates? {kind : TieKind} {subtype : Nat} {c : Candidate} {first : Entry}
    (h : kind.relates? subtype c first = some true) : kind.Relates c.entry first := by
  cases kind with
  | associative => exact sameClasses_iff.mp (Option.some.inj h)
  | relational => exact shareClass_iff.mp (Option.some.inj h)
  | dissociative =>
    have hshare : shareClass c.entry.classes first.classes ≠ true := by simpa [relates?] using h
    intro class' hclass hfirst
    exact hshare (shareClass_iff.mpr ⟨class', hclass, hfirst⟩)
  | divergent =>
    have hsame : sameClasses c.entry.classes first.classes ≠ true := by simpa [relates?] using h
    exact fun hall => hsame (sameClasses_iff.mpr hall)
  | matching => trivial
  | unique => trivial
  | rhyme => trivial

/-! ## Drawn entries -/

/-- An entry that is drawn stands to the first one picked under a tie as the tie demands. -/
theorem Pick.Fits.relates {p : Pick} {v : Vocabulary} {m : Memory} {t : Table} {subtype : Nat}
    {e first : Entry} {events : List Event} {tie : Tie} {ref : EntryRef}
    (h : p.Fits v m t subtype e) (hleads : Leads v .empty events m) (hdrawn : p.pinned = false)
    (htie : tie ∈ p.lookup.ties) (hfirst : (entriesUnder tie events).head? = some ref)
    (hentry : v.entry? ref = some first) : tie.kind.Relates e first := by
  by_cases hkind : tie.kind = .unique
  · rw [hkind]
    trivial
  · -- the tie is anchored to the first entry, so it admits what relates to it
    exact TieKind.relates_of_relates? (h.relates?_first hleads hdrawn htie hkind hfirst hentry)

/-- **Names that relate classes.** If a session that begins with an empty memory picks an entry under
a tie and draws another one under it before the tie is forgotten, then the second entry stands to the
first as the tie demands if no entry was picked under the tie before, since it was last forgotten.
And if the tie is of kind `associative` and the first entry was drawn as well, both have the same
classes in any case. Both picks are what calls of the session return and record. -/
theorem drawn_relates_to_first {v : Vocabulary} {catalog : Catalog} {roots : List Node}
    {output : Output} {stream : Keystream} {tie : Tie} {before between : List Event} {p p' : Pick}
    (h : Linked tie (Session.journal v catalog roots ⟨output, .empty, stream⟩) before p between p')
    (hdrawn : p'.pinned = false) :
    Session.ReturnsBoth (.ofVocabulary (some v) catalog) roots ⟨output, .empty, stream⟩
        before p between p' ∧
      ∃ e e', v.entry? p.entry = some e ∧ v.entry? p'.entry = some e' ∧
      (entriesUnder tie before = [] → tie.kind.Relates e' e) ∧
      (tie.kind = .associative → p.pinned = false → ∀ c, c ∈ e'.classes ↔ c ∈ e.classes) := by
  obtain ⟨m, hleads, t, subtype, e, hfits⟩ := h.fits
  obtain ⟨m', hleads', t', subtype', e', hfits'⟩ := h.fits'
  obtain ⟨later, hlater⟩ := h.prefix_entriesUnder
  -- the second entry stands as demanded to the entry that comes first under the tie
  have hrelates : ∀ {ref : EntryRef} {first : Entry}, v.entry? ref = some first →
      (entriesUnder tie before ++ [p.entry]).head? = some ref → tie.kind.Relates e' first := by
    intro ref first hentry hhead
    refine hfits'.relates hleads' hdrawn h.tie_mem' ?_ hentry
    rw [← hlater, List.head?_append, hhead, Option.some_or]
  have hfirst : entriesUnder tie before = [] → tie.kind.Relates e' e := by
    intro hnone
    exact hrelates hfits.entry?_eq (by rw [hnone, List.nil_append, List.head?_cons])
  refine ⟨h.returnsBoth, e, e', hfits.entry?_eq, hfits'.entry?_eq, hfirst, ?_⟩
  intro hkind hdrawn
  cases hentries : entriesUnder tie before with
  | nil =>
    have hsame := hfirst hentries
    rwa [hkind] at hsame
  | cons ref others =>
    -- both have the classes of the entry that was picked before them
    have hmem : ref ∈ entriesUnder tie before := by
      rw [hentries]
      exact List.mem_cons_self ..
    obtain ⟨first, hentry⟩ := hleads.entry?_of_mem_entriesUnder hmem
    have hsame := hfits.relates hleads hdrawn h.tie_mem (by rw [hentries, List.head?_cons]) hentry
    have hsame' := hrelates hentry (by rw [hentries, List.cons_append, List.head?_cons])
    rw [hkind] at hsame hsame'
    intro c
    exact (hsame' c).trans (hsame c).symm

/-- A noun that is drawn after a verb under one associative name has the classes of the verb. -/
theorem drawn_relates_to_first_purr :
    let alike : List Tie := [⟨.associative, "it"⟩]
    let journal := Session.journal menagerie .english
      [.tied "verb" alike, .tied "noun" alike] (.start 0)
    let purr : Pick := .tied "verb" alike 0 "purr" false
    let cat : Pick := .tied "noun" alike 0 "cat" false
    Linked ⟨.associative, "it"⟩ journal [] purr [] cat ∧
      ∃ e e', menagerie.entry? purr.entry = some e ∧ menagerie.entry? cat.entry = some e' ∧
        ∀ c, c ∈ e'.classes ↔ c ∈ e.classes := by
  intro alike journal purr cat
  have hjournal : journal = [.picked purr, .picked cat] := by decide +kernel
  have h : Linked ⟨.associative, "it"⟩ journal [] purr [] cat :=
    ⟨⟨[], hjournal⟩, by decide, by decide, by decide⟩
  obtain ⟨-, e, e', hpurr, hcat, hfirst, -⟩ := drawn_relates_to_first h rfl
  exact ⟨h, e, e', hpurr, hcat, hfirst rfl⟩

end Wordweave
