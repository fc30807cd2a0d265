import Wordweave.Proofs.Vocabulary.Selection

/-!
# Wordweave — how vocabularies are made

A vocabulary is made of tables one by one, and each table is looked at when its turn comes. It is
*faulty* after others if it declares no subtypes, or else if one of its entries has too many or too
few terms, or else if one of the others has its name (`Table.Faulty`). The first faulty table of a
list is the one that is reported, with the first of its faults. If there is none, all tables are
shapely and their names differ, and then the order in which they were given cannot be seen any more:
each of them is found under its own name.

Tables that are only offered may be refused. What is found under a name is then the first shapely
table that was offered under it, so one that is refused changes nothing (`table?_offerAll`).

Main results:

* `addAll_eq_ok_iff`, `addAll_eq_error_iff` — which lists of tables are taken, and what is wrong with
  the others.
* `ofTables_spec` — both, with what is found in a vocabulary that has been made.
-/

namespace Wordweave

/-! ## Tables and their faults -/

namespace Table

instance (t : Table) : Decidable t.Shapely := decidable_of_iff _ ownFault?_eq_none_iff

/-- What is wrong with a table that comes after others. Faults are looked for in this order. -/
inductive Faulty (before : List Table) (t : Table) : Fault → Prop
  | noSubtypes (hsubtypes : t.subtypes = []) : Faulty before t (.noSubtypes t.name)
  | wrongTermCount {index : Nat} {e : Entry} (hsubtypes : t.subtypes ≠ [])
      (hentry : t.entries[index]? = some e) (hcount : e.terms.length ≠ t.subtypes.length)
      (hfirst : ∀ other ∈ t.entries.take index, other.terms.length = t.subtypes.length) :
      Faulty before t (.wrongTermCount t.name index e.terms.length t.subtypes.length)
  | duplicate (hshapely : t.Shapely) (htaken : ∃ other ∈ before, other.name = t.name) :
      Faulty before t (.duplicate t.name)

/-- The first misfit is an entry with another number of terms than expected, behind entries that have
just so many. -/
theorem firstMisfit?_eq_some_iff {expected start index : Nat} {entries : List Entry} {e : Entry} :
    firstMisfit? expected start entries = some (index, e) ↔
      ∃ place, index = start + place ∧ entries[place]? = some e ∧ e.terms.length ≠ expected ∧
        ∀ other ∈ entries.take place, other.terms.length = expected := by
  induction entries generalizing start with
  | nil => simp [firstMisfit?]
  | cons first entries ih =>
    rw [firstMisfit?]
    by_cases hfits : first.terms.length = expected
    · -- the misfit is further on, one place less from there
      rw [if_pos hfits, ih]
      constructor
      · rintro ⟨place, rfl, hentry, hcount, hothers⟩
        refine ⟨place + 1, by omega, by simpa using hentry, hcount, ?_⟩
        rw [List.take_succ_cons]
        exact List.forall_mem_cons.mpr ⟨hfits, hothers⟩
      · rintro ⟨place, rfl, hentry, hcount, hothers⟩
        cases place with
        | zero =>
          obtain rfl : first = e := by simpa using hentry
          exact absurd hfits hcount
        | succ place =>
          rw [List.take_succ_cons] at hothers
          refine ⟨place, by omega, by simpa using hentry, hcount, ?_⟩
          exact (List.forall_mem_cons.mp hothers).2
    · rw [if_neg hfits, Option.some.injEq, Prod.mk.injEq]
      constructor
      · rintro ⟨rfl, rfl⟩
        exact ⟨0, rfl, rfl, hfits, by simp⟩
      · rintro ⟨place, rfl, hentry, hcount, hothers⟩
        cases place with
        | zero => exact ⟨rfl, by simpa using hentry⟩
        | succ place =>
          -- the first entry would be in front of the misfit
          rw [List.take_succ_cons] at hothers
          exact absurd (hothers first (List.mem_cons_self ..)) hfits

end Table

namespace Table

variable {t : Table} {before : List Table} {fault : Fault}

/-- Only its name can be wrong with a shapely table. -/
theorem Shapely.faulty_iff (h : t.Shapely) : t.Faulty before fault ↔
    fault = .duplicate t.name ∧ ∃ other ∈ before, other.name = t.name := by
  constructor
  · intro hfaulty
    cases hfaulty with
    | noSubtypes hsubtypes => exact absurd hsubtypes h.subtypes_ne_nil
    | wrongTermCount hsubtypes hentry hcount hfirst =>
      exact absurd (h.length_terms _ (List.mem_of_getElem? hentry)) hcount
    | duplicate hshapely htaken => exact ⟨rfl, htaken⟩
  · rintro ⟨rfl, htaken⟩
    exact .duplicate h htaken

theorem Faulty.of_not_shapely {others : List Table} (h : ¬ t.Shapely)
    (hfaulty : t.Faulty before fault) : t.Faulty others fault := by
  cases hfaulty with
  | noSubtypes hsubtypes => exact .noSubtypes hsubtypes
  | wrongTermCount hsubtypes hentry hcount hfirst =>
    exact .wrongTermCount hsubtypes hentry hcount hfirst
  | duplicate hshapely htaken => exact absurd hshapely h

/-- What is wrong with any other table is so whatever comes before it. -/
theorem faulty_iff_of_not_shapely (h : ¬ t.Shapely) :
    t.Faulty before fault ↔ t.Faulty [] fault :=
  ⟨.of_not_shapely h, .of_not_shapely h⟩

/-- The fault of a table on its own is the one that it has after no others. -/
theorem ownFault?_eq_some_iff : t.ownFault? = some fault ↔ t.Faulty [] fault := by
  rw [ownFault?]
  by_cases hnone : t.subtypes = []
  · rw [if_pos (by simpa using hnone), Option.some.injEq]
    constructor
    · rintro rfl
      exact .noSubtypes hnone
    · intro hfaulty
      cases hfaulty with
      | noSubtypes hsubtypes => rfl
      | wrongTermCount hsubtypes hentry hcount hfirst => exact absurd hnone hsubtypes
      | duplicate hshapely htaken => exact absurd hnone hshapely.subtypes_ne_nil
  · rw [if_neg (by simpa using hnone), Option.map_eq_some_iff]
    constructor
    · rintro ⟨⟨index, e⟩, hmisfit, rfl⟩
      obtain ⟨place, rfl, hentry, hcount, hfirst⟩ := firstMisfit?_eq_some_iff.mp hmisfit
      rw [Nat.zero_add]
      exact .wrongTermCount hnone hentry hcount hfirst
    · intro hfaulty
      cases hfaulty with
      | noSubtypes hsubtypes => exact absurd hsubtypes hnone
      | @wrongTermCount index e hsubtypes hentry hcount hfirst =>
        refine ⟨(index, e), firstMisfit?_eq_some_iff.mpr ?_, rfl⟩
        exact ⟨index, (Nat.zero_add index).symm, hentry, hcount, hfirst⟩
      | duplicate hshapely htaken =>
        obtain ⟨other, hother, -⟩ := htaken
        exact absurd hother List.not_mem_nil

end Table

namespace Vocabulary

/-! ## One table -/

section One

variable {v : Vocabulary} {t : Table}

theorem table?_eq_none_iff {name : String} :
    v.table? name = none ↔ ∀ t ∈ v.tables, t.name ≠ name := by
  simp [table?]

/-- In a vocabulary that holds one table of a name, each is found under its own. -/
theorem Distinct.table?_eq_some_iff (h : v.Distinct) {name : String} :
    v.table? name = some t ↔ t ∈ v.tables ∧ t.name = name := by
  constructor
  · intro hfound
    exact ⟨mem_of_table? hfound, name_of_table? hfound⟩
  · rintro ⟨hmem, rfl⟩
    exact h.table?_eq hmem

theorem Distinct.concat_iff (h : v.Distinct) :
    Distinct ⟨v.tables ++ [t]⟩ ↔ v.table? t.name = none := by
  rw [table?_eq_none_iff, Distinct, List.map_append, List.nodup_append]
  simp only [List.map_singleton, List.mem_map, List.mem_singleton]
  constructor
  · rintro ⟨-, -, hnew⟩ other hother
    exact hnew other.name ⟨other, hother, rfl⟩ t.name rfl
  · intro hnew
    refine ⟨h, List.nodup_singleton _, ?_⟩
    rintro _ ⟨other, hother, rfl⟩ _ rfl
    exact hnew other hother

/-- A table is added if it is shapely and has a name of its own. -/
theorem add_eq_ok_iff (h : v.Distinct) {v' : Vocabulary} : v.add t = .ok v' ↔
    t.Shapely ∧ Distinct ⟨v.tables ++ [t]⟩ ∧ v' = ⟨v.tables ++ [t]⟩ := by
  rw [h.concat_iff, ← Table.ownFault?_eq_none_iff, add]
  cases t.ownFault? with
  | some fault => simp
  | none =>
    cases v.table? t.name with
    | some other => simp
    | none => simp [eq_comm]

/-- Otherwise it is refused for what is wrong with it after the tables that are there. -/
theorem add_eq_error_iff {fault : Table.Fault} :
    v.add t = .error fault ↔ t.Faulty v.tables fault := by
  rw [add]
  cases hown : t.ownFault? with
  | some own =>
    have hnot : ¬ t.Shapely := by
      rw [← Table.ownFault?_eq_none_iff, hown]
      exact Option.some_ne_none own
    rw [Table.faulty_iff_of_not_shapely hnot, ← Table.ownFault?_eq_some_iff, hown]
    simp
  | none =>
    have hshapely : t.Shapely := Table.ownFault?_eq_none_iff.mp hown
    rw [hshapely.faulty_iff]
    cases htaken : v.table? t.name with
    | some other =>
      have hsame : ∃ other ∈ v.tables, other.name = t.name :=
        ⟨other, mem_of_table? htaken, name_of_table? htaken⟩
      rw [and_iff_left hsame]
      simp [eq_comm]
    | none =>
      have hnew := table?_eq_none_iff.mp htaken
      simp only [Option.isSome_none, Bool.false_eq_true, if_false, reduceCtorEq, false_iff]
      rintro ⟨-, other, hother, hsame⟩
      exact hnew other hother hsame

end One

/-! ## Lists of tables -/

section Lists

variable {v : Vocabulary} {tables : List Table}

theorem addAll_cons (v : Vocabulary) (t : Table) (tables : List Table) :
    v.addAll (t :: tables) = v.add t >>= fun v => v.addAll tables :=
  List.foldlM_cons

/-- **Tables that are taken.** They are shapely, and have different names, which are not those of the
tables that are there. -/
theorem addAll_eq_ok_iff (h : v.Distinct) {v' : Vocabulary} : v.addAll tables = .ok v' ↔
    (∀ t ∈ tables, t.Shapely) ∧ Distinct ⟨v.tables ++ tables⟩ ∧ v' = ⟨v.tables ++ tables⟩ := by
  induction tables generalizing v with
  | nil =>
    rw [List.append_nil]
    have hnone : v.addAll [] = .ok v := rfl
    rw [hnone, Except.ok.injEq]
    exact ⟨fun hsame => ⟨List.forall_mem_nil _, h, hsame.symm⟩, fun hall => hall.2.2.symm⟩
  | cons t tables ih =>
    have hassoc : v.tables ++ t :: tables = v.tables ++ [t] ++ tables := by simp
    rw [addAll_cons, List.forall_mem_cons, hassoc]
    constructor
    · intro hall
      cases hadd : v.add t with
      | error fault =>
        rw [hadd] at hall
        exact nomatch hall
      | ok middle =>
        obtain ⟨hshapely, hdistinct, rfl⟩ := (add_eq_ok_iff h).mp hadd
        rw [hadd] at hall
        obtain ⟨hothers, hdistinct, rfl⟩ := (ih hdistinct).mp hall
        exact ⟨⟨hshapely, hothers⟩, hdistinct, rfl⟩
    · rintro ⟨⟨hshapely, hothers⟩, hdistinct, rfl⟩
      -- the names stay different when the tables behind are left out
      have hmiddle : Distinct ⟨v.tables ++ [t]⟩ :=
        List.Nodup.sublist ((List.sublist_append_left _ tables).map _) hdistinct
      rw [(add_eq_ok_iff h).mpr ⟨hshapely, hmiddle, rfl⟩]
      exact (ih hmiddle).mpr ⟨hothers, hdistinct, rfl⟩

/-- **The first fault.** If tables are refused, then for the first of them that is faulty after those
that are there when its turn comes. -/
theorem addAll_eq_error_iff {fault : Table.Fault} : v.addAll tables = .error fault ↔
    ∃ before t after middle, tables = before ++ t :: after ∧ v.addAll before = .ok middle ∧
      t.Faulty middle.tables fault := by
  induction tables generalizing v with
  | nil =>
    refine iff_of_false ?_ ?_
    · intro hnone
      exact nomatch (show Except.ok v = .error fault from hnone)
    · rintro ⟨before, t, after, -, hnone, -⟩
      simp at hnone
  | cons first tables ih =>
    rw [addAll_cons]
    cases hadd : v.add first with
    | error own =>
      have hown : Except.error own >>= (fun v : Vocabulary => v.addAll tables) = .error own := rfl
      rw [hown, Except.error.injEq]
      constructor
      · rintro rfl
        exact ⟨[], first, tables, v, rfl, rfl, add_eq_error_iff.mp hadd⟩
      · rintro ⟨before, t, after, middle, hsplit, hbefore, hfaulty⟩
        -- no table is taken once the first one has been refused
        cases before with
        | nil =>
          obtain ⟨rfl, rfl⟩ : first = t ∧ tables = after := by simpa using hsplit
          obtain rfl : v = middle := Except.ok.inj hbefore
          rw [← add_eq_error_iff, hadd] at hfaulty
          exact Except.error.inj hfaulty
        | cons other before =>
          obtain ⟨rfl, -⟩ : first = other ∧ tables = before ++ t :: after := by simpa using hsplit
          rw [addAll_cons, hadd] at hbefore
          exact nomatch hbefore
    | ok next =>
      have hnext : Except.ok next >>= (fun v : Vocabulary => v.addAll tables) =
          (next.addAll tables : Except Table.Fault Vocabulary) := rfl
      rw [hnext, ih]
      constructor
      · rintro ⟨before, t, after, middle, rfl, hbefore, hfaulty⟩
        refine ⟨first :: before, t, after, middle, rfl, ?_, hfaulty⟩
        rw [addAll_cons, hadd]
        exact hbefore
      · rintro ⟨before, t, after, middle, hsplit, hbefore, hfaulty⟩
        cases before with
        | nil =>
          obtain ⟨rfl, rfl⟩ : first = t ∧ tables = after := by simpa using hsplit
          obtain rfl : v = middle := Except.ok.inj hbefore
          rw [← add_eq_error_iff, hadd] at hfaulty
          exact nomatch hfaulty
        | cons other before =>
          obtain ⟨rfl, rfl⟩ : first = other ∧ tables = before ++ t :: after := by
            simpa using hsplit
          rw [addAll_cons, hadd] at hbefore
          exact ⟨before, t, after, middle, rfl, hbefore, hfaulty⟩

end Lists

/-! ## Tables that are offered -/

/-- A table that is offered is found if it is shapely and no other was found before. -/
theorem table?_offer_or (v : Vocabulary) (t : Table) (name : String) :
    (v.offer t).table? name =
      (v.table? name).or (if t.name = name ∧ t.Shapely then some t else none) := by
  unfold offer add
  cases hown : t.ownFault? with
  | some own =>
    have hnot : ¬ t.Shapely := by
      rw [← Table.ownFault?_eq_none_iff, hown]
      exact Option.some_ne_none own
    rw [if_neg (mt And.right hnot), Option.or_none]
  | none =>
    have hshapely : t.Shapely := Table.ownFault?_eq_none_iff.mp hown
    by_cases htaken : (v.table? t.name).isSome
    · -- it is refused, and the other one is found under its name
      simp only [if_pos htaken]
      by_cases hname : t.name = name
      · obtain ⟨other, hother⟩ := Option.isSome_iff_exists.mp htaken
        rw [← hname, hother, Option.some_or]
      · rw [if_neg (mt And.left hname), Option.or_none]
    · simp only [if_neg htaken]
      unfold table?
      rw [List.find?_append]
      by_cases hname : t.name = name
      · rw [List.find?_cons_of_pos (by simpa using hname), if_pos ⟨hname, hshapely⟩]
      · rw [List.find?_cons_of_neg (by simpa using hname), if_neg (mt And.left hname),
          List.find?_nil]

/-- **Tables that are offered.** Under each name the first shapely one is found. -/
theorem table?_offerAll (v : Vocabulary) (tables : List Table) (name : String) :
    (v.offerAll tables).table? name =
      (v.table? name).or (tables.find? fun t => t.name = name ∧ t.Shapely) := by
  induction tables generalizing v with
  | nil =>
    rw [List.find?_nil, Option.or_none]
    rfl
  | cons t tables ih =>
    have hcons : v.offerAll (t :: tables) = (v.offer t).offerAll tables := rfl
    rw [hcons, ih, table?_offer_or, Option.or_assoc]
    by_cases hfirst : t.name = name ∧ t.Shapely
    · rw [if_pos hfirst, List.find?_cons_of_pos (by simpa using hfirst), Option.some_or]
    · rw [if_neg hfirst, List.find?_cons_of_neg (by simpa using hfirst), Option.none_or]

/-! ## Vocabularies that are made -/

section Made

variable {tables : List Table}

theorem ofTables_eq_ok_iff {v : Vocabulary} : ofTables tables = .ok v ↔
    (∀ t ∈ tables, t.Shapely) ∧ (tables.map (·.name)).Nodup ∧ v = ⟨tables⟩ :=
  addAll_eq_ok_iff (v := empty) List.nodup_nil

theorem ofTables_eq_error_iff {fault : Table.Fault} : ofTables tables = .error fault ↔
    ∃ before t after, tables = before ++ t :: after ∧ (∀ other ∈ before, other.Shapely) ∧
      (before.map (·.name)).Nodup ∧ t.Faulty before fault := by
  have hmade : ∀ {before middle}, empty.addAll before = .ok middle ↔
      (∀ other ∈ before, other.Shapely) ∧ (before.map (·.name)).Nodup ∧ middle = ⟨before⟩ :=
    ofTables_eq_ok_iff
  rw [ofTables, addAll_eq_error_iff]
  constructor
  · rintro ⟨before, t, after, middle, hsplit, hbefore, hfaulty⟩
    obtain ⟨hshapely, hdistinct, rfl⟩ := hmade.mp hbefore
    exact ⟨before, t, after, hsplit, hshapely, hdistinct, hfaulty⟩
  · rintro ⟨before, t, after, hsplit, hshapely, hdistinct, hfaulty⟩
    exact ⟨before, t, after, ⟨before⟩, hsplit, hmade.mpr ⟨hshapely, hdistinct, rfl⟩, hfaulty⟩

/-- The order of tables with different names cannot be seen. -/
theorem Distinct.table?_perm {v v' : Vocabulary} (h : v.Distinct)
    (hperm : v.tables.Perm v'.tables) (name : String) : v'.table? name = v.table? name := by
  have h' : v'.Distinct := (hperm.map Table.name).nodup_iff.mp h
  refine Option.ext fun t => ?_
  rw [h.table?_eq_some_iff, h'.table?_eq_some_iff, hperm.mem_iff]

end Made

/-- **Vocabularies that are made.** A list of tables makes a vocabulary just if each table is shapely
and no name occurs twice. Then every table is found under its name and nothing under other names, and
the same is found after any permutation of the list. Otherwise the fault is reported that the first
faulty table has after those in front of it.

If tables are offered one by one, the first shapely one is found under each name, so a table that is
refused changes nothing that is found. -/
theorem ofTables_spec (tables : List Table) :
    ((∃ v, ofTables tables = .ok v) ↔
      (∀ t ∈ tables, t.Shapely) ∧ (tables.map (·.name)).Nodup) ∧
    (∀ v, ofTables tables = .ok v →
      (∀ t ∈ tables, v.table? t.name = some t) ∧
      (∀ name ∉ tables.map (·.name), v.table? name = none) ∧
      ∀ tables', tables.Perm tables' →
        ∃ v', ofTables tables' = .ok v' ∧ ∀ name, v'.table? name = v.table? name) ∧
    (∀ fault, ofTables tables = .error fault ↔
      ∃ before t after, tables = before ++ t :: after ∧ (∀ other ∈ before, other.Shapely) ∧
        (before.map (·.name)).Nodup ∧ t.Faulty before fault) ∧
    (∀ name, (empty.offerAll tables).table? name =
      tables.find? fun t => t.name = name ∧ t.Shapely) ∧
    ∀ t fault, (empty.offerAll tables).add t = .error fault → ∀ name,
      (empty.offerAll (tables ++ [t])).table? name = (empty.offerAll tables).table? name := by
  refine ⟨?_, fun v hmade => ?_, fun fault => ofTables_eq_error_iff,
    fun name => table?_offerAll empty tables name, fun t fault hrefused name => ?_⟩
  · constructor
    · rintro ⟨v, hmade⟩
      obtain ⟨hshapely, hdistinct, -⟩ := ofTables_eq_ok_iff.mp hmade
      exact ⟨hshapely, hdistinct⟩
    · rintro ⟨hshapely, hdistinct⟩
      exact ⟨⟨tables⟩, ofTables_eq_ok_iff.mpr ⟨hshapely, hdistinct, rfl⟩⟩
  · obtain ⟨hshapely, hdistinct, rfl⟩ := ofTables_eq_ok_iff.mp hmade
    refine ⟨fun t ht => Distinct.table?_eq hdistinct ht, fun name hname => ?_, fun tables' hperm => ?_⟩
    · refine table?_eq_none_iff.mpr fun t ht hsame => hname ?_
      exact List.mem_map.mpr ⟨t, ht, hsame⟩
    · have hshapely' : ∀ t ∈ tables', t.Shapely := fun t ht => hshapely t (hperm.mem_iff.mpr ht)
      have hdistinct' : (tables'.map (·.name)).Nodup := (hperm.map Table.name).nodup_iff.mp hdistinct
      refine ⟨⟨tables'⟩, ofTables_eq_ok_iff.mpr ⟨hshapely', hdistinct', rfl⟩, ?_⟩
      exact Distinct.table?_perm hdistinct hperm
  · have hlast : empty.offerAll (tables ++ [t]) = (empty.offerAll tables).offer t :=
      List.foldl_concat ..
    rw [hlast, offer, hrefused]

/-- Nouns and verbs in either order, and a second table of nouns, which has an entry without terms:
that is what is wrong with it, although its name is taken as well. -/
theorem ofTables_spec_menagerie :
    let again : Table := ⟨"noun", Table.standardSubtypes, [⟨["ox"], []⟩, ⟨[], []⟩]⟩
    (∃ v, ofTables menagerie.tables.reverse = .ok v ∧
      ∀ name, v.table? name = menagerie.table? name) ∧
    ofTables (menagerie.tables ++ [again]) = .error (.wrongTermCount "noun" 1 0 1) ∧
    ∀ name, (empty.offerAll (menagerie.tables ++ [again])).table? name =
      (empty.offerAll menagerie.tables).table? name := by
  intro again
  obtain ⟨-, hfound, -, -, hrefused⟩ := ofTables_spec menagerie.tables
  obtain ⟨-, -, herror, -⟩ := ofTables_spec (menagerie.tables ++ [again])
  obtain ⟨-, -, hreverse⟩ := hfound menagerie (by decide)
  refine ⟨hreverse _ (List.reverse_perm _).symm, ?_, ?_⟩
  · refine (herror _).mpr ⟨menagerie.tables, again, [], rfl, by decide, by decide, ?_⟩
    exact .wrongTermCount (e := ⟨[], []⟩) (by decide) rfl (by decide) (by decide)
  · exact hrefused again (.wrongTermCount "noun" 1 0 1) (by decide)

end Vocabulary

end Wordweave
