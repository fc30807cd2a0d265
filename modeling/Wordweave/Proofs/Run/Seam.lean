import Wordweave.Proofs.Run.Evaluation
import Wordweave.Proofs.Run.Journal
import Wordweave.Proofs.Term.Halves
import Wordweave.Proofs.Vocabulary.Range

/-!
# Wordweave — seams in print

An entry is stored as a text in which the first bar, if there is one, marks the seam. So a stored
text has a left part and, behind the bar, perhaps a right one (`Parts`), and what a query prints can
be told from these parts and from what its complement prints, without a count of characters
(`phraseText`). Filters and rhymes take the parts as one word.

On the way from the stored text to the output the seam is a number: the characters before the bar
are counted, the number is compared with nothing and with the length of the term, and it is turned
into a byte at which the term is cut. None of this is seen in print, whatever the characters are.

Main results:

* `Term.join_phrase`     — the units of a phrase make up the text of its parts.
* `Node.text_run_query` — what a query prints, and what filters and rhymes are given.
-/

namespace Wordweave

/-! ## Stored texts -/

/-- The parts of a stored text. There is a right one if there is a bar, and the left one holds no
bar. -/
inductive Parts : (marked left : String) → (right : Option String) → Prop
  | whole {text : String} (hleft : '|' ∉ text.toList) : Parts text text none
  | parted {left : String} (right : String) (hleft : '|' ∉ left.toList) :
      Parts (left ++ "|" ++ right) left (some right)

/-- The text of parts, and of a complement if there is one. A complement goes between two parts. If
the left one is empty it goes in front of the right one, and if there is no right one, or an empty
one, behind the left one. -/
def phraseText (left : String) (right inner : Option String) : String :=
  match right, inner with
  | none, none => left
  | none, some inner => left ++ " " ++ inner
  | some right, none => left ++ " " ++ right
  | some right, some inner =>
    if left = "" then inner ++ " " ++ right
    else if right = "" then left ++ " " ++ inner
    else left ++ " " ++ inner ++ " " ++ right

/-- Every text can be stored. -/
theorem exists_parts (marked : String) : ∃ left right, Parts marked left right := by
  by_cases hbar : '|' ∈ marked.toList
  · -- the left part reaches up to the first bar
    obtain ⟨left, right, hmarked, hleft⟩ := List.eq_append_cons_of_mem hbar
    have htext : marked = String.ofList left ++ "|" ++ String.ofList right := by
      rw [← String.toList_inj, hmarked]
      simp [String.toList_append]
    refine ⟨String.ofList left, some (String.ofList right), ?_⟩
    rw [htext]
    exact Parts.parted _ (by simpa using hleft)
  · exact ⟨marked, none, Parts.whole hbar⟩

/-! ## Phrases in print -/

theorem Term.join_phrase_whole (text : String) (inner : Option (List String)) :
    String.join ((Term.whole text).phrase inner) = phraseText text none (inner.map String.join) := by
  cases inner with
  | none => simp [Term.phrase, Term.whole, phraseText]
  | some units => simp [Term.phrase, Term.whole, phraseText, String.append_assoc]

theorem Term.join_phrase_split (left right : String) (inner : Option (List String)) :
    String.join ((Term.split (left ++ right) left.length).phrase inner) =
      phraseText left (some right) (inner.map String.join) := by
  -- the sides are the parts, and the seam is as far from the beginning as the left one is long
  have hseam := @Term.seam_split left right
  have hhalves := @Term.halves_split left right
  generalize hterm : Term.split (left ++ right) left.length = t at hseam hhalves ⊢
  have hvalue : t.value = left ++ right := by rw [← hterm, Term.split]
  have hleft : t.left = left := congrArg Prod.fst hhalves
  have hright : t.right = right := congrArg Prod.snd hhalves
  cases inner with
  | none => simp [Term.phrase, hseam, hleft, hright, phraseText, String.append_assoc]
  | some units =>
    rw [Option.map_some, phraseText]
    by_cases hempty : left = ""
    · -- the seam is at the beginning
      subst hempty
      have hzero : t.seam = some 0 := hseam
      unfold Term.phrase
      rw [if_pos rfl, hzero, hvalue, String.empty_append]
      simp [String.append_assoc]
    · -- the seam is not at the beginning, and at the end just if nothing comes after it
      obtain ⟨seam, hcount⟩ : ∃ seam, left.length = seam + 1 := by
        refine Nat.exists_eq_add_one.mpr (Nat.pos_of_ne_zero fun hzero => hempty ?_)
        exact String.length_eq_zero_iff.mp hzero
      have hend : seam + 1 = t.length ↔ right = "" := by
        rw [Term.length, hvalue, String.length_append, ← hcount, ← String.length_eq_zero_iff]
        omega
      rw [hcount] at hseam
      unfold Term.phrase
      rw [if_neg hempty, hseam]
      simp only [hend]
      by_cases hnone : right = ""
      · -- the seam is at the end, and the term is its left part
        subst hnone
        rw [if_pos rfl, if_pos rfl, hvalue, String.append_empty]
        simp [String.append_assoc]
      · rw [if_neg hnone, if_neg hnone, hleft, hright]
        simp [String.append_assoc]

/-- **Phrases.** The units of a phrase make up the text of the parts that are stored. -/
theorem Term.join_phrase {marked left : String} {right : Option String}
    (h : Parts marked left right) (inner : Option (List String)) :
    String.join ((Term.ofMarked marked).phrase inner) =
      phraseText left right (inner.map String.join) := by
  cases h with
  | whole hleft =>
    rw [Term.ofMarked_whole hleft]
    exact Term.join_phrase_whole _ inner
  | parted right hleft =>
    rw [Term.ofMarked_parted hleft]
    exact Term.join_phrase_split left right inner

/-- The value of a term is its parts in a row. -/
theorem Term.value_ofMarked {marked left : String} {right : Option String}
    (h : Parts marked left right) : (Term.ofMarked marked).value = left ++ right.getD "" := by
  cases h with
  | whole hleft =>
    rw [Term.ofMarked_whole hleft, Option.getD_none, String.append_empty]
    rfl
  | parted right hleft =>
    rw [Term.ofMarked_parted hleft, Option.getD_some]
    rfl

/-! ## Picks in print -/

/-- The text that is stored for a pick, in the column that its lookup asks for. -/
def Vocabulary.stored? (v : Vocabulary) (p : Pick) : Option String := do
  let t ← v.table? p.entry.table
  let column ← t.subtypeIndex? p.lookup.subtype
  let e ← t.entries[p.entry.index]?
  e.terms[column]?

theorem Vocabulary.term_of_stored? {v : Vocabulary} {q : Lookup} {s : Keystream} {m : Memory}
    {p : Pick} {marked : String} (hpick : v.picked? q s m = some p)
    (hstored : v.stored? p = some marked) : p.term = Term.ofMarked marked := by
  obtain ⟨-, t, column, e, hfits⟩ := fits_of_picked? hpick
  have hplace : e.terms[column]? = some marked := by
    rw [stored?, hfits.table?_eq] at hstored
    simpa [hfits.column, hfits.entry_eq] using hstored
  have hterm := hfits.term_eq
  rw [Entry.term?, hplace, Option.map_some] at hterm
  exact (Option.some.inj hterm).symm

theorem RunState.text_after (s : RunState) (e : Effect) :
    (s.after e).output.text = s.output.text ++ String.join e.units := by
  rw [Output.text, units_after, String.join_append, Output.text]

/-- The text that is printed behind nothing is that of the units. -/
theorem Node.text_run_empty (scene : Scene) (node : Node) (memory : Memory) (stream : Keystream) :
    (node.run scene ⟨.empty, memory, stream⟩).output.text =
      String.join (node.eval scene memory stream).units := by
  rw [Node.run_eq_after, RunState.text_after]
  exact String.empty_append

/-- A query that is answered prints the phrase of the term, around what its complement prints in the
memory and with the words that the answer leaves. -/
theorem Query.units_eval_of_term {v : Vocabulary} {catalog : Catalog} {q : Query} {m : Memory}
    {s : Keystream} {term : Term} (hterm : (v.answer q.toLookup s m).term = some term)
    (evaluate : Option (Memory → Keystream → Effect)) :
    (q.eval (.ofVocabulary (some v) catalog) evaluate m s).units =
      term.phrase (evaluate.map fun f =>
        (f (v.answer q.toLookup s m).memory (v.answer q.toLookup s m).stream).units) := by
  -- a lookup without a table is not answered
  have hname : q.name ≠ none := by
    intro hnone
    have hanswer : v.answer q.toLookup s m = ⟨none, s, m⟩ := by
      simp only [Vocabulary.answer, Vocabulary.answer?, hnone, Option.bind_none]
      rfl
    rw [hanswer] at hterm
    exact absurd hterm.symm (Option.some_ne_none term)
  simp only [Query.eval, Scene.ofVocabulary, Option.map_some, if_neg hname]
  generalize v.answer q.toLookup s m = answer at hterm ⊢
  obtain ⟨answered, stream, memory⟩ := answer
  obtain rfl : answered = some term := hterm
  cases evaluate <;> rfl

theorem Entry.term?_of_stored {e : Entry} {column : Nat} {marked : String}
    (h : e.terms[column]? = some marked) : e.term? column = some (Term.ofMarked marked) := by
  rw [Entry.term?, h, Option.map_some]

/-- **Seams in print.** Let a text be stored with some parts. A query that is answered by a pick for
which this text is stored prints the text of the parts, around the text that its complement prints by
itself in the memory and with the words that are left by the answer. Wherever the text is a
candidate, the filters are given the parts as one word, and so is the rhyme, which is looked for in
the parts of the anchor as one word. -/
theorem Node.text_run_query {marked left : String} {right : Option String}
    (hparts : Parts marked left right) :
    (∀ (v : Vocabulary) (catalog : Catalog) (location : Location) (q : Lookup)
      (complement : Option Node) (s : RunState) (p : Pick),
      v.picked? q s.stream s.memory = some p → v.stored? p = some marked →
        let scene := Scene.ofVocabulary (some v) catalog
        let answer := v.answer q s.stream s.memory
        let inner := complement.map fun node =>
          (node.run scene ⟨.empty, answer.memory, answer.stream⟩).output.text
        ((Node.query location q complement).run scene s).output.text =
          s.output.text ++ phraseText left right inner) ∧
    ∀ (t : Table) (column : Nat) (candidates : List Candidate),
      t.candidates? column = some candidates →
        ∀ c ∈ candidates, c.entry.terms[column]? = some marked →
          (∀ q : Lookup, q.passes c =
            q.filters.all (·.accepts (left ++ right.getD "") c.entry.classes)) ∧
          ∀ (anchor : Entry) (heard heardLeft : String) (heardRight : Option String),
            anchor.terms[min column (anchor.terms.length - 1)]? = some heard →
            Parts heard heardLeft heardRight →
              TieKind.rhyme.relates? column c anchor = some (decide
                (Sound.rime (left ++ right.getD "") =
                  Sound.rime (heardLeft ++ heardRight.getD ""))) := by
  constructor
  · intro v catalog location q complement s p hpick hstored scene answer inner
    have hterm : (v.answer q s.stream s.memory).term = some (Term.ofMarked marked) := by
      rw [Vocabulary.term_answer, hpick, Option.map_some,
        Vocabulary.term_of_stored? hpick hstored]
    have hunits := @Query.units_eval_of_term v catalog ⟨q, complement⟩ _ _ _ hterm
      (complement.map (·.eval scene))
    -- the complement prints its units wherever it is run
    have hinner : (complement.map (·.eval scene)).map
          (fun evaluate => String.join (evaluate answer.memory answer.stream).units) = inner := by
      rw [Option.map_map]
      exact congrArg (complement.map ·) (funext fun node =>
        (Node.text_run_empty scene node answer.memory answer.stream).symm)
    rw [Node.run_eq_after, RunState.text_after, Node.eval_query, hunits, Term.join_phrase hparts,
      Option.map_map]
    exact congrArg (fun inner => s.output.text ++ phraseText left right inner) hinner
  · intro t column candidates hcandidates c hc hstored
    -- tests are made of the value, and the value has no seam
    have hvalue := Term.value_ofMarked hparts
    have hterm : c.term = Term.ofMarked marked := by
      have hmade := (Table.of_mem_candidates? hcandidates hc).2
      rw [Entry.term?_of_stored hstored] at hmade
      exact (Option.some.inj hmade).symm
    refine ⟨fun q => ?_, ?_⟩
    · rw [Lookup.passes, hterm, hvalue]
    · intro anchor heard heardLeft heardRight hheard hheardParts
      have hanchor := Entry.term?_of_stored hheard
      have hother := Term.value_ofMarked hheardParts
      simp only [TieKind.relates?, hanchor, hterm, Option.bind_eq_bind, Option.bind_some,
        Sound.rime?_eq]
      rw [hvalue, hother]
      refine congrArg some (Bool.eq_iff_iff.mpr ?_)
      rw [beq_iff_eq, decide_eq_true_iff, String.toList_inj]

/-- A complement is put between the parts, and a filter counts the syllables of the parts. -/
theorem Node.text_run_query_look :
    let e : Entry := ⟨["look|up"], []⟩
    let t : Table := ⟨"verb", Table.standardSubtypes, [e]⟩
    let look : Candidate := ⟨0, e, .ofMarked "look|up"⟩
    let q : Lookup := .tied "verb" []
    let s : RunState := .start 0
    ((Node.query .origin q (some (.text .origin "it"))).run
        (.ofVocabulary (some ⟨[t]⟩) .english) s).output.text = "look it up" ∧
      ∀ filters, ({ q with filters } : Lookup).passes look =
        filters.all (·.accepts "lookup" []) := by
  intro e t look q s
  have hbar : "look|up" = "look" ++ "|" ++ "up" := by decide
  have hparts : Parts "look|up" "look" (some "up") := hbar ▸ Parts.parted "up" (by decide)
  obtain ⟨hprints, hgiven⟩ := Node.text_run_query hparts
  constructor
  · have hpick : Vocabulary.picked? ⟨[t]⟩ q s.stream s.memory =
        some ⟨q, ⟨"verb", 0⟩, .ofMarked "look|up", false⟩ := by
      decide +kernel
    have htext := hprints ⟨[t]⟩ .english .origin q (some (.text .origin "it")) s _ hpick rfl
    rw [htext]
    decide +kernel
  · intro filters
    have hcandidates : t.candidates? 0 = some [look] := rfl
    obtain ⟨hpasses, -⟩ := hgiven t 0 [look] hcandidates look List.mem_cons_self rfl
    exact hpasses { q with filters }

end Wordweave
