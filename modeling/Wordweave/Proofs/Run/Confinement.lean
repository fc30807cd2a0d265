import Wordweave.Proofs.Carrier.Normal
import Wordweave.Proofs.Run.Evaluation
import Wordweave.Proofs.Run.Journal
import Wordweave.Proofs.Vocabulary.Agreement

/-!
# Wordweave — what a tree can touch

A tree names some ties: those that the carriers of its queries list, with the carriers of their
complements and of the queries that erase. Nothing else in the memory concerns it. This is meant in
two ways: what is remembered under other ties stays as it is, and it does not matter what it is.

The second is a statement about two runs. Where two memories agree on the ties of a tree, the tree
prints the same units in both, leaves the same random words, and leaves memories that again agree
on its ties. They need not agree on anything else.

Both are kept by each query (`Query.confined_eval`), and so by a tree (`Node.confined_eval`). The
ties stay those of the whole tree throughout, since a query that ends leaves its memory to the
trees after it.

Main result:

* `Node.run_confined` — a run reads and writes the ties that its tree names, and no others.
-/

namespace Wordweave

/-! ## The ties of a tree -/

/-- The ties that the carriers of a tree name. -/
def Node.ties (node : Node) : List Tie := node.carriers.flatMap (·.ties)

theorem Node.ties_sequence (location : Location) (children : List Node) :
    (Node.sequence location children).ties = children.flatMap ties := by
  rw [ties, carriers, carriersAll_eq_flatMap, List.flatMap_assoc]
  rfl

/-- The ties of a query are its own and those of its complement. -/
theorem Node.ties_query (location : Location) (lookup : Lookup) (complement : Option Node) :
    (Node.query location lookup complement).ties =
      lookup.ties ++ complement.toList.flatMap ties := by
  have hlookup : lookup.carrier.toList.flatMap (·.ties) = lookup.ties := by
    unfold Lookup.ties
    cases lookup.carrier with
    | none => rfl
    | some carrier => simp
  rw [ties, carriers_query, List.flatMap_append, hlookup, List.flatMap_assoc]
  rfl

/-! ## Confined evaluations -/

/-- Two effects are the same as far as some ties are concerned. -/
structure Effect.Agree (ties : List Tie) (e e' : Effect) : Prop where
  units : e.units = e'.units
  memory : e.memory.Agree ties e'.memory
  stream : e.stream = e'.stream

/-- An evaluation that reads and writes what is remembered under some ties, and nothing else. -/
structure Confined (ties : List Tie) (evaluate : Memory → Keystream → Effect) : Prop where
  agree {m m' : Memory} (h : m.Agree ties m') (s : Keystream) :
    (evaluate m s).Agree ties (evaluate m' s)
  kept {tie : Tie} (h : tie ∉ ties) (m : Memory) (s : Keystream) :
    (evaluate m s).memory.get? tie = m.get? tie

namespace Confined

variable {ties : List Tie}

/-- What leaves the memory as it is. -/
theorem const (units : List String) : Confined ties fun m s => ⟨units, m, s⟩ where
  agree h _ := ⟨rfl, h, rfl⟩
  kept _ _ _ := rfl

/-- One evaluation after the other. -/
theorem andThen {first others : Memory → Keystream → Effect} (h : Confined ties first)
    (h' : Confined ties others) :
    Confined ties fun m s =>
      let e := first m s
      let f := others e.memory e.stream
      ⟨e.units ++ f.units, f.memory, f.stream⟩ where
  agree {m m'} hm s := by
    obtain ⟨hunits, hmemory, hstream⟩ := h.agree hm s
    -- the others begin with the same words in both runs
    have hothers := h'.agree hmemory (first m s).stream
    dsimp only
    rw [← hunits, ← hstream, hothers.units]
    exact ⟨rfl, hothers.memory, hothers.stream⟩
  kept htie m s := by
    dsimp only
    rw [h'.kept htie, h.kept htie]

end Confined

/-! ## Answers -/

/-- What a query prints and leaves once it has been answered. -/
def Answer.effect (a : Answer) (complement : Option (Memory → Keystream → Effect)) : Effect :=
  match a, complement with
  | ⟨none, stream, memory⟩, _ => ⟨["[No Match]"], memory, stream⟩
  | ⟨some term, stream, memory⟩, none => ⟨term.phrase none, memory, stream⟩
  | ⟨some term, stream, memory⟩, some evaluate =>
    let inner := evaluate memory stream
    ⟨term.phrase (some inner.units), inner.memory, inner.stream⟩

section Answers

variable {ties : List Tie} {complement : Option (Memory → Keystream → Effect)}

/-- The phrase is the same if the term and the units of its complement are. -/
theorem Answer.agree_effect {a a' : Answer} (hterm : a.term = a'.term)
    (hstream : a.stream = a'.stream) (hmemory : a.memory.Agree ties a'.memory)
    (hcomplement : ∀ evaluate ∈ complement, Confined ties evaluate) :
    (a.effect complement).Agree ties (a'.effect complement) := by
  obtain ⟨term, stream, memory⟩ := a
  obtain ⟨term', stream', memory'⟩ := a'
  obtain rfl : term = term' := hterm
  obtain rfl : stream = stream' := hstream
  cases term with
  | none => exact ⟨rfl, hmemory, rfl⟩
  | some term =>
    cases complement with
    | none => exact ⟨rfl, hmemory, rfl⟩
    | some evaluate =>
      have hinner := (hcomplement evaluate rfl).agree hmemory stream
      exact ⟨congrArg (term.phrase <| some ·) hinner.units, hinner.memory, hinner.stream⟩

/-- What is left under a tie that the complement does not concern is what the answer left there. -/
theorem Answer.kept_effect {a : Answer} {tie : Tie} (htie : tie ∉ ties)
    (hcomplement : ∀ evaluate ∈ complement, Confined ties evaluate) :
    (a.effect complement).memory.get? tie = a.memory.get? tie := by
  obtain ⟨term, stream, memory⟩ := a
  cases term with
  | none => rfl
  | some term =>
    cases complement with
    | none => rfl
    | some evaluate => exact (hcomplement evaluate rfl).kept htie memory stream

end Answers

/-! ## Queries and trees -/

section Trees

variable {vocabulary : Option Vocabulary} {catalog : Catalog} {ties : List Tie}

/-- With a vocabulary, a query erases or goes by its answer. -/
theorem Query.eval_ofVocabulary (v : Vocabulary) (q : Query)
    (complement : Option (Memory → Keystream → Effect)) (m : Memory) (s : Keystream) :
    q.eval (.ofVocabulary (some v) catalog) complement m s =
      if q.name = none then ⟨[], m.removeAll q.ties, s⟩
      else (v.answer q.toLookup s m).effect complement :=
  rfl

/-- **A query** is confined to its ties and those of its complement. -/
theorem Query.confined_eval {q : Query} {complement : Option (Memory → Keystream → Effect)}
    (hties : ∀ tie ∈ q.ties, tie ∈ ties)
    (hcomplement : ∀ evaluate ∈ complement, Confined ties evaluate) :
    Confined ties (q.eval (.ofVocabulary vocabulary catalog) complement) := by
  cases vocabulary with
  | none => exact .const _
  | some v =>
    by_cases hname : q.name = none
    · -- the query erases, and its complement is not evaluated
      constructor
      · intro m m' h s
        rw [eval_ofVocabulary, eval_ofVocabulary, if_pos hname, if_pos hname]
        exact ⟨rfl, h.removeAll q.ties, rfl⟩
      · intro tie htie m s
        rw [eval_ofVocabulary, if_pos hname, Memory.get?_removeAll,
          if_neg fun hmem => htie (hties tie hmem)]
    · -- what is read for the answer and what it records are its own ties
      constructor
      · intro m m' h s
        have hq := h.mono hties
        obtain ⟨hterm, hstream⟩ := v.answer_of_agree hq s
        rw [eval_ofVocabulary, eval_ofVocabulary, if_neg hname, if_neg hname]
        exact Answer.agree_effect hterm hstream (v.agree_answer hq h s) hcomplement
      · intro tie htie m s
        rw [eval_ofVocabulary, if_neg hname, Answer.kept_effect htie hcomplement,
          Vocabulary.get?_memory_answer fun hmem => htie (hties tie hmem)]

mutual

/-- **A tree** is confined to any ties that include its own. -/
theorem Node.confined_eval : ∀ node : Node, (∀ tie ∈ node.ties, tie ∈ ties) →
    Confined ties (node.eval (.ofVocabulary vocabulary catalog))
  | .text _ content, _ => by
    rw [Node.eval]
    exact .const [content]
  | .sequence _ children, h => by
    rw [Node.eval]
    refine Node.confined_evalAll children fun child hchild tie htie => h tie ?_
    rw [Node.ties_sequence]
    exact List.mem_flatMap_of_mem hchild htie
  | .query _ lookup none, h => by
    rw [Node.eval]
    refine Query.confined_eval (fun tie htie => h tie ?_) (fun _ hnone => nomatch hnone)
    rw [Node.ties_query]
    exact List.mem_append_left _ htie
  | .query _ lookup (some complement), h => by
    rw [Node.ties_query] at h
    rw [Node.eval]
    have hcomplement : Confined ties (complement.eval (.ofVocabulary vocabulary catalog)) := by
      refine Node.confined_eval complement fun tie htie => h tie ?_
      exact List.mem_append_right _ (List.mem_flatMap_of_mem (List.mem_singleton_self _) htie)
    refine Query.confined_eval (fun tie htie => h tie (List.mem_append_left _ htie)) ?_
    intro evaluate hevaluate
    obtain rfl := Option.some.inj hevaluate
    exact hcomplement

theorem Node.confined_evalAll : ∀ nodes : List Node,
    (∀ node ∈ nodes, ∀ tie ∈ node.ties, tie ∈ ties) →
    Confined ties (Node.evalAll (.ofVocabulary vocabulary catalog) nodes)
  | [], _ => by
    rw [Node.evalAll]
    exact .const []
  | node :: rest, h => by
    obtain ⟨hnode, hrest⟩ := List.forall_mem_cons.mp h
    rw [Node.evalAll]
    exact (Node.confined_eval node hnode).andThen (Node.confined_evalAll rest hrest)

end

/-! ## Runs -/

/-- **Confinement.** Run a tree in two states that have the same random words left and whose
memories agree on the ties of the tree; they may differ in all else. The same units are printed, the
same random words are left, and the memories still agree on the ties of the tree. In both states,
what is remembered under any other tie stays as it is. -/
theorem Node.run_confined (vocabulary : Option Vocabulary) (catalog : Catalog) (root : Node)
    {s s' : RunState} (hstream : s.stream = s'.stream)
    (hmemory : s.memory.Agree root.ties s'.memory) :
    let scene := Scene.ofVocabulary vocabulary catalog
    let t := root.run scene s
    let t' := root.run scene s'
    (∃ units, t.output.units = s.output.units ++ units ∧
      t'.output.units = s'.output.units ++ units) ∧
    t.stream = t'.stream ∧
    t.memory.Agree root.ties t'.memory ∧
    ∀ tie ∉ root.ties, t.memory.get? tie = s.memory.get? tie ∧
      t'.memory.get? tie = s'.memory.get? tie := by
  intro scene t t'
  have hconfined : Confined root.ties (root.eval scene) := root.confined_eval fun _ htie => htie
  have heffect := hconfined.agree hmemory s.stream
  have ht : t = s.after (root.eval scene s.memory s.stream) := root.run_eq_after scene s
  have ht' : t' = s'.after (root.eval scene s'.memory s.stream) := by
    rw [hstream]
    exact root.run_eq_after scene s'
  rw [ht, ht']
  refine ⟨⟨(root.eval scene s.memory s.stream).units, ?_, ?_⟩, heffect.stream, heffect.memory, ?_⟩
  · exact s.units_after _
  · rw [RunState.units_after, heffect.units]
  · intro tie htie
    exact ⟨hconfined.kept htie .., hconfined.kept htie ..⟩

end Trees

/-- A noun under a name of kind `unique`, where a cat and an eel have been used in either order, and
where only one of the memories knows anything of another name. -/
theorem Node.run_confined_whale :
    let once : Tie := ⟨.unique, "once"⟩
    let other : Tie := ⟨.matching, "other"⟩
    let root : Node := .tied "noun" [once]
    let cat : EntryRef := ⟨"noun", 0⟩
    let eel : EntryRef := ⟨"noun", 1⟩
    let s : RunState := ⟨.empty, (Memory.empty.record cat once).record eel once, .ofSeed 0⟩
    let s' : RunState :=
      ⟨.empty, ((Memory.empty.record eel once).record cat once).record eel other, .ofSeed 0⟩
    let scene := Scene.ofVocabulary (some menagerie) .english
    s.memory.Agree root.ties s'.memory ∧ (root.run scene s).output.units = ["whale"] ∧
      (root.run scene s').output.units = ["whale"] ∧
      (root.run scene s).memory.Agree root.ties (root.run scene s').memory ∧
      (root.run scene s).memory.get? other = none ∧
      (root.run scene s').memory.get? other = some (.anchor eel) := by
  intro once other root cat eel s s' scene
  have hties : root.ties = [once] := by decide +kernel
  have hused : s.memory.get? once = some (.used [cat, eel]) := by decide +kernel
  have hused' : s'.memory.get? once = some (.used [eel, cat]) := by decide +kernel
  have hagree : s.memory.Agree root.ties s'.memory := by
    intro tie htie
    rw [hties, List.mem_singleton] at htie
    rw [htie, hused, hused']
    exact .some (.used fun ref => by simp [or_comm])
  have hother : other ∉ root.ties := by rw [hties]; decide
  have hstream : s.stream = s'.stream := rfl
  obtain ⟨⟨units, hunits, hunits'⟩, -, hafter, hkept⟩ :=
    Node.run_confined (some menagerie) .english root hstream hagree
  have hwhale : (root.run scene s).output.units = ["whale"] := by decide +kernel
  have hsame : (root.run scene s').output.units = (root.run scene s).output.units :=
    hunits'.trans hunits.symm
  refine ⟨hagree, hwhale, hsame.trans hwhale, hafter, ?_, ?_⟩
  · exact (hkept other hother).1.trans (by decide +kernel)
  · exact (hkept other hother).2.trans (by decide +kernel)

end Wordweave
