import Mathlib.Data.List.Forall2
import Wordweave.Proofs.Run.Confinement

/-!
# Wordweave — two runs side by side

Two trees of one form that differ in their lookups only can be run next to each other, each with a
vocabulary of its own. The runs keep step if every pair of lookups does: they are answered the same
term out of the same random words, and the memories that they leave are related as those that they
found (`Keeps`). Then both trees print the same units and take the same random words, and the
memories stay related to the end.

What the memories have to do with each other is left open. It is a relation that each pair of
lookups must keep, and the trees do nothing to a memory but what their lookups do.

Main result:

* `Node.run_related` — two trees whose lookups keep a relation of memories run alike.
-/

namespace Wordweave

/-- Trees of one form, whose lookups are related in pairs. -/
inductive Node.Related (L : Lookup → Lookup → Prop) : Node → Node → Prop
  | text (location : Location) (content : String) :
      Related L (.text location content) (.text location content)
  | sequence {location : Location} {children children' : List Node}
      (hchildren : List.Forall₂ (Related L) children children') :
      Related L (.sequence location children) (.sequence location children')
  | query {location : Location} {lookup lookup' : Lookup} {complement complement' : Option Node}
      (hlookup : L lookup lookup') (hcomplement : Option.Rel (Related L) complement complement') :
      Related L (.query location lookup complement) (.query location lookup' complement')

/-- The same is answered and the same words are left, and the memories are related. -/
structure Answer.Related (R : Memory → Memory → Prop) (a a' : Answer) : Prop where
  term : a.term = a'.term
  stream : a.stream = a'.stream
  memory : R a.memory a'.memory

/-- The same is printed and the same words are left, and the memories are related. -/
structure Effect.Related (R : Memory → Memory → Prop) (e e' : Effect) : Prop where
  units : e.units = e'.units
  stream : e.stream = e'.stream
  memory : R e.memory e'.memory

/-- Two lookups, each in a vocabulary of its own, do the same in memories that are related, and keep
them so. -/
structure Keeps (R : Memory → Memory → Prop) (v v' : Vocabulary) (q q' : Lookup) : Prop where
  erase_iff : q.name = none ↔ q'.name = none
  removeAll {m m' : Memory} (h : R m m') : R (m.removeAll q.ties) (m'.removeAll q'.ties)
  answer {m m' : Memory} (h : R m m') (s : Keystream) :
    (v.answer q s m).Related R (v'.answer q' s m')

/-- Two evaluations have related effects in related memories. -/
structure Alongside (R : Memory → Memory → Prop)
    (evaluate evaluate' : Memory → Keystream → Effect) : Prop where
  related {m m' : Memory} (h : R m m') (s : Keystream) :
    (evaluate m s).Related R (evaluate' m' s)

variable {R : Memory → Memory → Prop}

namespace Alongside

theorem const (units : List String) :
    Alongside R (fun m s => ⟨units, m, s⟩) (fun m s => ⟨units, m, s⟩) :=
  ⟨fun h _ => ⟨rfl, rfl, h⟩⟩

/-- One evaluation after the other. -/
theorem andThen {first first' others others' : Memory → Keystream → Effect}
    (h : Alongside R first first') (h' : Alongside R others others') :
    Alongside R
      (fun m s =>
        let e := first m s
        let f := others e.memory e.stream
        ⟨e.units ++ f.units, f.memory, f.stream⟩)
      (fun m s =>
        let e := first' m s
        let f := others' e.memory e.stream
        ⟨e.units ++ f.units, f.memory, f.stream⟩) := by
  constructor
  intro m m' hm s
  obtain ⟨hunits, hstream, hmemory⟩ := h.related hm s
  -- the others go on with the words that the first has left
  have hothers := h'.related hmemory (first m s).stream
  dsimp only
  rw [← hunits, ← hstream, hothers.units]
  exact ⟨rfl, hothers.stream, hothers.memory⟩

end Alongside

theorem Answer.Related.effect {a a' : Answer} (h : a.Related R a')
    {complement complement' : Option (Memory → Keystream → Effect)}
    (hcomplement : Option.Rel (Alongside R) complement complement') :
    (a.effect complement).Related R (a'.effect complement') := by
  obtain ⟨term, stream, memory⟩ := a
  obtain ⟨term', stream', memory'⟩ := a'
  obtain ⟨rfl, rfl, hmemory⟩ := h
  cases term with
  | none => exact ⟨rfl, rfl, hmemory⟩
  | some term =>
    -- a complement is evaluated only if there is a term for it to stand in
    cases hcomplement with
    | none => exact ⟨rfl, rfl, hmemory⟩
    | some hevaluate =>
      have hinner := hevaluate.related hmemory stream
      exact ⟨congrArg (term.phrase <| some ·) hinner.units, hinner.stream, hinner.memory⟩

/-- Two lookups for the same column of the same table have related answers if they pick the same place
from it, and if memories in which an entry of this table is recorded are related. -/
theorem Vocabulary.related_answer {v v' : Vocabulary} {q q' : Lookup} {m m' : Memory}
    {s : Keystream} (htable : q.name.bind v.table? = q'.name.bind v'.table?)
    (hsubtype : q.subtype = q'.subtype)
    (hpick : ∀ t column, v.pick? q t column s m = v'.pick? q' t column s m') (hmemory : R m m')
    (hrecord : ∀ t index, q.name.bind v.table? = some t →
      R (m.recordAll ⟨t.name, index⟩ q.ties) (m'.recordAll ⟨t.name, index⟩ q'.ties)) :
    (v.answer q s m).Related R (v'.answer q' s m') := by
  unfold answer answer?
  rw [← htable, ← hsubtype]
  -- nothing is recorded unless all goes well, and then an entry of the table is
  cases ht : q.name.bind v.table? with
  | none => exact ⟨rfl, rfl, hmemory⟩
  | some t =>
    dsimp only
    cases t.subtypeIndex? q.subtype with
    | none => exact ⟨rfl, rfl, hmemory⟩
    | some column =>
      dsimp only
      rw [hpick t column]
      rcases v'.pick? q' t column s m' with _ | ⟨_ | index, left⟩
      · exact ⟨rfl, rfl, hmemory⟩
      · exact ⟨rfl, rfl, hmemory⟩
      · dsimp only
        cases t.entries[index]? with
        | none => exact ⟨rfl, rfl, hmemory⟩
        | some e =>
          dsimp only [Option.bind_eq_bind, Option.bind_some]
          cases e.term? column with
          | none => exact ⟨rfl, rfl, hmemory⟩
          | some term => exact ⟨rfl, rfl, hrecord t index ht⟩

section Trees

variable {v v' : Vocabulary} {catalog : Catalog}

theorem Query.alongside_eval {q q' : Query} (h : Keeps R v v' q.toLookup q'.toLookup)
    {complement complement' : Option (Memory → Keystream → Effect)}
    (hcomplement : Option.Rel (Alongside R) complement complement') :
    Alongside R (q.eval (.ofVocabulary (some v) catalog) complement)
      (q'.eval (.ofVocabulary (some v') catalog) complement') := by
  constructor
  intro m m' hm s
  rw [eval_ofVocabulary, eval_ofVocabulary]
  -- both queries erase, or both go by their answers
  by_cases hname : q.name = none
  · rw [if_pos hname, if_pos (h.erase_iff.mp hname)]
    exact ⟨rfl, rfl, h.removeAll hm⟩
  · rw [if_neg hname, if_neg (mt h.erase_iff.mpr hname)]
    exact (h.answer hm s).effect hcomplement

variable {L : Lookup → Lookup → Prop}

mutual

/-- **Trees** whose lookups keep a relation of memories keep it. -/
theorem Node.alongside_eval (hkeeps : ∀ {q q'}, L q q' → Keeps R v v' q q') :
    ∀ {node node' : Node}, node.Related L node' →
    Alongside R (node.eval (.ofVocabulary (some v) catalog))
      (node'.eval (.ofVocabulary (some v') catalog))
  | .text _ content, _, .text _ _ => by
    rw [eval, eval]
    exact .const [content]
  | .sequence _ children, _, .sequence hchildren => by
    rw [eval, eval]
    exact Node.alongside_evalAll hkeeps hchildren
  | .query _ lookup none, _, .query hlookup .none => by
    rw [eval, eval]
    exact Query.alongside_eval (hkeeps hlookup) .none
  | .query _ lookup (some complement), _, .query hlookup (.some hcomplement) => by
    rw [eval, eval]
    exact Query.alongside_eval (hkeeps hlookup) (.some (Node.alongside_eval hkeeps hcomplement))

theorem Node.alongside_evalAll (hkeeps : ∀ {q q'}, L q q' → Keeps R v v' q q') :
    ∀ {nodes nodes' : List Node}, List.Forall₂ (Node.Related L) nodes nodes' →
    Alongside R (Node.evalAll (.ofVocabulary (some v) catalog) nodes)
      (Node.evalAll (.ofVocabulary (some v') catalog) nodes')
  | [], _, .nil => by
    rw [Node.evalAll, Node.evalAll]
    exact .const []
  | node :: rest, _, .cons hnode hrest => by
    rw [Node.evalAll, Node.evalAll]
    exact (Node.alongside_eval hkeeps hnode).andThen (Node.alongside_evalAll hkeeps hrest)

end

/-- **Runs.** Two trees whose lookups keep a relation of memories print the same, take the same random
words, and leave memories that are related. -/
theorem Node.run_related (hkeeps : ∀ {q q'}, L q q' → Keeps R v v' q q') {root root' : Node}
    (hroot : root.Related L root') {s s' : RunState}
    (houtput : s.output = s'.output) (hstream : s.stream = s'.stream)
    (hmemory : R s.memory s'.memory) :
    let t := root.run (.ofVocabulary (some v) catalog) s
    let t' := root'.run (.ofVocabulary (some v') catalog) s'
    t.output = t'.output ∧ t.stream = t'.stream ∧ R t.memory t'.memory := by
  have hroots : Alongside R (root.eval (.ofVocabulary (some v) catalog))
      (root'.eval (.ofVocabulary (some v') catalog)) := Node.alongside_eval hkeeps hroot
  have heffect := hroots.related hmemory s.stream
  rw [Node.run_eq_after, Node.run_eq_after, ← hstream]
  refine ⟨?_, heffect.stream, heffect.memory⟩
  rw [RunState.after, RunState.after, heffect.units, houtput]

end Trees

end Wordweave
